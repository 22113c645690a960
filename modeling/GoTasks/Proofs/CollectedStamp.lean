import GoTasks.Proofs.LinkerFlags
import GoTasks.Proofs.Pieces
import GoTasks.Proofs.Trimming

/-!
# Collected stamps

Collecting a stamp is asking five questions, for the time, the version file and the three probes of
git, and deciding each value from the answers. Whatever the answers are, the values are clean: the
version is a single line, and no value begins or ends with a blank. A question that is not answered
leaves its own value empty and changes nothing else. The probe for changes has no value of its own.
It decides for both commits alike whether they are marked, and it never marks an empty one.

The date is known always and holds no blanks, so the linker flags of a collected stamp end with it.
-/

namespace GoTasks

open Text Text.Utf8

/-! ## Dates -/

namespace Instant

theorem hasBlank_toString (n : Nat) : hasBlank (toString n) = false := by
  rw [hasBlank, List.any_eq_false, Nat.toString_eq_repr, Nat.repr_eq_ofList_toDigits,
    String.toList_ofList]
  intro c member blank
  have digit : c.isDigit = true := Nat.isDigit_of_mem_toDigits (by decide) (by decide) member
  have between : 48 ≤ c.toNat ∧ c.toNat ≤ 57 := by
    simpa [Char.isDigit, UInt32.le_iff_toNat_le] using digit
  simp only [isBlank, inRanges, blankRanges, List.any_cons, List.any_nil, Bool.or_false,
    Bool.or_eq_true, Bool.and_eq_true, decide_eq_true_eq] at blank
  omega

theorem hasBlank_pushn (n : Nat) : hasBlank ("".pushn '0' n) = false := by
  induction n with
  | zero => rfl
  | succ n ih =>
      have pushed : "".pushn '0' (n + 1) = ("".pushn '0' n).push '0' := rfl
      rw [hasBlank, pushed, String.toList_push, List.any_append]
      rw [hasBlank] at ih
      rw [ih]
      rfl

theorem hasBlank_padded (width n : Nat) : hasBlank (padded width n) = false := by
  rw [padded, hasBlank_append, hasBlank_pushn, hasBlank_toString]
  rfl

theorem hasBlank_yearText (year : Int) : hasBlank (yearText year) = false := by
  unfold yearText
  split
  · exact hasBlank_padded 4 _
  · rw [hasBlank_append, hasBlank_padded]
    split <;> rfl

/-- A date is written without blanks. -/
theorem hasBlank_text (i : Instant) : hasBlank i.text = false := by
  have solid : hasBlank "-" = false ∧ hasBlank "T" = false ∧ hasBlank ":" = false ∧
      hasBlank "Z" = false := by
    decide
  simp only [text, hasBlank_append, hasBlank_padded, hasBlank_yearText, solid, Bool.or_false]

theorem text_ne_empty (i : Instant) : i.text ≠ "" := by
  unfold text
  intro empty
  have last := (String.append_eq_empty_iff.mp empty).2
  exact absurd last (by decide)

end Instant

namespace Stamp

/-! ## The version -/

/-- The version that the content of a version file gives: its first line without the blanks at both
ends, and nothing if the file is not read or not a text. -/
structure FirstLineOf (content : Except SystemError Bytes) (value : String) : Prop where
  unread : (∀ text, content ≠ .ok (encode text)) → value = ""
  read : ∀ line, '\n' ∉ line.toList →
    (content = .ok (encode line) ∨ ∃ rest, content = .ok (encode (line ++ "\n" ++ rest))) →
      TrimsTo line value
  single : '\n' ∉ value.toList
  trimmed : IsTrimmed value

theorem firstLine_of_not_mem {line : List Char} (single : '\n' ∉ line) : firstLine line = line := by
  rw [firstLine, List.takeWhile_eq_self_iff]
  intro c member
  have different : c ≠ '\n' := fun same => single (same ▸ member)
  simpa using different

theorem firstLine_append {line : List Char} (single : '\n' ∉ line) (rest : List Char) :
    firstLine (line ++ '\n' :: rest) = line := by
  have before : ∀ c ∈ line, decide (c ≠ '\n') = true := by
    intro c member
    have different : c ≠ '\n' := fun same => single (same ▸ member)
    simpa using different
  rw [firstLine, List.takeWhile_append_of_pos before, List.takeWhile_cons_of_neg (by simp),
    List.append_nil]

theorem versionOf_encode (text : String) :
    versionOf (.ok (encode text)) = trim (String.ofList (firstLine text.toList)) := by
  have read : decode? (encode text) = some text := decode?_eq_some_iff.mpr rfl
  simp only [versionOf, read, trim, String.toList_ofList]

/-- The version is the first line, whether anything follows it or not. -/
theorem versionOf_line {line : String} (single : '\n' ∉ line.toList) :
    versionOf (.ok (encode line)) = trim line ∧
      ∀ rest, versionOf (.ok (encode (line ++ "\n" ++ rest))) = trim line := by
  constructor
  · rw [versionOf_encode, firstLine_of_not_mem single, String.ofList_toList]
  · intro rest
    have first : firstLine (line ++ "\n" ++ rest).toList = line.toList := by
      rw [String.toList_append, String.toList_append, List.append_assoc]
      exact firstLine_append single rest.toList
    rw [versionOf_encode, first, String.ofList_toList]

theorem versionOf_of_unread {content : Except SystemError Bytes}
    (unread : ∀ text, content ≠ .ok (encode text)) : versionOf content = "" := by
  cases content with
  | error e => rfl
  | ok bytes =>
      cases read : decode? bytes with
      | none => simp only [versionOf, read]
      | some text =>
          obtain rfl := decode?_eq_some_iff.mp read
          exact absurd rfl (unread text)

/-- A version is always a single line without the blanks at both ends. -/
theorem exists_line (content : Except SystemError Bytes) :
    ∃ line, '\n' ∉ line.toList ∧ versionOf content = trim line := by
  by_cases unread : ∀ text, content ≠ .ok (encode text)
  · exact ⟨"", List.not_mem_nil, versionOf_of_unread unread⟩
  · simp only [ne_eq, not_forall, not_not] at unread
    obtain ⟨text, rfl⟩ := unread
    refine ⟨String.ofList (firstLine text.toList), ?_, versionOf_encode text⟩
    intro member
    rw [String.toList_ofList] at member
    have before := List.mem_takeWhile_imp member
    exact absurd before (by decide)

theorem firstLineOf_versionOf (content : Except SystemError Bytes) :
    FirstLineOf content (versionOf content) := by
  obtain ⟨line, single, version⟩ := exists_line content
  refine ⟨versionOf_of_unread, ?_, ?_, ?_⟩
  · intro line single given
    obtain ⟨alone, followed⟩ := versionOf_line single
    rcases given with rfl | ⟨rest, rfl⟩
    · rw [alone]
      exact trimsTo_trim line
    · rw [followed]
      exact trimsTo_trim line
  · rw [version]
    exact fun member => single (mem_of_mem_trim member)
  · rw [version]
    exact isTrimmed_trim line

/-! ## The commits -/

/-- Whether a probe succeeded and said anything but blanks. -/
def Speaks (probe : ProbeResult) : Prop :=
  ∃ status output, probe = .ok (status, output) ∧ status.isSuccess = true ∧
    isBlankText (lossy output) = false

/-- The commit that a probe gives: what it said without the blanks at both ends, marked if the probe
for changes said anything, and nothing if it said nothing. -/
structure CommitOf (changes probe : ProbeResult) (value : String) : Prop where
  empty_iff : value = "" ↔ ¬ Speaks probe
  said : ∀ status output, probe = .ok (status, output) → status.isSuccess = true →
    isBlankText (lossy output) = false →
      ∃ said, TrimsTo (lossy output) said ∧ (Speaks changes → value = said ++ "-dirty") ∧
        (¬ Speaks changes → value = said)
  trimmed : IsTrimmed value

theorem answer?_eq_some_iff {probe : ProbeResult} {said : String} :
    answer? probe = some said ↔
      ∃ status output, probe = .ok (status, output) ∧ status.isSuccess = true ∧
        isBlankText (lossy output) = false ∧ said = trim (lossy output) := by
  rcases probe with e | ⟨status, output⟩
  · constructor
    · intro answered
      cases answered
    · rintro ⟨status, output, failed, -⟩
      cases failed
  · have blank : (trim (lossy output)).isEmpty = isBlankText (lossy output) := by
      rw [Bool.eq_iff_iff, String.isEmpty_iff]
      exact trim_eq_empty_iff
    simp only [answer?, blank]
    constructor
    · intro answered
      split at answered
      · next succeeded =>
        split at answered
        · cases answered
        · next some_said =>
          exact ⟨status, output, rfl, succeeded, Bool.eq_false_iff.mpr some_said,
            (Option.some.inj answered).symm⟩
      · cases answered
    · rintro ⟨_, _, ⟨⟩, succeeded, some_said, rfl⟩
      rw [if_pos succeeded, if_neg (Bool.eq_false_iff.mp some_said)]

theorem isSome_answer?_iff {probe : ProbeResult} :
    (answer? probe).isSome = true ↔ Speaks probe := by
  rw [Option.isSome_iff_exists]
  constructor
  · rintro ⟨said, answered⟩
    obtain ⟨status, output, gave, succeeded, some_said, -⟩ := answer?_eq_some_iff.mp answered
    exact ⟨status, output, gave, succeeded, some_said⟩
  · rintro ⟨status, output, gave, succeeded, some_said⟩
    exact ⟨_, answer?_eq_some_iff.mpr ⟨status, output, gave, succeeded, some_said, rfl⟩⟩

theorem answer?_eq_none_iff {probe : ProbeResult} : answer? probe = none ↔ ¬ Speaks probe := by
  rw [← isSome_answer?_iff, Bool.not_eq_true, Option.isSome_eq_false_iff,
    Option.isNone_iff_eq_none]

theorem commitOf_of_not_speaks {changes probe : ProbeResult} (silent : ¬ Speaks probe) :
    commitOf changes probe = "" := by
  rw [commitOf, answer?_eq_none_iff.mpr silent]

theorem commitOf_of_answer (changes : ProbeResult) {probe : ProbeResult} {said : String}
    (answered : answer? probe = some said) :
    (Speaks changes → commitOf changes probe = said ++ dirtySuffix) ∧
      (¬ Speaks changes → commitOf changes probe = said) := by
  rw [commitOf, answered]
  constructor
  · intro changed
    rw [← isSome_answer?_iff] at changed
    simp only [changed, markChanges, if_pos]
  · intro unchanged
    rw [← isSome_answer?_iff, Bool.not_eq_true] at unchanged
    simp only [unchanged, markChanges, Bool.false_eq_true, if_false]

theorem isTrimmed_dirtySuffix : IsTrimmed dirtySuffix := by
  constructor
  · rintro c ⟨⟩
    decide
  · rintro c ⟨⟩
    decide

theorem commitOf_commitOf (changes probe : ProbeResult) :
    CommitOf changes probe (commitOf changes probe) := by
  by_cases speaks : Speaks probe
  · obtain ⟨status, output, gave, succeeded, some_said⟩ := speaks
    have answered : answer? probe = some (trim (lossy output)) :=
      answer?_eq_some_iff.mpr ⟨status, output, gave, succeeded, some_said, rfl⟩
    obtain ⟨marked, unmarked⟩ := commitOf_of_answer changes answered
    have nonempty : trim (lossy output) ≠ "" := by
      rw [ne_eq, trim_eq_empty_iff, some_said]
      exact Bool.false_ne_true
    refine ⟨?_, ?_, ?_⟩
    · refine iff_of_false ?_ (not_not_intro ⟨status, output, gave, succeeded, some_said⟩)
      by_cases changed : Speaks changes
      · rw [marked changed]
        exact fun empty => nonempty (String.append_eq_empty_iff.mp empty).1
      · rw [unmarked changed]
        exact nonempty
    · intro status' output' gave' _ _
      cases gave.symm.trans gave'
      exact ⟨_, trimsTo_trim _, marked, unmarked⟩
    · by_cases changed : Speaks changes
      · rw [marked changed]
        exact (isTrimmed_trim _).append isTrimmed_dirtySuffix nonempty (by decide)
      · rw [unmarked changed]
        exact isTrimmed_trim _
  · rw [commitOf_of_not_speaks speaks]
    refine ⟨iff_of_true rfl speaks, ?_, isTrimmed_empty⟩
    intro status output gave succeeded some_said
    exact absurd ⟨status, output, gave, succeeded, some_said⟩ speaks

/-! ## The linker flags -/

/-- A date that is known and holds no blanks is the last of the linker flags, as it is. -/
theorem linkerFlags_of_date {s : Stamp} (known : s.date ≠ "") (solid : hasBlank s.date = false) :
    s.linkerFlags =
      (intendedAssignment "Version" s.version ++ intendedAssignment "Commit" s.commit ++
        intendedAssignment "ShortCommit" s.shortCommit).map quoteAssignment ++
          ["-X", "main.Date=" ++ s.date] := by
  have flag : quoteAssignment "-X" = "-X" := by decide
  have unquoted : quoteAssignment ("main.Date=" ++ s.date) = "main.Date=" ++ s.date := by
    have name : hasBlank "main.Date=" = false := by decide
    rw [quoteAssignment, hasBlank_append, name, solid]
    rfl
  have last : (intendedAssignment "Date" s.date).map quoteAssignment =
      ["-X", "main.Date=" ++ s.date] := by
    rw [intendedAssignment, if_neg known, List.map_cons, List.map_singleton, flag]
    exact congrArg (["-X", ·]) unquoted
  have words : s.intendedWords =
      intendedAssignment "Version" s.version ++ intendedAssignment "Commit" s.commit ++
        intendedAssignment "ShortCommit" s.shortCommit ++ intendedAssignment "Date" s.date := by
    simp only [intendedWords, fields, List.flatMap_cons, List.flatMap_nil, List.append_nil,
      List.append_assoc]
  rw [linkerFlags_eq_map, words, List.map_append, last]

/-! ## All answers -/

/-- What is answered to the questions of a collection. -/
structure Answers where
  now : Instant
  version : Except SystemError Bytes
  changes : ProbeResult
  commit : ProbeResult
  shortCommit : ProbeResult

namespace Answers

def stamp (a : Answers) : Stamp :=
  ofAnswers a.now a.version a.changes a.commit a.shortCommit

/-- A stamp with the values that some answers give. -/
structure Gives (a : Answers) (s : Stamp) : Prop where
  version : FirstLineOf a.version s.version
  commit : CommitOf a.changes a.commit s.commit
  shortCommit : CommitOf a.changes a.shortCommit s.shortCommit
  date : s.date = a.now.text
  flags : s.linkerFlags =
    (intendedAssignment "Version" s.version ++ intendedAssignment "Commit" s.commit ++
      intendedAssignment "ShortCommit" s.shortCommit).map quoteAssignment ++
        ["-X", "main.Date=" ++ s.date]

/-- Answers of which each can fail without a consequence for what the others give. -/
structure Separate (a : Answers) : Prop where
  version : ∀ content, (∀ text, content ≠ .ok (encode text)) →
    { a with version := content }.stamp = { a.stamp with version := "" }
  /-- What follows the first line of a version file does not matter. -/
  rest : ∀ line rest, '\n' ∉ line.toList →
    { a with version := .ok (encode (line ++ "\n" ++ rest)) }.stamp =
      { a with version := .ok (encode line) }.stamp
  commit : ∀ probe, ¬ Speaks probe →
    { a with commit := probe }.stamp = { a.stamp with commit := "" }
  shortCommit : ∀ probe, ¬ Speaks probe →
    { a with shortCommit := probe }.stamp = { a.stamp with shortCommit := "" }
  /-- Without the probe for changes, both commits lack the same mark, if there was one. -/
  changes : ∀ probe, ¬ Speaks probe →
    let unmarked := { a with changes := probe }.stamp
    unmarked.version = a.stamp.version ∧ unmarked.date = a.stamp.date ∧
      ∃ mark ∈ ["", "-dirty"],
        a.stamp.commit = (if unmarked.commit = "" then "" else unmarked.commit ++ mark) ∧
          a.stamp.shortCommit =
            if unmarked.shortCommit = "" then "" else unmarked.shortCommit ++ mark

theorem gives_stamp (a : Answers) : a.Gives a.stamp where
  version := firstLineOf_versionOf a.version
  commit := commitOf_commitOf a.changes a.commit
  shortCommit := commitOf_commitOf a.changes a.shortCommit
  date := rfl
  flags := linkerFlags_of_date a.now.text_ne_empty a.now.hasBlank_text

/-- What a commit lacks where the probe for changes says nothing is the mark, if there was one. -/
theorem commitOf_eq_mark {changes silent : ProbeResult} (failed : ¬ Speaks silent) {mark : String}
    (marks : Speaks changes ∧ mark = "-dirty" ∨ ¬ Speaks changes ∧ mark = "")
    (probe : ProbeResult) :
    commitOf changes probe =
      if commitOf silent probe = "" then "" else commitOf silent probe ++ mark := by
  split
  · next empty =>
    have not_said := (commitOf_commitOf silent probe).empty_iff.mp empty
    exact commitOf_of_not_speaks not_said
  · next nonempty =>
    cases answered : answer? probe with
    | none => exact absurd (commitOf_of_not_speaks (answer?_eq_none_iff.mp answered)) nonempty
    | some said =>
        rw [(commitOf_of_answer silent answered).2 failed]
        rcases marks with ⟨changed, rfl⟩ | ⟨unchanged, rfl⟩
        · exact (commitOf_of_answer changes answered).1 changed
        · rw [(commitOf_of_answer changes answered).2 unchanged, String.append_empty]

theorem separate (a : Answers) : a.Separate where
  version content unread := by
    simp only [stamp, ofAnswers, versionOf_of_unread unread]
  rest line rest single := by
    obtain ⟨alone, followed⟩ := versionOf_line single
    simp only [stamp, ofAnswers, alone, followed]
  commit probe silent := by
    simp only [stamp, ofAnswers, commitOf_of_not_speaks silent]
  shortCommit probe silent := by
    simp only [stamp, ofAnswers, commitOf_of_not_speaks silent]
  changes probe silent := by
    refine ⟨rfl, rfl, ?_⟩
    by_cases changed : Speaks a.changes
    · have marked := commitOf_eq_mark silent (.inl ⟨changed, rfl⟩)
      exact ⟨"-dirty", by simp, marked a.commit, marked a.shortCommit⟩
    · have unmarked := commitOf_eq_mark silent (.inr ⟨changed, rfl⟩)
      exact ⟨"", by simp, unmarked a.commit, unmarked a.shortCommit⟩

end Answers

/-- Ask the questions of a collection for the project at `root`. -/
def Source.answers {σ : Type} (source : Source (StateM σ)) (root : Path) : StateM σ Answers := do
  let now ← source.now
  let version ← source.readFile (root.join (.ofText "VERSION"))
  let changes ← source.git root ["status", "--porcelain"]
  let commit ← source.git root ["rev-parse", "HEAD"]
  let shortCommit ← source.git root ["rev-parse", "--short", "HEAD"]
  pure ⟨now, version, changes, commit, shortCommit⟩

/-- Whatever is answered, a collected stamp has clean values, each from its own answer, and its
linker flags pass on those that are known, the date last. -/
theorem collect_clean {σ : Type} (source : Source (StateM σ)) (root : Path) (w : σ) :
    let asked := (source.answers root).run w
    let collected := (collect source root).run w
    collected = (asked.1.stamp, asked.2) ∧ asked.1.Gives collected.1 ∧ asked.1.Separate := by
  intro asked collected
  have same : collected = (asked.1.stamp, asked.2) := rfl
  refine ⟨same, ?_, asked.1.separate⟩
  rw [same]
  exact asked.1.gives_stamp

/-- A version before a line that ends with a carriage return, and a directory with changes in which
git knows no short commit. -/
example : Answers.stamp
    ⟨⟨0, 0⟩, .ok (encode "\t1.4 rc\r\nnotes"), .ok (⟨0⟩, encode " M go.mod\n"),
      .ok (⟨0⟩, encode "1a2b3c\n"), .ok (⟨256⟩, encode "1a2b\n")⟩ =
    ⟨"1.4 rc", "1a2b3c-dirty", "", "1970-01-01T00:00:00Z"⟩ := by
  decide +kernel

end Stamp
end GoTasks
