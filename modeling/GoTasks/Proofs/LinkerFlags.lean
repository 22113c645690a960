import GoTasks.Proofs.Encoding
import GoTasks.Proofs.QuotedList
import GoTasks.Verb.Planning

/-!
# Linker flags on their way to the linker

The linker flags are written into one argument, and the Go tool takes it apart again. What it
finds should be the words that were meant. It is, unless a value of the stamp holds white space,
so that its assignment is put between single quotes, and a single quote as well, which then ends
the quotation too early. There is no other case, although the white space that makes for quotes
is not the white space that Go separates words at.
-/

namespace GoTasks

/-! ## The words that are meant -/

namespace Stamp

/-- The values of a stamp, by the names of the variables that they are meant for. -/
def fields (s : Stamp) : List (String × String) :=
  [("Version", s.version), ("Commit", s.commit), ("ShortCommit", s.shortCommit),
   ("Date", s.date)]

/-- The words that give a variable of the main package its value, if the value is known. -/
def intendedAssignment (name value : String) : List String :=
  if value = "" then [] else ["-X", "main." ++ name ++ "=" ++ value]

/-- The words that a stamp means the linker to see. -/
def intendedWords (s : Stamp) : List String :=
  s.fields.flatMap fun (name, value) => intendedAssignment name value

end Stamp

def Config.intendedWords (c : Config) (stamp? : Option Stamp) : List String :=
  (if c.linking.strip then ["-s", "-w"] else []) ++ (stamp?.map Stamp.intendedWords).getD []

/-- A text that single quotes hold together: if it needs them, it has none of its own. -/
def Text.Quotable (s : String) : Prop :=
  ¬ (hasBlank s = true ∧ '\'' ∈ s.toList)

/-! ## One word -/

namespace Text

variable {a b s : String}

theorem hasBlank_append : hasBlank (a ++ b) = (hasBlank a || hasBlank b) := by
  simp only [hasBlank, String.toList_append, List.any_append]

/-- What precedes a text without blanks and quotes does not matter. -/
theorem quotable_append_iff (solid : hasBlank a = false) (unquoted : '\'' ∉ a.toList) :
    Quotable (a ++ b) ↔ Quotable b := by
  simp only [Quotable, hasBlank_append, solid, Bool.false_or, String.toList_append,
    List.mem_append, unquoted, false_or]

/-- Everything that Go takes for space is white space. -/
theorem isSpace_eq_false_of_mem_encode (solid : hasBlank s = false) {byte : UInt8}
    (member : byte ∈ Utf8.encode s) : QuotedList.isSpace byte = false := by
  apply Bool.eq_false_iff.mpr
  intro space
  have four : byte = 0x20 ∨ byte = 0x09 ∨ byte = 0x0A ∨ byte = 0x0D := by
    simpa only [QuotedList.isSpace, Bool.or_eq_true, decide_eq_true_eq, or_assoc] using space
  have ascii : byte.toNat < 0x80 := by
    rcases four with rfl | rfl | rfl | rfl <;> decide
  obtain ⟨c, inText, code⟩ := (Utf8.mem_encode_iff ascii).mp member
  have blank : isBlank c = true := by
    rw [isBlank, code]
    rcases four with rfl | rfl | rfl | rfl <;> decide
  have none_blank := List.any_eq_false.mp solid c inText
  exact none_blank blank

theorem mem_encode_quote_iff : (0x27 : UInt8) ∈ Utf8.encode s ↔ '\'' ∈ s.toList := by
  rw [Utf8.mem_encode_iff (by decide)]
  constructor
  · rintro ⟨c, member, code⟩
    have same : c = '\'' := Char.ext (UInt32.toNat_inj.mp code)
    rwa [← same]
  · exact fun member => ⟨'\'', member, rfl⟩

end Text

namespace Stamp

open QuotedList Text

/-- A word that does not start as a quotation does. -/
def StartsPlain (word : String) : Prop :=
  ∃ b rest, Utf8.encode word = b :: rest ∧ isQuote b = false

variable {word : String} {tail : Bytes}

theorem encode_quoted (word : String) :
    Utf8.encode ("'" ++ word ++ "'") = 0x27 :: (Utf8.encode word ++ [0x27]) := by
  rw [Utf8.encode_append, Utf8.encode_append]
  rfl

/-- A word is read back as it was meant, with or without quotes. -/
theorem split_quoteAssignment (starts : StartsPlain word) (quotable : Quotable word)
    (ends : ∀ b ∈ tail.head?, isSpace b) :
    split (Utf8.encode (quoteAssignment word) ++ tail) =
      (split tail).map (Utf8.encode word :: ·) := by
  unfold quoteAssignment
  by_cases blank : hasBlank word = true
  · have absent : (0x27 : UInt8) ∉ Utf8.encode word := by
      rw [mem_encode_quote_iff]
      exact fun quote => quotable ⟨blank, quote⟩
    rw [if_pos blank, encode_quoted, List.cons_append, List.append_assoc]
    exact split_quoted rfl absent
  · obtain ⟨b, rest, encoded, plain⟩ := starts
    rw [if_neg blank, encoded]
    apply split_plain plain _ ends
    intro c member
    rw [← encoded] at member
    exact isSpace_eq_false_of_mem_encode (Bool.eq_false_iff.mpr blank) member

/-- A quotation that a quote of the word itself ends too early gives another word. -/
theorem split_quoteAssignment_torn (torn : ¬ Quotable word) (tail : Bytes) :
    ∃ start rest, start ≠ Utf8.encode word ∧
      split (Utf8.encode (quoteAssignment word) ++ tail) = (split rest).map (start :: ·) := by
  obtain ⟨blank, quote⟩ := Decidable.not_not.mp torn
  obtain ⟨start, rest, cut, absent⟩ :=
    List.eq_append_cons_of_mem (mem_encode_quote_iff.mpr quote)
  refine ⟨start, rest ++ 0x27 :: tail, ?_, ?_⟩
  · intro same
    have shorter := congrArg List.length cut
    rw [← same, List.length_append, List.length_cons] at shorter
    omega
  · rw [quoteAssignment, if_pos blank, encode_quoted, cut, List.cons_append, List.append_assoc,
      List.append_assoc]
    exact split_quoted rfl absent

/-! ## All words -/

/-- The bytes of several words, written one after the other. -/
def written (words : List String) : Bytes :=
  Utf8.encode (" ".intercalate (words.map quoteAssignment))

theorem written_cons (word : String) (words : List String) :
    ∃ tail, written (word :: words) = Utf8.encode (quoteAssignment word) ++ tail ∧
      split tail = split (written words) ∧ ∀ b ∈ tail.head?, isSpace b := by
  cases words with
  | nil =>
      refine ⟨[], ?_, rfl, ?_⟩
      · rw [List.append_nil]
        rfl
      · intro b member
        cases member
  | cons next words =>
      refine ⟨0x20 :: written (next :: words), ?_, split_cons_space rfl, ?_⟩
      · rw [written, List.map_cons, List.map_cons, String.intercalate_cons_cons,
          Utf8.encode_append, Utf8.encode_append, List.append_assoc]
        rfl
      · intro b member
        cases member
        rfl

/-- Written words are read back as they were meant exactly if single quotes hold each of them
together. The first that they do not hold together is read as something shorter. -/
theorem split_written_iff {words : List String} (starts : ∀ word ∈ words, StartsPlain word) :
    split (written words) = some (words.map Utf8.encode) ↔ ∀ word ∈ words, Quotable word := by
  induction words with
  | nil => exact ⟨fun _ _ member => absurd member List.not_mem_nil, fun _ => rfl⟩
  | cons word words ih =>
      obtain ⟨tail, line, same, ends⟩ := written_cons word words
      have ih := ih fun next member => starts next (List.mem_cons_of_mem word member)
      rw [line, List.map_cons, List.forall_mem_cons]
      by_cases quotable : Quotable word
      · have start := starts word List.mem_cons_self
        rw [split_quoteAssignment start quotable ends, same, ← ih]
        simp [quotable]
      · obtain ⟨start, rest, other, torn⟩ := split_quoteAssignment_torn quotable tail
        rw [torn]
        simp [quotable, other]

/-! ## The words of a stamp -/

/-- What is written of a variable, if its value is known. -/
theorem linkerFlags_eq_flatMap (s : Stamp) :
    s.linkerFlags = s.linkerVariables.flatMap fun (name, value) =>
      if value = "" then [] else ["-X", quoteAssignment (name ++ "=" ++ value)] := by
  unfold linkerFlags assignments
  induction s.linkerVariables with
  | nil => rfl
  | cons entry rest ih =>
      obtain ⟨name, value⟩ := entry
      by_cases unknown : value = ""
      · simpa [unknown] using ih
      · simpa [unknown] using ih

/-- The flags of a stamp are its words, each written so that it can be read. -/
theorem linkerFlags_eq_map (s : Stamp) :
    s.linkerFlags = s.intendedWords.map quoteAssignment := by
  have written (name value : String) :
      (intendedAssignment name value).map quoteAssignment =
        if value = "" then [] else ["-X", quoteAssignment ("main." ++ name ++ "=" ++ value)] := by
    unfold intendedAssignment
    split
    · rfl
    · rfl
  rw [linkerFlags_eq_flatMap, intendedWords, List.map_flatMap]
  simp only [written, linkerVariables, fields]
  rfl

/-- The first word of a stamp is a flag. -/
theorem eq_of_mem_head?_intendedWords {s : Stamp} {word : String}
    (first : word ∈ s.intendedWords.head?) : word = "-X" := by
  rw [intendedWords, List.head?_flatMap] at first
  obtain ⟨⟨name, value⟩, -, first⟩ := List.exists_of_findSome?_eq_some first
  change (intendedAssignment name value).head? = some word at first
  unfold intendedAssignment at first
  split at first
  · cases first
  · cases first
    rfl

theorem startsPlain_of_mem {s : Stamp} {word : String} (member : word ∈ s.intendedWords) :
    StartsPlain word := by
  obtain ⟨⟨name, value⟩, -, member⟩ := List.mem_flatMap.mp member
  change word ∈ intendedAssignment name value at member
  unfold intendedAssignment at member
  split at member
  · cases member
  · simp only [List.mem_cons, List.not_mem_nil, or_false] at member
    rcases member with rfl | rfl
    · exact ⟨0x2D, [0x58], rfl, rfl⟩
    · rw [String.append_assoc, String.append_assoc]
      exact ⟨0x6D, _, Utf8.encode_append _ _, rfl⟩

/-- The names of the variables hold nothing that needs or ends a quotation. -/
theorem solid_of_mem_fields {s : Stamp} {field : String × String} (member : field ∈ s.fields) :
    hasBlank ("main." ++ field.1 ++ "=") = false ∧
      '\'' ∉ ("main." ++ field.1 ++ "=").toList := by
  have named : field.1 ∈ ["Version", "Commit", "ShortCommit", "Date"] :=
    List.mem_map_of_mem (f := Prod.fst) member
  have solid : ∀ name ∈ ["Version", "Commit", "ShortCommit", "Date"],
      hasBlank ("main." ++ name ++ "=") = false ∧ '\'' ∉ ("main." ++ name ++ "=").toList := by
    decide
  exact solid field.1 named

/-- The words of an assignment are held together exactly if its value is. -/
theorem quotable_intendedAssignment_iff {name value : String}
    (solid : hasBlank ("main." ++ name ++ "=") = false)
    (unquoted : '\'' ∉ ("main." ++ name ++ "=").toList) :
    (∀ word ∈ intendedAssignment name value, Quotable word) ↔ Quotable value := by
  unfold intendedAssignment
  split
  · next unknown =>
    rw [unknown]
    constructor
    · exact fun _ both => absurd both.1 (by decide)
    · exact fun _ _ member => absurd member List.not_mem_nil
  · have flag : Quotable "-X" := fun both => absurd both.1 (by decide)
    rw [List.forall_mem_cons, List.forall_mem_singleton, quotable_append_iff solid unquoted]
    exact ⟨And.right, fun quotable => ⟨flag, quotable⟩⟩

/-- The words of a stamp are held together exactly if its values are. -/
theorem quotable_intendedWords_iff (s : Stamp) :
    (∀ word ∈ s.intendedWords, Quotable word) ↔ ∀ field ∈ s.fields, Quotable field.2 := by
  constructor
  · intro all field member
    obtain ⟨solid, unquoted⟩ := solid_of_mem_fields member
    apply (quotable_intendedAssignment_iff solid unquoted).mp
    exact fun word inside => all word (List.mem_flatMap.mpr ⟨field, member, inside⟩)
  · intro all word inside
    obtain ⟨field, member, inside⟩ := List.mem_flatMap.mp inside
    obtain ⟨solid, unquoted⟩ := solid_of_mem_fields member
    exact (quotable_intendedAssignment_iff solid unquoted).mpr (all field member) word inside

end Stamp

/-! ## The argument of a build -/

namespace Config

open Stamp Text

variable (c : Config) (stamp? : Option Stamp)

/-- The linker flags are the words that are meant, each written so that it can be read. -/
theorem linkerFlags_eq_intercalate :
    c.linkerFlags stamp? = " ".intercalate ((c.intendedWords stamp?).map quoteAssignment) := by
  have stripped : c.stripFlags =
      (if c.linking.strip then ["-s", "-w"] else []).map quoteAssignment := by
    unfold stripFlags
    split <;> rfl
  unfold linkerFlags intendedWords
  rw [List.map_append, stripped]
  cases stamp? with
  | none => rfl
  | some stamp =>
      rw [Option.map_some, Option.map_some, Option.getD_some, Option.getD_some,
        linkerFlags_eq_map]

theorem encode_linkerFlags :
    Text.Utf8.encode (c.linkerFlags stamp?) = written (c.intendedWords stamp?) := by
  rw [linkerFlags_eq_intercalate, written]

/-- The first word is a flag. -/
theorem eq_of_mem_head?_intendedWords {word : String}
    (first : word ∈ (c.intendedWords stamp?).head?) : word = "-s" ∨ word = "-X" := by
  unfold intendedWords at first
  split at first
  · cases first
    exact .inl rfl
  · cases stamp? with
    | none => cases first
    | some stamp => exact .inr (Stamp.eq_of_mem_head?_intendedWords first)

/-- There are linker flags if there is anything to tell the linker, and they start as a flag. -/
theorem head?_linkerFlags (some_word : c.intendedWords stamp? ≠ []) :
    (c.linkerFlags stamp?).toList.head? = some '-' := by
  obtain ⟨word, rest, words⟩ := List.exists_cons_of_ne_nil some_word
  have flag : word = "-s" ∨ word = "-X" := by
    apply c.eq_of_mem_head?_intendedWords stamp?
    rw [words]
    rfl
  have first : ∃ tail, c.linkerFlags stamp? = quoteAssignment word ++ tail := by
    rw [linkerFlags_eq_intercalate, words]
    cases rest with
    | nil => exact ⟨"", String.append_empty.symm⟩
    | cons next rest =>
        rw [List.map_cons, List.map_cons, String.intercalate_cons_cons, String.append_assoc]
        exact ⟨_, rfl⟩
  obtain ⟨tail, flags⟩ := first
  rw [flags, String.toList_append, List.head?_append]
  rcases flag with rfl | rfl <;> rfl

theorem linkerFlags_isEmpty_iff :
    (c.linkerFlags stamp?).isEmpty = true ↔ c.intendedWords stamp? = [] := by
  constructor
  · intro empty
    apply Decidable.byContradiction
    intro some_word
    have first := c.head?_linkerFlags stamp? some_word
    rw [String.isEmpty_iff.mp empty] at first
    cases first
  · intro none_word
    rw [linkerFlags_eq_intercalate, none_word]
    rfl

/-- The arguments of a build pass on linker flags in one way only. -/
theorem buildArguments_eq_append_iff {front : List String} {flags : String} :
    c.buildArguments stamp? = front ++ ["-ldflags", flags, c.layout.entry.packageArgument] ↔
      c.intendedWords stamp? ≠ [] ∧ front = ["build", "-o", c.outputArgument] ∧
        flags = c.linkerFlags stamp? := by
  rw [ne_eq, ← linkerFlags_isEmpty_iff]
  unfold buildArguments linkerArguments
  split
  · next empty =>
    constructor
    · intro same
      have reversed := congrArg List.reverse same
      simp at reversed
    · exact fun both => absurd empty both.1
  · next nonempty =>
    constructor
    · intro same
      have parts : ["build", "-o", c.outputArgument] ++
          ["-ldflags", c.linkerFlags stamp?, c.layout.entry.packageArgument] =
            front ++ ["-ldflags", flags, c.layout.entry.packageArgument] := same
      obtain ⟨fronts, backs⟩ := List.append_inj' parts rfl
      cases backs
      exact ⟨nonempty, fronts.symm, rfl⟩
    · rintro ⟨-, rfl, rfl⟩
      rfl

theorem startsPlain_of_mem_intendedWords {word : String}
    (member : word ∈ c.intendedWords stamp?) : StartsPlain word := by
  rcases List.mem_append.mp member with strip | stamped
  · split at strip
    · simp only [List.mem_cons, List.not_mem_nil, or_false] at strip
      rcases strip with rfl | rfl <;> exact ⟨0x2D, _, rfl, rfl⟩
    · cases strip
  · cases stamp? with
    | none => cases stamped
    | some stamp => exact startsPlain_of_mem stamped

/-- Single quotes hold the words together exactly if they hold the values of the stamp. -/
theorem quotable_words_iff :
    (∀ word ∈ c.intendedWords stamp?, Quotable word) ↔
      ∀ stamp ∈ stamp?, ∀ field ∈ stamp.fields, Quotable field.2 := by
  have flags : ∀ word ∈ if c.linking.strip then ["-s", "-w"] else [], Quotable word := by
    split
    · have solid : ∀ word ∈ ["-s", "-w"], hasBlank word = false := by decide
      intro word member both
      rw [solid word member] at both
      cases both.1
    · exact fun _ member => absurd member List.not_mem_nil
  rw [intendedWords, List.forall_mem_append]
  cases stamp? with
  | none =>
      constructor
      · intro _ stamp member
        cases member
      · exact fun _ => ⟨flags, fun _ member => absurd member List.not_mem_nil⟩
  | some stamp =>
      rw [Option.map_some, Option.getD_some, quotable_intendedWords_iff]
      constructor
      · rintro ⟨-, all⟩ _ ⟨⟩
        exact all
      · exact fun all => ⟨flags, all stamp rfl⟩

/-- Linker flags are passed on exactly if there is something to tell the linker, right before
the package and starting as a flag does. Go takes them apart into the words that were meant
exactly if no value of the stamp holds both white space and a single quote. -/
theorem linkerFlags_roundTrip (c : Config) (stamp? : Option Stamp) :
    ((∃ front flags, c.buildArguments stamp? =
          front ++ ["-ldflags", flags, c.layout.entry.packageArgument]) ↔
        c.intendedWords stamp? ≠ []) ∧
      ∀ front flags,
        c.buildArguments stamp? =
            front ++ ["-ldflags", flags, c.layout.entry.packageArgument] →
          flags.toList.head? = some '-' ∧
            (QuotedList.split (Text.Utf8.encode flags) =
                some ((c.intendedWords stamp?).map Text.Utf8.encode) ↔
              ∀ stamp ∈ stamp?, ∀ field ∈ stamp.fields,
                ¬ (Text.hasBlank field.2 = true ∧ '\'' ∈ field.2.toList)) := by
  constructor
  · simp only [buildArguments_eq_append_iff]
    constructor
    · rintro ⟨front, flags, some_word, -, -⟩
      exact some_word
    · exact fun some_word => ⟨_, _, some_word, rfl, rfl⟩
  · intro front flags arguments
    obtain ⟨some_word, -, rfl⟩ := (c.buildArguments_eq_append_iff stamp?).mp arguments
    refine ⟨c.head?_linkerFlags stamp? some_word, ?_⟩
    rw [encode_linkerFlags,
      split_written_iff fun word member => c.startsPlain_of_mem_intendedWords stamp? member]
    exact c.quotable_words_iff stamp?

/-- A quotation that ends too early. -/
example : QuotedList.split (Text.Utf8.encode (default.linkerFlags (some ⟨"it's 1", "", "", ""⟩))) =
    some (["-s", "-w", "-X", "main.Version=it", "s", "1'"].map Text.Utf8.encode) := by
  decide

end Config
end GoTasks
