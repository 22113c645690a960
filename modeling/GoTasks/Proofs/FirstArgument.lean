import GoTasks.Log.Filter
import GoTasks.Proofs.Dispatch
import GoTasks.Proofs.Pieces
import GoTasks.Rehearsal

/-!
# The first argument of a command line

A command line is read as a verb and arguments that are ignored. The reading accepts exactly the
command lines of which every argument is a text; all others are refused, and reported as if their
first argument had been an unknown verb.

So the first argument alone decides what a run does, but for three kinds of command lines. In one
the first argument is the escape `--`, which is dropped, so that the verb is the argument after it.
In another the first argument is a verb and a later one is no text, so that a verb is reported as
unknown although it is known. And whatever the first argument is, the log is told what is ignored
and why a command line is refused, so that a run looks different to whoever keeps these events.

Runs are compared under any choice of the events that are kept. By default none are.
-/

namespace GoTasks

namespace Arguments

open Text.Utf8

/-! ## Reading a command line -/

theorem wellFormed_escape : WellFormed escape :=
  ⟨"--", by decide +kernel⟩

/-- A text up to a byte below 0x80 is a text. -/
theorem wellFormed_takeWhile {b : UInt8} (ascii : b.toNat < 0x80) {bytes : Bytes}
    (text : WellFormed bytes) : WellFormed (bytes.takeWhile (· ≠ b)) := by
  by_cases there : b ∈ bytes
  · obtain ⟨before, after, rfl, first⟩ := List.eq_append_cons_of_mem there
    have kept : ∀ c ∈ before, decide (c ≠ b) = true := by
      intro c member
      exact decide_eq_true fun same => first (same ▸ member)
    rw [List.takeWhile_append_of_pos kept, List.takeWhile_cons_of_neg (by simp), List.append_nil]
    exact ((wellFormed_append_cons_iff ascii before after).mp text).1
  · have kept : ∀ c ∈ bytes, decide (c ≠ b) = true := by
      intro c member
      exact decide_eq_true fun same => there (same ▸ member)
    rwa [← List.append_nil bytes, List.takeWhile_append_of_pos kept, List.takeWhile_nil,
      List.append_nil]

/-- A text does not look like a flag whose name is no text. -/
theorem isUnreadableFlag_of_wellFormed {argument : Bytes} (text : WellFormed argument) :
    isUnreadableFlag argument = false := by
  unfold isUnreadableFlag
  split
  · next a b rest =>
    by_cases flag : a = hyphen ∧ b = hyphen
    · obtain ⟨rfl, rfl⟩ := flag
      have rest_text : WellFormed rest :=
        (wellFormed_cons_iff (by decide)).mp ((wellFormed_cons_iff (by decide)).mp text)
      have name := isSome_decode?_iff.mpr
        (wellFormed_takeWhile (b := equalsSign) (by decide) rest_text)
      rw [← Option.not_isSome, name]
      simp
    · simp [flag]
  · rfl

/-- No argument is lost but an escape. -/
theorem mem_of_positionals {taken : Nat} {arguments found : List Bytes}
    (read : positionals taken arguments = .ok found) {argument : Bytes}
    (member : argument ∈ arguments) : argument = escape ∨ argument ∈ found := by
  induction arguments generalizing taken found with
  | nil => exact absurd member List.not_mem_nil
  | cons first rest ih =>
      unfold positionals at read
      split at read
      · cases read
        exact .inr member
      split at read
      · next escaped =>
        cases read
        rcases List.mem_cons.mp member with rfl | later
        · exact .inl escaped
        · exact .inr later
      split at read
      · cases read
      · cases others : positionals (taken + 1) rest with
        | error fault =>
            rw [others] at read
            cases read
        | ok later =>
            rw [others] at read
            cases read
            rcases List.mem_cons.mp member with rfl | member
            · exact .inr List.mem_cons_self
            · exact (ih others member).imp_right (List.mem_cons_of_mem first)

/-- The argument that is taken for the verb: the first one, or the one after it if that is the
escape. -/
def asked? (first : Bytes) (rest : List Bytes) : Option Bytes :=
  if first = escape then rest.head? else some first

/-- The arguments after the verb. One escape is left out, if it stands before or right after the
verb. -/
def unread (first : Bytes) (rest : List Bytes) : List Bytes :=
  if first = escape ∨ rest.head? = some escape then rest.tail else rest

/-- Among texts nothing is refused. -/
theorem positionals_of_wellFormed {first : Bytes} {rest : List Bytes}
    (texts : ∀ a ∈ first :: rest, WellFormed a) :
    positionals 0 (first :: rest) = .ok ((asked? first rest).toList ++ unread first rest) := by
  obtain ⟨first_text, rest_texts⟩ := List.forall_mem_cons.mp texts
  by_cases escaped : first = escape
  · rw [positionals, if_neg (by decide), if_pos escaped, asked?, if_pos escaped, unread,
      if_pos (.inl escaped)]
    cases rest <;> rfl
  rw [positionals, if_neg (by decide), if_neg escaped, isUnreadableFlag_of_wellFormed first_text,
    if_neg Bool.false_ne_true, asked?, if_neg escaped, unread]
  cases rest with
  | nil =>
      rw [if_neg (by simp [escaped])]
      rfl
  | cons second later =>
      have second_text := rest_texts second List.mem_cons_self
      by_cases late : second = escape
      · rw [positionals, if_neg (by decide), if_pos late, if_pos (.inr (congrArg some late))]
        rfl
      · rw [positionals, if_neg (by decide), if_neg late,
          isUnreadableFlag_of_wellFormed second_text, if_neg Bool.false_ne_true,
          if_neg (by simp [escaped, late])]
        cases later <;> rfl

theorem texts?_eq_some_iff {arguments : List Bytes} {ts : List String} :
    texts? arguments = some ts ↔ arguments = ts.map encode := by
  unfold texts?
  induction arguments generalizing ts with
  | nil => cases ts <;> simp
  | cons first rest ih =>
      cases ts with
      | nil => simp [Option.bind_eq_some_iff]
      | cons t ts => simp [Option.bind_eq_some_iff, decode?_eq_some_iff, ih]

theorem texts?_of_wellFormed {arguments : List Bytes} (texts : ∀ a ∈ arguments, WellFormed a) :
    texts? arguments = some (arguments.map lossy) := by
  have shown : ∀ a ∈ arguments, a = (encode ∘ lossy) a := by
    intro a member
    obtain ⟨s, rfl⟩ := texts a member
    rw [Function.comp_apply, lossy_encode]
  rw [texts?_eq_some_iff, List.map_map]
  calc
    arguments = arguments.map id := (List.map_id arguments).symm
    _ = arguments.map (encode ∘ lossy) := List.map_congr_left shown

theorem mem_of_asked?_or_unread {first a : Bytes} {rest : List Bytes}
    (member : a ∈ (asked? first rest).toList ++ unread first rest) : a ∈ first :: rest := by
  rcases List.mem_append.mp member with asked | ignored
  · rw [asked?] at asked
    split at asked
    · exact .tail _ (List.mem_of_mem_head? (Option.mem_toList.mp asked))
    · obtain rfl := Option.some.inj (Option.mem_toList.mp asked)
      exact List.mem_cons_self
  · rw [unread] at ignored
    split at ignored
    · exact .tail _ (List.mem_of_mem_tail ignored)
    · exact .tail _ ignored

/-- A command line of texts is accepted. -/
theorem parse_of_wellFormed {first : Bytes} {rest : List Bytes}
    (texts : ∀ a ∈ first :: rest, WellFormed a) :
    parse (first :: rest) =
      .ok ⟨(asked? first rest).map lossy, (unread first rest).map lossy⟩ := by
  have found_texts : ∀ a ∈ (asked? first rest).toList ++ unread first rest, WellFormed a :=
    fun a member => texts a (mem_of_asked?_or_unread member)
  simp only [parse, positionals_of_wellFormed texts, bind, Except.bind,
    texts?_of_wellFormed found_texts]
  cases asked : asked? first rest with
  | some verb => rfl
  | none =>
      -- Only after an escape there is nothing to ask for, and then there is nothing to ignore.
      have none_left : unread first rest = [] := by
        rw [asked?] at asked
        split at asked
        · next escaped =>
          rw [unread, if_pos (.inl escaped), List.head?_eq_none_iff.mp asked, List.tail_nil]
        · cases asked
      rw [none_left]
      rfl

/-- A command line with an argument that is no text is refused. -/
theorem parse_of_not_wellFormed {arguments : List Bytes} {argument : Bytes}
    (member : argument ∈ arguments) (foreign : ¬ WellFormed argument) :
    ∃ fault, parse arguments = .error fault := by
  unfold parse
  cases read : positionals 0 arguments with
  | error fault => exact ⟨fault, rfl⟩
  | ok found =>
      have kept : argument ∈ found := by
        refine (mem_of_positionals read member).resolve_left ?_
        rintro rfl
        exact foreign wellFormed_escape
      have unread : texts? found = none := by
        rw [Option.eq_none_iff_forall_ne_some]
        intro ts read
        rw [texts?_eq_some_iff.mp read] at kept
        obtain ⟨t, -, rfl⟩ := List.mem_map.mp kept
        exact foreign (wellFormed_encode t)
      simp only [bind, Except.bind, unread]
      exact ⟨.notText, rfl⟩

end Arguments

/-! ## Running a command line -/

open Arguments Text.Utf8

namespace Verb

theorem ascii_name (v : Verb) : ∀ b ∈ encode v.name, b.toNat < 0x80 := by
  have each : ∀ v ∈ all, ∀ b ∈ encode v.name, b.toNat < 0x80 := by decide +kernel
  exact each v (mem_all v)

theorem head?_encode_name_ne (v : Verb) : (encode v.name).head? ≠ some hyphen := by
  have each : ∀ v ∈ all, (encode v.name).head? ≠ some hyphen := by decide +kernel
  exact each v (mem_all v)

/-- Nothing but its name is shown as the name of a verb. -/
theorem eq_encode_of_lossy {v : Verb} {bytes : Bytes} (shown : lossy bytes = v.name) :
    bytes = encode v.name := by
  have ascii : ∀ b ∈ encode (lossy bytes), b.toNat < 0x80 := by
    rw [shown]
    exact ascii_name v
  rw [← encode_lossy_eq_self ascii, shown]

/-- What starts with a hyphen is not shown as the name of a verb. -/
theorem name_ne_lossy {bytes : Bytes} (flag : bytes.head? = some hyphen) (v : Verb) :
    v.name ≠ lossy bytes := by
  intro same
  rw [eq_encode_of_lossy same.symm] at flag
  exact head?_encode_name_ne v flag

end Verb

section

variable {m : Type → Type} [Monad m]

namespace Dispatch

/-- Tell the log what came of reading a command line. -/
def note (s : Surroundings m) (arguments : List Bytes) : m Unit :=
  match Arguments.parse arguments with
  | .ok invocation => noteIgnored s invocation.ignored
  | .error fault => s.console.log (.argumentsRefused (s.refusal arguments fault))

/-- Dispatch a command line of texts, and reject any other with its first argument. -/
def runRead (s : Surroundings m) (first : Bytes) (rest : List Bytes) : m Int :=
  if ∀ a ∈ first :: rest, WellFormed a then dispatch s ((asked? first rest).map lossy)
  else reject s (.unknownVerb (lossy first))

end Dispatch

theorem runArguments_cons (s : Surroundings m) (first : Bytes) (rest : List Bytes) :
    runArguments s (first :: rest) = (do
      Dispatch.note s (first :: rest)
      Dispatch.runRead s first rest) := by
  rw [runArguments, Dispatch.note, Dispatch.runRead]
  split_ifs with texts
  · rw [parse_of_wellFormed texts]
    rfl
  · simp only [not_forall] at texts
    obtain ⟨a, member, foreign⟩ := texts
    obtain ⟨fault, read⟩ := parse_of_not_wellFormed member foreign
    rw [read]
    rfl

end

theorem Report.failure_unknownVerb_injective {styled : Bool} {a b : String}
    (same : failure styled (.unknownVerb a) = failure styled (.unknownVerb b)) : a = b := by
  rw [failure_unknownVerb, failure_unknownVerb] at same
  simpa using same

theorem forget_runArguments {σ : Type} (s : Surroundings (Observed σ)) (arguments : List Bytes) :
    (runArguments s arguments).forget = runArguments s.forget arguments := by
  rw [runArguments, runArguments]
  cases parse arguments with
  | error fault => rfl
  | ok invocation =>
      have noted : (Dispatch.noteIgnored s invocation.ignored).forget =
          Dispatch.noteIgnored s.forget invocation.ignored := by
        rw [Dispatch.noteIgnored, Dispatch.noteIgnored]
        split <;> rfl
      simp only [Dispatch.invoke, Observed.forget_bind, noted, forget_dispatch]

/-- The log of errors is told nothing: no event is one. -/
theorem LogFilter.admits_errorsOnly (e : LogEvent) : errorsOnly.admits e = false := by
  rw [admits, levelFor_errorsOnly]
  cases e <;> rfl

/-- The log that is kept if none is asked for. -/
example : LogFilter.ofEnvironment .empty = .errorsOnly := by decide

namespace Dispatch

/-- What a run can start with. Only an unknown verb is complained about, and the log is told of a
verb before anything else. -/
inductive Opens (styled : Bool) (verb? : Option String) : Deed → Prop
  | usage : Opens styled verb? (.wroteUsage Usage.text)
  | unknown {text : String} (asked : verb? = some text) (unknown : ∀ v : Verb, v.name ≠ text) :
      Opens styled verb? (.complained (Report.failure styled (.unknownVerb text)))
  | told (v : Verb) : Opens styled verb? (.logged (.dispatching v))
  | loading : Opens styled verb? .loadedProject

section

variable {σ : Type} (s : Surroundings (StateM σ)) (wanted : LogEvent → Bool) (w : σ)

theorem log_of_wanted {e : LogEvent} (kept : wanted e = true) :
    (s.observed.filtered wanted).console.log e = s.observed.console.log e :=
  if_pos kept

theorem log_of_not_wanted {e : LogEvent} (lost : wanted e = false) :
    (s.observed.filtered wanted).console.log e = pure () :=
  if_neg (by rw [lost]; exact Bool.false_ne_true)

theorem opens_dispatch (verb? : Option String) :
    ∃ d, ((dispatch (s.observed.filtered wanted) verb?).observe w).deeds.head? = some d ∧
      Opens s.console.styled verb? d := by
  cases verb? with
  | none => exact ⟨_, rfl, .usage⟩
  | some text =>
      by_cases known : ∃ v : Verb, v.name = text
      · obtain ⟨v, rfl⟩ := known
        rw [dispatch_name, performVerb]
        cases kept : wanted (.dispatching v) with
        | true =>
            rw [log_of_wanted s wanted kept]
            exact ⟨_, rfl, .told v⟩
        | false =>
            rw [log_of_not_wanted s wanted kept, pure_bind]
            by_cases working : v = .help
            · subst working
              exact ⟨_, rfl, .usage⟩
            · have needed : v.needsProject = true := decide_eq_true working
              rw [if_pos needed]
              exact ⟨_, rfl, .loading⟩
      · have unknown : ∀ v : Verb, v.name ≠ text := not_exists.mp known
        rw [dispatch_unknown _ unknown]
        exact ⟨_, rfl, .unknown rfl unknown⟩

/-- A run looks like the rejection of a text only if it was asked for that text, and no verb has it
as its name. -/
theorem observe_dispatch_eq_reject_iff (verb? : Option String) (text : String) :
    (dispatch (s.observed.filtered wanted) verb?).observe w =
        (reject (s.observed.filtered wanted) (.unknownVerb text)).observe w ↔
      verb? = some text ∧ ∀ v : Verb, v.name ≠ text := by
  constructor
  · intro same
    obtain ⟨d, first, opens⟩ := opens_dispatch s wanted w verb?
    -- The first deed of a rejection is its complaint.
    rw [same] at first
    have complaint : Deed.complained (Report.failure s.console.styled (.unknownVerb text)) = d :=
      Option.some.inj first
    cases opens with
    | unknown asked unknown =>
        obtain rfl := Report.failure_unknownVerb_injective (Deed.complained.inj complaint)
        exact ⟨asked, unknown⟩
    | _ => cases complaint
  · rintro ⟨rfl, unknown⟩
    rw [dispatch_unknown _ unknown]

theorem observe_reject_eq_dispatch_iff (text : String) :
    (reject (s.observed.filtered wanted) (.unknownVerb text)).observe w =
        (dispatch (s.observed.filtered wanted) (some text)).observe w ↔
      ∀ v : Verb, v.name ≠ text := by
  rw [eq_comm, observe_dispatch_eq_reject_iff]
  exact and_iff_right rfl

/-- After an escape, a command line of texts runs like its escape only if another one follows. -/
theorem observe_dispatch_head?_eq_iff {rest : List Bytes} (texts : ∀ a ∈ rest, WellFormed a) :
    (dispatch (s.observed.filtered wanted) (rest.head?.map lossy)).observe w =
        (dispatch (s.observed.filtered wanted) (some (lossy escape))).observe w ↔
      rest.head? = some escape := by
  have unknown : ∀ v : Verb, v.name ≠ lossy escape := Verb.name_ne_lossy rfl
  rw [dispatch_unknown _ unknown, observe_dispatch_eq_reject_iff, and_iff_left unknown]
  cases rest with
  | nil => exact iff_of_false nofun nofun
  | cons second later =>
      obtain ⟨t, rfl⟩ := texts second List.mem_cons_self
      obtain ⟨e, escaped⟩ := wellFormed_escape
      rw [escaped, List.head?_cons, Option.map_some, lossy_encode, lossy_encode]
      simp only [Option.some.injEq]
      constructor
      · rintro rfl
        rfl
      · intro same
        rw [← lossy_encode t, same, lossy_encode]

/-- Apart from what the log is told of its reading, a command line runs like its first argument
under one of two conditions, depending on whether that is the escape. -/
theorem observe_runRead_eq_iff (first : Bytes) (rest : List Bytes) :
    (runRead (s.observed.filtered wanted) first rest).observe w =
        (dispatch (s.observed.filtered wanted) (some (lossy first))).observe w ↔
      if first = escape then rest.head? = some escape ∨ ∃ a ∈ rest, ¬ WellFormed a
      else (∀ a ∈ rest, WellFormed a) ∨ ∀ v : Verb, v.name ≠ lossy first := by
  rw [runRead, asked?]
  by_cases escaped : first = escape
  · subst escaped
    have whole : (∀ a ∈ escape :: rest, WellFormed a) ↔ ∀ a ∈ rest, WellFormed a := by
      rw [List.forall_mem_cons, and_iff_right wellFormed_escape]
    rw [if_pos rfl, if_pos rfl, if_congr whole rfl rfl]
    by_cases texts : ∀ a ∈ rest, WellFormed a
    · have none_foreign : ¬ ∃ a ∈ rest, ¬ WellFormed a := by simpa using texts
      rw [if_pos texts, or_iff_left none_foreign]
      exact observe_dispatch_head?_eq_iff s wanted w texts
    · have some_foreign : ∃ a ∈ rest, ¬ WellFormed a := by simpa using texts
      rw [if_neg texts, observe_reject_eq_dispatch_iff]
      exact iff_of_true (Verb.name_ne_lossy rfl) (.inr some_foreign)
  · rw [if_neg escaped, if_neg escaped]
    by_cases texts : ∀ a ∈ first :: rest, WellFormed a
    · rw [if_pos texts]
      exact iff_of_true rfl (.inl (List.forall_mem_cons.mp texts).2)
    · rw [if_neg texts, observe_reject_eq_dispatch_iff]
      refine ⟨.inr, fun given => given.elim (fun later v same => texts ?_) id⟩
      -- A first argument that is shown as the name of a verb is a text.
      rw [Verb.eq_encode_of_lossy same.symm]
      exact List.forall_mem_cons.mpr ⟨wellFormed_encode v.name, later⟩

/-! ## What the log is told of the reading -/

/-- Whether the log keeps nothing of what it is told of the reading of a command line: of texts,
which are ignored, if any are; of others, why they are refused. -/
def Unnoted (first : Bytes) (rest : List Bytes) : Prop :=
  ((∀ a ∈ first :: rest, WellFormed a) → unread first rest ≠ [] →
      wanted (.argumentsIgnored ((unread first rest).map lossy)) = false) ∧
    ∀ fault, parse (first :: rest) = .error fault →
      wanted (.argumentsRefused (s.refusal (first :: rest) fault)) = false

/-- What the log is told of a reading is one event at most, and no event of dispatching. -/
theorem note_cases (first : Bytes) (rest : List Bytes) :
    Unnoted s wanted first rest ∧
        note (s.observed.filtered wanted) (first :: rest) = pure () ∨
      ¬ Unnoted s wanted first rest ∧ ∃ e, (∀ v, e ≠ .dispatching v) ∧
        note (s.observed.filtered wanted) (first :: rest) = s.observed.console.log e := by
  by_cases texts : ∀ a ∈ first :: rest, WellFormed a
  · have read := parse_of_wellFormed texts
    have accepted : ∀ fault, parse (first :: rest) ≠ .error fault := by
      intro fault refused
      cases read.symm.trans refused
    rw [note, read]
    change _ ∧ noteIgnored _ ((unread first rest).map lossy) = _ ∨
      _ ∧ ∃ e, _ ∧ noteIgnored _ ((unread first rest).map lossy) = _
    rw [noteIgnored]
    by_cases none_left : unread first rest = []
    · left
      rw [if_pos (by rw [none_left, List.map_nil])]
      exact ⟨⟨fun _ some_left => absurd none_left some_left,
        fun fault refused => absurd refused (accepted fault)⟩, rfl⟩
    · rw [if_neg (by rwa [List.map_eq_nil_iff])]
      cases kept : wanted (.argumentsIgnored ((unread first rest).map lossy)) with
      | true =>
          right
          rw [log_of_wanted s wanted kept]
          refine ⟨fun quiet => ?_, .argumentsIgnored ((unread first rest).map lossy), nofun, rfl⟩
          rw [quiet.1 texts none_left] at kept
          cases kept
      | false =>
          left
          exact ⟨⟨fun _ _ => kept, fun fault refused => absurd refused (accepted fault)⟩,
            log_of_not_wanted s wanted kept⟩
  · have some_foreign := texts
    simp only [not_forall] at some_foreign
    obtain ⟨a, member, foreign⟩ := some_foreign
    obtain ⟨fault, read⟩ := parse_of_not_wellFormed member foreign
    rw [note, read]
    cases kept : wanted (.argumentsRefused (s.refusal (first :: rest) fault)) with
    | true =>
        right
        refine ⟨fun quiet => ?_, .argumentsRefused (s.refusal (first :: rest) fault), nofun,
          log_of_wanted s wanted kept⟩
        rw [quiet.2 fault read] at kept
        cases kept
    | false =>
        left
        refine ⟨⟨fun whole => absurd whole texts, fun other refused => ?_⟩,
          log_of_not_wanted s wanted kept⟩
        obtain rfl := Except.error.inj (read.symm.trans refused)
        exact kept

/-- A command line runs like its first argument if it does so apart from the log, and the log keeps
nothing of its reading. -/
theorem observe_runArguments_eq_iff (first : Bytes) (rest : List Bytes) :
    (runArguments (s.observed.filtered wanted) (first :: rest)).observe w =
        (dispatch (s.observed.filtered wanted) (some (lossy first))).observe w ↔
      Unnoted s wanted first rest ∧
        if first = escape then rest.head? = some escape ∨ ∃ a ∈ rest, ¬ WellFormed a
        else (∀ a ∈ rest, WellFormed a) ∨ ∀ v : Verb, v.name ≠ lossy first := by
  rw [runArguments_cons]
  rcases note_cases s wanted first rest with ⟨quiet, silent⟩ | ⟨loud, e, foreign, told⟩
  · rw [silent, pure_bind, observe_runRead_eq_iff]
    exact (and_iff_right quiet).symm
  · rw [told]
    refine iff_of_false (fun same => ?_) fun both => loud both.1
    obtain ⟨d, first_deed, opens⟩ := opens_dispatch s wanted w (some (lossy first))
    rw [← same] at first_deed
    have logged : Deed.logged e = d := Option.some.inj first_deed
    -- The log is told of a verb only by its dispatch.
    cases opens with
    | told v => exact foreign v (Deed.logged.inj logged)
    | _ => cases logged

end

/-- What the first argument says of a run, and what it does not. The log keeps the events wanted. -/
structure DecidedByFirst {σ : Type} (s : Surroundings (StateM σ)) (wanted : LogEvent → Bool) (w : σ)
    (first : Bytes) (rest : List Bytes) (seen : Observation σ Int) : Prop where
  /-- The run is that of the first argument as a verb, unless something of the reading is logged, or
  that is the escape and what follows is read in its place, or it is a verb and something that is no
  text follows. -/
  asked_iff : seen = (dispatch (s.observed.filtered wanted) (some (lossy first))).observe w ↔
    Unnoted s wanted first rest ∧
      if first = escape then rest.head? = some escape ∨ ∃ a ∈ rest, ¬ WellFormed a
      else (∀ a ∈ rest, WellFormed a) ∨ ∀ v : Verb, v.name ≠ lossy first
  /-- What starts with a hyphen is rejected, but for the escape. -/
  flag : first.head? = some hyphen → first ≠ escape →
    seen = Observed.observe (do
      note (s.observed.filtered wanted) (first :: rest)
      reject (s.observed.filtered wanted) (.unknownVerb (lossy first))) w
  /-- After the escape, texts are a command line without it, of which nothing is an escape. -/
  escaped : first = escape → (∀ a ∈ rest, WellFormed a) →
    seen = Observed.observe (do
      noteIgnored (s.observed.filtered wanted) (rest.tail.map lossy)
      dispatch (s.observed.filtered wanted) (rest.head?.map lossy)) w
  /-- If anything is no text, the first argument is rejected, even if it is a verb. -/
  foreign : (∃ a ∈ first :: rest, ¬ WellFormed a) →
    ∃ fault, seen = Observed.observe (do
      (s.observed.filtered wanted).console.log
        (.argumentsRefused (s.refusal (first :: rest) fault))
      reject (s.observed.filtered wanted) (.unknownVerb (lossy first))) w

variable {σ : Type} (s : Surroundings (StateM σ)) (w : σ)

/-- The run of a command line with at least one argument, whatever bytes its arguments are, whatever
the surroundings answer and whatever is logged. Where only errors are logged, as they are unless
something else is asked for, the run is that of its first argument exactly if neither that is the
escape nor a verb is followed by what is no text, or if nothing comes of it. -/
theorem decided_by_first_argument (first : Bytes) (rest : List Bytes) :
    (∀ wanted : LogEvent → Bool,
      DecidedByFirst s wanted w first rest
          ((runArguments (s.observed.filtered wanted) (first :: rest)).observe w) ∧
        (runArguments (s.observed.filtered wanted) (first :: rest)).forget =
          runArguments (s.filtered wanted) (first :: rest)) ∧
      let plain := s.observed.filtered LogFilter.errorsOnly.admits
      ((runArguments plain (first :: rest)).observe w =
          (dispatch plain (some (lossy first))).observe w ↔
        if first = escape then rest.head? = some escape ∨ ∃ a ∈ rest, ¬ WellFormed a
        else (∀ a ∈ rest, WellFormed a) ∨ ∀ v : Verb, v.name ≠ lossy first) := by
  constructor
  · intro wanted
    constructor
    · refine ⟨observe_runArguments_eq_iff s wanted w first rest, ?_, ?_, ?_⟩
      · intro flag plain
        have unknown : ∀ v : Verb, v.name ≠ lossy first := Verb.name_ne_lossy flag
        rw [runArguments_cons, runRead, asked?, if_neg plain, Option.map_some,
          dispatch_unknown _ unknown, ite_self]
      · rintro rfl texts
        have whole : ∀ a ∈ escape :: rest, WellFormed a :=
          List.forall_mem_cons.mpr ⟨wellFormed_escape, texts⟩
        rw [runArguments, parse_of_wellFormed whole, unread, if_pos (.inl rfl), asked?, if_pos rfl]
        rfl
      · rintro ⟨a, member, foreign⟩
        obtain ⟨fault, read⟩ := parse_of_not_wellFormed member foreign
        refine ⟨fault, ?_⟩
        rw [runArguments, read]
        rfl
    · rw [forget_runArguments, Surroundings.forget_filtered, s.forget_observed]
  · intro plain
    have unlogged : Unnoted s LogFilter.errorsOnly.admits first rest :=
      ⟨fun _ _ => LogFilter.admits_errorsOnly _, fun _ _ => LogFilter.admits_errorsOnly _⟩
    rw [observe_runArguments_eq_iff]
    exact and_iff_right unlogged

/-- The verb after an escape is performed, and `help` is an unknown verb if a byte follows that is
no text. -/
theorem first_argument_overruled :
    let s := Rehearsal.surroundings false false .empty (.ok ⟨.ofText "/project", .default⟩)
    let code (x : StateM Rehearsal Int) := (x.run (.start [])).1
    code (runArguments s [escape, encode "help"]) = 0 ∧
      code (dispatch s (some (lossy escape))) = 1 ∧
      code (runArguments s [encode "help", [0xFF]]) = 1 ∧
      code (dispatch s (some (lossy (encode "help")))) = 0 := by
  refine ⟨?_, ?_, ?_, ?_⟩ <;> decide +kernel

end Dispatch
end GoTasks
