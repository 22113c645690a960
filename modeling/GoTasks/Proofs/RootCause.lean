import GoTasks.Proofs.InTurn

/-!
# Root causes

A failure can be wrapped any number of times. Its root is the one failure inside that wraps no
other, and what a run makes of a failure agrees with the root: the exit code, the hint, and the
first line of the report. Only the skipped steps are those of the outermost wrapper.

What a report says is stated without looking at how it is put together: its lines in order, each of
the later ones there exactly if there is something to say in it. The execution of a plan wraps the
failure of a step at most once, so its report names that step's own failure and the steps that were
not run.
-/

namespace GoTasks

namespace Failure

/-- Whether a failure wraps no other one. -/
def IsBare (f : Failure) : Prop :=
  ∀ step skipped cause, f ≠ sequenceAborted step skipped cause

/-- A failure inside wrappers, the outermost first, each with its step and the steps it skips. -/
def within (f : Failure) (wrappers : List (String × List String)) : Failure :=
  wrappers.foldr (fun (step, skipped) cause => sequenceAborted step skipped cause) f

/-- Whether a question about failures is answered through a wrapper by the failure inside. -/
def SeesThrough {α : Type} (question : Failure → α) : Prop :=
  ∀ step skipped cause, question (sequenceAborted step skipped cause) = question cause

/-- The root of a failure, and what it decides. -/
structure Rooted (f : Failure) : Prop where
  /-- The root wraps nothing. -/
  bare : f.root.IsBare
  /-- It is the one bare failure that becomes the given one inside wrappers. -/
  root_iff : ∀ g, f.root = g ↔ g.IsBare ∧ ∃ wrappers, f = g.within wrappers
  root_root : f.root.root = f.root
  exitCode : f.exitCode = f.root.exitCode
  hint? : f.hint? = f.root.hint?

variable {f : Failure} {label : String} {labels : List String}

/-! ## Wrappers -/

theorem skipped?_eq_some_iff :
    f.skipped? = some labels ↔ ∃ step cause, f = sequenceAborted step labels cause := by
  cases f with
  | sequenceAborted step skipped cause => simp [skipped?]
  | _ => simp [skipped?]

/-- A failure is bare exactly if it reports nothing as skipped. -/
theorem isBare_iff : f.IsBare ↔ f.skipped? = none := by
  rw [Option.eq_none_iff_forall_ne_some]
  constructor
  · intro bare labels skips
    obtain ⟨step, cause, same⟩ := skipped?_eq_some_iff.mp skips
    exact bare step labels cause same
  · intro nothing step skipped cause same
    exact nothing skipped (skipped?_eq_some_iff.mpr ⟨step, cause, same⟩)

/-- A bare failure with steps after it reports exactly those, if there are any. -/
theorem skipped?_skipping (bare : f.IsBare) (later : List String) :
    (f.skipping label later).skipped? = some labels ↔ labels = later ∧ labels ≠ [] := by
  unfold skipping
  split
  · next none_later =>
    rw [isBare_iff.mp bare, none_later]
    simp
  · next some_later =>
    rw [skipped?, Option.some.injEq]
    constructor
    · rintro rfl
      exact ⟨rfl, some_later⟩
    · exact fun both => both.1.symm

/-! ## The root -/

theorem isBare_root (f : Failure) : f.root.IsBare := by
  induction f with
  | sequenceAborted step skipped cause ih => exact ih
  | _ => exact isBare_iff.mpr rfl

/-- A bare failure is its own root. -/
theorem root_eq_self (bare : f.IsBare) : f.root = f := by
  cases f with
  | sequenceAborted step skipped cause => exact absurd rfl (bare step skipped cause)
  | _ => rfl

/-- Every failure is its root inside wrappers. -/
theorem exists_eq_within_root (f : Failure) : ∃ wrappers, f = f.root.within wrappers := by
  induction f with
  | sequenceAborted step skipped cause ih =>
      obtain ⟨wrappers, same⟩ := ih
      exact ⟨(step, skipped) :: wrappers, congrArg (sequenceAborted step skipped) same⟩
  | _ => exact ⟨[], rfl⟩

namespace SeesThrough

variable {α : Type} {question : Failure → α}

/-- However many wrappers there are, the answer is that of the failure inside them. -/
theorem within (through : SeesThrough question) (f : Failure)
    (wrappers : List (String × List String)) : question (f.within wrappers) = question f := by
  induction wrappers with
  | nil => rfl
  | cons wrapper wrappers ih => exact (through _ _ _).trans ih

/-- The answer is that of the root. -/
theorem eq_root (through : SeesThrough question) (f : Failure) : question f = question f.root := by
  obtain ⟨wrappers, same⟩ := exists_eq_within_root f
  calc question f = question (f.root.within wrappers) := congrArg question same
    _ = question f.root := through.within f.root wrappers

end SeesThrough

theorem seesThrough_root : SeesThrough root := root_sequenceAborted

theorem seesThrough_exitCode : SeesThrough exitCode := exitCode_sequenceAborted

theorem seesThrough_hint? : SeesThrough hint? := hint?_sequenceAborted

theorem rooted (f : Failure) : f.Rooted where
  bare := isBare_root f
  root_iff g := by
    constructor
    · rintro rfl
      exact ⟨isBare_root f, exists_eq_within_root f⟩
    · rintro ⟨bare, wrappers, rfl⟩
      rw [seesThrough_root.within, root_eq_self bare]
  root_root := (seesThrough_root.eq_root f).symm
  exitCode := seesThrough_exitCode.eq_root f
  hint? := seesThrough_hint?.eq_root f

end Failure

namespace Report

/-! ## What a report says -/

/-- A line of a report that is there exactly if there is something to say in it. -/
inductive OptionalLine {α : Type} (said : α → Prop) (line : α → String) : String → Prop where
  | present (a : α) (something : said a) : OptionalLine said line (line a ++ "\n")
  | absent (nothing : ∀ a, ¬ said a) : OptionalLine said line ""

/-- The line on skipped steps, for labels that are to be listed. -/
def SkippedLine (listed : List String → Prop) : String → Prop :=
  OptionalLine listed fun labels => "  skipped: " ++ ", ".intercalate labels

/-- The line on the causes of a failure; only an unusable configuration can have any. -/
def CausesLine (f : Failure) : String → Prop :=
  OptionalLine (fun chain => chain ≠ [] ∧ ∃ message hint?, f = .configuration message chain hint?)
    fun chain => "  caused by: " ++ ": ".intercalate chain

/-- The line on what can be done about a failure. -/
def HintLine (f : Failure) : String → Prop :=
  OptionalLine (fun advice => f.hint? = some advice) fun advice => "hint: " ++ advice

/-- What an unstyled report says of a failure, and all that it says: its root, the steps that the
outermost wrapper skipped, the causes of the root and the hint. -/
def Tells (f : Failure) (text : String) : Prop :=
  ∃ skipped causes hint,
    text = "error: " ++ f.root.message ++ "\n" ++ skipped ++ causes ++ hint ∧
      SkippedLine (fun labels => ∃ step cause, f = .sequenceAborted step labels cause) skipped ∧
      CausesLine f.root causes ∧ HintLine f hint

/-- What an unstyled report says of a step with its own failure, when steps with further labels
were left. -/
def TellsStep (own : Failure) (left : List String) (text : String) : Prop :=
  ∃ skipped hint,
    text = "error: " ++ own.message ++ "\n" ++ skipped ++ hint ∧
      SkippedLine (fun labels => labels = left ∧ labels ≠ []) skipped ∧ HintLine own hint

namespace OptionalLine

variable {α : Type} {said same : α → Prop} {line : α → String} {text : String}

theorem congr (iff : ∀ a, said a ↔ same a) (h : OptionalLine said line text) :
    OptionalLine same line text := by
  cases h with
  | present a something => exact .present a ((iff a).mp something)
  | absent nothing => exact .absent fun a something => nothing a ((iff a).mpr something)

theorem eq_empty (nothing : ∀ a, ¬ said a) (h : OptionalLine said line text) : text = "" := by
  cases h with
  | present a something => exact absurd something (nothing a)
  | absent => rfl

/-- The lines of an optional value are an optional line. -/
theorem of_option {value? : Option α} {write : α → String} (iff : ∀ a, value? = some a ↔ said a)
    (written : ∀ a, write a = line a ++ "\n") :
    OptionalLine said line (String.join (value?.map write).toList) := by
  cases value? with
  | none => exact .absent fun a something => nomatch (iff a).mpr something
  | some a =>
      rw [Option.map_some, Option.toList_some, String.join_cons, String.join_nil,
        String.append_empty, written]
      exact .present a ((iff a).mp rfl)

end OptionalLine

variable (f : Failure)

theorem causes?_eq_some_iff {chain : List String} :
    f.causes? = some chain ↔
      chain ≠ [] ∧ ∃ message hint?, f = .configuration message chain hint? := by
  cases f with
  | configuration message causes hint? =>
      cases causes with
      | nil =>
          constructor
          · intro given
            cases given
          · rintro ⟨nonempty, _, _, ⟨⟩⟩
            exact absurd rfl nonempty
      | cons cause causes =>
          constructor
          · rintro ⟨⟩
            exact ⟨List.cons_ne_nil cause causes, message, hint?, rfl⟩
          · rintro ⟨-, _, _, ⟨⟩⟩
            rfl
  | _ => simp [Failure.causes?]

theorem errorLine_false : errorLine false f = "error: " ++ f.root.message ++ "\n" := by
  rw [errorLine, Style.paint_false]
  rfl

theorem skippedLine_false (labels : List String) :
    skippedLine false labels = "  skipped: " ++ ", ".intercalate labels ++ "\n" := by
  rw [skippedLine, Style.paint_false]
  rfl

theorem causesLine_false (chain : List String) :
    causesLine false chain = "  caused by: " ++ ": ".intercalate chain ++ "\n" := by
  rw [causesLine, Style.paint_false]
  rfl

theorem hintLine_false (advice : String) : hintLine false advice = "hint: " ++ advice ++ "\n" := by
  rw [hintLine, Style.paint_false]
  rfl

/-- The report of a failure says what there is to say of it. -/
theorem tells_failure : Tells f (failure false f) := by
  have joined : failure false f = errorLine false f ++
      String.join (f.skipped?.map (skippedLine false)).toList ++
      String.join (f.root.causes?.map (causesLine false)).toList ++
      String.join (f.hint?.map (hintLine false)).toList := by
    rw [failure, lines, String.join_append, String.join_append, String.join_append,
      String.join_cons, String.join_nil, String.append_empty]
  rw [joined, errorLine_false]
  refine ⟨_, _, _, rfl, ?_, ?_, ?_⟩
  · exact .of_option (fun _ => Failure.skipped?_eq_some_iff) skippedLine_false
  · exact .of_option (fun _ => causes?_eq_some_iff f.root) causesLine_false
  · exact .of_option (fun _ => Iff.rfl) hintLine_false

end Report

/-! ## Executions -/

/-- Whether an execution of a plan with some calls stops at a step, whose call fails, and leaves
further steps. -/
structure Plan.StopsAt (plan : Plan) (calls : List Call) (step : Step) (call : Call)
    (left : List Step) : Prop where
  /-- The commands up to that of the step were run, and no others. -/
  ran : ∃ front, plan.steps = front ++ step :: left ∧
    calls.map Call.command = (front ++ [step]).map Step.command
  last : calls.getLast? = some call
  failed : call.succeeded = false

theorem Step.isBare_ownFailure (step : Step) (answer : Except StartError Completion) :
    (step.ownFailure answer).IsBare :=
  Failure.isBare_iff.mpr (step.skipped?_ownFailure answer)

/-- An execution that fails stops at a step, and its failure is that of the step with the steps that
are left. -/
theorem Sequenced.exists_stopsAt {plan : Plan} {calls : List Call} {f : Failure}
    (h : Sequenced plan.steps calls (.error f)) :
    ∃ step call left, plan.StopsAt calls step call left ∧
      f = (step.ownFailure call.answer).skipping step.label (left.map Step.label) := by
  cases h with
  | @stopped front left step before call cut commands _ command failed =>
      refine ⟨step, call, left, ⟨⟨front, cut, ?_⟩, List.getLast?_concat, failed⟩, rfl⟩
      rw [List.map_append, List.map_append, commands, List.map_singleton, List.map_singleton,
        command]

namespace Report

/-- The report of a step's failure with the steps that are left says what there is to say of the
step and of those. -/
theorem tellsStep_skipping (step : Step) (answer : Except StartError Completion)
    (left : List String) :
    TellsStep (step.ownFailure answer) left
      (failure false ((step.ownFailure answer).skipping step.label left)) := by
  have bare := step.isBare_ownFailure answer
  obtain ⟨skipped, causes, hint, text, skips, caused, hinted⟩ :=
    tells_failure ((step.ownFailure answer).skipping step.label left)
  rw [Failure.root_skipping, Failure.root_eq_self bare] at text caused
  -- Only an unusable configuration has causes, and no failure of a step is one.
  have no_causes : causes = "" := by
    apply OptionalLine.eq_empty _ caused
    rintro chain ⟨-, message, hint?, same⟩
    cases answer <;> cases same
  refine ⟨skipped, hint, ?_, ?_, ?_⟩
  · rw [text, no_causes, String.append_empty]
  · apply OptionalLine.congr _ skips
    intro labels
    rw [← Failure.skipped?_eq_some_iff, Failure.skipped?_skipping bare]
  · rwa [HintLine, Failure.hint?_skipping] at hinted

/-- What a run makes of a failure agrees with its root, however deep the root lies: the exit code,
the hint and all of the report but the skipped steps, which are those of the outermost wrapper. The
report of a failed execution names the step that failed, by that step's own failure, and exactly the
steps that were not run. -/
theorem agrees_with_root :
    (∀ f : Failure, f.Rooted ∧ Tells f (failure false f)) ∧
      ∀ {σ : Type} (console : Console (StateM σ)) (run : Runner (StateM σ)) (plan : Plan) (w : σ),
        let seen := (plan.execute console.observed (Runner.observed run)).observe w
        (plan.execute console run).run w = (seen.value, seen.world) ∧
          ∀ f, seen.value = .error f → ∃ step call left, plan.StopsAt seen.calls step call left ∧
            f.root = step.ownFailure call.answer ∧
            TellsStep (step.ownFailure call.answer) (left.map Step.label) (failure false f) := by
  constructor
  · exact fun f => ⟨f.rooted, tells_failure f⟩
  · intro σ console run plan w seen
    refine ⟨Observed.run_eq (Plan.forget_execute console.observed (Runner.observed run) plan) w, ?_⟩
    intro f failed
    have sequenced : Sequenced plan.steps seen.calls seen.value :=
      Plan.sequenced_executeSteps console run plan.steps w
    rw [failed] at sequenced
    obtain ⟨step, call, left, stops, rfl⟩ := sequenced.exists_stopsAt
    refine ⟨step, call, left, stops, ?_, tellsStep_skipping step call.answer _⟩
    rw [Failure.root_skipping, Failure.root_eq_self (step.isBare_ownFailure _)]

/-- A linter fails before the tests: the report names the linter's failure and the tests. -/
theorem agrees_with_root_linter :
    let command : Command := ⟨"golangci-lint", ["run"], .empty, .ofText "/project"⟩
    let plan : Plan := ⟨[⟨"lint", command⟩, ⟨"test", command⟩]⟩
    let console : Console (StateM Unit) :=
      ⟨false, fun _ => pure (), fun _ => pure (), fun _ => pure ()⟩
    let run : Runner (StateM Unit) := fun _ => pure (.ok ⟨false, 5⟩)
    let seen := (plan.execute console.observed (Runner.observed run)).observe ()
    let f : Failure := .sequenceAborted "lint" ["test"] (.toolFailed "lint" "golangci-lint" 5)
    seen.value = .error f ∧
      failure false f =
        "error: lint failed: `golangci-lint` exited with code 5\n  skipped: test\n" ∧
      ∃ step call left, plan.StopsAt seen.calls step call left ∧
        f.root = step.ownFailure call.answer ∧
        TellsStep (step.ownFailure call.answer) (left.map Step.label) (failure false f) := by
  intro command plan console run seen f
  have failed : seen.value = .error f := rfl
  have text : failure false f =
      "error: lint failed: `golangci-lint` exited with code 5\n  skipped: test\n" := by
    decide +kernel
  exact ⟨failed, text, (agrees_with_root.2 console run plan ()).2 f failed⟩

/-- The root is two wrappers deep; the skipped steps are those of the outer one. -/
example :
    failure false (.sequenceAborted "check" ["release"] (.sequenceAborted "lint" ["test"]
      (.configuration "no project" ["cannot read", "denied"] (some "look elsewhere")))) =
    "error: Configuration error: no project\n  skipped: release\n" ++
      "  caused by: cannot read: denied\nhint: look elsewhere\n" := by
  decide

end Report
end GoTasks
