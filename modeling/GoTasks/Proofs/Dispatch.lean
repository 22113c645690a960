import GoTasks.Proofs.Performing

/-!
# The contract of dispatch

Which verb is asked for decides what a run may do at all. `Dispatch.Contract` states it for a
run in arbitrary surroundings, verb by verb: the usage for no verb and for `help`, a complaint
and the usage for a name that no verb has, and for every other verb one loading of the project,
the calls of its plan, and never the usage. Whatever is done for a verb, the log is told of it
first.
-/

namespace GoTasks

/-! ## The usage -/

/-- A line that has the name of a verb and, from a column on, its summary. -/
def Usage.row (column : Nat) (v : Verb) : String :=
  "  " ++ v.name ++ "".pushn ' ' (column - v.name.length) ++ v.summary

/-- Whether a text says how the program is called and lists all verbs: each has a line of its own,
and all summaries start in the same column. -/
def Usage.Describes (text : String) : Prop :=
  ∃ (lines : List String) (column : Nat),
    text = String.join (lines.map (· ++ "\n")) ∧ (∀ line ∈ lines, '\n' ∉ line.toList) ∧
      lines.head? = some "Usage: gomk <command>" ∧
      ∀ v : Verb, v.name.length < column ∧ Usage.row column v ∈ lines

theorem Usage.describes_text : Usage.Describes Usage.text := by
  refine ⟨"Usage: gomk <command>" :: "" :: "Commands:" :: Verb.all.map (row 9), 9, ?_, ?_, rfl, ?_⟩
  · decide +kernel
  · decide +kernel
  · intro v
    have short : ∀ v ∈ Verb.all, v.name.length < 9 := by decide
    have listed : row 9 v ∈ Verb.all.map (row 9) := List.mem_map_of_mem (Verb.mem_all v)
    exact ⟨short v (Verb.mem_all v), .tail _ (.tail _ (.tail _ listed))⟩

/-- The usage as a whole. -/
example : Usage.text =
    "Usage: gomk <command>\n\nCommands:\n" ++
    "  test     Run the test suite once, failing after the configured timeout\n" ++
    "  build    Build the binary for the host platform\n" ++
    "  linux    Cross-compile the binary for linux/amd64\n" ++
    "  windows  Cross-compile the binary for windows/amd64\n" ++
    "  darwin   Cross-compile the binary for darwin/arm64\n" ++
    "  run      Run the built binary with the configuration directory\n" ++
    "  lint     Run the linter over the project\n" ++
    "  check    Run lint, then test; stop at the first failure\n" ++
    "  help     Display this help message\n" := by
  decide +kernel

section

variable {m : Type → Type} [Monad m]

theorem dispatch_help (s : Surroundings m) :
    dispatch s (some "help") = (do
      s.console.log (.dispatching .help)
      Dispatch.showUsage s) :=
  rfl

theorem dispatch_unknown (s : Surroundings m) {text : String} (h : ∀ v : Verb, v.name ≠ text) :
    dispatch s (some text) = Dispatch.reject s (.unknownVerb text) := by
  have none_found : Verb.ofName? text = none := by
    rw [Option.eq_none_iff_forall_ne_some]
    intro v found
    exact h v (Verb.name_of_ofName? found)
  simp only [dispatch, none_found]

end

/-- The report of an unknown verb is its error line and its hint. -/
theorem Report.failure_unknownVerb (styled : Bool) (verb : String) :
    failure styled (.unknownVerb verb) =
      Style.error.paint styled "error" ++ ": unknown command '" ++ verb ++ "'\n" ++
        hintLine styled Hint.listVerbs := by
  have opening : ": unknown command '" = ": " ++ "unknown command '" := by decide
  have closing : "'\n" = "'" ++ "\n" := by decide
  have joined : failure styled (.unknownVerb verb) =
      errorLine styled (.unknownVerb verb) ++ hintLine styled Hint.listVerbs := by
    simp [failure, lines, Failure.skipped?, Failure.root, Failure.causes?, Failure.hint?]
  have line : errorLine styled (.unknownVerb verb) =
      Style.error.paint styled "error" ++ ": " ++ ("unknown command '" ++ verb ++ "'") ++ "\n" := by
    unfold errorLine Failure.root Failure.message
    rfl
  simp only [joined, line, opening, closing, String.append_assoc]

namespace Dispatch

variable {σ : Type}

/-- What a run for `verb?` has to keep to, in surroundings that may answer as they like. -/
structure Contract (s : Surroundings (StateM σ)) (verb? : Option String) (w : σ)
    (seen : Observation σ Int) : Prop where
  /-- What is written as the usage says how to call the program, and lists all verbs. -/
  usageText : Usage.Describes Usage.text
  /-- Without a verb all there is to do is to write the usage. -/
  bare : verb? = none → seen.value = 0 ∧ seen.deeds = [.wroteUsage Usage.text, .flushedUsage]
  /-- For `help` it is the same, once the log has been told. -/
  help : verb? = some "help" →
    seen.value = 0 ∧
      seen.deeds = [.logged (.dispatching .help), .wroteUsage Usage.text, .flushedUsage]
  /-- A text that is not the name of a verb is complained about by that text, and the usage
  follows. -/
  unknown : ∀ text, verb? = some text → (∀ v : Verb, v.name ≠ text) →
    seen.value = 1 ∧
      seen.deeds =
        [.complained (Style.error.paint s.console.styled "error" ++
            ": unknown command '" ++ text ++ "'\n" ++
            Report.hintLine s.console.styled Hint.listVerbs),
          .wroteUsage Usage.text, .flushedUsage]
  /-- Any other verb loads the project once and leaves the usage alone. -/
  loads : ∀ v : Verb, verb? = some v.name → v ≠ .help →
    seen.loads = 1 ∧ ∀ d ∈ seen.deeds, d.isUsage = false
  /-- If loading fails, that is the failure of the run, and nothing is run. -/
  unloadable : ∀ v : Verb, verb? = some v.name → v ≠ .help →
    ∀ f, (s.loadProject.run (s.told (.dispatching v) w)).1 = .error f →
      seen.value = f.exitCode ∧
        seen.deeds = [.logged (.dispatching v), .loadedProject,
          .complained (Report.failure s.console.styled f)]
  /-- Otherwise some commands of the plan are run and no others, and success is announced
  exactly if executing the plan succeeds; then the exit code is zero. -/
  performs : ∀ v : Verb, verb? = some v.name → v ≠ .help →
    let loading := s.loadProject.run (s.told (.dispatching v) w)
    ∀ project, loading.1 = .ok project →
      let plan := (s.found v project loading.2).1
      let result := (s.executed v project loading.2).1
      seen.calls ≠ [] ∧
        (∀ call ∈ seen.calls, ∃ step ∈ plan.steps, call.command = step.command) ∧
        (.printed (Style.success.paint s.console.styled "success" ++ ": " ++
            (v.name ++ " finished") ++ "\n") ∈ seen.deeds ↔ result = .ok ()) ∧
        (result = .ok () → seen.value = 0) ∧
        (∀ f, result = .error f → seen.value = f.exitCode)
  /-- Another writer of the usage makes no difference to any of this. -/
  writer : ∀ writeUsage flushUsage,
    let other := (dispatch { s with writeUsage, flushUsage }.observed verb?).observe w
    other.value = seen.value ∧ other.deeds = seen.deeds

variable (s : Surroundings (StateM σ)) (w : σ)

/-- The writer of the usage comes last where it is used, and is not even at hand in a run on a
project. -/
theorem observe_dispatch_writer (verb? : Option String)
    (writeUsage : String → StateM σ (Except SystemError Unit))
    (flushUsage : StateM σ (Except SystemError Unit)) :
    let other := (dispatch { s with writeUsage, flushUsage }.observed verb?).observe w
    let seen := (dispatch s.observed verb?).observe w
    other.value = seen.value ∧ other.deeds = seen.deeds := by
  cases verb? with
  | none => exact ⟨rfl, rfl⟩
  | some text =>
      cases found : Verb.ofName? text with
      | none =>
          simp only [dispatch, found]
          exact ⟨rfl, rfl⟩
      | some v =>
          simp only [dispatch, found]
          cases v <;> exact ⟨rfl, rfl⟩

/-- Every run keeps to the contract. -/
theorem contract (verb? : Option String) :
    Contract s verb? w ((dispatch s.observed verb?).observe w) where
  usageText := Usage.describes_text
  bare := by
    rintro rfl
    exact ⟨rfl, rfl⟩
  help := by
    rintro rfl
    rw [dispatch_help]
    exact ⟨rfl, rfl⟩
  unknown := by
    rintro text rfl unknown
    rw [dispatch_unknown _ unknown, ← Report.failure_unknownVerb]
    exact ⟨rfl, rfl⟩
  loads := by
    rintro v rfl working
    obtain ⟨-, told⟩ := observe_performVerb s w working
    rw [dispatch_name, Observation.loads, told]
    cases loaded : (s.loadProject.run (s.told (.dispatching v) w)).1 with
    | error f =>
        obtain ⟨-, deeds⟩ := observe_unloadable s _ v loaded
        rw [deeds]
        exact ⟨rfl, by simp [Deed.isUsage]⟩
    | ok project =>
        obtain ⟨-, deeds⟩ := observe_loaded s _ v loaded
        have quiet := quiet_perform s v project (s.loadProject.run (s.told (.dispatching v) w)).2
        rw [deeds]
        constructor
        · rw [List.countP_cons_of_neg (by simp [Deed.isLoad]), List.countP_cons_of_pos rfl,
            List.countP_eq_zero.mpr]
          intro d member load
          rw [(quiet d member).1] at load
          cases load
        · intro d member
          rcases List.mem_cons.mp member with rfl | member
          · rfl
          rcases List.mem_cons.mp member with rfl | later
          · rfl
          · exact (quiet d later).2
  unloadable := by
    rintro v rfl working f failed
    obtain ⟨same, told⟩ := observe_performVerb s w working
    obtain ⟨value, deeds⟩ := observe_unloadable s _ v failed
    rw [dispatch_name, same, told, value, deeds]
    exact ⟨rfl, rfl⟩
  performs := by
    rintro v rfl working loading project loaded
    obtain ⟨same, told⟩ := observe_performVerb s w working
    obtain ⟨value, deeds⟩ := observe_loaded s _ v loaded
    rw [dispatch_name, calls_performVerb s w working loaded, same, told, value, deeds]
    have sequenced := sequenced_perform s v project loading.2
    have announced := mem_perform_success_iff s v project loading.2
    obtain ⟨-, -, -, code, -⟩ := observe_perform s v project loading.2
    refine ⟨?_, ?_, ?_, ?_, ?_⟩
    · apply sequenced.calls_ne_nil
      exact Verb.found_steps_ne_nil s project working _
    · exact fun call member => sequenced.exists_step member
    · rw [← announced]
      constructor
      · intro member
        rcases List.mem_cons.mp member with same | member
        · cases same
        rcases List.mem_cons.mp member with same | later
        · cases same
        · exact later
      · exact fun member => .tail _ (.tail _ member)
    · intro ok
      rw [code, ok]
      rfl
    · intro f failed
      rw [code, failed]
      rfl
  writer := observe_dispatch_writer s w verb?

/-- Every run keeps to the contract, whatever it is asked for and however its surroundings
answer: the loader, the runner, the environment, the console and the writer of the usage. Up to
the list of its deeds the run is the one that nobody observes. -/
theorem dispatch_contract (verb? : Option String) :
    Contract s verb? w ((dispatch s.observed verb?).observe w) ∧
      (dispatch s.observed verb?).forget = dispatch s verb? :=
  ⟨contract s w verb?, forget_dispatch s.observed verb?⟩

/-- The names that the contract speaks of. -/
example : Verb.all.map Verb.name =
    ["test", "build", "linux", "windows", "darwin", "run", "lint", "check", "help"] := by
  decide

end Dispatch
end GoTasks
