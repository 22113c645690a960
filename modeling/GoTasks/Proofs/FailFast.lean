import GoTasks.Proofs.Observation

/-!
# Fail-fast sequencing

Executing a plan is compared with an account of it: which commands the runner received, how
each was answered, and what the execution came to. `Plan.FailFast` says of such an account
what can be asked of it without looking at the execution.

The runner and the console are arbitrary and share one world. The induction is over the steps
that are left, for every world that the steps before may have led to. It is carried by
`Sequenced`, which has one case for an execution that reaches its end and one for an execution
that stops, and cuts the plan at the step it stopped at.
-/

namespace GoTasks

/-- The failure that an answer amounts to for a step, when nothing is said of other steps. -/
def Step.ownFailure (step : Step) : Except StartError Completion → Failure
  | .error e => .toolNotStarted step.label e
  | .ok completion => .toolFailed step.label step.command.program completion.exitCode

namespace Step

/-- Only an answer without success is a failure, and then it is the step's own. -/
theorem failure?_eq (step : Step) (command : Command)
    (answer : Except StartError Completion) :
    step.failure? answer =
      if Call.succeeded ⟨command, answer⟩ then none else some (step.ownFailure answer) := by
  cases answer <;> rfl

theorem skipped?_ownFailure (step : Step) (answer : Except StartError Completion) :
    (step.ownFailure answer).skipped? = none := by
  cases answer <;> rfl

end Step

/-- The labels that a result reports as skipped. -/
def skippedBy : Except Failure Unit → List String
  | .ok () => []
  | .error f => f.skipped?.getD []

namespace Failure

variable {f : Failure} {label : String} {skipped : List String}

/-- Wrapping changes a failure that reports nothing as skipped, unless there is nothing. -/
theorem skipping_eq_self_iff (bare : f.skipped? = none) :
    f.skipping label skipped = f ↔ skipped = [] := by
  unfold skipping
  split
  · next empty => exact ⟨fun _ => empty, fun _ => rfl⟩
  · next nonempty =>
    refine ⟨fun same => ?_, fun empty => absurd empty nonempty⟩
    rw [← same] at bare
    cases bare

theorem skippedBy_skipping (bare : f.skipped? = none) :
    skippedBy (.error (f.skipping label skipped)) = skipped := by
  unfold skipping
  split
  · next empty => simp [skippedBy, bare, empty]
  · rfl

/-- Wrapping does not change with which code a run ends. -/
theorem exitCode_skipping : (f.skipping label skipped).exitCode = f.exitCode := by
  unfold skipping
  split <;> rfl

end Failure

/-- An account of an execution of `plan` that fails fast, and exactly so. -/
structure Plan.FailFast (plan : Plan) (calls : List Call) (result : Except Failure Unit) :
    Prop where
  /-- The runner received the commands of the first steps in order, each once. -/
  front : calls.map Call.command = (plan.steps.take calls.length).map Step.command
  /-- It received all of them exactly if no step before the last failed. -/
  whole_iff : calls.length = plan.steps.length ↔
    ∀ i, i + 1 < plan.steps.length → ∃ call, calls[i]? = some call ∧ call.succeeded
  /-- Otherwise the last call is the first one that failed. -/
  ends_at_failure : calls.length ≠ plan.steps.length →
    ∃ before call, calls = before ++ [call] ∧ call.succeeded = false ∧
      ∀ earlier ∈ before, earlier.succeeded
  /-- The result is good exactly if every step was run and succeeded. -/
  ok_iff : result = .ok () ↔
    calls.length = plan.steps.length ∧ ∀ call ∈ calls, call.succeeded
  /-- A failure is that of the step whose call came last. It stands alone exactly if that is
  the last step of the plan, and has one wrapper around it otherwise. -/
  failure_of_last : ∀ f, result = .error f → ∃ i step call,
    calls.length = i + 1 ∧ plan.steps[i]? = some step ∧ calls[i]? = some call ∧
      call.succeeded = false ∧
      (f = step.ownFailure call.answer ↔ i + 1 = plan.steps.length) ∧
      (i + 1 ≠ plan.steps.length →
        f = .sequenceAborted step.label (plan.labels.drop (i + 1)) (step.ownFailure call.answer))
  /-- The labels of the commands run, followed by those skipped, are the labels of the plan. -/
  labels : plan.labels.take calls.length ++ skippedBy result = plan.labels

/-- The calls and the result of an execution of some steps: it reaches their end with every
call a success, or stops at the first call that is none. -/
inductive Sequenced (steps : List Step) : List Call → Except Failure Unit → Prop where
  | completed {calls : List Call} (commands : calls.map Call.command = steps.map Step.command)
      (succeeded : ∀ call ∈ calls, call.succeeded) : Sequenced steps calls (.ok ())
  | stopped {front rest : List Step} {step : Step} {calls : List Call} {call : Call}
      (cut : steps = front ++ step :: rest)
      (commands : calls.map Call.command = front.map Step.command)
      (succeeded : ∀ call ∈ calls, call.succeeded)
      (command : call.command = step.command) (failed : call.succeeded = false) :
      Sequenced steps (calls ++ [call])
        (.error ((step.ownFailure call.answer).skipping step.label (rest.map Step.label)))

namespace Sequenced

variable {steps : List Step} {step : Step} {calls : List Call} {call : Call}
variable {result : Except Failure Unit}

/-- A successful call goes before whatever the steps after it come to. -/
theorem cons (command : call.command = step.command) (succeeded : call.succeeded)
    (rest : Sequenced steps calls result) :
    Sequenced (step :: steps) (call :: calls) result := by
  have all {calls : List Call} (h : ∀ call ∈ calls, call.succeeded) :
      ∀ c ∈ call :: calls, c.succeeded := by
    simpa [succeeded] using h
  cases rest with
  | completed commands successes =>
      exact .completed (by simp [command, commands]) (all successes)
  | @stopped front rest stop calls last cut commands successes lastCommand failed =>
      have longer : step :: steps = (step :: front) ++ stop :: rest := by rw [cut]; rfl
      rw [← List.cons_append]
      exact .stopped longer (by simp [command, commands]) (all successes) lastCommand failed

/-- A failing call is the last, and skips the steps after it. -/
theorem stop (command : call.command = step.command) (failed : call.succeeded = false) :
    Sequenced (step :: steps) [call]
      (.error ((step.ownFailure call.answer).skipping step.label (steps.map Step.label))) :=
  .stopped (List.nil_append (step :: steps)).symm List.map_nil
    (fun _ member => absurd member List.not_mem_nil) command failed

/-- Where there are steps, the first of them is run. -/
theorem calls_ne_nil (sequenced : Sequenced steps calls result) (nonempty : steps ≠ []) :
    calls ≠ [] := by
  cases sequenced with
  | completed commands _ =>
      rintro rfl
      exact nonempty (List.map_eq_nil_iff.mp commands.symm)
  | stopped => simp

/-- Only commands of the steps are run. -/
theorem exists_step (sequenced : Sequenced steps calls result) (member : call ∈ calls) :
    ∃ step ∈ steps, call.command = step.command := by
  suffices named : call.command ∈ steps.map Step.command by
    obtain ⟨step, inSteps, same⟩ := List.mem_map.mp named
    exact ⟨step, inSteps, same.symm⟩
  cases sequenced with
  | completed commands _ =>
      rw [← commands]
      exact List.mem_map_of_mem member
  | @stopped front rest last before final cut commands _ command _ =>
      rw [cut, List.map_append, List.map_cons]
      rcases List.mem_append.mp member with early | late
      · apply List.mem_append_left
        rw [← commands]
        exact List.mem_map_of_mem early
      · apply List.mem_append_right
        rw [List.mem_singleton.mp late, command]
        exact List.mem_cons_self

end Sequenced

namespace Plan

variable {plan : Plan} {calls : List Call}

/-- An execution that reaches the end of its plan. -/
theorem FailFast.of_completed (commands : calls.map Call.command = plan.steps.map Step.command)
    (succeeded : ∀ call ∈ calls, call.succeeded) : plan.FailFast calls (.ok ()) := by
  have length : calls.length = plan.steps.length := by
    simpa using congrArg List.length commands
  have inPlan : ∀ i, i + 1 < plan.steps.length →
      ∃ call, calls[i]? = some call ∧ call.succeeded := by
    intro i inside
    have early : i < calls.length := by omega
    exact ⟨calls[i], List.getElem?_eq_getElem early, succeeded _ (List.getElem_mem early)⟩
  exact {
    front := by rw [commands, length, List.take_length]
    whole_iff := ⟨fun _ => inPlan, fun _ => length⟩
    ends_at_failure := fun short => absurd length short
    ok_iff := ⟨fun _ => ⟨length, succeeded⟩, fun _ => rfl⟩
    failure_of_last := fun _ failed => by cases failed
    labels := by
      rw [skippedBy, List.append_nil, List.take_of_length_le]
      simp [Plan.labels, length] }

/-- An execution that stops. Every field is read off the two cuts at the step it stopped at:
that of the plan and that of the calls. -/
theorem FailFast.of_stopped {front rest : List Step} {step : Step} {call : Call}
    (cut : plan.steps = front ++ step :: rest)
    (commands : calls.map Call.command = front.map Step.command)
    (succeeded : ∀ call ∈ calls, call.succeeded)
    (command : call.command = step.command) (failed : call.succeeded = false) :
    plan.FailFast (calls ++ [call])
      (.error ((step.ownFailure call.answer).skipping step.label (rest.map Step.label))) := by
  have length : calls.length = front.length := by
    simpa using congrArg List.length commands
  have size : plan.steps.length = calls.length + 1 + rest.length := by
    rw [cut, List.length_append, List.length_cons, length]
    omega
  have ran : plan.steps.take (calls.length + 1) = front ++ [step] := by
    simp [cut, length, List.take_append, List.take_of_length_le]
  have left : plan.steps.drop (calls.length + 1) = rest := by
    simp [cut, length]
  have isLast : calls.length + 1 = plan.steps.length ↔ rest = [] := by
    rw [← List.length_eq_zero_iff]
    omega
  have last : (calls ++ [call])[calls.length]? = some call := by simp
  have unsuccessful : ¬ call.succeeded := by simp [failed]
  have called : (calls ++ [call]).length = calls.length + 1 := by simp
  exact {
    front := by
      rw [called, ran, List.map_append, List.map_append, commands, List.map_singleton,
        List.map_singleton, command]
    whole_iff := by
      rw [called]
      constructor
      · intro whole i inside
        have early : i < calls.length := by omega
        refine ⟨calls[i], ?_, succeeded _ (List.getElem_mem early)⟩
        rw [List.getElem?_append_left early, List.getElem?_eq_getElem]
      · intro all
        refine Decidable.byContradiction fun short => ?_
        obtain ⟨c, there, good⟩ := all calls.length (by omega)
        rw [last, Option.some.injEq] at there
        exact unsuccessful (there ▸ good)
    ends_at_failure := fun _ => ⟨calls, call, rfl, failed, succeeded⟩
    ok_iff := by
      constructor
      · intro ok
        cases ok
      · rintro ⟨-, all⟩
        exact absurd (all call (by simp)) unsuccessful
    failure_of_last := by
      rintro f ⟨⟩
      refine ⟨calls.length, step, call, called, by simp [cut, length], last, failed, ?_, ?_⟩
      · rw [isLast, Failure.skipping_eq_self_iff (step.skipped?_ownFailure _),
          List.map_eq_nil_iff]
      · intro short
        have more : rest.map Step.label ≠ [] := by
          rwa [ne_eq, List.map_eq_nil_iff, ← isLast]
        rw [Failure.skipping, if_neg more, Plan.labels, ← List.map_drop, left]
    labels := by
      rw [Failure.skippedBy_skipping (step.skipped?_ownFailure _), called, Plan.labels,
        ← List.map_take, ran, ← List.map_append, cut, List.append_assoc,
        List.singleton_append] }

end Plan

namespace Sequenced

/-- What an execution comes to is exact fail-fast sequencing. -/
theorem failFast {plan : Plan} (h : Sequenced plan.steps calls result) :
    plan.FailFast calls result := by
  cases h with
  | completed commands succeeded => exact .of_completed commands succeeded
  | stopped cut commands succeeded command failed =>
      exact .of_stopped cut commands succeeded command failed

end Sequenced

/-- What an execution may do besides deciding: announce a step, and run a command. -/
inductive ExecutionDeed {σ : Type} (styled : Bool) (run : Runner (StateM σ)) : Deed → Prop where
  | logged (event : LogEvent) : ExecutionDeed styled run (.logged event)
  | banner (label command : String) :
      ExecutionDeed styled run (.printed (Report.stepBanner styled label command))
  | called (command : Command) (w : σ) :
      ExecutionDeed styled run (.ran ⟨command, ((run command).run w).1⟩)

namespace Plan

variable {σ : Type} (console : Console (StateM σ)) (run : Runner (StateM σ))

/-- One step makes one call, with its own command and the answer it goes on with. -/
theorem calls_runStep (step : Step) (w : σ) :
    ((runStep console.observed (Runner.observed run) step).observe w).calls =
      [⟨step.command, ((runStep console.observed (Runner.observed run) step).observe w).value⟩] :=
  rfl

theorem only_runStep (step : Step) :
    Observed.Only (ExecutionDeed console.styled run)
      (runStep console.observed (Runner.observed run) step) :=
  .bind (.request fun _ => .logged _) fun _ =>
    .bind (.request fun _ => .banner _ _) fun _ => .request fun w => .called step.command w

/-- Every execution is one that reaches its end or stops at the first failure. -/
theorem sequenced_executeSteps (steps : List Step) (w : σ) :
    Sequenced steps
      ((executeSteps console.observed (Runner.observed run) steps).observe w).calls
      ((executeSteps console.observed (Runner.observed run) steps).observe w).value := by
  induction steps generalizing w with
  | nil => exact .completed rfl (fun _ member => absurd member List.not_mem_nil)
  | cons step rest ih =>
      rw [executeSteps, Observed.calls_bind, calls_runStep, Observed.observe_bind]
      generalize (runStep console.observed (Runner.observed run) step).observe w = first
      rw [step.failure?_eq step.command]
      cases succeeded : Call.succeeded ⟨step.command, first.value⟩ with
      | true => exact .cons rfl succeeded (ih first.world)
      | false => exact .stop rfl succeeded

theorem only_executeSteps (steps : List Step) :
    Observed.Only (ExecutionDeed console.styled run)
      (executeSteps console.observed (Runner.observed run) steps) := by
  induction steps with
  | nil => exact .pure _
  | cons step rest ih =>
      refine .bind (only_runStep console run step) fun answer => ?_
      cases step.failure? answer with
      | none => exact ih
      | some f => exact .pure _

theorem forget_executeSteps (console : Console (Observed σ)) (run : Runner (Observed σ))
    (steps : List Step) :
    (executeSteps console run steps).forget =
      executeSteps console.forget (Runner.forget run) steps := by
  induction steps with
  | nil => rfl
  | cons step rest ih =>
      have first : (runStep console run step).forget =
          runStep console.forget (Runner.forget run) step := rfl
      rw [executeSteps, executeSteps, Observed.forget_bind, first]
      congr 1
      funext answer
      cases step.failure? answer with
      | none => exact ih
      | some f => rfl

theorem forget_execute (console : Console (Observed σ)) (run : Runner (Observed σ)) (plan : Plan) :
    (plan.execute console run).forget = plan.execute console.forget (Runner.forget run) :=
  forget_executeSteps console run plan.steps

/-- Executing a plan is exact fail-fast sequencing, for every plan and for a runner of any
state that answers each call as it likes. The account is that of the run itself: listing the
calls changes neither its result nor the world it leaves. -/
theorem execute_failFast (plan : Plan) (w : σ) :
    let seen := (plan.execute console.observed (Runner.observed run)).observe w
    plan.FailFast seen.calls seen.value ∧
      (plan.execute console run).run w = (seen.value, seen.world) :=
  ⟨(sequenced_executeSteps console run plan.steps w).failFast,
    Observed.run_eq (forget_execute console.observed (Runner.observed run) plan) w⟩

end Plan
end GoTasks
