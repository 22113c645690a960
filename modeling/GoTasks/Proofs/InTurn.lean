import GoTasks.Proofs.FailFast
import GoTasks.Verb.Planning

/-!
# Plans in turn

A plan that is put together from two is executed like the first and then, only if that
succeeded, like the second. The one difference is in the report of a failure: a step of the
first plan also skips the steps of the second, and the report has to say so.

The law holds in every monad, so it holds of what is asked of the surroundings, of the world
that is left and of the result, all at once. Checking a project is the case of linting and
testing it.
-/

namespace GoTasks

namespace Failure

/-- A failure of a step, when steps with further labels come after those that it reports as
skipped. -/
def beforeAlso (later : List String) : Failure → Failure
  | toolFailed step program code => (toolFailed step program code).skipping step later
  | toolNotStarted step cause => (toolNotStarted step cause).skipping step later
  | sequenceAborted step skipped cause => sequenceAborted step (skipped ++ later) cause
  | failure => failure

variable (later : List String) (f : Failure)

theorem root_skipping (label : String) (skipped : List String) :
    (f.skipping label skipped).root = f.root := by
  unfold skipping
  split <;> rfl

theorem hint?_skipping (label : String) (skipped : List String) :
    (f.skipping label skipped).hint? = f.hint? := by
  unfold skipping
  split <;> rfl

/-- Whatever comes later, the cause of a failure is the same. -/
theorem root_beforeAlso : (f.beforeAlso later).root = f.root := by
  cases f <;> first | rfl | exact root_skipping _ _ _

theorem exitCode_beforeAlso : (f.beforeAlso later).exitCode = f.exitCode := by
  cases f <;> first | rfl | exact exitCode_skipping

theorem hint?_beforeAlso : (f.beforeAlso later).hint? = f.hint? := by
  cases f <;> first | rfl | exact hint?_skipping _ _ _

/-- A step skips what is left of its own plan and then all that comes later. -/
theorem skipping_append (step : Step) (answer : Except StartError Completion)
    (skipped : List String) :
    (step.ownFailure answer).skipping step.label (skipped ++ later) =
      ((step.ownFailure answer).skipping step.label skipped).beforeAlso later := by
  cases skipped with
  | nil => cases answer <;> rfl
  | cons label skipped => rfl

end Failure

namespace Plan

variable {m : Type → Type} [Monad m]

/-- Execute a plan and then, only if it succeeded, another one. -/
def executeInTurn (console : Console m) (run : Runner m) (first second : Plan) :
    m (Except Failure Unit) := do
  match ← first.execute console run with
  | .ok () => second.execute console run
  | .error f => pure (.error f)

/-- The result of executing two plans as one, from the result of the first and what the second
comes to after it. -/
def inTurn (later : List String) : Except Failure Unit → m (Except Failure Unit) →
    m (Except Failure Unit)
  | .ok (), rest => rest
  | .error f, _ => pure (.error (f.beforeAlso later))

/-- Steps put together are executed one part after the other. A failure in the first part also
skips the second. -/
theorem executeSteps_append [LawfulMonad m] (console : Console m) (run : Runner m)
    (first second : List Step) :
    executeSteps console run (first ++ second) = (do
      let result ← executeSteps console run first
      inTurn (second.map Step.label) result (executeSteps console run second)) := by
  induction first with
  | nil => rw [List.nil_append, executeSteps_nil, pure_bind, inTurn]
  | cons step rest ih =>
      rw [List.cons_append, executeSteps, executeSteps, bind_assoc]
      congr 1
      funext answer
      rw [step.failure?_eq step.command]
      cases Call.succeeded ⟨step.command, answer⟩ with
      | true => exact ih
      | false =>
          simp only [Bool.false_eq_true, if_false, List.map_append, Failure.skipping_append,
            pure_bind, inTurn]

/-- A plan of one step fails with the failure of that step, which skips nothing. -/
theorem exists_ownFailure_of_single {σ : Type} (console : Console (StateM σ))
    (run : Runner (StateM σ)) (step : Step) (w : σ) {f : Failure}
    (failed : (((single step).execute console.observed (Runner.observed run)).observe w).value =
      .error f) :
    ∃ answer, f = step.ownFailure answer := by
  obtain ⟨calls, sequenced⟩ : ∃ calls, Sequenced [step] calls (.error f) :=
    ⟨_, failed ▸ sequenced_executeSteps console run [step] w⟩
  cases sequenced with
  | @stopped front rest last calls call cut =>
      rcases List.cons_eq_append_iff.mp cut with ⟨-, same⟩ | ⟨_, -, impossible⟩
      · cases same
        exact ⟨call.answer, rfl⟩
      · simp at impossible

/-- What the execution of one plan has to do with executing two others in turn, the first of
which is a step with a label. -/
structure AgreesInTurn {σ : Type} (label : String) (later : List String)
    (seen first turn : Observation σ (Except Failure Unit)) : Prop where
  /-- The same is asked of the surroundings in the same order. So the runner gets the same
  calls. -/
  deeds : seen.deeds = turn.deeds
  /-- The same world is left, with the same runner in it. -/
  world : seen.world = turn.world
  /-- They succeed together. -/
  ok_iff : seen.value = .ok () ↔ turn.value = .ok ()
  /-- They fail together, and for the same reason. -/
  failure : ∀ f, turn.value = .error f → ∃ g, seen.value = .error g ∧
    g.exitCode = f.exitCode ∧ g.root = f.root ∧ g.hint? = f.hint?
  /-- After a success of the first plan there is no difference at all. -/
  after_success : first.value = .ok () → seen.value = turn.value
  /-- A failure of the first plan is wrapped, and skips exactly the second. -/
  wrapped : ∀ f, first.value = .error f → turn.value = .error f ∧
    seen.value = .error (.sequenceAborted label later f)

section

variable {σ : Type} (console : Console (StateM σ)) (run : Runner (StateM σ))

/-- A step and a further plan agree with executing them in turn, if there is a further step to
skip. -/
theorem agreesInTurn (step : Step) {later : Plan} (more : later.labels ≠ []) (w : σ) :
    AgreesInTurn step.label later.labels
      ((execute console.observed (Runner.observed run) ⟨step :: later.steps⟩).observe w)
      (((single step).execute console.observed (Runner.observed run)).observe w)
      ((executeInTurn console.observed (Runner.observed run) (single step) later).observe w) := by
  have together : execute console.observed (Runner.observed run) ⟨step :: later.steps⟩ = (do
      let result ← (single step).execute console.observed (Runner.observed run)
      inTurn later.labels result (later.execute console.observed (Runner.observed run))) :=
    executeSteps_append _ _ [step] later.steps
  have own := @exists_ownFailure_of_single σ console run step w
  rw [together]
  simp only [executeInTurn, Observed.observe_bind]
  generalize ((single step).execute console.observed (Runner.observed run)).observe w = first
    at own
  cases result : first.value with
  | ok =>
      simp only [inTurn]
      refine ⟨rfl, rfl, Iff.rfl, fun f failed => ⟨f, failed, rfl, rfl, rfl⟩, fun _ => rfl, ?_⟩
      intro f failed
      rw [result] at failed
      cases failed
  | error f =>
      obtain ⟨answer, rfl⟩ := own result
      have wrapped : (step.ownFailure answer).beforeAlso later.labels =
          .sequenceAborted step.label later.labels (step.ownFailure answer) := by
        cases answer <;> exact if_neg more
      simp only [inTurn]
      refine ⟨rfl, rfl, ?_, ?_, ?_, ?_⟩
      · simp
      · rintro f ⟨⟩
        exact ⟨_, rfl, Failure.exitCode_beforeAlso .., Failure.root_beforeAlso ..,
          Failure.hint?_beforeAlso ..⟩
      · intro ok
        rw [result] at ok
        cases ok
      · intro f failed
        cases result.symm.trans failed
        exact ⟨rfl, congrArg Except.error wrapped⟩

theorem forget_executeInTurn (console : Console (Observed σ)) (run : Runner (Observed σ))
    (first second : Plan) :
    (executeInTurn console run first second).forget =
      executeInTurn console.forget (Runner.forget run) first second := by
  rw [executeInTurn, Observed.forget_bind, forget_execute]
  congr 1
  funext result
  cases result with
  | ok => exact forget_execute console run second
  | error f => rfl

end

end Plan

/-- Checking a project is linting it and then, only if that succeeded, testing it. The same is
asked of the surroundings, whatever the runner does with its calls, and it comes to the same,
but that a failing linter is reported to have skipped the tests. -/
theorem Verb.check_inTurn {σ : Type} (console : Console (StateM σ)) (run : Runner (StateM σ))
    (source : Stamp.Source (StateM σ)) (ctx : PlanContext) :
    ∃ check lint test : Plan,
      Verb.check.plan console.log source ctx = pure check ∧
      Verb.lint.plan console.log source ctx = pure lint ∧
      Verb.test.plan console.log source ctx = pure test ∧
      check.steps = lint.steps ++ test.steps ∧
      ∀ w,
        let seen := (check.execute console.observed (Runner.observed run)).observe w
        let turn :=
          (Plan.executeInTurn console.observed (Runner.observed run) lint test).observe w
        Plan.AgreesInTurn "lint" ["test"] seen
            ((lint.execute console.observed (Runner.observed run)).observe w) turn ∧
          (check.execute console run).run w = (seen.value, seen.world) ∧
          (Plan.executeInTurn console run lint test).run w = (turn.value, turn.world) := by
  refine ⟨Verb.check.planWith ctx none, Verb.lint.planWith ctx none,
    Verb.test.planWith ctx none, rfl, rfl, rfl, rfl, fun w => ⟨?_, ?_, ?_⟩⟩
  · have more : (Verb.test.planWith ctx none).labels ≠ [] := List.cons_ne_nil _ _
    exact Plan.agreesInTurn console run ⟨Verb.lint.name, ctx.lintCommand⟩ more w
  · exact Observed.run_eq (Plan.forget_execute console.observed (Runner.observed run) _) w
  · exact Observed.run_eq (Plan.forget_executeInTurn console.observed (Runner.observed run) _ _) w

end GoTasks
