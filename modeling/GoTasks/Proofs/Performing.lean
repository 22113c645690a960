import GoTasks.Proofs.FailFast

/-!
# Performing a verb

A run on a project has three parts: it finds the plan, executes it, and concludes from the
result. Each part has its own kind of deeds. What is shown of a whole run is put together from
the parts here, and nothing after this module looks into them again.
-/

namespace GoTasks

section

variable {m : Type → Type} [Monad m]

/-- Find the plan of a verb for a project, in the environment of the run, and tell the log. -/
def Surroundings.planFor (s : Surroundings m) (v : Verb) (project : Project) : m Plan := do
  let environment ← s.environment
  let plan ← v.plan s.console.log s.stampSource ⟨project, environment, none⟩
  s.console.log (.planned plan.steps.length project.root)
  pure plan

namespace Dispatch

/-- What is done with the result of a plan. -/
def conclude (s : Surroundings m) (v : Verb) : Except Failure Unit → m Int
  | .ok () => do
    s.console.out (Report.success s.console.styled (successMessage v))
    pure successExitCode
  | .error f => fail s f

/-- Performing a verb is finding its plan, executing it, and concluding. -/
theorem perform_eq [LawfulMonad m] (s : Surroundings m) (v : Verb) (project : Project) :
    perform s v project = (do
      let plan ← s.planFor v project
      let result ← plan.execute s.console s.run
      conclude s v result) := by
  simp only [perform, Surroundings.planFor, bind_assoc, pure_bind]
  rfl

/-- A verb that works on a project performs on it what it is named for. -/
theorem performVerb_eq (s : Surroundings m) {v : Verb} (working : v ≠ .help) :
    performVerb s v = (do
      s.console.log (.dispatching v)
      performOnProject s v) := by
  have needed : v.needsProject = true := decide_eq_true working
  simp only [performVerb, needed, if_true]

end Dispatch

theorem dispatch_name (s : Surroundings m) (v : Verb) :
    dispatch s (some v.name) = Dispatch.performVerb s v := by
  simp only [dispatch, Verb.ofName?_name]

end

/-! ## The parts -/

/-- The lines before a step and after a success start differently. -/
theorem Report.stepBanner_ne_success (styled : Bool) (label command message : String) :
    stepBanner styled label command ≠ success styled message := by
  intro same
  cases styled with
  | false =>
      have first := congrArg (fun text => text.toList.head?) same
      simp [stepBanner, success] at first
  | true =>
      -- Both start with a control sequence, and the codes differ in their second digit.
      have digit := congrArg (fun text => text.toList[3]?) same
      simp [stepBanner, success, Style.paint, Style.step, Style.success, Style.sequence,
        Nat.toDigits, Nat.toDigitsCore, Nat.digitChar] at digit

section Parts

variable {σ : Type} (s : Surroundings (StateM σ)) (v : Verb) (project : Project)

theorem Stamp.only_collect (source : Stamp.Source (StateM σ)) (root : Path) :
    Observed.Only (fun d => d.isInquiry) (Stamp.collect source.observed root) :=
  .bind (.request fun _ => rfl) fun _ =>
    .bind (.request fun _ => rfl) fun _ =>
      .bind (.request fun _ => rfl) fun _ =>
        .bind (.request fun _ => rfl) fun _ =>
          .bind (.request fun _ => rfl) fun _ => .pure _

theorem Verb.only_collectStamp (console : Console (StateM σ)) (source : Stamp.Source (StateM σ))
    (ctx : PlanContext) :
    Observed.Only (fun d => d.isInquiry)
      (collectStamp console.observed.log source.observed ctx) :=
  .bind (Stamp.only_collect source _) fun _ => .bind (.request fun _ => rfl) fun _ => .pure _

/-- Finding a plan looks at the surroundings and writes to the log, and nothing else. -/
theorem Verb.only_plan (console : Console (StateM σ)) (source : Stamp.Source (StateM σ))
    (ctx : PlanContext) :
    Observed.Only (fun d => d.isInquiry) (v.plan console.observed.log source.observed ctx) := by
  refine .bind ?_ fun _ => .bind ?_ fun _ => .pure _
  · rw [announce]
    cases v.platform? with
    | none => exact .pure _
    | some os => exact .request fun _ => rfl
  · rw [stampFor]
    split
    · cases ctx.presetStamp? with
      | some stamp => exact .pure _
      | none => exact (only_collectStamp console source ctx).map some
    · exact .pure _

theorem Verb.forget_plan (console : Console (Observed σ)) (source : Stamp.Source (Observed σ))
    (ctx : PlanContext) :
    (v.plan console.log source ctx).forget = v.plan console.forget.log source.forget ctx := by
  have announced : (v.announce console.log).forget = v.announce console.forget.log := by
    rw [announce, announce]
    cases v.platform? <;> rfl
  have stamped : (v.stampFor console.log source ctx).forget =
      v.stampFor console.forget.log source.forget ctx := by
    rw [stampFor, stampFor]
    split
    · cases ctx.presetStamp? <;> rfl
    · rfl
  rw [plan, Observed.forget_bind, announced]
  simp only [Observed.forget_bind, stamped]
  rfl

theorem Surroundings.only_planFor :
    Observed.Only (fun d => d.isInquiry) (s.observed.planFor v project) := by
  refine .bind (.request fun _ => rfl) fun environment => ?_
  refine .bind (v.only_plan s.console s.stampSource _) fun plan => ?_
  exact .bind (.request fun _ => rfl) fun _ => .pure plan

theorem Surroundings.forget_planFor (s : Surroundings (Observed σ)) :
    (s.planFor v project).forget = s.forget.planFor v project := by
  rw [planFor, Observed.forget_bind]
  congr 1
  funext environment
  rw [Observed.forget_bind, v.forget_plan]
  rfl

/-- The world after the log has been told of an event. -/
def Surroundings.told (e : LogEvent) (w : σ) : σ :=
  ((s.console.log e).run w).2

/-- The plan that a run on a project finds, and the world after finding it. -/
def Surroundings.found (w : σ) : Plan × σ :=
  (s.planFor v project).run w

/-- What executing that plan comes to, and the world after executing it. -/
def Surroundings.executed (w : σ) : Except Failure Unit × σ :=
  ((s.found v project w).1.execute s.console s.run).run (s.found v project w).2

theorem Surroundings.found_eq (w : σ) :
    s.found v project w =
      (((s.observed.planFor v project).observe w).value,
        ((s.observed.planFor v project).observe w).world) :=
  Observed.run_eq (s.observed.forget_planFor v project) w

theorem Surroundings.executed_eq (w : σ) :
    let execution := ((s.found v project w).1.execute s.console.observed
      (Runner.observed s.run)).observe (s.found v project w).2
    s.executed v project w = (execution.value, execution.world) :=
  Observed.run_eq (Plan.forget_execute s.console.observed (Runner.observed s.run) _) _

namespace Dispatch

def codeOf : Except Failure Unit → Int
  | .ok () => successExitCode
  | .error f => f.exitCode

/-- What is said at the end of a run, with a console that is styled or not. -/
def lastWord (styled : Bool) (v : Verb) : Except Failure Unit → Deed
  | .ok () => .printed (Report.success styled (successMessage v))
  | .error f => .complained (Report.failure styled f)

theorem observe_conclude (result : Except Failure Unit) (w : σ) :
    ((conclude s.observed v result).observe w).value = codeOf result ∧
      ((conclude s.observed v result).observe w).deeds = [lastWord s.console.styled v result] := by
  cases result <;> exact ⟨rfl, rfl⟩

/-- The whole of a run on a project: what it did to find the plan, what it did to execute it,
and its last word. -/
theorem observe_perform (w : σ) :
    let seen := (perform s.observed v project).observe w
    let result := (s.executed v project w).1
    ∃ finding executing : List Deed,
      seen.deeds = finding ++ executing ++ [lastWord s.console.styled v result] ∧
        seen.value = codeOf result ∧
        (∀ d ∈ finding, d.isInquiry) ∧
        (∀ d ∈ executing, ExecutionDeed s.console.styled s.run d) ∧
        Sequenced (s.found v project w).1.steps (executing.filterMap Deed.call?) result := by
  have found := s.found_eq v project w
  have executed := s.executed_eq v project w
  simp only [found] at executed
  have only := s.only_planFor v project w
  rw [perform_eq]
  simp only [Observed.observe_bind, found, executed]
  generalize (s.observed.planFor v project).observe w = planned at only executed
  have onlyRuns := Plan.only_executeSteps s.console s.run planned.value.steps planned.world
  have sequenced := Plan.sequenced_executeSteps s.console s.run planned.value.steps planned.world
  have concluded := observe_conclude s v
  refine ⟨planned.deeds, _, ?_, (concluded _ _).1, only, onlyRuns, sequenced⟩
  rw [List.append_assoc]
  exact congrArg _ (congrArg _ (concluded _ _).2)

/-- The calls of a run on a project are those of executing its plan. -/
theorem sequenced_perform (w : σ) :
    Sequenced (s.found v project w).1.steps
      ((perform s.observed v project).observe w).calls (s.executed v project w).1 := by
  obtain ⟨finding, executing, deeds, -, looks, -, sequenced⟩ := observe_perform s v project w
  have quiet : finding.filterMap Deed.call? = [] :=
    List.filterMap_eq_nil_iff.mpr fun d member => Deed.call?_of_isInquiry (looks d member)
  have last : [lastWord s.console.styled v (s.executed v project w).1].filterMap Deed.call? =
      [] := by
    cases (s.executed v project w).1 <;> rfl
  rw [Observation.calls, deeds, List.filterMap_append, List.filterMap_append, quiet, last,
    List.nil_append, List.append_nil]
  exact sequenced

/-- What holds of looking, of running and of the last word holds of all that a run on a
project does. -/
theorem forall_perform {p : Deed → Prop} (w : σ) (looking : ∀ d, d.isInquiry → p d)
    (running : ∀ d, ExecutionDeed s.console.styled s.run d → p d)
    (last : p (lastWord s.console.styled v (s.executed v project w).1)) :
    ∀ d ∈ ((perform s.observed v project).observe w).deeds, p d := by
  obtain ⟨finding, executing, deeds, -, looks, runs, -⟩ := observe_perform s v project w
  intro d member
  rw [deeds, List.append_assoc] at member
  rcases List.mem_append.mp member with early | later
  · exact looking d (looks d early)
  rcases List.mem_append.mp later with ran | final
  · exact running d (runs d ran)
  · rw [List.mem_singleton.mp final]
    exact last

/-- A run on a project loads nothing and leaves the usage alone. -/
theorem quiet_perform (w : σ) : ∀ d ∈ ((perform s.observed v project).observe w).deeds,
    d.isLoad = false ∧ d.isUsage = false := by
  apply forall_perform
  · intro d looks
    cases d <;> first | exact ⟨rfl, rfl⟩ | cases looks
  · intro d runs
    cases runs <;> exact ⟨rfl, rfl⟩
  · cases (s.executed v project w).1 <;> exact ⟨rfl, rfl⟩

/-- Success is announced exactly if the plan was executed to its end. No banner of a step can
be taken for the announcement. -/
theorem mem_perform_success_iff (w : σ) :
    .printed (Report.success s.console.styled (successMessage v)) ∈
        ((perform s.observed v project).observe w).deeds ↔
      (s.executed v project w).1 = .ok () := by
  constructor
  · intro member
    have only : ∀ d ∈ ((perform s.observed v project).observe w).deeds,
        d = .printed (Report.success s.console.styled (successMessage v)) →
          (s.executed v project w).1 = .ok () := by
      apply forall_perform
      · intro d looks same
        rw [same] at looks
        cases looks
      · intro d runs same
        cases runs with
        | banner label command =>
            exact absurd (Deed.printed.inj same) (Report.stepBanner_ne_success _ _ _ _)
        | _ => cases same
      · intro same
        cases ended : (s.executed v project w).1 with
        | ok => rfl
        | error f =>
            rw [ended] at same
            cases same
    exact only _ member rfl
  · intro ok
    obtain ⟨finding, executing, deeds, -⟩ := observe_perform s v project w
    rw [deeds, ok]
    exact List.mem_append_right _ (List.mem_singleton_self _)

end Dispatch
end Parts

/-- A verb that works on a project has a plan with at least one step. -/
theorem Verb.planWith_steps_ne_nil {v : Verb} (working : v ≠ .help) (ctx : PlanContext)
    (stamp? : Option Stamp) : (v.planWith ctx stamp?).steps ≠ [] := by
  cases v with
  | help => exact absurd rfl working
  | _ => simp [planWith, Plan.single, Plan.empty]

theorem Verb.found_steps_ne_nil {σ : Type} (s : Surroundings (StateM σ)) (project : Project)
    {v : Verb} (working : v ≠ .help) (w : σ) : (s.found v project w).1.steps ≠ [] := by
  have planned : ∃ ctx stamp?, (s.found v project w).1 = v.planWith ctx stamp? := ⟨_, _, rfl⟩
  obtain ⟨ctx, stamp?, plan⟩ := planned
  rw [plan]
  exact Verb.planWith_steps_ne_nil working ctx stamp?

/-! ## Loading -/

namespace Dispatch

variable {σ : Type} (s : Surroundings (StateM σ)) (w : σ)

/-- Loading comes first, and where it fails the report of that comes last. -/
theorem observe_unloadable (v : Verb) {f : Failure} (failed : (s.loadProject.run w).1 = .error f) :
    let seen := (performOnProject s.observed v).observe w
    seen.value = f.exitCode ∧
      seen.deeds = [.loadedProject, .complained (Report.failure s.console.styled f)] := by
  unfold performOnProject
  simp only [Surroundings.observed, Observed.observe_bind, Observed.observe_request, failed]
  exact ⟨rfl, rfl⟩

/-- A loaded project is what the rest of the run is about. -/
theorem observe_loaded (v : Verb) {project : Project}
    (loaded : (s.loadProject.run w).1 = .ok project) :
    let seen := (performOnProject s.observed v).observe w
    let rest := (perform s.observed v project).observe (s.loadProject.run w).2
    seen.value = rest.value ∧ seen.deeds = .loadedProject :: rest.deeds := by
  have split : (performOnProject s.observed v).observe w =
      let rest := (perform s.observed v project).observe (s.loadProject.run w).2
      ⟨rest.value, rest.world, .loadedProject :: rest.deeds⟩ := by
    unfold performOnProject
    simp only [Surroundings.observed, Observed.observe_bind, Observed.observe_request, loaded]
    rfl
  rw [split]
  exact ⟨rfl, rfl⟩

/-! ## Dispatching -/

/-- The log is told of a verb before anything is done for it. -/
theorem observe_performVerb {v : Verb} (working : v ≠ .help) :
    let seen := (performVerb s.observed v).observe w
    let rest := (performOnProject s.observed v).observe (s.told (.dispatching v) w)
    seen.value = rest.value ∧ seen.deeds = .logged (.dispatching v) :: rest.deeds := by
  rw [performVerb_eq _ working]
  exact ⟨rfl, rfl⟩

/-- The calls of a run on a loaded project are those of performing the verb. -/
theorem calls_performVerb {v : Verb} (working : v ≠ .help) {project : Project}
    (loaded : (s.loadProject.run (s.told (.dispatching v) w)).1 = .ok project) :
    ((performVerb s.observed v).observe w).calls =
      ((perform s.observed v project).observe
        (s.loadProject.run (s.told (.dispatching v) w)).2).calls := by
  obtain ⟨-, told⟩ := observe_performVerb s w working
  obtain ⟨-, deeds⟩ := observe_loaded s _ v loaded
  rw [Observation.calls, told, deeds]
  rfl

/-! ## Runs that nobody observes -/

theorem forget_perform (s : Surroundings (Observed σ)) (v : Verb) (project : Project) :
    (perform s v project).forget = perform s.forget v project := by
  rw [perform_eq, perform_eq, Observed.forget_bind, s.forget_planFor]
  congr 1
  funext plan
  rw [Observed.forget_bind, Plan.forget_execute]
  congr 1
  funext result
  cases result <;> rfl

theorem forget_performOnProject (s : Surroundings (Observed σ)) (v : Verb) :
    (performOnProject s v).forget = performOnProject s.forget v := by
  rw [performOnProject, Observed.forget_bind]
  congr 1
  funext loaded
  cases loaded with
  | error f => rfl
  | ok project => exact forget_perform s v project

end Dispatch

theorem forget_dispatch {σ : Type} (s : Surroundings (Observed σ)) (verb? : Option String) :
    (dispatch s verb?).forget = dispatch s.forget verb? := by
  cases verb? with
  | none => rfl
  | some text =>
      cases found : Verb.ofName? text with
      | none =>
          simp only [dispatch, found]
          rfl
      | some v =>
          simp only [dispatch, found, Dispatch.performVerb, Observed.forget_bind]
          congr 1
          funext told
          split
          · exact Dispatch.forget_performOnProject s v
          · rfl

end GoTasks
