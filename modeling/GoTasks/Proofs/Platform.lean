import GoTasks.Proofs.Variables
import GoTasks.Rehearsal

/-!
# Building for a platform

A verb that names a platform builds just as `build` does, with the same arguments in the same
directory. What it changes is the environment of the command, and of that only the two variables
that select the platform, whatever they were before. No other verb changes the environment.
-/

namespace GoTasks

open Text.Utf8

namespace Target

theorem encode_osVariable_ne : encode osVariable ≠ encode architectureVariable := by
  decide +kernel

/-- The variables of a target decide two look-ups, and the base all others. -/
theorem get?_environment (t : Target) (base : Environment) (name : Bytes) :
    (t.environment base).get? name =
      if name = encode architectureVariable then some (encode t.architecture.name)
      else if name = encode osVariable then some (encode t.os.name)
      else base.get? name := by
  rw [environment, Environment.setText, Environment.setText, Environment.get?_set,
    Environment.get?_set]

/-- Whether two environments differ at most in the variables that select a platform. -/
def AgreeElsewhere (a b : Environment) : Prop :=
  ∀ name, name ≠ encode osVariable → name ≠ encode architectureVariable → a.get? name = b.get? name

theorem agreeElsewhere_environment (t : Target) (base : Environment) :
    AgreeElsewhere (t.environment base) base := by
  intro name not_os not_architecture
  rw [get?_environment, if_neg not_architecture, if_neg not_os]

/-- What a base says of the platform does not matter. -/
theorem environment_eq (t : Target) {a b : Environment} (agree : AgreeElsewhere a b) :
    t.environment a = t.environment b := by
  refine Environment.ext_get? fun name => ?_
  rw [get?_environment, get?_environment]
  split
  · rfl
  split
  · rfl
  · next not_architecture not_os => exact agree name not_os not_architecture

end Target

namespace Verb

/-- The name of a platform is the verb that builds for it. -/
theorem ofName?_of_platform {s : String} {os : OperatingSystem}
    (platform : OperatingSystem.ofName? s = some os) : ofName? s = some (buildFor os) := by
  rw [← OperatingSystem.name_of_ofName? platform]
  exact ofName?_name (buildFor os)

/-- A verb that builds for a platform has the name of the platform. -/
theorem ofName?_platform {s : String} {os : OperatingSystem}
    (verb : ofName? s = some (buildFor os)) : OperatingSystem.ofName? s = some os := by
  rw [← name_of_ofName? verb]
  exact OperatingSystem.ofName?_name os

/-- A verb that names no platform leaves the environment of its commands as it was. -/
theorem environment_of_planWith (ctx : PlanContext) (stamp? : Option Stamp) {v : Verb}
    (no_platform : v.platform? = none) :
    ∀ step ∈ (v.planWith ctx stamp?).steps, step.command.environment = ctx.environment := by
  cases v with
  | buildFor os => cases no_platform
  | _ =>
      simp [planWith, Plan.single, Plan.empty, PlanContext.testCommand, PlanContext.buildCommand,
        PlanContext.runCommand, PlanContext.lintCommand, PlanContext.command,
        PlanContext.buildEnvironment, platform?]

end Verb

/-- The stamp of a build that does not have to be collected. -/
def PlanContext.settledStamp? (ctx : PlanContext) : Option Stamp :=
  if ctx.config.linking.stampVersion then ctx.presetStamp? else none

/-- Whether the stamp of a build is known without asking for it: it is preset, or not wanted. -/
def PlanContext.IsSettled (ctx : PlanContext) : Prop :=
  ctx.presetStamp?.isSome ∨ ctx.config.linking.stampVersion = false

namespace Verb

variable {σ : Type} (log : LogEvent → StateM σ Unit) (source : Stamp.Source (StateM σ))

/-- A settled stamp is not asked for. -/
theorem stampFor_of_isSettled {ctx : PlanContext} (settled : ctx.IsSettled) {v : Verb}
    (builds : v.isBuild = true) : v.stampFor log source ctx = pure ctx.settledStamp? := by
  unfold stampFor PlanContext.settledStamp?
  rw [builds, Bool.true_and]
  split
  · next wanted =>
    rcases settled with preset | unwanted
    · obtain ⟨stamp, preset⟩ := Option.isSome_iff_exists.mp preset
      rw [preset]
    · rw [unwanted] at wanted
      cases wanted
  · rfl

theorem plan_of_isSettled {ctx : PlanContext} (settled : ctx.IsSettled) {v : Verb}
    (builds : v.isBuild = true) (w : σ) :
    ((v.plan log source ctx).run w).1 = v.planWith ctx ctx.settledStamp? := by
  unfold plan
  rw [stampFor_of_isSettled log source settled builds]
  rfl

/-- The step of a verb that builds for a platform, compared with that of `build` and with the
environment that both are given. -/
structure BuildsFor (os : OperatingSystem) (base : Environment) (building native : Step) :
    Prop where
  label : building.label = os.name
  program : building.command.program = native.command.program
  arguments : building.command.arguments = native.command.arguments
  directory : building.command.directory = native.command.directory
  goos : building.command.environment.getText? "GOOS" = some (encode os.name)
  goarch : building.command.environment.getText? "GOARCH" =
    some (encode (if os = .darwin then "arm64" else "amd64"))
  /-- A variable that is not set is not set afterwards. -/
  others : ∀ name, name ≠ encode "GOOS" → name ≠ encode "GOARCH" →
    building.command.environment.get? name = base.get? name

theorem buildsFor (ctx : PlanContext) (stamp? : Option Stamp) (os : OperatingSystem) :
    BuildsFor os ctx.environment ⟨os.name, ctx.buildCommand (some os) stamp?⟩
      ⟨build.name, ctx.buildCommand none stamp?⟩ where
  label := rfl
  program := rfl
  arguments := rfl
  directory := rfl
  goos := by
    have looked := (Target.ofOs os).get?_environment ctx.environment (encode Target.osVariable)
    rwa [if_neg Target.encode_osVariable_ne, if_pos rfl] at looked
  goarch := by
    have looked :=
      (Target.ofOs os).get?_environment ctx.environment (encode Target.architectureVariable)
    rw [if_pos rfl] at looked
    cases os <;> exact looked
  others := (Target.ofOs os).agreeElsewhere_environment ctx.environment

/-- What a context says of the platform does not matter to a verb that names one. -/
theorem buildCommand_eq (ctx : PlanContext) (stamp? : Option Stamp) (os : OperatingSystem)
    {base : Environment} (agree : Target.AgreeElsewhere base ctx.environment) :
    { ctx with environment := base }.buildCommand (some os) stamp? =
      ctx.buildCommand (some os) stamp? := by
  have same : (Target.ofOs os).environment base = (Target.ofOs os).environment ctx.environment :=
    (Target.ofOs os).environment_eq agree
  simp only [PlanContext.buildCommand, PlanContext.buildEnvironment, same]
  rfl

theorem plan_buildFor_eq {ctx : PlanContext} (settled : ctx.IsSettled) (os : OperatingSystem)
    {base : Environment} (agree : Target.AgreeElsewhere base ctx.environment) (w : σ) :
    (((buildFor os).plan log source { ctx with environment := base }).run w).1 =
      (buildFor os).planWith ctx ctx.settledStamp? := by
  have settled' : { ctx with environment := base }.IsSettled := settled
  rw [plan_of_isSettled log source settled' rfl]
  exact congrArg (fun command => Plan.single ⟨os.name, command⟩)
    (buildCommand_eq ctx ctx.settledStamp? os agree)

/-- A text that names a platform is a verb that builds like `build`, in an environment of which it
changes two variables, whatever they were. Any other verb leaves the environment as it is. -/
theorem platform_changes_environment_only {ctx : PlanContext} (settled : ctx.IsSettled)
    (s : String) :
    (∀ os, OperatingSystem.ofName? s = some os → os.name = s ∧
      ∃ v building native, ofName? s = some v ∧
        (∀ w, ((v.plan log source ctx).run w).1.steps = [building]) ∧
        (∀ w, ((build.plan log source ctx).run w).1.steps = [native]) ∧
        BuildsFor os ctx.environment building native ∧
        (∀ base, Target.AgreeElsewhere base ctx.environment →
          ∀ w, ((v.plan log source { ctx with environment := base }).run w).1.steps =
            [building]) ∧
        ∀ os' w,
          let derived := (Target.ofOs os').environment ctx.environment
          ((v.plan log source { ctx with environment := derived }).run w).1.steps =
            [building]) ∧
    ∀ v, ofName? s = some v → OperatingSystem.ofName? s = none →
      ∀ w, ∀ step ∈ ((v.plan log source ctx).run w).1.steps,
        step.command.environment = ctx.environment := by
  constructor
  · intro os platform
    refine ⟨OperatingSystem.name_of_ofName? platform, buildFor os, _, _,
      ofName?_of_platform platform, ?_, ?_, buildsFor ctx ctx.settledStamp? os, ?_, ?_⟩
    · intro w
      rw [plan_of_isSettled log source settled rfl]
      rfl
    · intro w
      rw [plan_of_isSettled log source settled rfl]
      rfl
    · intro base agree w
      rw [plan_buildFor_eq log source settled os agree]
      rfl
    · intro os' w derived
      rw [plan_buildFor_eq log source settled os
        ((Target.ofOs os').agreeElsewhere_environment ctx.environment)]
      rfl
  · intro v named not_platform w
    refine environment_of_planWith ctx _ ?_
    cases v with
    | buildFor os =>
        rw [ofName?_platform named] at not_platform
        cases not_platform
    | _ => rfl

/-- A context with a preset stamp, whose environment already selects a platform. -/
def crossContext : PlanContext where
  project := ⟨.ofText "/project", .default⟩
  environment := (Environment.empty.setText "GOOS" "plan9").setText "GOARCH" "mips"
  presetStamp? := some .empty

/-- On a machine set up for another platform, `darwin` replaces both variables, and `test` keeps
them. -/
theorem platform_changes_environment_only_darwin :
    crossContext.IsSettled ∧
      (∃ v building native, ofName? "darwin" = some v ∧
        BuildsFor .darwin crossContext.environment building native ∧
        ((v.plan (fun _ => pure ()) Rehearsal.bareSource crossContext).run
          (Rehearsal.start [])).1.steps = [building]) ∧
      ∀ step ∈ ((test.plan (fun _ => pure ()) Rehearsal.bareSource crossContext).run
          (Rehearsal.start [])).1.steps,
        step.command.environment = crossContext.environment := by
  have settled : crossContext.IsSettled := .inl rfl
  have platform : OperatingSystem.ofName? "darwin" = some .darwin := by decide
  obtain ⟨-, v, building, native, named, planned, -, builds, -⟩ :=
    (platform_changes_environment_only (fun _ => pure ()) Rehearsal.bareSource settled
      "darwin").1 .darwin platform
  have others := (platform_changes_environment_only (fun _ => pure ()) Rehearsal.bareSource
    settled "test").2 test (by decide) (by decide)
  exact ⟨settled, ⟨v, building, native, named, builds, planned _⟩, others _⟩

end Verb
end GoTasks
