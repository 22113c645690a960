import GoTasks.Proofs.PackageArgument
import GoTasks.Proofs.Platform

/-!
# Where a stamp goes

A stamp is data that a plan is made with and that is not of the project: it is preset, or it comes
from a file and from git. Two plans of one verb for one project, in one environment, are compared
here that were made with different stamps. They are the same plan, except that the plans of a verb
that builds can have different linker flags, or one of them none at all. With the flags taken out of
their arguments, these are the same as well.

So what a version file holds, and what git says, can reach a command by its linker flags only. If
the stamp is preset, or the project wants none, it cannot even do that, because it is not looked at.
-/

namespace GoTasks

/-- Arguments without a flag and the argument that follows it. -/
def withoutPair (flag : String) : List String → List String
  | [] => []
  | argument :: rest =>
    if argument = flag then rest.drop 1 else argument :: withoutPair flag rest

theorem withoutPair_cons_of_ne {flag argument : String} (other : argument ≠ flag)
    (rest : List String) :
    withoutPair flag (argument :: rest) = argument :: withoutPair flag rest :=
  if_neg other

theorem withoutPair_cons_self (flag value : String) (rest : List String) :
    withoutPair flag (flag :: value :: rest) = rest :=
  if_pos rfl

namespace Config

/-- The argument for the output directory is no flag: it ends in a separator. -/
theorem outputArgument_ne_flag (c : Config) : c.outputArgument ≠ "-ldflags" := by
  have ends : c.outputArgument.toList.getLast? = some '/' := by
    simp only [outputArgument]
    split
    · assumption
    · rw [String.toList_append]
      exact List.getLast?_concat
  intro same
  rw [same] at ends
  exact absurd ends (by decide)

/-- The package is no flag: it starts with a dot. -/
theorem packageArgument_ne_flag (p : Path) : p.packageArgument ≠ "-ldflags" := by
  have relative := Path.isRelativePackage_packageArgument p
  intro same
  rw [same] at relative
  exact absurd relative (by decide)

/-- Without linker flags, the arguments of a build do not tell what stamp it has. -/
theorem withoutPair_buildArguments (c : Config) (stamp? : Option Stamp) :
    withoutPair "-ldflags" (c.buildArguments stamp?) =
      ["build", "-o", c.outputArgument, c.layout.entry.packageArgument] := by
  have build : "build" ≠ "-ldflags" := by decide
  have output : "-o" ≠ "-ldflags" := by decide
  have package := packageArgument_ne_flag c.layout.entry
  have front (rest : List String) :
      withoutPair "-ldflags" (["build", "-o", c.outputArgument] ++ rest) =
        ["build", "-o", c.outputArgument] ++ withoutPair "-ldflags" rest := by
    simp only [List.cons_append, List.nil_append]
    rw [withoutPair_cons_of_ne build, withoutPair_cons_of_ne output,
      withoutPair_cons_of_ne c.outputArgument_ne_flag]
  rw [buildArguments, List.append_assoc, front, linkerArguments]
  split
  · rw [List.nil_append, withoutPair_cons_of_ne package]
    rfl
  · have flagged : withoutPair "-ldflags"
        (["-ldflags", c.linkerFlags stamp?] ++ [c.layout.entry.packageArgument]) =
          [c.layout.entry.packageArgument] := withoutPair_cons_self ..
    rw [flagged]
    rfl

end Config

/-- Two steps that differ in nothing but the linker flags of their commands. -/
structure Step.DifferInLinkerFlags (a b : Step) : Prop where
  label : a.label = b.label
  program : a.command.program = b.command.program
  environment : a.command.environment = b.command.environment
  directory : a.command.directory = b.command.directory
  arguments : withoutPair "-ldflags" a.command.arguments =
    withoutPair "-ldflags" b.command.arguments

theorem Step.DifferInLinkerFlags.refl (step : Step) : step.DifferInLinkerFlags step :=
  ⟨rfl, rfl, rfl, rfl, rfl⟩

namespace Verb

open Step (DifferInLinkerFlags)

/-! ## Plans that were made with different stamps -/

section

variable (project : Project) (environment : Environment) (preset? preset'? : Option Stamp)

/-- A preset stamp is not looked at where the stamp of the plan is given. -/
theorem planWith_preset (v : Verb) (stamp? : Option Stamp) :
    v.planWith ⟨project, environment, preset?⟩ stamp? =
      v.planWith ⟨project, environment, preset'?⟩ stamp? := by
  cases v <;> rfl

/-- Only a verb that builds looks at the stamp. -/
theorem planWith_of_not_isBuild (ctx : PlanContext) {v : Verb} (other : v.isBuild = false)
    (stamp? stamp'? : Option Stamp) : v.planWith ctx stamp? = v.planWith ctx stamp'? := by
  cases v with
  | build | buildFor => cases other
  | _ => rfl

/-- The plans of a verb with two stamps differ in the linker flags only. -/
theorem forall₂_planWith (ctx : PlanContext) (v : Verb) (stamp? stamp'? : Option Stamp) :
    List.Forall₂ DifferInLinkerFlags (v.planWith ctx stamp?).steps
      (v.planWith ctx stamp'?).steps := by
  by_cases builds : v.isBuild = true
  · rw [steps_planWith_of_isBuild ctx stamp? builds, steps_planWith_of_isBuild ctx stamp'? builds]
    refine .cons ⟨rfl, rfl, rfl, rfl, ?_⟩ .nil
    have without (given : Option Stamp) : withoutPair "-ldflags"
        (ctx.buildCommand v.platform? given).arguments = _ :=
      ctx.config.withoutPair_buildArguments given
    rw [without stamp?, without stamp'?]
  · rw [planWith_of_not_isBuild ctx (Bool.eq_false_iff.mpr builds) stamp? stamp'?]
    exact List.forall₂_same.mpr fun step _ => .refl step

end

/-! ## Plans that were made in different worlds -/

section

variable {σ : Type} (log : LogEvent → StateM σ Unit) (source : Stamp.Source (StateM σ))
  (ctx : PlanContext) (v : Verb)

/-- Whatever a plan is made in, it is the plan of some stamp. -/
theorem exists_plan_eq (w : σ) :
    ∃ stamp?, ((v.plan log source ctx).run w).1 = v.planWith ctx stamp? ∧
      (v.isBuild = false ∨ ctx.config.linking.stampVersion = false → stamp? = none) := by
  refine ⟨((v.stampFor log source ctx).run ((v.announce log).run w).2).1, rfl, ?_⟩
  intro unwanted
  have known : v.stampFor log source ctx = pure none := by
    unfold stampFor
    rw [if_neg]
    rcases unwanted with other | unwanted
    · simp [other]
    · simp [unwanted]
  rw [known]
  rfl

/-- The plan of a verb that does not build, and any plan with a settled stamp, is made without
looking at files or asking git. -/
theorem plan_source {ctx : PlanContext} {v : Verb} (known : v.isBuild = false ∨ ctx.IsSettled)
    (other : Stamp.Source (StateM σ)) : v.plan log source ctx = v.plan log other ctx := by
  have same : v.stampFor log source ctx = v.stampFor log other ctx := by
    by_cases builds : v.isBuild = true
    · have settled : ctx.IsSettled := known.resolve_left (by simp [builds])
      rw [stampFor_of_isSettled log source settled builds,
        stampFor_of_isSettled log other settled builds]
    · simp only [stampFor, Bool.eq_false_iff.mpr builds, Bool.false_and]
      rfl
  rw [plan, plan, same]

/-- A plan with a settled stamp is the plan of that stamp. -/
theorem plan_eq_of_isSettled {ctx : PlanContext} (settled : ctx.IsSettled) (v : Verb) (w : σ) :
    ((v.plan log source ctx).run w).1 = v.planWith ctx ctx.settledStamp? := by
  by_cases builds : v.isBuild = true
  · exact plan_of_isSettled log source settled builds w
  · obtain ⟨stamp?, planned, -⟩ := exists_plan_eq log source ctx v w
    rw [planned]
    exact planWith_of_not_isBuild ctx (Bool.eq_false_iff.mpr builds) stamp? ctx.settledStamp?

end

/-- Two plans of a verb for one project in one environment, with any preset stamps, any version
files and any answers of git: they differ in the linker flags of builds only, and not at all if the
verb does not build or the project wants no stamp. With a preset stamp nothing is looked at, and the
plan is the same wherever it is made. -/
theorem stamp_reaches_linkerFlags_only {σ τ : Type} (log : LogEvent → StateM σ Unit)
    (source : Stamp.Source (StateM σ)) (log' : LogEvent → StateM τ Unit)
    (source' : Stamp.Source (StateM τ)) (project : Project) (environment : Environment)
    (preset? preset'? : Option Stamp) (v : Verb) (w : σ) (w' : τ) :
    let planned := ((v.plan log source ⟨project, environment, preset?⟩).run w).1
    let planned' := ((v.plan log' source' ⟨project, environment, preset'?⟩).run w').1
    List.Forall₂ DifferInLinkerFlags planned.steps planned'.steps ∧
      (v.isBuild = false ∨ project.config.linking.stampVersion = false → planned = planned') ∧
      ∀ stamp,
        (∀ other, v.plan log source ⟨project, environment, some stamp⟩ =
          v.plan log other ⟨project, environment, some stamp⟩) ∧
        ((v.plan log source ⟨project, environment, some stamp⟩).run w).1 =
          ((v.plan log' source' ⟨project, environment, some stamp⟩).run w').1 := by
  intro planned planned'
  obtain ⟨stamp?, made, none_of_unwanted⟩ :=
    exists_plan_eq log source ⟨project, environment, preset?⟩ v w
  obtain ⟨stamp'?, made', none_of_unwanted'⟩ :=
    exists_plan_eq log' source' ⟨project, environment, preset'?⟩ v w'
  -- Both are plans in the first context, since a preset stamp is not looked at any more.
  have made : planned = v.planWith ⟨project, environment, preset?⟩ stamp? := made
  have made' : planned' = v.planWith ⟨project, environment, preset?⟩ stamp'? :=
    made'.trans (planWith_preset project environment preset'? preset? v stamp'?)
  refine ⟨?_, ?_, ?_⟩
  · rw [made, made']
    exact forall₂_planWith _ v stamp? stamp'?
  · intro unwanted
    rw [made, made', none_of_unwanted unwanted, none_of_unwanted' unwanted]
  · intro stamp
    have settled : (⟨project, environment, some stamp⟩ : PlanContext).IsSettled := .inl rfl
    refine ⟨plan_source log source (.inr settled), ?_⟩
    rw [plan_eq_of_isSettled log source settled, plan_eq_of_isSettled log' source' settled]

/-- A machine on which any file holds, and git answers to anything, one and the same line. -/
def taggedSource : Stamp.Source (StateM Unit) where
  now := pure ⟨0, 0⟩
  readFile _ := pure (.ok (Text.Utf8.encode "1.4\n"))
  git _ _ := pure (.ok (⟨0⟩, Text.Utf8.encode "1.4\n"))

/-- Where there is a version file and git, `linux` is planned as where there is neither, but for the
flags. `test` is planned the same, and so is `linux` if its stamp is preset. -/
theorem stamp_reaches_linkerFlags_only_tagged :
    let bare (v : Verb) (preset? : Option Stamp) : Plan :=
      ((v.plan (fun _ => pure ()) Rehearsal.bareSource
        ⟨⟨.ofText "/work/proxy", .default⟩, .empty, preset?⟩).run (Rehearsal.start [])).1
    let tagged (v : Verb) (preset? : Option Stamp) : Plan :=
      ((v.plan (fun _ => pure ()) taggedSource
        ⟨⟨.ofText "/work/proxy", .default⟩, .empty, preset?⟩).run ()).1
    List.Forall₂ DifferInLinkerFlags (bare (buildFor .linux) none).steps
        (tagged (buildFor .linux) none).steps ∧
      bare test none = tagged test none ∧
      bare (buildFor .linux) (some .empty) = tagged (buildFor .linux) (some .empty) := by
  intro bare tagged
  have compared (v : Verb) := stamp_reaches_linkerFlags_only (fun _ => pure ())
    Rehearsal.bareSource (fun _ => pure ()) taggedSource
    ⟨.ofText "/work/proxy", .default⟩ .empty none none v (Rehearsal.start []) ()
  refine ⟨(compared (buildFor .linux)).1, ?_, ?_⟩
  · exact (compared test).2.1 (.inl rfl)
  · exact ((compared (buildFor .linux)).2.2 .empty).2

end Verb
end GoTasks
