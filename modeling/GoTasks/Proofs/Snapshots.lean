import GoTasks.Proofs.Variables
import GoTasks.Target
import Mathlib.Data.List.Induction

/-!
# Snapshots of an environment

Environments are values, so a run holds many of them: the one that it was started with, and those
that are made of it by setting variables or by naming a platform. Each of them is determined by the
assignments that led to it, from the variables it started with on: what was assigned to a name last
is what is found under the name. Nothing else is kept of how an environment was made, and nothing
that is made of an environment later changes it.
-/

namespace GoTasks.Environment

open Text.Utf8

/-! ## Assignments -/

/-- Of some assignments in order, the last one to a name gives it a value. -/
def AssignedLast (assignments : List (Bytes × Bytes)) (name value : Bytes) : Prop :=
  ∃ before after, assignments = before ++ (name, value) :: after ∧ ∀ later ∈ after, later.1 ≠ name

theorem ofList_append (vars assignments : List (Bytes × Bytes)) :
    ofList (vars ++ assignments) =
      assignments.foldl (fun env (name, value) => env.set name value) (ofList vars) :=
  List.foldl_append

/-- One more assignment decides what is found under its name. -/
theorem get?_ofList_concat (vars : List (Bytes × Bytes)) (name value other : Bytes) :
    (ofList (vars ++ [(name, value)])).get? other =
      if other = name then some value else (ofList vars).get? other := by
  rw [ofList_append]
  exact get?_set (ofList vars)

theorem assignedLast_concat_iff {vars : List (Bytes × Bytes)} {name value other found : Bytes} :
    AssignedLast (vars ++ [(name, value)]) other found ↔
      if other = name then found = value else AssignedLast vars other found := by
  constructor
  · rintro ⟨before, after, whole, untouched⟩
    rcases List.eq_nil_or_concat' after with rfl | ⟨after, last, rfl⟩
    · have same := (List.append_inj' whole rfl).2
      simp only [List.cons.injEq, Prod.mk.injEq, and_true] at same
      rw [if_pos same.1.symm]
      exact same.2.symm
    · rw [← List.cons_append, ← List.append_assoc] at whole
      obtain ⟨front, same⟩ := List.append_inj' whole rfl
      obtain rfl : (name, value) = last := List.singleton_inj.mp same
      have different : name ≠ other := untouched (name, value) (by simp)
      rw [if_neg different.symm]
      refine ⟨before, after, front, ?_⟩
      intro later member
      exact untouched later (List.mem_append_left _ member)
  · intro last
    split at last
    · next same =>
      subst same last
      exact ⟨vars, [], rfl, by simp⟩
    · next different =>
      obtain ⟨before, after, rfl, untouched⟩ := last
      refine ⟨before, after ++ [(name, value)], by simp, ?_⟩
      intro later member
      rcases List.mem_append.mp member with earlier | there
      · exact untouched later earlier
      · obtain rfl := List.mem_singleton.mp there
        exact Ne.symm different

/-- What is found under a name is what was assigned to it last. -/
theorem get?_ofList_eq_some_iff {assignments : List (Bytes × Bytes)} {name value : Bytes} :
    (ofList assignments).get? name = some value ↔ AssignedLast assignments name value := by
  induction assignments using List.reverseRecOn with
  | nil =>
      constructor
      · intro found
        cases found
      · rintro ⟨before, after, whole, -⟩
        exact absurd whole.symm (by simp)
  | append_singleton assignments last ih =>
      obtain ⟨assigned, given⟩ := last
      rw [get?_ofList_concat, assignedLast_concat_iff]
      split
      · rw [Option.some.injEq, eq_comm]
      · exact ih

/-- Nothing is found under a name exactly if nothing was assigned to it. -/
theorem get?_ofList_eq_none_iff {assignments : List (Bytes × Bytes)} {name : Bytes} :
    (ofList assignments).get? name = none ↔ ∀ assignment ∈ assignments, assignment.1 ≠ name := by
  induction assignments using List.reverseRecOn with
  | nil => simp [ofList]
  | append_singleton assignments last ih =>
      obtain ⟨assigned, given⟩ := last
      rw [get?_ofList_concat]
      by_cases same : name = assigned
      · rw [if_pos same]
        have there : (assigned, given) ∈ assignments ++ [(assigned, given)] := by simp
        refine iff_of_false (Option.some_ne_none given) fun untouched => ?_
        exact untouched _ there same.symm
      · rw [if_neg same, ih, List.forall_mem_append, List.forall_mem_singleton]
        exact (and_iff_left (Ne.symm same)).symm

/-- An environment that keeps of some assignments the last one to each name, in the order of the
names. -/
structure Keeps (env : Environment) (assignments : List (Bytes × Bytes)) : Prop where
  ascending : env.vars.Pairwise fun a b => a.1 < b.1
  listed_iff : ∀ name value, (name, value) ∈ env.vars ↔ AssignedLast assignments name value
  found_iff : ∀ name value, env.get? name = some value ↔ AssignedLast assignments name value
  absent_iff : ∀ name, env.get? name = none ↔ ∀ assignment ∈ assignments, assignment.1 ≠ name

theorem keeps_ofList (assignments : List (Bytes × Bytes)) :
    Keeps (ofList assignments) assignments where
  ascending := (ofList assignments).ascending
  listed_iff _ _ := mem_vars_iff.trans get?_ofList_eq_some_iff
  found_iff _ _ := get?_ofList_eq_some_iff
  absent_iff _ := get?_ofList_eq_none_iff

/-! ## Setting twice -/

/-- Setting two variables, their order does not matter. -/
theorem set_comm (env : Environment) {name other : Bytes} (different : name ≠ other)
    (value value' : Bytes) :
    (env.set name value).set other value' = (env.set other value').set name value := by
  refine ext_get? fun asked => ?_
  rw [get?_set, get?_set, get?_set, get?_set]
  by_cases first : asked = name
  · rw [if_neg (first ▸ different), if_pos first, if_pos first]
  · rw [if_neg first, if_neg first]

/-- Of two values that a variable is set to, the later one is left. -/
theorem set_set (env : Environment) (name value value' : Bytes) :
    (env.set name value).set name value' = env.set name value' := by
  refine ext_get? fun asked => ?_
  rw [get?_set, get?_set, get?_set]
  split <;> rfl

/-! ## Histories -/

/-- What is made of an environment: one with a variable set, or one for building. -/
inductive Change where
  | setting (name value : Bytes)
  | building (os : OperatingSystem)

namespace Change

/-- The environment that a change makes of another one. -/
def apply : Change → Environment → Environment
  | setting name value, env => env.set name value
  | building os, env => (Target.ofOs os).environment env

/-- The assignments of a change, in order. -/
def assignments : Change → List (Bytes × Bytes)
  | setting name value => [(name, value)]
  | building os =>
    [(encode "GOOS", encode os.name), (encode "GOARCH", encode os.architecture.name)]

/-- A change adds its assignments to those that were made before. -/
theorem apply_ofList (change : Change) (assigned : List (Bytes × Bytes)) :
    change.apply (ofList assigned) = ofList (assigned ++ change.assignments) := by
  rw [ofList_append]
  cases change <;> rfl

end Change

/-- How a number of environments were made: the first of given variables, and every other one by a
change of one that was there before. -/
inductive History : Nat → Type where
  | captured (vars : List (Bytes × Bytes)) : History 1
  | derived {n : Nat} (earlier : History n) (base : Fin n) (change : Change) : History (n + 1)

namespace History

/-- The environments of a history, in the order in which they were made. -/
def snapshot : {n : Nat} → History n → Fin n → Environment
  | _, captured vars, _ => ofList vars
  | _, derived earlier base change, i =>
    Fin.lastCases (change.apply (earlier.snapshot base)) (fun i => earlier.snapshot i) i

/-- The assignments that led to an environment: the variables that the first one was made of, and
then those of each change on the way to it. -/
def assigned : {n : Nat} → History n → Fin n → List (Bytes × Bytes)
  | _, captured vars, _ => vars
  | _, derived earlier base change, i =>
    Fin.lastCases (earlier.assigned base ++ change.assignments) (fun i => earlier.assigned i) i

variable {n : Nat} (earlier : History n) (base : Fin n) (change : Change)

@[simp] theorem snapshot_last :
    (earlier.derived base change).snapshot (Fin.last n) =
      change.apply (earlier.snapshot base) := by
  simp [snapshot]

/-- A change leaves the environments that were there as they are. -/
@[simp] theorem snapshot_castSucc (i : Fin n) :
    (earlier.derived base change).snapshot i.castSucc = earlier.snapshot i := by
  simp [snapshot]

@[simp] theorem assigned_last :
    (earlier.derived base change).assigned (Fin.last n) =
      earlier.assigned base ++ change.assignments := by
  simp [assigned]

@[simp] theorem assigned_castSucc (i : Fin n) :
    (earlier.derived base change).assigned i.castSucc = earlier.assigned i := by
  simp [assigned]

/-- However an environment was made, it is the one of the assignments that led to it. -/
theorem snapshot_eq_ofList (history : History n) (i : Fin n) :
    history.snapshot i = ofList (history.assigned i) := by
  induction history with
  | captured vars => rfl
  | derived earlier base change ih =>
      refine Fin.lastCases ?_ ?_ i
      · rw [snapshot_last, assigned_last, ih, Change.apply_ofList]
      · intro i
        rw [snapshot_castSucc, assigned_castSucc, ih]

/-- Every environment of a history keeps the last assignment to each name on the way to it, and
nothing else distinguishes it from those of this or another history. So setting two variables can
be done in either order, and of two values of one variable the later is left. -/
theorem snapshot_determined {n m : Nat} (history : History n) (other : History m) (i : Fin n)
    (j : Fin m) :
    Keeps (history.snapshot i) (history.assigned i) ∧
      (history.snapshot i = other.snapshot j ↔
        ∀ name, (history.snapshot i).get? name = (other.snapshot j).get? name) ∧
      (∀ name name' value value', name ≠ name' →
        ((history.snapshot i).set name value).set name' value' =
          ((history.snapshot i).set name' value').set name value) ∧
      ∀ name value value',
        ((history.snapshot i).set name value).set name value' =
          (history.snapshot i).set name value' := by
  refine ⟨?_, ?_, ?_, ?_⟩
  · rw [snapshot_eq_ofList]
    exact keeps_ofList (history.assigned i)
  · exact ⟨fun same name => by rw [same], ext_get?⟩
  · intro name name' value value' different
    exact set_comm _ different value value'
  · exact set_set _

/-- A name comes before the longer ones that it starts, and a name that is no text is ordered by its
bytes like any other. -/
example : (History.captured [([0xFF], []), ([0x41, 0x00], []), ([0x42], []), ([0x41], [])]
    |>.snapshot 0).vars.map Prod.fst = [[0x41], [0x41, 0x00], [0x42], [0xFF]] := by
  decide

/-- Of variables with a repeated name and a name that is no text, two environments are made: one
for building, and one in which both are set. -/
def branched : History 3 :=
  .derived
    (.derived
      (.captured
        [(encode "GOOS", encode "plan9"), ([0xFF], encode "1"), (encode "GOOS", encode "aix")])
      0 (.building .darwin))
    0 (.setting [0xFF] [])

/-- The branch for building replaces the variable, and the other one keeps its last value. -/
theorem snapshot_determined_branched :
    (branched.snapshot 1).get? (encode "GOOS") = some (encode "darwin") ∧
      (branched.snapshot 2).get? (encode "GOOS") = some (encode "aix") ∧
      (branched.snapshot 2).get? (encode "GOARCH") = none ∧
      encode "GOOS" ≠ [0xFF] ∧
      ((branched.snapshot 2).set (encode "GOOS") []).set [0xFF] [0x31] =
        ((branched.snapshot 2).set [0xFF] [0x31]).set (encode "GOOS") [] := by
  obtain ⟨building, -, -, -⟩ := snapshot_determined branched branched 1 2
  obtain ⟨setting, -, commutes, -⟩ := snapshot_determined branched branched 2 1
  have different : encode "GOOS" ≠ [0xFF] := by decide +kernel
  refine ⟨?_, ?_, ?_, different, commutes _ _ _ _ different⟩
  · refine (building.found_iff _ _).mpr
      ⟨[(encode "GOOS", encode "plan9"), ([0xFF], encode "1"), (encode "GOOS", encode "aix")],
        [(encode "GOARCH", encode "arm64")], ?_, ?_⟩
    · rfl
    · decide +kernel
  · refine (setting.found_iff _ _).mpr
      ⟨[(encode "GOOS", encode "plan9"), ([0xFF], encode "1")], [([0xFF], [])], ?_, ?_⟩
    · rfl
    · decide +kernel
  · refine (setting.absent_iff _).mpr ?_
    decide +kernel

end History

end GoTasks.Environment
