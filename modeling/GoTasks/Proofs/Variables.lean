import GoTasks.Environment
import Mathlib.Data.List.Sort

/-!
# Variables of an environment

What matters of an environment is what its look-ups give. Setting a variable changes one look-up,
and an environment is known as soon as all of its look-ups are known, because its names are kept in
order and each occurs once.
-/

namespace GoTasks.Environment

variable {name other value : Bytes}

/-- Names that neither precede nor follow each other are the same. -/
theorem eq_of_not_lt (not_before : ¬ name < other) (not_after : ¬ other < name) : name = other :=
  List.le_antisymm (List.not_lt.mp not_after) (List.not_lt.mp not_before)

/-- In an ascending list, the first variable of a name is the only one. -/
theorem find?_eq_some_iff {vars : List (Bytes × Bytes)}
    (ascending : vars.Pairwise fun a b => a.1 < b.1) :
    (vars.find? (·.1 = name)).map (·.2) = some value ↔ (name, value) ∈ vars := by
  induction vars with
  | nil => simp
  | cons var rest ih =>
      obtain ⟨n, v⟩ := var
      obtain ⟨before, ascending⟩ := List.pairwise_cons.mp ascending
      by_cases here : n = name
      · subst here
        have not_later : (n, value) ∉ rest := fun member =>
          List.lt_irrefl n (before (n, value) member)
        simp [not_later, eq_comm]
      · simp [here, Ne.symm here, ih ascending]

theorem mem_vars_iff {env : Environment} : (name, value) ∈ env.vars ↔ env.get? name = some value :=
  (find?_eq_some_iff env.ascending).symm

/-- An environment is determined by its look-ups. -/
theorem ext_get? {a b : Environment} (same : ∀ name, a.get? name = b.get? name) : a = b := by
  have antisymm : Std.Antisymm fun x y : Bytes × Bytes => x.1 < y.1 :=
    ⟨fun _ _ lt gt => absurd (List.lt_trans lt gt) (List.lt_irrefl _)⟩
  have irrefl : Std.Irrefl fun x y : Bytes × Bytes => x.1 < y.1 := ⟨fun _ => List.lt_irrefl _⟩
  refine ext (a.ascending.eq_of_mem_iff b.ascending ?_)
  rintro ⟨name, value⟩
  rw [mem_vars_iff, mem_vars_iff, same]

theorem find?_insertVar (vars : List (Bytes × Bytes)) :
    ((insertVar name value vars).find? (·.1 = other)).map (·.2) =
      if other = name then some value else (vars.find? (·.1 = other)).map (·.2) := by
  induction vars with
  | nil => by_cases same : other = name <;> simp [insertVar, same, eq_comm]
  | cons var rest ih =>
      obtain ⟨n, v⟩ := var
      unfold insertVar
      split
      · by_cases same : other = name <;> simp [same, eq_comm]
      split
      · next after =>
        by_cases here : n = other
        · subst here
          have different : n ≠ name := fun same => List.lt_irrefl n (same ▸ after)
          simp [different]
        · simp [here, ih]
      · next not_before not_after =>
        obtain rfl := eq_of_not_lt not_before not_after
        by_cases same : name = other
        · simp [same]
        · simp [same, Ne.symm same]

/-- Setting a variable changes what is found under its name, and nothing else. -/
theorem get?_set (env : Environment) :
    (env.set name value).get? other = if other = name then some value else env.get? other :=
  find?_insertVar env.vars

end GoTasks.Environment
