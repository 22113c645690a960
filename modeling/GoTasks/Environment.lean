import GoTasks.Text.Utf8

/-!
# Environments

An environment is the set of variables handed to a command. It is a value: setting a
variable gives a new environment and leaves the old one as it was.

Names are kept in ascending bytewise order and each occurs once, so that two environments
with the same look-ups are the same environment.
-/

namespace GoTasks

/-- The variables of a command, in ascending order of their names. -/
structure Environment where
  vars : List (Bytes × Bytes)
  ascending : vars.Pairwise fun a b => a.1 < b.1

namespace Environment

@[ext] theorem ext {a b : Environment} (h : a.vars = b.vars) : a = b := by
  cases a
  cases b
  cases h
  rfl

instance : DecidableEq Environment := fun a b =>
  decidable_of_iff (a.vars = b.vars) ⟨ext, fun h => h ▸ rfl⟩

def empty : Environment :=
  ⟨[], .nil⟩

instance : EmptyCollection Environment := ⟨empty⟩

instance : Inhabited Environment := ⟨empty⟩

/-- Put a variable into an ascending list, replacing the one of its name. -/
def insertVar (name value : Bytes) : List (Bytes × Bytes) → List (Bytes × Bytes)
  | [] => [(name, value)]
  | (n, v) :: rest =>
    if name < n then (name, value) :: (n, v) :: rest
    else if n < name then (n, v) :: insertVar name value rest
    else (name, value) :: rest

theorem mem_insertVar {name value : Bytes} {vars : List (Bytes × Bytes)} {x : Bytes × Bytes}
    (h : x ∈ insertVar name value vars) : x = (name, value) ∨ x ∈ vars := by
  induction vars with
  | nil => simpa [insertVar] using h
  | cons y rest ih =>
    obtain ⟨n, v⟩ := y
    simp only [insertVar] at h
    split at h
    · simpa using h
    · split at h
      · rcases List.mem_cons.1 h with h | h
        · exact Or.inr (by simp [h])
        · rcases ih h with h | h
          · exact Or.inl h
          · exact Or.inr (List.mem_cons_of_mem _ h)
      · rcases List.mem_cons.1 h with h | h
        · exact Or.inl h
        · exact Or.inr (List.mem_cons_of_mem _ h)

theorem pairwise_insertVar (name value : Bytes) {vars : List (Bytes × Bytes)}
    (h : vars.Pairwise fun a b => a.1 < b.1) :
    (insertVar name value vars).Pairwise fun a b => a.1 < b.1 := by
  induction vars with
  | nil => simp [insertVar]
  | cons y rest ih =>
    obtain ⟨n, v⟩ := y
    obtain ⟨hy, hrest⟩ := List.pairwise_cons.1 h
    simp only [insertVar]
    split
    · next hlt =>
      refine List.pairwise_cons.2 ⟨?_, h⟩
      intro x hx
      rcases List.mem_cons.1 hx with rfl | hx
      · exact hlt
      · exact List.lt_trans hlt (hy x hx)
    · next hnlt =>
      split
      · next hlt =>
        refine List.pairwise_cons.2 ⟨?_, ih hrest⟩
        intro x hx
        rcases mem_insertVar hx with rfl | hx
        · exact hlt
        · exact hy x hx
      · next hnlt' =>
        have heq : name = n := List.le_antisymm (List.not_lt.1 hnlt') (List.not_lt.1 hnlt)
        subst heq
        exact List.pairwise_cons.2 ⟨hy, hrest⟩

def set (env : Environment) (name value : Bytes) : Environment :=
  ⟨insertVar name value env.vars, pairwise_insertVar name value env.ascending⟩

/-- The value of a variable, if it is set. -/
def get? (env : Environment) (name : Bytes) : Option Bytes :=
  (env.vars.find? (·.1 = name)).map (·.2)

/-- The environment with the given variables; of two with one name the later counts. -/
def ofList (vars : List (Bytes × Bytes)) : Environment :=
  vars.foldl (fun env (name, value) => env.set name value) empty

/-- The value of a variable whose name is given as text. -/
def getText? (env : Environment) (name : String) : Option Bytes :=
  env.get? (Text.Utf8.encode name)

/-- The environment with one variable set, both parts given as text. -/
def setText (env : Environment) (name value : String) : Environment :=
  env.set (Text.Utf8.encode name) (Text.Utf8.encode value)

@[simp] theorem get?_empty (name : Bytes) : empty.get? name = none := rfl

end Environment
end GoTasks
