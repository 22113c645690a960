import GoTasks.Proofs.DistinctKeys

/-!
# What a document holds

The content of a part of a document is what remains of it without the places it is written at and
without how its tables came to be. Here is said what a content is taken for: a text, a number, or a
record whose fields are given by name or by position.

Contents that differ in the order of their keys alone are reorderings of each other. What a record
is given for a field does not depend on the order, because the names in a document are distinct.
-/

namespace GoTasks.Toml

/-- What a part of a document holds. -/
inductive Content where
  | scalar (value : Scalar)
  | array (items : List Content)
  | table (entries : List (String × Content))
  deriving Repr

namespace Content

mutual

/-- Whether two contents are the same is decided along their structure. -/
def decEq : (a b : Content) → Decidable (a = b)
  | scalar v, scalar w => decidable_of_iff (v = w) (by simp)
  | array xs, array ys => @decidable_of_iff _ (xs = ys) (by simp) (decEqItems xs ys)
  | table es, table fs => @decidable_of_iff _ (es = fs) (by simp) (decEqEntries es fs)
  | scalar _, array _ | scalar _, table _ | array _, scalar _ | array _, table _ | table _, scalar _
  | table _, array _ => isFalse nofun

def decEqItems : (xs ys : List Content) → Decidable (xs = ys)
  | [], [] => isTrue rfl
  | x :: xs, y :: ys =>
    have := decEq x y
    have := decEqItems xs ys
    decidable_of_iff (x = y ∧ xs = ys) (by simp)
  | [], _ :: _ | _ :: _, [] => isFalse nofun

def decEqEntries : (es fs : List (String × Content)) → Decidable (es = fs)
  | [], [] => isTrue rfl
  | (n, x) :: es, (m, y) :: fs =>
    have := decEq x y
    have := decEqEntries es fs
    decidable_of_iff (n = m ∧ x = y ∧ es = fs) (by simp [and_assoc])
  | [], _ :: _ | _ :: _, [] => isFalse nofun

end

instance : DecidableEq Content := decEq

end Content

namespace Node

mutual

def content : Node → Content
  | .scalar _ value => .scalar value
  | .array _ items => .array (contents items)
  | .tables items => .array (contents items)
  | .table _ _ entries => .table (entryContents entries)

def contents : List Node → List Content
  | [] => []
  | node :: rest => node.content :: contents rest

/-- The contents of the entries of a table, each under its name. -/
def entryContents : List (Key × Node) → List (String × Content)
  | [] => []
  | (key, node) :: rest => (key.name, node.content) :: entryContents rest

end

theorem contents_eq (items : List Node) : contents items = items.map content := by
  induction items with
  | nil => rfl
  | cons node rest ih => rw [contents, ih, List.map_cons]

theorem entryContents_eq (entries : List (Key × Node)) :
    entryContents entries = entries.map fun entry => (entry.1.name, entry.2.content) := by
  induction entries with
  | nil => rfl
  | cons entry rest ih => rw [entryContents, ih, List.map_cons]

theorem map_fst_entryContents (entries : List (Key × Node)) :
    (entryContents entries).map (·.1) = names entries := by
  rw [entryContents_eq, List.map_map]
  rfl

end Node

/-- The content of the document that a text holds; `none` if it holds none. -/
def content? (text : String) : Option Content :=
  (document? text).map Node.content

namespace Content

/-! ## Readings -/

def text? : Content → Option String
  | scalar (.text s) => some s
  | _ => none

def boolean? : Content → Option Bool
  | scalar (.boolean b) => some b
  | _ => none

def natural? : Content → Option Nat
  | scalar (.integer n) => if 0 ≤ n then some n.toNat else none
  | _ => none

def texts? : Content → Option (List String)
  | array items => items.mapM text?
  | _ => none

/-- Whether a reading reads a content. -/
def reads {α : Type} (read? : Content → Option α) (content : Content) : Bool :=
  (read? content).isSome

/-- What a content gives for a record with fields of some names: entries by name in a table, items
by position in an array. Items beyond the last field count for nothing. -/
def entriesFor? (fieldNames : List String) : Content → Option (List (String × Content))
  | table entries => some entries
  | array items => some (fieldNames.zip items)
  | scalar _ => none

/-- What a content gives for a field of a record. -/
def given? (fieldNames : List String) (name : String) (content : Content) : Option Content :=
  (content.entriesFor? fieldNames).bind (·.lookup name)

/-- Whether an entry is given for one of some fields and is what that field asks for. -/
def fitsField (fields : List (String × (Content → Bool))) (entry : String × Content) : Bool :=
  fields.any fun field => field.1 = entry.1 && field.2 entry.2

/-- Whether a content is a record with some fields, which is given nothing but what fits them. -/
def isRecord (fields : List (String × (Content → Bool))) (content : Content) : Bool :=
  (content.entriesFor? (fields.map (·.1))).any (·.all (fitsField fields))

theorem fitsField_iff {fields : List (String × (Content → Bool))} {entry : String × Content} :
    fitsField fields entry = true ↔
      ∃ field ∈ fields, field.1 = entry.1 ∧ field.2 entry.2 = true := by
  simp [fitsField]

/-! ## Distinct names -/

/-- Whether no table, of those that are reached through tables alone, has a name twice. -/
inductive Distinct : Content → Prop where
  | scalar {value : Scalar} : Distinct (.scalar value)
  | array {items : List Content} : Distinct (.array items)
  | table {entries : List (String × Content)} (nodup : (entries.map (·.1)).Nodup)
      (values : ∀ entry ∈ entries, Distinct entry.2) : Distinct (.table entries)

/-- A record is given distinct names by a table with distinct names, and by any array. -/
theorem nodup_of_entriesFor? {fieldNames : List String} {content : Content}
    {entries : List (String × Content)} (nodup : fieldNames.Nodup) (distinct : content.Distinct)
    (given : content.entriesFor? fieldNames = some entries) : (entries.map (·.1)).Nodup := by
  cases distinct with
  | scalar => cases given
  | table table_nodup =>
      cases given
      exact table_nodup
  | @array items =>
      cases given
      induction fieldNames generalizing items with
      | nil => exact .nil
      | cons name rest ih =>
          cases items with
          | nil => exact .nil
          | cons item items =>
              obtain ⟨fresh, nodup⟩ := List.nodup_cons.mp nodup
              refine List.nodup_cons.mpr ⟨fun again => fresh ?_, ih nodup⟩
              obtain ⟨⟨_, _⟩, member, rfl⟩ := List.mem_map.mp again
              exact (List.of_mem_zip member).1

theorem distinct_table_iff {entries : List (String × Content)} :
    (table entries).Distinct ↔
      (entries.map (·.1)).Nodup ∧ ∀ entry ∈ entries, entry.2.Distinct := by
  constructor
  · rintro ⟨⟩
    constructor <;> assumption
  · rintro ⟨nodup, values⟩
    exact .table nodup values

end Content

theorem Node.Distinct.content {node : Node} (distinct : node.Distinct) :
    node.content.Distinct := by
  induction distinct with
  | scalar => exact .scalar
  | array | tables => exact .array
  | table nodup values ih =>
      rw [Node.content]
      refine .table ?_ ?_
      · rwa [map_fst_entryContents]
      · rw [entryContents_eq, List.forall_mem_map]
        exact ih

theorem distinct_of_content? {text : String} {content : Content}
    (read : content? text = some content) : content.Distinct := by
  obtain ⟨document, held, rfl⟩ := Option.map_eq_some_iff.mp read
  exact (distinct_of_document? held).content

namespace Content

/-! ## Reordering -/

/-- Contents that differ in the order of the entries of tables alone. -/
inductive Reordered : Content → Content → Prop where
  | table {entries entries' : List (String × Content)} (perm : entries.Perm entries') :
      Reordered (.table entries) (.table entries')
  | inside {name : String} {value value' : Content} (before after : List (String × Content))
      (reordered : Reordered value value') :
      Reordered (.table (before ++ (name, value) :: after))
        (.table (before ++ (name, value') :: after))
  | trans {first second third : Content} (left : Reordered first second)
      (right : Reordered second third) : Reordered first third

theorem Reordered.distinct {first second : Content} (reordered : first.Reordered second)
    (distinct : first.Distinct) : second.Distinct := by
  induction reordered with
  | table perm =>
      obtain ⟨nodup, values⟩ := distinct_table_iff.mp distinct
      exact .table ((perm.map _).nodup_iff.mp nodup) fun entry member =>
        values entry (perm.mem_iff.mpr member)
  | inside before after reordered ih =>
      obtain ⟨nodup, values⟩ := distinct_table_iff.mp distinct
      simp only [List.forall_mem_append, List.forall_mem_cons] at values
      refine .table (by simpa using nodup) ?_
      simp only [List.forall_mem_append, List.forall_mem_cons]
      exact ⟨values.1, ih values.2.1, values.2.2⟩
  | trans left right ihLeft ihRight => exact ihRight (ihLeft distinct)

/-- Whether what is made of a content does not depend on the order of entries. -/
def OrderBlind {α : Type} (f : Content → α) : Prop :=
  ∀ ⦃first second : Content⦄, first.Reordered second → first.Distinct → f first = f second

/-- What is the same for all tables does not depend on the order of entries. -/
theorem orderBlind_of_table {α : Type} {f : Content → α} {a : α}
    (same : ∀ entries, f (.table entries) = a) : OrderBlind f := by
  intro first second reordered distinct
  induction reordered with
  | table | inside => rw [same, same]
  | trans left right ihLeft ihRight =>
      exact (ihLeft distinct).trans (ihRight (left.distinct distinct))

theorem lookup_eq_some_iff {entries : List (String × Content)}
    (nodup : (entries.map (·.1)).Nodup) {name : String} {value : Content} :
    entries.lookup name = some value ↔ (name, value) ∈ entries := by
  induction entries with
  | nil => simp
  | cons entry rest ih =>
      obtain ⟨first, held⟩ := entry
      obtain ⟨fresh, nodup⟩ := List.nodup_cons.mp nodup
      rw [List.lookup_cons, List.mem_cons]
      by_cases here : name = first
      · subst here
        have absent : (name, value) ∉ rest := by
          intro member
          exact fresh (List.mem_map.mpr ⟨_, member, rfl⟩)
        simp [absent, eq_comm]
      · simp [beq_eq_false_iff_ne.mpr here, here, ih nodup]

theorem lookup_perm {entries entries' : List (String × Content)} (perm : entries.Perm entries')
    (nodup : (entries.map (·.1)).Nodup) (name : String) :
    entries.lookup name = entries'.lookup name := by
  have nodup' : (entries'.map (·.1)).Nodup := (perm.map _).nodup_iff.mp nodup
  ext value
  rw [lookup_eq_some_iff nodup, lookup_eq_some_iff nodup', perm.mem_iff]

/-- What is read from a field does not depend on the order in which the fields are given. -/
theorem orderBlind_given? {α : Type} {f : Content → Option α} (blind : OrderBlind f)
    (fieldNames : List String) (name : String) :
    OrderBlind fun content => (content.given? fieldNames name).bind f := by
  intro first second reordered distinct
  induction reordered with
  | table perm =>
      simp only [given?, entriesFor?, Option.bind_some,
        lookup_perm perm (distinct_table_iff.mp distinct).1]
  | @inside other value value' before after reordered =>
      have same : f value = f value' :=
        blind reordered ((distinct_table_iff.mp distinct).2 (other, value) (by simp))
      simp only [given?, entriesFor?, Option.bind_some, List.lookup_append, List.lookup_cons]
      cases before.lookup name with
      | some found => rfl
      | none => cases name == other <;> simp [same]
  | trans left right ihLeft ihRight =>
      exact (ihLeft distinct).trans (ihRight (left.distinct distinct))

/-- Whether a content is a record does not depend on the order in which the fields are given. -/
theorem orderBlind_isRecord {fields : List (String × (Content → Bool))}
    (blind : ∀ field ∈ fields, OrderBlind field.2) : OrderBlind (isRecord fields) := by
  intro first second reordered distinct
  induction reordered with
  | table perm => simp only [isRecord, entriesFor?, Option.any_some, perm.all_eq]
  | @inside name value value' before after reordered =>
      have value_distinct : value.Distinct :=
        (distinct_table_iff.mp distinct).2 (name, value) (by simp)
      have same : fitsField fields (name, value) = fitsField fields (name, value') := by
        rw [Bool.eq_iff_iff, fitsField_iff, fitsField_iff]
        refine exists_congr fun field => and_congr_right fun member => ?_
        rw [blind field member reordered value_distinct]
      simp only [isRecord, entriesFor?, Option.any_some, List.all_append, List.all_cons, same]
  | trans left right ihLeft ihRight =>
      exact (ihLeft distinct).trans (ihRight (left.distinct distinct))

end Content
end GoTasks.Toml
