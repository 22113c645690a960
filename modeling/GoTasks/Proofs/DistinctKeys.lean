import GoTasks.Toml.Document

/-!
# Keys of a document

No table of a document has two entries under one name. That is said of a part of a document with
all that is in it, because sections and dotted keys reach into tables that are there already.

Tables are changed by steps that may be refused. Every step keeps the names of a table distinct:
an entry that is altered stays under its name, and an entry that is added comes under a new one.
-/

namespace GoTasks.Toml

/-- The names of entries, in order. -/
def names (entries : List (Key × Node)) : List String :=
  entries.map (·.1.name)

namespace Node

/-- Whether no table in a part of a document has two entries under one name. -/
inductive Distinct : Node → Prop where
  | scalar {span : Span} {value : Scalar} : Distinct (.scalar span value)
  | array {span : Span} {items : List Node} (items_distinct : ∀ item ∈ items, Distinct item) :
      Distinct (.array span items)
  | tables {items : List Node} (items_distinct : ∀ item ∈ items, Distinct item) :
      Distinct (.tables items)
  | table {kind : TableKind} {span? : Option Span} {entries : List (Key × Node)}
      (nodup : (names entries).Nodup) (values : ∀ entry ∈ entries, Distinct entry.2) :
      Distinct (.table kind span? entries)

theorem distinct_table_iff {kind : TableKind} {span? : Option Span} {entries : List (Key × Node)} :
    (table kind span? entries).Distinct ↔
      (names entries).Nodup ∧ ∀ entry ∈ entries, entry.2.Distinct := by
  constructor
  · rintro ⟨⟩
    constructor <;> assumption
  · rintro ⟨nodup, values⟩
    exact .table nodup values

theorem distinct_entries {node : Node} (distinct : node.Distinct) :
    (names node.entries).Nodup ∧ ∀ entry ∈ node.entries, entry.2.Distinct := by
  cases node with
  | table kind span? entries => exact distinct_table_iff.mp distinct
  | scalar | array | tables => exact ⟨.nil, by simp [entries]⟩

theorem distinct_tables_iff {items : List Node} :
    (tables items).Distinct ↔ ∀ item ∈ items, item.Distinct := by
  constructor
  · rintro ⟨⟩
    assumption
  · exact .tables

theorem distinct_emptyTable (kind : TableKind) (span? : Option Span) :
    (emptyTable kind span?).Distinct :=
  .table .nil (by simp)

/-- Whether a change of a part of a document keeps names distinct wherever they were. -/
def Keeps (change : Node → Option Node) : Prop :=
  ∀ ⦃node changed : Node⦄, node.Distinct → change node = some changed → changed.Distinct

end Node

open Node

/-! ## Entries -/

theorem mem_names_of_alterEntry {key : Key} {change : Option Node → Option Node} {name : String}
    {entries changed : List (Key × Node)} (altered : alterEntry key change entries = some changed)
    (member : name ∈ names changed) : name = key.name ∨ name ∈ names entries := by
  induction entries generalizing changed with
  | nil =>
      simp only [alterEntry, Option.bind_eq_bind, Option.bind_eq_some_iff,
        Option.some.injEq] at altered
      obtain ⟨node, -, rfl⟩ := altered
      simpa [names] using member
  | cons entry rest ih =>
      obtain ⟨k, old⟩ := entry
      rw [alterEntry] at altered
      split at altered
      all_goals
        simp only [Option.bind_eq_bind, Option.bind_eq_some_iff, Option.some.injEq] at altered
      · obtain ⟨node, -, rfl⟩ := altered
        exact .inr member
      · obtain ⟨rest', altered, rfl⟩ := altered
        rcases List.mem_cons.mp member with rfl | member
        · exact .inr List.mem_cons_self
        · exact (ih altered member).imp_right (List.mem_cons_of_mem _)

/-- An entry that is altered stays under its name, and an added one comes under a new name. -/
theorem distinct_alterEntry {key : Key} {change : Option Node → Option Node}
    (added : ∀ node, change none = some node → node.Distinct)
    (kept : Keeps fun node => change (some node)) {entries changed : List (Key × Node)}
    (nodup : (names entries).Nodup) (values : ∀ entry ∈ entries, entry.2.Distinct)
    (altered : alterEntry key change entries = some changed) :
    (names changed).Nodup ∧ ∀ entry ∈ changed, entry.2.Distinct := by
  induction entries generalizing changed with
  | nil =>
      simp only [alterEntry, Option.bind_eq_bind, Option.bind_eq_some_iff,
        Option.some.injEq] at altered
      obtain ⟨node, made, rfl⟩ := altered
      exact ⟨by simp [names], by simpa using added node made⟩
  | cons entry rest ih =>
      obtain ⟨k, old⟩ := entry
      obtain ⟨fresh, nodup⟩ := List.nodup_cons.mp nodup
      obtain ⟨first, values⟩ := List.forall_mem_cons.mp values
      rw [alterEntry] at altered
      split at altered
      all_goals
        simp only [Option.bind_eq_bind, Option.bind_eq_some_iff, Option.some.injEq] at altered
      · obtain ⟨node, made, rfl⟩ := altered
        exact ⟨List.nodup_cons.mpr ⟨fresh, nodup⟩,
          List.forall_mem_cons.mpr ⟨kept first made, values⟩⟩
      · next other =>
        obtain ⟨rest', altered, rfl⟩ := altered
        obtain ⟨nodup, values⟩ := ih nodup values altered
        refine ⟨List.nodup_cons.mpr ⟨fun again => ?_, nodup⟩,
          List.forall_mem_cons.mpr ⟨first, values⟩⟩
        exact (mem_names_of_alterEntry altered again).elim other fresh

theorem distinct_alterLast {change : Node → Option Node} (kept : Keeps change)
    {items changed : List Node} (distinct : ∀ item ∈ items, item.Distinct)
    (altered : alterLast change items = some changed) : ∀ item ∈ changed, item.Distinct := by
  simp only [alterLast, Option.bind_eq_bind, Option.bind_eq_some_iff,
    Option.some.injEq] at altered
  obtain ⟨last, isLast, last', made, rfl⟩ := altered
  intro item member
  rcases List.mem_append.mp member with member | member
  · exact distinct item (List.dropLast_subset items member)
  · rw [List.mem_singleton.mp member]
    exact kept (distinct last (List.mem_of_getLast? isLast)) made

/-! ## Steps that change a table -/

namespace Node

theorem keeps_alter (route : Route) (path : List Key) {change : Node → Option Node}
    (kept : Keeps change) : Keeps (alter route path change) := by
  induction path with
  | nil => exact kept
  | cons key path ih =>
      intro node changed distinct altered
      cases node with
      | table kind span? entries =>
          obtain ⟨nodup, values⟩ := distinct_table_iff.mp distinct
          simp only [alter, Option.bind_eq_bind, Option.bind_eq_some_iff,
            Option.some.injEq] at altered
          obtain ⟨entries', altered, rfl⟩ := altered
          refine distinct_table_iff.mpr (distinct_alterEntry ?_ ?_ nodup values altered)
          · intro made
            exact ih (distinct_emptyTable route.made none)
          · intro old made distinct altered
            cases old with
            | tables items =>
                simp only [Option.map_eq_map, Option.map_eq_some_iff] at altered
                obtain ⟨items', altered, rfl⟩ := altered
                exact .tables (distinct_alterLast ih (distinct_tables_iff.mp distinct) altered)
            | table kind span? entries =>
                dsimp only at altered
                split at altered
                · exact ih distinct altered
                · cases altered
            | scalar | array => cases altered
      | scalar | array | tables => cases altered

theorem keeps_insertNew (key : Key) {value : Node} (distinct : value.Distinct) :
    Keeps fun node => node.insertNew key value := by
  intro node changed old inserted
  cases node with
  | table kind span? entries =>
      obtain ⟨nodup, values⟩ := distinct_table_iff.mp old
      simp only [insertNew] at inserted
      split at inserted
      · cases inserted
      · next fresh =>
        obtain rfl := Option.some.inj inserted
        have unused : key.name ∉ names entries := by
          simpa [names] using fresh
        refine .table ?_ (List.forall_mem_append.mpr ⟨values, by simpa using distinct⟩)
        rw [names, List.map_append]
        exact (List.perm_append_singleton _ _).nodup_iff.mpr (List.nodup_cons.mpr ⟨unused, nodup⟩)
  | scalar | array | tables => cases inserted

theorem keeps_assign (parents : List Key) (key : Key) {value : Node} (distinct : value.Distinct) :
    Keeps fun node => node.assign parents key value := by
  refine keeps_alter .dottedKey parents fun target changed old assigned => ?_
  split at assigned
  · cases assigned
  · exact keeps_insertNew key distinct old assigned

theorem distinct_stretchTo {node : Node} (distinct : node.Distinct) (value : Node) :
    (node.stretchTo value).Distinct := by
  unfold stretchTo
  split
  · exact distinct_table_iff.mpr (distinct_table_iff.mp distinct)
  · exact distinct

/-- Steps that keep names distinct do so one after another. -/
theorem keeps_foldlM {α : Type} {step : Node → α → Option Node} {xs : List α}
    (kept : ∀ x ∈ xs, Keeps (step · x)) : Keeps (xs.foldlM step ·) := by
  induction xs with
  | nil =>
      rintro node _ distinct ⟨⟩
      exact distinct
  | cons x xs ih =>
      intro node changed distinct folded
      simp only [List.foldlM_cons, Option.bind_eq_bind, Option.bind_eq_some_iff] at folded
      obtain ⟨next, stepped, folded⟩ := folded
      obtain ⟨first, others⟩ := List.forall_mem_cons.mp kept
      exact ih others (first distinct stepped) folded

theorem keeps_assignAll {assignments : List Assignment}
    (distinct : ∀ a ∈ assignments, a.value.Distinct) : Keeps (·.assignAll assignments) :=
  keeps_foldlM fun a member _ _ old assigned =>
    keeps_assign a.parents a.key (distinct a member) (distinct_stretchTo old a.value) assigned

/-! ## Sections -/

theorem keeps_takeImplied {node rest : Node} {name : String} {implied? : Option Node}
    (distinct : node.Distinct) (taken : node.takeImplied name = some (rest, implied?)) :
    rest.Distinct ∧ ∀ implied ∈ implied?, implied.Distinct := by
  cases node with
  | table kind span? entries =>
      obtain ⟨nodup, values⟩ := distinct_table_iff.mp distinct
      simp only [takeImplied] at taken
      split at taken
      · obtain ⟨rfl, rfl⟩ := Prod.mk.inj (Option.some.inj taken)
        exact ⟨distinct, by simp⟩
      · next found =>
        obtain ⟨rfl, rfl⟩ := Prod.mk.inj (Option.some.inj taken)
        refine ⟨.table ?_ fun entry member => values entry (List.mem_filter.mp member).1, ?_⟩
        · exact nodup.sublist (List.Sublist.map _ List.filter_sublist)
        · rintro _ ⟨⟩
          exact values _ (List.mem_of_find?_eq_some found)
      · cases taken
  | scalar | array | tables => cases taken

theorem distinct_opened (span : Span) {implied? : Option Node}
    (distinct : ∀ implied ∈ implied?, implied.Distinct) : (opened span implied?).Distinct := by
  unfold opened
  cases implied? with
  | none => exact distinct_emptyTable .headed (some span)
  | some implied => exact distinct_table_iff.mpr (distinct_entries (distinct implied rfl))

theorem keeps_pushElement (key : Key) {element : Node} (distinct : element.Distinct) :
    Keeps fun node => node.pushElement key element := by
  intro node changed old pushed
  cases node with
  | table kind span? entries =>
      obtain ⟨nodup, values⟩ := distinct_table_iff.mp old
      simp only [pushElement, Option.bind_eq_bind, Option.bind_eq_some_iff,
        Option.some.injEq] at pushed
      obtain ⟨entries', altered, rfl⟩ := pushed
      refine distinct_table_iff.mpr (distinct_alterEntry ?_ ?_ nodup values altered)
      · rintro _ ⟨⟩
        exact .tables (by simpa using distinct)
      · intro there made there_distinct added
        cases there with
        | tables items =>
            obtain rfl := Option.some.inj added
            exact .tables (List.forall_mem_append.mpr
              ⟨distinct_tables_iff.mp there_distinct, by simpa using distinct⟩)
        | scalar | array | table => cases added
  | scalar | array | tables => cases pushed

section

variable {assignments : List Assignment} (distinct : ∀ a ∈ assignments, a.value.Distinct)
include distinct

theorem keeps_putTable (key : Key) (span : Span) : Keeps (putTable key span assignments) := by
  intro parent changed old put
  simp only [putTable, Option.bind_eq_bind, Option.bind_eq_some_iff] at put
  obtain ⟨⟨rest, implied?⟩, taken, table, assigned, inserted⟩ := put
  obtain ⟨rest_distinct, implied_distinct⟩ := keeps_takeImplied old taken
  have table_distinct := keeps_assignAll distinct (distinct_opened span implied_distinct) assigned
  exact keeps_insertNew key table_distinct rest_distinct inserted

theorem keeps_putElement (key : Key) (span : Span) : Keeps (putElement key span assignments) := by
  intro parent changed old put
  simp only [putElement, Option.bind_eq_bind, Option.bind_eq_some_iff] at put
  obtain ⟨element, assigned, pushed⟩ := put
  have element_distinct : element.Distinct :=
    keeps_assignAll distinct (distinct_opened span (by simp)) assigned
  exact keeps_pushElement key element_distinct old pushed

end

theorem keeps_addSection {s : Section} (distinct : ∀ a ∈ s.assignments, a.value.Distinct) :
    Keeps (·.addSection s) := by
  unfold addSection
  cases s.header? with
  | none => exact keeps_assignAll distinct
  | some header =>
      refine keeps_alter .header header.parents ?_
      split
      · exact keeps_putElement distinct header.key header.span
      · exact keeps_putTable distinct header.key header.span

end Node

/-! ## Readers -/

/-- Whether whatever a reader reads has a property. -/
def Reader.Yields {α : Type} (read : Reader α) (property : α → Prop) : Prop :=
  ∀ ⦃cs : List Char⦄ ⦃a : α⦄ ⦃rest : List Char⦄, read cs = some (a, rest) → property a

theorem yields_scalarNode : scalarNode.Yields Distinct := by
  intro cs node rest read
  simp only [scalarNode, Option.bind_eq_bind, Option.bind_eq_some_iff, Option.some.injEq,
    Prod.mk.injEq] at read
  obtain ⟨_, -, rfl, -⟩ := read
  exact .scalar

theorem yields_arrayItems {item : Reader Node} (distinct : item.Yields Distinct) (fuel : Nat) :
    (arrayItems item fuel).Yields fun items => ∀ node ∈ items, node.Distinct := by
  induction fuel with
  | zero => rintro cs items rest ⟨⟩
  | succ fuel ih =>
      intro cs items rest read
      simp only [arrayItems, Option.bind_eq_bind, Option.bind_eq_some_iff] at read
      obtain ⟨cs, -, read⟩ := read
      split at read
      · cases read
        simp
      · simp only [Option.bind_eq_some_iff] at read
        obtain ⟨⟨first, _⟩, readFirst, _, -, read⟩ := read
        have first_distinct := distinct readFirst
        split at read
        · simp only [Option.bind_eq_some_iff, Option.some.injEq, Prod.mk.injEq] at read
          obtain ⟨⟨others, _⟩, readOthers, rfl, -⟩ := read
          exact List.forall_mem_cons.mpr ⟨first_distinct, ih readOthers⟩
        · cases read
          simpa using first_distinct
        · cases read

theorem yields_assignment {value : Reader Node} (distinct : value.Yields Distinct) :
    (assignment value).Yields fun a => a.value.Distinct := by
  intro cs a rest read
  simp only [assignment, Option.bind_eq_bind, Option.bind_eq_some_iff] at read
  obtain ⟨_, -, _, -, _, readValue, read⟩ := read
  split at read
  · cases read
    exact distinct readValue
  · cases read

theorem yields_inlineAssignments {value : Reader Node} (distinct : value.Yields Distinct)
    (fuel : Nat) :
    (inlineAssignments value fuel).Yields fun assignments =>
      ∀ a ∈ assignments, a.value.Distinct := by
  induction fuel with
  | zero => rintro cs assignments rest ⟨⟩
  | succ fuel ih =>
      intro cs assignments rest read
      simp only [inlineAssignments, Option.bind_eq_bind, Option.bind_eq_some_iff] at read
      obtain ⟨⟨first, _⟩, readFirst, read⟩ := read
      have first_distinct := yields_assignment distinct readFirst
      split at read
      · simp only [Option.bind_eq_some_iff, Option.some.injEq, Prod.mk.injEq] at read
        obtain ⟨⟨others, _⟩, readOthers, rfl, -⟩ := read
        exact List.forall_mem_cons.mpr ⟨first_distinct, ih readOthers⟩
      · cases read
        simpa using first_distinct
      · cases read

theorem yields_inlineRest {value : Reader Node} (distinct : value.Yields Distinct) :
    Reader.Yields (inlineRest value) fun assignments =>
      ∀ a ∈ assignments, a.value.Distinct := by
  intro cs assignments rest read
  unfold inlineRest at read
  split at read
  · cases read
    simp
  · exact yields_inlineAssignments distinct _ read

/-- A value is built up from values that are nested less deep. -/
theorem yields_valueWithin (depth : Nat) : (valueWithin depth).Yields Distinct := by
  induction depth with
  | zero => exact yields_scalarNode
  | succ depth ih =>
      intro cs node rest read
      unfold valueWithin at read
      split at read
      · simp only [Option.bind_eq_bind, Option.bind_eq_some_iff, Option.some.injEq,
          Prod.mk.injEq] at read
        obtain ⟨⟨items, _⟩, readItems, rfl, -⟩ := read
        exact .array (yields_arrayItems ih _ readItems)
      · simp only [Option.bind_eq_bind, Option.bind_eq_some_iff, Option.some.injEq,
          Prod.mk.injEq] at read
        obtain ⟨⟨assignments, _⟩, readAssignments, table, assigned, rfl, -⟩ := read
        exact distinct_table_iff.mpr (distinct_entries (keeps_assignAll
          (yields_inlineRest ih readAssignments) (distinct_emptyTable .inline none) assigned))
      · exact yields_scalarNode read

/-! ## Documents -/

/-- Whether the value that a statement assigns, if it assigns one, has distinct names. -/
def Statement.Distinct : Statement → Prop
  | header _ => True
  | assignment a => a.value.Distinct

theorem yields_statement : statement.Yields Statement.Distinct := by
  intro cs s rest read
  unfold statement at read
  split at read
  all_goals
    simp only [Reader.map, Option.bind_eq_bind, Option.bind_eq_some_iff, Option.map_eq_some_iff,
      Option.some.injEq, Prod.mk.injEq] at read
    obtain ⟨_, ⟨_, read, rfl⟩, _, -, rfl, -⟩ := read
  · trivial
  · exact yields_assignment (yields_valueWithin _) read

theorem distinct_of_statementsWithin {fuel : Nat} {cs : List Char} {statements : List Statement}
    (read : statementsWithin fuel cs = some statements) : ∀ s ∈ statements, s.Distinct := by
  induction fuel generalizing cs statements with
  | zero => cases read
  | succ fuel ih =>
      simp only [statementsWithin, Option.bind_eq_bind, Option.bind_eq_some_iff] at read
      obtain ⟨_, -, read⟩ := read
      split at read
      · cases read
        simp
      · simp only [Option.bind_eq_some_iff, Option.some.injEq] at read
        obtain ⟨⟨s, _⟩, readFirst, others, readOthers, rfl⟩ := read
        exact List.forall_mem_cons.mpr ⟨yields_statement readFirst, ih readOthers⟩

theorem distinct_before {s : Statement} {below : List Section} (first : s.Distinct)
    (distinct : ∀ s ∈ below, ∀ a ∈ s.assignments, a.value.Distinct) :
    ∀ made ∈ s.before below, ∀ a ∈ made.assignments, a.value.Distinct := by
  cases s with
  | header header =>
      cases below with
      | nil => simp [Statement.before]
      | cons top rest => simpa [Statement.before] using distinct
  | assignment a =>
      have assigned : a.value.Distinct := first
      cases below with
      | nil => simpa [Statement.before] using assigned
      | cons top rest => simpa [Statement.before, assigned] using distinct

theorem distinct_sections {statements : List Statement}
    (distinct : ∀ s ∈ statements, s.Distinct) :
    ∀ s ∈ sections statements, ∀ a ∈ s.assignments, a.value.Distinct := by
  induction statements with
  | nil => simp [sections]
  | cons s statements ih =>
      obtain ⟨first, others⟩ := List.forall_mem_cons.mp distinct
      exact distinct_before first (ih others)

/-- No table of a document has two entries under one name. -/
theorem distinct_of_document? {text : String} {document : Node}
    (read : document? text = some document) : document.Distinct := by
  simp only [document?, Option.bind_eq_bind, Option.bind_eq_some_iff] at read
  obtain ⟨statements, readStatements, built⟩ := read
  have distinct := distinct_sections (distinct_of_statementsWithin readStatements)
  exact keeps_foldlM (fun s member => keeps_addSection (distinct s member))
    (distinct_emptyTable .headed none) built

end GoTasks.Toml
