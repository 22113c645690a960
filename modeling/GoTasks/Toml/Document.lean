import GoTasks.Toml.Section

/-!
# Reading a document

The sections of a document are added to its root one after another. A section may complete a
table that until then was only implied; the table then moves to the end of its parent, as if it
had just been written. A section that opens a table a second time makes the document invalid.
-/

namespace GoTasks.Toml

namespace Node

/-- Take the table out that a header is about to complete, if it is implied: what remains of the
parent, and what was taken. Anything else under the name is a refusal. -/
def takeImplied (node : Node) (name : String) : Option (Node × Option Node) :=
  match node with
  | .table kind span? entries =>
    match entries.find? (·.1.name = name) with
    | none => some (.table kind span? entries, none)
    | some (_, .table .implied s e) =>
      some (.table kind span? (entries.filter (·.1.name ≠ name)), some (.table .implied s e))
    | some _ => none
  | _ => none

/-- Add an element to an array of tables, which is made if need be. -/
def pushElement (node : Node) (key : Key) (element : Node) : Option Node :=
  match node with
  | .table kind span? entries => do
    let entries ← alterEntry key (fun
      | none => some (.tables [element])
      | some (.tables items) => some (.tables (items ++ [element]))
      | some _ => none) entries
    some (.table kind span? entries)
  | _ => none

/-- The table that a header opens, with what it held while it was implied. -/
def opened (span : Span) (implied? : Option Node) : Node :=
  .table .headed (some span) ((implied?.map entries).getD [])

def putTable (key : Key) (span : Span) (assignments : List Assignment) (parent : Node) :
    Option Node := do
  let (parent, implied?) ← parent.takeImplied key.name
  let table ← (opened span implied?).assignAll assignments
  parent.insertNew key table

/-- Add the table of a section to an array of tables in its parent. -/
def putElement (key : Key) (span : Span) (assignments : List Assignment) (parent : Node) :
    Option Node := do
  let element ← (opened span none).assignAll assignments
  parent.pushElement key element

def addSection (root : Node) (s : Section) : Option Node :=
  match s.header? with
  | none => root.assignAll s.assignments
  | some h =>
    root.alter .header h.parents
      (if h.isElement then putElement h.key h.span s.assignments
       else putTable h.key h.span s.assignments)

end Node

def emptyDocument : Node :=
  .emptyTable .headed none

/-- The document that sections make up; `none` if they contradict each other. -/
def ofSections? (sections : List Section) : Option Node :=
  sections.foldlM Node.addSection emptyDocument

/-- The document that a text holds; `none` if it holds none. -/
def document? (text : String) : Option Node := do
  let statements ← statements? text.toList
  ofSections? (sections statements)

end GoTasks.Toml
