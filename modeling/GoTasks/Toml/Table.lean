import GoTasks.Toml.Node

/-!
# Tables under construction

A table is filled by assignments, whose keys may lead through further tables. Tables on the
way are made as needed. What was written as one kind of table cannot be reopened as another,
and nothing is ever assigned twice; an attempt to do either makes the document invalid.
-/

namespace GoTasks.Toml

/-- Why a path is followed: for the header of a table, or for a dotted key. -/
inductive Route where
  | header
  | dottedKey
  deriving DecidableEq, Repr

/-- The kind of a table that a route makes on its way. -/
def Route.made : Route → TableKind
  | header => .implied
  | dottedKey => .dotted

/-- Whether a route may pass through a table of a kind. -/
def Route.mayPass : Route → TableKind → Bool
  | _, .inline => false
  | header, _ => true
  | dottedKey, kind => kind = .implied || kind = .dotted

/-- Change the entry under a key, which may be missing; `none` stands for a refusal. A new entry
comes last. -/
def alterEntry (key : Key) (change : Option Node → Option Node) :
    List (Key × Node) → Option (List (Key × Node))
  | [] => do
    let node ← change none
    some [(key, node)]
  | (k, node) :: rest =>
    if k.name = key.name then do
      let node ← change (some node)
      some ((k, node) :: rest)
    else do
      let rest ← alterEntry key change rest
      some ((k, node) :: rest)

def alterLast (change : Node → Option Node) (items : List Node) : Option (List Node) := do
  let last ← items.getLast?
  let last ← change last
  some (items.dropLast ++ [last])

namespace Node

/-- Change the table at the end of a path. -/
def alter (route : Route) : List Key → (Node → Option Node) → Node → Option Node
  | [], change, node => change node
  | key :: path, change, .table kind span? entries => do
    let entries ← alterEntry key (fun
      | none => alter route path change (.emptyTable route.made none)
      | some (.tables items) => .tables <$> alterLast (alter route path change) items
      | some (.table kind span? entries) =>
        if route.mayPass kind then alter route path change (.table kind span? entries) else none
      | some _ => none) entries
    some (.table kind span? entries)
  | _ :: _, _, _ => none

/-- Add an entry to a table; refused if the key is taken. -/
def insertNew (node : Node) (key : Key) (value : Node) : Option Node :=
  match node with
  | .table kind span? entries =>
    if entries.any (·.1.name = key.name) then none
    else some (.table kind span? (entries ++ [(key, value)]))
  | _ => none

def isDotted : Node → Bool
  | .table .dotted _ _ => true
  | _ => false

/-- Assign a value under a dotted key: its parents must be tables that dotted keys made. -/
def assign (node : Node) (parents : List Key) (key : Key) (value : Node) : Option Node :=
  node.alter .dottedKey parents fun target =>
    if target.isDotted = parents.isEmpty then none else target.insertNew key value

/-- A table with a span reaches to the end of what is assigned in it. -/
def stretchTo (node value : Node) : Node :=
  match node with
  | .table kind (some span) entries =>
    .table kind (some ((value.span?.map span.through).getD span)) entries
  | _ => node

end Node

/-- A key with its parents, and the value assigned to it. -/
structure Assignment where
  parents : List Key
  key : Key
  value : Node

def Assignment.applyTo (a : Assignment) (table : Node) : Option Node :=
  (table.stretchTo a.value).assign a.parents a.key a.value

/-- Make assignments in a table, one after another. -/
def Node.assignAll (table : Node) (assignments : List Assignment) : Option Node :=
  assignments.foldlM (fun t a => a.applyTo t) table

end GoTasks.Toml
