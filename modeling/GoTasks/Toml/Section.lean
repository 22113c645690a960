import GoTasks.Toml.Value

/-!
# Sections of TOML

A document is written as a sequence of sections: assignments, each on a line, and before them,
but for the first section, the header of the table they are made in.
-/

namespace GoTasks.Toml

/-- The line that opens a section. -/
structure Header where
  /-- Whether the section is one more element of an array of tables. -/
  isElement : Bool
  parents : List Key
  key : Key
  span : Span

/-- A table as it is written. -/
structure Section where
  header? : Option Header
  assignments : List Assignment

/-- A line that says something. -/
inductive Statement where
  | header (h : Header)
  | assignment (a : Assignment)

/-- A header, whose form is decided by its brackets. -/
def header : Reader Header := fun cs =>
  match cs with
  | '[' :: '[' :: rest => do
    let (parts, rest) ← key rest
    let rest ← skipChar? ']' rest
    let rest ← skipChar? ']' rest
    let last ← parts.getLast?
    some (⟨true, parts.dropLast, last, .between cs rest⟩, rest)
  | '[' :: rest => do
    let (parts, rest) ← key rest
    let rest ← skipChar? ']' rest
    let last ← parts.getLast?
    some (⟨false, parts.dropLast, last, .between cs rest⟩, rest)
  | _ => none

/-- A statement with the end of its line. -/
def statement : Reader Statement := fun cs => do
  let (s, rest) ← match cs with
    | '[' :: _ => Reader.map .header header cs
    | _ => Reader.map .assignment (assignment value) cs
  let rest ← skipLineEnd? rest
  some (s, rest)

def statementsWithin : Nat → List Char → Option (List Statement)
  | 0, _ => none
  | fuel + 1, cs => do
    match ← skipLines? false cs with
    | [] => some []
    | cs =>
      let (s, rest) ← statement cs
      let others ← statementsWithin fuel rest
      some (s :: others)

/-- The text without a byte order mark at its start. -/
def withoutMark : List Char → List Char
  | '\uFEFF' :: rest => rest
  | cs => cs

/-- The statements of a text; `none` if it is not written as a document. -/
def statements? (cs : List Char) : Option (List Statement) :=
  statementsWithin (cs.length + 1) (withoutMark cs)

/-- Put a statement in front of sections, the first of which has no header. -/
def Statement.before (s : Statement) : List Section → List Section
  | [] =>
    match s with
    | .header h => [⟨none, []⟩, ⟨some h, []⟩]
    | .assignment a => [⟨none, [a]⟩]
  | first :: others =>
    match s with
    | .header h => ⟨none, []⟩ :: ⟨some h, first.assignments⟩ :: others
    | .assignment a => ⟨first.header?, a :: first.assignments⟩ :: others

def sections (statements : List Statement) : List Section :=
  statements.foldr Statement.before []

end GoTasks.Toml
