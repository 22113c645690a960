import GoTasks.Decimal.Binary64

/-!
# TOML documents

A document is a tree of tables, arrays and scalars. Every part remembers where it was written,
so that a reader of the tree can point at what it does not like.

A place is given by what remains of the text there. That makes a span independent of how the
text before it was read.
-/

namespace GoTasks.Toml

/-- A stretch of the text: the number of characters that remain at its start and at its end. -/
structure Span where
  fromStart : Nat
  fromStop : Nat
  deriving DecidableEq, Repr

/-- The stretch between two places of a text, each given by the text that remains. -/
def Span.between (start stop : List Char) : Span :=
  ⟨start.length, stop.length⟩

/-- The stretch from the start of one to the end of another. -/
def Span.through (a b : Span) : Span :=
  ⟨a.fromStart, b.fromStop⟩

/-- One part of a key, as it is meant and where it is written. -/
structure Key where
  name : String
  span : Span
  deriving DecidableEq, Repr

/-- A value without parts. Of dates and times only their presence is kept. -/
inductive Scalar where
  | text (s : String)
  | integer (n : Int)
  | float (x : Decimal.Binary64)
  | boolean (b : Bool)
  | dateTime
  deriving DecidableEq, Repr

/-- How a table came to be. -/
inductive TableKind where
  /-- By a header, or as the document itself. -/
  | headed
  /-- As a parent of a table with a header. -/
  | implied
  /-- As a parent of a value with a dotted key. -/
  | dotted
  /-- As a value between braces. -/
  | inline
  deriving DecidableEq, Repr

/-- A part of a document. A table that nobody wrote as such has no span. -/
inductive Node where
  | scalar (span : Span) (value : Scalar)
  | array (span : Span) (items : List Node)
  | table (kind : TableKind) (span? : Option Span) (entries : List (Key × Node))
  | tables (items : List Node)
  deriving Repr

namespace Node

/-- Where a part is written. An array of tables reaches from its first to its last. -/
def span? : Node → Option Span
  | scalar span _ => some span
  | array span _ => some span
  | table _ span? _ => span?
  | tables items =>
    match items.head?, items.getLast? with
    | some (.table _ (some first) _), some (.table _ (some last) _) => some (first.through last)
    | _, _ => none

def emptyTable (kind : TableKind) (span? : Option Span) : Node :=
  .table kind span? []

def entries : Node → List (Key × Node)
  | table _ _ entries => entries
  | _ => []

def get? (node : Node) (name : String) : Option Node :=
  (node.entries.find? (·.1.name = name)).map (·.2)

end Node
end GoTasks.Toml
