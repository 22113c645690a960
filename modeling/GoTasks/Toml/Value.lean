import GoTasks.Toml.DateTime
import GoTasks.Toml.Table

/-!
# Values of TOML

A value is a scalar, an array or a table between braces. Arrays and tables nest up to a limit,
and reading is recursive in what is left of it. The lists inside them are read by loops that
take the reader of one item as a parameter.
-/

namespace GoTasks.Toml

/-- A scalar that starts with a sign or a digit. -/
def numeric : Reader Scalar := fun cs =>
  match skipDateTime? cs with
  | some rest => some (.dateTime, rest)
  | none => (Reader.map .float float cs).or (Reader.map .integer integer cs)

/-- A scalar; its first character decides its form. -/
def scalar : Reader Scalar := fun cs =>
  match cs with
  | '"' :: _ | '\'' :: _ => Reader.map .text anyString cs
  | 't' :: 'r' :: 'u' :: 'e' :: rest => some (.boolean true, rest)
  | 'f' :: 'a' :: 'l' :: 's' :: 'e' :: rest => some (.boolean false, rest)
  | 'i' :: _ | 'n' :: _ => Reader.map .float namedFloat cs
  | c :: _ => if c = '+' || c = '-' || c.isDigit then numeric cs else none
  | [] => none

def scalarNode : Reader Node := fun cs => do
  let (value, rest) ← scalar cs
  some (.scalar (.between cs rest) value, rest)

/-- The items of an array, up to and with its closing bracket. -/
def arrayItems (item : Reader Node) : Nat → Reader (List Node)
  | 0, _ => none
  | fuel + 1, cs => do
    let cs ← skipLines? false cs
    match cs with
    | ']' :: rest => some ([], rest)
    | _ =>
      let (node, rest) ← item cs
      match ← skipLines? false rest with
      | ',' :: rest => do
        let (nodes, rest) ← arrayItems item fuel rest
        some (node :: nodes, rest)
      | ']' :: rest => some ([node], rest)
      | _ => none

/-- A key with its value. -/
def assignment (value : Reader Node) : Reader Assignment := fun cs => do
  let (parts, rest) ← key cs
  let rest ← skipChar? '=' rest
  let (node, rest) ← value (skipGap rest)
  match parts.getLast? with
  | some last => some (⟨parts.dropLast, last, node⟩, rest)
  | none => none

/-- The assignments of a table between braces, which has at least one, up to and with its closing
brace. -/
def inlineAssignments (value : Reader Node) : Nat → Reader (List Assignment)
  | 0, _ => none
  | fuel + 1, cs => do
    let (first, rest) ← assignment value cs
    match skipGap rest with
    | ',' :: rest => do
      let (others, rest) ← inlineAssignments value fuel rest
      some (first :: others, rest)
    | '\x7d' :: rest => some ([first], rest)
    | _ => none

def inlineRest (value : Reader Node) (cs : List Char) : Option (List Assignment × List Char) :=
  match skipGap cs with
  | '\x7d' :: rest => some ([], rest)
  | _ => inlineAssignments value (cs.length + 1) cs

/-- A value, in which arrays and tables are nested at most `depth` deep. -/
def valueWithin : Nat → Reader Node
  | 0, cs => scalarNode cs
  | depth + 1, cs =>
    match cs with
    | '[' :: rest => do
      let (items, rest) ← arrayItems (valueWithin depth) (rest.length + 1) rest
      some (.array (.between cs rest) items, rest)
    | '\x7b' :: rest => do
      let (assignments, rest) ← inlineRest (valueWithin depth) rest
      let table ← (Node.emptyTable .inline none).assignAll assignments
      some (.table .inline (some (.between cs rest)) table.entries, rest)
    | _ => scalarNode cs

def nestingLimit : Nat := 79

def value : Reader Node :=
  valueWithin nestingLimit

end GoTasks.Toml
