import GoTasks.Text.Quoted
import GoTasks.Decimal.Shortest
import GoTasks.Toml.Diagnostic

/-!
# Decoding a document

A document is decoded into records. A record knows its fields by name, starts from a default,
and takes from the document what is given there; a name it does not know is an error. Written
as an array, a record gives its fields by position: what is missing stays at its default, and
what is too much is ignored.

Whatever does not fit is reported as a mismatch at its place, and the first one counts.
-/

namespace GoTasks.Toml

/-- What a place of the document should have held. -/
inductive Expectation where
  | text
  | path
  | sequence
  | boolean
  | unsigned
  | record (name : String)
  deriving DecidableEq, Repr

def Expectation.describe : Expectation → String
  | text => "a string"
  | path => "path string"
  | sequence => "a sequence"
  | boolean => "a boolean"
  | unsigned => "u64"
  | record name => "struct " ++ name

/-- What does not fit. -/
inductive Problem where
  | unknownField (name : String) (known : List String)
  | wrongType (found : String) (expected : Expectation)
  | wrongValue (found : String) (expected : Expectation)
  deriving DecidableEq, Repr

/-- A name between accents. -/
def accented (s : String) : String :=
  "`" ++ s ++ "`"

def describeKnown : List String → String
  | [] => "there are no fields"
  | [a] => "expected " ++ accented a
  | [a, b] => "expected " ++ accented a ++ " or " ++ accented b
  | names => "expected one of " ++ ", ".intercalate (names.map accented)

def Problem.message : Problem → String
  | unknownField name known => "unknown field " ++ accented name ++ ", " ++ describeKnown known
  | wrongType found expected => "invalid type: " ++ found ++ ", expected " ++ expected.describe
  | wrongValue found expected => "invalid value: " ++ found ++ ", expected " ++ expected.describe

/-- A problem at its place. -/
structure Mismatch where
  span : Span
  problem : Problem
  deriving DecidableEq, Repr

def Mismatch.diagnostic (m : Mismatch) : Diagnostic :=
  ⟨m.span, m.problem.message⟩

def Scalar.describe : Scalar → String
  | text s => "string " ++ Text.quoted s
  | integer n => "integer " ++ accented (toString n)
  | float x => "floating point " ++ accented x.text
  | boolean b => "boolean " ++ accented (toString b)
  | dateTime => "map"

def Node.describe : Node → String
  | scalar _ s => s.describe
  | array .. => "sequence"
  | tables _ => "sequence"
  | table .. => "map"

/-- A decoder of `α`. It is told a place to point at for parts that have none of their own. -/
abbrev Decoder (α : Type) := Span → Node → Except Mismatch α

/-- Report that a part is of the wrong type. -/
def Decoder.refuse {α : Type} (expected : Expectation) : Decoder α := fun place node =>
  .error ⟨node.span?.getD place, .wrongType node.describe expected⟩

/-- Decode a string, described as given. -/
def Decoder.textAs (expected : Expectation) : Decoder String := fun place node =>
  match node with
  | .scalar _ (.text s) => .ok s
  | _ => Decoder.refuse expected place node

def Decoder.boolean : Decoder Bool := fun place node =>
  match node with
  | .scalar _ (.boolean b) => .ok b
  | _ => Decoder.refuse .boolean place node

def Decoder.unsigned : Decoder Nat := fun place node =>
  match node with
  | .scalar span (.integer n) =>
    if 0 ≤ n then .ok n.toNat
    else .error ⟨span, .wrongValue (Scalar.integer n).describe .unsigned⟩
  | _ => Decoder.refuse .unsigned place node

/-- Decode the items of an array, of either form. -/
def Decoder.list {α : Type} (item : Decoder α) : Decoder (List α) := fun place node =>
  match node with
  | .array _ items => items.mapM (item place)
  | .tables items => items.mapM (item place)
  | _ => Decoder.refuse .sequence place node

/-- A field of the record `σ`: its name, and how the record is changed by what is given for it. -/
structure Field (σ : Type) where
  name : String
  decode : Decoder (σ → σ)

/-- A field whose value is decoded and then put into the record. -/
def Field.of {σ α : Type} (name : String) (decode : Decoder α) (put : α → σ → σ) : Field σ :=
  ⟨name, fun place node => put <$> decode place node⟩

/-- The name under which a date appears when it is taken for a record. -/
def dateFieldName : String := "$__toml_private_datetime"

/-- A record: its name, its fields in order, and its default. -/
structure Record (σ : Type) where
  name : String
  fields : List (Field σ)
  default : σ

namespace Record

variable {σ : Type}

def fieldNames (r : Record σ) : List String :=
  r.fields.map (·.name)

def takeEntry (r : Record σ) (state : σ) (entry : Key × Node) : Except Mismatch σ :=
  match r.fields.find? (·.name = entry.1.name) with
  | none => .error ⟨entry.1.span, .unknownField entry.1.name r.fieldNames⟩
  | some field => (· state) <$> field.decode entry.1.span entry.2

def takeItem (place : Span) (state : σ) (given : Field σ × Node) : Except Mismatch σ :=
  (· state) <$> given.1.decode place given.2

def decode (r : Record σ) : Decoder σ := fun place node =>
  match node with
  | .table _ _ entries => entries.foldlM r.takeEntry r.default
  | .array _ items => (r.fields.zip items).foldlM (takeItem place) r.default
  | .tables items => (r.fields.zip items).foldlM (takeItem place) r.default
  | .scalar span .dateTime => .error ⟨span, .unknownField dateFieldName r.fieldNames⟩
  | .scalar .. => Decoder.refuse (.record r.name) place node

end Record
end GoTasks.Toml
