import GoTasks.Config.Schema
import GoTasks.Config.Validate
import GoTasks.SystemError
import GoTasks.Toml.Document

/-!
# Reading a configuration

A configuration is read in three stages: the text is a document, the document fits the schema,
and the configuration breaks no rule. Each stage has its own way to fail, and so does getting
at the text in the first place.

An error is told as a chain of texts, from what was attempted down to what went wrong. What is wrong
with a text that is no document is for the reader of documents to say, so its explanation is given.
-/

namespace GoTasks.Config

/-- Why there is no configuration. -/
inductive ReadError where
  /-- The file cannot be read as text. -/
  | unreadable (path : Path) (cause : SystemError)
  /-- The text is no document. -/
  | malformed (explanation : String)
  /-- The document, of the given text, does not fit the schema. -/
  | mismatch (text : String) (found : Toml.Mismatch)
  /-- The configuration breaks a rule. -/
  | invalid (fault : Fault)
  deriving DecidableEq, Repr

namespace ReadError

/-- What was attempted when a text was not understood. -/
def parseContext : String := "Failed to parse gomk.toml"

/-- The texts of an error, from the outermost to the innermost. -/
def chain : ReadError → List String
  | unreadable path cause =>
    ["Failed to read configuration from " ++ path.display, cause.message]
  | malformed explanation => [parseContext, explanation]
  | mismatch text found => [parseContext, found.diagnostic.render text]
  | invalid fault => [fault.message]

end ReadError

/-- The configuration that a text holds, valid or not. -/
def decodeText? (explain : String → String) (text : String) : Except ReadError Config :=
  match Toml.document? text with
  | none => .error (.malformed (explain text))
  | some document =>
    match ofDocument document with
    | .error found => .error (.mismatch text found)
    | .ok config => .ok config

/-- A configuration, unless it breaks a rule. -/
def checked (config : Config) : Except ReadError Config :=
  match config.fault? with
  | some fault => .error (.invalid fault)
  | none => .ok config

def parse (explain : String → String) (text : String) : Except ReadError Config := do
  let config ← decodeText? explain text
  checked config

def parseFile (explain : String → String) (path : Path) (content : Except SystemError Bytes) :
    Except ReadError Config :=
  match content with
  | .error cause => .error (.unreadable path cause)
  | .ok bytes =>
    match Text.Utf8.decode? bytes with
    | none => .error (.unreadable path .notText)
    | some text => parse explain text

end GoTasks.Config
