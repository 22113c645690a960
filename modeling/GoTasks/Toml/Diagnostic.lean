import GoTasks.Toml.Node

/-!
# Diagnostics

A diagnostic points at a stretch of a text. It shows the line on which the stretch starts, with
carets below it, and says what is wrong.

Lines and columns count characters; there is one caret for each byte of the stretch, up to the
end of the line, and at least one.
-/

namespace GoTasks.Toml

/-- Something to say about a stretch of a text. -/
structure Diagnostic where
  span : Span
  message : String
  deriving DecidableEq, Repr

/-- Where a stretch of a text starts, and how much of its first line it covers. -/
structure Location where
  /-- The number of the line, from zero. -/
  line : Nat
  /-- The number of characters before it on the line. -/
  column : Nat
  /-- The text of the line. -/
  content : List Char
  /-- The number of carets below the line. -/
  width : Nat
  deriving DecidableEq, Repr

def byteCount (cs : List Char) : Nat :=
  cs.foldr (fun c total => c.utf8Size + total) 0

def Span.locate (span : Span) (cs : List Char) : Location :=
  let start := cs.length - span.fromStart
  let before := cs.take start
  let inLine := (before.reverse.takeWhile (· ≠ '\n')).reverse
  let content := inLine ++ (cs.drop start).takeWhile (· ≠ '\n')
  let covered := byteCount ((cs.drop start).take (span.fromStart - span.fromStop))
  { line := before.count '\n'
    column := inLine.length
    content := content
    width := max 1 (min covered (byteCount content - inLine.length)) }

/-- As many copies of a character as wanted. -/
def copies (n : Nat) (c : Char) : String :=
  String.ofList (List.replicate n c)

/-- A diagnostic of a text, over several lines. -/
def Diagnostic.render (d : Diagnostic) (text : String) : String :=
  let location := d.span.locate text.toList
  let number := toString (location.line + 1)
  let gutter := copies (number.length + 1) ' '
  "TOML parse error at line " ++ number ++ ", column " ++ toString (location.column + 1) ++ "\n" ++
    gutter ++ "|\n" ++
    number ++ " | " ++ String.ofList location.content ++ "\n" ++
    gutter ++ "|" ++ copies (location.column + 1) ' ' ++ copies location.width '^' ++ "\n" ++
    d.message ++ "\n"

end GoTasks.Toml
