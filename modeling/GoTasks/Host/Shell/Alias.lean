import GoTasks.Host.Shell.Token

/-!
# Aliases

An alias is a name that stands for a text where a command can start. The text is put in place of
the name and read as if it were written there, but for the name, which then stands for itself. If
the text ends in a blank, the next word can be an alias, too.
-/

namespace GoTasks.Shell

/-- The texts that names stand for, in the order in which the names were given one. -/
abbrev Aliases := List (Raw × Raw)

namespace Aliases

def set (aliases : Aliases) (name text : Raw) : Aliases :=
  if (aliases.lookup name).isSome then
    aliases.map fun (other, before) => if other = name then (other, text) else (other, before)
  else aliases ++ [(name, text)]

def size (aliases : Aliases) : Nat :=
  aliases.foldr (fun (_, text) total => text.length + total) 0

/-- A token in which some names stand for themselves. -/
def settled (names : List Raw) (t : PlacedToken) : PlacedToken :=
  match t.token with
  | .word [.text cs false] =>
    if names.contains cs then { t with token := .word [.text [] false, .text cs false] } else t
  | _ => t

/-- The tokens of a text that stands for a name on a line. -/
def tokensOf (line : Nat) (text : Raw) : List PlacedToken :=
  (tokens line text).filter (·.token ≠ .scriptEnd)

/-- Whether the word after a text can be an alias, too. -/
def goesOn (text : Raw) : Bool :=
  text.getLast?.all fun c => c = ' ' || c = '\t'

/-- The text that the first of some tokens stands for, and its name. -/
def first? (aliases : Aliases) (t : PlacedToken) : Option (Raw × Raw) :=
  match t.token with
  | .word w =>
    w.bare?.bind fun name =>
      if keywords.contains (String.ofList name) then none
      else (aliases.lookup name).map (name, ·)
  | _ => none

/-- Put texts in place of aliases at the start of tokens, at most so many times, except for those
in whose texts the tokens stand. -/
def replaceWithin (aliases : Aliases) : Nat → List Raw → List PlacedToken → List PlacedToken
  | 0, _, tokens => tokens
  | _, _, [] => []
  | limit + 1, inUse, t :: rest =>
    match aliases.first? t with
    | none => t :: rest
    | some (name, text) =>
      if inUse.contains name then t :: rest
      else
        let names := name :: inUse
        let left := if goesOn text then aliases.replaceWithin limit inUse rest else rest
        aliases.replaceWithin limit names ((tokensOf t.line text).map (settled names) ++ left)

/-- Put texts in place of aliases at the start of tokens. -/
def replace (aliases : Aliases) (tokens : List PlacedToken) : List PlacedToken :=
  if aliases.isEmpty then tokens
  else aliases.replaceWithin (aliases.length + tokens.length + 1) [] tokens

end Aliases
end GoTasks.Shell
