import GoTasks.Host.FileAccess
import GoTasks.Host.Shell.Expansion

/-!
# Names of files

A field that is a pattern becomes the names of the files that it fits, in the order of their
bytes. The pattern is matched part by part, as separators divide it: a part that can stand for
several names is looked for in the directory that the parts before it lead to. A name that
starts with a dot is found only by a pattern that does, too. Where nothing fits, the field stays
what it is.
-/

namespace GoTasks.Shell

/-- Whether a text comes before another one, or is the same. -/
def Raw.precedes : Raw → Raw → Bool
  | [], _ => true
  | _ :: _, [] => false
  | a :: as, b :: bs => if a = b then Raw.precedes as bs else a < b

namespace Pathname

def separator : Char := '/'

def parts : List Glyph → List (List Glyph)
  | [] => [[]]
  | g :: rest =>
    if g.char = separator then [] :: parts rest
    else
      match parts rest with
      | [] => [[g]]
      | p :: ps => (g :: p) :: ps

/-- Whether there is something of a name, be it a link that leads nowhere. -/
def isPresent (t : FileTree) (cwd : Location) (name : Raw) : Bool :=
  match t.destination cwd false ⟨bytesOf name⟩ with
  | .ok (.existing _) => true
  | _ => false

/-- The names in a directory, which is the working directory if none is named. Each directory
holds itself and the one above it. -/
def namesIn (t : FileTree) (cwd : Location) (directory : Raw) : List Raw :=
  let dir? := if directory.isEmpty then .ok cwd else t.enter cwd ⟨bytesOf directory⟩
  match dir? with
  | .ok dir => ['.'] :: ['.', '.'] :: (t.names dir).map raw
  | .error _ => []

/-- Whether a part of a pattern stands for a name. -/
def admits (items : List PatternItem) (name : Raw) : Bool :=
  fits items name && (name.head? ≠ some '.' || items.head? = some (.exactly '.'))

/-- The names that parts of a pattern stand for, after a text that leads to them. -/
def namesFrom (t : FileTree) (cwd : Location) (before : Raw) : List (List Glyph) → List Raw
  | [] => if isPresent t cwd before then [before] else []
  | part :: rest =>
    let items := PatternItem.ofGlyphs part
    let after := if rest.isEmpty then [] else [separator]
    if isOpenPattern items then
      ((namesIn t cwd before).filter (admits items)).flatMap fun name =>
        namesFrom t cwd (before ++ name ++ after) rest
    else namesFrom t cwd (before ++ part.map (·.char) ++ after) rest

def ofField (t : FileTree) (cwd : Location) (field : List Glyph) : List Raw :=
  let found := if isOpenPattern (PatternItem.ofGlyphs field) then namesFrom t cwd [] (parts field)
    else []
  if found.isEmpty then [field.map (·.char)] else found.mergeSort Raw.precedes

end Pathname
end GoTasks.Shell
