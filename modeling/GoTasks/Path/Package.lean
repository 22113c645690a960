import GoTasks.Path.Basic

/-!
# Package arguments

The Go tool takes a package as a relative path that starts with `./` or `../`; anything else
it would read as a flag or as an import path. A package argument is the list of a path's
steps, written with single slashes and with the leading `./` that makes it relative.
-/

namespace GoTasks.Path

def isRelativePackage (s : String) : Bool :=
  ['.', '/'].isPrefixOf s.toList || ['.', '.', '/'].isPrefixOf s.toList

/-- The package argument that names the directory at a path. -/
def packageArgument (p : Path) : String :=
  let steps := "/".intercalate (p.components.map fun c => Text.Utf8.lossy c.bytes)
  if isRelativePackage steps then steps else "./" ++ steps

end GoTasks.Path
