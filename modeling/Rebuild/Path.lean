/-!
# Paths

A path is a text; its components are the pieces between slashes that are neither empty nor a single dot. `Path.join`
puts a path below another, and `Path.normal` is the one text for all paths with the same components and the same root:
two dots stay as they are.
-/

namespace Rebuild.Path

/-- Whether a path starts at the root of all files. -/
def isAbsolute (path : String) : Bool :=
  path.toList.head? == some '/'

/-- A path below a base: itself if it is absolute, else both with one slash between them. -/
def join (base path : String) : String :=
  if isAbsolute path || base.isEmpty then path
  else if base.toList.getLast? == some '/' then base ++ path
  else base ++ "/" ++ path

/-- The components of a path. -/
def components (path : String) : List String :=
  ((path.toList.splitOnP (· == '/')).filter fun c => !(c.isEmpty || c == ['.'])).map String.ofList

/-- The normal form of a path. -/
def normal (path : String) : String :=
  (if isAbsolute path then "/" else "") ++ "/".intercalate (components path)

/-- Whether a path stays where it starts: it is not absolute and has no component. -/
def isHere (path : String) : Bool :=
  !isAbsolute path && (components path).isEmpty

end Rebuild.Path
