set_option autoImplicit false

/-! # Paths as texts

A path is written as names divided by slashes. What is said of a path in a diagnostic is its text,
so that the parent and the last name of a path are read off its text as well. -/

namespace Phrasebook.Files

/-- The names a path goes through. Slashes in a row count as one. -/
def names (path : String) : List String :=
  ((path.toList.splitOn '/').map String.ofList).filter (· ≠ "")

def isAbsolute (path : String) : Bool := path.startsWith "/"

/-- A path and a name below it. -/
def join (path name : String) : String :=
  if path = "" || path.endsWith "/" then path ++ name else path ++ "/" ++ name

/-- The end of a path, in reverse, without slashes and names `.` that mean nothing there. -/
def trimEnd : List Char → List Char
  | ['/'] => ['/']
  | '/' :: cs => trimEnd cs
  | '.' :: '/' :: cs => trimEnd ('/' :: cs)
  | cs => cs

/-- The path without its last name. -/
def parent (path : String) : String :=
  let cs := trimEnd path.toList.reverse
  String.ofList (trimEnd (cs.dropWhile (· ≠ '/'))).reverse

/-- The last name of a path, if that is the name of a file. -/
def lastName? (path : String) : Option String :=
  let name := String.ofList ((trimEnd path.toList.reverse).takeWhile (· ≠ '/')).reverse
  if name = "" || name = "." || name = ".." then none else some name

end Phrasebook.Files
