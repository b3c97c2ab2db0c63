import Phrasebook.Files.Path
import Phrasebook.Text.Sorting

set_option autoImplicit false

/-! # File trees

Directories, files and links, each at a place: the names that lead to it from the root. A file may
stand at several places; a symbolic link is a path that is followed in its stead. Paths that do not
start with a slash start at the working directory. -/

namespace Phrasebook

/-- Why a file or directory is not to be had. -/
inductive FileFault where
  | notFound
  /-- A file that had to be there is not. -/
  | absent
  | occupied
  | notADirectory
  | isADirectory
  | notText
  /-- A name, or a path as a whole, has too many bytes. -/
  | nameTooLong
  /-- A path has a character NUL in it. -/
  | nulInPath
  /-- A name has a character NUL in it. -/
  | nulInName
  | tooManyLinks
  /-- A link leads out of the directory that was to be kept to. -/
  | outside
  deriving DecidableEq

namespace FileFault

def message : FileFault → String
  | .notFound => "No such file or directory (os error 2)"
  | .absent => "entity not found"
  | .occupied => "File exists (os error 17)"
  | .notADirectory => "Not a directory (os error 20)"
  | .isADirectory => "Is a directory (os error 21)"
  | .notText => "stream did not contain valid UTF-8"
  | .nameTooLong => "File name too long (os error 36)"
  | .nulInPath => "file name contained an unexpected NUL byte"
  | .nulInName => "Invalid argument (os error 22)"
  | .tooManyLinks => "Too many levels of symbolic links (os error 40)"
  | .outside => "a path led outside of the filesystem"

end FileFault

/-- What a file holds: text in UTF-8, or bytes that are none. -/
inductive Contents where
  | text (s : String)
  | binary (bytes : ByteArray)

namespace Contents

def ofBytes (bytes : ByteArray) : Contents :=
  match String.fromUTF8? bytes with
  | some s => .text s
  | none => .binary bytes

end Contents

/-- The names that lead from the root to a directory, file or link. -/
abbrev Place := List String

/-- What stands at a place. -/
inductive Entry where
  | directory
  | file (id : Nat)
  | link (target : String)
  deriving DecidableEq

/-- The file that stands at a place. -/
def Entry.file? : Entry → Option Nat
  | .file id => some id
  | .directory | .link _ => none

/-- What stands where, and what files hold, the latest of each first. The root is always there; a
file is empty until something is written to it. -/
structure Files where
  working : Place := []
  entries : List (Place × Entry) := []
  holdings : List (Nat × Contents) := []

namespace Files

/-! ## Looking things up -/

def at? (fs : Files) (p : Place) : Option Entry :=
  if p = [] then some .directory else fs.entries.lookup p

def isDirectory (fs : Files) (p : Place) : Bool := fs.at? p == some .directory

/-- What a file holds. -/
def held (fs : Files) (id : Nat) : Contents := (fs.holdings.lookup id).getD (.text "")

/-- The place that a name leads to from a directory. -/
def step (here : Place) (name : String) : Place :=
  if name = "." then here else if name = ".." then here.dropLast else here ++ [name]

/-- The bytes that a name may have. -/
def maxNameSize : Nat := 255

/-- The bytes that a path may have. -/
def maxPathSize : Nat := 4095

/-- The links that may be followed for one path. -/
def maxLinks : Nat := 40

def isTooLong (name : String) : Bool := maxNameSize < name.utf8ByteSize

def hasNul (text : String) : Bool := text.toList.contains '\x00'

/-- How names are followed. -/
structure Route where
  /-- The directory that is not to be left. -/
  inside : Option Place := none
  /-- Nothing need stand at the place that the last name leads to. -/
  create : Bool := false

/-- The place that names lead to. All that is passed is a directory; `through` says where a link
leads, from the directory it stands in and with the names after it. -/
def follow (fs : Files) (r : Route)
    (through : Place → String → List String → Except FileFault Place) :
    Place → List String → Except FileFault Place
  | here, [] => .ok here
  | here, name :: rest =>
      if !fs.isDirectory here then .error .notADirectory
      else if isTooLong name then .error .nameTooLong
      else if name = ".." && r.inside = some here then .error .outside
      else match fs.at? (step here name) with
        | none => if r.create && rest.isEmpty then .ok (step here name) else .error .notFound
        | some (.link target) => through here target rest
        | some _ => fs.follow r through (step here name) rest

/-- The place that names lead to if no more than `links` links are followed. -/
def walk (fs : Files) (r : Route) : Nat → Place → List String → Except FileFault Place
  | 0 => fs.follow r fun _ _ _ => .error .tooManyLinks
  | links + 1 => fs.follow r fun here target rest =>
      if !isAbsolute target then fs.walk r links here (names target ++ rest)
      else if r.inside.isSome then .error .outside
      else fs.walk r links [] (names target ++ rest)

def start (fs : Files) (path : String) : Place := if isAbsolute path then [] else fs.working

/-- The place of a path. -/
def locate (fs : Files) (path : String) : Except FileFault Place :=
  if path = "" then .error .notFound
  else if hasNul path then .error .nulInPath
  else if maxPathSize < path.utf8ByteSize then .error .nameTooLong
  else fs.walk {} maxLinks (fs.start path) (names path)

/-- The place of a path that leads to a directory. -/
def directoryAt (fs : Files) (path : String) : Except FileFault Place := do
  let p ← fs.locate path
  if fs.isDirectory p then return p else throw .notADirectory

/-- The file that a name in a directory leads to, without leaving the directory. -/
def fileIn (fs : Files) (directory : Place) (name : String) : Except FileFault Nat := do
  let p ← fs.walk { inside := some directory } maxLinks directory [name]
  match fs.at? p with
  | some (.file id) => return id
  | _ => throw .isADirectory

/-- The text of a file in a directory. -/
def readText (fs : Files) (directory : Place) (name : String) : Except FileFault String := do
  if hasNul name then throw .nulInName
  match fs.held (← fs.fileIn directory name) with
  | .text s => return s
  | .binary _ => throw .notText

/-- The name of what stands directly in a directory. -/
def nameIn? (directory p : Place) : Option String :=
  if p.dropLast = directory then p.getLast? else none

/-- What stands in a directory: each name, and whether it is that of a file. -/
def listing (fs : Files) (directory : Place) : List (String × Bool) :=
  fs.entries.filterMap fun (p, e) =>
    (nameIn? directory p).map fun name => (name, e.file?.isSome)

/-- All names in a directory, in increasing order. -/
def list (fs : Files) (directory : Place) : List String :=
  Text.sorted ((fs.listing directory).map (·.1))

/-! ## Changes -/

/-- Puts something where nothing stands. -/
def add (fs : Files) (p : Place) (e : Entry) : Files :=
  { fs with entries := fs.entries ++ [(p, e)] }

/-- A number that no file has. -/
def fresh (fs : Files) : Nat :=
  (fs.entries.filterMap (·.2.file?)).foldr (fun id n => max n (id + 1)) 0

/-- The file that names lead to from a directory, which is made if it is missing. -/
def openFile (fs : Files) (r : Route) (here : Place) (names : List String) :
    Except FileFault (Files × Nat) := do
  let p ← fs.walk { r with create := true } maxLinks here names
  match fs.at? p with
  | some (.file id) => return (fs, id)
  | none => return (fs.add p (.file fs.fresh), fs.fresh)
  | some _ => throw .isADirectory

/-- Sets what the file holds that names lead to. -/
def put (fs : Files) (r : Route) (here : Place) (names : List String) (c : Contents) :
    Except FileFault Files := do
  let (fs, id) ← fs.openFile r here names
  return { fs with holdings := (id, c) :: fs.holdings }

/-- Makes one directory; the one in which it stands is there. -/
def makeDirectory (fs : Files) (path : String) : Except FileFault Files := do
  match (names path).getLast? with
  | none => throw (if path = "" then .notFound else .occupied)
  | some name =>
      let here ← fs.walk {} maxLinks (fs.start path) (names path).dropLast
      if !fs.isDirectory here then throw .notADirectory
      if isTooLong name then throw .nameTooLong
      if (fs.at? (step here name)).isSome then throw .occupied
      return fs.add (step here name) .directory

/-- Makes one directory, unless the path leads to one. -/
def makeIfMissing (fs : Files) (path : String) : Except FileFault Files :=
  match fs.makeDirectory path with
  | .ok fs => .ok fs
  | .error e => if (fs.directoryAt path).isOk then .ok fs else .error e

/-- Makes a directory and those that are missing on the way to it. What was made before a failure
stays. -/
def makeDirectories : Nat → Files → String → Files × Option FileFault
  | 0, fs, _ => (fs, some .notFound)
  | fuel + 1, fs, path =>
      if path = "" then (fs, none)
      else match fs.makeIfMissing path with
        | .ok fs => (fs, none)
        | .error .notFound =>
            match makeDirectories fuel fs (parent path) with
            | (fs, some e) => (fs, some e)
            | (fs, none) =>
                match fs.makeIfMissing path with
                | .ok fs => (fs, none)
                | .error e => (fs, some e)
        | .error e => (fs, some e)

/-- Writes a file and makes the directories that are missing on the way to it. Nothing is written
where that fails. -/
def store (fs : Files) (path : String) (c : Contents) : Files :=
  let above := parent path
  let (fs, _) := makeDirectories (path.length + 1) fs above
  match fs.directoryAt (if above = "" then "." else above), lastName? path with
  | .ok directory, some name => ((fs.put {} directory [name] c).toOption).getD fs
  | _, _ => fs

/-- Removes what a path leads to, and all in it. -/
def remove (fs : Files) (path : String) : Files :=
  match fs.locate path with
  | .error _ => fs
  | .ok p => { fs with entries := fs.entries.filter fun (q, _) => !p.isPrefixOf q }

end Files

end Phrasebook
