import Phrasebook.Project.CommandLine

set_option autoImplicit false

/-! # The tool

Looks at the part of the file system that a command line asks for, runs the tool on it, and writes
down what has changed. A link is looked at as what it leads to. -/

namespace Phrasebook.Main

/-- The text of a place. -/
def pathText (p : Place) : String := "/" ++ String.intercalate "/" p

def addDirectory (fs : Files) (p : Place) : Files :=
  if (fs.at? p).isSome then fs else fs.add p .directory

/-- Adds the file at a place. -/
def addFile (fs : Files) (p : Place) : IO Files := do
  if (fs.at? p).isSome then return fs
  let bytes ← IO.FS.readBinFile (pathText p)
  let fs' := fs.add p (.file fs.fresh)
  return { fs' with holdings := (fs.fresh, .ofBytes bytes) :: fs.holdings }

/-- Adds a file or a directory, if it is there. -/
def addPlace (fs : Files) (p : Place) : IO Files := do
  let here := (← IO.currentDir) / pathText p
  if ← here.isDir then return addDirectory fs p
  if ← here.pathExists then return ← addFile fs p
  return fs

/-- Adds what a path passes and leads to, and what stands in the directory it leads to. -/
def addPath (fs : Files) (path : String) : IO Files := do
  let mut fs := fs
  let mut p := fs.start path
  for name in Files.names path do
    p := Files.step p name
    fs ← addPlace fs p
  if fs.isDirectory p then
    for entry in ← ((← IO.currentDir) / pathText p).readDir do
      fs ← addPlace fs (p ++ [entry.fileName])
  return fs

/-- The part of the file system that a command looks at. -/
def observe (c : Project.Command) : IO Files := do
  let working := Files.names (← IO.currentDir).toString
  let mut fs : Files := { working }
  for n in List.range (working.length + 1) do
    fs := addDirectory fs (working.take n)
  fs ← addPath fs c.source.input
  if let some config := c.source.config then
    let above := Files.parent config
    fs ← addPath fs (if above = "" then "." else above)
  if let .generate _ output := c then
    fs ← addPath fs output
  return fs

/-- Writes down what has changed. -/
def save (before after : Files) : IO Unit := do
  for (p, e) in after.entries do
    match e with
    | .directory => unless before.isDirectory p do IO.FS.createDirAll (pathText p)
    | .file id =>
        match after.held id, (before.at? p).map fun _ => before.held id with
        | .text s, some (.text old) => unless s = old do IO.FS.writeFile (pathText p) s
        | .text s, _ => IO.FS.writeFile (pathText p) s
        | .binary _, _ => pure ()
    | .link _ => pure ()

end Phrasebook.Main

def main (args : List String) : IO UInt32 := do
  let before ← match Phrasebook.Project.Invocation.ofArguments args with
    | .ok i => Phrasebook.Main.observe i.command
    | .error _ => pure {}
  let (after, e) := Phrasebook.Project.execute before args
  Phrasebook.Main.save before after
  for event in e.log do
    IO.eprintln event.line
  IO.eprint e.errors
  IO.print e.output
  return e.exitCode.toUInt32
