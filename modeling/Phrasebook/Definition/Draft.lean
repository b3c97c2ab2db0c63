import Phrasebook.Definition.Entry
import Phrasebook.Definition.Fault
import Phrasebook.Definition.Template

set_option autoImplicit false

/-! # Drafts of messages

What an entry says by itself: its templates, and what reading them comes across. Arguments are
declared where they are used with a specifier, so that their types are known only when all of the
entry is read. -/

namespace Phrasebook.Definition

open Data

/-- What reading an entry comes across. -/
inductive Finding where
  | declares (argument : String) (spec : Char)
  | fault (fault : Fault)
  | malformed (error : TemplateError)
  /-- The message, or a variable of it, is both plain and plural. -/
  | conflict (var : Option String)
  /-- The entry of a variable has the wrong shape. -/
  | misshapen (var : String)
  deriving DecidableEq

/-- Reads a name with an optional specifier, `name` or `name:s`. -/
def nameAndSpec? (raw : String) : Option (String × Option Char) :=
  let (name, rest) := splitAtChar ':' raw.toList
  let name := String.ofList (Text.trim name)
  if name = "" then none
  else match rest with
    | none => some (name, none)
    | some spec =>
        match Text.trim spec with
        | [c] => some (name, some c)
        | _ => none

namespace Token

/-- The part of a body that a token is. -/
def part : Token → Part
  | .literal text => .literal text
  | .argument name _ directive => .argument name directive
  | .var name => .var name

/-- The declaration in a token. -/
def finding? : Token → Option Finding
  | .argument name (some spec) _ => some (.declares name spec)
  | _ => none

end Token

/-- The body that a template text stands for. -/
def readBody (text : String) : Body × List Finding :=
  match tokens text with
  | .error e => ([], [.malformed e])
  | .ok ts => (ts.map Token.part, ts.filterMap Token.finding?)

/-- The body of a branch that may be missing. -/
def readBranch : Option String → Option Body × List Finding
  | none => (none, [])
  | some text =>
      let (body, found) := readBody text
      (some body, found)

/-- The argument by which a plural is driven. -/
def readDriver (raw : String) : String × List Finding :=
  match nameAndSpec? raw with
  | some (name, some spec) => (name, [.declares name spec])
  | some (name, none) => (name, [])
  | none => (raw, [.fault (.malformedDriver raw)])

namespace Table

def readPlural (t : Table) (driver : String) : Plural × List Finding :=
  let (argument, found) := readDriver driver
  let (zero, inZero) := readBranch t.zero
  let (one, inOne) := readBranch t.one
  let (many, inMany) := readBranch t.many
  let (other, inOther) := readBranch t.other
  ({ argument, zero, one, many, other }, found ++ inZero ++ inOne ++ inMany ++ inOther)

/-- Branches that belong to no plural. -/
def strayBranches (t : Table) : List Finding :=
  if t.hasBranches then [.fault .branchesWithoutPlural] else []

/-- The template of a message, or of the variable `var` of it. -/
def readTemplate (t : Table) (var : Option String) : Template × List Finding :=
  match t.text, t.plural with
  | some _, some _ => (.unset, [.conflict var])
  | some text, none =>
      let (body, found) := readBody text
      (.plain body, t.strayBranches ++ found)
  | none, some driver =>
      let (plural, found) := t.readPlural driver
      (.plural plural, found)
  | none, none => (.unset, t.strayBranches)

end Table

/-- The template of a variable. -/
def readVariable (name : String) : Entry → Template × List Finding
  | .text text =>
      let (body, found) := readBody text
      (.plain body, found)
  | .table t =>
      let (template, found) := t.readTemplate (some name)
      let more := if t.args.isEmpty && t.vars.isEmpty then [] else [.fault (.declaresMore name)]
      (template, more ++ found)

/-- The variables of a message; what arguments they receive is not known yet. -/
def readVariables (members : List (String × Datum)) : List Variable × List Finding :=
  match Entry.readAll members with
  | .error name => ([], [.misshapen name])
  | .ok entries =>
      let read := entries.map fun (name, e) => (name, readVariable name e)
      (read.map fun (name, template, _) => { name, template }, read.flatMap fun (_, _, fs) => fs)

/-- The arguments that are listed in front, if any are. -/
def readList (args : List String) : Option (List String) × List Finding :=
  let read := args.map fun raw =>
    match nameAndSpec? raw with
    | some (name, some spec) => (some name, Finding.declares name spec)
    | _ => (none, .fault (.unspecified raw))
  (if args.isEmpty then none else some (read.filterMap (·.1)), read.map (·.2))

/-- What an entry says of a message. -/
structure Draft where
  template : Template
  /-- The names of the arguments in their order, if they are listed. -/
  listed : Option (List String) := none
  vars : List Variable := []
  findings : List Finding

/-- Reads the entry of a message. -/
def Entry.draft : Entry → Draft
  | .text s =>
      let (body, findings) := readBody s
      { template := .plain body, findings }
  | .table t =>
      let (listed, inList) := readList t.args
      let (template, inTemplate) := t.readTemplate none
      let (vars, inVariables) := readVariables t.vars
      { template, listed, vars, findings := inList ++ inTemplate ++ inVariables }

end Phrasebook.Definition
