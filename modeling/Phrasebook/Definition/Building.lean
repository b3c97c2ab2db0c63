import Phrasebook.Definition.Document
import Phrasebook.Definition.Draft
import Phrasebook.Definition.Specifiers
import Phrasebook.Event
import Phrasebook.Message.References
import Phrasebook.Plan.Lowering
import Phrasebook.Text.Sorting

set_option autoImplicit false

/-! # Messages from definitions

The arguments of a message are those that its entry declares: in the order of the list in front, or
else in the order of their names. A variable receives the arguments that it uses, itself or through
variables it refers to, in the order of the message. -/

namespace Phrasebook.Definition

/-- Where an entry stands. -/
structure Site where
  language : String
  path : String
  message : String

/-- The arguments declared so far, and what went wrong. -/
structure Declarations where
  types : List (String × ArgType) := []
  failures : List Failure := []

namespace Declarations

def fail (d : Declarations) (f : Failure) : Declarations :=
  { d with failures := d.failures ++ [f] }

/-- Takes a finding into account. The first declaration gives the type of an argument. -/
def add (specifiers : Specifiers) (site : Site) (d : Declarations) : Finding → Declarations
  | .declares name spec =>
      match specifiers.get? spec with
      | none => d.fail (.definition site.path site.message (.unknownSpecifier spec name))
      | some type =>
          match d.types.lookup name with
          | none => { d with types := d.types ++ [(name, type)] }
          | some first =>
              if first = type then d
              else
                d.fail (.definition site.path site.message (.conflictingTypes name first type))
  | .fault fault => d.fail (.definition site.path site.message fault)
  | .malformed error => d.fail (.template site.path site.message error)
  | .conflict var =>
      d.fail (.compile (.schema
        { location := { language := site.language, message := some site.message, var }
          violation := .conflictingTemplates }))
  | .misshapen var => d.fail (.definition site.path var .shape)

/-- The declarations in an entry. -/
def ofFindings (specifiers : Specifiers) (site : Site) (fs : List Finding) : Declarations :=
  fs.foldl (add specifiers site) {}

/-- The names of the declared arguments in increasing order. -/
def sortedNames (d : Declarations) : List String :=
  Text.sorted (d.types.map (·.1))

end Declarations

/-- The arguments that a variable uses, itself or through others. -/
def usedBy (m : Message) (var : String) : List String :=
  (m.reach [] [var]).flatMap fun name =>
    match m.variableNamed? name with
    | some v => v.template.argumentRefs
    | none => []

namespace Draft

/-- The message of a draft, with its arguments in the given order. -/
def message (d : Draft) (name : String) (types : List (String × ArgType))
    (order : List String) : Message :=
  let m : Message :=
    { name
      arguments := order.filterMap fun a => (types.lookup a).map fun type => { name := a, type }
      template := d.template
      vars := d.vars }
  { m with
    vars := m.vars.map fun v =>
      let used := usedBy m v.name
      { v with arguments := order.filter (· ∈ used) } }

end Draft

/-- Builds a message from its entry, or finds all that is wrong with it. -/
def buildMessage (specifiers : Specifiers) (site : Site) (e : Entry) :
    Except (List Failure) Message :=
  let draft := e.draft
  let declared := Declarations.ofFindings specifiers site draft.findings
  let unlisted := match draft.listed with
    | none => []
    | some names => declared.sortedNames.filter (· ∉ names)
  let failures := declared.failures ++
    unlisted.map fun a => .definition site.path site.message (.unlisted a)
  if failures.isEmpty then
    .ok (draft.message site.message declared.types (draft.listed.getD declared.sortedNames))
  else .error failures

/-- Builds messages in order; `seen` are the names before. Of entries of one name the first
counts. -/
def buildMessages (specifiers : Specifiers) (language : String) (seen : List String) :
    List (String × String × Entry) → List Failure × List Message
  | [] => ([], [])
  | (path, name, e) :: rest =>
      let (failures, messages) := buildMessages specifiers language (name :: seen) rest
      if name ∈ seen then
        (.compile (.schema
          { location := .inMessage language name
            violation := .duplicateMessage name }) :: failures, messages)
      else match buildMessage specifiers { language, path, message := name } e with
        | .ok m => (failures, m :: messages)
        | .error fs => (fs ++ failures, messages)

/-- Builds the localization of a language from its documents. -/
def build (specifiers : Specifiers) (language : String) (documents : List Document) :
    Logged Failure Localization := do
  let entries := documents.flatMap fun d => d.messages.map fun (name, e) => (d.path, name, e)
  let (failures, messages) := buildMessages specifiers language [] entries
  Failure.check failures
  Traced.step (.localizationBuilt language messages.length documents.length)
  return { language, messages }

end Phrasebook.Definition
