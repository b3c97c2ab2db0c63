import Phrasebook.Compiler
import Phrasebook.Failure
import Phrasebook.Number.Reading
import Phrasebook.Text.Blank

set_option autoImplicit false

/-! # Previews

A preview is a message rendered from arguments that are given as texts `name=value`. A text is read
as the type of its argument asks; the text of a name that the message does not have stays a text,
and is refused when the message is rendered. -/

namespace Phrasebook

open Format (Value)

/-- Splits `name=value` at the first equals sign. -/
def splitPair? (raw : String) : Option (String × String) :=
  match Definition.splitAtChar '=' raw.toList with
  | (name, some value) =>
      let name := Text.trim name
      if name.isEmpty then none else some (String.ofList name, String.ofList value)
  | _ => none

/-- Reads the value of an argument. -/
def readValue (type : ArgType) (text : String) : Except PreviewFault Value :=
  let trimmed := Text.trim text.toList
  match type with
  | .text => .ok (.text text)
  | .integer =>
      match Number.readInt128? trimmed with
      | some n => .ok (.integer n)
      | none => .error .notAnInteger
  | .float =>
      match Number.readBinary64? trimmed with
      | some x => .ok (.float x)
      | none => .error .notANumber
  | .display | .custom _ => .ok (.display text)

/-- Reads an argument given to a function. -/
def Function.readArgument (f : Function) (raw : String) : Except Failure (String × Value) :=
  match splitPair? raw with
  | none => .error (.previewArgument raw .notAPair)
  | some (name, text) =>
      match f.paramFor? name with
      | none => .ok (name, .text text)
      | some p =>
          match readValue p.type text with
          | .ok v => .ok (name, v)
          | .error e => .error (.previewArgument raw e)

namespace Compiled

/-- Renders a message in the given language, or else in the first. -/
def preview (c : Compiled) (language : Option String) (message : String) (raw : List String) :
    Logged Failure String := do
  let language := language.getD (c.languages.headD "")
  match c.planOf? language with
  | none => Traced.fail (.eval (.unknownLanguage language))
  | some p =>
      match p.messageNamed? message with
      | none => Traced.fail (.eval (.unknownMessage language message))
      | some f =>
          let args ← Traced.lift (raw.mapM f.readArgument)
          Traced.step (.previewRendered language message args.length)
          Traced.lift ((c.evaluate language message args).toExcept .eval .overflow)

end Compiled

end Phrasebook
