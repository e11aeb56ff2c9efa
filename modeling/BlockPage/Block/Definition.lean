/-
**Block types and their templates.**

A block type renders its markup, its style and its script by templates. A template sees the entries of a
configuration; it produces a value, which should be a text, or fails.

* `Failure`: why a template failed, and `Failure.text?`, `Failure.message?`: its wording alone and as
  part of a longer message, unless it holds an integer too long to write.
* `Outcome`, `Template`, `Part`.
* `Template.constant`, `Template.echo`, `Template.failing`, `Template.marking`: simple templates.
* `Definition`: what all blocks of one type share.
* `Definition.render`: the outcome of one of its templates for the entries of a configuration.
* `Definition.renderNamed`: the same for a part of any name and a configuration of any kind.
-/

import BlockPage.Value.Conversion
import BlockPage.Value.Equality
import BlockPage.Value.Inspection

namespace BlockPage

/-! ### Templates -/

/-- The reason for which a template failed: what it is called and what it says. -/
structure Failure where
  name : Text
  arguments : List Value

namespace Failure

/-- The failure that a refusal is. -/
def ofProblem (problem : Problem) : Failure := ⟨problem.kind.name, [.text problem.message]⟩

/-- Several arguments as messages show them. -/
def inspectArguments (arguments : List Value) : Option Text := do
  let shown ← arguments.mapM Value.inspect
  return Text.concat ["(", Text.join ", " shown, ")"]

/-- What the failure says: nothing, its argument, or all its arguments. -/
def text? (failure : Failure) : Option Text :=
  match failure.arguments with
  | [] => some []
  | [argument] => argument.display
  | arguments => inspectArguments arguments

/-- What the failure says inside a message, where a missing key is quoted. -/
def message? (failure : Failure) : Option Text :=
  match failure.arguments with
  | [argument] =>
    if failure.name = Problem.Kind.missingKey.name then argument.inspect else failure.text?
  | _ => failure.text?

end Failure

/-- What a template gives. -/
inductive Outcome where
  | produced (value : Value)
  | failed (failure : Failure)

/-- The outcome of a computation that gives text or is refused. -/
def Outcome.ofExcept : Except Problem Text → Outcome
  | .ok text => .produced (.text text)
  | .error problem => .failed (.ofProblem problem)

/-- The three things that a block type contributes. -/
inductive Part where
  | html
  | css
  | js
  deriving DecidableEq, Repr

/-- The word for a part. -/
def Part.word : Part → Text
  | html => "html"
  | css => "css"
  | js => "js"

/-- The part that a word names. -/
def Part.ofWord? (word : Text) : Option Part :=
  if word = html.word then some .html
  else if word = css.word then some .css
  else if word = js.word then some .js
  else none

/-- All parts. -/
def Part.all : List Part := [.html, .css, .js]

/-- A function from the entries of a configuration. -/
abbrev Template := Entries → Outcome

/-! ### Texts of values -/

/-- A value as text for display, unless it is absent, false or empty. -/
def Value.shown? : Value → Except Problem (Option Text)
  | .absent => .ok none
  | .scalar (.boolean false) => .ok none
  | .scalar (.boolean true) => .ok (some (Text.ofString "true"))
  | other => other.displayed.map fun text => if text.isEmpty then none else some text

/-- A value as text for display, with a fallback for what is absent, false or empty. -/
def Value.shown (value : Value) (fallback : Text) : Except Problem Text :=
  value.shown?.map fun text => text.getD fallback

/-! ### Simple templates -/

namespace Template

/-- A template that produces one value whatever the configuration is. -/
def constant (value : Value) : Template := fun _ => .produced value

/-- The template of a part to which a block type contributes nothing. -/
def empty : Template := constant (.text [])

/-- A template that shows the value of a key between two texts. -/
def echo (before key behind : Text) : Template := fun entries =>
  .ofExcept (((Entries.value entries key).shown []).map fun text => before ++ text ++ behind)

/-- A template that always fails. -/
def failing (failure : Failure) : Template := fun _ => .failed failure

/-- A template that marks a key in its own copy of the entries and shows all keys. -/
def marking (key : Text) : Template := fun entries =>
  let keys := (Entries.insert entries (.text key) (.text "mutated")).map Prod.fst
  match keys.zipIdx.find? fun entry => entry.1.text?.isNone with
  | some (other, index) =>
    .failed (.ofProblem (.typeMismatch (Text.concat ["sequence item ", Number.decimal index,
      ": expected str instance, ", other.kindName, " found"])))
  | none => .produced (.text (Text.join "," (keys.filterMap Value.text?)))

end Template

/-! ### Block types -/

/-- A block type: its key, how it is listed, its default configuration and its templates. -/
structure Definition where
  typeId : Text
  name : Text
  icon : Text := "□"
  category : Text := "content"
  description : Text := []
  defaults : Config := ∅
  html : Template
  css : Template := Template.empty
  js : Template := Template.empty

namespace Definition

/-- The template of a part. -/
def template (definition : Definition) : Part → Template
  | .html => definition.html
  | .css => definition.css
  | .js => definition.js

/-- What the template of a part gives for some entries. -/
def render (definition : Definition) (part : Part) (entries : Entries) : Outcome :=
  definition.template part entries

/-- What is said of a value of some kind that stands in place of a template. -/
def notTemplate (kind : Text) : Text := Text.concat ["'", kind, "' object is not callable"]

/-- What a block type has besides its templates, by name, with what is said of it in place of one. -/
def otherParts : List (Text × Text) :=
  [("type_id", notTemplate "str"), ("name", notTemplate "str"), ("icon", notTemplate "str"),
    ("category", notTemplate "str"), ("description", notTemplate "str"),
    ("default_config", notTemplate "dict"),
    ("render", "BlockDefinition.render() missing 1 required positional argument: 'config'")]

/-- The template under a name. What is no template fails. -/
def named (definition : Definition) (name : Text) : Except Problem Template :=
  match Part.ofWord? name, otherParts.find? fun other => other.1 = name with
  | some part, _ => .ok (definition.template part)
  | none, some other => .ok (.failing (.ofProblem (.typeMismatch other.2)))
  | none, none => .error (.missingPart "BlockDefinition" name)

/-- What the part of some name gives for a configuration. -/
def renderNamed (definition : Definition) (part config : Value) : Except Problem Outcome :=
  match part with
  | .scalar (.text name) => do
    let template ← definition.named name
    let entries ← config.toEntries
    return template entries
  | other =>
    .error (.typeMismatch (Text.concat ["attribute name must be string, not '", other.kindName, "'"]))

end Definition

end BlockPage
