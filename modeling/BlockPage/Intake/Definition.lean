/-
**Block types from loose values.**

* `TemplateField`: a template that is given, missing, or given as something else.
* `readDefinition`: a block type from its fields and templates.
-/

import BlockPage.Block.Definition
import BlockPage.Intake.Field

namespace BlockPage.Intake

/-- What is given for a template. -/
inductive TemplateField where
  | missing
  | notCallable
  | given (template : Template)

namespace TemplateField

/-- A template under its name, with the one that stands for a missing one. -/
def read (name : Text) (default : Option Template) : TemplateField → Checked Template
  | given template => .fits template
  | notCallable => (Checked.issue .callableType).under (.name name)
  | missing =>
    match default with
    | some template => .fits template
    | none => (Checked.issue .missing).under (.name name)

end TemplateField

/-- A block type from its fields and templates. Only its markup must be given. -/
def readDefinition (entries : Entries) (html css js : TemplateField) : Checked Definition :=
  Definition.mk <$> required entries "type_id" (readNonEmpty .lenient)
    <*> required entries "name" (readText .lenient)
    <*> optional entries "icon" "□" (readText .lenient)
    <*> optional entries "category" "content" (readText .lenient)
    <*> optional entries "description" [] (readText .lenient)
    <*> optional entries "default_config" ∅ (readConfig .lenient)
    <*> html.read "html" none
    <*> css.read "css" (some Template.empty)
    <*> js.read "js" (some Template.empty)

end BlockPage.Intake
