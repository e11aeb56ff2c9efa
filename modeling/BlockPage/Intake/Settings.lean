/-
**Settings from the environment and from arguments.**

* `Lookup`: how settings are found by name; arguments may change it.
* `givenEntries`: the fields that arguments and environment variables set, by their names.
* `readSettings`: the settings of some entries; `configure`: of arguments over the environment.
-/

import BlockPage.Intake.Field
import BlockPage.Page.Document

namespace BlockPage.Intake

/-- The names of the fields. -/
def settingNames : List Text :=
  ["log_level", "json_logs", "max_source_length", "nav_block_type", "footer_block_type",
    "default_title", "default_description"]

/-- The small form of a code point, as far as the names of fields need it. -/
def foldPoint (point : CodePoint) : CodePoint :=
  if point = 0x212A then 0x6B else CodePoint.toLower point

/-- A name in small letters. -/
def foldName (name : Text) : Text := name.map foldPoint

/-! ### Lookup -/

/-- How settings are found by name: whether the case of names counts, what the names of environment
variables start with, whether empty variables are passed over, and which word stands for no value. -/
structure Lookup where
  caseCounts : Bool := false
  start : Text := "PAGECRAFT_"
  skipsEmpty : Bool := false
  absentWord : Option Text := none

namespace Lookup

/-- A name as it is compared. -/
def fold (lookup : Lookup) (name : Text) : Text := if lookup.caseCounts then name else foldName name

/-- A variable sets a field. -/
def finds (lookup : Lookup) (field : Text) (setting : Text × Text) : Bool :=
  lookup.fold setting.1 = lookup.fold (lookup.start ++ field)
    && !(lookup.skipsEmpty && setting.2.isEmpty)

/-- The value that a variable gives. -/
def valueOf (lookup : Lookup) (content : Text) : Value :=
  if lookup.absentWord = some content then .absent else .text content

/-- The refusal of a start that no name can be joined to. -/
def notJoined : Problem :=
  { kind := .settings,
    message := "error getting value for field \"log_level\" from source \"EnvSettingsSource\"" }

/-- The start of the names of variables from an argument, which must be a text where it is given. -/
def readStart : Value → Except Problem Text
  | .absent => .ok ({} : Lookup).start
  | .scalar (.text start) => .ok start
  | other => other.size.bind fun _ => .error notJoined

/-- The lookup that arguments ask for. -/
def ofArguments (arguments : Entries) : Except Problem Lookup := do
  let start ← readStart (arguments.value "_env_prefix")
  return { caseCounts := (arguments.value "_case_sensitive").isTruthy
           start
           skipsEmpty := (arguments.value "_env_ignore_empty").isTruthy
           absentWord := (arguments.value "_env_parse_none_str").text? }

end Lookup

/-! ### Fields -/

/-- The value of a field among arguments, of which the first with its name counts. -/
def ofArguments? (lookup : Lookup) (arguments : Entries) (field : Text) : Option Value :=
  (arguments.find? fun entry => entry.1.text?.any (lookup.fold · = field)).map Prod.snd

/-- The value of a field among environment variables, of which the last with its name counts. -/
def ofEnvironment? (lookup : Lookup) (environment : List (Text × Text)) (field : Text) : Option Value :=
  (environment.reverse.find? (lookup.finds field)).map fun setting => lookup.valueOf setting.2

/-- The fields that arguments set, or environment variables where they do not. -/
def givenEntries (lookup : Lookup) (environment : List (Text × Text)) (arguments : Entries) :
    Entries :=
  settingNames.filterMap fun field =>
    ((ofArguments? lookup arguments field).or (ofEnvironment? lookup environment field)).map
      (Value.text field, ·)

/-- How pages are called by default, from its fields. -/
def readTitles (entries : Entries) : Checked Titles :=
  Titles.mk <$> optional entries "default_title" "My Project" (readText .lenient)
    <*> optional entries "default_description" "Built with pagecraft" (readText .lenient)

/-- Settings from their fields. -/
def readSettings (entries : Entries) : Checked Settings :=
  Settings.mk <$> optional entries "log_level" "INFO" (readText .lenient)
    <*> optional entries "json_logs" false readBoolean
    <*> optional entries "max_source_length" 262144 readPositive
    <*> optional entries "nav_block_type" "navbar" (readNonEmpty .lenient)
    <*> optional entries "footer_block_type" "footer" (readNonEmpty .lenient)
    <*> readTitles entries

/-- Settings from arguments over environment variables. -/
def configure (environment : List (Text × Text)) (arguments : Entries) :
    Except Problem Settings := do
  let lookup ← Lookup.ofArguments arguments
  (readSettings (givenEntries lookup environment arguments)).toExcept

/-- The settings by the names of their fields. -/
def settingFields (settings : Settings) : List (Text × Value) :=
  [("log_level", .text settings.logLevel), ("json_logs", .boolean settings.jsonLogs),
    ("max_source_length", .integer settings.sourceLimit),
    ("nav_block_type", .text settings.navigationType),
    ("footer_block_type", .text settings.footerType),
    ("default_title", .text settings.titles.title),
    ("default_description", .text settings.titles.description)]

end BlockPage.Intake
