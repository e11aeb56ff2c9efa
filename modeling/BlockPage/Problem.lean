/-
**Refusals.**

An operation that cannot answer says why: a kind, a message, and for values that do not fit their
description the list of issues.

* `Problem.Kind`, `Problem.Kind.name`: the kinds and what they are called.
* `Issue`: one thing wrong with a described value, and where in it.
* `Problem.invalid`: the refusal of a value for its issues; `Problem.precondition`: the refusal of a
  call for what the caller passed.
-/

import BlockPage.Text.Basic

namespace BlockPage

/-- A step into a value: the name of an entry or the place of an item. -/
inductive PathStep where
  | name (name : Text)
  | index (index : Int)
  deriving DecidableEq, Repr

/-- What is wrong with a part of a value. -/
inductive IssueKind where
  | missing
  | stringType
  | stringTooShort
  | stringUnicode
  | patternMismatch
  | literal
  | dictType
  | listType
  | tupleType
  | callableType
  | modelType
  | boolType
  | boolParsing
  | intType
  | intParsing
  | intParsingSize
  | intFromFloat
  | floatType
  | floatParsing
  | finiteNumber
  | greaterThan
  | invalidKey
  deriving DecidableEq, Repr

/-- The name of what is wrong. -/
def IssueKind.name : IssueKind → Text
  | missing => "missing"
  | stringType => "string_type"
  | stringTooShort => "string_too_short"
  | stringUnicode => "string_unicode"
  | patternMismatch => "string_pattern_mismatch"
  | literal => "literal_error"
  | dictType => "dict_type"
  | listType => "list_type"
  | tupleType => "tuple_type"
  | callableType => "callable_type"
  | modelType => "model_type"
  | boolType => "bool_type"
  | boolParsing => "bool_parsing"
  | intType => "int_type"
  | intParsing => "int_parsing"
  | intParsingSize => "int_parsing_size"
  | intFromFloat => "int_from_float"
  | floatType => "float_type"
  | floatParsing => "float_parsing"
  | finiteNumber => "finite_number"
  | greaterThan => "greater_than"
  | invalidKey => "invalid_key"

/-- One thing wrong with a value, at the end of a path into it. -/
structure Issue where
  path : List PathStep
  kind : IssueKind
  deriving DecidableEq, Repr

/-- The kinds of refusals. -/
inductive Problem.Kind where
  | typeMismatch
  | badValue
  | missingKey
  | missingAttribute
  | overflow
  | memory
  | tooLarge
  | invalid
  | precondition
  | serialization
  | settings
  deriving DecidableEq, Repr

/-- What a kind of refusal is called. -/
def Problem.Kind.name : Problem.Kind → Text
  | typeMismatch => "TypeError"
  | badValue => "ValueError"
  | missingKey => "KeyError"
  | missingAttribute => "AttributeError"
  | overflow => "OverflowError"
  | memory => "MemoryError"
  | tooLarge => "ValidationError"
  | invalid => "ValidationError"
  | precondition => "PreconditionError"
  | serialization => "DSLSerializationError"
  | settings => "SettingsError"

/-- Why an operation gives no answer. -/
structure Problem where
  kind : Problem.Kind
  message : Text
  issues : List Issue := []
  deriving DecidableEq, Repr

namespace Problem

/-- The place of a list of issues in a message. -/
def issuesMark : Text := "<details>"

/-- A value does not fit its description. -/
def invalid (issues : List Issue) : Problem := ⟨.invalid, issuesMark, issues⟩

/-- A value of a kind that the operation cannot use. -/
def typeMismatch (message : Text) : Problem := { kind := .typeMismatch, message }

/-- A value of the right kind that the operation cannot use. -/
def badValue (message : Text) : Problem := { kind := .badValue, message }

/-- A key without an entry. -/
def missingKey (message : Text) : Problem := { kind := .missingKey, message }

/-- A part that values of a kind do not have. -/
def missingPart (owner part : Text) : Problem :=
  { kind := .missingAttribute,
    message := Text.concat ["'", owner, "' object has no attribute '", part, "'"] }

/-- A number beyond what can be counted or computed. -/
def overflow (message : Text) : Problem := { kind := .overflow, message }

/-- A result that is too long to be made. -/
def outOfMemory : Problem := { kind := .memory, message := [] }

/-- The refusal under another kind, with words before its message. -/
def within (problem : Problem) (kind : Kind) (start : Text) : Problem :=
  { problem with kind := kind, message := start ++ problem.message }

end Problem

end BlockPage
