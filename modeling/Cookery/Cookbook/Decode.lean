import Cookery.Cookbook
import Cookery.Duplicate

/-!
# Decoding cookbooks

Cookbooks come in several notations. A `Source` says how the nodes of a notation are taken as text,
as truth values, as lists and so on; the structure of a cookbook is decoded once, over any source.

Keys that a structure does not have and keys given twice are errors, and so is a missing key unless
the field has a default. The default of a required field may also be given as `defaultValue`.
-/

namespace Cookery

/-- Why a text does not decode. -/
inductive DecodeError where
  | malformed
  | expected (what : String)
  | unknownField (name : String)
  | duplicateField (name : String)
  | missingField (name : String)
deriving DecidableEq

def DecodeError.message : DecodeError → String
  | malformed => "malformed text"
  | expected what => s!"expected {what}"
  | unknownField name => s!"unknown field `{name}`"
  | duplicateField name => s!"duplicate field `{name}`"
  | missingField name => s!"missing field `{name}`"

/-- How the nodes of a notation are read. -/
structure Source (α : Type) where
  text : α → Except DecodeError String
  bool : α → Except DecodeError Bool
  list : α → Except DecodeError (List α)
  /-- The entries of a structure that has fields of the given names. -/
  entries : List String → α → Except DecodeError (List (String × α))
  /-- A node, or nothing if the node stands for a value that is not there. -/
  present : α → Except DecodeError (Option α)
  literal : α → Except DecodeError Literal

namespace Source

variable {α : Type} (s : Source α)

/-- The fields of a structure under their own names. -/
def fields (names : List String) (aliases : List (String × String)) (x : α) :
    Except DecodeError (List (String × α)) := do
  let entries ← s.entries names x
  let named := entries.map fun (key, v) ↦ ((aliases.lookup key).getD key, v)
  match named.find? fun (key, _) ↦ !names.contains key with
  | some (key, _) => .error (.unknownField key)
  | none =>
    match firstDuplicate? (named.map (·.1)) with
    | some key => .error (.duplicateField key)
    | none => .ok named

/-- A field that must be there. -/
def required {β : Type} (fields : List (String × α)) (name : String)
    (decode : α → Except DecodeError β) : Except DecodeError β :=
  match fields.lookup name with
  | some v => decode v
  | none => .error (.missingField name)

/-- A field with a default. -/
def withDefault {β : Type} (fields : List (String × α)) (name : String) (default : β)
    (decode : α → Except DecodeError β) : Except DecodeError β :=
  match fields.lookup name with
  | some v => decode v
  | none => .ok default

/-- A list of nodes of one kind. -/
def listOf {β : Type} (decode : α → Except DecodeError β) (x : α) :
    Except DecodeError (List β) := do
  (← s.list x).mapM decode

/-- A node that may stand for a missing value. -/
def optionOf {β : Type} (decode : α → Except DecodeError β) (x : α) :
    Except DecodeError (Option β) := do
  (← s.present x).mapM decode

end Source

variable {α : Type} (s : Source α)

def EnumDef.decode (x : α) : Except DecodeError EnumDef := do
  let fs ← s.fields ["name", "values"] [] x
  return {
    name := ← Source.required fs "name" s.text
    values := ← Source.withDefault fs "values" [] (s.listOf s.text) }

def Param.decode (x : α) : Except DecodeError Param := do
  let fs ← s.fields ["name", "type"] [] x
  return {
    name := ← Source.required fs "name" s.text
    type := ← Source.required fs "type" s.text }

def OptionalField.decode (x : α) : Except DecodeError OptionalField := do
  let fs ← s.fields ["name", "type", "params", "repeatable"] [] x
  return {
    name := ← Source.required fs "name" s.text
    type := ← Source.withDefault fs "type" none (s.optionOf s.text)
    params := ← Source.withDefault fs "params" none (s.optionOf (s.listOf (Param.decode s)))
    repeatable := ← Source.withDefault fs "repeatable" false s.bool }

def Initializer.decode (x : α) : Except DecodeError Initializer := do
  let fs ← s.fields ["params"] [] x
  return { params := ← Source.withDefault fs "params" [] (s.listOf s.text) }

def Required.decode (x : α) : Except DecodeError Required := do
  let fs ← s.fields ["name", "type", "default"] [("defaultValue", "default")] x
  return {
    name := ← Source.required fs "name" s.text
    type := ← Source.required fs "type" s.text
    default := ← Source.withDefault fs "default" none (s.optionOf s.literal) }

def Ingredient.decode (x : α) : Except DecodeError Ingredient := do
  let fs ← s.fields
    ["name", "keyed", "required", "initializers", "optionals", "keyConstants"] [] x
  return {
    name := ← Source.required fs "name" s.text
    keyed := ← Source.withDefault fs "keyed" false s.bool
    required := ← Source.withDefault fs "required" [] (s.listOf (Required.decode s))
    initializers := ← Source.withDefault fs "initializers" [] (s.listOf (Initializer.decode s))
    optionals := ← Source.withDefault fs "optionals" [] (s.listOf (OptionalField.decode s))
    keyConstants := ← Source.withDefault fs "keyConstants" [] (s.listOf s.text) }

/-- Decodes a cookbook, without validating it. -/
def Cookbook.decode (x : α) : Except DecodeError Cookbook := do
  let fs ← s.fields ["domain", "ingredients", "enums"] [] x
  return {
    domain := ← Source.withDefault fs "domain" "" s.text
    ingredients := ← Source.withDefault fs "ingredients" [] (s.listOf (Ingredient.decode s))
    enums := ← Source.withDefault fs "enums" [] (s.listOf (EnumDef.decode s)) }

end Cookery
