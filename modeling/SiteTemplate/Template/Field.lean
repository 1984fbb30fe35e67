import SiteTemplate.Record

/-!
# Declarations of fields and slots

A slot declares its fields. A field has a type, may be required, may have a default and validators,
and may declare the fields of an object (`shape`) or what every item of a list must satisfy
(`itemShape`), to any depth.
-/

namespace SiteTemplate

open Record

inductive FieldType where
  | text
  | number
  | boolean
  | image
  | url
  | email
  | richtext
  | list
  | object
deriving DecidableEq, Repr

namespace FieldType

def all : List FieldType :=
  [.text, .number, .boolean, .image, .url, .email, .richtext, .list, .object]

def name : FieldType → String
  | .text => "text"
  | .number => "number"
  | .boolean => "boolean"
  | .image => "image"
  | .url => "url"
  | .email => "email"
  | .richtext => "richtext"
  | .list => "list"
  | .object => "object"

def ofName? (s : String) : Option FieldType := all.find? (·.name == s)

end FieldType

inductive ValidatorKind where
  | maxLength
  | minLength
  | maxItems
  | minItems
  | pattern
  | range
deriving DecidableEq, Repr

namespace ValidatorKind

def all : List ValidatorKind := [.maxLength, .minLength, .maxItems, .minItems, .pattern, .range]

def name : ValidatorKind → String
  | .maxLength => "maxLength"
  | .minLength => "minLength"
  | .maxItems => "maxItems"
  | .minItems => "minItems"
  | .pattern => "pattern"
  | .range => "range"

end ValidatorKind

/-- A validator of a field; what its limit may be depends on the kind and is not checked. -/
structure Validator where
  kind : ValidatorKind
  limit : Json := .null

namespace Validator

def read : Json → Reading Validator := Record.read fun o =>
  pure mk
    <*> required o (.single "kind") (Read.choice ValidatorKind.all (·.name))
    <*> optional o (.single "value") .null Read.any

def toJson (s : Spelling) (v : Validator) : Json :=
  Record.write s [(.single "kind", .str v.kind.name), (.single "value", v.limit.encoded)]

end Validator

structure FieldDecl where
  key : String
  type : FieldType := .text
  required : Bool := false
  default : Json := .null
  validators : List Validator := []
  /-- The declarations of an object's members. -/
  shape : Option (List (String × FieldDecl)) := none
  /-- The declaration of a list's items. -/
  itemShape : Option FieldDecl := none

namespace FieldDecl

/-- Reads a declaration whose nested declarations lie at most `depth` levels deep. -/
def readWithin : Nat → Json → Reading FieldDecl
  | 0 => fun _ => .fault .notRecord
  | depth + 1 => Record.read fun o =>
    pure mk
      <*> Record.required o (.single "key") Read.nonEmptyText
      <*> optional o (.single "type") .text (Read.choice FieldType.all (·.name))
      <*> optional o (.single "required") false Read.bool
      <*> optional o (.single "default") .null Read.any
      <*> optional o (.single "validators") [] (Read.list Validator.read)
      <*> optional o (.single "shape") none (Read.nullable (Read.entries (readWithin depth)))
      <*> optional o ⟨"item_shape", "itemShape"⟩ none (Read.nullable (readWithin depth))

def read (v : Json) : Reading FieldDecl := readWithin v.depth v

mutual

def toJson (s : Spelling) : FieldDecl → Json
  | ⟨key, type, required, default, validators, shape, itemShape⟩ =>
    Record.write s
      [(.single "key", .str key), (.single "type", .str type.name),
        (.single "required", .bool required), (.single "default", default.encoded),
        (.single "validators", .arr (validators.map (·.toJson s))),
        (.single "shape", shapeToJson s shape),
        (⟨"item_shape", "itemShape"⟩, itemShapeToJson s itemShape)]

def shapeToJson (s : Spelling) : Option (List (String × FieldDecl)) → Json
  | none => .null
  | some fields => .obj (fieldsToJson s fields)

def fieldsToJson (s : Spelling) : List (String × FieldDecl) → List (String × Json)
  | [] => []
  | (key, f) :: fs => (key, toJson s f) :: fieldsToJson s fs

def itemShapeToJson (s : Spelling) : Option FieldDecl → Json
  | none => .null
  | some f => toJson s f

end

end FieldDecl

inductive SlotType where
  | object
  | list
  | text
  | image
deriving DecidableEq, Repr

namespace SlotType

def all : List SlotType := [.object, .list, .text, .image]

def name : SlotType → String
  | .object => "object"
  | .list => "list"
  | .text => "text"
  | .image => "image"

end SlotType

structure SlotDecl where
  type : SlotType := .object
  component : Option String := none
  fields : List FieldDecl := []

namespace SlotDecl

def read : Json → Reading SlotDecl := Record.read fun o =>
  pure mk
    <*> optional o (.single "type") .object (Read.choice SlotType.all (·.name))
    <*> optional o (.single "component") none (Read.nullable Read.text)
    <*> optional o (.single "fields") [] (Read.list FieldDecl.read)

def toJson (s : Spelling) (d : SlotDecl) : Json :=
  Record.write s
    [(.single "type", .str d.type.name), (.single "component", .ofText? d.component),
      (.single "fields", .arr (d.fields.map (·.toJson s)))]

end SlotDecl

end SiteTemplate
