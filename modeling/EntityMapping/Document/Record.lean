import EntityMapping.Document.Skip

/-! # Reading typed values

Readings for the types that documents are made of: texts, flags, numbers, lists, choices among
named variants, and records. A record is written as an object, whose unknown members are passed
over, or as an array of its fields in order.
-/

namespace EntityMapping.Document

/-- Fail at a value of another type, once as much of it is read as tells its type. -/
def failType {α : Type} (expected : Expected) : Reading α := do
  match ← peek with
  | none => fail (.ended .value)
  | some 'n' => skip; word "ull".toList; fail (.wrongType .null expected)
  | some 't' => skip; word "rue".toList; fail (.wrongType (.bool true) expected)
  | some 'f' => skip; word "alse".toList; fail (.wrongType (.bool false) expected)
  | some '"' => skip; fail (.wrongType (.string (← string)) expected)
  | some '[' => fail (.wrongType .sequence expected)
  | some '\x7b' => fail (.wrongType .map expected)
  | some c =>
    if c = '-' || c.isDigit then fail (.wrongType (← signedNumber).found expected)
    else fail .expectedValue

def readString : Reading String := do
  match ← peek with
  | some '"' => skip; string
  | _ => failType .string

def readBool : Reading Bool := do
  match ← peek with
  | some 't' => skip; word "rue".toList; return true
  | some 'f' => skip; word "alse".toList; return false
  | _ => failType .bool

def readInt32 : Reading Int32 := do
  match ← peek with
  | none => fail (.ended .value)
  | some c =>
    if c = '-' || c.isDigit then
      match ← signedNumber with
      | .integer n =>
        if (Int32.ofInt n).toInt = n then return Int32.ofInt n else fail (.wrongInteger n)
      | n => fail (.wrongType n.found .int32)
    else failType .int32

def readUnit : Reading Unit := do
  match ← peek with
  | some 'n' => skip; word "ull".toList
  | _ => failType .unit

/-- A value or `null`. -/
def readNullable {α : Type} (read : Reading α) : Reading (Option α) := do
  match ← peek with
  | some 'n' => skip; word "ull".toList; return none
  | _ => return some (← read)

/-- The elements of an array up to its closing bracket. The text bounds their number. -/
def elements {α : Type} (read : Reading α) : Nat → Bool → Reading (List α)
  | 0, _ => fail (.ended .list)
  | bound + 1, first => do
    if ← nextElement first then
      let a ← read
      return a :: (← elements read bound false)
    else return []

def readList {α : Type} (read : Reading α) : Reading (List α) := do
  match ← peek with
  | some '[' =>
    skip
    let values ← elements read ((← get).length + 1) true
    closeArray
    return values
  | _ => failType .sequence

def variantKey : Reading String := do
  match ← peek with
  | some '"' => skip; string
  | some '\x7d' => fail .expectedValue
  | some _ => fail .keyNotString
  | none => fail (.ended .object)

def variantNamed {α : Type} (all : List α) (name : α → String) (given : String) : Reading α :=
  match all.find? (name · == given) with
  | some a => return a
  | none => fail (.unknownVariant given (all.map name))

/-- One of several named values: its name, or an object with its name and `null`. -/
def readVariant {α : Type} (all : List α) (name : α → String) : Reading α := do
  match ← peek with
  | none => fail (.ended .value)
  | some '"' => variantNamed all name (← readString)
  | some '\x7b' =>
    skip
    let a ← variantNamed all name (← variantKey)
    colon
    readUnit
    match ← peek with
    | some '\x7d' => skip; return a
    | some _ => fail .expectedValue
    | none => fail (.ended .object)
  | some _ => fail .expectedValue

/-- A field of a record: how it is read into the record, and whether it has to be there. -/
structure Field (α : Type) where
  name : String
  required : Bool
  read : Reading (α → α)

namespace Field

variable {α β : Type}

def mandatory (name : String) (read : Reading β) (put : β → α → α) : Field α :=
  ⟨name, true, put <$> read⟩

def optional (name : String) (read : Reading β) (put : β → α → α) : Field α :=
  ⟨name, false, put <$> read⟩

end Field

/-- The fields of a record in order, and the record that has the default in every field. Fields
that have to be there have any value in it. -/
structure Shape (α : Type) where
  title : String
  fields : List (Field α)
  blank : α

namespace Shape

variable {α : Type} (shape : Shape α)

/-- The members of an object up to its closing brace, read into a record of which the fields in
`seen` have been read. The text bounds the number of members. -/
def members : Nat → Bool → List String → α → Reading (List String × α)
  | 0, _, _, _ => fail (.ended .object)
  | bound + 1, first, seen, a => do
    if ← nextMember first then
      let name ← readString
      match shape.fields.find? (·.name == name) with
      | some field =>
        if seen.contains name then fail (.duplicateField name)
        colon
        let put ← field.read
        members bound false (name :: seen) (put a)
      | none =>
        colon
        skipValue
        members bound false seen a
    else return (seen, a)

def missing? (seen : List String) : Option (Field α) :=
  shape.fields.find? fun field => field.required && !seen.contains field.name

/-- Fields from the front of an array, the first of them in the given place. -/
def positional : List (Field α) → Nat → Bool → α → Reading α
  | [], _, _, a => return a
  | field :: rest, place, first, a => do
    if ← nextElement first then
      let put ← field.read
      positional rest (place + 1) false (put a)
    else if field.required then fail (.wrongLength place shape.title shape.fields.length)
    else positional rest (place + 1) first a

def read : Reading α := do
  match ← peek with
  | some '\x7b' =>
    skip
    let (seen, a) ← shape.members ((← get).length + 1) true [] shape.blank
    match shape.missing? seen with
    | some field => fail (.missingField field.name)
    | none => skip; return a
  | some '[' =>
    skip
    let a ← shape.positional shape.fields 0 true shape.blank
    closeArray
    return a
  | _ => failType (.record shape.title)

end Shape

def document {α : Type} (read : Reading α) (text : String) : Except Fault α :=
  (do let a ← read; atEnd; return a : Reading α).run' text.toList

end EntityMapping.Document
