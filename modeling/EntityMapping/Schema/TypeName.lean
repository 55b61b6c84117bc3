import EntityMapping.Text.Basic

/-! # Type names

A property has the name of its runtime type, of which only the category matters, and the name of
its store type, of which only the class of the base word matters. Both are compared up to the case
of ASCII letters.
-/

namespace EntityMapping

open Text

/-- Category of the runtime type of a property. -/
inductive ValueType where
  | text
  | binary
  | numeric
  | other
  deriving DecidableEq, Repr, Inhabited

namespace ValueType

def name : ValueType → String
  | text => "Text"
  | binary => "Binary"
  | numeric => "Numeric"
  | other => "Other"

def isText (t : ValueType) : Bool := t == text

/-- The categories that a maximum length applies to. -/
def isSized (t : ValueType) : Bool := t == text || t == binary

def textNames : List String := ["string", "text"]

def binaryNames : List String := ["byte[]", "binary"]

def numericNames : List String :=
  ["byte", "sbyte", "short", "int16", "ushort", "uint16", "int", "int32", "uint", "uint32",
   "long", "int64", "ulong", "uint64", "float", "single", "double", "decimal", "numeric"]

/-- The name without surrounding blanks, one leading `System.` and one trailing `?`. -/
def bareTypeName (s : List Char) : List Char :=
  let s := trim s
  let s := (dropOpening? "System.".toList s).getD s
  (dropEnding? ['?'] s).getD s

def ofTypeName (typeName : String) : ValueType :=
  let bare := String.ofList (asciiLower (bareTypeName typeName.toList))
  if textNames.contains bare then text
  else if binaryNames.contains bare then binary
  else if numericNames.contains bare then numeric
  else other

end ValueType

/-- How a store type bears on the mapping of its column. -/
inductive StoreTypeClass where
  | decimal
  | dateTime
  | hierarchyId
  /-- Character types without Unicode. -/
  | ansiText
  | other
  deriving DecidableEq, Repr

namespace StoreTypeClass

def name : StoreTypeClass → String
  | decimal => "Decimal"
  | dateTime => "DateTime"
  | hierarchyId => "HierarchyId"
  | ansiText => "AnsiText"
  | other => "Other"

def needsColumnType : StoreTypeClass → Bool
  | decimal | dateTime | hierarchyId => true
  | ansiText | other => false

def decimalWords : List String := ["decimal", "numeric", "money", "smallmoney"]

def dateTimeWords : List String :=
  ["date", "datetime", "datetime2", "datetimeoffset", "smalldatetime", "time"]

def ansiTextWords : List String := ["varchar", "char", "text"]

/-- The word before the first parenthesis or blank, once surrounding blanks are gone. -/
def baseWord (s : List Char) : List Char :=
  (asciiLower (trim s)).takeWhile fun c => !(c == '(' || Unicode.isBlank c)

def ofStoreType (storeType : String) : StoreTypeClass :=
  let base := String.ofList (baseWord storeType.toList)
  if decimalWords.contains base then decimal
  else if dateTimeWords.contains base then dateTime
  else if base = "hierarchyid" then hierarchyId
  else if ansiTextWords.contains base then ansiText
  else other

end StoreTypeClass

end EntityMapping
