import EntityMapping.Text.Basic

/-! # Faults of JSON documents

Why a text is not a document of the expected form: it breaks the grammar, or a value in it is not
of the type that its place asks for.
-/

namespace EntityMapping.Document

inductive Part where
  | list
  | object
  | string
  | value
  deriving DecidableEq, Repr

/-- What stood where another type was expected. A number with a fraction or an exponent is given
by its text. -/
inductive Found where
  | null
  | bool (value : Bool)
  | integer (value : Int)
  | float (text : String)
  | string (value : String)
  | sequence
  | map
  deriving DecidableEq, Repr

inductive Expected where
  | bool
  | int32
  | string
  | sequence
  | unit
  | record (title : String)
  deriving DecidableEq, Repr

inductive Fault where
  | ended (part : Part)
  | expectedColon
  | expectedCommaInList
  | expectedCommaInObject
  | expectedWord
  | expectedValue
  | invalidEscape
  | invalidNumber
  | numberOutOfRange
  | controlCharacter
  | keyNotString
  | loneSurrogate
  | trailingComma
  | trailingCharacters
  | endedSurrogatePair
  | wrongType (found : Found) (expected : Expected)
  /-- An integer beyond the range of 32 bits. -/
  | wrongInteger (value : Int)
  | wrongLength (length : Nat) (title : String) (fields : Nat)
  | missingField (name : String)
  | duplicateField (name : String)
  | unknownVariant (name : String) (known : List String)
  deriving DecidableEq, Repr

namespace Part

def name : Part → String
  | list => "a list"
  | object => "an object"
  | string => "a string"
  | value => "a value"

end Part

def ticked (s : String) : String := "`" ++ s ++ "`"

namespace Found

def text : Found → String
  | null => "null"
  | bool value => "boolean " ++ ticked (if value then "true" else "false")
  | integer value => "integer " ++ ticked value.repr
  | float text => "floating point " ++ ticked text
  | string value => "string " ++ Text.shown value
  | sequence => "sequence"
  | map => "map"

end Found

namespace Expected

def text : Expected → String
  | bool => "a boolean"
  | int32 => "i32"
  | string => "a string"
  | sequence => "a sequence"
  | unit => "unit"
  | record title => "struct " ++ title

end Expected

/-- The known variants in a message: two are joined by a word, more are listed. -/
def knownVariants : List String → String
  | [a] => ticked a
  | [a, b] => ticked a ++ " or " ++ ticked b
  | names => "one of " ++ ", ".intercalate (names.map ticked)

namespace Fault

def message : Fault → String
  | ended part => "EOF while parsing " ++ part.name
  | expectedColon => "expected `:`"
  | expectedCommaInList => "expected `,` or `]`"
  | expectedCommaInObject => "expected `,` or `\x7d`"
  | expectedWord => "expected ident"
  | expectedValue => "expected value"
  | invalidEscape => "invalid escape"
  | invalidNumber => "invalid number"
  | numberOutOfRange => "number out of range"
  | controlCharacter => "control character (\\u0000-\\u001F) found while parsing a string"
  | keyNotString => "key must be a string"
  | loneSurrogate => "lone leading surrogate in hex escape"
  | trailingComma => "trailing comma"
  | trailingCharacters => "trailing characters"
  | endedSurrogatePair => "unexpected end of hex escape"
  | wrongType found expected =>
    "invalid type: " ++ found.text ++ ", expected " ++ expected.text
  | wrongInteger value => "invalid value: integer " ++ ticked value.repr ++ ", expected i32"
  | wrongLength length title fields =>
    "invalid length " ++ length.repr ++ ", expected struct " ++ title ++ " with " ++
      fields.repr ++ (if fields = 1 then " element" else " elements")
  | missingField name => "missing field " ++ ticked name
  | duplicateField name => "duplicate field " ++ ticked name
  | unknownVariant name known =>
    "unknown variant " ++ ticked name ++ ", expected " ++ knownVariants known

end Fault

end EntityMapping.Document
