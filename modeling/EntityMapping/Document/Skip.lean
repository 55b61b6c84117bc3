import EntityMapping.Document.Number

/-! # Passing over values

Values of unknown members are passed over, however deep they are. Only their form is looked at:
numbers may have any size, and escapes may name any code unit.
-/

namespace EntityMapping.Document

def afterString : List Char → Except Fault (List Char)
  | [] => .error (.ended .string)
  | '"' :: rest => .ok rest
  | '\\' :: 'u' :: a :: b :: c :: d :: rest =>
    if (hexValue? a b c d).isSome then afterString rest else .error .invalidEscape
  | '\\' :: 'u' :: rest => .error (shortEscapeFault rest)
  | '\\' :: c :: rest =>
    if (simpleEscape? c).isSome then afterString rest else .error .invalidEscape
  | ['\\'] => .error (.ended .string)
  | c :: rest => if c.toNat < 0x20 then .error .controlCharacter else afterString rest

def skipString : Reading Unit := do
  set (← afterString (← get))

def skipDigits : Reading Unit := do
  if (← digits).isEmpty then fail .invalidNumber

def skipExponent : Reading Unit := do
  match ← get with
  | 'e' :: '+' :: rest | 'e' :: '-' :: rest | 'E' :: '+' :: rest | 'E' :: '-' :: rest
  | 'e' :: rest | 'E' :: rest => set rest; skipDigits
  | _ => return

def skipFraction : Reading Unit := do
  match ← get with
  | '.' :: rest => set rest; skipDigits
  | _ => return

def skipNumber : Reading Unit := do
  match ← get with
  | '0' :: rest =>
    set rest
    if rest.head?.any Char.isDigit then fail .invalidNumber
  | _ => skipDigits
  skipFraction
  skipExponent

inductive Bracket where
  | list
  | object
  deriving DecidableEq, Repr

namespace Bracket

def part : Bracket → Part
  | list => .list
  | object => .object

def closing : Bracket → Char
  | list => ']'
  | object => '\x7d'

def missingComma : Bracket → Fault
  | list => .expectedCommaInList
  | object => .expectedCommaInObject

end Bracket

/-- A value without elements, or the bracket that opens one with elements. -/
def skipStart : Reading (Option Bracket) := do
  match ← peek with
  | none => fail (.ended .value)
  | some 'n' => skip; word "ull".toList; return none
  | some 't' => skip; word "rue".toList; return none
  | some 'f' => skip; word "alse".toList; return none
  | some '"' => skip; skipString; return none
  | some '-' => skip; skipNumber; return none
  | some '[' => skip; return some .list
  | some '\x7b' => skip; return some .object
  | some c => if c.isDigit then skipNumber; return none else fail .expectedValue

def skipName : Reading Unit := do
  match ← peek with
  | some '"' => skip; skipString; colon
  | some _ => fail .keyNotString
  | none => fail (.ended .object)

/-- Close brackets, the innermost first, as long as nothing else follows, and stop before the next
value. In the innermost bracket a comma may stand only after a value. -/
def closeBrackets : Bool → List Bracket → Reading (List Bracket)
  | _, [] => return []
  | afterValue, bracket :: outer => do
    match ← peek with
    | none => fail (.ended bracket.part)
    | some c =>
      if c = bracket.closing then
        skip
        closeBrackets true outer
      else
        if !afterValue then pure ()
        else if c = ',' then skip
        else fail bracket.missingComma
        if bracket = .object then skipName
        return bracket :: outer

/-- Pass over the rest of the values in open brackets, the innermost first. The text bounds the
number of values. -/
def skipWithin : Nat → List Bracket → Reading Unit
  | 0, _ => fail (.ended .value)
  | bound + 1, brackets => do
    let remaining ← match ← skipStart with
      | some bracket => closeBrackets false (bracket :: brackets)
      | none => closeBrackets true brackets
    if !remaining.isEmpty then
      skipWithin bound remaining

/-- Pass over one value. -/
def skipValue : Reading Unit := do
  skipWithin ((← get).length + 1) []

end EntityMapping.Document
