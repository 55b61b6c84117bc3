import EntityMapping.Decimal.Layout
import EntityMapping.Document.Reading

/-! # Reading numbers

Integers that fit into 64 bits are read exactly. Other numbers become doubles: the leading digits
that fit into 64 bits, scaled by a power of ten in double arithmetic.
-/

namespace EntityMapping.Document

inductive Number where
  | integer (value : Int)
  | float (value : Float)

def Number.found : Number → Found
  | integer value => .integer value
  | float value => .float (Decimal.text value)

def greatestPower : Nat := 308

def floatPowerOfTen (n : Nat) : Float := Float.ofScientific 1 false n

/-- `x * 10 ^ exponent` for a negative exponent, by divisions. -/
def scaleDown (x : Float) (exponent : Int) : Float :=
  if exponent < -greatestPower then
    if x == 0 then x else scaleDown (x / floatPowerOfTen greatestPower) (exponent + greatestPower)
  else x / floatPowerOfTen exponent.natAbs
termination_by (-exponent).toNat
decreasing_by simp only [greatestPower] at *; omega

/-- `significand * 10 ^ exponent` with its sign, unless it exceeds all doubles. -/
def scaled (positive : Bool) (significand : Nat) (exponent : Int) : Except Fault Float := do
  let x := Float.ofNat significand
  let magnitude ←
    if exponent < 0 then pure (scaleDown x exponent)
    else if exponent ≤ greatestPower then
      let y := x * floatPowerOfTen exponent.toNat
      if y.isInf then throw .numberOutOfRange else pure y
    else if x == 0 then pure x
    else throw .numberOutOfRange
  return if positive then magnitude else -magnitude

def digitValue (c : Char) : Nat := c.toNat - '0'.toNat

def fits (n : Nat) : Bool := n < Decimal.powerOfTwo 64

/-- Add decimal digits to a significand as long as it fits into 64 bits. Gives the significand,
the digits that were added and the digits left over. -/
def gather (significand : Nat) : List Char → Nat × List Char × List Char
  | [] => (significand, [], [])
  | c :: rest =>
    if fits (significand * 10 + digitValue c) then
      let (n, added, left) := gather (significand * 10 + digitValue c) rest
      (n, c :: added, left)
    else (significand, [], c :: rest)

def digits : Reading (List Char) := do
  let text ← get
  set (text.dropWhile Char.isDigit)
  return text.takeWhile Char.isDigit

def exponentPart (positive : Bool) (significand : Nat) (start : Int) : Reading Float := do
  let negativeExponent ← match ← get with
    | '+' :: rest => set rest; pure false
    | '-' :: rest => set rest; pure true
    | _ => pure false
  match ← get with
  | [] => fail (.ended .value)
  | c :: _ =>
    if !c.isDigit then fail .invalidNumber
    else
      let exponent := (← digits).foldl (fun n c => n * 10 + digitValue c) 0
      if exponent < Decimal.powerOfTwo 31 then
        scaled positive significand
          (if negativeExponent then start - exponent else start + exponent)
      else if significand != 0 && !negativeExponent then fail .numberOutOfRange
      else return if positive then 0 else -0

def optionalExponent (positive : Bool) (significand : Nat) (exponent : Int) : Reading Float := do
  match ← get with
  | 'e' :: rest => set rest; exponentPart positive significand exponent
  | 'E' :: rest => set rest; exponentPart positive significand exponent
  | _ => scaled positive significand exponent

def fraction (positive : Bool) (significand : Nat) (exponent : Int) : Reading Float := do
  let ds ← digits
  if ds.isEmpty then
    if (← get).isEmpty then fail (.ended .value) else fail .invalidNumber
  else
    let (significand, added, _) := gather significand ds
    optionalExponent positive significand (exponent - added.length)

def afterWhole (positive : Bool) (significand : Nat) (dropped : Nat) : Reading Number := do
  match ← get with
  | '.' :: rest => set rest; return .float (← fraction positive significand dropped)
  | 'e' :: _ | 'E' :: _ => return .float (← optionalExponent positive significand dropped)
  | _ =>
    if dropped != 0 then return .float (← scaled positive significand dropped)
    else if positive then return .integer significand
    else if significand = 0 || Decimal.powerOfTwo 63 < significand then
      return .float (-(Float.ofNat significand))
    else return .integer (-significand)

/-- A number whose sign, if any, has been read. -/
def number (positive : Bool) : Reading Number := do
  match ← get with
  | [] => fail (.ended .value)
  | '0' :: rest =>
    set rest
    if rest.head?.any Char.isDigit then fail .invalidNumber
    else afterWhole positive 0 0
  | c :: _ =>
    if !c.isDigit then fail .invalidNumber
    else
      let (significand, _, left) := gather 0 (← digits)
      afterWhole positive significand left.length

def signedNumber : Reading Number := do
  match ← get with
  | '-' :: rest => set rest; number false
  | _ => number true

end EntityMapping.Document
