/-! # Shortest decimals

The fewest digits that read back as a given double. A positive double is `m * 2 ^ q`, and the
reals that round to it form an interval around it, whose ends belong to it when `m` is even.
-/

namespace EntityMapping.Decimal

def powerOfTwo (n : Nat) : Nat := Nat.pow 2 n

def powerOfTen (n : Nat) : Nat := Nat.pow 10 n

/-- A positive binary number `significand * 2 ^ exponent`. -/
structure Binary where
  significand : Nat
  exponent : Int
  /-- Whether the number below is half as far away as the number above. -/
  narrowBelow : Bool
  deriving DecidableEq, Repr

/-- The decimal number `digits * 10 ^ exponent`. -/
structure Digits where
  digits : Nat
  exponent : Int
  deriving DecidableEq, Repr

structure Fraction where
  num : Nat
  den : Nat

namespace Binary

/-- The number with the bits of a finite positive double. -/
def ofBits (bits : Nat) : Binary :=
  let fraction := bits % powerOfTwo 52
  let scale : Nat := bits / powerOfTwo 52
  if scale = 0 then ⟨fraction, -1074, false⟩
  else ⟨powerOfTwo 52 + fraction, (scale : Int) - 1075, fraction == 0 && scale != 1⟩

/-- A quarter of the last place times `n`; the number itself is `4 * significand` of these. -/
def quarters (b : Binary) (n : Nat) : Fraction :=
  if b.exponent < 2 then ⟨n, powerOfTwo (2 - b.exponent).toNat⟩
  else ⟨n * powerOfTwo (b.exponent - 2).toNat, 1⟩

def value (b : Binary) : Fraction := b.quarters (4 * b.significand)

def lower (b : Binary) : Fraction :=
  b.quarters (4 * b.significand - if b.narrowBelow then 1 else 2)

def upper (b : Binary) : Fraction := b.quarters (4 * b.significand + 2)

end Binary

namespace Digits

def value (d : Digits) : Fraction :=
  if d.exponent < 0 then ⟨d.digits, powerOfTen (-d.exponent).toNat⟩
  else ⟨d.digits * powerOfTen d.exponent.toNat, 1⟩

end Digits

namespace Fraction

def le (a b : Fraction) : Bool := a.num * b.den ≤ b.num * a.den

def lt (a b : Fraction) : Bool := a.num * b.den < b.num * a.den

def distance (a b : Fraction) : Fraction :=
  let left := a.num * b.den
  let right := b.num * a.den
  ⟨(left - right) + (right - left), a.den * b.den⟩

/-- The whole number of steps `10 ^ exponent` below a fraction. -/
def stepsBelow (a : Fraction) (exponent : Int) : Nat :=
  if exponent < 0 then a.num * powerOfTen (-exponent).toNat / a.den
  else a.num / (a.den * powerOfTen exponent.toNat)

end Fraction

/-- Whether a decimal rounds to the binary number. -/
def readsBack (b : Binary) (d : Digits) : Bool :=
  if b.significand % 2 = 0 then b.lower.le d.value && d.value.le b.upper
  else b.lower.lt d.value && d.value.lt b.upper

/-- The better of two neighbouring decimals: the nearer one, or of equally near ones the even. -/
def nearer (b : Binary) (below above : Digits) : Digits :=
  let down := below.value.distance b.value
  let up := above.value.distance b.value
  if down.lt up then below
  else if up.lt down then above
  else if below.digits % 2 = 0 then below
  else above

/-- A decimal with steps of `10 ^ exponent` that reads back, the nearer one if there are two. -/
def onGrid? (b : Binary) (exponent : Int) : Option Digits :=
  let steps := b.value.stepsBelow exponent
  let below : Digits := ⟨steps, exponent⟩
  let above : Digits := ⟨steps + 1, exponent⟩
  match readsBack b below, readsBack b above with
  | true, true => some (nearer b below above)
  | true, false => some below
  | false, true => some above
  | false, false => none

/-- The first grid with a decimal that reads back, starting at the given one and making the steps
ten times smaller each time. -/
def search (b : Binary) : Nat → Int → Option Digits
  | 0, _ => none
  | tries + 1, exponent =>
    match onGrid? b exponent with
    | some d => some d
    | none => search b tries (exponent - 1)

/-- The digits of a whole number, the last one first, without zeros at its end. -/
def stripZeros : Nat → Digits → Digits
  | 0, d => d
  | tries + 1, d =>
    if d.digits % 10 = 0 && d.digits != 0 then stripZeros tries ⟨d.digits / 10, d.exponent + 1⟩
    else d

/-- The shortest decimal that reads back as the number. All doubles lie below `10 ^ 309`, and
seventeen digits tell any two of them apart. -/
def shortest (b : Binary) : Digits :=
  match search b 660 308 with
  | some d => stripZeros 20 d
  | none => ⟨0, 0⟩

end EntityMapping.Decimal
