import EntityMapping.Decimal.Shortest

/-! # Written doubles

Doubles are written positionally if the leading digit lies between the fifth place after the point
and the sixteenth before it, always with a digit after the point, and otherwise with an exponent
that shows its sign.
-/

namespace EntityMapping.Decimal

def zeros (n : Nat) : List Char := List.replicate n '0'

/-- A decimal with the leading digit in the given place, without an exponent. -/
def positional (digits : List Char) (place : Int) : List Char :=
  if place < 0 then '0' :: '.' :: zeros (-place - 1).toNat ++ digits
  else
    let whole := place.toNat + 1
    if digits.length ≤ whole then digits ++ zeros (whole - digits.length) ++ ['.', '0']
    else digits.take whole ++ '.' :: digits.drop whole

def exponentText (place : Int) : List Char :=
  'e' :: (if place < 0 then '-' else '+') :: (Nat.repr place.natAbs).toList

def scientific (digits : List Char) (place : Int) : List Char :=
  match digits with
  | [] => exponentText place
  | [d] => d :: exponentText place
  | d :: rest => d :: '.' :: rest ++ exponentText place

def layout (d : Digits) : List Char :=
  let digits := (Nat.repr d.digits).toList
  let place := d.exponent + digits.length - 1
  if -5 ≤ place && place ≤ 15 then positional digits place else scientific digits place

def textOfBits (bits : Nat) : String :=
  let negative := powerOfTwo 63 ≤ bits
  let magnitude := bits % powerOfTwo 63
  let text := if magnitude = 0 then ['0', '.', '0'] else layout (shortest (Binary.ofBits magnitude))
  String.ofList (if negative then '-' :: text else text)

def text (x : Float) : String := textOfBits x.toBits.toNat

end EntityMapping.Decimal
