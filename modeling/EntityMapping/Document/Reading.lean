import EntityMapping.Document.Fault

/-! # Reading words, strings and punctuation

A reading takes characters off the front of a text and gives a value, or fails with the first
fault in the order of the text. Blanks may stand before every value and every mark.
-/

namespace EntityMapping.Document

/-- A step that takes characters off the front of a text. -/
abbrev Reading (α : Type) := StateT (List Char) (Except Fault) α

def fail {α : Type} (fault : Fault) : Reading α := throw fault

def isBlank (c : Char) : Bool := c == ' ' || c == '\n' || c == '\t' || c == '\r'

def skipBlanks : Reading Unit := modify (·.dropWhile isBlank)

/-- The next character that is not blank, left in place. -/
def peek : Reading (Option Char) := do
  skipBlanks
  return (← get).head?

def skip : Reading Unit := modify (·.drop 1)

def word : List Char → Reading Unit
  | [] => return
  | expected :: rest => do
    match ← get with
    | [] => fail (.ended .value)
    | c :: text =>
      set text
      if c = expected then word rest else fail .expectedWord

def hexDigit? (c : Char) : Option Nat :=
  if c.isDigit then some (c.toNat - '0'.toNat)
  else if 'a' ≤ c && c ≤ 'f' then some (c.toNat - 'a'.toNat + 10)
  else if 'A' ≤ c && c ≤ 'F' then some (c.toNat - 'A'.toNat + 10)
  else none

def hexValue? (a b c d : Char) : Option Nat := do
  return (((← hexDigit? a) * 16 + (← hexDigit? b)) * 16 + (← hexDigit? c)) * 16 + (← hexDigit? d)

/-- The fault of an escape with fewer than four characters after it; the four digits are counted
in bytes. -/
def shortEscapeFault (rest : List Char) : Fault :=
  if (String.ofList rest).utf8ByteSize < 4 then .ended .string else .invalidEscape

def isLeading (n : Nat) : Bool := 0xD800 ≤ n && n ≤ 0xDBFF

def isTrailing (n : Nat) : Bool := 0xDC00 ≤ n && n ≤ 0xDFFF

def pairChar (leading trailing : Nat) : Char :=
  Char.ofNat ((leading - 0xD800) * 0x400 + (trailing - 0xDC00) + 0x10000)

def simpleEscape? : Char → Option Char
  | '"' => some '"'
  | '\\' => some '\\'
  | '/' => some '/'
  | 'b' => some '\x08'
  | 'f' => some '\x0c'
  | 'n' => some '\n'
  | 'r' => some '\r'
  | 't' => some '\t'
  | _ => none

def consText (c : Char) (r : Except Fault (List Char × List Char)) :
    Except Fault (List Char × List Char) :=
  r.map fun (text, rest) => (c :: text, rest)

def stringBody : List Char → Except Fault (List Char × List Char)
  | [] => .error (.ended .string)
  | '"' :: rest => .ok ([], rest)
  | '\\' :: 'u' :: a :: b :: c :: d :: rest =>
    match hexValue? a b c d with
    | none => .error .invalidEscape
    | some n =>
      if isTrailing n then .error .loneSurrogate
      else if isLeading n then
        match rest with
        | '\\' :: 'u' :: a :: b :: c :: d :: rest =>
          match hexValue? a b c d with
          | none => .error .invalidEscape
          | some m =>
            if isTrailing m then consText (pairChar n m) (stringBody rest)
            else .error .loneSurrogate
        | '\\' :: 'u' :: rest => .error (shortEscapeFault rest)
        | ['\\'] => .error (.ended .string)
        | [] => .error (.ended .string)
        | _ => .error .endedSurrogatePair
      else consText (Char.ofNat n) (stringBody rest)
  | '\\' :: 'u' :: rest => .error (shortEscapeFault rest)
  | '\\' :: c :: rest =>
    match simpleEscape? c with
    | some x => consText x (stringBody rest)
    | none => .error .invalidEscape
  | ['\\'] => .error (.ended .string)
  | c :: rest => if c.toNat < 0x20 then .error .controlCharacter else consText c (stringBody rest)

/-- A string whose opening quote has been read. -/
def string : Reading String := do
  let (text, rest) ← stringBody (← get)
  set rest
  return String.ofList text

def colon : Reading Unit := do
  match ← peek with
  | some ':' => skip
  | some _ => fail .expectedColon
  | none => fail (.ended .object)

/-- Whether another element follows in an array, whose elements are set apart by commas. The
closing bracket is left in place. -/
def nextElement (first : Bool) : Reading Bool := do
  match ← peek with
  | none => fail (.ended .list)
  | some ']' => return false
  | some c =>
    if first then return true
    else if c = ',' then
      skip
      match ← peek with
      | some ']' => fail .trailingComma
      | some _ => return true
      | none => fail (.ended .value)
    else fail .expectedCommaInList

/-- Whether another member follows in an object. The closing brace is left in place, and so is the
opening quote of a name. -/
def nextMember (first : Bool) : Reading Bool := do
  match ← peek with
  | none => fail (.ended .object)
  | some '\x7d' => return false
  | some c =>
    if first then if c = '"' then return true else fail .keyNotString
    else if c = ',' then
      skip
      match ← peek with
      | some '"' => return true
      | some '\x7d' => fail .trailingComma
      | some _ => fail .keyNotString
      | none => fail (.ended .value)
    else fail .expectedCommaInObject

def closeArray : Reading Unit := do
  match ← peek with
  | some ']' => skip
  | some ',' =>
    skip
    match ← peek with
    | some ']' => fail .trailingComma
    | _ => fail .trailingCharacters
  | some _ => fail .trailingCharacters
  | none => fail (.ended .list)

def atEnd : Reading Unit := do
  match ← peek with
  | none => return
  | some _ => fail .trailingCharacters

end EntityMapping.Document
