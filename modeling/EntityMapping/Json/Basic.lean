/-! # JSON values

Values whose objects keep the order of their members, and their two written forms: compact, and
spread over lines with two spaces to a level. In a quoted string, quotes, backslashes and control
characters are escaped, and all other characters stand for themselves.
-/

namespace EntityMapping

inductive Json where
  | null
  | bool (value : Bool)
  | int (value : Int)
  | string (value : String)
  | array (elements : List Json)
  | object (members : List (String × Json))
  deriving Repr, Inhabited

namespace Json

def controlDigits (c : Char) : List Char :=
  [Nat.digitChar (c.toNat / 16), Nat.digitChar (c.toNat % 16)]

def escapeChar : Char → List Char
  | '"' => ['\\', '"']
  | '\\' => ['\\', '\\']
  | '\x08' => ['\\', 'b']
  | '\x0c' => ['\\', 'f']
  | '\n' => ['\\', 'n']
  | '\r' => ['\\', 'r']
  | '\t' => ['\\', 't']
  | c => if c.toNat < 0x20 then '\\' :: 'u' :: '0' :: '0' :: controlDigits c else [c]

def quote (s : String) : String :=
  String.ofList ('"' :: s.toList.flatMap escapeChar ++ ['"'])

def ofOption {α : Type} (f : α → Json) : Option α → Json
  | some a => f a
  | none => null

def ofList {α : Type} (f : α → Json) (elements : List α) : Json := array (elements.map f)

def strings (elements : List String) : Json := ofList string elements

def member? (name : String) : Json → Option Json
  | object members => members.lookup name
  | _ => none

def boolText (value : Bool) : String := if value then "true" else "false"

mutual

def compact : Json → String
  | null => "null"
  | bool value => boolText value
  | int value => value.repr
  | string value => quote value
  | array elements => "[" ++ compactElements elements ++ "]"
  | object members => "\x7b" ++ compactMembers members ++ "\x7d"

def compactElements : List Json → String
  | [] => ""
  | [v] => compact v
  | v :: w :: rest => compact v ++ "," ++ compactElements (w :: rest)

def compactMembers : List (String × Json) → String
  | [] => ""
  | [(name, v)] => quote name ++ ":" ++ compact v
  | (name, v) :: w :: rest => quote name ++ ":" ++ compact v ++ "," ++ compactMembers (w :: rest)

end

def newline (level : Nat) : String := String.ofList ('\n' :: List.replicate (2 * level) ' ')

mutual

def prettyAt (level : Nat) : Json → String
  | null => "null"
  | bool value => boolText value
  | int value => value.repr
  | string value => quote value
  | array [] => "[]"
  | array (v :: rest) => "[" ++ prettyElements (level + 1) (v :: rest) ++ newline level ++ "]"
  | object [] => "\x7b\x7d"
  | object (m :: rest) =>
    "\x7b" ++ prettyMembers (level + 1) (m :: rest) ++ newline level ++ "\x7d"

def prettyElements (level : Nat) : List Json → String
  | [] => ""
  | [v] => newline level ++ prettyAt level v
  | v :: w :: rest =>
    newline level ++ prettyAt level v ++ "," ++ prettyElements level (w :: rest)

def prettyMembers (level : Nat) : List (String × Json) → String
  | [] => ""
  | [(name, v)] => newline level ++ quote name ++ ": " ++ prettyAt level v
  | (name, v) :: w :: rest =>
    newline level ++ quote name ++ ": " ++ prettyAt level v ++ "," ++
      prettyMembers level (w :: rest)

end

def pretty (v : Json) : String := prettyAt 0 v

end Json

end EntityMapping
