import EntityMapping.Unicode.WordPart

/-! # Patterns of letters

Patterns that find word endings without regard to case. Matching walks a cursor through the word
and gives every place where a match may end, the preferred one first, together with the parts
that its groups took.
-/

namespace EntityMapping.Inflection

open Unicode

/-- Simple case folding, for the letters that have a partner among the characters patterns name:
the ASCII letters, `é`, and the long s and the Kelvin sign, which fold to ASCII letters. -/
def fold (c : Char) : Char :=
  if c = 'ſ' then 's' else if c = '\u212A' then 'k' else if c = 'É' then 'é' else c.toLower

inductive Pattern where
  | empty
  | char (accepts : Char → Bool)
  | seq (first second : Pattern)
  | alt (first second : Pattern)
  | opt (body : Pattern)
  | group (body : Pattern)
  | atStart
  | atEnd
  /-- A place with a word character on one side only. -/
  | boundary

/-- A place in a word: the characters before it, nearest first, those after it, and the groups
taken on the way. -/
structure Cursor where
  before : List Char
  after : List Char
  groups : List (List Char)

namespace Cursor

def since (c start : Cursor) : List Char :=
  (c.before.take (c.before.length - start.before.length)).reverse

def take (c start : Cursor) : Cursor := { c with groups := c.groups ++ [c.since start] }

def onBoundary (c : Cursor) : Bool := c.before.head?.any isWordPart != c.after.head?.any isWordPart

end Cursor

namespace Pattern

instance : Append Pattern := ⟨seq⟩

def letter (c : Char) : Pattern := char fun x => fold x == fold c

def oneOf (letters : String) : Pattern :=
  char fun x => (letters.toList.map fold).contains (fold x)

def noneOf (letters : String) : Pattern :=
  char fun x => !(letters.toList.map fold).contains (fold x)

/-- A character that no ASCII character equals up to case. -/
def nonAscii : Pattern := char fun x => 0x7F < (fold x).toNat

def nonWord : Pattern := char fun x => !isWordPart x

def word (letters : String) : Pattern := letters.toList.foldr (fun c p => letter c ++ p) empty

def choice : List Pattern → Pattern
  | [] => char fun _ => false
  | [p] => p
  | p :: rest => alt p (choice rest)

def anyOf (words : List String) : Pattern := choice (words.map word)

/-- The cursors where a match that starts here may end, the preferred one first. -/
def run : Pattern → Cursor → List Cursor
  | empty, c => [c]
  | char accepts, c =>
    match c.after with
    | [] => []
    | x :: rest =>
      if accepts x then [{ c with before := x :: c.before, after := rest }] else []
  | seq p q, c => (p.run c).flatMap q.run
  | alt p q, c => p.run c ++ q.run c
  | opt p, c => p.run c ++ [c]
  | group p, c => (p.run c).map (·.take c)
  | atStart, c => if c.before.isEmpty then [c] else []
  | atEnd, c => if c.after.isEmpty then [c] else []
  | boundary, c => if c.onBoundary then [c] else []

end Pattern

/-- A part of a word that a pattern matched: the text on both sides and the matched parts, the
whole match first and then the groups that took part, from left to right. -/
structure Occurrence where
  before : List Char
  parts : List (List Char)
  after : List Char

namespace Pattern

def occurrenceAt? (p : Pattern) (before after : List Char) : Option Occurrence :=
  let start : Cursor := ⟨before, after, []⟩
  (p.run start).head?.map fun c => ⟨before.reverse, c.since start :: c.groups, c.after⟩

def findAfter (p : Pattern) (before : List Char) : List Char → Option Occurrence
  | [] => p.occurrenceAt? before []
  | c :: rest =>
    match p.occurrenceAt? before (c :: rest) with
    | some o => some o
    | none => p.findAfter (c :: before) rest

/-- The match that starts leftmost in the word. -/
def find? (p : Pattern) (s : List Char) : Option Occurrence := p.findAfter [] s

end Pattern

end EntityMapping.Inflection
