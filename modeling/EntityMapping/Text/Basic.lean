import EntityMapping.Unicode.Basic
import EntityMapping.Unicode.Printable

/-! # Texts

Operations on texts as lists of characters: blanks removed at both ends, comparison up to the
case of ASCII letters, removal of a given opening or ending, and the lines of a text. A text shown
in a message stands within double quotes and has what would not show escaped.
-/

namespace EntityMapping.Text

open Unicode

def trimStart (s : List Char) : List Char := s.dropWhile isBlank

def trimEnd (s : List Char) : List Char := (s.reverse.dropWhile isBlank).reverse

def trim (s : List Char) : List Char := trimEnd (trimStart s)

def isBlankText (s : List Char) : Bool := s.all isBlank

def asciiLower (s : List Char) : List Char := s.map Char.toLower

def dropEnding? (ending s : List Char) : Option (List Char) :=
  if ending.isSuffixOf s then some (s.take (s.length - ending.length)) else none

def dropOpening? : List Char → List Char → Option (List Char)
  | [], s => some s
  | _ :: _, [] => none
  | a :: opening, b :: s => if a = b then dropOpening? opening s else none

theorem dropOpening?_eq_some_iff {opening s rest : List Char} :
    dropOpening? opening s = some rest ↔ s = opening ++ rest := by
  induction opening generalizing s with
  | nil => simp [dropOpening?]
  | cons a opening ih =>
    cases s with
    | nil => simp [dropOpening?]
    | cons b s =>
      by_cases h : a = b
      · simp [dropOpening?, h, ih]
      · simp [dropOpening?, h, Ne.symm h]

theorem dropEnding?_eq_some_iff {ending s rest : List Char} :
    dropEnding? ending s = some rest ↔ s = rest ++ ending := by
  unfold dropEnding?
  split
  case isTrue h =>
    obtain ⟨t, rfl⟩ := List.isSuffixOf_iff_suffix.1 h
    simp [eq_comm]
  case isFalse h =>
    simp only [reduceCtorEq, false_iff]
    rintro rfl
    exact h (List.isSuffixOf_iff_suffix.2 ⟨rest, rfl⟩)

/-! ## Lines -/

/-- A line that a line feed ended, without the carriage return at its end. -/
def dropReturn (line : List Char) : List Char :=
  if line.getLast? = some '\r' then line.dropLast else line

/-- The lines among pieces between line feeds; the last piece is none if it is empty. -/
def linesOfPieces : List (List Char) → List (List Char)
  | [] => []
  | [last] => if last.isEmpty then [] else [last]
  | piece :: rest => dropReturn piece :: linesOfPieces rest

def lines (s : List Char) : List (List Char) := linesOfPieces (s.splitOnP (· == '\n'))

/-! ## Texts in messages -/

def numbered (c : Char) : List Char :=
  "\\u\x7b".toList ++ Nat.toDigits 16 c.toNat ++ ['\x7d']

def shownChar : Char → List Char
  | '"' => ['\\', '"']
  | '\\' => ['\\', '\\']
  | '\n' => ['\\', 'n']
  | '\r' => ['\\', 'r']
  | '\t' => ['\\', 't']
  | '\x00' => ['\\', '0']
  | c => if isPrintable c then [c] else numbered c

def shown (s : String) : String := String.ofList ('"' :: s.toList.flatMap shownChar ++ ['"'])

end EntityMapping.Text
