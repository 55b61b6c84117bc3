import EntityMapping.Text.Basic
import EntityMapping.Unicode.Alphanumeric
import EntityMapping.Unicode.CaseMapping

/-! # Identifiers

Raw names become identifiers in two ways: characters that an identifier cannot hold turn into
underscores, and a name of several words is joined with each word capitalised.
-/

namespace EntityMapping.Naming

open Unicode

/-- The character that marks a name as already formatted. -/
def separator : Char := '_'

def isIdentifierPart (c : Char) : Bool := isAlphanumeric c || c == separator

def safeChar (c : Char) : Char := if isIdentifierPart c then c else separator

/-- A name that cannot begin an identifier: it is empty or begins with an ASCII digit. -/
def needsLead : List Char → Bool
  | [] => true
  | c :: _ => c.isDigit

/-- The name with each character outside identifiers turned into an underscore, and one more in
front where an identifier cannot begin otherwise. -/
def safeName (name : String) : String :=
  let safe := name.toList.map safeChar
  String.ofList (if needsLead safe then separator :: safe else safe)

def isSegmentBreak (c : Char) : Bool := c == separator || isBlank c

def capitalize : List Char → List Char
  | [] => []
  | c :: rest => upperChar c ++ rest

/-- The words of a name joined, the first letter of each in upper case and the rest as it is. -/
def pascalize (name : String) : String :=
  String.ofList ((name.toList.splitOnP isSegmentBreak).flatMap capitalize)

def preserveOrPascalize (name : String) : String :=
  if name.toList.contains separator then safeName name else safeName (pascalize name)

end EntityMapping.Naming
