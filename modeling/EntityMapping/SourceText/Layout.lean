/-! # Elements of source text

Regular string literals of C#, in which quotes, backslashes and the common control characters are
escaped, the lambda bodies that select one or several members, and lines with their indentation
levels. Empty lines are written without indentation.
-/

namespace EntityMapping.SourceText

/-! ## Literals and selectors -/

def escapeChar : Char → List Char
  | '\\' => ['\\', '\\']
  | '"' => ['\\', '"']
  | '\n' => ['\\', 'n']
  | '\r' => ['\\', 'r']
  | '\t' => ['\\', 't']
  | '\x00' => ['\\', '0']
  | c => [c]

/-- The text as a string literal, quotes included. -/
def literal (s : String) : String :=
  String.ofList ('"' :: s.toList.flatMap escapeChar ++ ['"'])

def member (parameter name : String) : String := parameter ++ "." ++ name

/-- The selector of one member, or of an anonymous object with all of them. -/
def memberSelector (parameter : String) : List String → String
  | [name] => member parameter name
  | names => "new \x7b " ++ ", ".intercalate (names.map (member parameter)) ++ " \x7d"

/-! ## Lines -/

structure Line where
  level : Nat := 0
  text : String
  deriving DecidableEq, Repr

def line (text : String) : Line := { text }

def blankLine : Line := line ""

def Line.indent (l : Line) : Line := { l with level := l.level + 1 }

def indent (lines : List Line) : List Line := lines.map Line.indent

def braced (lines : List Line) : List Line := line "\x7b" :: indent lines ++ [line "\x7d"]

/-- Calls one to a line, the last of them ended by a semicolon. -/
def callLines : List String → List Line
  | [] => []
  | [call] => [line (call ++ ";")]
  | call :: calls => line call :: callLines calls

/-- A statement with its chained calls below it. -/
def chain (head : String) : List String → List Line
  | [] => [line (head ++ ";")]
  | calls => line head :: indent (callLines calls)

def indentation (level : Nat) : String := String.ofList (List.replicate (4 * level) ' ')

namespace Line

def render (l : Line) : String := if l.text.isEmpty then "" else indentation l.level ++ l.text

end Line

def renderLines (lines : List Line) : String := String.join (lines.map fun l => l.render ++ "\n")

end EntityMapping.SourceText
