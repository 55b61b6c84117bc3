/-! # Paths

A path is a list of names, taken from the root or from the working directory. Repeated slashes
count once, and a slash at the end asks for a directory.
-/

namespace EntityMapping.Output

structure Path where
  absolute : Bool := false
  names : List String
  asDirectory : Bool := false
  deriving DecidableEq, Repr

namespace Path

def isAbsolute (s : String) : Bool := s.toList.head? == some '/'

def endsInSlash (s : String) : Bool := s.toList.getLast? == some '/'

def parse (s : String) : Path where
  absolute := isAbsolute s
  names := ((s.toList.splitOnP (· == '/')).filter (!·.isEmpty)).map String.ofList
  asDirectory := endsInSlash s

/-- The path of a name within a directory; an absolute name stands for itself. -/
def join (directory name : String) : String :=
  if isAbsolute name then name
  else if endsInSlash directory then directory ++ name
  else directory ++ "/" ++ name

/-- The names without those that stay in place; one at the front of a relative path is kept. -/
def components (p : Path) : List String :=
  match p.names with
  | [] => []
  | first :: rest =>
    (if first = "." && p.absolute then [] else [first]) ++ rest.filter (· != ".")

/-- The nonempty beginnings of a list, the longest first, without the list itself. -/
def beginnings : List String → List (List String)
  | [] => []
  | a :: rest => (beginnings rest).map (a :: ·) ++ (if rest.isEmpty then [] else [[a]])

def ancestors (p : Path) : List Path :=
  (beginnings p.components).map (fun names => { absolute := p.absolute, names }) ++
    (if p.absolute then [{ absolute := true, names := [] }] else [])

end Path

end EntityMapping.Output
