import EntityMapping.Text.Basic

/-! # Using directives

A set of namespaces, written one directive to a line: those of the system library after all
others, and each group in the order of code points.
-/

namespace EntityMapping.SourceText

/-- Namespaces in increasing order, each once. -/
structure Usings where
  namespaces : List String := []
  deriving DecidableEq, Repr

namespace Usings

def insert (name : String) : List String → List String
  | [] => [name]
  | first :: rest =>
    if name = first then first :: rest
    else if name < first then name :: first :: rest
    else first :: insert name rest

/-- The set with one more namespace; the empty one is passed over. -/
def add (u : Usings) (name : String) : Usings :=
  if name.isEmpty then u else ⟨insert name u.namespaces⟩

def ofList (names : List String) : Usings := names.foldl add {}

def isSystem (name : String) : Bool :=
  name == "System" || (Text.dropOpening? "System.".toList name.toList).isSome

def ordered (u : Usings) : List String :=
  u.namespaces.filter (fun name => !isSystem name) ++ u.namespaces.filter isSystem

def directive (name : String) : String := "using " ++ name ++ ";"

def render (u : Usings) : String := "\n".intercalate (u.ordered.map directive)

end Usings

end EntityMapping.SourceText
