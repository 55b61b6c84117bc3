import EntityMapping.Inflection.Number
import EntityMapping.Naming.Identifier
import EntityMapping.Schema.Basic

/-! # Naming policies

A policy turns raw names into the identifiers of properties, foreign keys and navigations. Both
modes take a type suffix off the names of keys and navigations; they differ in what happens to
names with an underscore.
-/

namespace EntityMapping.Naming

open Inflection Text

inductive Mode where
  /-- Names with an underscore keep their form. -/
  | suffix
  /-- Every name is joined from capitalised words. -/
  | plural
  deriving DecidableEq, Repr

namespace Mode

def name : Mode → String
  | suffix => "suffix"
  | plural => "plural"

end Mode

inductive Fault where
  | unknownMode (given : String)
  | blankSuffix
  deriving DecidableEq, Repr

namespace Fault

def message : Fault → String
  | unknownMode given =>
    "unknown relationship naming mode '" ++ given ++ "' (expected 'suffix' or 'plural')"
  | blankSuffix => "relationship naming mode 'suffix' requires a non-empty suffix"

end Fault

namespace Mode

def parse (given : String) : Except Fault Mode :=
  let word := String.ofList (asciiLower (trim given.toList))
  if word = "suffix" then .ok suffix
  else if word = "plural" then .ok plural
  else .error (.unknownMode word)

end Mode

/-- A naming mode and the type suffix that it takes off. -/
structure Policy where
  mode : Mode
  suffix : String
  deriving DecidableEq, Repr

/-- The raw name without a trailing suffix, tried in its plural form first. A name that consists
of the suffix alone is kept. -/
def stripSuffix (raw suffix : String) : Except CaseFault String :=
  if suffix.isEmpty then .ok raw
  else do
    let plural ← pluralize suffix
    let stripped :=
      (dropEnding? plural.toList raw.toList).or (dropEnding? suffix.toList raw.toList)
    match stripped with
    | none => return raw
    | some [] => return raw
    | some rest => return String.ofList rest

def resolveIdentifier (raw suffix : String) : Except CaseFault String :=
  preserveOrPascalize <$> stripSuffix raw suffix

/-- Names on the many side are put in the plural; those on the one side are taken as given. -/
def inflect (name : String) : Cardinality → Except CaseFault String
  | .one => .ok name
  | .many => pluralize name

namespace Policy

def make (mode : Mode) (suffix : String) : Except Fault Policy :=
  let bare := trim suffix.toList
  if mode = .suffix && bare.isEmpty then .error .blankSuffix
  else .ok ⟨mode, String.ofList bare⟩

/-- The identifier of a name whose suffix and number are already settled. -/
def identifier (p : Policy) (name : String) : String :=
  match p.mode with
  | .suffix => preserveOrPascalize name
  | .plural => safeName (pascalize name)

def property (p : Policy) (raw : String) : String := p.identifier raw

def foreignKey (p : Policy) (raw : String) : Except CaseFault String :=
  p.identifier <$> stripSuffix raw p.suffix

/-- The identifier of a navigation, in the number of its own side. -/
def navigation (p : Policy) (raw : String) (cardinality : Cardinality) :
    Except CaseFault String := do
  let stripped ← stripSuffix raw p.suffix
  return p.identifier (← inflect stripped cardinality)

end Policy

end EntityMapping.Naming
