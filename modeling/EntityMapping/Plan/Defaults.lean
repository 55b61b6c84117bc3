import EntityMapping.Inflection.Number
import EntityMapping.Text.Basic

/-! # Default names and default values

The names that foreign keys and indexes get when a mapping gives none. Where the default cannot
be told, a given name has to be kept.

Databases report the default value of a column in parentheses. One pair is taken off when it
encloses the whole expression; parentheses in quoted text do not count.
-/

namespace EntityMapping

namespace DefaultName

open Inflection

/-- The default name `FK_schema_table_principal`, with the principal table in the singular. -/
def foreignKey (schema : Option String) (table principal : String) :
    Except CaseFault (Option String) :=
  match schema with
  | none => .ok none
  | some schema =>
    if schema.isEmpty || table.isEmpty || principal.isEmpty then .ok none
    else do
      let singular ← singularize principal
      return some ("FK_" ++ schema ++ "_" ++ table ++ "_" ++ singular)

/-- The default name `IX_table_column₁_column₂…`. -/
def index (table : String) (columns : List String) : Option String :=
  if table.isEmpty || columns.isEmpty then none
  else some ("IX_" ++ table ++ String.join (columns.map ("_" ++ ·)))

/-- Whether a given name has to be spelled out, being neither empty nor the default. -/
def needsOverride (actual : String) (predicted : Option String) : Bool :=
  !actual.isEmpty && predicted != some actual

end DefaultName

namespace DefaultValue

open Text

/-- Whether the open parenthesis of an expression is closed before its last character. The depth
is that of the text read so far, and never falls below zero. It is a natural number, which a
counter of 32 bits agrees with as long as fewer than `2 ^ 32` parentheses are open. -/
def closesEarly : Nat → Bool → List Char → Bool
  | _, _, [] => false
  | depth, quoted, c :: rest =>
    if c = '\'' then closesEarly depth (!quoted) rest
    else if c = '(' && !quoted then closesEarly (depth + 1) quoted rest
    else if c = ')' && !quoted then
      (depth - 1 == 0 && !rest.isEmpty) || closesEarly (depth - 1) quoted rest
    else closesEarly depth quoted rest

def inner (s : List Char) : List Char := (s.drop 1).take (s.length - 2)

def isWrapped (s : List Char) : Bool :=
  s.head? == some '(' && s.getLast? == some ')' && !closesEarly 0 false s

/-- The trimmed expression without its outer pair of parentheses, if it has one. -/
def stripOuterParens (expression : String) : String :=
  let s := trim expression.toList
  String.ofList (if isWrapped s then trim (inner s) else s)

end DefaultValue

end EntityMapping
