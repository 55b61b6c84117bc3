import EntityMapping.Inflection.Rules
import EntityMapping.Unicode.Basic
import EntityMapping.Unicode.CaseMapping

/-! # Plural and singular

A word is looked up among the irregular ones, then among those that are the same in both numbers,
and at last the most special rule for its ending applies. The new form takes the letter case of
the word: lower, upper or capitalised. A capitalised word takes its new form as it stands, and only
a form that begins within ASCII will do.
-/

namespace EntityMapping.Inflection

open Unicode

/-- A capitalised word met a form that does not begin with an ASCII character. -/
structure CaseFault where
  word : String
  form : String
  deriving DecidableEq, Repr

/-- Whether a form can stand in for a capitalised word. -/
def startsInAscii : List Char → Bool
  | [] => true
  | c :: _ => c.toNat < 0x80

/-- The form in the letter case of the word. -/
def restoreCase (word form : List Char) : Except CaseFault (List Char) :=
  if word = form then pure form
  else if word = lower word then pure (lower form)
  else if word = upper word then pure (upper form)
  else if word.head?.any isUppercase && !form.isEmpty then
    if startsInAscii form then pure form else throw ⟨String.ofList word, String.ofList form⟩
  else pure (lower form)

/-- Write `image` in every place of a replacement that names the part with this digit. -/
def fill (digit : Char) (image : List Char) : List Char → List Char
  | '$' :: c :: rest =>
    if c = digit then image ++ fill digit image rest else '$' :: fill digit image (c :: rest)
  | c :: rest => c :: fill digit image rest
  | [] => []

def fillParts (word : List Char) : List (List Char) → Nat → List Char →
    Except CaseFault (List Char)
  | [], _, text => pure text
  | part :: parts, digit, text => do
    let image ← restoreCase word part
    fillParts word parts (digit + 1) (fill (Nat.digitChar digit) image text)

/-- Remove each `$` together with the character after it, if there is one. -/
def dropMarks : List Char → List Char
  | ['$'] => []
  | '$' :: _ :: rest => dropMarks rest
  | c :: rest => c :: dropMarks rest
  | [] => []

/-- The word with the first match of the rule replaced, if the rule applies. -/
def Rule.apply? (rule : Rule) (word : List Char) : Except CaseFault (Option (List Char)) :=
  match rule.pattern.find? word with
  | none => pure none
  | some o => do
    let form ← restoreCase word rule.replacement.toList
    let text ← fillParts word o.parts 0 form
    pure (some (dropMarks (o.before ++ text ++ o.after)))

def applyFirst (word : List Char) : List Rule → Except CaseFault (List Char)
  | [] => pure word
  | rule :: rules => do
    match ← rule.apply? word with
    | some result => pure result
    | none => applyFirst word rules

/-- The last entry for a key. -/
def lookupLast (key : String) (pairs : List (String × String)) : Option String :=
  pairs.reverse.lookup key

/-- The form of a word in one number: `kept` pairs have forms of that number on the left,
`replaced` pairs have there the forms of the other one. -/
def inflect (replaced kept : List (String × String)) (rules : List Rule) (word : String) :
    Except CaseFault String := do
  let token := String.ofList (lower word.toList)
  if (lookupLast token kept).isSome then
    return String.ofList (← restoreCase word.toList token.toList)
  match lookupLast token replaced with
  | some form => return String.ofList (← restoreCase word.toList form.toList)
  | none =>
    if token.isEmpty || uncountableWords.contains token then
      return word
    return String.ofList (← applyFirst word.toList (rules ++ Rule.unchanged).reverse)

def singularToPlural : List (String × String) := irregularPairs

def pluralToSingular : List (String × String) := irregularPairs.map fun p => (p.2, p.1)

def pluralize (word : String) : Except CaseFault String :=
  inflect singularToPlural pluralToSingular Rule.plural word

def singularize (word : String) : Except CaseFault String :=
  inflect pluralToSingular singularToPlural Rule.singular word

end EntityMapping.Inflection
