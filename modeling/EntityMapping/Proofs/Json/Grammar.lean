import EntityMapping.Proofs.Json.Written

/-! # The grammar of values

Texts that are JSON values, whatever they stand for. Numbers may have fractions and exponents of
any length, and escapes in strings may give any code unit.
-/

namespace EntityMapping.Json

def Digits (text : List Char) : Prop := text ≠ [] ∧ ∀ c ∈ text, c.isDigit = true

def IsHexDigit (c : Char) : Prop :=
  c.isDigit = true ∨ ('a' ≤ c ∧ c ≤ 'f') ∨ ('A' ≤ c ∧ c ≤ 'F')

inductive WholeText : List Char → Prop
  | zero : WholeText ['0']
  | positive {c : Char} {text : List Char} :
      c ≠ '0' → Digits (c :: text) → WholeText (c :: text)

inductive FractionText : List Char → Prop
  | none : FractionText []
  | digits {text : List Char} : Digits text → FractionText ('.' :: text)

inductive ExponentText : List Char → Prop
  | none : ExponentText []
  | digits {mark : Char} {sign text : List Char} :
      mark ∈ ['e', 'E'] → sign ∈ [[], ['+'], ['-']] → Digits text →
      ExponentText (mark :: sign ++ text)

inductive UnsignedText : List Char → Prop
  | mk {whole fraction exponent : List Char} :
      WholeText whole → FractionText fraction → ExponentText exponent →
      UnsignedText (whole ++ fraction ++ exponent)

inductive StringText : List Char → Prop
  | closing : StringText ['"']
  | char {c : Char} {text : List Char} :
      0x20 ≤ c.toNat → c ≠ '"' → c ≠ '\\' → StringText text → StringText (c :: text)
  | letter {c : Char} {text : List Char} :
      c ∈ ['"', '\\', '/', 'b', 'f', 'n', 'r', 't'] → StringText text →
      StringText ('\\' :: c :: text)
  | unit {a b c d : Char} {text : List Char} :
      (∀ x ∈ [a, b, c, d], IsHexDigit x) → StringText text →
      StringText ('\\' :: 'u' :: a :: b :: c :: d :: text)

inductive MemberText (Form : List Char → Prop) : List Char → Prop
  | mk {name before after text : List Char} :
      StringText name → Blanks before → Blanks after → Form text →
      MemberText Form ('"' :: name ++ before ++ ':' :: after ++ text)

inductive ValueText : List Char → Prop
  | null : ValueText ['n', 'u', 'l', 'l']
  | true : ValueText ['t', 'r', 'u', 'e']
  | false : ValueText ['f', 'a', 'l', 's', 'e']
  | unsigned {text : List Char} : UnsignedText text → ValueText text
  | negative {text : List Char} : UnsignedText text → ValueText ('-' :: text)
  | string {text : List Char} : StringText text → ValueText ('"' :: text)
  | array {items : List Unit} {text : List Char} :
      WrittenItems (fun _ => ValueText) ']' Bool.true items text → ValueText ('[' :: text)
  | object {items : List Unit} {text : List Char} :
      WrittenItems (fun _ => MemberText ValueText) '\x7d' Bool.true items text →
      ValueText ('\x7b' :: text)

end EntityMapping.Json
