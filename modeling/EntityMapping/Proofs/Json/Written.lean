import EntityMapping.Document.Reading
import EntityMapping.Json.Basic
import EntityMapping.Proofs.Decimal.Digits

/-! # Written forms of JSON values

A value has one written form for every choice of the blanks around its marks. The compact form and
the spread form are two of them.
-/

namespace EntityMapping.Json

open Decimal (IsNumeric isNumeric_of_mem_repr exists_intRepr_eq_cons)
open Document (isBlank)

def Blanks (text : List Char) : Prop := ∀ c ∈ text, isBlank c = true

/-- The forms of the items between two brackets up to the closing one, from the opening one on or
from another item on. -/
inductive WrittenItems {α : Type} (Form : α → List Char → Prop) (closing : Char) :
    Bool → List α → List Char → Prop
  | nil {fromStart : Bool} {before : List Char} :
      Blanks before → WrittenItems Form closing fromStart [] (before ++ [closing])
  | first {a : α} {items : List α} {before text rest : List Char} :
      Blanks before → Form a text → WrittenItems Form closing false items rest →
      WrittenItems Form closing true (a :: items) (before ++ text ++ rest)
  | next {a : α} {items : List α} {before after text rest : List Char} :
      Blanks before → Blanks after → Form a text → WrittenItems Form closing false items rest →
      WrittenItems Form closing false (a :: items) (before ++ ',' :: after ++ text ++ rest)

inductive WrittenMember {α : Type} (Form : α → List Char → Prop) : String × α → List Char → Prop
  | mk {name : String} {a : α} {before after text : List Char} :
      Blanks before → Blanks after → Form a text →
      WrittenMember Form (name, a) ((quote name).toList ++ before ++ ':' :: after ++ text)

/-- The forms of a value, from its first character to its last one. -/
inductive Written : Json → List Char → Prop
  | null : Written .null ['n', 'u', 'l', 'l']
  | true : Written (.bool true) ['t', 'r', 'u', 'e']
  | false : Written (.bool false) ['f', 'a', 'l', 's', 'e']
  | int {value : Int} : Written (.int value) value.repr.toList
  | string {value : String} : Written (.string value) (quote value).toList
  | array {elements : List Json} {text : List Char} :
      WrittenItems Written ']' true elements text → Written (.array elements) ('[' :: text)
  | object {members : List (String × Json)} {text : List Char} :
      WrittenItems (WrittenMember Written) '\x7d' true members text →
      Written (.object members) ('\x7b' :: text)

inductive WrittenArray {α : Type} (Form : α → List Char → Prop) (items : List α) :
    List Char → Prop
  | mk {text : List Char} :
      WrittenItems Form ']' true items text → WrittenArray Form items ('[' :: text)

variable {v : Json} {text : List Char}
variable {α : Type} {Form : α → List Char → Prop} {closing : Char} {items : List α}

/-! ## Blanks -/

@[simp] theorem blanks_nil : Blanks [] := by simp [Blanks]

@[simp] theorem blanks_cons_iff {c : Char} :
    Blanks (c :: text) ↔ isBlank c = true ∧ Blanks text := by simp [Blanks]

theorem blanks_blank : Blanks [' '] := by simp [Blanks, isBlank]

theorem blanks_newline (level : Nat) : Blanks (newline level).toList := by
  intro c hc
  simp only [newline, String.toList_ofList, List.mem_cons, List.mem_replicate] at hc
  rcases hc with rfl | ⟨-, rfl⟩ <;> rfl

/-! ## First characters -/

/-- A character that is neither a blank nor a mark after a value. -/
def Begins (c : Char) : Prop := isBlank c = false ∧ c ≠ ',' ∧ c ≠ ']'

theorem toList_quote (s : String) :
    (quote s).toList = '"' :: (s.toList.flatMap escapeChar ++ ['"']) := by
  rw [quote, String.toList_ofList, List.cons_append]

theorem begins_of_isNumeric {c : Char} (h : IsNumeric c) : Begins c := by
  refine ⟨?_, ?_, ?_⟩
  · cases hb : isBlank c with
    | false => rfl
    | true =>
      simp only [isBlank, Bool.or_eq_true, beq_iff_eq] at hb
      rcases hb with ((rfl | rfl) | rfl) | rfl <;> simp [IsNumeric] at h
  · rintro rfl
    simp [IsNumeric] at h
  · rintro rfl
    simp [IsNumeric] at h

theorem Written.exists_cons (h : Written v text) : ∃ c rest, text = c :: rest ∧ Begins c := by
  cases h with
  | int =>
    obtain ⟨c, rest, hr, hc⟩ := exists_intRepr_eq_cons _
    exact ⟨c, rest, hr, begins_of_isNumeric hc⟩
  | string => exact ⟨_, _, toList_quote _, by simp [Begins, isBlank]⟩
  | null | true | false | array _ | object _ => exact ⟨_, _, rfl, by simp [Begins, isBlank]⟩

theorem Written.ne_of_ne_null {c : Char} (h : Written v (c :: text)) (hv : v ≠ .null) :
    c ≠ 'n' := by
  generalize hs : c :: text = s at h
  rintro rfl
  cases h with
  | null => exact hv rfl
  | int =>
    have hn : IsNumeric 'n' := isNumeric_of_mem_repr (by rw [← hs]; exact .head _)
    simp [IsNumeric] at hn
  | string => simp [toList_quote] at hs
  | true | false | array _ | object _ => simp at hs

/-- Every form is a text whose first character meets the condition. -/
def Starts (p : Char → Prop) (Form : α → List Char → Prop) : Prop :=
  ∀ ⦃a : α⦄ ⦃text : List Char⦄, Form a text → ∃ c rest, text = c :: rest ∧ p c

theorem starts_written : Starts Begins Written := fun _ _ h => h.exists_cons

theorem starts_writtenMember : Starts (· = '"') (WrittenMember Form) := fun _ _ h => by
  cases h with
  | mk _ _ _ => exact ⟨_, _, by rw [toList_quote]; rfl, rfl⟩

/-! ## Items -/

theorem WrittenItems.length_le {p : Char → Prop} {fromStart : Bool} (hf : Starts p Form)
    (h : WrittenItems Form closing fromStart items text) : items.length ≤ text.length := by
  induction h with
  | nil _ => exact Nat.zero_le _
  | first _ ha _ ih | next _ _ ha _ ih =>
    obtain ⟨c, s, rfl, -⟩ := hf ha
    simp only [List.length_append, List.length_cons]
    omega

theorem WrittenItems.map {β : Type} {Form' : β → List Char → Prop} {f : α → β} {fromStart : Bool}
    (hw : WrittenItems Form closing fromStart items text)
    (h : ∀ a ∈ items, ∀ t, t.length ≤ text.length → Form a t → Form' (f a) t) :
    WrittenItems Form' closing fromStart (items.map f) text := by
  induction hw with
  | nil hb => exact .nil hb
  | first hb ha _ ih =>
    exact .first hb (h _ (.head _) _ (by simp; omega) ha)
      (ih fun a hm t hl => h a (.tail _ hm) t (by simp; omega))
  | next hb hc ha _ ih =>
    exact .next hb hc (h _ (.head _) _ (by simp; omega) ha)
      (ih fun a hm t hl => h a (.tail _ hm) t (by simp; omega))

theorem WrittenItems.comma {a : α} (h : WrittenItems Form closing true (a :: items) text) :
    WrittenItems Form closing false (a :: items) (',' :: text) := by
  cases h with
  | first hb ha hs => exact .next blanks_nil hb ha hs

/-! ## The compact form -/

mutual

theorem written_compact : ∀ v : Json, Written v v.compact.toList
  | .null => .null
  | .bool true => .true
  | .bool false => .false
  | .int _ => .int
  | .string _ => .string
  | .array elements => by
    simpa [compact] using Written.array (written_compactElements elements)
  | .object members => by
    simpa [compact] using Written.object (written_compactMembers members)

theorem written_compactElements : ∀ elements : List Json,
    WrittenItems Written ']' true elements ((compactElements elements).toList ++ [']'])
  | [] => .nil blanks_nil
  | [v] => by
    simpa [compactElements] using
      WrittenItems.first blanks_nil (written_compact v) (.nil blanks_nil)
  | v :: w :: rest => by
    simpa [compactElements] using
      WrittenItems.first blanks_nil (written_compact v)
        (written_compactElements (w :: rest)).comma

theorem written_compactMembers : ∀ members : List (String × Json),
    WrittenItems (WrittenMember Written) '\x7d' true members
      ((compactMembers members).toList ++ ['\x7d'])
  | [] => .nil blanks_nil
  | [(name, v)] => by
    have hm : WrittenMember Written (name, v) _ := .mk blanks_nil blanks_nil (written_compact v)
    simpa [compactMembers] using WrittenItems.first blanks_nil hm (.nil blanks_nil)
  | (name, v) :: w :: rest => by
    have hm : WrittenMember Written (name, v) _ := .mk blanks_nil blanks_nil (written_compact v)
    simpa [compactMembers] using
      WrittenItems.first blanks_nil hm (written_compactMembers (w :: rest)).comma

end

/-! ## The spread form -/

mutual

theorem written_prettyAt (level : Nat) : ∀ v : Json, Written v (v.prettyAt level).toList
  | .null => by simpa [prettyAt] using Written.null
  | .bool true => by simpa [prettyAt, boolText] using Written.true
  | .bool false => by simpa [prettyAt, boolText] using Written.false
  | .int _ => by simpa [prettyAt] using Written.int
  | .string _ => by simpa [prettyAt] using Written.string
  | .array [] => by simpa [prettyAt] using Written.array (.nil blanks_nil)
  | .array (v :: rest) => by
    simpa [prettyAt] using
      Written.array (written_prettyElements (level + 1) (v :: rest) (blanks_newline level))
  | .object [] => by simpa [prettyAt] using Written.object (.nil blanks_nil)
  | .object (m :: rest) => by
    simpa [prettyAt] using
      Written.object (written_prettyMembers (level + 1) (m :: rest) (blanks_newline level))

theorem written_prettyElements (level : Nat) :
    ∀ (elements : List Json) {after : List Char}, Blanks after →
      WrittenItems Written ']' true elements
        ((prettyElements level elements).toList ++ after ++ [']'])
  | [], _, ha => by simpa [prettyElements] using WrittenItems.nil ha
  | [v], _, ha => by
    simpa [prettyElements] using
      WrittenItems.first (blanks_newline level) (written_prettyAt level v) (.nil ha)
  | v :: w :: rest, _, ha => by
    simpa [prettyElements] using
      WrittenItems.first (blanks_newline level) (written_prettyAt level v)
        (written_prettyElements level (w :: rest) ha).comma

theorem written_prettyMembers (level : Nat) :
    ∀ (members : List (String × Json)) {after : List Char}, Blanks after →
      WrittenItems (WrittenMember Written) '\x7d' true members
        ((prettyMembers level members).toList ++ after ++ ['\x7d'])
  | [], _, ha => by simpa [prettyMembers] using WrittenItems.nil ha
  | [(name, v)], _, ha => by
    have hm : WrittenMember Written (name, v) _ := .mk blanks_nil blanks_blank (written_prettyAt level v)
    simpa [prettyMembers] using WrittenItems.first (blanks_newline level) hm (.nil ha)
  | (name, v) :: w :: rest, _, ha => by
    have hm : WrittenMember Written (name, v) _ := .mk blanks_nil blanks_blank (written_prettyAt level v)
    simpa [prettyMembers] using
      WrittenItems.first (blanks_newline level) hm
        (written_prettyMembers level (w :: rest) ha).comma

end

theorem written_pretty (v : Json) : Written v v.pretty.toList := written_prettyAt 0 v

end EntityMapping.Json
