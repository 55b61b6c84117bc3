import EntityMapping.Proofs.SourceText.Layout
import EntityMapping.Proofs.SourceText.Legible
import EntityMapping.SourceText.MappingClass
import Mathlib.Data.List.Basic

/-! # Chained calls

The settings of properties and indexes are calls of one form: a method and at most one argument,
which shows by its first character what it is. A chain of such calls is legible.
-/

namespace EntityMapping

namespace SourceText

open Decimal (IsNumeric exists_intRepr_eq_cons)

inductive Argument where
  | none
  | off
  | converter
  | text (value : String)
  | number (value : Int32)

structure Call where
  method : String
  argument : Argument

namespace Argument

/-- The argument that turns a setting off, which is on without one. -/
def flag (value : Bool) : Argument := if value then .none else .off

@[simp] theorem flag_inj {v w : Bool} : flag v = flag w ↔ v = w := by
  cases v <;> cases w <;> simp [flag]

def render : Argument → String
  | none => ""
  | off => "false"
  | converter => "new NumberToBytesConverter<ulong>()"
  | text value => literal value
  | number value => value.toInt.repr

end Argument

namespace Call

def render (c : Call) : String := "." ++ c.method ++ "(" ++ c.argument.render ++ ")"

end Call

section Arguments

theorem legible_argument :
    Legible (fun _ => True) fun a : Argument => a.render.toList ++ [')'] := by
  intro a b s t _ _ h
  have hn : ∀ value : Int32, ∃ c s, value.toInt.repr.toList = c :: s ∧ IsNumeric c :=
    fun value => exists_intRepr_eq_cons _
  cases a <;> cases b <;> simp only [Argument.render] at h
  case none.none | off.off | converter.converter =>
    exact ⟨rfl, List.append_cancel_left h⟩
  case text.text value value' =>
    simp only [List.append_assoc] at h
    obtain ⟨rfl, ht⟩ := legible_literal trivial trivial h
    exact ⟨rfl, List.append_cancel_left ht⟩
  case number.number value value' =>
    obtain ⟨rfl, ht⟩ := legible_number trivial trivial h
    exact ⟨rfl, ht⟩
  case none.number value | off.number value | converter.number value | text.number _ value =>
    obtain ⟨c, s, he, hc⟩ := hn value
    rw [he] at h
    simp [toList_literal] at h
    simp [IsNumeric, ← h.1] at hc
  case number.none value | number.off value | number.converter value | number.text value _ =>
    obtain ⟨c, s, he, hc⟩ := hn value
    rw [he] at h
    simp [toList_literal] at h
    simp [IsNumeric, h.1] at hc
  all_goals simp [toList_literal] at h

theorem Call.toList_render (c : Call) : c.render.toList =
    '.' :: (c.method.toList ++ '(' :: (c.argument.render.toList ++ [')'])) := by
  simp [Call.render]

theorem legible_call : Legible (fun c : Call => '(' ∉ c.method.toList) fun c => c.render.toList := by
  rintro ⟨m, a⟩ ⟨m', a'⟩ s t hm hm' h
  simp only [Call.toList_render, List.cons_append, List.append_assoc, List.nil_append,
    List.cons.injEq, true_and] at h
  have hp : ¬ '(' ≠ '(' := by simp
  obtain ⟨hname, -, ha⟩ := append_cons_inj (p := (· ≠ '(')) (fun c hc he => hm (he ▸ hc))
    (fun c hc he => hm' (he ▸ hc)) hp hp h
  obtain rfl : m = m' := String.toList_inj.mp hname
  obtain ⟨rfl, ht⟩ := legible_argument.before trivial trivial ha
  exact ⟨rfl, ht⟩

end Arguments

/-! ## Settings of properties and indexes -/

section Settings

variable {d d' : Directive} {i i' : IndexBinding}

def directiveSetting : Directive → Call
  | .rowVersion => ⟨"IsRowVersion", .none⟩
  | .required value => ⟨"IsRequired", .flag value⟩
  | .numberToBytesConversion => ⟨"HasConversion", .converter⟩
  | .columnType storeType => ⟨"HasColumnType", .text storeType⟩
  | .columnName name => ⟨"HasColumnName", .text name⟩
  | .unicode value => ⟨"IsUnicode", .flag value⟩
  | .maxLength length => ⟨"HasMaxLength", .number length⟩
  | .defaultValueSql sql => ⟨"HasDefaultValueSql", .text sql⟩
  | .computedColumnSql sql => ⟨"HasComputedColumnSql", .text sql⟩
  | .valueGeneratedOnAdd => ⟨"ValueGeneratedOnAdd", .none⟩
  | .valueGeneratedOnAddOrUpdate => ⟨"ValueGeneratedOnAddOrUpdate", .none⟩
  | .valueGeneratedOnUpdate => ⟨"ValueGeneratedOnUpdate", .none⟩

theorem render_directiveSetting (d : Directive) : (directiveSetting d).render = directiveCall d := by
  cases d with
  | required value | unicode value => cases value <;> decide
  | columnType | columnName | maxLength | defaultValueSql | computedColumnSql =>
    unfold directiveCall
    simp [directiveSetting, Call.render, Argument.render]
  | _ => decide

theorem directiveSetting_injective (h : directiveSetting d = directiveSetting d') : d = d' := by
  cases d <;> cases d' <;> simp_all [directiveSetting]

theorem method_directiveSetting (d : Directive) : '(' ∉ (directiveSetting d).method.toList := by
  cases d <;> simp [directiveSetting]

theorem legible_directiveCall :
    Legible (fun _ => True) fun d : Directive => (directiveCall d).toList := by
  intro d d' s t _ _ h
  simp only [← render_directiveSetting] at h
  obtain ⟨hd, ht⟩ := legible_call (method_directiveSetting d) (method_directiveSetting d') h
  exact ⟨directiveSetting_injective hd, ht⟩

def indexSettings (i : IndexBinding) : List Call :=
  (i.name.toList.map fun name => ⟨"HasDatabaseName", .text name⟩) ++
  (i.filter.toList.map fun filter => ⟨"HasFilter", .text filter⟩) ++
  (if i.unique then [⟨"IsUnique", .none⟩] else [])

theorem render_indexSettings (i : IndexBinding) :
    (indexSettings i).map Call.render = indexCalls i := by
  obtain ⟨columns, name, filter, unique⟩ := i
  cases name <;> cases filter <;> cases unique <;>
    simp [indexSettings, indexCalls, Call.render, Argument.render]

theorem indexSettings_injective (hc : i.columns = i'.columns)
    (h : indexSettings i = indexSettings i') : i = i' := by
  obtain ⟨columns, name, filter, unique⟩ := i
  obtain ⟨columns', name', filter', unique'⟩ := i'
  cases name <;> cases filter <;> cases unique <;> cases name' <;> cases filter' <;>
    cases unique' <;> simp_all [indexSettings]

theorem method_indexSettings (i : IndexBinding) :
    ∀ c ∈ indexSettings i, '(' ∉ c.method.toList := by
  obtain ⟨columns, name, filter, unique⟩ := i
  cases name <;> cases filter <;> cases unique <;> simp [indexSettings]

end Settings

/-! ## Chains -/

section Chains

variable {α : Type} {P : α → Prop} {f : α → String} {n : Nat} {head call : String}
  {calls : List String} {ls : List Line}

def chained (n : Nat) (calls : List String) : List Char :=
  calls.flatMap fun call => '\n' :: (margin n ++ call.toList)

@[simp] theorem chained_nil : chained n [] = [] := rfl

@[simp] theorem chained_cons :
    chained n (call :: calls) = '\n' :: (margin n ++ (call.toList ++ chained n calls)) := by
  simp [chained]

theorem charsAt_callLines (h : ∀ c ∈ call :: calls, c ≠ "") :
    charsAt n (callLines (call :: calls)) =
      margin n ++ (call.toList ++ (chained n calls ++ [';', '\n'])) := by
  induction calls generalizing call with
  | nil =>
    have hc : call ++ ";" ≠ "" := by simp
    rw [callLines, charsAt_line hc]
    simp
  | cons next calls ih =>
    obtain ⟨hc, hcs⟩ := List.forall_mem_cons.mp h
    rw [callLines, charsAt_line hc, ih hcs]
    · simp
    · exact List.cons_ne_nil _ _

theorem charsAt_chain (hh : head ≠ "") (h : ∀ call ∈ calls, call ≠ "") :
    charsAt n (chain head calls) =
      margin n ++ (head.toList ++ (chained (n + 1) calls ++ [';', '\n'])) := by
  cases calls with
  | nil =>
    have hs : head ++ ";" ≠ "" := by simp
    rw [chain, charsAt_line hs]
    simp
  | cons call calls =>
    rw [chain, charsAt_line hh, charsAt_indent, charsAt_callLines h]
    · simp
    · exact List.cons_ne_nil _ _

theorem legible_chained (hf : Legible P fun a => (f a).toList) :
    Legible (fun as : List α => ∀ a ∈ as, P a)
      fun as => chained n (as.map f) ++ [';', '\n'] := by
  have hw : Legible P fun a => '\n' :: (margin n ++ (f a).toList) := by
    intro a b s t ha hb h
    simp only [List.cons_append, List.append_assoc, List.cons.injEq, true_and] at h
    exact hf ha hb (List.append_cancel_left h)
  have hs : ∀ a, P a → Diverge ('\n' :: (margin n ++ (f a).toList)) [';', '\n'] := by
    intro a _ s t h
    simp at h
  simp only [chained, List.flatMap_map]
  exact hw.list hs

end Chains

end SourceText

end EntityMapping
