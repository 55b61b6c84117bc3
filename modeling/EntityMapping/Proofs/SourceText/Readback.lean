import EntityMapping.Proofs.SourceText.ClassBody
import Mathlib.Data.List.Infix

/-! # Plans that can be read back from their files

The using directives of two plans for the same classes differ by one directive at most, before that
of the system library. Such files cannot agree, as the text of the one would be that of the other
with a directive pushed into it.
-/

namespace EntityMapping

namespace SourceText

section Shift

variable {k stop e s t : List Char}

/-- A text does not stay the same when another is put before it, as far as it is followed by a stop
from which that other text and its ends diverge. -/
theorem append_ne_shift (hk : k ≠ []) (hd : ∀ x, x ≠ [] → x <:+ k → Diverge x stop) :
    e ++ (stop ++ s) ≠ k ++ (e ++ (stop ++ t)) := by
  intro h
  induction hn : e.length using Nat.strongRecOn generalizing e with
  | _ n ih =>
    have hp : k <+: e ++ (stop ++ s) := h ▸ List.prefix_append k _
    rcases List.prefix_or_prefix_of_prefix hp (List.prefix_append e _) with ⟨e', rfl⟩ | ⟨x, rfl⟩
    · -- The text begins with the other one, and the same holds of what is left of it.
      have hlt : e'.length < n := by
        have hpos : 0 < k.length := List.length_pos_iff.mpr hk
        rw [← hn, List.length_append]
        omega
      rw [List.append_assoc, List.append_assoc] at h
      exact ih e'.length hlt (List.append_cancel_left h) rfl
    · rw [List.append_assoc] at h
      have h := List.append_cancel_left h
      by_cases hx : x = []
      · subst hx
        simp only [List.append_nil] at hk hd h
        exact hd e hk (List.suffix_refl e) (stop ++ t) s h.symm
      · exact hd x hx (List.suffix_append e x) _ _ h.symm

end Shift

section Directives

variable {p q : MappingPlan} {s t : List Char}

def conversionNamespace : String := "Microsoft.EntityFrameworkCore.Storage.ValueConversion"

theorem mem_requiredNamespaces {plan : MappingPlan} {a : String} :
    a ∈ requiredNamespaces plan ↔
      a ∈ requiredNamespaces { plan with statements := [] } ∨
        a = conversionNamespace ∧ plan.hasRowVersion := by
  have hr : (MappingPlan.hasRowVersion { plan with statements := [] }) = false := rfl
  cases h : plan.hasRowVersion
  · simp [requiredNamespaces, h, hr]
  · simp only [requiredNamespaces, h, hr, conversionNamespace, if_true, List.mem_append,
      List.mem_singleton, Bool.false_eq_true, if_false, List.not_mem_nil, or_false, and_true]
    tauto

theorem SameClasses.requiredNamespaces (hn : SameClasses p q)
    (h : p.hasRowVersion = q.hasRowVersion) : requiredNamespaces p = requiredNamespaces q := by
  rw [SourceText.requiredNamespaces, SourceText.requiredNamespaces, h, hn.entityNamespace,
    hn.mappingNamespace]

theorem ordered_eq_insert (hn : SameClasses p q) (hp : p.hasRowVersion)
    (hq : q.hasRowVersion = false) :
    usingLines p = usingLines q ∨
      ∃ front back,
        (Usings.ofList (requiredNamespaces p)).ordered = front ++ conversionNamespace :: back ∧
        (Usings.ofList (requiredNamespaces q)).ordered = front ++ back ∧ "System" ∈ back := by
  have hnone : SameClasses { p with statements := [] } q :=
    ⟨hn.entityClass, hn.entityNamespace, hn.mappingClass, hn.mappingNamespace⟩
  have hm : ∀ b, b ∈ (Usings.ofList (requiredNamespaces p)).namespaces ↔
      b = conversionNamespace ∨ b ∈ (Usings.ofList (requiredNamespaces q)).namespaces := by
    intro b
    have hne : conversionNamespace ≠ "" := by decide
    rw [Usings.mem_ofList, Usings.mem_ofList, mem_requiredNamespaces,
      hnone.requiredNamespaces hq.symm]
    constructor
    · rintro ⟨hb, hm | ⟨rfl, -⟩⟩
      · exact .inr ⟨hb, hm⟩
      · exact .inl rfl
    · rintro (rfl | ⟨hb, hm⟩)
      · exact ⟨hne, .inr ⟨rfl, hp⟩⟩
      · exact ⟨hb, .inl hm⟩
  rcases Usings.namespaces_eq_insert hm with he | ⟨front, back, hwith, hwithout⟩
  · left
    rw [usingLines_eq, usingLines_eq, Usings.ordered, Usings.ordered, he]
  · right
    have hc : Usings.isSystem conversionNamespace = false := by decide
    have hs : Usings.isSystem "System" = true := by decide
    have hsystem : "System" ∈ front ++ back := by
      rw [← hwithout, ← Usings.mem_ordered]
      exact system_mem_ordered q
    refine ⟨front.filter fun name => !Usings.isSystem name,
      (back.filter fun name => !Usings.isSystem name) ++ (front ++ back).filter Usings.isSystem,
      ?_, ?_, ?_⟩
    · simp [Usings.ordered, hwith, hc]
    · simp [Usings.ordered, hwithout]
    · exact List.mem_append_right _ (List.mem_filter.mpr ⟨hsystem, hs⟩)

theorem chars_directiveLines_conversion :
    chars (Usings.directiveLines conversionNamespace) =
      ("using " ++ conversionNamespace ++ ";\n").toList := by
  decide +kernel

theorem chars_directiveLines_system :
    chars (Usings.directiveLines "System") = "using System;\n".toList := by
  decide +kernel

theorem conversion_diverges : ∀ x ∈ ("using " ++ conversionNamespace ++ ";\n").toList.tails,
    x ≠ [] → Diverge x "using System;\n".toList := by
  decide +kernel

theorem usingLines_inj (hn : SameClasses p q)
    (h : chars (usingLines p) ++ s = chars (usingLines q) ++ t) : s = t := by
  -- The plans may differ in the directive of a row version only, and neither can then be the other.
  have hshift : ∀ {p q : MappingPlan} {s t : List Char}, SameClasses p q → p.hasRowVersion →
      q.hasRowVersion = false → chars (usingLines p) ++ s = chars (usingLines q) ++ t → s = t := by
    intro p q s t hn hp hq h
    rcases ordered_eq_insert hn hp hq with he | ⟨front, back, hwith, hwithout, hsystem⟩
    · rw [he] at h
      exact List.append_cancel_left h
    · obtain ⟨before, after, rfl⟩ := List.append_of_mem hsystem
      rw [usingLines_eq, usingLines_eq, hwith, hwithout] at h
      simp only [List.flatMap_append, List.flatMap_cons, chars_append, List.append_assoc,
        chars_directiveLines_conversion, chars_directiveLines_system] at h
      have hd : ∀ x, x ≠ [] → x <:+ ("using " ++ conversionNamespace ++ ";\n").toList →
          Diverge x "using System;\n".toList :=
        fun x hx hs => conversion_diverges x ((List.mem_tails _ _).mpr hs) hx
      exact (append_ne_shift (by decide) hd (List.append_cancel_left h).symm).elim
  cases hp : p.hasRowVersion <;> cases hq : q.hasRowVersion
  case false.false | true.true =>
    rw [usingLines, hn.requiredNamespaces (hp.trans hq.symm), ← usingLines] at h
    exact List.append_cancel_left h
  case true.false => exact hshift hn hp hq h
  case false.true => exact (hshift hn.symm hq hp h.symm).symm

end Directives

section Files

variable {style : Style} {p q : MappingPlan}

theorem render_inj (hn : SameClasses p q) (hp : ∀ name ∈ p.identifiers, Spelled name)
    (hq : ∀ name ∈ q.identifiers, Spelled name) (h : render style p = render style q) :
    p.statements = q.statements ∧ p.constants = q.constants := by
  have h : chars (fileLines style p) = chars (fileLines style q) := by
    rw [← toList_renderLines, ← toList_renderLines]
    exact congrArg String.toList h
  have hclass : ∃ n s t,
      charsAt n (classLines style p) ++ s = charsAt n (classLines style q) ++ t := by
    unfold fileLines at h
    cases hs : style.singleFile
    case true =>
      simp only [hs, if_true, chars_eq_charsAt] at h
      exact ⟨0, [], [], by rw [h]⟩
    case false =>
      simp only [hs, Bool.false_eq_true, if_false, chars_append] at h
      have h := usingLines_inj hn h
      simp only [chars_eq_charsAt, charsAt_blankLine, List.cons.injEq, true_and] at h
      unfold withinNamespace at h
      rw [hn.mappingNamespace] at h
      split at h
      · exact ⟨0, [], [], by rw [h]⟩
      · have hne : "namespace " ++ q.mappingNamespace ≠ "" := by simp
        rw [charsAt_block hne, charsAt_block hne] at h
        exact ⟨1, _, _, List.append_cancel_left h⟩
  obtain ⟨n, s, t, h⟩ := hclass
  obtain ⟨hstatements, hconstants, -⟩ := classLines_inj hn hp hq h
  exact ⟨hstatements, hconstants⟩

/-- Plans for the same classes are written the same way only if they have the same statements and
constants, as long as their identifiers have nothing but characters of identifiers in them. -/
theorem render_eq_iff (hn : SameClasses p q) (hp : ∀ name ∈ p.identifiers, Spelled name)
    (hq : ∀ name ∈ q.identifiers, Spelled name) :
    render style p = render style q ↔ p.statements = q.statements ∧ p.constants = q.constants := by
  refine ⟨render_inj hn hp hq, ?_⟩
  rintro ⟨hstatements, hconstants⟩
  obtain ⟨hc, hcn, hm, hmn⟩ := hn
  cases p
  cases q
  simp_all

end Files

end SourceText

namespace Sample

def schemaPlan : MappingPlan :=
  { shopOrdersPlan with statements := [.table "Orders" (some "dbo")] }

def quotedPlan : MappingPlan :=
  { shopOrdersPlan with statements := [.table "Orders\", \"dbo" none] }

end Sample

namespace SourceText

open Sample in
theorem render_schemaPlan_ne :
    SameClasses schemaPlan quotedPlan ∧ (∀ name ∈ schemaPlan.identifiers, Spelled name) ∧
      (∀ name ∈ quotedPlan.identifiers, Spelled name) ∧ render {} schemaPlan ≠ render {} quotedPlan := by
  have hn : SameClasses schemaPlan quotedPlan := ⟨rfl, rfl, rfl, rfl⟩
  have hascii : ∀ plan ∈ [schemaPlan, quotedPlan],
      ∀ name ∈ plan.identifiers, name.toList.all asciiRanges.covers := by decide
  have hschema : ∀ name ∈ schemaPlan.identifiers, Spelled name :=
    fun name hm => spelled_of_ascii (hascii schemaPlan (by simp) name hm)
  have hquoted : ∀ name ∈ quotedPlan.identifiers, Spelled name :=
    fun name hm => spelled_of_ascii (hascii quotedPlan (by simp) name hm)
  have hne : schemaPlan.statements ≠ quotedPlan.statements := by decide
  refine ⟨hn, hschema, hquoted, fun h => hne ?_⟩
  exact ((render_eq_iff hn hschema hquoted).mp h).1

end SourceText

end EntityMapping
