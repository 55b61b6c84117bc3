import EntityMapping.Proofs.Naming.Joining
import EntityMapping.Proofs.Naming.Spelling
import EntityMapping.Proofs.Naming.Suffix

/-! # Identifiers that are settled

Making a name safe leaves exactly those names as they are that are spelled as identifiers already.
In the suffix mode every identifier is settled: it is given back for itself. One with an underscore
keeps its form, and one without is a capitalised word.
-/

namespace EntityMapping.Naming

open Unicode Inflection Outcome

/-- Letters, numbers and underscores, and no ASCII digit in front. -/
structure WellSpelled (identifier : String) : Prop where
  nonempty : identifier ≠ ""
  parts : ∀ c ∈ identifier.toList, isAlphanumeric c = true ∨ c = '_'
  front : ∀ c ∈ identifier.toList.head?, c.isDigit = false

theorem isAlphanumeric_safeChar_or (c : Char) :
    isAlphanumeric (safeChar c) = true ∨ safeChar c = '_' := by
  cases hc : isAlphanumeric c with
  | true => exact .inl (by rw [isAlphanumeric_safeChar, hc])
  | false => exact .inr (safeChar_of_not_alphanumeric hc)

theorem led_eq_cons (s : List Char) : ∃ c rest, led s = c :: rest ∧ c.isDigit = false := by
  cases s with
  | nil => exact ⟨separator, [], rfl, rfl⟩
  | cons c rest =>
    cases hd : c.isDigit with
    | true => exact ⟨separator, c :: rest, by simp [led, needsLead, hd], rfl⟩
    | false => exact ⟨c, rest, by simp [led, needsLead, hd], hd⟩

theorem wellSpelled_safeName (name : String) : WellSpelled (safeName name) := by
  obtain ⟨c, rest, hl, hd⟩ := led_eq_cons name.toList
  have hs : (safeName name).toList = (c :: rest).map safeChar := by
    rw [safeName_eq_map_led, String.toList_ofList, hl]
  refine ⟨?_, ?_, ?_⟩
  · rw [ne_eq, ← String.toList_eq_nil_iff, hs]
    exact List.cons_ne_nil _ _
  · rw [hs, List.forall_mem_map]
    exact fun a _ => isAlphanumeric_safeChar_or a
  · rw [hs]
    rintro _ ⟨⟩
    rw [isDigit_safeChar, hd]

/-! ## Making names safe -/

theorem safeChar_separator : safeChar separator = separator :=
  safeChar_of_not_alphanumeric isAlphanumeric_separator

theorem map_safeChar_eq_self {s : List Char}
    (h : ∀ c ∈ s, isAlphanumeric c = true ∨ c = separator) : s.map safeChar = s := by
  rw [List.map_congr_left (g := id), List.map_id]
  intro c hc
  rcases h c hc with ha | rfl
  · exact safeChar_of_alphanumeric ha
  · exact safeChar_separator

theorem WellSpelled.not_needsLead {identifier : String} (h : WellSpelled identifier) :
    needsLead identifier.toList = false := by
  obtain ⟨c, rest, hs⟩ :=
    List.exists_cons_of_ne_nil (String.toList_eq_nil_iff.not.mpr h.nonempty)
  rw [hs]
  apply h.front
  rw [hs, List.head?_cons, Option.mem_some]

theorem safeName_eq_self_iff {name : String} : safeName name = name ↔ WellSpelled name := by
  constructor
  · intro h
    rw [← h]
    exact wellSpelled_safeName name
  · intro h
    rw [safeName_eq_map_led, led, h.not_needsLead, if_neg Bool.false_ne_true,
      map_safeChar_eq_self h.parts, String.ofList_toList]

theorem separator_mem_safeName {name : String} (h : separator ∈ name.toList) :
    separator ∈ (safeName name).toList := by
  rw [safeName_eq_map_led, String.toList_ofList, List.mem_map]
  refine ⟨separator, ?_, safeChar_separator⟩
  unfold led
  split
  · exact List.mem_cons_self
  · exact h

theorem safeName_eq_self_of_not_mem {name : String} (h : separator ∉ (safeName name).toList) :
    safeName name = name := by
  have hw := wellSpelled_safeName name
  refine ((safeName_eq_iff_of_alphanumeric hw.not_needsLead fun c hc => ?_).mp rfl).symm
  rcases hw.parts c hc with ha | rfl
  · exact ha
  · exact (h hc).elim

/-! ## The suffix mode -/

theorem preserveOrPascalize_of_mem {name : String} (h : separator ∈ name.toList) :
    preserveOrPascalize name = safeName name := by
  simp [preserveOrPascalize, h]

theorem preserveOrPascalize_of_not_mem {name : String} (h : separator ∉ name.toList) :
    preserveOrPascalize name = safeName (pascalize name) := by
  simp [preserveOrPascalize, h]

theorem wellSpelled_preserveOrPascalize (name : String) :
    WellSpelled (preserveOrPascalize name) := by
  unfold preserveOrPascalize
  split <;> exact wellSpelled_safeName _

theorem preserveOrPascalize_settled (name : String) :
    preserveOrPascalize (preserveOrPascalize name) = preserveOrPascalize name := by
  by_cases hs : separator ∈ (preserveOrPascalize name).toList
  · rw [preserveOrPascalize_of_mem hs, safeName_eq_self_iff]
    exact wellSpelled_preserveOrPascalize name
  · have hn : separator ∉ name.toList := by
      intro h
      rw [preserveOrPascalize_of_mem h] at hs
      exact hs (separator_mem_safeName h)
    rw [preserveOrPascalize_of_not_mem hn] at hs ⊢
    have hw := safeName_eq_self_of_not_mem hs
    rw [hw] at hs ⊢
    rw [preserveOrPascalize_of_not_mem hs, pascalize_pascalize, hw]

namespace Policy

theorem property_of_suffixMode {p : Policy} (hm : p.mode = .suffix) (raw : String) :
    p.property raw = preserveOrPascalize raw := by
  simp only [property, identifier, hm]

/-- The suffix mode gives every identifier back for itself, also one that was resolved from a name
with a suffix. Names with an underscore stay as they are exactly if they are identifiers. -/
theorem settled_of_suffixMode (p : Policy) (hm : p.mode = .suffix) (raw suffix : String) :
    p.property (p.property raw) = p.property raw ∧
    (∀ plural, pluralize suffix = .ok plural → ∃ identifier,
      resolveIdentifier raw suffix = .ok identifier ∧ p.property identifier = identifier) ∧
    (separator ∈ raw.toList → (p.property raw = raw ↔ WellSpelled raw)) := by
  simp only [property_of_suffixMode hm]
  refine ⟨preserveOrPascalize_settled raw, fun plural hp => ?_, fun hs => ?_⟩
  · obtain ⟨rest, hr⟩ := exists_stripSuffix hp raw
    exact ⟨preserveOrPascalize rest, by rw [resolveIdentifier, hr]; rfl,
      preserveOrPascalize_settled rest⟩
  · rw [preserveOrPascalize_of_mem hs, safeName_eq_self_iff]

theorem settled_of_suffixMode_orders :
    property ⟨.suffix, "Entity"⟩ "order-date" = "Order_date" ∧
      property ⟨.suffix, "Entity"⟩ "Order_date" = "Order_date" ∧
      pluralize "Entity" = .ok "Entities" ∧
      resolveIdentifier "order lineEntities" "Entity" = .ok "OrderLine" ∧
      property ⟨.suffix, "Entity"⟩ "OrderLine" = "OrderLine" ∧
      separator ∈ "ship_to".toList ∧ WellSpelled "ship_to" ∧
      property ⟨.suffix, "Entity"⟩ "ship_to" = "ship_to" := by
  have hd : property ⟨.suffix, "Entity"⟩ "order-date" = "Order_date" := by decide +kernel
  have hp : pluralize "Entity" = .ok "Entities" := by decide +kernel
  have hl : resolveIdentifier "order lineEntities" "Entity" = .ok "OrderLine" := by decide +kernel
  have hs : separator ∈ "ship_to".toList := by decide
  have hw : WellSpelled "ship_to" := safeName_eq_self_iff.mp (by decide +kernel)
  obtain ⟨hdate, -, -⟩ := settled_of_suffixMode ⟨.suffix, "Entity"⟩ rfl "order-date" "Entity"
  obtain ⟨-, hline, -⟩ :=
    settled_of_suffixMode ⟨.suffix, "Entity"⟩ rfl "order lineEntities" "Entity"
  obtain ⟨-, -, hship⟩ := settled_of_suffixMode ⟨.suffix, "Entity"⟩ rfl "ship_to" "Entity"
  obtain ⟨identifier, hr, hi⟩ := hline "Entities" hp
  cases hl.symm.trans hr
  rw [hd] at hdate
  exact ⟨hd, hdate, hp, hl, hi, hs, hw, (hship hs).mpr hw⟩

end Policy

end EntityMapping.Naming
