import EntityMapping.Proofs.SourceText.Usings

/-! # Using directives as a canonical form

The namespaces of a set are listed once each, those of the system library after all others and each
group in increasing order. This leaves one list for each set, so that the written directives do not
show in which order and how often the namespaces were added.
-/

namespace EntityMapping.SourceText.Usings

def InSystem (name : String) : Prop := name = "System" ∨ ∃ rest, name = "System." ++ rest

/-- Every namespace that was added, but for the empty one, is listed once: first those outside of
`System` and then those in it, each group in increasing order of the code points. -/
structure Lists (added listed : List String) : Prop where
  mem_iff : ∀ name, name ∈ listed ↔ name ≠ "" ∧ name ∈ added
  nodup : listed.Nodup
  grouped : ∃ others system, listed = others ++ system ∧
    (∀ name ∈ others, ¬ InSystem name) ∧ (∀ name ∈ system, InSystem name) ∧
    others.Pairwise (· < ·) ∧ system.Pairwise (· < ·)

variable {name : String} {added added' listed listed' : List String}

theorem isSystem_iff : isSystem name = true ↔ InSystem name := by
  rw [isSystem, Bool.or_eq_true, beq_iff_eq, Option.isSome_iff_exists]
  refine or_congr_right ?_
  simp only [Text.dropOpening?_eq_some_iff]
  constructor
  · rintro ⟨rest, h⟩
    refine ⟨String.ofList rest, String.toList_injective ?_⟩
    simp [h]
  · rintro ⟨rest, rfl⟩
    exact ⟨rest.toList, String.toList_append⟩

theorem lists_ordered (added : List String) : Lists added (ofList added).ordered where
  mem_iff name := by rw [mem_ordered, mem_ofList]
  nodup := by
    have hn : (ofList added).namespaces.Nodup := (pairwise_ofList added).nodup
    refine (hn.filter _).append (hn.filter _) ?_
    intro name ho hs
    have hother := (List.mem_filter.mp ho).2
    rw [(List.mem_filter.mp hs).2] at hother
    cases hother
  grouped := by
    refine ⟨_, _, rfl, ?_, ?_, (pairwise_ofList added).filter _, (pairwise_ofList added).filter _⟩
    · intro name h
      rw [← isSystem_iff]
      simpa using (List.mem_filter.mp h).2
    · intro name h
      exact isSystem_iff.mp (List.mem_filter.mp h).2

def Precedes (a b : String) : Prop :=
  ¬ InSystem a ∧ InSystem b ∨ (InSystem a ↔ InSystem b) ∧ a < b

instance : Std.Irrefl Precedes where
  irrefl a := by
    rintro (⟨hn, hs⟩ | ⟨-, h⟩)
    · exact hn hs
    · exact lt_irrefl a h

instance : Std.Antisymm Precedes where
  antisymm a b := by
    rintro (⟨hn, hs⟩ | ⟨hi, h⟩) (⟨hn', hs'⟩ | ⟨hi', h'⟩)
    · exact (hn' hs).elim
    · exact (hn (hi'.mp hs)).elim
    · exact (hn' (hi.mp hs')).elim
    · exact (lt_asymm h h').elim

theorem Lists.pairwise (h : Lists added listed) : listed.Pairwise Precedes := by
  obtain ⟨others, system, rfl, ho, hs, hothers, hsystem⟩ := h.grouped
  rw [List.pairwise_append]
  refine ⟨hothers.imp_of_mem ?_, hsystem.imp_of_mem ?_, fun a ha b hb => .inl ⟨ho a ha, hs b hb⟩⟩
  · intro a b ha hb hlt
    exact .inr ⟨iff_of_false (ho a ha) (ho b hb), hlt⟩
  · intro a b ha hb hlt
    exact .inr ⟨iff_of_true (hs a ha) (hs b hb), hlt⟩

theorem Lists.eq_of_mem_iff (h : Lists added listed) (h' : Lists added' listed')
    (hm : ∀ name, name ≠ "" → (name ∈ added ↔ name ∈ added')) : listed = listed' := by
  apply h.pairwise.eq_of_mem_iff h'.pairwise
  intro name
  rw [h.mem_iff, h'.mem_iff]
  exact and_congr_right (hm name)

/-- The text has a directive for each namespace of the one list that there is for what was added,
and another order of adding, or adding a namespace again, gives the same text. -/
theorem render_canonical (added : List String) :
    (∃ listed, Lists added listed ∧
      (ofList added).render = "\n".intercalate (listed.map fun name => "using " ++ name ++ ";")) ∧
      ∀ added', (∀ name, name ≠ "" → (name ∈ added' ↔ name ∈ added)) →
        (ofList added').render = (ofList added).render := by
  refine ⟨⟨_, lists_ordered added, rfl⟩, fun added' hm => ?_⟩
  rw [render, render, (lists_ordered added').eq_of_mem_iff (lists_ordered added) hm]

theorem render_systematic :
    (∀ name, name ≠ "" → (name ∈ ["System.IO", "System", "Systematic", "System", "A"] ↔
        name ∈ ["A", "", "Systematic", "System", "System.IO"])) ∧
      (ofList ["System.IO", "System", "Systematic", "System", "A"]).render =
        "using A;\nusing Systematic;\nusing System;\nusing System.IO;" := by
  have hm : ∀ name, name ≠ "" → (name ∈ ["System.IO", "System", "Systematic", "System", "A"] ↔
      name ∈ ["A", "", "Systematic", "System", "System.IO"]) := by
    intro name hn
    simp only [List.mem_cons, List.not_mem_nil, hn, false_or, or_false]
    tauto
  refine ⟨hm, ((render_canonical ["A", "", "Systematic", "System", "System.IO"]).2 _ hm).trans ?_⟩
  decide +kernel

end EntityMapping.SourceText.Usings
