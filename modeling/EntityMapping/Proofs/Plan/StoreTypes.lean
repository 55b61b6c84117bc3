import EntityMapping.Proofs.Plan.Topics
import EntityMapping.Proofs.Text.LetterCase

/-! # Store types and their base words

The class of a store type is that of the word which it begins with, in whatever letter case it is
written and whatever follows it. Store types with the same base word lead to the same directives,
apart from the column type, which is spelled as the store type is.
-/

namespace EntityMapping

open Text Unicode

/-- The directive without the spelling of the store type. -/
def Directive.withoutStoreType : Directive → Directive
  | .columnType _ => .columnType ""
  | d => d

namespace StoreTypeClass

/-- The characters in front of which a base word ends. -/
def EndsWord (c : Char) : Prop := c = '(' ∨ isBlank c = true

instance : DecidablePred EndsWord := fun _ => inferInstanceAs (Decidable (_ ∨ _))

variable {c : Char} {word word' tail front back : List Char} {storeType storeType' : String}

/-! ## The base word -/

theorem not_endsWord_iff : ¬ EndsWord c ↔ (!(c == '(' || isBlank c)) = true := by
  simp [EndsWord]

theorem endsWord_toLower_iff : EndsWord c.toLower ↔ EndsWord c := by
  unfold EndsWord
  rw [isBlank_toLower]
  exact or_congr_left (toLower_eq_iff (by decide))

theorem not_endsWord_asciiLower (h : ∀ c ∈ word, ¬ EndsWord c) :
    ∀ c ∈ asciiLower word, ¬ EndsWord c := by
  intro c hc
  obtain ⟨d, hd, rfl⟩ := List.mem_map.mp hc
  rw [endsWord_toLower_iff]
  exact h d hd

theorem not_endsWord_of_asciiLower_eq (hcase : asciiLower word' = asciiLower word)
    (h : ∀ c ∈ word, ¬ EndsWord c) : ∀ c ∈ word', ¬ EndsWord c := by
  intro c hc
  have hl : c.toLower ∈ asciiLower word := hcase ▸ List.mem_map_of_mem hc
  rw [← endsWord_toLower_iff]
  exact not_endsWord_asciiLower h _ hl

theorem baseWord_append (hf : ∀ c ∈ front, isBlank c = true) (hw : word ≠ [])
    (hn : ∀ c ∈ word, ¬ EndsWord c) (ht : ∀ c ∈ tail.head?, EndsWord c) :
    baseWord (front ++ (word ++ tail)) = asciiLower word := by
  have hblank : ∀ c ∈ word, isBlank c = false := by
    intro c hc
    rw [← Bool.not_eq_true]
    exact fun hb => hn c hc (.inr hb)
  have hfree : ∀ c ∈ asciiLower word, (!(c == '(' || isBlank c)) = true := fun c hc =>
    not_endsWord_iff.mp (not_endsWord_asciiLower hn c hc)
  have hstop : (asciiLower (trimEnd tail)).takeWhile (fun c => !(c == '(' || isBlank c)) = [] := by
    cases hr : trimEnd tail with
    | nil => rfl
    | cons c rest =>
      have hc : EndsWord c := ht c (head?_trimEnd (by rw [hr, List.head?_cons]))
      apply List.takeWhile_cons_of_neg
      rw [← not_endsWord_iff, not_not, endsWord_toLower_iff]
      exact hc
  rw [baseWord, trim_word hf hw hblank, asciiLower_append, List.takeWhile_append_of_pos hfree,
    hstop, List.append_nil]

theorem ofStoreType_congr (h : baseWord storeType.toList = baseWord storeType'.toList) :
    ofStoreType storeType = ofStoreType storeType' := by
  rw [ofStoreType, h]
  rfl

end StoreTypeClass

/-! ## The directives -/

namespace Property

variable {p : Property} {storeType storeType' : String}

theorem storeTypeClass_of_storeType (h : storeType ≠ "") :
    storeTypeClass { p with storeType := some storeType } = .ofStoreType storeType := by
  have hs : nonEmpty (some storeType) = some storeType := nonEmpty_eq_some_iff.mpr ⟨rfl, h⟩
  simp only [storeTypeClass, hs]

theorem columnTypeDirective_of_storeType (h : storeType ≠ "") :
    columnTypeDirective { p with storeType := some storeType } =
      if (StoreTypeClass.ofStoreType storeType).needsColumnType || p.isHierarchyId then
        [.columnType storeType]
      else [] := by
  have hs : nonEmpty (some storeType) = some storeType := nonEmpty_eq_some_iff.mpr ⟨rfl, h⟩
  simp only [columnTypeDirective, hs, storeTypeClass_of_storeType h]

theorem directives_of_ofStoreType_eq (h : storeType ≠ "") (h' : storeType' ≠ "")
    (hc : StoreTypeClass.ofStoreType storeType = .ofStoreType storeType') (identifier : String) :
    (directives { p with storeType := some storeType } identifier).map
        Directive.withoutStoreType =
      (directives { p with storeType := some storeType' } identifier).map
        Directive.withoutStoreType := by
  have htype : (columnTypeDirective { p with storeType := some storeType }).map
        Directive.withoutStoreType =
      (columnTypeDirective { p with storeType := some storeType' }).map
        Directive.withoutStoreType := by
    rw [columnTypeDirective_of_storeType h, columnTypeDirective_of_storeType h', hc]
    split <;> rfl
  have hansi : ansiTextDirectives { p with storeType := some storeType } =
      ansiTextDirectives { p with storeType := some storeType' } := by
    simp only [ansiTextDirectives, storeTypeClass_of_storeType h, storeTypeClass_of_storeType h',
      hc]
  simp only [directives, List.map_append, htype, hansi]
  rfl

end Property

namespace StoreTypeClass

/-- A store type is in the class of its base word, and has the directives of its base word but for
the spelling of the column type: neither the letter case of the word, nor the blanks around the
store type, nor what follows the word after a parenthesis or a blank, makes a difference. -/
theorem ofStoreType_of_baseWord {word word' : String} (front tail back : String)
    (hw : word ≠ "") (hn : ∀ c ∈ word.toList, ¬ EndsWord c)
    (hcase : asciiLower word'.toList = asciiLower word.toList)
    (ht : ∀ c ∈ tail.toList.head?, EndsWord c)
    (hf : ∀ c ∈ front.toList, isBlank c = true) (hb : ∀ c ∈ back.toList, isBlank c = true) :
    ofStoreType (front ++ word' ++ tail ++ back) = ofStoreType word ∧
      ∀ (p : Property) (identifier : String),
        (Property.directives { p with storeType := some (front ++ word' ++ tail ++ back) }
            identifier).map Directive.withoutStoreType =
          (Property.directives { p with storeType := some word } identifier).map
            Directive.withoutStoreType := by
  have hne : word.toList ≠ [] := by simpa using hw
  have hne' : word'.toList ≠ [] := by
    intro h
    rw [h] at hcase
    exact hne (List.map_eq_nil_iff.mp hcase.symm)
  have hrest : ∀ c ∈ (tail.toList ++ back.toList).head?, EndsWord c := by
    intro c hc
    rw [List.head?_append] at hc
    rcases Option.or_eq_some_iff.mp hc with hc | ⟨-, hc⟩
    · exact ht c hc
    · exact .inr (hb c (List.mem_of_head? hc))
  have hplain : baseWord ([] ++ (word.toList ++ [])) = asciiLower word.toList :=
    baseWord_append nofun hne hn nofun
  rw [List.nil_append, List.append_nil] at hplain
  have hspelled : baseWord (front ++ word' ++ tail ++ back).toList = asciiLower word.toList := by
    simp only [String.toList_append, List.append_assoc]
    rw [baseWord_append hf hne' (not_endsWord_of_asciiLower_eq hcase hn) hrest, hcase]
  have hclass : ofStoreType (front ++ word' ++ tail ++ back) = ofStoreType word :=
    ofStoreType_congr (hspelled.trans hplain.symm)
  have hnonempty : front ++ word' ++ tail ++ back ≠ "" := by
    intro h
    have hl := congrArg String.toList h
    simp only [String.toList_append, String.toList_empty, List.append_eq_nil_iff] at hl
    exact hne' hl.1.1.2
  exact ⟨hclass, fun p => Property.directives_of_ofStoreType_eq hnonempty hw hclass⟩

theorem ofStoreType_paddedDecimal :
    (∀ c ∈ "decimal".toList, ¬ EndsWord c) ∧
      asciiLower "DeciMAL".toList = asciiLower "decimal".toList ∧
      (∀ c ∈ "\u2003(18, 2) x".toList.head?, EndsWord c) ∧
      (∀ c ∈ "\t ".toList, isBlank c = true) ∧ (∀ c ∈ "\n".toList, isBlank c = true) ∧
      ofStoreType ("\t " ++ "DeciMAL" ++ "\u2003(18, 2) x" ++ "\n") = .decimal := by
  have hall : ("decimal".toList.all fun c => !decide (EndsWord c)) = true := by decide +kernel
  have hn : ∀ c ∈ "decimal".toList, ¬ EndsWord c := by
    intro c hc
    simpa using List.all_eq_true.mp hall c hc
  have hcase : asciiLower "DeciMAL".toList = asciiLower "decimal".toList := by decide +kernel
  have hhead : "\u2003(18, 2) x".toList.head? = some '\u2003' := by decide +kernel
  have ht : ∀ c ∈ "\u2003(18, 2) x".toList.head?, EndsWord c := by
    rw [hhead]
    rintro _ ⟨⟩
    exact .inr (by decide)
  have hf : ∀ c ∈ "\t ".toList, isBlank c = true := List.all_eq_true.mp (by decide +kernel)
  have hb : ∀ c ∈ "\n".toList, isBlank c = true := List.all_eq_true.mp (by decide +kernel)
  obtain ⟨hclass, -⟩ := ofStoreType_of_baseWord "\t " "\u2003(18, 2) x" "\n" (by decide) hn hcase
    ht hf hb
  have hdecimal : ofStoreType "decimal" = .decimal := by decide +kernel
  exact ⟨hn, hcase, ht, hf, hb, hclass.trans hdecimal⟩

end StoreTypeClass

end EntityMapping
