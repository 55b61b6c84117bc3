import EntityMapping.Proofs.Naming.Settled

/-! # Pascal case

In the plural mode every name is joined from capitalised words and made safe afterwards. What comes
out has underscores where the joined name has something other than letters and numbers. It is in
Pascal case exactly if it has none of these, and exactly then it is given back for itself.
-/

namespace EntityMapping.Naming

open Unicode Inflection Outcome

/-- No underscore, but for one in front of a digit or of nothing. -/
structure IsPascalCase (identifier : List Char) : Prop where
  inner : separator ∉ identifier.tail
  front : identifier.head? = some separator → needsLead identifier.tail = true

/-- Letters and numbers, but for a first character in place of the underscore that is needed in
front of what comes after it. -/
structure IsPlain (wording : List Char) : Prop where
  inner : ∀ c ∈ wording.tail, isAlphanumeric c = true
  front : ∀ c ∈ wording.head?, isAlphanumeric c = true ∨ needsLead wording.tail = true

variable {s : List Char} {c : Char}

/-! ## Characters -/

theorem alphanumericRanges_disjoint : alphanumericRanges.bits &&& breakRanges.bits = 0 := by
  decide +kernel

theorem not_isSegmentBreak_of_isAlphanumeric (h : isAlphanumeric c = true) :
    isSegmentBreak c = false := by
  rw [← covers_breakRanges, ← Ranges.testBit_bits]
  apply testBit_eq_false_of_disjoint alphanumericRanges_disjoint
  rwa [Ranges.testBit_bits]

theorem upperChar_separator : upperChar separator = [separator] := upperChar_of_lt (by decide)

theorem upperChar_of_isDigit (h : c.isDigit = true) : upperChar c = [c] := by
  apply upperChar_of_lt
  have hu := (Char.isDigit_iff_toNat.mp h).2
  have h9 : '9'.toNat = 0x39 := rfl
  omega

theorem safeChar_eq_separator_iff : safeChar c = separator ↔ isAlphanumeric c = false := by
  constructor
  · intro h
    rw [← isAlphanumeric_safeChar, h, isAlphanumeric_separator]
  · exact safeChar_of_not_alphanumeric

theorem separator_not_mem_map_safeChar_iff :
    separator ∉ s.map safeChar ↔ ∀ c ∈ s, isAlphanumeric c = true := by
  simp only [List.mem_map, safeChar_eq_separator_iff, not_exists, not_and, Bool.not_eq_false]

/-! ## Safe wordings in Pascal case -/

theorem isPascalCase_led_iff : IsPascalCase ((led s).map safeChar) ↔ IsPlain s := by
  cases s with
  | nil =>
    have hp : IsPascalCase ((led []).map safeChar) := ⟨nofun, fun _ => rfl⟩
    exact iff_of_true hp ⟨nofun, nofun⟩
  | cons c rest =>
    have hinner := separator_not_mem_map_safeChar_iff (s := rest)
    cases hd : c.isDigit with
    | true =>
      have hc := isAlphanumeric_of_isDigit hd
      have hl : (led (c :: rest)).map safeChar = separator :: c :: rest.map safeChar := by
        simp [led, needsLead, hd, safeChar_separator, safeChar_of_alphanumeric hc]
      rw [hl]
      constructor
      · rintro ⟨hi, -⟩
        refine ⟨hinner.mp fun hm => hi (.tail _ hm), ?_⟩
        rintro _ ⟨⟩
        exact .inl hc
      · rintro ⟨hi, -⟩
        refine ⟨?_, fun _ => hd⟩
        intro hm
        rcases List.mem_cons.mp hm with he | hm
        · rw [← he, isAlphanumeric_separator] at hc
          cases hc
        · exact hinner.mpr hi hm
    | false =>
      have hl : (led (c :: rest)).map safeChar = safeChar c :: rest.map safeChar := by
        simp [led, needsLead, hd]
      rw [hl]
      constructor
      · rintro ⟨hi, hf⟩
        refine ⟨hinner.mp hi, ?_⟩
        rintro _ ⟨⟩
        cases ha : isAlphanumeric c with
        | true => exact .inl rfl
        | false =>
          have hn := hf (by rw [safeChar_of_not_alphanumeric ha, List.head?_cons])
          rw [List.tail_cons, needsLead_map_safeChar] at hn
          exact .inr hn
      · rintro ⟨hi, hf⟩
        refine ⟨hinner.mpr hi, ?_⟩
        intro hh
        have ha := safeChar_eq_separator_iff.mp (Option.some.inj hh)
        rw [List.tail_cons, needsLead_map_safeChar]
        exact (hf c rfl).resolve_left (by rw [ha]; exact Bool.false_ne_true)

/-! ## Names that are given back -/

/-- A word that joining and making safe give back holds no underscore: what comes after the first
one would begin with an underscore, though its first word begins with a letter or number. -/
theorem separator_not_mem_of_settled (ha : ∀ c ∈ s, isAlphanumeric c = true ∨ c = separator)
    (hh : ∀ d ∈ s.head?, d ≠ separator ∧ upperChar d = [d]) (h : (joined s).map safeChar = s) :
    separator ∉ s := by
  intro hm
  obtain ⟨front, rest, rfl, hfront⟩ := List.eq_append_cons_of_mem hm
  have hletters : ∀ c ∈ front, isAlphanumeric c = true := by
    intro c hc
    refine (ha c (List.mem_append_left _ hc)).resolve_right ?_
    rintro rfl
    exact hfront hc
  have hword : joined front = front := by
    apply joined_eq_self
    · exact fun c hc => not_isSegmentBreak_of_isAlphanumeric (hletters c hc)
    · intro d hd
      refine (hh d ?_).2
      rw [List.head?_append, hd, Option.some_or]
      rfl
  rw [joined_append_cons _ _ isSegmentBreak_separator, hword, List.map_append,
    map_safeChar_eq_self fun c hc => .inl (hletters c hc), List.append_cancel_left_eq] at h
  obtain ⟨d, hd, hsafe⟩ := Option.map_eq_some_iff.mp
    ((List.head?_map).symm.trans (congrArg List.head? h))
  obtain ⟨c, hc, hb, hu⟩ := exists_of_head?_joined hd
  have halpha : isAlphanumeric c = true := by
    refine (ha c (List.mem_append_right _ (.tail _ hc))).resolve_right ?_
    exact ne_separator_of_not_isSegmentBreak hb
  have hd := isAlphanumeric_of_head? halpha hu
  rw [safeChar_eq_separator_iff.mp hsafe] at hd
  cases hd

theorem joined_of_needsLead (ha : ∀ c ∈ s, isAlphanumeric c = true)
    (hl : needsLead s = true) : joined s = s := by
  apply joined_eq_self
  · exact fun c hc => not_isSegmentBreak_of_isAlphanumeric (ha c hc)
  · rintro d hd
    cases s with
    | nil => cases hd
    | cons c rest =>
      cases hd
      exact upperChar_of_isDigit hl

theorem isAlphanumeric_of_head?_joined (ha : ∀ c ∈ s, isAlphanumeric c = true ∨ c = separator)
    {d : Char} (h : (joined s).head? = some d) : isAlphanumeric d = true := by
  obtain ⟨c, hc, hb, hu⟩ := exists_of_head?_joined h
  have hletter := (ha c hc).resolve_right (ne_separator_of_not_isSegmentBreak hb)
  exact isAlphanumeric_of_head? hletter hu

theorem joined_separator_cons (s : List Char) : joined (separator :: s) = joined s :=
  joined_append_cons [] s isSegmentBreak_separator

theorem settled_iff_isPascalCase (ha : ∀ c ∈ s, isAlphanumeric c = true ∨ c = separator)
    (hl : needsLead s = false) (hu : ∀ d ∈ s.head?, upperChar d = [d]) :
    (led (joined s)).map safeChar = s ↔ IsPascalCase s := by
  constructor
  · intro h
    cases hw : needsLead (joined s) with
    | true =>
      -- The word is the underscore in front of what it is joined to, which is settled by itself.
      obtain ⟨u, rfl, hjoined⟩ : ∃ u, s = separator :: u ∧ (joined s).map safeChar = u := by
        refine ⟨_, ?_, rfl⟩
        rw [led, hw, if_pos rfl, List.map_cons, safeChar_separator] at h
        exact h.symm
      rw [joined_separator_cons] at hw hjoined
      have hlead : needsLead u = true := by rw [← hjoined, needsLead_map_safeChar, hw]
      have hn : separator ∉ u := by
        refine separator_not_mem_of_settled (List.forall_mem_cons.mp ha).2 ?_ hjoined
        intro d hd
        cases u with
        | nil => cases hd
        | cons c rest =>
          cases hd
          constructor
          · rintro rfl
            cases hlead
          · exact upperChar_of_isDigit hlead
      exact ⟨hn, fun _ => hlead⟩
    | false =>
      rw [led, hw, if_neg Bool.false_ne_true] at h
      have hn : separator ∉ s := by
        refine separator_not_mem_of_settled ha ?_ h
        intro d hd
        refine ⟨?_, hu d hd⟩
        rintro rfl
        rw [← h, List.head?_map] at hd
        obtain ⟨c, hc, hsafe⟩ := Option.map_eq_some_iff.mp hd
        have hletter := isAlphanumeric_of_head?_joined ha hc
        rw [safeChar_eq_separator_iff.mp hsafe] at hletter
        cases hletter
      exact ⟨fun hm => hn (List.mem_of_mem_tail hm), fun hh => (hn (List.mem_of_head? hh)).elim⟩
  · rintro ⟨hi, hf⟩
    cases s with
    | nil => cases hl
    | cons c rest =>
      have hrest : ∀ d ∈ rest, isAlphanumeric d = true := by
        intro d hd
        refine ((List.forall_mem_cons.mp ha).2 d hd).resolve_right ?_
        rintro rfl
        exact hi hd
      rcases (List.forall_mem_cons.mp ha).1 with hc | rfl
      · have hletters : ∀ d ∈ c :: rest, isAlphanumeric d = true :=
          List.forall_mem_cons.mpr ⟨hc, hrest⟩
        have hword : joined (c :: rest) = c :: rest :=
          joined_eq_self (fun d hd => not_isSegmentBreak_of_isAlphanumeric (hletters d hd)) hu
        rw [hword, led, hl, if_neg Bool.false_ne_true, map_safeChar_eq_self ha]
      · have hlead : needsLead rest = true := hf rfl
        rw [joined_separator_cons, joined_of_needsLead hrest hlead, led, hlead, if_pos rfl,
          map_safeChar_eq_self ha]

namespace Policy

variable {p : Policy} {word identifier : String}

/-- What is known in the plural mode of the identifier that stands for a word. -/
structure PascalCased (p : Policy) (word identifier : String) : Prop where
  pascal_iff : IsPascalCase identifier.toList ↔ IsPlain (pascalize word).toList
  settled_iff : p.property identifier = identifier ↔ IsPascalCase identifier.toList
  of_letters : (∀ c ∈ word.toList, isSegmentBreak c = false →
      ∀ d ∈ c :: upperChar c, isAlphanumeric d = true) → IsPascalCase identifier.toList

theorem property_of_pluralMode (hm : p.mode = .plural) (word : String) :
    p.property word = safeName (pascalize word) := by
  simp only [property, identifier, hm]

theorem toList_property_of_pluralMode (hm : p.mode = .plural) (word : String) :
    (p.property word).toList = (led (joined word.toList)).map safeChar := by
  rw [property_of_pluralMode hm, safeName_eq_map_led, String.toList_ofList, toList_pascalize]

theorem upperChar_of_head?_property (hm : p.mode = .plural) {d : Char}
    (h : (p.property word).toList.head? = some d) : upperChar d = [d] := by
  rw [toList_property_of_pluralMode hm, List.head?_map] at h
  obtain ⟨c, hc, rfl⟩ := Option.map_eq_some_iff.mp h
  cases ha : isAlphanumeric c with
  | false => rw [safeChar_of_not_alphanumeric ha, upperChar_separator]
  | true =>
    rw [safeChar_of_alphanumeric ha]
    unfold led at hc
    split at hc
    · cases hc
      exact upperChar_separator
    · exact upperChar_of_head?_joined hc

theorem pascalCased_property (hm : p.mode = .plural) (word : String) :
    p.PascalCased word (p.property word) := by
  have hpascal : IsPascalCase (p.property word).toList ↔ IsPlain (pascalize word).toList := by
    rw [toList_property_of_pluralMode hm, toList_pascalize, isPascalCase_led_iff]
  refine ⟨hpascal, ?_, fun hletters => hpascal.mpr ?_⟩
  · have hw : WellSpelled (p.property word) := by
      rw [property_of_pluralMode hm]
      exact wellSpelled_safeName _
    rw [← settled_iff_isPascalCase hw.parts hw.not_needsLead
      fun d hd => upperChar_of_head?_property hm hd, ← toList_property_of_pluralMode hm,
      String.toList_inj]
  · have hall : ∀ d ∈ (pascalize word).toList, isAlphanumeric d = true := by
      intro d hd
      rw [toList_pascalize] at hd
      obtain ⟨c, hc, hb, hcd⟩ := exists_of_mem_joined hd
      exact hletters c hc hb d (List.mem_cons.mpr hcd)
    exact ⟨fun c hc => hall c (List.mem_of_mem_tail hc),
      fun c hc => .inl (hall c (List.mem_of_mem_head? hc))⟩

/-- In the plural mode the identifiers of properties, foreign keys and navigations are in Pascal
case exactly if the words behind them are joined to letters and numbers, and exactly then they are
given back for themselves. -/
theorem pascalCased_of_pluralMode (p : Policy) (hm : p.mode = .plural) (raw : String) :
    p.PascalCased raw (p.property raw) ∧
    ∀ plural, pluralize p.suffix = .ok plural → ∃ word, stripSuffix raw p.suffix = .ok word ∧
      (∃ identifier, p.foreignKey raw = .ok identifier ∧ p.PascalCased word identifier) ∧
      ∀ cardinality name, Naming.inflect word cardinality = .ok name →
        ∃ identifier, p.navigation raw cardinality = .ok identifier ∧
          p.PascalCased name identifier := by
  refine ⟨pascalCased_property hm raw, fun plural hp => ?_⟩
  obtain ⟨word, hw⟩ := exists_stripSuffix hp raw
  refine ⟨word, hw, ?_, ?_⟩
  · exact ⟨p.property word, by rw [foreignKey, hw]; rfl, pascalCased_property hm word⟩
  · intro cardinality name hn
    exact ⟨p.property name, by rw [navigation, hw, ok_bind, hn]; rfl, pascalCased_property hm name⟩

theorem pascalCased_addresses :
    pluralize "Entity" = .ok "Entities" ∧
      Naming.inflect "billing_address" .many = .ok "billing_addresses" ∧
      navigation ⟨.plural, "Entity"⟩ "billing_addressEntity" .many = .ok "BillingAddresses" ∧
      IsPascalCase "BillingAddresses".toList ∧
      property ⟨.plural, "Entity"⟩ "BillingAddresses" = "BillingAddresses" := by
  have hp : pluralize "Entity" = .ok "Entities" := by decide +kernel
  have hs : stripSuffix "billing_addressEntity" "Entity" = .ok "billing_address" := by
    decide +kernel
  have hi : Naming.inflect "billing_address" .many = .ok "billing_addresses" := by decide +kernel
  have hn : navigation ⟨.plural, "Entity"⟩ "billing_addressEntity" .many =
      .ok "BillingAddresses" := by
    rw [navigation, hs, ok_bind, hi]
    decide +kernel
  obtain ⟨-, hkeys⟩ := pascalCased_of_pluralMode ⟨.plural, "Entity"⟩ rfl "billing_addressEntity"
  obtain ⟨word, hw, -, hnavigation⟩ := hkeys "Entities" hp
  cases hs.symm.trans hw
  obtain ⟨identifier, hr, h⟩ := hnavigation .many "billing_addresses" hi
  cases hn.symm.trans hr
  have hletters : ("billing_addresses".toList.all fun c =>
      isSegmentBreak c || (c :: upperChar c).all isAlphanumeric) = true := by
    decide +kernel
  have hcase : IsPascalCase "BillingAddresses".toList := by
    apply h.of_letters
    intro c hc hb
    have hall := List.all_eq_true.mp hletters c hc
    rw [hb, Bool.false_or] at hall
    exact List.all_eq_true.mp hall
  exact ⟨hp, hi, hn, hcase, h.settled_iff.mpr hcase⟩

/-- A hyphen shows as an underscore, which the next time counts as a break between words. -/
theorem not_isPascalCase_orderDate :
    make .plural "Entity" = .ok ⟨.plural, "Entity"⟩ ∧
      property ⟨.plural, "Entity"⟩ "order-date" = "Order_date" ∧
      ¬ IsPascalCase "Order_date".toList ∧
      property ⟨.plural, "Entity"⟩ "Order_date" ≠ "Order_date" := by
  have hd : property ⟨.plural, "Entity"⟩ "order-date" = "Order_date" := by decide +kernel
  have ht : property ⟨.plural, "Entity"⟩ "Order_date" = "OrderDate" := by decide +kernel
  refine ⟨by decide +kernel, hd, fun h => absurd h.inner (by decide +kernel), ?_⟩
  rw [ht]
  decide

end Policy

end EntityMapping.Naming
