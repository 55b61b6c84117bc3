import EntityMapping.Proofs.Inflection.Failure
import EntityMapping.Proofs.Naming.Joining
import EntityMapping.Proofs.Naming.Spelling
import EntityMapping.Proofs.Outcome
import EntityMapping.Proofs.Unicode.Categories

/-! # Legal identifiers

Whether the identifiers of a policy are identifiers of C#. They are never keywords, since a keyword
has only small letters and a wording begins with none unless it has an underscore. Their characters
are legal for every wording within ASCII, and else exactly if the letters and numbers of the
wording are.
-/

namespace EntityMapping.Naming

open Unicode Outcome Inflection

/-- The reserved words of C#. -/
def keywords : List String :=
  ["abstract", "as", "base", "bool", "break", "byte", "case", "catch", "char", "checked", "class",
   "const", "continue", "decimal", "default", "delegate", "do", "double", "else", "enum", "event",
   "explicit", "extern", "false", "finally", "fixed", "float", "for", "foreach", "goto", "if",
   "implicit", "in", "int", "interface", "internal", "is", "lock", "long", "namespace", "new",
   "null", "object", "operator", "out", "override", "params", "private", "protected", "public",
   "readonly", "ref", "return", "sbyte", "sealed", "short", "sizeof", "stackalloc", "static",
   "string", "struct", "switch", "this", "throw", "true", "try", "typeof", "uint", "ulong",
   "unchecked", "unsafe", "ushort", "using", "virtual", "void", "volatile", "while"]

inductive IsWord : List Char → Prop
  | mk {c : Char} {rest : List Char} : (c = '_' ∨ isLetter c = true) →
      (∀ d ∈ rest, isLegalPart d = true) → IsWord (c :: rest)

/-- What C# accepts as an identifier. -/
structure IsLegal (identifier : String) : Prop where
  word : IsWord identifier.toList
  not_keyword : identifier ∉ keywords

/-- The letters and numbers of a wording are legal parts, and one in front is a letter or a digit
within ASCII. -/
structure Fits (wording : List Char) : Prop where
  parts : ∀ c ∈ wording, isAlphanumeric c = true → isLegalPart c = true
  front : ∀ c ∈ wording.head?, isAlphanumeric c = true → c.isDigit = true ∨ isLetter c = true

/-! ## Characters -/

theorem isLegalPart_separator : isLegalPart separator = true := by decide +kernel

theorem isLegalPart_of_isLetter {c : Char} (h : isLetter c = true) : isLegalPart c = true := by
  simp [isLegalPart, h]

theorem isLegalPart_safeChar_iff {c : Char} :
    isLegalPart (safeChar c) = true ↔ (isAlphanumeric c = true → isLegalPart c = true) := by
  cases hc : isAlphanumeric c with
  | true => simp [safeChar_of_alphanumeric hc]
  | false => simp [safeChar_of_not_alphanumeric hc, isLegalPart_separator]

theorem begins_safeChar_iff {c : Char} :
    (safeChar c = '_' ∨ isLetter (safeChar c) = true) ↔
      (isAlphanumeric c = true → isLetter c = true) := by
  cases hc : isAlphanumeric c with
  | true =>
    rw [safeChar_of_alphanumeric hc]
    refine ⟨fun h _ => h.resolve_left ?_, fun h => .inr (h rfl)⟩
    rintro rfl
    rw [show '_' = separator from rfl, isAlphanumeric_separator] at hc
    cases hc
  | false => exact ⟨fun _ => nofun, fun _ => .inl (safeChar_of_not_alphanumeric hc)⟩

theorem isWord_cons_iff {c : Char} {rest : List Char} :
    IsWord (c :: rest) ↔ (c = '_' ∨ isLetter c = true) ∧ ∀ d ∈ rest, isLegalPart d = true :=
  ⟨fun h => by cases h with | mk hc hr => exact ⟨hc, hr⟩, fun h => .mk h.1 h.2⟩

theorem isWord_led_iff {wording : List Char} :
    IsWord ((led wording).map safeChar) ↔ Fits wording := by
  have hparts : ∀ s : List Char, (∀ d ∈ s.map safeChar, isLegalPart d = true) ↔
      ∀ c ∈ s, isAlphanumeric c = true → isLegalPart c = true := by
    intro s
    simp only [List.forall_mem_map, isLegalPart_safeChar_iff]
  have hlead : safeChar separator = '_' := safeChar_of_not_alphanumeric isAlphanumeric_separator
  cases wording with
  | nil =>
    have hw : IsWord ((led []).map safeChar) := .mk (.inl hlead) nofun
    exact iff_of_true hw ⟨nofun, nofun⟩
  | cons c rest =>
    cases hd : c.isDigit with
    | true =>
      have hl : led (c :: rest) = separator :: c :: rest := by simp [led, needsLead, hd]
      rw [hl, List.map_cons, isWord_cons_iff, hparts]
      constructor
      · rintro ⟨-, hp⟩
        refine ⟨hp, ?_⟩
        rintro _ ⟨⟩ -
        exact .inl hd
      · intro hf
        exact ⟨.inl hlead, hf.parts⟩
    | false =>
      have hl : led (c :: rest) = c :: rest := by simp [led, needsLead, hd]
      rw [hl, List.map_cons, isWord_cons_iff, hparts, begins_safeChar_iff]
      constructor
      · rintro ⟨hc, hp⟩
        constructor
        · exact List.forall_mem_cons.mpr ⟨fun ha => isLegalPart_of_isLetter (hc ha), hp⟩
        · rintro _ ⟨⟩ ha
          exact .inr (hc ha)
      · intro hf
        constructor
        · intro ha
          exact (hf.front c rfl ha).resolve_left (by simp [hd])
        · exact (List.forall_mem_cons.mp hf.parts).2

/-! ## Keywords -/

theorem not_isSmall_head_pascalize {name : String} {d : Char}
    (h : (pascalize name).toList.head? = some d) : ¬ IsSmall d.toNat := by
  rw [toList_pascalize] at h
  obtain ⟨c, -, -, hd⟩ := exists_of_head?_joined h
  exact (upperCase_upperChar c).not_isSmall_head hd

theorem isSmall_of_mem_keywords :
    ∀ k ∈ keywords, k ≠ "" ∧ ∀ c ∈ k.toList, IsSmall c.toNat := by
  have hall : (keywords.all fun k => k ≠ "" && k.toList.all fun c => IsSmall c.toNat) = true := by
    decide +kernel
  simpa only [List.all_eq_true, Bool.and_eq_true, decide_eq_true_eq] using hall

theorem isAlphanumeric_of_isSmall {c : Char} (h : IsSmall c.toNat) : isAlphanumeric c = true :=
  Ranges.covers_iff.mpr ⟨(0x61, 0x7A), .tail _ (.tail _ (.head _)), h⟩

theorem not_isDigit_of_isSmall {c : Char} (h : IsSmall c.toNat) : c.isDigit = false := by
  rw [Bool.eq_false_iff, ne_eq, Char.isDigit_iff_toNat]
  intro hd
  have hs := h.1
  have h9 : '9'.toNat = 0x39 := rfl
  omega

/-! ## ASCII -/

theorem ascii_alphanumericRanges :
    ∀ r ∈ alphanumericRanges, r.1 < 0x80 → r = (0x30, 0x39) ∨ r = (0x41, 0x5A) ∨ r = (0x61, 0x7A) := by
  decide +kernel

theorem isDigit_or_isLetter_of_ascii {c : Char} (hc : c.toNat < 0x80)
    (ha : isAlphanumeric c = true) : c.isDigit = true ∨ isLetter c = true := by
  obtain ⟨r, hr, hl, hu⟩ := Ranges.covers_iff.mp ha
  rcases ascii_alphanumericRanges r hr (by omega) with rfl | rfl | rfl
  · exact .inl (Char.isDigit_iff_toNat.mpr ⟨hl, hu⟩)
  · exact .inr (Ranges.covers_iff.mpr ⟨(0x41, 0x5A), .head _, hl, hu⟩)
  · exact .inr (Ranges.covers_iff.mpr ⟨(0x61, 0x7A), .tail _ (.head _), hl, hu⟩)

theorem isLegalPart_of_isDigit {c : Char} (h : c.isDigit = true) : isLegalPart c = true := by
  have hc : continuationRanges.covers c = true :=
    Ranges.covers_iff.mpr ⟨(0x30, 0x39), .head _, Char.isDigit_iff_toNat.mp h⟩
  simp [isLegalPart, hc]

theorem fits_of_ascii {wording : List Char} (h : ∀ c ∈ wording, c.toNat < 0x80) :
    Fits wording where
  parts := by
    intro c hc ha
    rcases isDigit_or_isLetter_of_ascii (h c hc) ha with hd | hl
    · exact isLegalPart_of_isDigit hd
    · exact isLegalPart_of_isLetter hl
  front := by
    intro c hc ha
    exact isDigit_or_isLetter_of_ascii (h c (List.mem_of_mem_head? hc)) ha

theorem fits_of_isLetter {wording : List Char} (h : wording.all isLetter = true) :
    Fits wording where
  parts := by
    intro c hc _
    exact isLegalPart_of_isLetter (List.all_eq_true.mp h c hc)
  front := by
    intro c hc _
    exact .inr (List.all_eq_true.mp h c (List.mem_of_mem_head? hc))

theorem ascii_pascalize {name : String} (h : Ascii name) : Ascii (pascalize name) := by
  intro d hd
  rw [toList_pascalize] at hd
  obtain ⟨c, hc, -, rfl | hd⟩ := exists_of_mem_joined hd
  · exact h d hc
  · exact (upperCase_upperChar c).ascii (h c hc) hd

namespace Policy

variable {p : Policy} {name word raw rest identifier : String} {cardinality : Cardinality}

/-- What is known of the identifier that spells a word: it is no keyword, it is legal exactly if
the wording fits, and so it is for every word within ASCII. -/
structure Spells (p : Policy) (word identifier : String) : Prop where
  not_keyword : identifier ∉ keywords
  legal_iff : IsLegal identifier ↔ Fits (p.wording word)
  of_ascii : Ascii word → IsLegal identifier

theorem property_not_mem_keywords : p.property name ∉ keywords := by
  intro hk
  obtain ⟨hne, hs⟩ := isSmall_of_mem_keywords _ hk
  obtain ⟨c, cs, hc⟩ := List.exists_cons_of_ne_nil (String.toList_eq_nil_iff.not.mpr hne)
  have hcs : IsSmall c.toNat := hs c (by rw [hc]; exact List.mem_cons_self)
  have hl : needsLead (p.property name).toList = false := by
    rw [hc]
    exact not_isDigit_of_isSmall hcs
  have hw := (property_eq_iff_of_alphanumeric hl
    fun d hd => isAlphanumeric_of_isSmall (hs d hd)).mp rfl
  unfold wording at hw
  split_ifs at hw with hm
  · have hu := hs separator (hw ▸ hm.2)
    exact absurd hu (by decide)
  · have hd : (pascalize name).toList.head? = some c := by
      rw [hw, hc]
      rfl
    exact not_isSmall_head_pascalize hd hcs

theorem ascii_wording (h : Ascii word) : ∀ c ∈ p.wording word, c.toNat < 0x80 := by
  unfold wording
  split_ifs
  · exact h
  · exact ascii_pascalize h

theorem spells_property : p.Spells word (p.property word) := by
  have hl : IsLegal (p.property word) ↔ Fits (p.wording word) := by
    rw [← isWord_led_iff]
    constructor
    · intro h
      have hw := h.word
      rwa [property_eq_safeName_wording, safeName_eq_map_led, String.toList_ofList,
        String.toList_ofList] at hw
    · intro h
      refine ⟨?_, property_not_mem_keywords⟩
      rwa [property_eq_safeName_wording, safeName_eq_map_led, String.toList_ofList,
        String.toList_ofList]
  exact ⟨property_not_mem_keywords, hl, fun h => hl.mpr (fits_of_ascii (ascii_wording h))⟩

/-- The identifiers that a policy gives to a property, a foreign key and a navigation are legal
exactly if the letters and numbers in the wording of the word behind them are. -/
theorem spells_of_policy (p : Policy) (raw : String) :
    p.Spells raw (p.property raw) ∧
    (∀ identifier, p.foreignKey raw = .ok identifier →
      ∃ word, stripSuffix raw p.suffix = .ok word ∧ p.Spells word identifier) ∧
    ∀ cardinality identifier, p.navigation raw cardinality = .ok identifier →
      ∃ rest word, stripSuffix raw p.suffix = .ok rest ∧
        Naming.inflect rest cardinality = .ok word ∧ p.Spells word identifier := by
  refine ⟨spells_property, ?_, ?_⟩
  · intro identifier h
    obtain ⟨word, hw, he⟩ := map_eq_ok_iff.mp h
    rw [← he]
    exact ⟨word, hw, spells_property⟩
  · intro cardinality identifier h
    obtain ⟨rest, hr, h⟩ := bind_eq_ok_iff.mp h
    obtain ⟨word, hw, h⟩ := bind_eq_ok_iff.mp h
    rw [pure_eq_ok_iff.mp h]
    exact ⟨rest, word, hr, hw, spells_property⟩

theorem spells_streets :
    navigation ⟨.plural, "Entity"⟩ "straßeEntity" .many = .ok "Straßes" ∧ IsLegal "Straßes" ∧
      property ⟨.plural, "Entity"⟩ "m²" = "M²" ∧ ¬ IsLegal "M²" := by
  have hn : navigation ⟨.plural, "Entity"⟩ "straßeEntity" .many = .ok "Straßes" := by
    decide +kernel
  have hs : stripSuffix "straßeEntity" "Entity" = .ok "straße" := by decide +kernel
  have hi : Naming.inflect "straße" .many = .ok "straßes" := by decide +kernel
  have hm : property ⟨.plural, "Entity"⟩ "m²" = "M²" := by decide +kernel
  refine ⟨hn, ?_, hm, ?_⟩
  · obtain ⟨rest, word, hr, hw, h⟩ := (spells_of_policy _ _).2.2 _ _ hn
    cases hs.symm.trans hr
    cases hi.symm.trans hw
    exact h.legal_iff.mpr (fits_of_isLetter (by decide +kernel))
  · intro hl
    have hf := ((hm ▸ (spells_of_policy ⟨.plural, "Entity"⟩ "m²").1).legal_iff.mp hl).parts '²'
    exact absurd (hf (by decide +kernel) (by decide +kernel)) (by decide +kernel)

/-- A number within a name and a digit beyond ASCII in front of one stay in the identifiers. -/
theorem not_isLegal_property :
    make .plural "" = .ok ⟨.plural, ""⟩ ∧ ¬ IsLegal (property ⟨.plural, ""⟩ "m²") ∧
      ¬ IsLegal (property ⟨.plural, ""⟩ "٣items") := by
  have hm : (property ⟨.plural, ""⟩ "m²").toList = ['M', '²'] := by decide +kernel
  have hi : (property ⟨.plural, ""⟩ "٣items").toList = ['٣', 'i', 't', 'e', 'm', 's'] := by
    decide +kernel
  refine ⟨rfl, fun h => ?_, fun h => ?_⟩
  · have hw := h.word
    rw [hm, isWord_cons_iff] at hw
    exact absurd (hw.2 '²' List.mem_cons_self) (by decide +kernel)
  · have hw := h.word
    rw [hi, isWord_cons_iff] at hw
    exact absurd hw.1 (by decide +kernel)

end Policy

end EntityMapping.Naming
