import EntityMapping.Proofs.SourceText.ClassBody

/-! # Brackets in source text

Source text is read for its parentheses and braces, with those left to be closed on a stack. String
literals are passed over, and comments up to the end of their line. A piece that closes what it
opens leaves the brackets around it alone: every literal is such a piece, whatever it quotes, and
so is a name without characters that the reading turns on.
-/

namespace EntityMapping.SourceText

/-- Where in a text its next character stands. -/
inductive Place where
  | code
  | slash
  | literal
  | escape
  | comment
  deriving DecidableEq, Repr

/-- A place and the closing brackets that are due there, the innermost first. -/
structure Reader where
  place : Place := .code
  due : List Char := []
  deriving DecidableEq, Repr

/-- Characters other than these have no part in the reading of code. -/
def significant : List Char := ['"', '/', '(', ')', '\x7b', '\x7d']

namespace Reader

/-- What is due after a closing bracket, which has to be the innermost. -/
def close : List Char → Char → Option (List Char)
  | [], _ => none
  | d :: rest, c => if d = c then some rest else none

def stepCode (due : List Char) (c : Char) : Option Reader :=
  if c = '"' then some ⟨.literal, due⟩
  else if c = '/' then some ⟨.slash, due⟩
  else if c = '(' then some ⟨.code, ')' :: due⟩
  else if c = '\x7b' then some ⟨.code, '\x7d' :: due⟩
  else if c = ')' ∨ c = '\x7d' then (close due c).map fun rest => ⟨.code, rest⟩
  else some ⟨.code, due⟩

/-- One more character, unless it closes a bracket that is not due or ends a line in a literal. -/
def step : Reader → Char → Option Reader
  | ⟨.code, due⟩, c => stepCode due c
  | ⟨.slash, due⟩, c => if c = '/' then some ⟨.comment, due⟩ else stepCode due c
  | ⟨.literal, due⟩, c =>
    if c = '\n' then none
    else some ⟨if c = '\\' then .escape else if c = '"' then .code else .literal, due⟩
  | ⟨.escape, due⟩, _ => some ⟨.literal, due⟩
  | ⟨.comment, due⟩, c => some ⟨if c = '\n' then .code else .comment, due⟩

def read (r : Reader) (s : List Char) : Option Reader := s.foldlM step r

def within (r : Reader) (outer : List Char) : Reader := { r with due := r.due ++ outer }

variable {r r' : Reader} {c : Char} {s t due : List Char}

theorem read_cons : read r (c :: s) = (r.step c).bind (read · s) := rfl

theorem read_append : read r (s ++ t) = (read r s).bind (read · t) := List.foldlM_append

theorem close_append {rest : List Char} (h : close due c = some rest) (outer : List Char) :
    close (due ++ outer) c = some (rest ++ outer) := by
  cases due with
  | nil => cases h
  | cons d due =>
    simp only [close, List.cons_append] at h ⊢
    split_ifs at h ⊢
    cases h
    rfl

theorem stepCode_within (h : stepCode due c = some r) (outer : List Char) :
    stepCode (due ++ outer) c = some (r.within outer) := by
  unfold stepCode at h ⊢
  split_ifs at h ⊢
  any_goals
    cases h
    rfl
  obtain ⟨rest, hrest, rfl⟩ := Option.map_eq_some_iff.mp h
  rw [close_append hrest]
  rfl

theorem step_within (h : r.step c = some r') (outer : List Char) :
    (r.within outer).step c = some (r'.within outer) := by
  obtain ⟨place, due⟩ := r
  cases place with
  | code => exact stepCode_within h outer
  | slash =>
    simp only [step, within] at h ⊢
    split_ifs at h ⊢
    · cases h
      rfl
    · exact stepCode_within h outer
  | literal =>
    simp only [step, within] at h ⊢
    split_ifs at h ⊢ <;> cases h <;> rfl
  | escape | comment =>
    cases h
    rfl

theorem read_within (h : r.read s = some r') (outer : List Char) :
    (r.within outer).read s = some (r'.within outer) := by
  induction s generalizing r with
  | nil =>
    cases h
    rfl
  | cons c s ih =>
    rw [read_cons, Option.bind_eq_some_iff] at h ⊢
    obtain ⟨next, hstep, hread⟩ := h
    exact ⟨next.within outer, step_within hstep outer, ih hread⟩

theorem read_of_insignificant (h : ∀ c ∈ s, c ∉ significant) :
    read ⟨.code, due⟩ s = some ⟨.code, due⟩ := by
  induction s with
  | nil => rfl
  | cons c s ih =>
    obtain ⟨hc, hs⟩ := List.forall_mem_cons.mp h
    have hstep : step ⟨.code, due⟩ c = some ⟨.code, due⟩ := by
      simp_all [step, stepCode, significant]
    rw [read_cons, hstep]
    exact ih hs

theorem read_comment (h : '\n' ∉ s) : read ⟨.comment, due⟩ s = some ⟨.comment, due⟩ := by
  induction s with
  | nil => rfl
  | cons c s ih =>
    rw [List.mem_cons, not_or] at h
    have hs : step ⟨.comment, due⟩ c = some ⟨.comment, due⟩ := by
      simp [step, Ne.symm h.1]
    rw [read_cons, hs]
    exact ih h.2

theorem read_escapeChar (c : Char) :
    read ⟨.literal, due⟩ (escapeChar c) = some ⟨.literal, due⟩ := by
  unfold escapeChar
  split <;> simp_all [read, step]

theorem read_escaped (s : List Char) :
    read ⟨.literal, due⟩ (s.flatMap escapeChar) = some ⟨.literal, due⟩ := by
  induction s with
  | nil => rfl
  | cons c s ih => rw [List.flatMap_cons, read_append, read_escapeChar, Option.bind_some, ih]

end Reader

/-- Read as code, the text takes one stack of brackets that are due to the other. -/
def Takes (text : String) (before after : List Char) : Prop :=
  Reader.read ⟨.code, before⟩ text.toList = some ⟨.code, after⟩

instance (text : String) (before after : List Char) : Decidable (Takes text before after) :=
  inferInstanceAs (Decidable (_ = _))

/-- A text that closes the brackets it opens, and no other. -/
def Balanced (text : String) : Prop := Takes text [] []

instance (text : String) : Decidable (Balanced text) := inferInstanceAs (Decidable (Takes text [] []))

/-- A name that can stand in code and in comments. -/
structure Plain (name : String) : Prop where
  unbroken : Unbroken name
  insignificant : ∀ c ∈ name.toList, c ∉ significant

theorem plain_iff {name : String} :
    Plain name ↔ name.toList.all (fun c => !('\n' :: significant).contains c) = true := by
  simp only [List.all_eq_true, Bool.not_eq_true', List.contains_eq_mem, decide_eq_false_iff_not,
    List.mem_cons, not_or]
  constructor
  · rintro ⟨hu, hs⟩ c hc
    exact ⟨fun he => hu (he ▸ hc), hs c hc⟩
  · intro h
    exact ⟨fun hm => (h _ hm).1 rfl, fun c hc => (h c hc).2⟩

instance (name : String) : Decidable (Plain name) := decidable_of_iff' _ plain_iff

section Takes

variable {s t front back name text : String} {p q r : List Char} {texts names : List String}

theorem Takes.append (hs : Takes s p q) (ht : Takes t q r) : Takes (s ++ t) p r := by
  rw [Takes, String.toList_append, Reader.read_append, hs]
  exact ht

theorem Takes.within (h : Takes s p q) (outer : List Char) : Takes s (p ++ outer) (q ++ outer) :=
  Reader.read_within h outer

theorem Balanced.takes (h : Balanced s) (p : List Char) : Takes s p p := h.within p

theorem Balanced.append (hs : Balanced s) (ht : Balanced t) : Balanced (s ++ t) :=
  Takes.append hs ht

theorem Balanced.between (h : Balanced s) (hf : Takes front [] p) (hb : Takes back p []) :
    Balanced (front ++ s ++ back) :=
  (hf.append (h.takes p)).append hb

theorem balanced_of_insignificant (h : ∀ c ∈ s.toList, c ∉ significant) : Balanced s :=
  Reader.read_of_insignificant h

theorem Plain.balanced (h : Plain name) : Balanced name := balanced_of_insignificant h.insignificant

theorem balanced_repr (i : Int) : Balanced i.repr := by
  refine balanced_of_insignificant fun c hc hs => ?_
  have hn : Decimal.IsNumeric c := Decimal.isNumeric_of_mem_repr hc
  simp only [significant, List.mem_cons, List.not_mem_nil, or_false] at hs
  rcases hs with rfl | rfl | rfl | rfl | rfl | rfl <;> simp [Decimal.IsNumeric] at hn

theorem balanced_literal (s : String) : Balanced (literal s) := by
  have hl : (literal s).toList = '"' :: (s.toList.flatMap escapeChar ++ ['"']) := by
    simp [literal]
  rw [Balanced, Takes, hl, Reader.read_cons]
  change Reader.read ⟨.literal, []⟩ _ = _
  rw [Reader.read_append, Reader.read_escaped]
  rfl

theorem balanced_comment (h : Unbroken text) : Balanced ("/// " ++ text ++ "\n") := by
  have hstart : Reader.read ⟨.code, []⟩ "/// ".toList = some ⟨.comment, []⟩ := by decide
  rw [Balanced, Takes, String.toList_append, String.toList_append, Reader.read_append,
    Reader.read_append, hstart, Option.bind_some, Reader.read_comment h]
  rfl

theorem balanced_intercalate (hs : Balanced s) (h : ∀ t ∈ texts, Balanced t) :
    Balanced (s.intercalate texts) := by
  induction texts with
  | nil =>
    rw [String.intercalate_nil]
    decide
  | cons t texts ih =>
    obtain ⟨ht, hts⟩ := List.forall_mem_cons.mp h
    by_cases he : texts = []
    · simpa [he] using ht
    · rw [String.intercalate_cons_of_ne_nil he]
      exact (ht.append hs).append (ih hts)

end Takes

/-! ## Statements -/

section Statements

variable {names : List String} {entityClass : String} {s : Statement}

theorem balanced_entitySelector (h : ∀ name ∈ names, Plain name) :
    Balanced (entitySelector names) := by
  have hm : ∀ name ∈ names, Balanced (member "e" name) := fun name hn =>
    have he : Balanced ("e" ++ ".") := by decide
    he.append (h name hn).balanced
  have harrow : Balanced "e => " := by decide
  unfold entitySelector memberSelector
  split
  next name => exact harrow.append (hm name List.mem_cons_self)
  next =>
    have hi : Balanced (", ".intercalate (names.map (member "e"))) :=
      balanced_intercalate (by decide) (List.forall_mem_map.mpr hm)
    exact harrow.append (hi.between (p := ['\x7d']) (by decide) (by decide))

theorem balanced_tableArguments (name : String) (schema : Option String) :
    Balanced (tableArguments name schema) := by
  cases schema with
  | none => exact balanced_literal name
  | some schema =>
    exact ((balanced_literal name).append (by decide)).append (balanced_literal schema)

theorem Argument.balanced (a : Argument) : Balanced a.render := by
  cases a with
  | none | off | converter => decide
  | text value => exact balanced_literal value
  | number value => exact balanced_repr _

theorem Call.balanced {c : Call} (h : Balanced c.method) : Balanced c.render := by
  have hd : Balanced "." := by decide
  have ho : Takes ("." ++ c.method ++ "(") [] [')'] :=
    Takes.append (hd.append h) (by decide)
  exact c.argument.balanced.between ho (by decide)

theorem balanced_directiveCall (d : Directive) : Balanced (directiveCall d) := by
  rw [← render_directiveSetting]
  apply Call.balanced
  cases d <;> dsimp only [directiveSetting] <;> decide

theorem balanced_indexCalls (i : IndexBinding) : ∀ call ∈ indexCalls i, Balanced call := by
  have hm : ∀ c ∈ indexSettings i, Balanced c.method := by
    obtain ⟨_, name, filter, unique⟩ := i
    cases name <;> cases filter <;> cases unique <;>
      simp only [indexSettings, Option.toList_some, Option.toList_none, List.map_cons, List.map_nil,
        List.nil_append, List.cons_append, List.forall_mem_cons, if_true, Bool.false_eq_true,
        if_false] <;>
      decide
  rw [← render_indexSettings, List.forall_mem_map]
  exact fun c hc => Call.balanced (hm c hc)

theorem balanced_relationshipCalls {r : RelationshipBinding} (hc : Plain entityClass)
    (hp : Plain r.principalNavigation) (hk : ∀ name ∈ r.foreignKey, Plain name) :
    ∀ call ∈ relationshipCalls entityClass r, Balanced call := by
  have hinverse : Takes (inverseCall r.cardinality ++ "(p => p.") [] [')'] := by
    cases r.cardinality <;> decide
  have htype : Balanced (if r.oneToOne then "<" ++ entityClass ++ ">" else "") := by
    split
    · exact hc.balanced.between (p := []) (by decide) (by decide)
    · decide
  have hkey : Balanced ".HasForeignKey" := by decide
  have hkey : Takes (".HasForeignKey" ++ (if r.oneToOne then "<" ++ entityClass ++ ">" else "") ++
      "(") [] [')'] := Takes.append (hkey.append htype) (by decide)
  have hname : ∀ name, Balanced (".HasConstraintName(" ++ literal name ++ ")") := fun name =>
    (balanced_literal name).between (p := [')']) (by decide) (by decide)
  unfold relationshipCalls
  simp only [List.cons_append, List.nil_append, List.forall_mem_cons]
  refine ⟨hp.balanced.between hinverse (by decide),
    (balanced_entitySelector hk).between hkey (by decide), by decide, ?_⟩
  split
  · exact List.forall_mem_singleton.mpr (hname _)
  · exact nofun

def firstCall : Statement → String
  | .table name schema => "builder.ToTable(" ++ tableArguments name schema ++ ")"
  | .view name schema => "builder.ToView(" ++ tableArguments name schema ++ ")"
  | .noKey => "builder.HasNoKey()"
  | .key columns => "builder.HasKey(" ++ entitySelector columns ++ ")"
  | .property name _ => "builder.Property(e => e." ++ name ++ ")"
  | .relationship r => "builder.HasOne(e => e." ++ r.navigation ++ ")"
  | .index i => "builder.HasIndex(" ++ entitySelector i.columns ++ ")"
  | .alternateKey columns _ => "builder.HasAlternateKey(" ++ entitySelector columns ++ ")"

def laterCalls (entityClass : String) : Statement → List String
  | .table .. | .view .. | .noKey | .key _ => []
  | .property _ directives => directives.map directiveCall
  | .relationship r => relationshipCalls entityClass r
  | .index i => indexCalls i
  | .alternateKey _ name => [".HasName(" ++ literal name ++ ")"]

theorem statementLines_eq_chain (entityClass : String) (s : Statement) :
    statementLines entityClass s = chain (firstCall s) (laterCalls entityClass s) := by
  have hend : ∀ text : String, text ++ ");" = text ++ ")" ++ ";" := by
    have he : ")" ++ ";" = ");" := by decide
    intro text
    rw [String.append_assoc, he]
  cases s with
  | table | view | key => exact congrArg (fun text => [line text]) (hend _)
  | noKey => exact congrArg (fun text => [line text]) (by decide)
  | _ => rfl

theorem balanced_firstCall (h : ∀ name ∈ s.identifiers, Plain name) : Balanced (firstCall s) := by
  have hclose : Takes ")" [')'] [] := by decide
  cases s with
  | noKey => decide
  | table name schema | view name schema =>
    exact (balanced_tableArguments name schema).between (by decide) hclose
  | key columns | alternateKey columns name =>
    exact (balanced_entitySelector h).between (by decide) hclose
  | index i => exact (balanced_entitySelector h).between (by decide) hclose
  | property name directives =>
    exact (h name List.mem_cons_self).balanced.between (by decide) hclose
  | relationship r =>
    exact (h r.navigation List.mem_cons_self).balanced.between (by decide) hclose

theorem balanced_laterCalls (hc : Plain entityClass) (h : ∀ name ∈ s.identifiers, Plain name) :
    ∀ call ∈ laterCalls entityClass s, Balanced call := by
  cases s with
  | table | view | noKey | key => exact nofun
  | property name directives => exact List.forall_mem_map.mpr fun d _ => balanced_directiveCall d
  | relationship r =>
    obtain ⟨-, hp, hk⟩ : Plain r.navigation ∧ Plain r.principalNavigation ∧
        ∀ name ∈ r.foreignKey, Plain name := by
      simpa [Statement.identifiers] using h
    exact balanced_relationshipCalls hc hp hk
  | index i => exact balanced_indexCalls i
  | alternateKey columns name =>
    refine List.forall_mem_singleton.mpr ?_
    exact (balanced_literal name).between (p := [')']) (by decide) (by decide)

end Statements

end EntityMapping.SourceText
