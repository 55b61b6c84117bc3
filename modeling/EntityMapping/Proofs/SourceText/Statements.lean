import EntityMapping.Proofs.SourceText.Calls
import EntityMapping.Proofs.SourceText.Wrapping

/-! # Statements that can be read back

A statement opens with its method, which tells of what kind it is. Statements of one kind are
legible part by part where their identifiers are spelled with characters of identifiers only.
-/

namespace EntityMapping

namespace SourceText

def opening : Statement → String
  | .table .. => "builder.ToTable("
  | .view .. => "builder.ToView("
  | .noKey => "builder.HasNoKey("
  | .key .. => "builder.HasKey("
  | .property .. => "builder.Property("
  | .relationship .. => "builder.HasOne("
  | .index .. => "builder.HasIndex("
  | .alternateKey .. => "builder.HasAlternateKey("

inductive SameKind : Statement → Statement → Prop
  | table {name name' : String} {schema schema' : Option String} :
      SameKind (.table name schema) (.table name' schema')
  | view {name name' : String} {schema schema' : Option String} :
      SameKind (.view name schema) (.view name' schema')
  | noKey : SameKind .noKey .noKey
  | key {columns columns' : List String} : SameKind (.key columns) (.key columns')
  | property {name name' : String} {directives directives' : List Directive} :
      SameKind (.property name directives) (.property name' directives')
  | relationship {r r' : RelationshipBinding} : SameKind (.relationship r) (.relationship r')
  | index {i i' : IndexBinding} : SameKind (.index i) (.index i')
  | alternateKey {columns columns' : List String} {name name' : String} :
      SameKind (.alternateKey columns name) (.alternateKey columns' name')

theorem sameKind_or_diverge (s s' : Statement) :
    SameKind s s' ∨ Diverge (opening s).toList (opening s').toList := by
  cases s <;> cases s' <;> dsimp only [opening] <;>
    first | exact .inl (by constructor) | exact .inr (by decide)

variable {entityClass : String} {n : Nat}

def remainder (entityClass : String) (n : Nat) : Statement → List Char
  | .table name schema | .view name schema =>
    (tableArguments name schema).toList ++ ')' :: [';', '\n']
  | .noKey => ')' :: [';', '\n']
  | .key columns => (entitySelector columns).toList ++ ')' :: [';', '\n']
  | .property name directives =>
    "e => e.".toList ++ (name.toList ++ ')' ::
      (chained (n + 1) (directives.map directiveCall) ++ [';', '\n']))
  | .relationship r =>
    "e => e.".toList ++ (r.navigation.toList ++ ')' ::
      (chained (n + 1) (relationshipCalls entityClass r) ++ [';', '\n']))
  | .index i =>
    (entitySelector i.columns).toList ++ ')' :: (chained (n + 1) (indexCalls i) ++ [';', '\n'])
  | .alternateKey columns name =>
    (entitySelector columns).toList ++ ')' ::
      (chained (n + 1) [".HasName(" ++ literal name ++ ")"] ++ [';', '\n'])

theorem call_ne_empty_of_relationship (r : RelationshipBinding) :
    ∀ call ∈ relationshipCalls entityClass r, call ≠ "" := by
  cases h : r.constraintName <;> simp [relationshipCalls, h]

theorem charsAt_statementLines (s : Statement) :
    charsAt n (statementLines entityClass s) =
      margin n ++ ((opening s).toList ++ remainder entityClass n s) := by
  have hcall : ∀ c : Call, c.render ≠ "" := by simp [Call.render]
  cases s with
  | table | view | noKey | key =>
    rw [statementLines, charsAt_line]
    · unfold opening remainder
      simp
    · simp
  | property name directives =>
    rw [statementLines, charsAt_chain]
    · unfold opening remainder
      simp
    · simp
    · simp [← render_directiveSetting, hcall]
  | relationship r =>
    rw [statementLines, charsAt_chain]
    · unfold opening remainder
      simp
    · simp
    · exact call_ne_empty_of_relationship r
  | index i =>
    rw [statementLines, charsAt_chain]
    · unfold opening remainder
      simp
    · simp
    · simp [← render_indexSettings, hcall]
  | alternateKey columns name =>
    change charsAt n (chain ("builder.HasAlternateKey(" ++ entitySelector columns ++ ")")
      [".HasName(" ++ literal name ++ ")"]) = _
    rw [charsAt_chain]
    · unfold opening remainder
      simp
    · simp
    · simp

section Parts

variable {name name' : String} {s t : List Char}

theorem legible_tableArguments : Legible (fun _ => True)
    fun table : String × Option String => (tableArguments table.1 table.2).toList ++ [')'] := by
  rintro ⟨name, schema⟩ ⟨name', schema'⟩ s t _ _ h
  have hliteral : ∀ s : String, tableArguments s none = literal s := fun _ => rfl
  have hpair : ∀ s s' : String, (tableArguments s (some s')).toList =
      (literal s).toList ++ ',' :: ' ' :: (literal s').toList := by
    intro s s'
    simp [tableArguments]
  cases schema <;> cases schema' <;>
    simp only [hliteral, hpair, List.append_assoc, List.cons_append, List.nil_append] at h <;>
    obtain ⟨rfl, hs⟩ := legible_literal trivial trivial h
  case none.none => exact ⟨rfl, (List.cons.inj hs).2⟩
  case some.some schema schema' =>
    simp only [List.cons.injEq, true_and] at hs
    obtain ⟨rfl, ht⟩ := legible_literal trivial trivial hs
    exact ⟨rfl, (List.cons.inj ht).2⟩
  all_goals simp at hs

def constraintCalls (constraintName : Option String) : List String :=
  constraintName.toList.map fun name => ".HasConstraintName(" ++ literal name ++ ")"

theorem chained_relationshipCalls (r : RelationshipBinding) :
    chained n (relationshipCalls entityClass r) =
      ['\n'] ++ margin n ++ (inverseCall r.cardinality).toList ++ "(p => p.".toList ++
      r.principalNavigation.toList ++ [')', '\n'] ++ margin n ++ ".HasForeignKey".toList ++
      (if r.oneToOne then "<" ++ entityClass ++ ">" else "").toList ++ ['('] ++
      (entitySelector r.foreignKey).toList ++ [')', '\n'] ++ margin n ++
      ".OnDelete(DeleteBehavior.Restrict)".toList ++
      chained n (constraintCalls r.constraintName) := by
  cases h : r.constraintName <;> simp [relationshipCalls, constraintCalls, h]

theorem legible_constraintCalls : Legible (fun _ => True)
    fun name => chained n (constraintCalls name) ++ [';', '\n'] := by
  intro a b s t _ _ h
  have hcall : Legible (fun _ => True)
      fun name : String => (".HasConstraintName(" ++ literal name ++ ")").toList := by
    intro a b s t _ _ h
    simp only [String.toList_append, List.append_assoc] at h
    obtain ⟨rfl, ht⟩ := legible_literal trivial trivial (List.append_cancel_left h)
    exact ⟨rfl, List.append_cancel_left ht⟩
  obtain ⟨hl, ht⟩ := legible_chained hcall (fun _ _ => trivial) (fun _ _ => trivial) h
  refine ⟨?_, ht⟩
  cases a <;> cases b <;> simp_all

theorem legible_inverseCall : Legible (fun _ => True) fun c => (inverseCall c).toList := by
  intro a b s t _ _ h
  cases a <;> cases b
  case one.one | many.many => exact ⟨rfl, List.append_cancel_left h⟩
  all_goals simp [inverseCall] at h

theorem legible_typeArgument : Legible (fun _ => True) fun oneToOne : Bool =>
    (if oneToOne then "<" ++ entityClass ++ ">" else "").toList ++ ['('] := by
  intro a b s t _ _ h
  cases a <;> cases b
  case false.false | true.true => exact ⟨rfl, List.append_cancel_left h⟩
  all_goals simp at h

end Parts

section Statements

variable {r r' : RelationshipBinding} {s t : List Char}

theorem relationshipCalls_inj (hn : r.navigation = r'.navigation)
    (hr : Spelled r.principalNavigation ∧ ∀ name ∈ r.foreignKey, Spelled name)
    (hr' : Spelled r'.principalNavigation ∧ ∀ name ∈ r'.foreignKey, Spelled name)
    (h : chained n (relationshipCalls entityClass r) ++ ';' :: '\n' :: s =
      chained n (relationshipCalls entityClass r') ++ ';' :: '\n' :: t) : r = r' ∧ s = t := by
  have hparen : ')' ∈ delimiters := by decide
  simp only [chained_relationshipCalls, List.append_assoc, List.cons_append, List.nil_append,
    List.cons.injEq, true_and] at h
  have h := List.append_cancel_left h
  obtain ⟨hcardinality, h⟩ := legible_inverseCall trivial trivial h
  obtain ⟨hprincipal, h⟩ := (legible_spelled hparen).before hr.1 hr'.1 (List.append_cancel_left h)
  simp only [List.cons.injEq, true_and, List.append_cancel_left_eq] at h
  obtain ⟨honeToOne, h⟩ := legible_typeArgument.before trivial trivial h
  obtain ⟨hkey, h⟩ := legible_entitySelector.before hr.2 hr'.2 h
  simp only [List.cons.injEq, true_and, List.append_cancel_left_eq] at h
  obtain ⟨hconstraint, ht⟩ := legible_constraintCalls trivial trivial (by simpa using h)
  cases r
  cases r'
  simp_all

/-- Past their opening, statements of one kind are told apart by what they say. -/
theorem remainder_inj {a b : Statement} (hk : SameKind a b) (ha : ∀ name ∈ a.identifiers, Spelled name)
    (hb : ∀ name ∈ b.identifiers, Spelled name)
    (h : remainder entityClass n a ++ s = remainder entityClass n b ++ t) : a = b ∧ s = t := by
  have hparen : ')' ∈ delimiters := by decide
  unfold remainder at h
  cases hk with
  | table | view =>
    simp only [List.append_assoc, List.cons_append, List.nil_append] at h
    obtain ⟨he, ht⟩ := legible_tableArguments.before (a := (_, _)) (b := (_, _)) trivial trivial h
    simp_all
  | noKey => exact ⟨rfl, List.append_cancel_left h⟩
  | @key columns columns' =>
    simp only [List.append_assoc, List.cons_append, List.nil_append] at h
    obtain ⟨rfl, ht⟩ := legible_entitySelector.before (a := columns) (b := columns') ha hb h
    exact ⟨rfl, by simpa using ht⟩
  | @property name name' directives directives' =>
    simp only [List.append_assoc, List.cons_append, List.nil_append] at h
    have hn : Spelled name := ha name List.mem_cons_self
    have hn' : Spelled name' := hb name' List.mem_cons_self
    obtain ⟨rfl, h⟩ := (legible_spelled hparen).before hn hn' (List.append_cancel_left h)
    obtain ⟨rfl, ht⟩ := legible_chained legible_directiveCall (fun _ _ => trivial)
      (fun _ _ => trivial) (by simpa using h)
    exact ⟨rfl, ht⟩
  | @relationship r r' =>
    simp only [List.append_assoc, List.cons_append, List.nil_append] at h
    simp only [Statement.identifiers, List.forall_mem_cons] at ha hb
    obtain ⟨hn, h⟩ := (legible_spelled hparen).before ha.1 hb.1 (List.append_cancel_left h)
    obtain ⟨rfl, ht⟩ := relationshipCalls_inj hn ha.2 hb.2 h
    exact ⟨rfl, ht⟩
  | @index i i' =>
    simp only [List.append_assoc, List.cons_append, List.nil_append] at h
    obtain ⟨hc, h⟩ := legible_entitySelector.before (a := i.columns) (b := i'.columns) ha hb h
    simp only [← render_indexSettings] at h
    obtain ⟨hi, ht⟩ := legible_chained legible_call (method_indexSettings i)
      (method_indexSettings i') (by simpa using h)
    obtain rfl := indexSettings_injective hc hi
    exact ⟨rfl, ht⟩
  | @alternateKey columns columns' name name' =>
    simp only [chained_cons, String.toList_append, List.append_assoc, List.cons_append] at h
    obtain ⟨rfl, hcall⟩ := legible_entitySelector.before (a := columns) (b := columns') ha hb h
    simp only [List.cons.injEq, true_and, List.append_cancel_left_eq] at hcall
    obtain ⟨rfl, ht⟩ := legible_literal trivial trivial hcall
    exact ⟨rfl, by simpa using ht⟩

theorem legible_statementLines : Legible (fun s => ∀ name ∈ s.identifiers, Spelled name)
    fun s => charsAt n (statementLines entityClass s) := by
  intro a b s t ha hb h
  simp only [charsAt_statementLines, List.append_assoc] at h
  have h := List.append_cancel_left h
  rcases sameKind_or_diverge a b with hk | hd
  · have ho : opening a = opening b := by cases hk <;> rfl
    rw [ho] at h
    exact remainder_inj hk ha hb (List.append_cancel_left h)
  · exact (hd _ _ h).elim

end Statements

end SourceText

end EntityMapping
