import EntityMapping.Proofs.CommandLine.Products
import EntityMapping.Proofs.Text.Splitting

/-! # Selecting entities by their classes

Class names are listed with commas between them, and blanks around a name do not count. The entities
of the named classes are selected. A list in which no class is named stands for all entities, but it
is not told from a list of other names: nothing is selected by it.
-/

namespace EntityMapping.CommandLine

open Text

/-- Texts without commas that give the list when they are joined by commas. -/
structure Pieces (list : List Char) (pieces : List (List Char)) : Prop where
  ne_nil : pieces ≠ []
  unbroken : ∀ piece ∈ pieces, ',' ∉ piece
  joined : [','].intercalate pieces = list

/-- The list has the name in a piece of its own, with at most blanks around it. -/
def Names (list name : String) : Prop :=
  name ≠ "" ∧ ∃ pieces, Pieces list.toList pieces ∧ ∃ piece ∈ pieces, trim piece = name.toList

variable {list name : String} {pieces : List (List Char)} {schema : Schema} {a : Arguments}

theorem pieces_iff {s : List Char} : Pieces s pieces ↔ s.splitOnP (· == ',') = pieces := by
  rw [← List.splitOn_eq_splitOnP]
  constructor
  · rintro ⟨hne, hunbroken, rfl⟩
    exact List.splitOn_intercalate ',' hunbroken hne
  · rintro rfl
    refine ⟨List.splitOnP_ne_nil _ _, ?_, List.intercalate_splitOn ','⟩
    intro piece hp hm
    cases (of_mem_splitOnP hp hm).2

theorem names_iff : Names list name ↔ name ≠ "" ∧ name ∈ Arguments.items list := by
  simp only [Names, pieces_iff, exists_eq_left', Arguments.items, List.mem_map]
  refine and_congr_right fun _ => exists_congr fun piece => and_congr_right fun _ => ?_
  rw [← String.toList_inj, String.toList_ofList]

instance (list name : String) : Decidable (Names list name) :=
  decidable_of_iff _ names_iff.symm

/-- What a list of class names asks for: the entities of the named classes in the order of the
schema, or all of them where no class is named. -/
structure AsListed (schema : Schema) (list : String) (selected : List Entity) : Prop where
  named : (∃ name, Names list name) →
    selected = schema.entities.filter fun e => Names list e.entityClass
  unnamed : (¬ ∃ name, Names list name) → selected = schema.entities

theorem items_ne_nil (list : String) : Arguments.items list ≠ [] := by
  rw [Arguments.items, ne_eq, List.map_eq_nil_iff]
  exact List.splitOnP_ne_nil _ _

theorem select_of_entities (ha : a.entities = some list) :
    schema.select a.entityList =
      schema.entities.filter fun e => (Arguments.items list).contains e.entityClass := by
  have hl : a.entityList = Arguments.items list := by rw [Arguments.entityList, ha]; rfl
  rw [hl, Schema.select, if_neg]
  rw [List.isEmpty_iff]
  exact items_ne_nil list

/-- The entities of the named classes are selected, whatever the blanks and commas between the
names. This is what the list asks for exactly if it names a class, as far as there are entities. -/
theorem select_entityList (ha : a.entities = some list)
    (hs : ∀ e ∈ schema.entities, e.entityClass ≠ "") :
    schema.select a.entityList = schema.entities.filter (fun e => Names list e.entityClass) ∧
      (AsListed schema list (schema.select a.entityList) ↔
        (∃ name, Names list name) ∨ schema.entities = []) := by
  have hselect : schema.select a.entityList =
      schema.entities.filter fun e => Names list e.entityClass := by
    rw [select_of_entities ha]
    apply List.filter_congr
    intro e he
    rw [Bool.eq_iff_iff, List.contains_iff_mem, decide_eq_true_eq, names_iff]
    exact (and_iff_right (hs e he)).symm
  refine ⟨hselect, ?_⟩
  rw [hselect]
  constructor
  · intro h
    by_cases hn : ∃ name, Names list name
    · exact .inl hn
    · right
      rw [← h.unnamed hn, List.filter_eq_nil_iff]
      intro e _ he
      exact hn ⟨e.entityClass, of_decide_eq_true he⟩
  · rintro (hn | he)
    · exact ⟨fun _ => rfl, fun h => (h hn).elim⟩
    · rw [he]
      exact ⟨fun _ => by rw [he], fun _ => he.symm⟩

end EntityMapping.CommandLine

namespace EntityMapping.Sample

open CommandLine

def withEntities (list : String) : Arguments where
  schema := "schema.json"
  entities := some list

theorem select_listedOrders :
    (∀ e ∈ shop.entities, e.entityClass ≠ "") ∧
      Names " ,Missing,,\u2003OrderEntity , OrderEntity," "OrderEntity" ∧
      shop.select (withEntities " ,Missing,,\u2003OrderEntity , OrderEntity,").entityList =
        [orders] ∧
      AsListed shop " ,Missing,,\u2003OrderEntity , OrderEntity," [orders] := by
  have hs : ∀ e ∈ shop.entities, e.entityClass ≠ "" := by decide
  have hn : Names " ,Missing,,\u2003OrderEntity , OrderEntity," "OrderEntity" := by decide +kernel
  have horders : shop.entities.filter (fun e =>
      Names " ,Missing,,\u2003OrderEntity , OrderEntity," e.entityClass) = [orders] := by
    decide +kernel
  obtain ⟨hselect, hiff⟩ := select_entityList
    (a := withEntities " ,Missing,,\u2003OrderEntity , OrderEntity,") rfl hs
  rw [horders] at hselect
  rw [hselect] at hiff
  exact ⟨hs, hn, hselect, hiff.mpr (.inl ⟨_, hn⟩)⟩

/-- A comma by itself names no class, and still no entity is selected. -/
theorem select_comma :
    (∀ e ∈ shop.entities, e.entityClass ≠ "") ∧ (¬ ∃ name, Names "," name) ∧
      shop.select (withEntities ",").entityList = [] ∧ ¬ AsListed shop "," [] := by
  have hn : ¬ ∃ name, Names "," name := by
    rintro ⟨name, hname⟩
    obtain ⟨hne, hm⟩ := names_iff.mp hname
    have hitems : Arguments.items "," = ["", ""] := by decide +kernel
    rw [hitems] at hm
    simp [hne] at hm
  refine ⟨by decide, hn, by decide +kernel, fun h => ?_⟩
  cases h.unnamed hn

end EntityMapping.Sample
