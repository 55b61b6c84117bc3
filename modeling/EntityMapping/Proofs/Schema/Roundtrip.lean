import EntityMapping.Proofs.Schema.Records

/-! # Schema documents that are read back

A schema is read back from its document, in the compact and in the spread form. The document has the
categories of the types in place of their names, and a category is the category of its own name.
-/

namespace EntityMapping

open Document
open Json (Written Whole Forms SparseList ofList sparseObject_of_written sparseList_of_written)

/-! ## Written forms among the sparse ones -/

theorem sparse_ofList {α : Type} {sparse : Forms} {f : α → Json} {as : List α}
    (h : ∀ a text, Written (f a) text → sparse (f a) [] text) (text : List Char)
    (hw : Written (ofList f as) text) : SparseList sparse (ofList f as) [] text :=
  sparseList_of_written (List.forall_mem_map.mpr fun a _ => h a) hw

theorem Property.sparse_of_written (p : Property) (text : List Char)
    (hw : Written p.toJson text) : Property.Sparse p.toJson [] text :=
  sparseObject_of_written (fun _ _ _ => .mk) hw

theorem Relationship.sparse_of_written (r : Relationship) (text : List Char)
    (hw : Written r.toJson text) : Relationship.Sparse r.toJson [] text :=
  sparseObject_of_written (fun _ _ _ => .mk) hw

theorem Index.sparse_of_written (i : Index) (text : List Char) (hw : Written i.toJson text) :
    Index.Sparse i.toJson [] text :=
  sparseObject_of_written (fun _ _ _ => .mk) hw

theorem UniqueConstraint.sparse_of_written (c : UniqueConstraint) (text : List Char)
    (hw : Written c.toJson text) : UniqueConstraint.Sparse c.toJson [] text :=
  sparseObject_of_written (fun _ _ _ => .mk) hw

theorem Entity.sparse_of_written (e : Entity) (text : List Char) (hw : Written e.toJson text) :
    Entity.Sparse e.toJson [] text := by
  refine sparseObject_of_written ?_ hw
  simp only [List.forall_mem_cons]
  exact ⟨fun _ => .mk, fun _ => .mk, fun _ => .mk, fun _ => .mk, fun _ => .mk, fun _ => .mk,
    fun _ => .mk, sparse_ofList Property.sparse_of_written,
    sparse_ofList Relationship.sparse_of_written, sparse_ofList Index.sparse_of_written,
    sparse_ofList UniqueConstraint.sparse_of_written, nofun⟩

theorem Schema.sparse_of_written (s : Schema) (text : List Char) (hw : Written s.toJson text) :
    Schema.Sparse s.toJson [] text := by
  refine sparseObject_of_written ?_ hw
  simp only [List.forall_mem_cons]
  exact ⟨sparse_ofList Entity.sparse_of_written, nofun⟩

/-! ## Documents -/

theorem Schema.parse_of_written {s : Schema} {text : String}
    (h : Written s.toJson text.toList) : parse text = .ok s :=
  (document_outcome (s.yields []) (s.sparse_of_written _ h) (List.append_nil _).symm
    Json.blanks_nil).1 rfl

/-- The documents of a schema hold that schema. So to read a document, to write down what it holds
and to read that is to read the document. -/
theorem Schema.parse_toJson :
    (∀ s : Schema, parse s.toJson.compact = .ok s ∧ parse s.toJson.pretty = .ok s) ∧
      ∀ text, (do let s ← parse text; parse s.toJson.compact) = parse text ∧
        (do let s ← parse text; parse s.toJson.pretty) = parse text := by
  have hdocuments : ∀ s : Schema, parse s.toJson.compact = .ok s ∧ parse s.toJson.pretty = .ok s := by
    intro s
    constructor
    · exact parse_of_written (Json.written_compact _)
    · exact parse_of_written (Json.written_pretty _)
  constructor
  · exact hdocuments
  · intro text
    cases parse text with
    | error fault => exact ⟨rfl, rfl⟩
    | ok s => exact hdocuments s

end EntityMapping
