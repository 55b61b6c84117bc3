import EntityMapping.Proofs.Schema.Records
import Mathlib.Tactic.Tauto

/-! # Sparse schema documents

A schema is read from every sparse form of its document: without members that have their defaults,
in any order, and with any other entries in between. Where members without a default have been lost
anywhere in the document, it has the fault that one of them is missing.
-/

namespace EntityMapping

open Document
open Json (quote Whole WrittenMember Entry SparseList SparseObject ValueText UnsignedText Digits
  blanks_nil)

/-- Members left out for their defaults, the order of members and entries by other names make no
difference to the schema that a document holds, at any level. A document that has lost members
without a default, at any level, holds none. -/
theorem Schema.parse_sparse {s : Schema} {lost : List String} {text : String}
    (h : Schema.Sparse s.toJson lost text.toList) :
    (lost = [] → parse text = .ok s) ∧
      (lost ≠ [] → ∃ name ∈ lost, parse text = .error (.missingField name)) :=
  document_outcome (s.yields lost) h (List.append_nil _).symm Json.blanks_nil

namespace Sample

def plainOrder : Entity :=
  { entityClass := "Order", mappingClass := "OrderMap", tableName := "Orders" }

def plainOrders : Schema := { entities := [plainOrder] }

def notedText : String :=
  "\x7b\"note\":-1.5e+3,\"entities\":[\x7b\"table_name\":\"Orders\"," ++
    "\"mapping_class\":\"OrderMap\",\"entity_class\":\"Order\"\x7d]\x7d"

def lossyText : String :=
  "\x7b\"note\":-1.5e+3,\"entities\":[\x7b\"mapping_class\":\"OrderMap\"," ++
    "\"entity_class\":\"Order\"\x7d]\x7d"

def noted (entity : List Char) : List Char :=
  '\x7b' :: ((quote "note").toList ++ ':' :: ("-1.5e+3".toList ++ ',' ::
    ((quote "entities").toList ++ ':' :: '[' :: (entity ++ [']', '\x7d']))))

theorem valueText_note : ValueText "-1.5e+3".toList := by
  have hd : ∀ c : Char, c.isDigit = true → Digits [c] := fun c hc => ⟨by simp, by simpa using hc⟩
  have hu : UnsignedText (['1'] ++ ('.' :: ['5']) ++ ('e' :: ['+'] ++ ['3'])) :=
    .mk (.positive (by decide) (hd _ rfl)) (.digits (hd _ rfl))
      (.digits (by decide) (by decide) (hd _ rfl))
  exact .negative hu

theorem sparse_noted {lost : List String} {entity : List Char}
    (h : Entity.Sparse plainOrder.toJson lost entity) :
    Schema.Sparse plainOrders.toJson lost (noted entity) := by
  have hl : SparseList Entity.Sparse (.array [plainOrder.toJson]) _ _ :=
    .mk [(plainOrder.toJson, lost)] ⟨.first blanks_nil h (.nil blanks_nil)⟩
  have hs : SparseObject Schema.defaults (fun _ => SparseList Entity.Sparse) plainOrders.toJson
      _ _ :=
    .mk [("note", .unknown), ("entities", .member _ _)] [] [] (.refl _) nofun nofun (by simp)
      (.first blanks_nil (.mk blanks_nil blanks_nil (.unknown valueText_note)) <|
        .next blanks_nil blanks_nil (.mk blanks_nil blanks_nil (.member hl)) <| .nil blanks_nil)
  simp only [List.flatMap_cons, List.flatMap_nil, Entry.lost, List.map_nil, List.append_nil,
    List.nil_append, List.append_assoc, List.cons_append] at hs
  exact hs

theorem perm_plainOrder {members : List (String × Json)} (hn : (members.map Prod.fst).Nodup)
    (hm : ∀ m, m ∈ members ↔ m ∈ [("entity_class", .string "Order"),
      ("mapping_class", .string "OrderMap"), ("table_name", .string "Orders")] ++ Entity.defaults) :
    List.Perm
      [("entity_class", .string "Order"), ("entity_namespace", .string ""),
       ("mapping_class", .string "OrderMap"), ("mapping_namespace", .string ""),
       ("table_name", .string "Orders"), ("table_schema", .null), ("is_view", .bool false),
       ("properties", .array []), ("relationships", .array []), ("indexes", .array []),
       ("unique_constraints", .array [])]
      members := by
  refine (List.perm_ext_iff_of_nodup (.of_map Prod.fst (by decide)) (.of_map Prod.fst hn)).mpr
    fun m => ?_
  rw [hm]
  simp only [Entity.defaults, List.mem_append, List.mem_cons, List.not_mem_nil, or_false]
  tauto

theorem lookup_entityDefaults :
    ∀ m ∈ Entity.defaults, Entity.defaults.lookup m.1 = some m.2 := by
  simp [Entity.defaults, List.lookup_cons]

theorem written_text (name value : String) :
    WrittenMember (Entry.Written Whole) (name, .member (.string value) [])
      ((quote name).toList ++ [] ++ ':' :: [] ++ (quote value).toList) :=
  .mk blanks_nil blanks_nil (.member (.mk .string))

theorem sparse_notedText : Schema.Sparse plainOrders.toJson [] notedText.toList := by
  have hs : SparseObject Entity.defaults Entity.memberForms plainOrder.toJson _ _ :=
    .mk [("table_name", .member (.string "Orders") []),
        ("mapping_class", .member (.string "OrderMap") []),
        ("entity_class", .member (.string "Order") [])] Entity.defaults []
      (perm_plainOrder (by decide) (by simp [Entry.member?]; tauto)) lookup_entityDefaults nofun
      (by simp)
      (.first blanks_nil (written_text _ _) <| .next blanks_nil blanks_nil (written_text _ _) <|
        .next blanks_nil blanks_nil (written_text _ _) <| .nil blanks_nil)
  refine (congrArg (Schema.Sparse plainOrders.toJson []) ?_).mpr (sparse_noted hs)
  decide +kernel

theorem sparse_lossyText : Schema.Sparse plainOrders.toJson ["table_name"] lossyText.toList := by
  have hs : SparseObject Entity.defaults Entity.memberForms plainOrder.toJson _ _ :=
    .mk [("mapping_class", .member (.string "OrderMap") []),
        ("entity_class", .member (.string "Order") [])] Entity.defaults
      [("table_name", .string "Orders")]
      (perm_plainOrder (by decide) (by simp [Entry.member?]; tauto)) lookup_entityDefaults
      (by simp [Entity.defaults, List.lookup_cons]) (by simp)
      (.first blanks_nil (written_text _ _) <| .next blanks_nil blanks_nil (written_text _ _) <|
        .nil blanks_nil)
  refine (congrArg (Schema.Sparse plainOrders.toJson ["table_name"]) ?_).mpr (sparse_noted hs)
  decide +kernel

end Sample

open Sample in
theorem Schema.parse_plainOrders :
    (Schema.Sparse plainOrders.toJson [] notedText.toList ∧ parse notedText = .ok plainOrders) ∧
      Schema.Sparse plainOrders.toJson ["table_name"] lossyText.toList ∧
        parse lossyText = .error (.missingField "table_name") := by
  refine ⟨⟨sparse_notedText, (parse_sparse sparse_notedText).1 rfl⟩, sparse_lossyText, ?_⟩
  obtain ⟨name, hm, he⟩ := (parse_sparse sparse_lossyText).2 (by simp)
  rwa [List.mem_singleton.mp hm] at he

end EntityMapping
