import EntityMapping.Proofs.Document.Records
import EntityMapping.Schema.Reader

/-! # Records of schema documents that are read back

Which members of a schema document may be left out, and the values that they then have. Every record
is read back from its sparse forms, and so are the lists of records in it.
-/

namespace EntityMapping

open Document
open Json (Forms Whole SparseList SparseObject ofOption ofList strings)

theorem ValueType.ofTypeName_name (t : ValueType) : ofTypeName t.name = t := by
  cases t <;> decide +kernel

example : (ValueType.ofTypeName "System.Int32?").name = "Numeric" := by decide +kernel

theorem ValueGenerated.reads (g : ValueGenerated) :
    Reads (readVariant all name) (.string g.name) g :=
  reads_variant (by decide) (by cases g <;> decide)

theorem Cardinality.reads (c : Cardinality) : Reads (readVariant all name) (.string c.name) c :=
  reads_variant (by decide) (by cases c <;> decide)

theorem reads_text? (s : Option String) :
    Reads (readNullable readString) (ofOption .string s) s :=
  reads_ofOption reads_string nofun s

theorem reads_size? (n : Option Int32) :
    Reads (readNullable readInt32) (ofOption (fun n => .int n.toInt) n) n :=
  reads_ofOption reads_int32 nofun n

theorem reads_strings (texts : List String) : Reads (readList readString) (strings texts) texts :=
  reads_ofList reads_string texts

theorem eq_none_of_text? {s : Option String} (h : ofOption .string s = .null) : s = none := by
  cases s with
  | none => rfl
  | some s => cases h

theorem eq_none_of_size? {n : Option Int32} (h : ofOption (fun n => .int n.toInt) n = .null) :
    n = none := by
  cases n with
  | none => rfl
  | some n => cases h

theorem eq_nil_of_list {α : Type} {f : α → Json} {as : List α} (h : ofList f as = .array []) :
    as = [] :=
  List.map_eq_nil_iff.mp (Json.array.inj h)

theorem ValueGenerated.eq_none {g : ValueGenerated} (h : Json.string g.name = .string "None") :
    g = .none := by
  cases g <;> simp [name] at h ⊢

/-! ## Defaults -/

/-- The members of each record that may be left out, with their values where they are. -/
def Property.defaults : List (String × Json) :=
  [("system_type", .string "Other"), ("store_type", .null), ("is_nullable", .bool false),
   ("size", .null), ("default", .null), ("computed_sql", .null), ("is_primary_key", .bool false),
   ("is_row_version", .bool false), ("is_hierarchy_id", .bool false),
   ("value_generated", .string "None")]

def Relationship.defaults : List (String × Json) :=
  [("is_one_to_one", .bool false), ("properties", .array []), ("relationship_name", .null),
   ("is_mapped", .bool true)]

def Index.defaults : List (String × Json) :=
  [("columns", .array []), ("is_unique", .bool false), ("filter", .null)]

def UniqueConstraint.defaults : List (String × Json) := [("columns", .array [])]

def Entity.defaults : List (String × Json) :=
  [("entity_namespace", .string ""), ("mapping_namespace", .string ""), ("table_schema", .null),
   ("is_view", .bool false), ("properties", .array []), ("relationships", .array []),
   ("indexes", .array []), ("unique_constraints", .array [])]

def Schema.defaults : List (String × Json) := [("entities", .array [])]

/-! ## Sparse forms -/

def Property.Sparse : Forms := SparseObject defaults fun _ => Whole

def Relationship.Sparse : Forms := SparseObject defaults fun _ => Whole

def Index.Sparse : Forms := SparseObject defaults fun _ => Whole

def UniqueConstraint.Sparse : Forms := SparseObject defaults fun _ => Whole

def Entity.memberForms : String → Forms
  | "properties" => SparseList Property.Sparse
  | "relationships" => SparseList Relationship.Sparse
  | "indexes" => SparseList Index.Sparse
  | "unique_constraints" => SparseList UniqueConstraint.Sparse
  | _ => Whole

def Entity.Sparse : Forms := SparseObject defaults memberForms

def Schema.Sparse : Forms := SparseObject defaults fun _ => SparseList Entity.Sparse

/-! ## Records -/

theorem Property.yields (p : Property) (lost : List String) :
    Yields shape.read (Property.Sparse p.toJson lost) lost p := by
  refine yields_object (by decide) (
    .required (reads_string p.propertyName).whole rfl <|
    .required (reads_string p.columnName).whole rfl <|
    .optional (reads_string p.valueType.name).whole rfl Json.string.inj (by decide +kernel) <|
    .optional (reads_text? p.storeType).whole rfl eq_none_of_text? rfl <|
    .optional (reads_bool p.isNullable).whole rfl Json.bool.inj rfl <|
    .optional (reads_size? p.size).whole rfl eq_none_of_size? rfl <|
    .optional (reads_text? p.default).whole rfl eq_none_of_text? rfl <|
    .optional (reads_text? p.computedSql).whole rfl eq_none_of_text? rfl <|
    .optional (reads_bool p.isPrimaryKey).whole rfl Json.bool.inj rfl <|
    .optional (reads_bool p.isRowVersion).whole rfl Json.bool.inj rfl <|
    .optional (reads_bool p.isHierarchyId).whole rfl Json.bool.inj rfl <|
    .optional p.valueGenerated.reads.whole rfl ValueGenerated.eq_none rfl <|
    .nil) ?_ ?_ lost
  · simp
  · simp only [List.foldl_cons, List.foldl_nil, ValueType.ofTypeName_name]

theorem Relationship.yields (r : Relationship) (lost : List String) :
    Yields shape.read (Relationship.Sparse r.toJson lost) lost r := by
  refine yields_object (by decide) (
    .required (reads_string r.propertyName).whole rfl <|
    .required (reads_string r.primaryEntity).whole rfl <|
    .required (reads_string r.primaryPropertyName).whole rfl <|
    .required r.primaryCardinality.reads.whole rfl <|
    .optional (reads_bool r.isOneToOne).whole rfl Json.bool.inj rfl <|
    .optional (reads_strings r.properties).whole rfl eq_nil_of_list rfl <|
    .optional (reads_text? r.relationshipName).whole rfl eq_none_of_text? rfl <|
    .optional (reads_bool r.isMapped).whole rfl Json.bool.inj rfl <|
    .nil) ?_ ?_ lost
  · simp
  · rfl

theorem Index.yields (i : Index) (lost : List String) :
    Yields shape.read (Index.Sparse i.toJson lost) lost i := by
  refine yields_object (by decide) (
    .required (reads_string i.name).whole rfl <|
    .optional (reads_strings i.columns).whole rfl eq_nil_of_list rfl <|
    .optional (reads_bool i.isUnique).whole rfl Json.bool.inj rfl <|
    .optional (reads_text? i.filter).whole rfl eq_none_of_text? rfl <|
    .nil) ?_ ?_ lost
  · simp
  · rfl

theorem UniqueConstraint.yields (c : UniqueConstraint) (lost : List String) :
    Yields shape.read (UniqueConstraint.Sparse c.toJson lost) lost c := by
  refine yields_object (by decide) (
    .required (reads_string c.name).whole rfl <|
    .optional (reads_strings c.columns).whole rfl eq_nil_of_list rfl <|
    .nil) ?_ ?_ lost
  · simp
  · rfl

theorem Entity.yields (e : Entity) (lost : List String) :
    Yields shape.read (Entity.Sparse e.toJson lost) lost e := by
  refine yields_object (by decide) (
    .required (reads_string e.entityClass).whole rfl <|
    .optional (reads_string e.entityNamespace).whole rfl Json.string.inj rfl <|
    .required (reads_string e.mappingClass).whole rfl <|
    .optional (reads_string e.mappingNamespace).whole rfl Json.string.inj rfl <|
    .required (reads_string e.tableName).whole rfl <|
    .optional (reads_text? e.tableSchema).whole rfl eq_none_of_text? rfl <|
    .optional (reads_bool e.isView).whole rfl Json.bool.inj rfl <|
    .optional (yields_sparseList (fun _ _ _ => SparseObject.exists_cons) Property.yields
      e.properties) rfl eq_nil_of_list rfl <|
    .optional (yields_sparseList (fun _ _ _ => SparseObject.exists_cons) Relationship.yields
      e.relationships) rfl eq_nil_of_list rfl <|
    .optional (yields_sparseList (fun _ _ _ => SparseObject.exists_cons) Index.yields
      e.indexes) rfl eq_nil_of_list rfl <|
    .optional (yields_sparseList (fun _ _ _ => SparseObject.exists_cons) UniqueConstraint.yields
      e.uniqueConstraints) rfl eq_nil_of_list rfl <|
    .nil) ?_ ?_ lost
  · simp
  · rfl

theorem Schema.yields (s : Schema) (lost : List String) :
    Yields shape.read (Schema.Sparse s.toJson lost) lost s := by
  refine yields_object (by decide) (
    .optional (yields_sparseList (fun _ _ _ => SparseObject.exists_cons) Entity.yields
      s.entities) rfl eq_nil_of_list rfl .nil) ?_ ?_ lost
  · simp
  · rfl

end EntityMapping
