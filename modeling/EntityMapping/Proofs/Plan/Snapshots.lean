import EntityMapping.Plan.Snapshot
import EntityMapping.Proofs.Document.AnyValue

/-! # Snapshots that are read back

A snapshot says all that is in a plan: the plan is read back from it, whatever the plan holds. So
two plans of one snapshot are one plan.
-/

namespace EntityMapping

open Json (ofOption ofList strings field? fieldOr? string? bool? int32? list? nullable? pair?
  cardinality? Blanks)

namespace Json

variable {α : Type} {f : α → Json} {read : Json → Option α}

theorem list?_ofList (h : ∀ a, read (f a) = some a) (as : List α) :
    list? read (ofList f as) = some as := by
  induction as with
  | nil => rfl
  | cons a as ih =>
    simp only [list?, ofList, List.map_cons] at ih ⊢
    simp [h, ih]

theorem nullable?_ofOption (h : ∀ a, read (f a) = some a) (hf : ∀ a, f a ≠ null) (o : Option α) :
    nullable? read (ofOption f o) = some o := by
  cases o with
  | none => rfl
  | some a =>
    have hn := hf a
    have hr := h a
    revert hn hr
    simp only [ofOption]
    cases f a <;> simp_all [nullable?]

@[simp] theorem int32?_toInt (n : Int32) : int32? (.int n.toInt) = some n := by
  simp [int32?]

section Members

variable {name other : String} {v : Json} {members : List (String × Json)} {default : α}

@[simp] theorem field?_head : field? read name (object ((name, v) :: members)) = read v := by
  simp [field?, member?]

@[simp] theorem field?_tail (h : name ≠ other) :
    field? read name (object ((other, v) :: members)) = field? read name (object members) := by
  simp [field?, member?, List.lookup_cons, beq_false_of_ne h]

@[simp] theorem fieldOr?_head :
    fieldOr? read name default (object ((name, v) :: members)) = read v := by
  simp [fieldOr?, member?]

@[simp] theorem fieldOr?_tail (h : name ≠ other) :
    fieldOr? read name default (object ((other, v) :: members)) =
      fieldOr? read name default (object members) := by
  simp [fieldOr?, member?, List.lookup_cons, beq_false_of_ne h]

@[simp] theorem string?_string (s : String) : string? (string s) = some s := rfl

@[simp] theorem bool?_bool (b : Bool) : bool? (bool b) = some b := rfl

@[simp] theorem strings?_strings (texts : List String) :
    list? string? (strings texts) = some texts :=
  list?_ofList string?_string texts

@[simp] theorem string?_ofOption (s : Option String) :
    nullable? string? (ofOption string s) = some s :=
  nullable?_ofOption string?_string nofun s

@[simp] theorem cardinality?_name (c : Cardinality) : cardinality? (string c.name) = some c := by
  cases c <;> decide

end Members

end Json

theorem Directive.ofJson?_toJson (d : Directive) : ofJson? d.toJson = some d := by
  cases d <;> simp [toJson, value?, kind, ofJson?]

theorem Statement.ofJson?_toJson (s : Statement) : ofJson? s.toJson = some s := by
  cases s with
  | property name directives =>
    have hd := Json.list?_ofList Directive.ofJson?_toJson directives
    simp [toJson, fields, kind, ofJson?, hd]
  | _ => simp [toJson, fields, kind, ofJson?, Json.optionalText?]

theorem TableConstants.ofJson?_toJson (c : TableConstants) : ofJson? c.toJson = some c := by
  have hpair : ∀ column : String × String, pair? (strings [column.1, column.2]) = some column :=
    fun _ => rfl
  have hc := Json.list?_ofList hpair c.columns
  simp [toJson, ofJson?, Json.optionalText?, hc]

namespace MappingPlan

theorem ofJson?_toJson (plan : MappingPlan) : ofJson? plan.toJson = some plan := by
  have hs := Json.list?_ofList Statement.ofJson?_toJson plan.statements
  have hc := Json.nullable?_ofOption TableConstants.ofJson?_toJson nofun plan.constants
  simp [toJson, ofJson?, hs, hc]

def ofSnapshot? (text : String) : Option MappingPlan :=
  (Document.document Document.readValue text).toOption.bind ofJson?

/-- A plan is read back from its snapshot, so that different plans have different snapshots. -/
theorem ofSnapshot?_snapshot :
    (∀ plan : MappingPlan, ofSnapshot? plan.snapshot = some plan) ∧
      Function.Injective snapshot := by
  have hread : ∀ plan : MappingPlan, ofSnapshot? plan.snapshot = some plan := by
    intro plan
    have hd : Document.document Document.readValue plan.snapshot = .ok plan.toJson :=
      Document.document_eq_ok (Document.reads_value _) (Json.written_pretty _)
        (String.toList_append ..) (by simp [Blanks, Document.isBlank])
    simp [ofSnapshot?, hd, Except.toOption, ofJson?_toJson]
  refine ⟨hread, fun plan plan' h => ?_⟩
  have hplan := hread plan
  rw [h, hread plan'] at hplan
  exact (Option.some.inj hplan).symm

end MappingPlan

end EntityMapping
