import EntityMapping.Proofs.Json.Grammar
import Mathlib.Data.List.Perm.Basic

/-! # Sparse forms of values

An object may be written without members that have their defaults, in any order, and with further
entries by names that it has no members of. Where a member without a default is missing, the form is
one of a value that has lost this member.
-/

namespace EntityMapping.Json

open Document (isBlank)

/-- Forms of values, with the names of the members that each has lost. -/
abbrev Forms := Json → List String → List Char → Prop

inductive Whole (v : Json) : List String → List Char → Prop
  | mk {text : List Char} : Written v text → Whole v [] text

inductive SparseList (form : Forms) : Forms
  | mk (elements : List (Json × List String)) {text : List Char} :
      WrittenArray (fun e => form e.1 e.2) elements text →
      SparseList form (.array (elements.map Prod.fst)) (elements.flatMap Prod.snd) text

/-- What stands under a name in an object: the value of a member, with what this has lost, or a
value of no member. -/
inductive Entry where
  | member (v : Json) (lost : List String)
  | unknown

namespace Entry

def member? : String × Entry → Option (String × Json)
  | (name, member v _) => some (name, v)
  | (_, unknown) => none

def lost : Entry → List String
  | member _ lost => lost
  | unknown => []

inductive Written (form : Forms) : Entry → List Char → Prop
  | member {v : Json} {lost : List String} {text : List Char} :
      form v lost text → Written form (member v lost) text
  | unknown {text : List Char} : ValueText text → Written form unknown text

end Entry

/-- The forms of an object. Its members are those that are written, those that are left out for
their defaults, and those without a default that it has lost. -/
inductive SparseObject (defaults : List (String × Json)) (form : String → Forms) : Forms
  | mk (entries : List (String × Entry)) (omitted lacking : List (String × Json))
      {members : List (String × Json)} {text : List Char} :
      members.Perm (entries.filterMap Entry.member? ++ omitted ++ lacking) →
      (∀ m ∈ omitted, defaults.lookup m.1 = some m.2) →
      (∀ m ∈ lacking, defaults.lookup m.1 = none) →
      (∀ name, (name, .unknown) ∈ entries → name ∉ members.map Prod.fst) →
      WrittenItems (fun e => WrittenMember (Entry.Written (form e.1)) e) '\x7d' true entries text →
      SparseObject defaults form (.object members)
        (entries.flatMap (fun e => e.2.lost) ++ lacking.map Prod.fst) ('\x7b' :: text)

variable {v : Json} {lost : List String} {text : List Char}
variable {form : Forms} {defaults : List (String × Json)} {forms : String → Forms}

theorem SparseObject.exists_cons (h : SparseObject defaults forms v lost text) :
    ∃ c rest, text = c :: rest ∧ Begins c := by
  cases h with
  | mk _ _ _ _ _ => exact ⟨_, _, rfl, by simp [Begins, isBlank]⟩

/-! ## Whole forms among the sparse ones -/

theorem sparseList_of_written {elements : List Json}
    (h : ∀ v ∈ elements, ∀ text, Written v text → form v [] text)
    (hw : Written (.array elements) text) : SparseList form (.array elements) [] text := by
  cases hw with
  | array hs =>
    have hi : WrittenItems (fun e : Json × List String => form e.1 e.2) ']' true
        (elements.map fun v => (v, [])) _ := hs.map fun v hv t _ => h v hv t
    have hm : (elements.map fun v => (v, ([] : List String))).map Prod.fst = elements := by
      simp [Function.comp_def]
    have hl : (elements.map fun v => (v, ([] : List String))).flatMap Prod.snd = [] := by
      simp [List.flatMap_map]
    have hsparse : SparseList form _ _ _ := .mk _ ⟨hi⟩
    rwa [hm, hl] at hsparse

theorem sparseObject_of_written {members : List (String × Json)}
    (h : ∀ m ∈ members, ∀ text, Written m.2 text → forms m.1 m.2 [] text)
    (hw : Written (.object members) text) :
    SparseObject defaults forms (.object members) [] text := by
  cases hw with
  | object hs =>
    have hi : WrittenItems (fun e : String × Entry => WrittenMember (Entry.Written (forms e.1)) e)
        '\x7d' true (members.map fun m => (m.1, .member m.2 [])) _ := hs.map fun m hm t _ ht => by
      cases ht with
      | mk hb ha hv => exact .mk hb ha (.member (h _ hm _ hv))
    have hm : (members.map fun m => (m.1, Entry.member m.2 [])).filterMap Entry.member? =
        members := by
      simp [List.filterMap_map, Entry.member?, Function.comp_def]
    have hl : (members.map fun m => (m.1, Entry.member m.2 [])).flatMap (fun e => e.2.lost) =
        [] := by
      simp [List.flatMap_map, Entry.lost]
    have hsparse : SparseObject defaults forms (.object members) _ _ :=
      .mk _ [] [] (by simp [hm]) nofun nofun (by simp) hi
    rwa [hl] at hsparse

end EntityMapping.Json
