import EntityMapping.Proofs.Document.Skipping
import EntityMapping.Proofs.Document.Values
import EntityMapping.Proofs.Json.Sparse
import Mathlib.Data.List.Pairwise

/-! # Records that are read back

A record is read back from the sparse forms of an object that has a member for each of its fields.
What the members put into the record does not depend on their order, and what is left out for its
default is in the record from the start. A record that has lost a member is faulted for it.
-/

namespace EntityMapping.Document

open Json (quote ofList Blanks blanks_nil Begins Forms Whole Entry SparseList SparseObject Starts
  Written WrittenMember WrittenItems starts_writtenMember)

variable {α β : Type} {Form : β → List Char → Prop} {a blank : α} {text rest : List Char}
variable {fields : List (Field α)} {fromStart : Bool} {lost : List String}
variable {form : String → Forms} {defaults members : List (String × Json)}

theorem Reads.whole {read : Reading α} {v : Json} (h : Reads read v a) (lost : List String) :
    Yields read (Whole v lost) lost a := by
  rintro before text rest hb ⟨hw⟩ he
  exact h.yields hb hw he

theorem yields_sparseList {read : Reading α} {sparse : Forms} {f : α → Json}
    (hf : ∀ v lost text, sparse v lost text → ∃ c rest, text = c :: rest ∧ Begins c)
    (h : ∀ a lost, Yields read (sparse (f a) lost) lost a) (as : List α) (lost : List String) :
    Yields (readList read) (SparseList sparse (ofList f as) lost) lost as := by
  generalize hv : ofList f as = v
  rintro before text rest hb hw he
  cases hw with
  | @mk elements _ hw =>
    have hs : Starts Begins fun e : Json × List String => sparse e.1 e.2 :=
      fun _ _ hm => hf _ _ _ hm
    have heq : List.Forall₂ (fun e a => e.1 = f a) elements as := by
      have hmap := List.forall₂_eq_eq_eq ▸ (Json.array.inj hv).symm
      rwa [List.forall₂_map_left_iff, List.forall₂_map_right_iff] at hmap
    refine yields_list hs (heq.imp fun e a he => ?_) hb hw he
    rw [he]
    exact h a e.2

/-- A field with the value that a document has for it and what this puts into the record. -/
structure Filling (form : String → Forms) (defaults : List (String × Json)) (blank : α) where
  field : Field α
  value : Json
  put : α → α
  yields : ∀ lost, Yields field.read (form field.name value lost) lost put
  required : field.required = (defaults.lookup field.name).isNone
  default : defaults.lookup field.name = some value → put blank = blank

namespace Filling

variable {fillings : List (Filling form defaults blank)}

def name (f : Filling form defaults blank) : String := f.field.name

def member (f : Filling form defaults blank) : String × Json := (f.name, f.value)

def fill (fillings : List (Filling form defaults blank)) (a : α) : α :=
  fillings.foldl (fun a f => f.put a) a

end Filling

/-- The members, one for each of the fields in order, and what they put into a record. -/
inductive Fills (form : String → Forms) (defaults : List (String × Json)) (blank : α) :
    List (Field α) → List (String × Json) → List (α → α) → Prop
  | nil : Fills form defaults blank [] [] []
  | cons (f : Filling form defaults blank) {fields : List (Field α)}
      {members : List (String × Json)} {puts : List (α → α)} :
      Fills form defaults blank fields members puts →
      Fills form defaults blank (f.field :: fields) (f.member :: members) (f.put :: puts)

namespace Fills

variable {name : String} {read : Reading β} {enter : β → α → α} {v d : Json} {value value' : β}
  {puts : List (α → α)}

theorem required (h : ∀ lost, Yields read (form name v lost) lost value)
    (hd : defaults.lookup name = none) (hs : Fills form defaults blank fields members puts) :
    Fills form defaults blank (.mandatory name read enter :: fields) ((name, v) :: members)
      (enter value :: puts) := by
  refine .cons ⟨.mandatory name read enter, v, enter value, fun lost => (h lost).map enter, ?_,
    fun he => ?_⟩ hs
  · simp [Field.mandatory, hd]
  · cases hd.symm.trans he

theorem optional (h : ∀ lost, Yields read (form name v lost) lost value)
    (hd : defaults.lookup name = some d) (hv : v = d → value = value')
    (hb : enter value' blank = blank) (hs : Fills form defaults blank fields members puts) :
    Fills form defaults blank (.optional name read enter :: fields) ((name, v) :: members)
      (enter value :: puts) := by
  refine .cons ⟨.optional name read enter, v, enter value, fun lost => (h lost).map enter, ?_,
    fun he => ?_⟩ hs
  · simp [Field.optional, hd]
  · rw [hv (Option.some.inj (he.symm.trans hd)), hb]

theorem exists_fillings (h : Fills form defaults blank fields members puts) :
    ∃ fillings : List (Filling form defaults blank), fields = fillings.map Filling.field ∧
      members = fillings.map Filling.member ∧ puts = fillings.map Filling.put := by
  induction h with
  | nil => exact ⟨[], rfl, rfl, rfl⟩
  | cons f _ ih =>
    obtain ⟨fillings, rfl, rfl, rfl⟩ := ih
    exact ⟨f :: fillings, rfl, rfl, rfl⟩

end Fills

/-! ## The members of an object -/

variable {shape : Shape α} {seen : List String} {bound : Nat} {entries : List (String × Entry)}

abbrev EntryForm (form : String → Forms) (e : String × Entry) : List Char → Prop :=
  WrittenMember (Entry.Written (form e.1)) e

theorem starts_entryForm : Starts (· = '"') (EntryForm form) := fun _ _ h =>
  starts_writtenMember h

section Steps

variable {name : String} {before s t : List Char}

def NextIs (fromStart : Bool) (name : String) (s t : List Char) : Prop :=
  ∃ before, Blanks before ∧
    (nextMember fromStart).run s = pure (true, (quote name).toList ++ (before ++ ':' :: t))

theorem members_field {field : Field α} (h : NextIs fromStart name s t)
    (hf : shape.fields.find? (·.name == name) = some field) (hn : name ∉ seen) :
    (shape.members (bound + 1) fromStart seen a).run s =
      field.read.run t >>= fun p =>
        (shape.members bound false (name :: seen) (p.1 a)).run p.2 := by
  obtain ⟨before, hb, hnext⟩ := h
  simp [Shape.members, hnext, readString_start, hf, hn, colon_run hb]

theorem members_unknown (h : NextIs fromStart name s t)
    (hf : name ∉ shape.fields.map Field.name) :
    (shape.members (bound + 1) fromStart seen a).run s =
      skipValue.run t >>= fun p => (shape.members bound false seen a).run p.2 := by
  obtain ⟨before, hb, hnext⟩ := h
  have hnone : shape.fields.find? (·.name == name) = none := by
    rw [List.find?_eq_none]
    intro f hm hname
    exact hf (List.mem_map.mpr ⟨f, hm, by simpa using hname⟩)
  simp [Shape.members, hnext, readString_start, hnone, colon_run hb]

end Steps

theorem members_run {fillings : List (Filling form defaults blank)}
    (hentries : entries.filterMap Entry.member? = fillings.map Filling.member)
    (hfind : ∀ f ∈ fillings, shape.fields.find? (·.name == f.name) = some f.field)
    (hunknown : ∀ name, (name, .unknown) ∈ entries → name ∉ shape.fields.map Field.name)
    (hn : (fillings.map Filling.name ++ seen).Nodup)
    (hw : WrittenItems (EntryForm form) '\x7d' fromStart entries text)
    (hl : entries.length < bound) :
    Outcome (entries.flatMap fun e => e.2.lost)
      ((fillings.map Filling.name).reverse ++ seen, Filling.fill fillings a) ('\x7d' :: rest)
      ((shape.members bound fromStart seen a).run (text ++ rest)) := by
  -- A name is read once, since those in `seen` and those of the fields to come are all distinct.
  induction entries generalizing fromStart seen text bound fillings a with
  | nil =>
    obtain ⟨n, rfl⟩ : ∃ n, bound = n + 1 := ⟨bound - 1, by omega⟩
    obtain rfl : fillings = [] := List.map_eq_nil_iff.mp hentries.symm
    simp only [Shape.members, StateT.run_bind, nextMember_nil hw, pure_bind]
    exact .whole rfl
  | cons e entries ih =>
    obtain ⟨n, rfl⟩ : ∃ n, bound = n + 1 := ⟨bound - 1, by omega⟩
    obtain ⟨t, others, ht, hothers, hnext⟩ := nextMember_cons starts_entryForm hw
    have hlater := fun name hm => hunknown name (.tail _ hm)
    have hbound : entries.length < n := Nat.lt_of_succ_lt_succ hl
    cases ht with
    | @mk name entry before after t hb ha hv =>
      have hname : NextIs fromStart name (text ++ rest) (after ++ (t ++ (others ++ rest))) :=
        ⟨before, hb, by simpa using hnext rest⟩
      cases hv with
      | unknown hv =>
        have hskip := skipValue_run ha hv (ends_items (by simp) hothers rest)
        rw [members_unknown hname (hunknown name (.head _)), hskip]
        exact ih hentries hfind hlater hn hothers hbound
      | @member v lost t hv =>
        obtain ⟨f, fs, rfl, hf, hfs⟩ := List.map_eq_cons_iff.mp hentries.symm
        obtain ⟨rfl, rfl⟩ := Prod.mk.inj hf
        have hnew : f.name ∉ seen := fun hs =>
          (List.nodup_cons.mp hn).1 (List.mem_append_right _ hs)
        have hput := f.yields lost ha hv (ends_items (by simp) hothers rest)
        rw [members_field hname (hfind f (.head _)) hnew]
        have hseen : (f.name :: fs.map Filling.name).reverse ++ seen =
            (fs.map Filling.name).reverse ++ f.name :: seen := by simp
        rw [List.map_cons, hseen]
        exact hput.bind fun _ => ih hfs.symm (fun g hg => hfind g (.tail _ hg)) hlater
          (List.nodup_middle.mpr hn) hothers hbound

/-! ## Records -/

theorem exists_parts {fillings : List (Filling form defaults blank)}
    {written omitted lacking : List (String × Json)}
    (h : (fillings.map Filling.member).Perm (written ++ omitted ++ lacking)) :
    ∃ w o l : List (Filling form defaults blank), fillings.Perm (w ++ o ++ l) ∧
      written = w.map Filling.member ∧ omitted = o.map Filling.member ∧
      lacking = l.map Filling.member := by
  have hr : List.Forall₂ (fun m (f : Filling form defaults blank) => m = f.member)
      (fillings.map Filling.member) fillings :=
    List.forall₂_map_left_iff.mpr (List.forall₂_same.mpr fun _ _ => rfl)
  obtain ⟨parts, hparts, hp⟩ := List.perm_comp_forall₂ h.symm hr
  have hm := List.forall₂_map_right_iff.mpr hparts
  rw [List.forall₂_eq_eq_eq] at hm
  obtain ⟨front, l, rfl, hfront, rfl⟩ := List.append_eq_map_iff.mp hm
  obtain ⟨w, o, rfl, rfl, rfl⟩ := List.append_eq_map_iff.mp hfront.symm
  exact ⟨w, o, l, hp.symm, rfl, rfl, rfl⟩

namespace Filling

theorem fill_default {o : List (Filling form defaults blank)} (h : ∀ f ∈ o, f.put blank = blank) :
    fill o blank = blank := by
  induction o with
  | nil => rfl
  | cons f o ih =>
    obtain ⟨hf, ho⟩ := List.forall_mem_cons.mp h
    rw [fill, List.foldl_cons, hf]
    exact ih ho

theorem fill_written {fillings w o : List (Filling form defaults blank)}
    (hc : fillings.Pairwise fun f g => ∀ a, f.put (g.put a) = g.put (f.put a))
    (hp : fillings.Perm (w ++ o)) (ho : ∀ f ∈ o, f.put blank = blank) :
    fill w blank = fill fillings blank := by
  have hsymm : Std.Symm fun f g : Filling form defaults blank =>
      ∀ a, f.put (g.put a) = g.put (f.put a) := ⟨fun _ _ h a => (h a).symm⟩
  have hcomm : ∀ f ∈ fillings, ∀ g ∈ fillings, ∀ a, g.put (f.put a) = f.put (g.put a) :=
    fun f hf g hg a => (hc.forall_of_forall (fun _ _ _ => rfl) hf hg a).symm
  calc
    fill w blank = fill w (fill o blank) := by rw [fill_default ho]
    _ = fill (o ++ w) blank := List.foldl_append.symm
    _ = fill fillings blank := ((hp.trans List.perm_append_comm).foldl_eq' hcomm blank).symm

end Filling

/-- The fields of a record, taken apart into those whose members are written, those whose members
are left out for their defaults, and those whose members are lost. -/
structure Parts (shape : Shape α) (fillings w o l : List (Filling form defaults blank)) : Prop where
  fields : shape.fields = fillings.map Filling.field
  nodup : (fillings.map Filling.name).Nodup
  perm : fillings.Perm (w ++ o ++ l)
  omitted : ∀ f ∈ o, f.field.required = false
  lacking : ∀ f ∈ l, f.field.required = true

namespace Parts

variable {fillings w o l : List (Filling form defaults blank)}

theorem mem_iff (hp : Parts shape fillings w o l) (f : Filling form defaults blank) :
    f ∈ fillings ↔ f ∈ w ∨ f ∈ o ∨ f ∈ l := by
  rw [hp.perm.mem_iff, List.append_assoc, List.mem_append, List.mem_append]

theorem nodup_written (hp : Parts shape fillings w o l) : (w.map Filling.name).Nodup := by
  have hn := hp.nodup
  rw [(hp.perm.map Filling.name).nodup_iff, List.append_assoc, List.map_append] at hn
  exact hn.of_append_left

theorem not_mem_written (hp : Parts shape fillings w o l) {f : Filling form defaults blank}
    (hf : f ∈ l) : f.name ∉ w.map Filling.name := by
  have hn := hp.nodup
  rw [(hp.perm.map Filling.name).nodup_iff, List.append_assoc, List.map_append] at hn
  exact fun hw => List.disjoint_of_nodup_append hn hw
    (List.mem_map_of_mem (List.mem_append_right _ hf))

/-- The first field that is missing is one that has been lost, if there is one. -/
theorem missing?_eq (hp : Parts shape fillings w o l) :
    (l = [] ∧ shape.missing? (w.map Filling.name).reverse = none) ∨
      ∃ f ∈ l, shape.missing? (w.map Filling.name).reverse = some f.field := by
  cases hm : shape.missing? (w.map Filling.name).reverse with
  | none =>
    refine .inl ⟨List.eq_nil_iff_forall_not_mem.mpr fun f hf => ?_, rfl⟩
    have hfield : f.field ∈ shape.fields := by
      rw [hp.fields]
      exact List.mem_map_of_mem ((hp.mem_iff f).mpr (.inr (.inr hf)))
    have hnew : f.field.name ∉ w.map Filling.name := hp.not_mem_written hf
    have hnone := List.find?_eq_none.mp hm _ hfield
    simp [hp.lacking f hf, hnew] at hnone
  | some field =>
    have hs := List.find?_some hm
    simp only [Bool.and_eq_true, Bool.not_eq_true', List.contains_eq_mem, decide_eq_false_iff_not,
      List.mem_reverse] at hs
    have hfield := List.mem_of_find?_eq_some hm
    rw [hp.fields] at hfield
    obtain ⟨f, hf, rfl⟩ := List.mem_map.mp hfield
    rcases (hp.mem_iff f).mp hf with hw | ho | hl
    · exact (hs.2 (List.mem_map_of_mem hw)).elim
    · rw [hp.omitted f ho] at hs
      cases hs.1
    · exact .inr ⟨f, hl, rfl⟩

theorem members_run (hp : Parts shape fillings w o l)
    (hwritten : entries.filterMap Entry.member? = w.map Filling.member)
    (hunknown : ∀ name, (name, .unknown) ∈ entries → name ∉ fillings.map Filling.name)
    (hw : WrittenItems (EntryForm form) '\x7d' true entries text) :
    Outcome (entries.flatMap fun e => e.2.lost)
      ((w.map Filling.name).reverse, Filling.fill w a) ('\x7d' :: rest)
      ((shape.members ((text ++ rest).length + 1) true [] a).run (text ++ rest)) := by
  have hnames : shape.fields.map Field.name = fillings.map Filling.name := by
    rw [hp.fields, List.map_map]
    rfl
  have hfind : ∀ f ∈ w, shape.fields.find? (·.name == f.name) = some f.field := by
    intro f hf
    refine find?_name ?_ ?_
    · rw [hnames]
      exact hp.nodup
    · rw [hp.fields]
      exact List.mem_map_of_mem ((hp.mem_iff f).mpr (.inl hf))
  have hseen : (w.map Filling.name ++ []).Nodup := by
    rw [List.append_nil]
    exact hp.nodup_written
  have hbound : entries.length < (text ++ rest).length + 1 := by
    have hl := hw.length_le starts_entryForm
    rw [List.length_append]
    omega
  rw [← hnames] at hunknown
  simpa using Document.members_run hwritten hfind hunknown hseen hw hbound

end Parts

def result (shape : Shape α) (seen : List String) (a : α) (rest : List Char) :
    Except Fault (α × List Char) :=
  match shape.missing? seen with
  | some field => .error (.missingField field.name)
  | none => pure (a, rest)

theorem read_object {before : List Char} (hb : Blanks before) :
    shape.read.run (before ++ '\x7b' :: text) =
      (shape.members (text.length + 1) true [] shape.blank).run text >>= fun p =>
        result shape p.1.1 p.1.2 (p.2.drop 1) := by
  simp only [Shape.read, StateT.run_bind, peek_run hb (show isBlank '\x7b' = false from rfl),
    pure_bind, skip_run, StateT.run_get]
  congr 1
  funext ⟨⟨seen, a⟩, rest⟩
  simp only [result]
  cases shape.missing? seen <;> rfl

theorem yields_object {puts : List (α → α)} (hn : (shape.fields.map Field.name).Nodup)
    (h : Fills form defaults shape.blank shape.fields members puts)
    (hc : puts.Pairwise fun f g => ∀ a, f (g a) = g (f a))
    (ha : puts.foldl (fun a put => put a) shape.blank = a) (lost : List String) :
    Yields shape.read (SparseObject defaults form (.object members) lost) lost a := by
  obtain ⟨fillings, hfields, rfl, rfl⟩ := h.exists_fillings
  rintro before _ rest hb (@⟨_, omitted, lacking, entries, inner, hperm, homitted, hlacking,
    hunknown, hw⟩) -
  obtain ⟨w, o, l, hp, hwritten, rfl, rfl⟩ := exists_parts hperm
  have hdefault : ∀ f ∈ o, defaults.lookup f.field.name = some f.value := fun f hf =>
    homitted _ (List.mem_map_of_mem hf)
  have hnone : ∀ f ∈ l, defaults.lookup f.field.name = none := fun f hf =>
    hlacking _ (List.mem_map_of_mem hf)
  have hparts : Parts shape fillings w o l := by
    refine ⟨hfields, ?_, hp, fun f hf => ?_, fun f hf => ?_⟩
    · rw [hfields, List.map_map] at hn
      exact hn
    · rw [f.required, hdefault f hf, Option.isNone_some]
    · rw [f.required, hnone f hf, Option.isNone_none]
  have hnames : (fillings.map Filling.member).map Prod.fst = fillings.map Filling.name := by
    rw [List.map_map]
    rfl
  rw [hnames] at hunknown
  rw [List.cons_append, read_object hb]
  refine (hparts.members_run hwritten hunknown hw).bind fun _ => ?_
  simp only [result, List.drop_one, List.tail_cons]
  rcases hparts.missing?_eq with ⟨rfl, hm⟩ | ⟨f, hf, hm⟩
  · rw [hm]
    rw [List.append_nil] at hp
    have hfill := Filling.fill_written (List.pairwise_map.mp hc) hp fun f hf =>
      f.default (hdefault f hf)
    rw [List.foldl_map] at ha
    rw [hfill, Filling.fill, ha]
    exact .whole rfl
  · rw [hm]
    refine .missing ?_
    rw [List.map_map]
    exact List.mem_map_of_mem hf

end EntityMapping.Document
