import EntityMapping.Output.FileTree
import EntityMapping.Proofs.Outcome
import EntityMapping.Proofs.Output.Path

/-! # Changes to file trees

Writing a file and making a directory put one entry into a directory that is there. So trees stay
well formed, directories stay where they are, and a path that leads to a place leads there still.
-/

namespace EntityMapping.Output.FileTree

open Outcome

variable {t t' made : FileTree} {place q directory : Place} {name : String} {entry : Entry}
  {names more : List String} {p : Path}

/-! ## Entries -/

theorem lookup_filter_of_ne {entries : List (Place × Entry)} (h : q ≠ place) :
    (entries.filter (·.1 != place)).lookup q = entries.lookup q := by
  induction entries with
  | nil => rfl
  | cons e entries ih =>
    by_cases he : e.1 = place
    · have hq : (q == e.1) = false := by simpa [he] using h
      rw [List.filter_cons_of_neg (by simp [he]), ih, List.lookup_cons, hq]
    · rw [List.filter_cons_of_pos (by simp [he]), List.lookup_cons, List.lookup_cons, ih]

theorem entry?_put_self (h : place ≠ []) : FileTree.entry? (t.put place entry) place = some entry := by
  simp [FileTree.entry?, put, h]

theorem entry?_put_of_ne (h : q ≠ place) : FileTree.entry? (t.put place entry) q = t.entry? q := by
  have hb : (q == place) = false := by simpa using h
  simp only [FileTree.entry?, put, List.lookup_cons, hb, lookup_filter_of_ne h]

/-- Every entry is in a directory and has a name without a slash. -/
structure WellFormed (t : FileTree) : Prop where
  parents : ∀ {place name}, (t.entry? (place ++ [name])).isSome → t.entry? place = some .directory
  names : ∀ {place name}, (t.entry? (place ++ [name])).isSome → '/' ∉ name.toList

theorem wellFormed_empty : ({} : FileTree).WellFormed := by
  constructor <;> intro place name h <;> simp [FileTree.entry?] at h

theorem WellFormed.directory_of_below (h : t.WellFormed) {below : List String}
    (hb : (t.entry? (place ++ name :: below)).isSome) : t.entry? place = some .directory := by
  induction below generalizing place name with
  | nil => exact h.parents hb
  | cons next below ih =>
    have hnext : (t.entry? ((place ++ [name]) ++ next :: below)).isSome := by
      rwa [List.append_assoc, List.singleton_append]
    exact h.parents (by rw [ih hnext]; rfl)

theorem WellFormed.put (h : t.WellFormed) (hd : t.entry? directory = some .directory)
    (hs : '/' ∉ name.toList) (hn : t.entry? (directory ++ [name]) ≠ some .directory) :
    (t.put (directory ++ [name]) entry).WellFormed := by
  have hdir : ∀ q, t.entry? q = some .directory →
      FileTree.entry? (t.put (directory ++ [name]) entry) q = some .directory := by
    intro q hq
    rw [entry?_put_of_ne, hq]
    rintro rfl
    exact hn hq
  constructor
  · intro place x hx
    by_cases he : place ++ [x] = directory ++ [name]
    · obtain ⟨rfl, -⟩ := List.append_inj' he rfl
      exact hdir _ hd
    · rw [entry?_put_of_ne he] at hx
      exact hdir _ (h.parents hx)
  · intro place x hx
    by_cases he : place ++ [x] = directory ++ [name]
    · obtain ⟨-, hxn⟩ := List.append_inj' he rfl
      rwa [(List.cons.inj hxn).1]
    · rw [entry?_put_of_ne he] at hx
      exact h.names hx

/-- Directories stay directories, and no entry is lost. -/
structure Keeps (t t' : FileTree) : Prop where
  current : t'.current = t.current
  directory : ∀ {q}, t.entry? q = some .directory → t'.entry? q = some .directory
  entry : ∀ {q}, (t.entry? q).isSome → (t'.entry? q).isSome

theorem Keeps.refl (t : FileTree) : t.Keeps t := ⟨rfl, id, id⟩

theorem Keeps.trans {t₁ t₂ t₃ : FileTree} (h : t₁.Keeps t₂) (h' : t₂.Keeps t₃) : t₁.Keeps t₃ where
  current := h'.current.trans h.current
  directory hq := h'.directory (h.directory hq)
  entry hq := h'.entry (h.entry hq)

theorem keeps_put (hp : place ≠ []) (h : t.entry? place ≠ some .directory) :
    t.Keeps (t.put place entry) where
  current := rfl
  directory {q} hq := by
    rw [entry?_put_of_ne, hq]
    rintro rfl
    exact h hq
  entry {q} hq := by
    by_cases he : q = place
    · rw [he, entry?_put_self hp]
      rfl
    · rwa [entry?_put_of_ne he]

/-! ## Walks -/

theorem enter_eq_ok_iff : t.enter place = .ok () ↔ t.entry? place = some .directory := by
  unfold enter
  split <;> simp_all

/-- One step of a walk, from a directory to the place that a name leads to from there. -/
def Steps (t : FileTree) (place : Place) (name : String) (next : Place) : Prop :=
  t.entry? place = some .directory ∧
    (name = "." ∧ next = place ∨ name = ".." ∧ next = place.dropLast ∨
      (name ≠ "." ∧ name ≠ "..") ∧ name.utf8ByteSize ≤ nameLimit ∧
        next = place ++ [name] ∧ (t.entry? next).isSome)

theorem walk_nil_eq_ok_iff : t.walk place [] = .ok q ↔ q = place := by
  simp [walk, eq_comm]

theorem walk_cons_eq_ok_iff :
    t.walk place (name :: more) = .ok q ↔
      ∃ next, t.Steps place name next ∧ t.walk next more = .ok q := by
  unfold Steps
  rw [walk, bind_eq_ok_iff]
  simp only [← enter_eq_ok_iff]
  constructor
  · rintro ⟨⟨⟩, he, h⟩
    split_ifs at h with h1 h2 h3 h4
    · exact ⟨place, ⟨he, .inl ⟨h1, rfl⟩⟩, h⟩
    · exact ⟨place.dropLast, ⟨he, .inr (.inl ⟨h2, rfl⟩)⟩, h⟩
    · exact ⟨_, ⟨he, .inr (.inr ⟨⟨h1, h2⟩, Nat.not_lt.mp h3, rfl, h4⟩)⟩, h⟩
  · rintro ⟨next, ⟨he, h⟩, hw⟩
    refine ⟨⟨⟩, he, ?_⟩
    rcases h with ⟨rfl, rfl⟩ | ⟨rfl, rfl⟩ | ⟨⟨h1, h2⟩, h3, rfl, h4⟩
    · exact hw
    · exact hw
    · rw [if_neg h1, if_neg h2, if_neg (Nat.not_lt.mpr h3), if_pos h4]
      exact hw

theorem walk_append_eq_ok_iff :
    t.walk place (names ++ more) = .ok q ↔
      ∃ next, t.walk place names = .ok next ∧ t.walk next more = .ok q := by
  induction names generalizing place with
  | nil => simp [walk]
  | cons name names ih =>
    simp only [List.cons_append, walk_cons_eq_ok_iff, ih]
    constructor
    · rintro ⟨x, hx, y, hy, hq⟩
      exact ⟨y, ⟨x, hx, hy⟩, hq⟩
    · rintro ⟨y, ⟨x, hx, hy⟩, hq⟩
      exact ⟨x, hx, y, hy, hq⟩

theorem Keeps.steps (h : t.Keeps t') {next : Place} (hs : t.Steps place name next) :
    t'.Steps place name next := by
  obtain ⟨hd, hn⟩ := hs
  refine ⟨h.directory hd, hn.imp_right (Or.imp_right ?_)⟩
  rintro ⟨hne, hl, rfl, he⟩
  exact ⟨hne, hl, rfl, h.entry he⟩

theorem Keeps.walk (h : t.Keeps t') (hw : t.walk place names = .ok q) :
    t'.walk place names = .ok q := by
  induction names generalizing place with
  | nil => exact hw
  | cons name names ih =>
    obtain ⟨next, hs, hw⟩ := walk_cons_eq_ok_iff.mp hw
    exact walk_cons_eq_ok_iff.mpr ⟨next, h.steps hs, ih hw⟩

theorem resolve_eq_ok_iff :
    t.resolve p = .ok q ↔
      t.walk (t.start p) p.names = .ok q ∧ (p.asDirectory → t.entry? q = some .directory) := by
  unfold resolve
  rw [bind_eq_ok_iff]
  simp only [← enter_eq_ok_iff]
  constructor
  · rintro ⟨place, hw, h⟩
    split_ifs at h with ha
    · obtain ⟨⟨⟩, he, h⟩ := bind_eq_ok_iff.mp h
      obtain rfl := pure_eq_ok_iff.mp h
      exact ⟨hw, fun _ => he⟩
    · obtain rfl := pure_eq_ok_iff.mp h
      exact ⟨hw, fun h => (ha h).elim⟩
  · rintro ⟨hw, he⟩
    refine ⟨q, hw, ?_⟩
    split_ifs with ha
    · rw [he ha]
      rfl
    · rfl

theorem Keeps.resolve (h : t.Keeps t') (hr : t.resolve p = .ok q) : t'.resolve p = .ok q := by
  rw [resolve_eq_ok_iff] at hr ⊢
  have hs : t'.start p = t.start p := by simp [start, h.current]
  rw [hs]
  exact ⟨h.walk hr.1, fun ha => h.directory (hr.2 ha)⟩

theorem isDirectory_iff :
    t.isDirectory p = true ↔ ∃ q, t.resolve p = .ok q ∧ t.entry? q = some .directory := by
  unfold isDirectory
  cases hr : t.resolve p with
  | error fault => simp
  | ok place =>
    simp only [Except.ok.injEq, exists_eq_left', ← enter_eq_ok_iff]
    cases he : t.enter place with
    | error fault => simp [Except.isOk, Except.toBool]
    | ok u => simp [Except.isOk, Except.toBool]

theorem update_apply_eq_ok_iff {change : FileTree → Except FileFault FileTree} :
    update change t = (.ok (), t') ↔ change t = .ok t' := by
  unfold update
  cases change t with
  | error fault => exact iff_of_false nofun nofun
  | ok after =>
    constructor
    · rintro ⟨⟩
      rfl
    · rintro ⟨⟩
      rfl

end EntityMapping.Output.FileTree
