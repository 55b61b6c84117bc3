import EntityMapping.Proofs.Output.FileTree

/-! # Writing files and making directories

A file is written, and a directory is made, under the last name of a path, in the directory that
the names before it lead to.
-/

namespace EntityMapping.Output.FileTree

open Outcome

variable {t t' made : FileTree} {place q directory : Place} {name : String}
  {names : List String} {p : Path} {s text : String}

theorem eq_parse_of_path (h : path s = .ok p) : s ≠ "" ∧ p = .parse s := by
  unfold path at h
  split_ifs at h with _ _ he
  exact ⟨by simpa using he, (Except.ok.inj h).symm⟩

/-! ## The place of a new entry -/

/-- A path ends in a proper name, and the names before it lead to a directory. -/
structure Points (t : FileTree) (p : Path) (directory : Place) (name : String) : Prop where
  walk : ∃ front, p.names = front ++ [name] ∧ t.walk (t.start p) front = .ok directory
  directory : t.entry? directory = some .directory
  proper : name ≠ "." ∧ name ≠ ".."
  length : name.utf8ByteSize ≤ nameLimit

theorem placeFor?_eq_some_iff :
    t.placeFor? p = .ok (some place) ↔
      ∃ directory name, t.Points p directory name ∧ place = directory ++ [name] := by
  unfold placeFor?
  rw [bind_eq_ok_iff]
  simp only [bind_eq_ok_iff]
  constructor
  · rintro ⟨directory, hw, ⟨⟩, he, h⟩
    split at h
    · cases h
    next name hn =>
      obtain ⟨front, hf⟩ := List.getLast?_eq_some_iff.mp hn
      rw [hf, List.dropLast_concat] at hw
      split_ifs at h with hd hl
      · cases h
      · obtain rfl := Option.some.inj (pure_eq_ok_iff.mp h)
        exact ⟨directory, name, ⟨⟨front, hf, hw⟩, enter_eq_ok_iff.mp he, by simpa using hd,
          Nat.not_lt.mp hl⟩, rfl⟩
  · rintro ⟨directory, name, ⟨⟨front, hf, hw⟩, he, hp, hl⟩, rfl⟩
    refine ⟨directory, by rwa [hf, List.dropLast_concat], ⟨⟩, enter_eq_ok_iff.mpr he, ?_⟩
    rw [hf, List.getLast?_concat]
    simp [hp, Nat.not_lt.mpr hl]
    rfl

theorem Points.slash_not_mem (h : t.Points p directory name)
    (hs : ∀ name ∈ p.onward, '/' ∉ name.toList) : '/' ∉ name.toList := by
  obtain ⟨front, hf, -⟩ := h.walk
  refine hs name (Path.mem_onward_of_ne ?_ h.proper.1)
  rw [hf]
  exact List.mem_append_right _ List.mem_cons_self

theorem walk_eq_append (hn : ".." ∉ names) (h : t.walk place names = .ok q) :
    q = place ++ names.filter (· != ".") := by
  induction names generalizing place with
  | nil => simpa using walk_nil_eq_ok_iff.mp h
  | cons name names ih =>
    obtain ⟨hne, hn⟩ := not_or.mp (List.mem_cons.not.mp hn)
    obtain ⟨next, ⟨-, hs⟩, hw⟩ := walk_cons_eq_ok_iff.mp h
    rw [ih hn hw]
    rcases hs with ⟨rfl, rfl⟩ | ⟨rfl, -⟩ | ⟨⟨hd, -⟩, -, rfl, -⟩
    · simp
    · exact (hne rfl).elim
    · simp [hd]

theorem Points.place_eq (h : t.Points p directory name) (hn : ".." ∉ p.onward) :
    directory ++ [name] = t.start p ++ p.onward := by
  obtain ⟨front, hf, hw⟩ := h.walk
  have hfront : ".." ∉ front := fun hm =>
    hn (Path.mem_onward_of_ne (by rw [hf]; exact List.mem_append_left _ hm) (by decide))
  rw [walk_eq_append hfront hw, Path.onward, hf]
  simp [h.proper.1]

/-! ## One file, one directory -/

theorem exists_of_writeText (h : t.writeText s text = .ok t') :
    s ≠ "" ∧ ∃ directory name, t.Points (.parse s) directory name ∧
      t.entry? (directory ++ [name]) ≠ some .directory ∧
      t' = t.put (directory ++ [name]) (.file text.toUTF8) := by
  obtain ⟨p, hp, h⟩ := bind_eq_ok_iff.mp h
  obtain ⟨hs, rfl⟩ := eq_parse_of_path hp
  obtain ⟨_ | place, hf, h⟩ := bind_eq_ok_iff.mp h
  · cases h
  · obtain ⟨directory, name, hn, rfl⟩ := placeFor?_eq_some_iff.mp hf
    refine ⟨hs, directory, name, hn, ?_⟩
    dsimp only at h
    split at h
    · cases h
    next hfile =>
      split_ifs at h with ha
      · cases h
      · exact ⟨by simp [hfile], pure_eq_ok_iff.mp h⟩
    next hnone =>
      split_ifs at h with ha
      · cases h
      · exact ⟨by simp [hnone], pure_eq_ok_iff.mp h⟩

theorem WellFormed.writeText (h : t.WellFormed) (hw : t.writeText s text = .ok t') :
    t'.WellFormed := by
  obtain ⟨-, directory, name, hp, hd, rfl⟩ := exists_of_writeText hw
  exact h.put hp.directory (hp.slash_not_mem fun _ => Path.slash_not_mem_of_mem_onward) hd

theorem keeps_writeText (hw : t.writeText s text = .ok t') : t.Keeps t' := by
  obtain ⟨-, directory, name, -, hd, rfl⟩ := exists_of_writeText hw
  exact keeps_put (by simp) hd

theorem eq_put_of_writeText_join (hd : t.resolve (.parse s) = .ok directory) (hn : name ≠ "")
    (hs : '/' ∉ name.toList) (hne : s ≠ "") (hw : t.writeText (Path.join s name) text = .ok t') :
    t' = t.put (directory ++ [name]) (.file text.toUTF8) := by
  obtain ⟨-, directory', name', ⟨⟨front, hf, hw'⟩, -, -, -⟩, -, rfl⟩ := exists_of_writeText hw
  rw [Path.parse_join hne hn hs] at hf hw'
  obtain ⟨rfl, hname⟩ := List.append_inj' hf rfl
  obtain rfl := (List.cons.inj hname).1
  obtain ⟨hd, -⟩ := resolve_eq_ok_iff.mp hd
  obtain rfl := Except.ok.inj (hw'.symm.trans hd)
  rfl

/-- Files put into a directory one after the other, by their names. -/
def putFiles (t : FileTree) (place : Place) (contents : List (String × ByteArray)) : FileTree :=
  contents.foldl (fun t c => t.put (place ++ [c.1]) (.file c.2)) t

section PutFiles

variable {contents : List (String × ByteArray)} {c : String × ByteArray}

theorem putFiles_cons : t.putFiles place (c :: contents) =
    (t.put (place ++ [c.1]) (.file c.2)).putFiles place contents := rfl

theorem entry?_putFiles_of_ne (h : ∀ c ∈ contents, q ≠ place ++ [c.1]) :
    FileTree.entry? (t.putFiles place contents) q = t.entry? q := by
  induction contents generalizing t with
  | nil => rfl
  | cons c contents ih =>
    obtain ⟨hc, h⟩ := List.forall_mem_cons.mp h
    rw [putFiles_cons, ih h, entry?_put_of_ne hc]

theorem entry?_putFiles_of_mem (hn : (contents.map (·.1)).Nodup) (hc : c ∈ contents) :
    FileTree.entry? (t.putFiles place contents) (place ++ [c.1]) = some (.file c.2) := by
  induction contents generalizing t with
  | nil => cases hc
  | cons first contents ih =>
    obtain ⟨hfirst, hn⟩ := List.nodup_cons.mp hn
    rcases List.mem_cons.mp hc with rfl | hc
    · rw [putFiles_cons, entry?_putFiles_of_ne, entry?_put_self (by simp)]
      intro other ho he
      have hname := (List.cons.inj (List.append_cancel_left he)).1
      exact hfirst (List.mem_map.mpr ⟨other, ho, hname.symm⟩)
    · exact ih hn hc

end PutFiles

theorem createDirectory_eq_ok_iff :
    t.createDirectory p = .ok made ↔
      ∃ directory name, t.Points p directory name ∧ t.entry? (directory ++ [name]) = none ∧
        made = t.put (directory ++ [name]) .directory := by
  unfold createDirectory
  rw [bind_eq_ok_iff]
  constructor
  · rintro ⟨_ | place, hf, h⟩
    · cases h
    · obtain ⟨directory, name, hn, rfl⟩ := placeFor?_eq_some_iff.mp hf
      refine ⟨directory, name, hn, ?_⟩
      dsimp only at h
      split_ifs at h with he
      · cases h
      · exact ⟨by simpa using he, pure_eq_ok_iff.mp h⟩
  · rintro ⟨directory, name, hn, he, rfl⟩
    refine ⟨some (directory ++ [name]), placeFor?_eq_some_iff.mpr ⟨directory, name, hn, rfl⟩, ?_⟩
    simp [he]
    rfl

theorem WellFormed.createDirectory (h : t.WellFormed) (hs : ∀ name ∈ p.onward, '/' ∉ name.toList)
    (hc : t.createDirectory p = .ok made) : made.WellFormed := by
  obtain ⟨directory, name, hp, hn, rfl⟩ := createDirectory_eq_ok_iff.mp hc
  exact h.put hp.directory (hp.slash_not_mem hs) (by simp [hn])

theorem isDirectory_of_createDirectory (hc : t.createDirectory p = .ok made) :
    made.isDirectory p = true := by
  obtain ⟨directory, name, ⟨⟨front, hf, hw⟩, hd, hp, hl⟩, hn, rfl⟩ :=
    createDirectory_eq_ok_iff.mp hc
  have hk : t.Keeps (t.put (directory ++ [name]) .directory) := keeps_put (by simp) (by simp [hn])
  have he : FileTree.entry? (t.put (directory ++ [name]) .directory) (directory ++ [name]) =
      some .directory := entry?_put_self (by simp)
  refine isDirectory_iff.mpr ⟨_, resolve_eq_ok_iff.mpr ⟨?_, fun _ => he⟩, he⟩
  rw [hf]
  refine walk_append_eq_ok_iff.mpr ⟨directory, hk.walk hw, ?_⟩
  refine walk_cons_eq_ok_iff.mpr ⟨_, ⟨hk.directory hd, ?_⟩, rfl⟩
  exact .inr (.inr ⟨hp, hl, rfl, by simp [he]⟩)

theorem createDirectory_of_isDirectory (h : t.isDirectory p = true) :
    t.createDirectory p = .error .alreadyExists := by
  obtain ⟨q, hr, hq⟩ := isDirectory_iff.mp h
  obtain ⟨hw, -⟩ := resolve_eq_ok_iff.mp hr
  unfold createDirectory placeFor?
  rcases List.eq_nil_or_concat' p.names with hp | ⟨front, name, hp⟩
  · rw [hp, walk_nil_eq_ok_iff] at hw
    subst hw
    simp [hp, walk, ok_bind, enter_eq_ok_iff.mpr hq]
    rfl
  · rw [hp] at hw ⊢
    obtain ⟨directory, hf, hw⟩ := walk_append_eq_ok_iff.mp hw
    obtain ⟨next, ⟨hd, hs⟩, -⟩ := walk_cons_eq_ok_iff.mp hw
    rw [List.dropLast_concat, hf, ok_bind, enter_eq_ok_iff.mpr hd, ok_bind]
    rw [List.getLast?_concat]
    rcases hs with ⟨rfl, -⟩ | ⟨rfl, -⟩ | ⟨hn, hl, rfl, hi⟩
    · rfl
    · rfl
    · simp [hn, Nat.not_lt.mpr hl, hi]
      rfl

end EntityMapping.Output.FileTree
