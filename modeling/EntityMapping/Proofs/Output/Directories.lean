import EntityMapping.Proofs.Output.Writing

/-! # Directories and those above them

To make a directory is to make those above it that are missing and then itself. Where a path led
to nothing or to an empty directory, it leads to an empty directory afterwards, and nothing but
directories on the way there has been added.
-/

namespace EntityMapping.Output.FileTree

open Outcome

variable {t t' made : FileTree} {place q directory : Place} {names : List String} {p : Path}
  {paths : List Path} {s : String}

theorem eq_of_excuse {fault : FileFault} (h : t.excuse p fault = .ok made) :
    made = t ∧ t.isDirectory p = true := by
  unfold excuse at h
  split_ifs at h with hd
  exact ⟨(Except.ok.inj h).symm, hd⟩

theorem createFirst_cons (h : t.createFirst (p :: paths) = .ok made) :
    ∃ above, (above = t ∨ t.createFirst paths = .ok above) ∧
      (above.createDirectory p = .ok made ∨ made = above ∧ above.isDirectory p = true) := by
  rw [createFirst] at h
  split at h
  next created hc => exact ⟨t, .inl rfl, .inl (hc.trans h)⟩
  next =>
    obtain ⟨above, ha, h⟩ := bind_eq_ok_iff.mp h
    refine ⟨above, .inr ha, ?_⟩
    split at h
    next created hc => exact .inl (hc.trans h)
    next => exact .inr (eq_of_excuse h)
  next => exact ⟨t, .inl rfl, .inr (eq_of_excuse h)⟩

theorem isDirectory_of_createFirst (h : t.createFirst (p :: paths) = .ok made) :
    made.isDirectory p = true := by
  obtain ⟨above, -, hc | ⟨rfl, hd⟩⟩ := createFirst_cons h
  · exact isDirectory_of_createDirectory hc
  · exact hd

theorem WellFormed.createFirst (h : t.WellFormed)
    (hs : ∀ p ∈ paths, ∀ name ∈ p.onward, '/' ∉ name.toList)
    (hc : t.createFirst paths = .ok made) : made.WellFormed := by
  induction paths generalizing made with
  | nil =>
    cases hc
    exact h
  | cons p paths ih =>
    obtain ⟨hp, hs⟩ := List.forall_mem_cons.mp hs
    obtain ⟨above, ha, hc⟩ := createFirst_cons hc
    have hw : above.WellFormed := by
      rcases ha with rfl | ha
      · exact h
      · exact ih hs ha
    rcases hc with hc | ⟨rfl, -⟩
    · exact hw.createDirectory hp hc
    · exact hw

/-- The entries of a tree are kept, and what is added are directories to which the paths lead. -/
structure Grows (paths : List Path) (t t' : FileTree) : Prop where
  current : t'.current = t.current
  entry : ∀ q, t'.entry? q = t.entry? q ∨ t.entry? q = none ∧ t'.entry? q = some .directory ∧
    ∃ p ∈ paths, ".." ∉ p.onward → q = t.start p ++ p.onward

theorem Grows.refl (paths : List Path) (t : FileTree) : t.Grows paths t := ⟨rfl, fun _ => .inl rfl⟩

theorem Grows.start (h : Grows paths t t') : t'.start p = t.start p := by
  simp [FileTree.start, h.current]

theorem Grows.trans {t₁ t₂ t₃ : FileTree} (h : Grows paths t₁ t₂) (h' : Grows paths t₂ t₃) :
    Grows paths t₁ t₃ := by
  refine ⟨h'.current.trans h.current, fun q => ?_⟩
  rcases h'.entry q with hq | ⟨hq, hd, hp⟩
  · rw [hq]
    exact h.entry q
  · have hn : t₁.entry? q = none := by
      rcases h.entry q with hq' | ⟨hq', -⟩
      · rw [← hq', hq]
      · exact hq'
    simp only [h.start] at hp
    exact .inr ⟨hn, hd, hp⟩

theorem Grows.mono {more : List Path} (h : Grows paths t t') (hs : paths ⊆ more) :
    Grows more t t' := by
  refine ⟨h.current, fun q => (h.entry q).imp_right ?_⟩
  rintro ⟨hn, hd, p, hp, hq⟩
  exact ⟨hn, hd, p, hs hp, hq⟩

theorem grows_createDirectory (hc : t.createDirectory p = .ok made) : Grows [p] t made := by
  obtain ⟨directory, name, hp, hn, rfl⟩ := createDirectory_eq_ok_iff.mp hc
  refine ⟨rfl, fun q => ?_⟩
  by_cases hq : q = directory ++ [name]
  · subst hq
    exact .inr ⟨hn, entry?_put_self (by simp), p, List.mem_cons_self, hp.place_eq⟩
  · exact .inl (entry?_put_of_ne hq)

theorem grows_createFirst (h : t.createFirst paths = .ok made) : Grows paths t made := by
  induction paths generalizing made with
  | nil =>
    cases h
    exact .refl _ _
  | cons p paths ih =>
    obtain ⟨above, ha, hc⟩ := createFirst_cons h
    have habove : Grows (p :: paths) t above := by
      rcases ha with rfl | ha
      · exact .refl _ _
      · exact (ih ha).mono (List.subset_cons_self _ _)
    rcases hc with hc | ⟨rfl, -⟩
    · exact habove.trans ((grows_createDirectory hc).mono (by simp))
    · exact habove

theorem createFirst_of_isDirectory (h : t.isDirectory p = true) :
    t.createFirst (p :: paths) = .ok t := by
  rw [createFirst, createDirectory_of_isDirectory h]
  simp [excuse, h]

/-! ## Directories that nothing is in -/

/-- A path leads to an empty directory, or to nothing while it has no steps back. -/
inductive Vacant (t : FileTree) (s : String) : Prop
  | empty {place : Place} (resolves : t.resolve (.parse s) = .ok place)
      (directory : t.entry? place = some .directory)
      (nothing : ∀ name, t.entry? (place ++ [name]) = none)
  | absent (missing : t.resolve (.parse s) = .error .notFound)
      (forward : ".." ∉ (Path.parse s).names)

/-- A tree with a directory that nothing is in and the directories above it, and otherwise the
entries of another one. -/
structure Readies (t : FileTree) (place : Place) (made : FileTree) : Prop where
  kept : ∀ {q}, (t.entry? q).isSome → made.entry? q = t.entry? q
  above : ∀ {q}, q <+: place → made.entry? q = some .directory
  below : ∀ name more, made.entry? (place ++ name :: more) = none
  elsewhere : ∀ {q}, ¬ q <+: place → made.entry? q = t.entry? q

theorem not_prefix_above {name : String} {more : List String} :
    ¬ place ++ name :: more <+: place := by
  intro h
  have hl := h.length_le
  rw [List.length_append, List.length_cons] at hl
  omega

theorem WellFormed.directory_of_prefix (h : t.WellFormed)
    (hd : t.entry? directory = some .directory) (hq : q <+: directory) :
    t.entry? q = some .directory := by
  obtain ⟨_ | ⟨name, below⟩, rfl⟩ := hq
  · simpa using hd
  · exact h.directory_of_below (by rw [hd]; rfl)

theorem WellFormed.walk_of_grown (h : t.WellFormed) (hn : ".." ∉ names)
    (hw : made.walk place names = .ok directory) (hd : t.entry? directory = some .directory) :
    t.walk place names = .ok directory := by
  induction names generalizing place with
  | nil => exact hw
  | cons name names ih =>
    have hplace := walk_eq_append hn hw
    obtain ⟨hne, hn⟩ := not_or.mp (List.mem_cons.not.mp hn)
    obtain ⟨next, ⟨-, hs⟩, hw⟩ := walk_cons_eq_ok_iff.mp hw
    have hnext := walk_eq_append hn hw
    refine walk_cons_eq_ok_iff.mpr ⟨next, ⟨?_, ?_⟩, ih hn hw⟩
    · exact h.directory_of_prefix hd ⟨_, hplace.symm⟩
    · refine hs.imp_right (Or.imp_right ?_)
      rintro ⟨hp, hl, rfl, -⟩
      have hdn := h.directory_of_prefix hd ⟨_, hnext.symm⟩
      exact ⟨hp, hl, rfl, by rw [hdn]; rfl⟩

theorem exists_of_createDirectories (h : t.createDirectories s = .ok made) :
    s ≠ "" ∧ t.createFirst (.parse s :: (Path.parse s).ancestors) = .ok made := by
  obtain ⟨p, hp, h⟩ := bind_eq_ok_iff.mp h
  obtain ⟨hs, rfl⟩ := eq_parse_of_path hp
  exact ⟨hs, h⟩

theorem onward_prefix_of_mem (h : p ∈ Path.parse s :: (Path.parse s).ancestors) :
    t.start p = t.start (.parse s) ∧ p.onward <+: (Path.parse s).onward := by
  rcases List.mem_cons.mp h with rfl | h
  · exact ⟨rfl, List.prefix_rfl⟩
  · obtain ⟨ha, hp⟩ := Path.of_mem_ancestors h
    exact ⟨by simp [start, ha], hp⟩

theorem WellFormed.createDirectories (h : t.WellFormed) (hc : t.createDirectories s = .ok made) :
    made.WellFormed := by
  refine h.createFirst (fun p hp name hn => ?_) (exists_of_createDirectories hc).2
  exact Path.slash_not_mem_of_mem_onward ((onward_prefix_of_mem (t := t) hp).2.subset hn)

theorem exists_resolve_of_createDirectories (hc : t.createDirectories s = .ok made) :
    ∃ place, made.resolve (.parse s) = .ok place ∧ made.entry? place = some .directory :=
  isDirectory_iff.mp (isDirectory_of_createFirst (exists_of_createDirectories hc).2)

theorem readies_of_empty (h : t.WellFormed) (hd : t.entry? place = some .directory)
    (hn : ∀ name, t.entry? (place ++ [name]) = none) : t.Readies place t where
  kept _ := rfl
  above hq := h.directory_of_prefix hd hq
  below name more := by
    by_contra hne
    cases more with
    | nil => exact hne (hn name)
    | cons next more =>
      have hb : t.entry? ((place ++ [name]) ++ next :: more) ≠ none := by simpa using hne
      have hdir := h.directory_of_below (Option.ne_none_iff_isSome.mp hb)
      rw [hn name] at hdir
      cases hdir
  elsewhere _ := rfl

theorem readies_of_new (h : t.WellFormed) (hm : made.WellFormed)
    (hd : made.entry? place = some .directory) (hn : t.entry? place ≠ some .directory)
    (ha : ∀ q, made.entry? q = t.entry? q ∨ t.entry? q = none ∧ q <+: place) :
    t.Readies place made where
  kept {q} hq := by
    rcases ha q with he | ⟨he, -⟩
    · exact he
    · simp [he] at hq
  above hq := hm.directory_of_prefix hd hq
  below name more := by
    by_contra hne
    rcases ha (place ++ name :: more) with he | ⟨-, hq⟩
    · rw [he] at hne
      exact hn (h.directory_of_below (Option.ne_none_iff_isSome.mp hne))
    · exact not_prefix_above hq
  elsewhere {q} hq := (ha q).resolve_right fun he => hq he.2

theorem entry?_of_createDirectories (hs : ".." ∉ (Path.parse s).names)
    (hc : t.createDirectories s = .ok made) (hr : made.resolve (.parse s) = .ok place) (q : Place) :
    made.entry? q = t.entry? q ∨ t.entry? q = none ∧ q <+: place := by
  have hg := grows_createFirst (exists_of_createDirectories hc).2
  refine (hg.entry q).imp_right ?_
  rintro ⟨hn, -, p, hp, hq⟩
  obtain ⟨hstart, hpre⟩ := onward_prefix_of_mem (t := t) hp
  have hback : ".." ∉ p.onward := fun hm => hs (List.mem_of_mem_filter (hpre.subset hm))
  have hplace : place = t.start (.parse s) ++ (Path.parse s).onward := by
    rw [walk_eq_append hs (resolve_eq_ok_iff.mp hr).1, hg.start]
    rfl
  refine ⟨hn, ?_⟩
  rw [hq hback, hstart, hplace]
  exact (List.prefix_append_right_inj _).mpr hpre

theorem Vacant.readies (hv : t.Vacant s) (h : t.WellFormed)
    (hc : t.createDirectories s = .ok made) (hr : made.resolve (.parse s) = .ok place) :
    t.Readies place made := by
  obtain ⟨-, hf⟩ := exists_of_createDirectories hc
  cases hv with
  | empty hplace hd hn =>
    obtain rfl := Except.ok.inj
      ((createFirst_of_isDirectory (isDirectory_iff.mpr ⟨_, hplace, hd⟩)).symm.trans hf)
    obtain rfl := Except.ok.inj (hplace.symm.trans hr)
    exact readies_of_empty h hd hn
  | absent hmissing hforward =>
    have hdir : made.entry? place = some .directory := by
      obtain ⟨place', hr', hd⟩ := exists_resolve_of_createDirectories hc
      rwa [Except.ok.inj (hr.symm.trans hr')]
    have hnew : t.entry? place ≠ some .directory := by
      intro hd
      have hw := (resolve_eq_ok_iff.mp hr).1
      rw [(grows_createFirst hf).start] at hw
      have hthere := resolve_eq_ok_iff.mpr ⟨h.walk_of_grown hforward hw hd, fun _ => hd⟩
      cases hmissing.symm.trans hthere
    exact readies_of_new h (h.createDirectories hc) hdir hnew
      (entry?_of_createDirectories hforward hc hr)

/-- One tree has been made of another: the directory holds these files, all of different names,
and nothing else; and besides them, only directories on the way there have been added. -/
structure Holds (before : FileTree) (place : Place) (contents : List (String × ByteArray))
    (after : FileTree) : Prop where
  names : (contents.map (·.1)).Nodup
  files : ∀ c ∈ contents, after.entry? (place ++ [c.1]) = some (.file c.2)
  kept : ∀ {q}, (before.entry? q).isSome → after.entry? q = before.entry? q
  above : ∀ {q}, q <+: place → after.entry? q = some .directory
  below : ∀ {name more}, (∀ c ∈ contents, name :: more ≠ [c.1]) →
    after.entry? (place ++ name :: more) = none
  elsewhere : ∀ {q}, ¬ q <+: place → ¬ place <+: q → after.entry? q = before.entry? q

theorem Readies.holds {contents : List (String × ByteArray)} (h : t.Readies place made)
    (hn : (contents.map (·.1)).Nodup) : t.Holds place contents (made.putFiles place contents) where
  names := hn
  files _ hc := entry?_putFiles_of_mem hn hc
  kept {q} hq := by
    have hm := h.kept hq
    rw [entry?_putFiles_of_ne, hm]
    rintro c - rfl
    simp [← hm, h.below] at hq
  above {q} hq := by
    rw [entry?_putFiles_of_ne, h.above hq]
    rintro c - rfl
    exact not_prefix_above hq
  below hc := by
    rw [entry?_putFiles_of_ne, h.below]
    exact fun c hm he => hc c hm (List.append_cancel_left he)
  elsewhere {q} hq hp := by
    rw [entry?_putFiles_of_ne, h.elsewhere hq]
    rintro c - rfl
    exact hp (List.prefix_append _ _)

end EntityMapping.Output.FileTree
