import EntityMapping.CommandLine.Run
import EntityMapping.Proofs.CommandLine.Products

/-! # What stops a run

A run looks at its settings, then at the schema document, then at the selected entities, and
nothing is written before all of that is settled. It ends with the failure of the first step that
fails, which for a setting does not depend on any file.
-/

namespace EntityMapping

open Outcome
open Output (FileTree)

namespace CommandLine

/-- A step of a run: what it takes to get past it, and the failures that it stops the run with. -/
structure Hurdle where
  Passed : Prop
  Stops : Failure → Prop

namespace Hurdle

variable {α β : Type} {hs hs' : List Hurdle} {hurdle : Hurdle} {x : Except Failure α}
  {failure : Failure}

def require (p : Prop) (failure : Failure) : Hurdle where
  Passed := p
  Stops f := ¬ p ∧ f = failure

/-- The failure of the first hurdle that stops the run, those before it being passed. -/
inductive FirstStop : List Hurdle → Failure → Prop
  | here {hurdle : Hurdle} {hs : List Hurdle} {f : Failure} :
      hurdle.Stops f → FirstStop (hurdle :: hs) f
  | later {hurdle : Hurdle} {hs : List Hurdle} {f : Failure} :
      hurdle.Passed → FirstStop hs f → FirstStop (hurdle :: hs) f

theorem not_firstStop_nil : ¬ FirstStop [] failure := nofun

theorem firstStop_cons_iff :
    FirstStop (hurdle :: hs) failure ↔
      hurdle.Stops failure ∨ hurdle.Passed ∧ FirstStop hs failure := by
  constructor
  · rintro (h | ⟨hp, h⟩)
    · exact .inl h
    · exact .inr ⟨hp, h⟩
  · rintro (h | ⟨hp, h⟩)
    · exact .here h
    · exact .later hp h

theorem firstStop_append_iff :
    FirstStop (hs ++ hs') failure ↔
      FirstStop hs failure ∨ (∀ h ∈ hs, h.Passed) ∧ FirstStop hs' failure := by
  induction hs with
  | nil => simp [not_firstStop_nil]
  | cons h hs ih =>
    rw [List.cons_append, firstStop_cons_iff, firstStop_cons_iff, ih, List.forall_mem_cons]
    tauto

theorem exists_stops_of_firstStop (h : FirstStop hs failure) :
    ∃ hurdle ∈ hs, hurdle.Stops failure := by
  induction h with
  | here hs => exact ⟨_, List.mem_cons_self, hs⟩
  | later _ _ ih => exact ih.imp fun _ h => ⟨.tail _ h.1, h.2⟩

/-- The hurdles say of an outcome when it is a success and with which failure it ends else. -/
structure Decide (hs : List Hurdle) (x : Except Failure α) : Prop where
  error_iff : ∀ failure, x = .error failure ↔ FirstStop hs failure
  ok_iff : (∃ a, x = .ok a) ↔ ∀ h ∈ hs, h.Passed

theorem decide_pure (a : α) : Decide [] (pure a : Except Failure α) where
  error_iff _ := iff_of_false nofun not_firstStop_nil
  ok_iff := iff_of_true ⟨a, rfl⟩ nofun

theorem decide_singleton (he : ∀ failure, x = .error failure ↔ hurdle.Stops failure)
    (ho : (∃ a, x = .ok a) ↔ hurdle.Passed) : Decide [hurdle] x where
  error_iff failure := by simp [he, firstStop_cons_iff, not_firstStop_nil]
  ok_iff := by simp [ho]

theorem decide_require {p : Prop} (hp : p → ∃ a, x = .ok a) (hn : ¬ p → x = .error failure) :
    Decide [require p failure] x := by
  by_cases h : p
  · obtain ⟨a, rfl⟩ := hp h
    exact decide_singleton (fun _ => iff_of_false nofun fun h' => h'.1 h) (iff_of_true ⟨a, rfl⟩ h)
  · rw [hn h]
    refine decide_singleton (fun f => ?_) (iff_of_false nofun h)
    simp [require, h, eq_comm]

theorem Decide.bind {g : α → Except Failure β} (hx : Decide hs x)
    (hg : ∀ a, x = .ok a → Decide hs' (g a)) : Decide (hs ++ hs') (x >>= g) where
  error_iff failure := by
    rw [bind_eq_error_iff, firstStop_append_iff, hx.error_iff, ← hx.ok_iff]
    refine or_congr_right ?_
    constructor
    · rintro ⟨a, ha, hf⟩
      exact ⟨⟨a, ha⟩, ((hg a ha).error_iff failure).mp hf⟩
    · rintro ⟨⟨a, ha⟩, hf⟩
      exact ⟨a, ha, ((hg a ha).error_iff failure).mpr hf⟩
  ok_iff := by
    simp only [bind_eq_ok_iff, List.forall_mem_append, ← hx.ok_iff]
    constructor
    · rintro ⟨b, a, ha, hb⟩
      exact ⟨⟨a, ha⟩, (hg a ha).ok_iff.mp ⟨b, hb⟩⟩
    · rintro ⟨⟨a, ha⟩, hp⟩
      obtain ⟨b, hb⟩ := (hg a ha).ok_iff.mpr hp
      exact ⟨b, a, ha, hb⟩

end Hurdle

/-! ## The hurdles of a run -/

/-- A word of the command line as it is compared: without surrounding blanks, and with the ASCII
letters in lower case. -/
def comparedWord (given : String) : String :=
  String.ofList (Text.asciiLower (Text.trim given.toList))

namespace Arguments

variable (a : Arguments) (files : FileTree)

def modeHurdle : Hurdle :=
  .require (comparedWord a.relationshipNaming ∈ ["suffix", "plural"])
    (.naming (.unknownMode (comparedWord a.relationshipNaming)))

def suffixHurdle : Hurdle :=
  .require (comparedWord a.relationshipNaming = "suffix" → Text.trim a.suffix.toList ≠ [])
    (.naming .blankSuffix)

def orderingHurdle : Hurdle :=
  .require (comparedWord a.ordering ∈ ["properties-first", "indexes-first"])
    (.unknownOrdering (comparedWord a.ordering))

def generatorHurdle : Hurdle :=
  .require (a.generator ∈ ["mapping", "statements"]) (.unknownGenerator a.generator)

def settingHurdles : List Hurdle :=
  [a.modeHurdle, a.suffixHurdle, a.orderingHurdle, a.generatorHurdle]

def readingHurdle : Hurdle where
  Passed := ∃ text, files.readText a.schema = .ok text
  Stops f := ∃ fault, files.readText a.schema = .error fault ∧ f = .unreadable fault

/-- The files hold a schema under the path that is given for it. -/
def Loads (schema : Schema) : Prop :=
  ∃ text, files.readText a.schema = .ok text ∧ Schema.parse text = .ok schema

def documentHurdle : Hurdle where
  Passed := ∃ schema, a.Loads files schema
  Stops f := ∃ text fault, files.readText a.schema = .ok text ∧
    Schema.parse text = .error fault ∧ f = .document fault

def entitiesHurdle : Hurdle where
  Passed := ∃ settings schema, a.settings = .ok settings ∧ a.Loads files schema ∧
    settings.Producible schema (schema.select a.entityList)
  Stops f := ∃ settings schema, a.settings = .ok settings ∧ a.Loads files schema ∧
    settings.FirstFails schema (schema.select a.entityList) f

/-- All that a run has to pass before it writes anything, in this order. -/
def hurdles : List Hurdle :=
  a.settingHurdles ++ [a.readingHurdle files, a.documentHurdle files, a.entitiesHurdle files]

end Arguments

section Decided

open Hurdle

variable {a : Arguments} {files : FileTree} {settings : Settings} {mode : Naming.Mode}
  {given text : String}

theorem parseMode_eq : parseMode given =
    if comparedWord given = "suffix" then .ok .suffix
    else if comparedWord given = "plural" then .ok .plural
    else .error (.naming (.unknownMode (comparedWord given))) := by
  unfold parseMode Naming.Mode.parse
  dsimp only
  rw [← comparedWord]
  split_ifs <;> rfl

theorem decide_parseMode : Decide [a.modeHurdle] (parseMode a.relationshipNaming) := by
  rw [parseMode_eq]
  refine decide_require (fun h => ?_) fun h => ?_
  · split_ifs with hs hp
    · exact ⟨_, rfl⟩
    · exact ⟨_, rfl⟩
    · simp [hs, hp] at h
  · obtain ⟨hs, hp⟩ : _ ∧ _ := by simpa using h
    rw [if_neg hs, if_neg hp]

theorem mode_eq_suffix_iff (h : parseMode given = .ok mode) :
    mode = .suffix ↔ comparedWord given = "suffix" := by
  rw [parseMode_eq] at h
  split_ifs at h with hs hp <;> cases h <;> simp [hs]

theorem decide_makePolicy (h : parseMode a.relationshipNaming = .ok mode) :
    Decide [a.suffixHurdle] (makePolicy mode a.suffix) := by
  rw [Arguments.suffixHurdle, ← mode_eq_suffix_iff h]
  unfold makePolicy Naming.Policy.make
  refine decide_require (fun hp => ?_) fun hp => ?_
  · have hc : ¬ (decide (mode = .suffix) && (Text.trim a.suffix.toList).isEmpty) = true := by
      simpa using hp
    rw [if_neg hc]
    exact ⟨_, rfl⟩
  · have hc : (decide (mode = .suffix) && (Text.trim a.suffix.toList).isEmpty) = true := by
      simpa using hp
    rw [if_pos hc]
    rfl

theorem decide_parseOrdering : Decide [a.orderingHurdle] (parseOrdering a.ordering) := by
  unfold parseOrdering
  dsimp only
  rw [← comparedWord]
  refine decide_require (fun h => ?_) fun h => ?_
  · split_ifs with hp hi
    · exact ⟨_, rfl⟩
    · exact ⟨_, rfl⟩
    · simp [hp, hi] at h
  · obtain ⟨hp, hi⟩ : _ ∧ _ := by simpa using h
    rw [if_neg hp, if_neg hi]

theorem decide_parseGenerator : Decide [a.generatorHurdle] (parseGenerator a.generator) := by
  unfold parseGenerator
  refine decide_require (fun h => ?_) fun h => ?_
  · split_ifs with hm hs
    · exact ⟨_, rfl⟩
    · exact ⟨_, rfl⟩
    · simp [hm, hs] at h
  · obtain ⟨hm, hs⟩ : _ ∧ _ := by simpa using h
    rw [if_neg hm, if_neg hs]

theorem decide_settings : Decide a.settingHurdles a.settings := by
  unfold Arguments.settings
  refine decide_parseMode.bind fun mode hm => ?_
  refine (decide_makePolicy hm).bind fun naming _ => ?_
  refine decide_parseOrdering.bind fun ordering _ => ?_
  exact decide_parseGenerator.bind fun generator _ => decide_pure _

theorem decide_readText :
    Decide [a.readingHurdle files] ((files.readText a.schema).mapError Failure.unreadable) := by
  refine decide_singleton (fun failure => ?_) ?_
  · rw [mapError_eq_error_iff]
    exact exists_congr fun fault => and_congr_right fun _ => eq_comm
  · simp only [mapError_eq_ok_iff, Arguments.readingHurdle]

theorem decide_parseSchema (h : files.readText a.schema = .ok text) :
    Decide [a.documentHurdle files] (parseSchema text) := by
  unfold parseSchema
  refine decide_singleton (fun failure => ?_) ?_
  · simp only [mapError_eq_error_iff, Arguments.documentHurdle, h, Except.ok.injEq,
      exists_and_left, exists_eq_left']
    exact exists_congr fun fault => and_congr_right fun _ => eq_comm
  · simp [mapError_eq_ok_iff, Arguments.documentHurdle, Arguments.Loads, h]

theorem decide_products {schema : Schema} (hs : a.settings = .ok settings)
    (hl : a.Loads files schema) :
    Decide [a.entitiesHurdle files] (settings.products schema a.entityList) := by
  have hu : ∀ other, a.Loads files other → other = schema := by
    obtain ⟨text, ht, hp⟩ := hl
    rintro other ⟨text', ht', hp'⟩
    obtain rfl := Except.ok.inj (ht.symm.trans ht')
    exact Except.ok.inj (hp'.symm.trans hp)
  have hone : ∀ P : Settings → Schema → Prop, (∃ settings schema, a.settings = .ok settings ∧
      a.Loads files schema ∧ P settings schema) ↔ P settings schema := by
    intro P
    constructor
    · rintro ⟨settings', schema', hs', hl', hp⟩
      obtain rfl := Except.ok.inj (hs.symm.trans hs')
      rwa [hu schema' hl'] at hp
    · exact fun hp => ⟨settings, schema, hs, hl, hp⟩
  refine decide_singleton (fun failure => ?_) ?_
  · exact Settings.products_eq_error_iff.trans
      (hone fun settings schema =>
        settings.FirstFails schema (schema.select a.entityList) failure).symm
  · exact Settings.exists_products_iff.trans
      (hone fun settings schema => settings.Producible schema (schema.select a.entityList)).symm

/-- Products are generated without a change to the files. -/
theorem generateIn_fileSystem (a : Arguments) (files : FileTree) :
    generateIn FileTree.fileSystem a files = (do
        let settings ← a.settings
        let text ← (files.readText a.schema).mapError Failure.unreadable
        let schema ← parseSchema text
        return (settings, ← settings.products schema a.entityList), files) := by
  refine bind_apply_of_unchanged rfl fun settings => ?_
  refine bind_apply_of_unchanged rfl fun text => ?_
  refine bind_apply_of_unchanged rfl fun schema => ?_
  exact bind_apply_of_unchanged rfl fun products => rfl

theorem generateIn_apply : generateIn FileTree.fileSystem a files = (generate a files, files) := by
  rw [generate, generateIn_fileSystem]

theorem decide_generate (a : Arguments) (files : FileTree) :
    Decide (a.hurdles files) (generate a files) := by
  rw [generate, generateIn_fileSystem]
  refine decide_settings.bind fun settings hs => ?_
  refine decide_readText.bind fun text ht => ?_
  have ht := mapError_eq_ok_iff.mp ht
  refine (decide_parseSchema ht).bind fun schema hp => ?_
  have hl : a.Loads files schema := ⟨text, ht, mapError_eq_ok_iff.mp hp⟩
  exact (decide_products hs hl).bind fun products _ => decide_pure _

end Decided

/-! ## Runs that fail -/

section Failing

open Hurdle

variable {arguments : List String} {env : Environment} {a : Arguments} {files : FileTree}
  {failure : Failure}

theorem run_eq (h : Arguments.parse env arguments = .ok a) (files : FileTree) :
    run arguments env files =
      { respond (output FileTree.fileSystem a files).1 with
        files := (output FileTree.fileSystem a files).2 } := by
  unfold run perform
  rw [h]
  rfl

theorem run_of_generate_error (h : Arguments.parse env arguments = .ok a)
    (hg : generate a files = .error failure) (hw : ∀ w, failure ≠ .inflection w) :
    run arguments env files =
      { exitCode := 1, stdout := "", stderr := failure.report, files } := by
  have hcode : failure.exitCode = 1 := by
    cases failure with
    | inflection w => exact (hw w rfl).elim
    | _ => rfl
  have ho : output FileTree.fileSystem a files = (.error failure, files) :=
    bind_apply_of_error (by rw [generateIn_apply, hg])
  rw [run_eq h, ho]
  simp only [respond, Failure.response, hcode]

theorem not_inflection_of_settingHurdles (h : FirstStop a.settingHurdles failure) (w) :
    failure ≠ .inflection w := by
  obtain ⟨hurdle, hm, hs⟩ := exists_stops_of_firstStop h
  simp only [Arguments.settingHurdles, List.mem_cons, List.not_mem_nil, or_false] at hm
  rintro rfl
  rcases hm with rfl | rfl | rfl | rfl <;> cases hs.2

theorem firstStop_hurdles_of_settings (h : FirstStop a.settingHurdles failure) :
    FirstStop (a.hurdles files) failure :=
  firstStop_append_iff.mpr (.inl h)

/-- A run fails with the failure of the first hurdle that stops it, without output and with the
files as they were. A setting that stops it does so whatever the files. -/
theorem run_of_firstStop (h : Arguments.parse env arguments = .ok a) (files : FileTree) :
    (∀ failure, generate a files = .error failure ↔ FirstStop (a.hurdles files) failure) ∧
    (∀ failure, FirstStop (a.hurdles files) failure → (∀ w, failure ≠ .inflection w) →
      run arguments env files =
        { exitCode := 1, stdout := "", stderr := failure.report, files }) ∧
    ∀ failure, FirstStop a.settingHurdles failure → ∀ others,
      run arguments env others =
        { exitCode := 1, stdout := "", stderr := failure.report, files := others } := by
  refine ⟨(decide_generate a files).error_iff, fun failure hf hw => ?_, fun failure hf others => ?_⟩
  · exact run_of_generate_error h (((decide_generate a files).error_iff failure).mpr hf) hw
  · have hg := ((decide_generate a others).error_iff failure).mpr (firstStop_hurdles_of_settings hf)
    exact run_of_generate_error h hg (not_inflection_of_settingHurdles hf)

end Failing

end CommandLine

namespace Sample

open CommandLine Output

def repeatedDocument : String :=
  "\x7b\"entities\":[" ++
    "\x7b\"entity_class\":\"Customer\",\"mapping_class\":\"CustomerMap\"," ++
      "\"table_name\":\"C\"\x7d," ++
    "\x7b\"entity_class\":\"Order\",\"mapping_class\":\"OrderMap\",\"table_name\":\"O\"\x7d," ++
    "\x7b\"entity_class\":\"OldOrder\",\"mapping_class\":\"CustomerMap\"," ++
      "\"table_name\":\"P\"\x7d]\x7d"

def deskWith (document : String) : FileTree where
  entries := [(["schema.json"], .file document.toUTF8)]

theorem run_repeatedDocument :
    Arguments.parse {} ["schema.json", "--outdir", "out"] =
      .ok { schema := "schema.json", outdir := some "out" } ∧
    run ["schema.json", "--outdir", "out"] {} (deskWith repeatedDocument) = {
      exitCode := 1
      stdout := ""
      stderr := "Error: Invalid metadata for entity OldOrder: " ++
        "mapping class CustomerMap is generated twice\n"
      files := deskWith repeatedDocument } ∧
    ∀ files, run ["none.json", "--ordering", "any"] {} files = {
      exitCode := 1
      stdout := ""
      stderr := "Error: Naming policy misconfiguration: unknown statement ordering 'any' " ++
        "(expected 'properties-first' or 'indexes-first')\n"
      files } := by
  have ha : Arguments.parse {} ["schema.json", "--outdir", "out"] =
      .ok { schema := "schema.json", outdir := some "out" } := by decide +kernel
  have hb : Arguments.parse {} ["none.json", "--ordering", "any"] =
      .ok { schema := "none.json", ordering := "any" } := by decide +kernel
  have hg : generate { schema := "schema.json", outdir := some "out" }
      (deskWith repeatedDocument) =
        .error (.metadata "OldOrder" (.repeatedMappingClass "CustomerMap")) := by decide +kernel
  refine ⟨ha, ?_, fun files => ?_⟩
  · obtain ⟨he, hr, -⟩ := run_of_firstStop ha (deskWith repeatedDocument)
    exact hr _ ((he _).mp hg) nofun
  · obtain ⟨-, -, hr⟩ := run_of_firstStop hb files
    exact hr (.unknownOrdering "any") ((decide_settings.error_iff _).mp (by decide +kernel)) files

end Sample

end EntityMapping
