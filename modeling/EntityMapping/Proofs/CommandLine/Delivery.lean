import EntityMapping.Proofs.CommandLine.Hurdles
import EntityMapping.Proofs.Output.Directories
import Mathlib.Data.List.Nodup

/-! # Delivery into a directory

Products are written one after the other into the output directory, each under its mapping class.
A mapping class with a slash is no name but leads somewhere else, to the file of another entity or
out of the directory; in all other cases the directory holds one file for each product.
-/

namespace EntityMapping

open Outcome Output

namespace CommandLine

variable {settings : Settings} {directory : String} {files after : FileTree} {product : Product}
  {products : List Product} {place : Place}

/-! ## Names of files -/

/-- The files that products go to, with their contents. -/
def Settings.contents (settings : Settings) (products : List Product) : List (String × ByteArray) :=
  products.map fun product => (settings.fileName product, product.text.toUTF8)

theorem slash_mem_fileName_iff :
    '/' ∈ (settings.fileName product).toList ↔ '/' ∈ product.mappingClass.toList := by
  have hs : '/' ∉ settings.generator.fileExtension.toList := by
    cases settings.generator <;> decide
  simp [Settings.fileName, hs]

theorem fileName_ne_empty : settings.fileName product ≠ "" := by
  simp [Settings.fileName, String.append_eq_empty_iff]

theorem nodup_contents (h : (products.map (·.mappingClass)).Nodup) :
    ((settings.contents products).map (·.1)).Nodup := by
  have hn : (settings.contents products).map (·.1) =
      (products.map (·.mappingClass)).map
        (· ++ "." ++ settings.generator.fileExtension) := by
    simp [Settings.contents, Settings.fileName, Function.comp_def]
  rw [hn]
  refine List.Nodup.map (fun a b hab => ?_) h
  simpa [String.append_left_inj] using hab

/-! ## One product after another -/

theorem writeProducts_cons {rest : List Product}
    (h : writeProducts FileTree.fileSystem settings directory (product :: rest) files =
      (.ok (), after)) :
    ∃ next, files.writeText (Path.join directory (settings.fileName product)) product.text =
        .ok next ∧
      writeProducts FileTree.fileSystem settings directory rest next = (.ok (), after) := by
  obtain ⟨⟨⟩, next, hw, h⟩ := bind_apply_eq_ok_iff.mp h
  exact ⟨next, FileTree.update_apply_eq_ok_iff.mp (adapt_apply_eq_ok_iff.mp hw), h⟩

theorem wellFormed_writeProducts (hf : files.WellFormed)
    (h : writeProducts FileTree.fileSystem settings directory products files = (.ok (), after)) :
    after.WellFormed := by
  induction products generalizing files with
  | nil =>
    cases h
    exact hf
  | cons product rest ih =>
    obtain ⟨next, hw, h⟩ := writeProducts_cons h
    exact ih (hf.writeText hw) h

theorem keeps_writeProducts
    (h : writeProducts FileTree.fileSystem settings directory products files = (.ok (), after)) :
    files.Keeps after := by
  induction products generalizing files with
  | nil =>
    cases h
    exact .refl _
  | cons product rest ih =>
    obtain ⟨next, hw, h⟩ := writeProducts_cons h
    exact (FileTree.keeps_writeText hw).trans (ih h)

theorem eq_putFiles_of_writeProducts (hd : directory ≠ "")
    (hr : files.resolve (.parse directory) = .ok place)
    (hs : ∀ product ∈ products, '/' ∉ product.mappingClass.toList)
    (h : writeProducts FileTree.fileSystem settings directory products files = (.ok (), after)) :
    after = files.putFiles place (settings.contents products) := by
  induction products generalizing files with
  | nil =>
    cases h
    rfl
  | cons product rest ih =>
    obtain ⟨hp, hs⟩ := List.forall_mem_cons.mp hs
    obtain ⟨next, hw, h⟩ := writeProducts_cons h
    have hnext := FileTree.eq_put_of_writeText_join hr fileName_ne_empty
      (slash_mem_fileName_iff.not.mpr hp) hd hw
    rw [ih ((FileTree.keeps_writeText hw).resolve hr) hs h, hnext]
    rfl

/-! ## Runs that succeed -/

section Succeeding

variable {arguments : List String} {env : Environment} {a : Arguments} {schema : Schema}

theorem of_generate_eq_ok (h : generate a files = .ok (settings, products)) :
    a.settings = .ok settings ∧ ∃ schema, a.Loads files schema ∧
      settings.products schema a.entityList = .ok products := by
  rw [generate, generateIn_fileSystem] at h
  obtain ⟨settings', hs, h⟩ := bind_eq_ok_iff.mp h
  obtain ⟨text, ht, h⟩ := bind_eq_ok_iff.mp h
  obtain ⟨schema, hp, h⟩ := bind_eq_ok_iff.mp h
  obtain ⟨products', hps, h⟩ := bind_eq_ok_iff.mp h
  obtain ⟨rfl, rfl⟩ := Prod.mk.inj (pure_eq_ok_iff.mp h)
  exact ⟨hs, schema, ⟨text, mapError_eq_ok_iff.mp ht, mapError_eq_ok_iff.mp hp⟩, hps⟩

theorem exitCode_ne_zero (failure : Failure) : failure.exitCode ≠ 0 := by
  cases failure <;> exact nofun

theorem exists_of_exitCode (h : Arguments.parse env arguments = .ok a)
    (ho : a.outdir = some directory) (hx : (run arguments env files).exitCode = 0) :
    ∃ settings products made, generate a files = .ok (settings, products) ∧
      files.createDirectories directory = .ok made ∧
      writeProducts FileTree.fileSystem settings directory products made =
        (.ok (), (run arguments env files).files) := by
  rw [run_eq h] at hx ⊢
  rcases hout : output FileTree.fileSystem a files with ⟨failure | stdout, after⟩
  · rw [hout] at hx
    exact (exitCode_ne_zero failure hx).elim
  obtain ⟨⟨settings, products⟩, _, hg, hd⟩ := bind_apply_eq_ok_iff.mp hout
  obtain ⟨hproducts, rfl⟩ := Prod.mk.inj (generateIn_apply.symm.trans hg)
  simp only [deliver, ho] at hd
  obtain ⟨⟨⟩, made, hc, hd⟩ := bind_apply_eq_ok_iff.mp hd
  obtain ⟨⟨⟩, _, hw, hd⟩ := bind_apply_eq_ok_iff.mp hd
  cases hd
  have hc := FileTree.update_apply_eq_ok_iff.mp (adapt_apply_eq_ok_iff.mp hc)
  exact ⟨settings, products, made, hproducts, hc, hw⟩

/-- A run that succeeds leaves a file for each of its entities in an output directory that held
nothing, and no other file anywhere, exactly if no mapping class of them has a slash. -/
theorem holds_iff_of_run (h : Arguments.parse env arguments = .ok a)
    (ho : a.outdir = some directory) (hf : files.WellFormed) (hv : files.Vacant directory)
    (hx : (run arguments env files).exitCode = 0) :
    ∃ settings schema products place, a.settings = .ok settings ∧ a.Loads files schema ∧
      List.Forall₂ (settings.Yields schema) (schema.select a.entityList) products ∧
      (run arguments env files).files.resolve (.parse directory) = .ok place ∧
      (files.Holds place (settings.contents products) (run arguments env files).files ↔
        ∀ e ∈ schema.select a.entityList, '/' ∉ e.mappingClass.toList) := by
  obtain ⟨settings, products, made, hg, hc, hw⟩ := exists_of_exitCode h ho hx
  obtain ⟨hs, schema, hl, hp⟩ := of_generate_eq_ok hg
  obtain ⟨hy, hn⟩ := Settings.products_eq_ok_iff.mp hp
  obtain ⟨place, hr, -⟩ := FileTree.exists_resolve_of_createDirectories hc
  refine ⟨settings, schema, products, place, hs, hl, hy, (keeps_writeProducts hw).resolve hr, ?_⟩
  rw [← Settings.mappingClasses_of_yields hy] at hn
  have hclasses : (∀ e ∈ schema.select a.entityList, '/' ∉ e.mappingClass.toList) ↔
      ∀ product ∈ products, '/' ∉ product.mappingClass.toList := by
    simpa using congrArg (fun classes => ∀ c ∈ classes, '/' ∉ c.toList)
      (Settings.mappingClasses_of_yields hy).symm
  rw [hclasses]
  constructor
  · intro hh product hm
    have hfile := hh.files _ (List.mem_map_of_mem hm)
    have hname := (wellFormed_writeProducts (hf.createDirectories hc) hw).names
      (by rw [hfile]; rfl)
    exact slash_mem_fileName_iff.not.mp hname
  · intro hplain
    have hd := (FileTree.exists_of_createDirectories hc).1
    rw [eq_putFiles_of_writeProducts hd hr hplain hw]
    exact (hv.readies hf hc hr).holds (nodup_contents hn)

end Succeeding

end CommandLine

namespace Sample

open CommandLine

def ordersDocument (newer older : String) : String :=
  "\x7b\"entities\":[" ++
    "\x7b\"entity_class\":\"Order\",\"mapping_class\":\"" ++ newer ++
      "\",\"table_name\":\"O\"\x7d," ++
    "\x7b\"entity_class\":\"OldOrder\",\"mapping_class\":\"" ++ older ++
      "\",\"table_name\":\"P\"\x7d]\x7d"

theorem wellFormed_deskWith (document : String) : (deskWith document).WellFormed := by
  have h : (({} : FileTree).put ([] ++ ["schema.json"]) (.file document.toUTF8)).WellFormed :=
    FileTree.wellFormed_empty.put rfl (by decide) nofun
  exact h

theorem holds_dottedOrders :
    let arguments := ["schema.json", "--outdir", "build/./maps"]
    let files := deskWith (ordersDocument "OrderMap" "..")
    let a : Arguments := { schema := "schema.json", outdir := some "build/./maps" }
    Arguments.parse {} arguments = .ok a ∧ files.WellFormed ∧ files.Vacant "build/./maps" ∧
      (run arguments {} files).exitCode = 0 ∧
      ∃ settings schema products place, a.settings = .ok settings ∧ a.Loads files schema ∧
        List.Forall₂ (settings.Yields schema) (schema.select a.entityList) products ∧
        (run arguments {} files).files.resolve (.parse "build/./maps") = .ok place ∧
        files.Holds place (settings.contents products) (run arguments {} files).files := by
  intro arguments files a
  have ha : Arguments.parse {} arguments = .ok a := by decide +kernel
  have hf : files.WellFormed := wellFormed_deskWith _
  have hv : files.Vacant "build/./maps" := .absent (by decide +kernel) (by decide +kernel)
  have hx : (run arguments {} files).exitCode = 0 := by decide +kernel
  obtain ⟨settings, schema, products, place, hs, hl, hy, hr, hh⟩ :=
    holds_iff_of_run ha rfl hf hv hx
  refine ⟨ha, hf, hv, hx, settings, schema, products, place, hs, hl, hy, hr, hh.mpr ?_⟩
  obtain ⟨text, ht, hp⟩ := hl
  have ht' : files.readText a.schema = .ok (ordersDocument "OrderMap" "..") := by decide +kernel
  have hc : (Schema.parse (ordersDocument "OrderMap" "..")).map
      (·.entities.map (·.mappingClass)) = .ok ["OrderMap", ".."] := by decide +kernel
  rw [Except.ok.inj (ht.symm.trans ht')] at hp
  rw [hp] at hc
  have hclasses : schema.entities.map (·.mappingClass) = ["OrderMap", ".."] := Except.ok.inj hc
  have hplain : ∀ c ∈ schema.entities.map (·.mappingClass), '/' ∉ c.toList := by
    rw [hclasses]
    decide
  exact fun e he => hplain _ (List.mem_map_of_mem he)

/-- The second order is written over the first, whose mapping class is another text but leads to
the same file. -/
theorem run_twinOrders :
    let files := deskWith (ordersDocument "OrderMap" "./OrderMap")
    files.resolve (.parse "out") = .error .notFound ∧
    (Schema.parse (ordersDocument "OrderMap" "./OrderMap")).map
        (·.entities.map (·.mappingClass)) = .ok ["OrderMap", "./OrderMap"] ∧
    (run ["schema.json", "--outdir", "out"] {} files).exitCode = 0 ∧
    (run ["schema.json", "--outdir", "out"] {} files).files.entries.map (·.1) =
      [["out", "OrderMap.cs"], ["out"], ["schema.json"]] := by
  decide +kernel

end Sample

end EntityMapping
