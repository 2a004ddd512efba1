import ModuleDocs.Proofs.Leaves
import ModuleDocs.Proofs.SortedTables
import ModuleDocs.Proofs.UsableSettings

/-!
# Proofs — Precedence of settings

The settings in force come in layers: the user's file, the project's file and the environment
variables, each of which is a layer of its own.  They are laid over each other and decoded as a
whole.  Leaf by leaf this says that a leaf is what the uppermost layer that has it gives, or its
default.  It holds as long as nothing but tables stands above the leaves (`Decode.Sectioned`): a layer
that makes a section something else hides all the layers below it from that section.

* `environmentLayer_eq`: the environment is its variables, laid over each other.
* `load_eq_ok_iff`: the settings in force, leaf by leaf.
* `layers_decide_leaves`: what follows from it for a change in some of the layers.
-/

namespace ModuleDocs.Settings

open Decode (Leaf Sectioned leaves)
open Datum (uppermost?)

variable {h h' : Host} {root root' : String} {s : Settings} {layers layers' : List (Datum Origin)}

/-! ### Layers -/

/-- The layers of the environment, one for each of its variables. -/
def variableLayers (h : Host) : List (Datum Origin) :=
  (h.environment.filterMap fun (name, value) =>
    (Environment.keys? name).map (Environment.nest (Environment.read value))).map
      (Datum.withOrigin .environment)

/-- The layer of a file, if the file is there. -/
def layerIfThere (fs : Files) (path : String) : Except LayerFault (List (Datum Origin)) :=
  if fs.exist path then (fileLayer fs path).map fun d => [d] else .ok []

/-- The layers in force for a project, the lowest first: the user's file, the project's file and the
variables. -/
def layersInForce (h : Host) (root : String) : Except LayerFault (List (Datum Origin)) := do
  let user ← layerIfThere h.files (globalFile h)
  let project ← layerIfThere h.files (Path.join root projectFile)
  return user ++ project ++ variableLayers h

theorem mapM_fileLayer_of_layerIfThere {fs : Files} {path : String} {ds : List (Datum Origin)}
    (hd : layerIfThere fs path = .ok ds) :
    ([path].filter fs.exist).mapM (fileLayer fs) = .ok ds := by
  unfold layerIfThere at hd
  split at hd
  · rename_i hexist
    cases hlayer : fileLayer fs path with
    | error fault =>
        rw [hlayer] at hd
        cases hd
    | ok d =>
        rw [hlayer] at hd
        cases hd
        rw [List.filter_cons_of_pos hexist]
        exact mapM_cons_eq_ok_iff.mpr ⟨d, [], hlayer, rfl, rfl⟩
  · rename_i hexist
    cases hd
    rw [List.filter_cons_of_neg hexist]
    rfl

/-- The layers in force are those of the files in force and the variables. -/
theorem exists_of_layersInForce (hl : layersInForce h root = .ok layers) :
    ∃ files, (filesInForce h root).mapM (fileLayer h.files) = .ok files ∧
      layers = files ++ variableLayers h := by
  unfold layersInForce at hl
  cases huser : layerIfThere h.files (globalFile h) with
  | error fault =>
      rw [huser] at hl
      cases hl
  | ok user =>
      cases hproject : layerIfThere h.files (Path.join root projectFile) with
      | error fault =>
          rw [huser, hproject] at hl
          cases hl
      | ok project =>
          rw [huser, hproject] at hl
          cases hl
          refine ⟨user ++ project, ?_, rfl⟩
          have hsplit : filesInForce h root = [globalFile h].filter h.files.exist ++
              [Path.join root projectFile].filter h.files.exist := by
            rw [← List.filter_append]
            rfl
          rw [hsplit, List.mapM_append, mapM_fileLayer_of_layerIfThere huser,
            mapM_fileLayer_of_layerIfThere hproject]
          rfl

/-- The environment is its variables, laid over each other. -/
theorem environmentLayer_eq (h : Host) :
    environmentLayer h = (variableLayers h).foldl Datum.merge (.table .environment []) := by
  rw [environmentLayer, Environment.settings, Datum.withOrigin_foldl_merge]
  rfl

/-- The layer of a file is sorted. -/
theorem fileLayer_sorted {fs : Files} {path : String} {d : Datum Origin}
    (hd : fileLayer fs path = .ok d) : d.Sorted := by
  unfold fileLayer at hd
  split at hd
  · cases hd
    exact .nil _
  · dsimp only at hd
    split at hd
    · cases hd
    · split at hd
      · cases hd
      · cases hd
        exact (Toml.read?_sorted ‹_›).withOrigin _

/-- The layers of the environment are sorted. -/
theorem variableLayers_sorted (h : Host) : ∀ d ∈ variableLayers h, d.Sorted := by
  intro d hd
  obtain ⟨e, he, rfl⟩ := List.mem_map.mp hd
  obtain ⟨⟨name, value⟩, -, he⟩ := List.mem_filterMap.mp he
  obtain ⟨keys, -, rfl⟩ := Option.map_eq_some_iff.mp he
  exact (Environment.nest_sorted (Environment.read_sorted value) keys).withOrigin _

/-- Layers of files are laid over what is there, if all of them can be read. -/
theorem foldl_laidOver {fs : Files} {paths : List String} {ds : List (Datum Origin)}
    (hds : paths.mapM (fileLayer fs) = .ok ds) (d : Datum Origin) :
    paths.foldl (fun ls path => laidOver ls (fileLayer fs path)) (.ok d) =
      .ok (ds.foldl Datum.merge d) := by
  induction paths generalizing d ds with
  | nil =>
      cases hds
      rfl
  | cons path paths ih =>
      obtain ⟨e, es, he, hes, rfl⟩ := mapM_cons_eq_ok_iff.mp hds
      rw [List.foldl_cons, he, laidOver, ih hes, List.foldl_cons]

/-! ### The settings in force -/

/-- The layers are laid over each other and decoded as a whole. -/
theorem load_eq_ok_iff_decode {files : List (Datum Origin)}
    (hf : (filesInForce h root).mapM (fileLayer h.files) = .ok files) :
    load h root = .ok s ↔ s.problem? = none ∧ Decode.settings []
      ((files ++ [environmentLayer h]).foldl Datum.merge (.table .environment [])) = .ok s := by
  rw [load, noLayers, foldl_laidOver hf, laidOver, ofLayers, List.foldl_append]
  dsimp only [List.foldl_cons, List.foldl_nil]
  split
  · simp [*]
  · rename_i t ht
    rw [validate_eq_ok_iff, ht, Except.ok.injEq]
    constructor
    · rintro ⟨hp, rfl⟩
      exact ⟨hp, rfl⟩
    · rintro ⟨hp, rfl⟩
      exact ⟨hp, rfl⟩

/-- Seen from keys it does not matter that the variables are laid over each other first. -/
theorem bare_at?_layers {files : List (Datum Origin)} {keys : List String} (hne : keys ≠ [])
    (hfiles : ∀ d ∈ files, d.Fits keys) (hvariables : ∀ d ∈ variableLayers h, d.Fits keys) :
    let whole := (files ++ [environmentLayer h]).foldl Datum.merge (.table .environment [])
    whole.Fits keys ∧ (whole.at? keys).map Datum.bare =
      (uppermost? (files ++ variableLayers h) keys).map Datum.bare := by
  have hnothing : (Datum.table Origin.environment []).Fits keys := .nil _ keys
  have hempty := Datum.at?_nil Origin.environment hne
  have henv : (environmentLayer h).Fits keys := by
    rw [environmentLayer_eq]
    exact .foldl hvariables hnothing
  have hat : ((environmentLayer h).at? keys).map Datum.bare =
      (uppermost? (variableLayers h) keys).map Datum.bare := by
    rw [environmentLayer_eq, Datum.bare_at?_foldl_merge hvariables hnothing, hempty, Option.or_none]
  have hall : ∀ d ∈ files ++ [environmentLayer h], d.Fits keys :=
    List.forall_mem_append.mpr ⟨hfiles, List.forall_mem_singleton.mpr henv⟩
  refine ⟨.foldl hall hnothing, ?_⟩
  rw [Datum.bare_at?_foldl_merge hall hnothing, hempty, Option.or_none]
  simp only [Datum.uppermost?_append, Datum.uppermost?_cons, Datum.uppermost?_nil, Option.none_or,
    Option.map_or, hat]

/-- **The settings in force, leaf by leaf.** -/
theorem load_eq_ok_iff (hl : layersInForce h root = .ok layers) (hs : ∀ d ∈ layers, Sectioned d) :
    load h root = .ok s ↔
      s.problem? = none ∧ ∀ l ∈ leaves, l.Holds s (uppermost? layers l.keys) := by
  obtain ⟨files, hf, rfl⟩ := exists_of_layersInForce hl
  rw [List.forall_mem_append] at hs
  have hfiles : ∀ l ∈ leaves, ∀ d ∈ files, d.Fits l.keys := by
    intro l hl d hd
    obtain ⟨path, -, hpath⟩ := exists_of_mapM_eq_ok hf hd
    exact ⟨fileLayer_sorted hpath, (hs.1 d hd).opensTo l hl⟩
  have hvariables : ∀ l ∈ leaves, ∀ d ∈ variableLayers h, d.Fits l.keys :=
    fun l hl d hd => ⟨variableLayers_sorted h d hd, (hs.2 d hd).opensTo l hl⟩
  -- what is decoded is not the uppermost datum itself, but it is a table where that one is
  have hwhole l (hl : l ∈ leaves) :=
    bare_at?_layers (Decode.keys_ne_nil hl) (hfiles l hl) (hvariables l hl)
  rw [load_eq_ok_iff_decode hf, Decode.settings_eq_ok_iff
    (hwhole _ List.mem_cons_self).1.sorted fun l hl => (hwhole l hl).1.opens]
  exact and_congr_right fun _ => forall₂_congr fun l hl => l.holds_congr hl (hwhole l hl).2

/-! ### Two files and two variables -/

/-- The layer of a single setting. -/
def single (o : Origin) (keys : List String) (value : Scalar) : Datum Origin :=
  keys.foldr (fun k d => .table o [(k, d)]) (.scalar o value)

/-- The layer of a single setting gives sections tables only. -/
theorem single_sectioned {o : Origin} {keys : List String} {value : Scalar}
    (h : keys = ["version"] ∨ keys = ["output", "dir"]) : Sectioned (single o keys value) := by
  rcases h with rfl | rfl <;> simp [Sectioned, single, Datum.at?, List.lookup_cons]

/-- The layer of a file that is there is what its text says. -/
theorem layerIfThere_eq {fs : Files} {path located shown text : String} {place : Place}
    {d : Datum Unit} (he : fs.exist path = true) (hl : locate? fs path = some located)
    (hs : shownFile fs located = shown)
    (hf : fs.find true located = .ok (.entry place (.file text.toUTF8)))
    (hd : Toml.read? text = some d) :
    layerIfThere fs path = .ok [d.withOrigin (.file shown)] := by
  have hread : fs.readText located = .ok text := by
    rw [Files.readText_eq_ok_iff, Files.read, hf]
  rw [layerIfThere, if_pos he, fileLayer, hl]
  simp only [hread, hd, hs, Except.map]

/-- Both the user and the project make the version a truth value. -/
def twoFiles : Files where
  disk :=
    { entries :=
        [(["u"], .directory), (["u", ".config"], .directory),
          (["u", ".config", "docfold"], .directory),
          (["u", ".config", "docfold", "config.toml"], .file "version=true".toUTF8),
          ([".docfold"], .directory),
          ([".docfold", "config.toml"], .file "version=false".toUTF8)] }

/-- The layers of the two files. -/
def fileLayers : List (Datum Origin) :=
  [single (.file "u/.config/docfold/config.toml") ["version"] (.bool true),
    single (.file ".docfold/config.toml") ["version"] (.bool false)]

theorem layersInForce_twoFiles {environment : List (String × String)}
    (hx : environment.reverse.lookup "XDG_CONFIG_HOME" = none) :
    let host : Host := { files := twoFiles, home := "/u", environment }
    layersInForce host "." = .ok (fileLayers ++ variableLayers host) := by
  intro host
  have hfree : twoFiles.disk.LinkFree := by decide
  have huser : twoFiles.find true "/u/.config/docfold/config.toml" =
      .ok (.entry ["u", ".config", "docfold", "config.toml"] (.file "version=true".toUTF8)) :=
    (Files.find_eq_ok_iff hfree).mpr ⟨by decide, by decide, rfl⟩
  have hproject : twoFiles.find true "./.docfold/config.toml" =
      .ok (.entry [".docfold", "config.toml"] (.file "version=false".toUTF8)) :=
    (Files.find_eq_ok_iff hfree).mpr ⟨by decide, by decide, rfl⟩
  have hlocated : twoFiles.find true "/./.docfold/config.toml" =
      .ok (.entry [".docfold", "config.toml"] (.file "version=false".toUTF8)) :=
    (Files.find_eq_ok_iff hfree).mpr ⟨by decide, by decide, rfl⟩
  have hglobal : globalFile host = "/u/.config/docfold/config.toml" := by
    have hpath : Path.join (Path.join (Path.join "/u" ".config") "docfold") fileName =
        "/u/.config/docfold/config.toml" := by decide
    rw [globalFile, globalDir, configDir, hx, ← hpath]
  have hjoin : Path.join "." projectFile = "./.docfold/config.toml" := by decide
  have huserLayer : layerIfThere twoFiles "/u/.config/docfold/config.toml" =
      .ok [single (.file "u/.config/docfold/config.toml") ["version"] (.bool true)] := by
    have habsolute : Path.isAbsolute "/u/.config/docfold/config.toml" = true := by decide
    have hread : Toml.read? "version=true" =
        some (.table () [("version", .scalar () (.bool true))]) := rfl
    refine layerIfThere_eq (by simp [Files.exist, Files.entry?, huser]) ?_ (by decide) huser hread
    simp [locate?, habsolute, Files.isFile, Files.entry?, huser]
  have hprojectLayer : layerIfThere twoFiles "./.docfold/config.toml" =
      .ok [single (.file ".docfold/config.toml") ["version"] (.bool false)] := by
    have hrelative : Path.isAbsolute "./.docfold/config.toml" = false := by decide
    have hplaces : (upward twoFiles.workDir).map (fun dir =>
        Path.join (Path.ofParts true dir) "./.docfold/config.toml") =
          ["/./.docfold/config.toml"] := by decide
    have hread : Toml.read? "version=false" =
        some (.table () [("version", .scalar () (.bool false))]) := rfl
    refine layerIfThere_eq (by simp [Files.exist, Files.entry?, hproject]) ?_ (by decide) hlocated
      hread
    simp only [locate?, hrelative, hplaces]
    simp [Files.isFile, Files.entry?, hlocated]
  rw [layersInForce, hglobal, hjoin, huserLayer, hprojectLayer]
  rfl

/-! ### Changed layers -/

/-- **The uppermost layer that has a leaf decides it.**  Settings are in force exactly if they are
usable and each of their leaves is what the uppermost of the layers that have it gives, or the
default if none has it.  So if some layers are changed, a leaf that these layers have as before stays
as it is, whatever happens to the others; and if all that has changed is covered by layers above,
the same settings are in force as before, or none as before. -/
theorem layers_decide_leaves (hl : layersInForce h root = .ok layers)
    (hl' : layersInForce h' root' = .ok layers') (hs : ∀ d ∈ layers, Sectioned d)
    (hs' : ∀ d ∈ layers', Sectioned d) :
    (∀ s, load h root = .ok s ↔
      s.problem? = none ∧ ∀ l ∈ leaves, l.Holds s (uppermost? layers l.keys)) ∧
    ∀ below changed changed' above, layers = below ++ changed ++ above →
      layers' = below ++ changed' ++ above →
      (∀ s s', load h root = .ok s → load h' root' = .ok s' → ∀ l ∈ leaves,
        uppermost? changed l.keys = uppermost? changed' l.keys → l.get s = l.get s') ∧
      ((∀ l ∈ leaves, (uppermost? above l.keys).isSome ∨
          uppermost? changed l.keys = uppermost? changed' l.keys) →
        ∀ s, load h root = .ok s ↔ load h' root' = .ok s) := by
  have hload s := load_eq_ok_iff (s := s) hl hs
  have hload' s := load_eq_ok_iff (s := s) hl' hs'
  refine ⟨hload, ?_⟩
  rintro below changed changed' above rfl rfl
  refine ⟨?_, ?_⟩
  · intro s s' h h' l hleaf hsame
    have hholds := ((hload s).mp h).2 l hleaf
    have hholds' := ((hload' s').mp h').2 l hleaf
    simp only [Datum.uppermost?_append, hsame] at hholds hholds'
    exact hholds.unique hholds'
  · intro hcovered s
    rw [hload, hload']
    refine and_congr_right fun _ => forall₂_congr fun l hleaf => ?_
    simp only [Datum.uppermost?_append]
    rcases hcovered l hleaf with habove | hsame
    · obtain ⟨d, hd⟩ := Option.isSome_iff_exists.mp habove
      rw [hd, Option.some_or, Option.some_or]
    · rw [hsame]

/-- Two files and a variable give truth values to leaves that other variables cover. -/
theorem layers_decide_leaves_covered :
    let host (environment : List (String × String)) : Host :=
      { files := twoFiles, home := "/u", environment }
    let before := host [("DOCFOLD_OUTPUT", "\x7bdir=true\x7d"), ("DOCFOLD_OUTPUT__DIR", "e"),
      ("DOCFOLD_VERSION", "v")]
    let after := host [("DOCFOLD_OUTPUT__DIR", "e"), ("DOCFOLD_VERSION", "v")]
    load before "." = .ok { version := "v", output := { dir := "e" } } ∧
      ∀ s, load before "." = .ok s ↔ load after "." = .ok s := by
  intro host before after
  let covered := single .environment ["output", "dir"] (.bool true)
  let covering := [single .environment ["output", "dir"] (.text "e"),
    single .environment ["version"] (.text "v")]
  have houtput : Environment.keys? "DOCFOLD_OUTPUT" = some ["output"] := by decide +kernel
  have hdir : Environment.keys? "DOCFOLD_OUTPUT__DIR" = some ["output", "dir"] := by decide +kernel
  have hversion : Environment.keys? "DOCFOLD_VERSION" = some ["version"] := by decide +kernel
  have hl : layersInForce before "." = .ok (fileLayers ++ covered :: covering) := by
    have hbefore : variableLayers before = covered :: covering := by
      simp only [variableLayers, before, host, List.filterMap_cons, houtput, hdir, hversion]
      rfl
    rw [← hbefore]
    exact layersInForce_twoFiles (by decide)
  have hl' : layersInForce after "." = .ok (fileLayers ++ covering) := by
    have hafter : variableLayers after = covering := by
      simp only [variableLayers, after, host, List.filterMap_cons, hdir, hversion]
      rfl
    rw [← hafter]
    exact layersInForce_twoFiles (by decide)
  have hs : ∀ d ∈ fileLayers ++ covered :: covering, Sectioned d := by
    simp [fileLayers, covered, covering, single_sectioned]
  have hs' : ∀ d ∈ fileLayers ++ covering, Sectioned d := by
    simp [fileLayers, covering, single_sectioned]
  obtain ⟨hload, hchange⟩ := layers_decide_leaves hl hl' hs hs'
  refine ⟨(hload _).mpr ⟨rfl, ?_⟩, ?_⟩
  · simp [leaves, Decode.analysisLayout, Decode.assemblyLayout, Decode.outputLayout,
      Decode.Slot.within, Leaf.Holds, fileLayers, covered, covering, single, Datum.at?,
      List.lookup_cons, Decode.text]
  · refine (hchange fileLayers [covered] [] covering (by simp) (by simp)).2 ?_
    simp [leaves, Decode.analysisLayout, Decode.assemblyLayout, Decode.outputLayout,
      Decode.Slot.within, covered, covering, single, Datum.at?, List.lookup_cons]

end ModuleDocs.Settings
