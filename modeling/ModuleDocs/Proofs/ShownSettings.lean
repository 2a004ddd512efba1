import ModuleDocs.CommandLine
import ModuleDocs.Proofs.Leaves
import ModuleDocs.Proofs.Precedence
import ModuleDocs.Proofs.Sections
import ModuleDocs.Proofs.UsableSettings

/-!
# Proofs — Shown settings

Settings can be shown, saved and loaded again: what is shown is a document of sections, so that it
is read back as it was printed, and every leaf decodes to the value that it was printed from.  Since
every leaf is shown, no default comes in.

A file that has been written is found again where its path leads, also through links: what stands
on the way is a directory or a link, and the written place is neither (`Disk.walk_put`).

* `Files.find_write`: a written file is found again.
* `read?_settingsText`: what a reader makes of the shown settings.
* `Regains`, `ShownIn`: a decoder gets a value back, and so does every slot of a section.
* `shown_loads_back`: a file with the shown settings gives these settings.
-/

namespace ModuleDocs

/-! ### Saved files -/

namespace Disk

variable {d : Disk} {found : Found}

/-- A path that does not lead to a directory leads to what stands at its place. -/
theorem entry?_of_walk {follow : Bool} (links : Nat) (p : Place) (names : List String) :
    d.walk follow links p names = .ok found → found.entry? ≠ some .directory →
    d.entry? found.place = found.entry? := by
  fun_induction Disk.walk d follow links p names with
  | case1 =>
    rintro ⟨⟩ h
    exact absurd rfl h
  | case2 _ _ _ ih | case3 _ _ _ ih | case7 _ _ _ _ _ _ _ _ ih
  | case12 _ _ _ _ _ _ _ _ _ _ ih => exact ih
  | case4 | case6 | case9 | case11 =>
    intro h
    cases h
  | case5 _ _ _ _ _ _ _ he | case8 _ _ _ _ _ _ _ _ he | case10 _ _ _ _ _ _ _ _ he =>
    rintro ⟨⟩ -
    exact he

/-- **A file that is put where a path leads is found there.**  Putting it changes nothing that the
path leads through, be it a directory or a link, since only a file or nothing has stood there. -/
theorem walk_put (content : ByteArray) {place : Place} (hne : place ≠ [])
    (hold : ∀ e, d.entry? place = some e → ∃ old, e = .file old)
    (links : Nat) (p : Place) (names : List String) :
    d.walk true links p names = .ok found → found.entry? ≠ some .directory →
    found.place = place →
    (d.put place (.file content)).walk true links p names = .ok (.entry place (.file content)) := by
  have hput := entry?_put d hne (.file content)
  -- directories and links stay, so that the walk goes on as before until it comes to the file
  have hother : ∀ q e, d.entry? q = some e → (∀ old, e ≠ .file old) →
      entry? (d.put place (.file content)) q = some e := by
    intro q e he hfile
    rw [hput, if_neg, he]
    rintro rfl
    obtain ⟨old, ho⟩ := hold e he
    exact hfile old ho
  fun_induction Disk.walk d true links p names with
  | case1 =>
    rintro ⟨⟩ h
    exact absurd rfl h
  | case2 _ _ _ ih | case3 _ _ _ ih =>
    rw [walk]
    exact ih
  | case7 _ _ _ _ hdot hup hlong he ih =>
    rw [walk, if_neg hlong, hother _ _ he (by simp)]
    · exact ih
    · exact hdot
    · exact hup
  | case12 _ _ _ hdot hup hlong target he hend links ih =>
    rw [walk, if_neg hlong, hother _ _ he (by simp)]
    · dsimp only
      rw [if_neg hend]
      exact ih
    · exact hdot
    · exact hup
  | case4 | case6 | case9 | case11 =>
    intro h
    cases h
  | case5 _ _ _ _ hdot hup hlong he hend | case8 _ _ _ _ hdot hup hlong _ he hend =>
    rintro ⟨⟩ - rfl
    rw [walk, if_neg hlong, hput, Found.place, if_pos rfl]
    · simp [hend]
    · exact hdot
    · exact hup
  | case10 _ _ _ _ _ _ _ _ _ hend => simp at hend

end Disk

/-- A file that has been written is found where the path leads. -/
theorem Files.find_write {fs fs' : Files} {path : String} {content : ByteArray}
    (h : fs.write path content = .ok fs') :
    ∃ place, fs'.find true path = .ok (.entry place (.file content)) := by
  obtain ⟨found, hf, hfile, rfl⟩ := write_eq_ok_iff.mp h
  refine ⟨found.place, ?_⟩
  have hdir : found.entry? ≠ some .directory := by
    intro he
    obtain ⟨old, ho⟩ := hfile _ he
    cases ho
  unfold find at hf ⊢
  split_ifs at hf ⊢ with h0 h1 h2 <;> try cases hf
  all_goals
    have hat := Disk.entry?_of_walk _ _ _ hf hdir
    refine Disk.walk_put content ?_ (hat ▸ hfile) _ _ _ hf hdir rfl
    intro hnil
    rw [hnil, Disk.entry?_nil] at hat
    exact hdir hat.symm

/-! ### What is shown -/

namespace Settings

variable {s : Settings}

/-- The sections of the settings as they are shown. -/
def sections (s : Settings) : List (String × List (String × Value)) :=
  [("analysis",
      [("include", .texts s.analysis.includes), ("exclude", .texts s.analysis.excludes),
       ("max_file_size", .number s.analysis.maxFileSize),
       ("extensions", .texts s.analysis.extensions)]),
   ("assembly",
      [("source", .text s.assembly.source.name), ("command", .texts s.assembly.command),
       ("command_timeout_secs", .number s.assembly.commandTimeoutSecs),
       ("concurrency", .number s.assembly.concurrency),
       ("resolution", .text s.assembly.resolution.name),
       ("failure_policy", .text s.assembly.failurePolicy.name),
       ("wrapper_marker", .text s.assembly.wrapperMarker),
       ("extensions", .texts s.assembly.extensions),
       ("render_markdown", .bool s.assembly.renderMarkdown)]),
   ("output", [("dir", .text s.output.dir), ("format", .text s.output.format.name)])]

/-- The settings are shown as the version and the three sections. -/
theorem settingsText_eq (s : Settings) : CommandLine.settingsText false s =
    Toml.print ([("version", .text s.version)] ++ s.sections.map fun m => (m.1, .object m.2)) :=
  rfl

/-- The numbers are in the range of a reader. -/
structure InRange (s : Settings) : Prop where
  maxFileSize : s.analysis.maxFileSize < Nat.pow 2 63
  commandTimeoutSecs : s.assembly.commandTimeoutSecs < Nat.pow 2 63
  concurrency : s.assembly.concurrency < Nat.pow 2 63

/-- Every section can be written. -/
theorem InRange.sections (h : s.InRange) : ∀ m ∈ s.sections, Toml.Section m.2 := by
  intro m hm
  simp only [Settings.sections, List.mem_cons, List.not_mem_nil, or_false] at hm
  rcases hm with rfl | rfl | rfl
  all_goals
    refine ⟨?keys, ?values, ?distinct⟩
    case keys | distinct =>
      simp only [List.map_cons, List.map_nil]
      decide
    case values =>
      simp [Toml.isSetting_number h.maxFileSize, Toml.isSetting_number h.commandTimeoutSecs,
        Toml.isSetting_number h.concurrency]

/-- What a reader makes of the shown settings. -/
def shownDatum (s : Settings) : Datum Unit :=
  .table () (Toml.Node.sorted (Toml.settingNodes [("version", .text s.version)] ++
    Toml.sectionNodes s.sections))

/-- **Shown settings are read back.** -/
theorem read?_settingsText (h : s.InRange) {ending : String}
    (hending : ending = "" ∨ ending = "\n") :
    Toml.read? (CommandLine.settingsText false s ++ ending) = some s.shownDatum := by
  have hkeys : s.sections.map (·.1) = ["analysis", "assembly", "output"] := rfl
  have hversion : Toml.Section [("version", .text s.version)] := by
    refine ⟨?_, by simp, by simp⟩
    simp only [List.map_cons, List.map_nil]
    decide
  rw [settingsText_eq]
  refine Toml.read?_print hversion (hkeys ▸ by decide) h.sections ?_ hending
  rw [hkeys]
  simp

end Settings

/-! ### What is read -/

namespace Toml

theorem lookup_map {α β : Type} (f : α → β) (ms : List (String × α)) (k : String) :
    (ms.map fun m => (m.1, f m.2)).lookup k = (ms.lookup k).map f := by
  induction ms with
  | nil => rfl
  | cons m ms ih =>
    rw [List.map_cons, OrderedMap.lookup_cons_ite, OrderedMap.lookup_cons_ite, ih]
    split <;> rfl

/-- Sorting members changes nothing in what is found under a key. -/
theorem lookup_sorted (ms : Members) (k : String) :
    (Node.sorted ms).lookup k = (ms.lookup k).map Node.datum := by
  induction ms with
  | nil => rfl
  | cons m ms ih =>
    rw [Node.sorted, Datum.lookup_insertMember, OrderedMap.lookup_cons_ite, ih]
    split <;> rfl

/-- A key leads from the table of members to the datum of its member. -/
theorem at?_sorted {ω : Type} (o : ω) (ms : Members) (k : String) (keys : List String) :
    ((Datum.table () (Node.sorted ms)).withOrigin o).at? (k :: keys) =
      (ms.lookup k).bind fun node => (node.datum.withOrigin o).at? keys := by
  rw [Datum.withOrigin, Datum.at?, Datum.lookup_membersWithOrigin, lookup_sorted]
  cases ms.lookup k <;> rfl

end Toml

namespace Decode

/-- The decoder gets the value back from what a reader makes of it. -/
def Regains {α : Type} (decode : Decoder α) (v : Value) (a : α) : Prop :=
  ∀ path o, decode path ((Toml.settingDatum v).withOrigin o) = .ok a

theorem text_regains (expected t : String) : Regains (text expected) (.text t) t :=
  fun _ _ => rfl

theorem bool_regains (b : Bool) : Regains bool (.bool b) b := fun _ _ => rfl

theorem natural_regains (expected : String) (n : Nat) :
    Regains (natural expected) (.number n) n := by
  intro path o
  simp [natural, Toml.settingDatum, Toml.scalarDatum, Datum.withOrigin]

/-- A list of texts is read back. -/
theorem list_regains (expected : String) (ss : List String) :
    Regains (list (text expected)) (.texts ss) ss := by
  intro path o
  have helements : ∀ i, elements (text expected) path i
      (Datum.itemsWithOrigin o ((ss.map Value.text).map Toml.scalarDatum)) = .ok ss := by
    induction ss with
    | nil => exact fun _ => rfl
    | cons t ss ih =>
      intro i
      simp only [List.map_cons, Datum.itemsWithOrigin, elements, ih]
      rfl
  rw [Value.texts, Toml.settingDatum, Datum.withOrigin]
  exact helements 0

/-- A choice is read back, if its names differ. -/
theorem choice_regains {α : Type} (name : α → String) (first second : α) (expected : String)
    (hname : name second ≠ name first) {a : α} (ha : a = first ∨ a = second) :
    Regains (choice name first second expected) (.text (name a)) a := by
  intro path o
  rcases ha with rfl | rfl
  · simp [choice, Toml.settingDatum, Toml.scalarDatum, Datum.withOrigin]
  · simp [choice, Toml.settingDatum, Toml.scalarDatum, Datum.withOrigin, hname]

/-- The slots of a section get their values back from the settings that are shown in it. -/
def ShownIn {σ : Type} (layout : Layout σ) (settings : List (String × Value)) (a : σ) : Prop :=
  ∀ c ∈ layout.slots, ∃ v, settings.lookup c.key = some v ∧ Regains c.decode v (c.get a)

/-- The section for the analysis shows all of its slots. -/
theorem analysis_shown (s : Settings) :
    ∃ settings, s.sections.lookup "analysis" = some settings ∧
      ShownIn analysisLayout settings s.analysis := by
  refine ⟨_, rfl, ?_⟩
  simp [ShownIn, analysisLayout, List.lookup_cons, list_regains, natural_regains]

theorem assembly_shown (s : Settings) :
    ∃ settings, s.sections.lookup "assembly" = some settings ∧
      ShownIn assemblyLayout settings s.assembly := by
  refine ⟨_, rfl, ?_⟩
  have hsource : s.assembly.source = .json ∨ s.assembly.source = .command := by
    cases s.assembly.source <;> simp
  have hresolution : s.assembly.resolution = .singlePass ∨ s.assembly.resolution = .twoPhase := by
    cases s.assembly.resolution <;> simp
  have hpolicy : s.assembly.failurePolicy = .isolate ∨ s.assembly.failurePolicy = .abort := by
    cases s.assembly.failurePolicy <;> simp
  simp [ShownIn, assemblyLayout, List.lookup_cons, list_regains, natural_regains, text_regains,
    bool_regains, choice_regains SourceKind.name _ _ _ (by decide) hsource,
    choice_regains Resolution.name _ _ _ (by decide) hresolution,
    choice_regains FailurePolicy.name _ _ _ (by decide) hpolicy]

theorem output_shown (s : Settings) :
    ∃ settings, s.sections.lookup "output" = some settings ∧
      ShownIn outputLayout settings s.output := by
  refine ⟨_, rfl, ?_⟩
  have hformat : s.output.format = .json ∨ s.output.format = .yaml := by
    cases s.output.format <;> simp
  simp [ShownIn, outputLayout, List.lookup_cons, text_regains,
    choice_regains OutputFormat.name _ _ _ (by decide) hformat]

end Decode

namespace Settings

open Decode

variable {s : Settings} {ending : String}

/-- A section is a table, and a key leads from it to what its setting shows. -/
theorem at?_section {name : String} {settings : List (String × Value)} (o : Origin)
    (hname : name ≠ "version") (hsection : s.sections.lookup name = some settings) :
    ∃ ms, (s.shownDatum.withOrigin o).at? [name] = some (.table o ms) ∧
      ∀ k v, settings.lookup k = some v →
      (s.shownDatum.withOrigin o).at? [name, k] = some ((Toml.settingDatum v).withOrigin o) := by
  have hnode : (Toml.settingNodes [("version", .text s.version)] ++
      Toml.sectionNodes s.sections).lookup name =
        some (.table .defined (Toml.settingNodes settings)) := by
    rw [List.lookup_append, Toml.sectionNodes,
      Toml.lookup_map (fun settings => Toml.Node.table .defined (Toml.settingNodes settings)),
      hsection]
    simp [Toml.settingNodes, List.lookup_cons, beq_eq_false_iff_ne.2 hname]
  refine ⟨_, by rw [shownDatum, Toml.at?_sorted, hnode]; rfl, fun k v hv => ?_⟩
  rw [shownDatum, Toml.at?_sorted, hnode, Option.bind_some, Toml.Node.datum, Toml.at?_sorted,
    Toml.settingNodes, Toml.lookup_map (fun v => Toml.Node.value (Toml.settingDatum v)), hv]
  rfl

/-- The leaves of a section hold what is shown in it. -/
theorem holds_of_shown {σ : Type} {layout : Layout σ} {name : String} {part : Settings → σ}
    (o : Origin) (hname : name ≠ "version")
    (hsection : ∃ settings, s.sections.lookup name = some settings ∧
      ShownIn layout settings (part s)) :
    ∀ c ∈ layout.slots,
      (c.within name part).Holds s ((s.shownDatum.withOrigin o).at? [name, c.key]) := by
  intro c hc
  obtain ⟨settings, hsettings, hshown⟩ := hsection
  obtain ⟨v, hv, hregains⟩ := hshown c hc
  obtain ⟨-, -, hat⟩ := at?_section o hname hsettings
  rw [hat c.key v hv]
  exact hregains _ o

/-- Nothing but tables stands above the leaves of what is shown. -/
theorem shownDatum_sectioned (s : Settings) (o : Origin) :
    Sectioned (s.shownDatum.withOrigin o) := by
  have hsection : ∀ name settings, name ≠ "version" → s.sections.lookup name = some settings →
      ∀ e, (s.shownDatum.withOrigin o).at? [name] = some e → ∃ o ms, e = .table o ms := by
    intro name settings hname hsettings e he
    obtain ⟨ms, hat, -⟩ := at?_section o hname hsettings
    exact ⟨o, ms, Option.some.inj (he.symm.trans hat)⟩
  intro keys hkeys
  simp only [List.mem_cons, List.not_mem_nil, or_false] at hkeys
  rcases hkeys with rfl | rfl | rfl | rfl
  · rintro e ⟨⟩
    exact ⟨o, _, rfl⟩
  · exact hsection _ _ (by decide) rfl
  · exact hsection _ _ (by decide) rfl
  · exact hsection _ _ (by decide) rfl

/-- Every leaf holds what is shown. -/
theorem shownDatum_holds (s : Settings) (o : Origin) :
    ∀ l ∈ leaves, l.Holds s ((s.shownDatum.withOrigin o).at? l.keys) := by
  rw [forall_leaves]
  refine ⟨?_, holds_of_shown o (by decide) (analysis_shown s),
    holds_of_shown o (by decide) (assembly_shown s), holds_of_shown o (by decide) (output_shown s)⟩
  have hat : (s.shownDatum.withOrigin o).at? ["version"] =
      some ((Toml.settingDatum (.text s.version)).withOrigin o) := by
    rw [shownDatum, Toml.at?_sorted]
    rfl
  rw [hat]
  exact text_regains "a string" s.version ["version"] o

/-- A file with the shown settings gives these settings. -/
theorem ofFile_of_shown (h : s.InRange) (hvalid : s.validate = .ok s)
    (hending : ending = "" ∨ ending = "\n") {fs : Files} {path located : String}
    (hlocated : locate? fs path = some located)
    (hread : fs.readText located = .ok (CommandLine.settingsText false s ++ ending)) :
    ofFile fs path = .ok s := by
  set o : Origin := .file (shownFile fs located) with ho
  have hlayer : fileLayer fs path = .ok (s.shownDatum.withOrigin o) := by
    simp only [fileLayer, hlocated, hread, read?_settingsText h hending, ho]
  have hsorted := fileLayer_sorted hlayer
  have hopens := (shownDatum_sectioned s o).opensTo
  have hbase : ∀ l ∈ leaves, (Datum.table Origin.environment []).OpensTo l.keys :=
    fun l _ => (Datum.Fits.nil _ l.keys).opens
  have hdecode : Decode.settings []
      ((Datum.table .environment []).merge (s.shownDatum.withOrigin o)) = .ok s := by
    rw [settings_eq_ok_iff ((Datum.Sorted.nil _).merge hsorted)
      fun l hl => .merge hsorted (hbase l hl) (hopens l hl)]
    intro l hl
    refine (Leaf.holds_congr hl ?_).mpr (shownDatum_holds s o l hl)
    rw [Datum.bare_at?_merge hsorted (hbase l hl) (hopens l hl), Datum.at?_nil _ (keys_ne_nil hl),
      Option.or_none]
  simp [ofFile, hlayer, laidOver, noLayers, ofLayers, hdecode, hvalid]

/-- **Settings that are shown load back.**  Usable settings, with any texts and with numbers of 63
bits, are shown as a text such that every file that holds it, with the line feed behind it that the
command prints or without, gives exactly these settings; in particular one that the text has just
been written to. -/
theorem shown_loads_back (hvalid : s.validate = .ok s) (hsize : s.analysis.maxFileSize ≤ 2 ^ 63 - 1)
    (htimeout : s.assembly.commandTimeoutSecs ≤ 2 ^ 63 - 1)
    (hconcurrency : s.assembly.concurrency ≤ 2 ^ 63 - 1) (hending : ending = "" ∨ ending = "\n") :
    (∀ fs path located, locate? fs path = some located →
      fs.readText located = .ok (CommandLine.settingsText false s ++ ending) →
      ofFile fs path = .ok s) ∧
    ∀ fs fs' path, Path.isAbsolute path = true →
      Files.writeText fs path (CommandLine.settingsText false s ++ ending) = .ok fs' →
      ofFile fs' path = .ok s := by
  have hlt : ∀ n : Nat, n ≤ 2 ^ 63 - 1 → n < Nat.pow 2 63 := by
    intro n hn
    change n < 9223372036854775808
    omega
  have hrange : s.InRange := ⟨hlt _ hsize, hlt _ htimeout, hlt _ hconcurrency⟩
  refine ⟨fun fs path located => ofFile_of_shown hrange hvalid hending, ?_⟩
  intro fs fs' path habsolute hwrite
  obtain ⟨place, hfind⟩ := Files.find_write hwrite
  have hlocated : locate? fs' path = some path := by
    simp [locate?, habsolute, Files.isFile, Files.entry?, hfind]
  have hread : fs'.readText path = .ok (CommandLine.settingsText false s ++ ending) := by
    rw [Files.readText_eq_ok_iff, Files.read, hfind]
  exact ofFile_of_shown hrange hvalid hending hlocated hread

/-- Settings that need every notation: quotes of both kinds, three in a row and at an end, line
ends, backslashes, control characters and the greatest number. -/
def quotedSettings : Settings where
  version := "\"\"\"'''\x00"
  analysis :=
    { includes := ["", "it's", "\"", "'''"]
      excludes := []
      maxFileSize := 2 ^ 63 - 1
      extensions := ["\\d"] }
  assembly :=
    { source := .command
      command := ["\n\"\"\"\\\"\"", "'\n''\t"]
      resolution := .twoPhase
      failurePolicy := .abort
      wrapperMarker := "\\\r\n\x7fé😀"
      renderMarkdown := false }
  output := { dir := "\"\n\"\"", format := .yaml }

/-- They are written into an empty tree and read back. -/
theorem shown_loads_back_quoted :
    quotedSettings.validate = .ok quotedSettings ∧
    ∃ fs', Files.writeText {} "/c.toml" (CommandLine.settingsText false quotedSettings ++ "\n") =
        .ok fs' ∧ ofFile fs' "/c.toml" = .ok quotedSettings := by
  have hvalid : quotedSettings.validate = .ok quotedSettings := rfl
  have hfind : Files.find {} true "/c.toml" = .ok (.missing [] "c.toml") :=
    (Files.find_eq_ok_iff (by decide)).mpr ⟨by decide, by decide, rfl⟩
  obtain ⟨fs', hwrite⟩ : ∃ fs', Files.writeText {} "/c.toml"
      (CommandLine.settingsText false quotedSettings ++ "\n") = .ok fs' := by
    rw [Files.writeText, Files.write, hfind]
    exact ⟨_, rfl⟩
  refine ⟨hvalid, fs', hwrite, ?_⟩
  exact (shown_loads_back hvalid (by decide) (by decide) (by decide) (.inr rfl)).2 _ fs' "/c.toml"
    (by decide) hwrite

end Settings

end ModuleDocs
