import ModuleDocs.Proofs.Merging
import ModuleDocs.Settings.Decode
import Mathlib.Data.List.Nodup

/-!
# Proofs — Leaves of the settings

The settings are a tree of two levels: sections, and *leaves*, which hold the values.  A leaf has the
keys that lead to it, a decoder for what stands there and a place in the settings.

Settings are decoded member by member, each member put into what the ones before have made.  Since
the members are sorted there is one for each key at most, and since no two settings of a section have
a place in common (`Layout`) their order does not matter: the settings that come of a datum are the
ones whose leaves are what the datum has at their keys, or the default (`Leaf.Holds`).

* `members_eq_ok_iff`: what comes of the members of a table.
* `settings_eq_ok_iff`: what comes of a datum, leaf by leaf.
* `Leaf.holds_congr`: what a leaf is does not depend on what stands in a table.
-/

namespace ModuleDocs.Decode

open Datum (lookup_eq_none_of_lt)
open OrderedMap (lookup_cons_ite)

variable {σ : Type} {s : Settings} {path : List String}

/-! ### Sections -/

/-- A setting of a section with its place there. -/
structure Slot (σ : Type) where
  key : String
  α : Type
  decode : Decoder α
  get : σ → α
  put : σ → α → σ
  get_put : ∀ s a, get (put s a) = a

namespace Slot

/-- The slot as a setting of a section. -/
def setting (c : Slot σ) : Setting σ := Decode.setting c.key c.decode c.put

/-- What the slot is in settings that come of others by a datum, or by none, at its key. -/
def Holds (c : Slot σ) (path : List String) (start s : σ) : Option (Datum Origin) → Prop
  | none => c.get s = c.get start
  | some d => c.decode (c.key :: path) d = .ok (c.get s)

end Slot

/-- The slots of a section: they have no key and no place in common, and they are all there is. -/
structure Layout (σ : Type) where
  slots : List (Slot σ)
  distinct : (slots.map (·.key)).Nodup
  frame : ∀ c ∈ slots, ∀ d ∈ slots, c.key ≠ d.key → ∀ s a, d.get (c.put s a) = d.get s
  ext : ∀ s t, (∀ c ∈ slots, c.get s = c.get t) → s = t

namespace Layout

variable (layout : Layout σ) {c : Slot σ}

/-- The settings of the section. -/
def settings : List (Setting σ) := layout.slots.map (·.setting)

/-- A slot is known by its key. -/
theorem eq_of_key {d : Slot σ} (hc : c ∈ layout.slots) (hd : d ∈ layout.slots)
    (h : c.key = d.key) : c = d :=
  List.inj_on_of_nodup_map layout.distinct hc hd h

/-- The setting of a slot is found under its key. -/
theorem lookup_settings (hc : c ∈ layout.slots) :
    layout.settings.lookup c.key = some c.setting.2 := by
  obtain ⟨before, after, hslots⟩ := List.append_of_mem hc
  have hdistinct := layout.distinct
  rw [hslots, List.map_append, List.map_cons, List.nodup_middle, List.nodup_cons] at hdistinct
  rw [List.lookup_eq_some_iff]
  refine ⟨before.map (·.setting), after.map (·.setting), ?_, ?_⟩
  · rw [settings, hslots, List.map_append, List.map_cons]
    rfl
  · intro p hp
    obtain ⟨d, hd, rfl⟩ := List.mem_map.mp hp
    refine bne_iff_ne.mpr fun h => hdistinct.1 ?_
    exact List.mem_append_left _ (List.mem_map.mpr ⟨d, hd, h.symm⟩)

/-- Other keys have no setting. -/
theorem lookup_settings_eq_none {k : String} (h : ∀ c ∈ layout.slots, c.key ≠ k) :
    layout.settings.lookup k = none := by
  rw [List.lookup_eq_none_iff]
  intro p hp
  obtain ⟨c, hc, rfl⟩ := List.mem_map.mp hp
  exact bne_iff_ne.mpr (h c hc).symm

/-- Putting in what a member gives changes its own slot, which no later member has. -/
theorem holds_put {d : Datum Origin} {ms : List (String × Datum Origin)} {start t : σ} {a : c.α}
    (hc : c ∈ layout.slots) (hms : ms.lookup c.key = none)
    (hd : c.decode (c.key :: path) d = .ok a) :
    (∀ e ∈ layout.slots, e.Holds path (c.put start a) t (ms.lookup e.key)) ↔
      ∀ e ∈ layout.slots, e.Holds path start t (((c.key, d) :: ms).lookup e.key) := by
  refine forall₂_congr fun e he => ?_
  rw [lookup_cons_ite]
  split
  · obtain rfl := layout.eq_of_key he hc ‹_›
    simp only [hms, Slot.Holds, hd, e.get_put, Except.ok.injEq, eq_comm]
  · cases ms.lookup e.key with
    | none =>
        simp only [Slot.Holds]
        rw [layout.frame c hc e he (Ne.symm ‹_›)]
    | some _ => rfl

/-- **What comes of the members of a table**, slot by slot. -/
theorem members_eq_ok_iff {ms : List (String × Datum Origin)} (h : ms.Pairwise (·.1 < ·.1))
    (path : List String) (start t : σ) :
    members layout.settings path start ms = .ok t ↔
      ∀ c ∈ layout.slots, c.Holds path start t (ms.lookup c.key) := by
  induction ms generalizing start with
  | nil =>
      simp only [members, List.lookup_nil, Slot.Holds, Except.ok.injEq]
      exact ⟨fun ht _ _ => ht ▸ rfl, fun ht => (layout.ext t start ht).symm⟩
  | cons m ms ih =>
      obtain ⟨k, d⟩ := m
      obtain ⟨hhead, htail⟩ := List.pairwise_cons.mp h
      rw [members]
      by_cases hk : ∃ c ∈ layout.slots, c.key = k
      · obtain ⟨c, hc, rfl⟩ := hk
        simp only [layout.lookup_settings hc, Slot.setting, setting]
        cases hd : c.decode (c.key :: path) d with
        | error e =>
            -- the slot itself cannot hold
            refine iff_of_false nofun fun hall => ?_
            have hslot := hall c hc
            rw [List.lookup_cons_self] at hslot
            simp [Slot.Holds, hd] at hslot
        | ok a =>
            rw [← layout.holds_put hc (lookup_eq_none_of_lt hhead) hd]
            exact ih htail _
      · simp only [not_exists, not_and] at hk
        simp only [layout.lookup_settings_eq_none hk]
        rw [ih htail]
        refine forall₂_congr fun c hc => ?_
        rw [lookup_cons_ite, if_neg (hk c hc)]

end Layout

/-! ### The sections there are -/

/-- Which files are modules. -/
def analysisLayout : Layout AnalysisSettings where
  slots :=
    [⟨"include", _, list (text "a string"), (·.includes), fun s a => { s with includes := a },
        fun _ _ => rfl⟩,
     ⟨"exclude", _, list (text "a string"), (·.excludes), fun s a => { s with excludes := a },
        fun _ _ => rfl⟩,
     ⟨"max_file_size", _, natural "usize", (·.maxFileSize), fun s a => { s with maxFileSize := a },
        fun _ _ => rfl⟩,
     ⟨"extensions", _, list (text "a string"), (·.extensions), fun s a => { s with extensions := a },
        fun _ _ => rfl⟩]
  distinct := by decide
  frame := by simp
  ext := by
    rintro ⟨⟩ ⟨⟩ h
    simpa using h

/-- How modules are documented. -/
def assemblyLayout : Layout AssemblySettings where
  slots :=
    [⟨"source", _, choice SourceKind.name .json .command "enum SourceKind", (·.source),
        fun s a => { s with source := a }, fun _ _ => rfl⟩,
     ⟨"command", _, list (text "a string"), (·.command), fun s a => { s with command := a },
        fun _ _ => rfl⟩,
     ⟨"command_timeout_secs", _, natural "u64", (·.commandTimeoutSecs),
        fun s a => { s with commandTimeoutSecs := a }, fun _ _ => rfl⟩,
     ⟨"concurrency", _, natural "usize", (·.concurrency), fun s a => { s with concurrency := a },
        fun _ _ => rfl⟩,
     ⟨"resolution", _, choice Resolution.name .singlePass .twoPhase "enum OwnerResolution",
        (·.resolution), fun s a => { s with resolution := a }, fun _ _ => rfl⟩,
     ⟨"failure_policy", _, choice FailurePolicy.name .isolate .abort "enum FailurePolicy",
        (·.failurePolicy), fun s a => { s with failurePolicy := a }, fun _ _ => rfl⟩,
     ⟨"wrapper_marker", _, text "a string", (·.wrapperMarker),
        fun s a => { s with wrapperMarker := a }, fun _ _ => rfl⟩,
     ⟨"extensions", _, list (text "a string"), (·.extensions), fun s a => { s with extensions := a },
        fun _ _ => rfl⟩,
     ⟨"render_markdown", _, bool, (·.renderMarkdown), fun s a => { s with renderMarkdown := a },
        fun _ _ => rfl⟩]
  distinct := by decide
  frame := by simp
  ext := by
    rintro ⟨⟩ ⟨⟩ h
    simpa using h

/-- Where the documentation goes. -/
def outputLayout : Layout OutputSettings where
  slots :=
    [⟨"dir", _, text "path string", (·.dir), fun s a => { s with dir := a }, fun _ _ => rfl⟩,
     ⟨"format", _, choice OutputFormat.name .json .yaml "enum OutputFormat", (·.format),
        fun s a => { s with format := a }, fun _ _ => rfl⟩]
  distinct := by decide
  frame := by simp
  ext := by
    rintro ⟨⟩ ⟨⟩ h
    simpa using h

/-- All settings: one leaf and the sections. -/
def settingsLayout : Layout Settings where
  slots :=
    [⟨"version", _, text "a string", (·.version), fun s a => { s with version := a },
        fun _ _ => rfl⟩,
     ⟨"analysis", _, analysis, (·.analysis), fun s a => { s with analysis := a }, fun _ _ => rfl⟩,
     ⟨"assembly", _, assembly, (·.assembly), fun s a => { s with assembly := a }, fun _ _ => rfl⟩,
     ⟨"output", _, output, (·.output), fun s a => { s with output := a }, fun _ _ => rfl⟩]
  distinct := by decide
  frame := by simp
  ext := by
    rintro ⟨⟩ ⟨⟩ h
    simpa using h

theorem settings_eq : settings = group "struct Config" settingsLayout.settings {} := rfl

/-! ### Leaves -/

/-- A setting that holds a value. -/
structure Leaf where
  keys : List String
  α : Type
  decode : Decoder α
  get : Settings → α

/-- What the leaf is when a datum, or none, is given to it: the value of the datum or the default. -/
def Leaf.Holds (l : Leaf) (s : Settings) : Option (Datum Origin) → Prop
  | none => l.get s = l.get {}
  | some d => l.decode l.keys.reverse d = .ok (l.get s)

/-- What is given to a leaf says what it is. -/
theorem Leaf.Holds.unique {l : Leaf} {s' : Settings} {given : Option (Datum Origin)}
    (h : l.Holds s given) (h' : l.Holds s' given) : l.get s = l.get s' := by
  cases given with
  | none => exact h.trans h'.symm
  | some d => exact Except.ok.inj (h.symm.trans h')

/-- The leaf that a slot of a section is. -/
def Slot.within (c : Slot σ) (name : String) (part : Settings → σ) : Leaf :=
  ⟨[name, c.key], c.α, c.decode, fun s => c.get (part s)⟩

/-- All leaves. -/
def leaves : List Leaf :=
  ⟨["version"], String, text "a string", (·.version)⟩ ::
    (analysisLayout.slots.map (·.within "analysis" (·.analysis)) ++
      assemblyLayout.slots.map (·.within "assembly" (·.assembly)) ++
      outputLayout.slots.map (·.within "output" (·.output)))

/-- The leaves are the version and the slots of the three sections. -/
theorem forall_leaves {P : Leaf → Prop} : (∀ l ∈ leaves, P l) ↔
    P ⟨["version"], String, text "a string", (·.version)⟩ ∧
      (∀ c ∈ analysisLayout.slots, P (c.within "analysis" (·.analysis))) ∧
      (∀ c ∈ assemblyLayout.slots, P (c.within "assembly" (·.assembly))) ∧
      ∀ c ∈ outputLayout.slots, P (c.within "output" (·.output)) := by
  simp only [leaves, List.forall_mem_cons, List.forall_mem_append, List.forall_mem_map, and_assoc]

/-- Every leaf has a key. -/
theorem keys_ne_nil {l : Leaf} (hl : l ∈ leaves) : l.keys ≠ [] := by
  revert l
  simp [forall_leaves, Slot.within]

/-- Whatever the datum gives to the whole or to a section is a table. -/
def Sectioned {ω : Type} (d : Datum ω) : Prop :=
  ∀ keys ∈ [[], ["analysis"], ["assembly"], ["output"]], ∀ e, d.at? keys = some e →
    ∃ o ms, e = .table o ms

/-- Nothing but tables stands above the leaves. -/
theorem Sectioned.opensTo {ω : Type} {d : Datum ω} (h : Sectioned d) :
    ∀ l ∈ leaves, d.OpensTo l.keys := by
  obtain ⟨o, ms, rfl⟩ := h [] (by simp) d rfl
  have hsection : ∀ name k, [name] ∈ [[], ["analysis"], ["assembly"], ["output"]] →
      (Datum.table o ms).OpensTo [name, k] := by
    intro name k hname e he
    obtain ⟨o', inner, rfl⟩ := h [name] hname e (by simp [Datum.at?, he])
    exact fun _ _ => trivial
  rw [forall_leaves]
  exact ⟨fun _ _ => trivial, fun _ _ => hsection _ _ (by simp), fun _ _ => hsection _ _ (by simp),
    fun _ _ => hsection _ _ (by simp)⟩

section

variable {o : Origin} {ms : List (String × Datum Origin)}

/-- A section holds what is given to it if its leaves do. -/
theorem holds_section_iff (layout : Layout σ) {name expected k : String} {part : Settings → σ}
    {put : Settings → σ → Settings} {hput : ∀ s a, part (put s a) = a}
    (hs : (Datum.table o ms).Sorted) (ho : (Datum.table o ms).OpensTo [name, k]) :
    (Slot.mk name σ (group expected layout.settings (part {})) part put hput).Holds [] {} s
        (ms.lookup name) ↔
      ∀ c ∈ layout.slots, (c.within name part).Holds s ((Datum.table o ms).at? [name, c.key]) := by
  cases hd : ms.lookup name with
  | none =>
      simp only [Slot.Holds, Datum.at?, hd, Option.bind_none, Leaf.Holds, Slot.within]
      exact ⟨fun h _ _ => h ▸ rfl, layout.ext _ _⟩
  | some d =>
      obtain ⟨o', ms', rfl⟩ := Datum.exists_of_opensTo_cons (ho d hd)
      simp only [Slot.Holds, group, layout.members_eq_ok_iff (hs.of_lookup hd).pairwise]
      refine forall₂_congr fun c hc => ?_
      have hat : (Datum.table o ms).at? [name, c.key] = ms'.lookup c.key := by
        simp [Datum.at?, hd]
      rw [hat]
      cases ms'.lookup c.key <;> rfl

/-- **What comes of a datum**, leaf by leaf. -/
theorem settings_eq_ok_iff {d : Datum Origin} (hs : d.Sorted)
    (ho : ∀ l ∈ leaves, d.OpensTo l.keys) :
    settings [] d = .ok s ↔ ∀ l ∈ leaves, l.Holds s (d.at? l.keys) := by
  obtain ⟨hversion, hanalysis, hassembly, houtput⟩ := forall_leaves.mp ho
  obtain ⟨o, ms, rfl⟩ := Datum.exists_of_opensTo_cons hversion
  rw [settings_eq, group, settingsLayout.members_eq_ok_iff hs.pairwise, forall_leaves]
  simp only [settingsLayout, List.forall_mem_cons, List.not_mem_nil, false_imp_iff, implies_true,
    and_true]
  refine and_congr ?_ (and_congr ?_ (and_congr ?_ ?_))
  · simp only [Datum.at?]
    cases ms.lookup "version" <;> rfl
  · exact holds_section_iff analysisLayout hs (hanalysis _ List.mem_cons_self)
  · exact holds_section_iff assemblyLayout hs (hassembly _ List.mem_cons_self)
  · exact holds_section_iff outputLayout hs (houtput _ List.mem_cons_self)

end

/-! ### What stands in tables -/

/-- No table is a value. -/
def RefusesTables {α : Type} (decode : Decoder α) : Prop :=
  ∀ path o ms a, decode path (.table o ms) ≠ .ok a

theorem text_refusesTables (expected : String) : RefusesTables (text expected) := nofun

theorem natural_refusesTables (expected : String) : RefusesTables (natural expected) := nofun

theorem bool_refusesTables : RefusesTables bool := nofun

theorem list_refusesTables {α : Type} (element : Decoder α) : RefusesTables (list element) := nofun

theorem choice_refusesTables {α : Type} (name : α → String) (first second : α)
    (expected : String) : RefusesTables (choice name first second expected) := by
  intro path o ms a h
  cases ms with
  | nil => cases h
  | cons m ms =>
      unfold choice at h
      dsimp only at h
      split at h
      · cases h
      · split at h <;> cases h

/-- **No leaf is read from a table.** -/
theorem refusesTables_of_mem {l : Leaf} (h : l ∈ leaves) : RefusesTables l.decode := by
  revert l
  simp [forall_leaves, analysisLayout, assemblyLayout, outputLayout, Slot.within,
    text_refusesTables, natural_refusesTables, bool_refusesTables, list_refusesTables,
    choice_refusesTables]

/-- What a leaf is does not depend on what stands in a table. -/
theorem Leaf.holds_congr {l : Leaf} (hl : l ∈ leaves) {given given' : Option (Datum Origin)}
    (h : given.map Datum.bare = given'.map Datum.bare) : l.Holds s given ↔ l.Holds s given' := by
  have htable : ∀ o ms, ¬ l.Holds s (some (.table o ms)) :=
    fun o ms => refusesTables_of_mem hl _ o ms _
  cases given with
  | none =>
      cases given' with
      | none => rfl
      | some d' => cases h
  | some d =>
      cases given' with
      | none => cases h
      | some d' =>
          have hbare := Option.some.inj h
          cases d <;> cases d' <;> cases hbare
          · rfl
          · rfl
          · exact iff_of_false (htable _ _) (htable _ _)

end ModuleDocs.Decode
