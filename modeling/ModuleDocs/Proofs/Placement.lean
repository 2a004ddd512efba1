import ModuleDocs.Proofs.Directories
import ModuleDocs.Proofs.Writing

/-!
# Proofs — Placement

Where the records are after writing, and what is left of a write that fails.

That no two targets are the same is known before anything is written.  But a file needs more than a
target of its own: no other target may be one of the directories on its way.  Two lists of names are
*apart* if neither begins with the other, and targets are *nested* if one of them begins with
another.

* `writeFile_of_free`, `writeRecords_of_apart`: where nothing is in the way a file is written, and
  what lies apart from it stays free; so records whose files are apart can all be written.
* `Placed.not_nested`: where everything is in its place no target is on the way of another.
* `Ready.outcome`: a write into a new directory changes nothing if targets collide, fails with the
  directory made if they are nested, and else puts everything in its place.
* `writeAll_places`, `writeAll_leaves`: what holds of every write, and what a write into a new
  directory leaves behind.
-/

namespace ModuleDocs

namespace Disk

section

variable {d : Disk} {p q : Place} {names l u : List String}

/-- What stands below a place stands below a directory. -/
def Rooted (d : Disk) : Prop :=
  ∀ (p : Place) (name : String), d.entry? (p ++ [name]) ≠ none → d.entry? p = some .directory

theorem Rooted.entry?_eq_none (h : d.Rooted) (hp : d.entry? p = none) (l : List String) :
    d.entry? (p ++ l) = none := by
  induction l using List.reverseRecOn with
  | nil => rwa [List.append_nil]
  | append_singleton l name ih =>
      by_contra hne
      rw [← List.append_assoc] at hne
      exact absurd (ih.symm.trans (h _ _ hne)) nofun

/-- A file can be written along the names: no file stands on the way, and no directory at its
end. -/
structure Free (d : Disk) (q : Place) (names : List String) : Prop where
  clear : d.Clear q names.dropLast
  place : d.entry? (q ++ names) ≠ some .directory

theorem free_of_none (h : ∀ l, l ≠ [] → d.entry? (q ++ l) = none) (hne : names ≠ []) :
    d.Free q names where
  clear l _ hl := .inl (h l hl)
  place := by
    rw [h names hne]
    exact nofun

end

end Disk

namespace Files

variable {fs : Files} {dir : String} {q : Place} {names : List String}

/-- A file is written at the end of an open way, unless a directory stands there. -/
theorem Reaches.write (hr : fs.Reaches dir q names) (h : fs.disk.LinkFree)
    (hl : Path.LeadsDown names) (hne : fs.disk.entry? (q ++ names) ≠ some .directory)
    (content : ByteArray) :
    fs.write (Path.join dir ("/".intercalate names)) content =
      .ok { fs with disk := fs.disk.put (q ++ names) (.file content) } := by
  obtain ⟨found, hd, hplace, hentry⟩ := hr.isOpen.descend hl
  refine write_eq_ok_iff.mpr ⟨found, ?_, fun e he => ?_, by rw [hplace]⟩
  · exact (find_join_eq_ok_iff h hl).mpr ⟨q, hr, hplace, hentry⟩
  · rw [hentry] at he
    cases e with
    | file old => exact ⟨old, rfl⟩
    | directory => exact absurd he hne
    | link target => exact absurd (h.isLink_eq he) Bool.noConfusion

end Files

namespace Output

open Files (Keeps Fits Made)

/-- Neither list of names begins with the other. -/
def Apart (a b : List String) : Prop := ¬ a <+: b ∧ ¬ b <+: a

section

variable {f : OutputFormat} {dir text : String} {fs fs' : Files} {records : List ModuleDoc}
  {names u : List String} {q : Place}

/-- **A file can be written where nothing is in the way,** and what lies apart from it stays
free. -/
theorem writeFile_of_free (h : fs.disk.LinkFree) (hq : fs.LeadsTo dir q) (hf : Fits dir names)
    (hfree : fs.disk.Free q names) :
    ∃ fs', writeFile fs (Path.join dir ("/".intercalate names)) text = (fs', .ok ()) ∧
      ∀ u, Apart names u → fs.disk.Free q u → fs'.disk.Free q u := by
  obtain ⟨front, last, rfl⟩ := List.eq_nil_or_concat' names |>.resolve_left hf.leadsDown.ne_nil
  have hclear := hfree.clear
  rw [List.dropLast_concat] at hclear
  have hne : q ++ (front ++ [last]) ≠ [] := by simp
  obtain ⟨fs₁, hc, hm, hpaved⟩ :=
    Files.createDirectories_below h hq hf (List.prefix_append _ _) hclear
  -- the directories are made before the last name, so that nothing comes to the place of the file
  have hplace : fs₁.disk.entry? (q ++ (front ++ [last])) ≠ some .directory := by
    rcases hm.entry? (q ++ (front ++ [last])) with e | ⟨-, -, l, hl, -, hp⟩
    · rw [e]
      exact hfree.place
    · have hlen := hl.length_le
      rw [← List.append_cancel_left hp, List.length_append, List.length_singleton] at hlen
      omega
  have hr : fs₁.Reaches dir q (front ++ [last]) :=
    ⟨hf.usable, hm.grew.keeps.leadsTo hq, Disk.open_concat_iff.mpr ⟨hf.short, hpaved⟩⟩
  refine ⟨{ fs₁ with disk := fs₁.disk.put (q ++ (front ++ [last])) (.file text.toUTF8) }, ?_, ?_⟩
  · rw [writeFile, Path.parent?_join dir hf.leadsDown, List.dropLast_concat]
    simp only [Option.getD_some]
    rw [← Path.below, hc]
    simp only [Files.writeText, hr.write hm.linkFree hf.leadsDown hplace]
  · intro u hu hfu
    refine ⟨fun l hl hl0 => ?_, ?_⟩
    · rw [Disk.entry?_put _ hne, if_neg]
      · exact hm.clear hfu.clear l hl hl0
      · intro e
        exact hu.1 (List.append_cancel_left e ▸ hl.trans (List.dropLast_prefix u))
    · rw [Disk.entry?_put _ hne, if_neg]
      · rcases hm.entry? (q ++ u) with e | ⟨-, -, l, hl, -, hp⟩
        · rw [e]
          exact hfu.place
        · exact absurd (List.append_cancel_left hp ▸ hl.trans (List.prefix_append _ _)) hu.2
      · intro e
        exact hu.1 (List.append_cancel_left e ▸ List.prefix_refl _)

/-- Records whose files are apart can all be written, and what lies apart from them stays free. -/
theorem writeRecords_of_apart (h : fs.disk.LinkFree) (hq : fs.LeadsTo dir q)
    (hfits : ∀ r ∈ records, Fits dir (targetNames f r.path))
    (hfree : ∀ r ∈ records, fs.disk.Free q (targetNames f r.path))
    (hapart : (records.map fun r => targetNames f r.path).Pairwise Apart) :
    (writeRecords f dir fs (planned f records)).result = .ok () ∧
      ∀ u, (∀ r ∈ records, Apart (targetNames f r.path) u) → fs.disk.Free q u →
        (writeRecords f dir fs (planned f records)).files.disk.Free q u := by
  induction records generalizing fs with
  | nil => exact ⟨rfl, fun _ _ hu => hu⟩
  | cons r records ih =>
      rw [List.map_cons, List.pairwise_cons] at hapart
      obtain ⟨fs₁, hw, hstay⟩ := writeFile_of_free h hq (hfits r List.mem_cons_self)
        (hfree r List.mem_cons_self)
      have hkeeps := writeFile_keeps h dir (f.print r.toValue) (targetNames_leadsDown f r.path)
      rw [hw] at hkeeps
      rw [writeRecords_cons_of_ok hw]
      have hlater : ∀ s ∈ records, fs₁.disk.Free q (targetNames f s.path) := fun s hs =>
        hstay _ (hapart.1 _ (List.mem_map.mpr ⟨s, hs, rfl⟩)) (hfree s (List.mem_cons_of_mem r hs))
      obtain ⟨hr, hu⟩ := ih hkeeps.linkFree (hkeeps.leadsTo hq)
        (fun s hs => hfits s (List.mem_cons_of_mem r hs)) hlater hapart.2
      refine ⟨hr, fun u hau hfu => ?_⟩
      exact hu u (fun s hs => hau s (List.mem_cons_of_mem r hs))
        (hstay u (hau r List.mem_cons_self) hfu)

end

/-! ### Targets on the way of others -/

/-- The names of all files to write, the index first. -/
def allTargets (f : OutputFormat) (records : List ModuleDoc) : List (List String) :=
  [indexTarget f] :: records.map fun r => targetNames f r.path

/-- A file would have to be a directory, since another file lies below it. -/
def Nested (f : OutputFormat) (records : List ModuleDoc) : Prop :=
  ∃ t ∈ allTargets f records, ∃ u ∈ allTargets f records, t <+: u ∧ t ≠ u

instance (f : OutputFormat) (records : List ModuleDoc) : Decidable (Nested f records) :=
  inferInstanceAs (Decidable (∃ t ∈ allTargets f records, ∃ u ∈ allTargets f records, _ ∧ _))

section

variable {f : OutputFormat} {dir : String} {fs fs' : Files} {records : List ModuleDoc}
  {entries : List IndexEntry} {q : Place} {t : List String}

theorem nodup_allTargets (h : ¬ Collide f records) : (allTargets f records).Nodup := by
  obtain ⟨hnd, hindex⟩ := not_collide_iff.mp h
  refine List.nodup_cons.mpr ⟨fun hmem => ?_, List.Nodup.of_map ("/".intercalate ·) ?_⟩
  · obtain ⟨r, hr, he⟩ := List.mem_map.mp hmem
    exact hindex r hr (target_eq_indexTarget_iff.mpr he)
  · rwa [List.map_map]

theorem pairwise_apart (hc : ¬ Collide f records) (hn : ¬ Nested f records) :
    (allTargets f records).Pairwise Apart := by
  refine (nodup_allTargets hc).pairwise_of_forall_ne fun t ht u hu hne => ⟨fun h => ?_, fun h => ?_⟩
  · exact hn ⟨t, ht, u, hu, h, hne⟩
  · exact hn ⟨u, hu, t, ht, h, Ne.symm hne⟩

theorem leadsDown_of_mem_allTargets (h : t ∈ allTargets f records) : Path.LeadsDown t := by
  rcases List.mem_cons.mp h with rfl | h
  · exact indexTarget_leadsDown f
  · obtain ⟨r, -, rfl⟩ := List.mem_map.mp h
    exact targetNames_leadsDown f r.path

theorem Placed.find_of_mem (h : Placed f dir records entries q fs fs')
    (ht : t ∈ allTargets f records) :
    ∃ content, fs'.find true (Path.join dir ("/".intercalate t)) =
      .ok (.entry (q ++ t) (.file content)) := by
  rcases List.mem_cons.mp ht with rfl | ht
  · rw [intercalate_indexTarget]
    exact ⟨_, h.index⟩
  · obtain ⟨r, hr, rfl⟩ := List.mem_map.mp ht
    exact ⟨_, h.record r hr⟩

/-- **Where everything is in its place no target is on the way of another.** -/
theorem Placed.not_nested (h : Placed f dir records entries q fs fs') : ¬ Nested f records := by
  rintro ⟨t, ht, u, hu, htu, hne⟩
  have hl := leadsDown_of_mem_allTargets ht
  obtain ⟨content, hft⟩ := h.find_of_mem ht
  obtain ⟨_, hfu⟩ := h.find_of_mem hu
  obtain ⟨p, hp, hplace, hentry⟩ := (Files.find_join_eq_ok_iff h.keeps.linkFree hl).mp hft
  obtain ⟨p', hp', hplace', -⟩ := (Files.find_join_eq_ok_iff h.keeps.linkFree
    (leadsDown_of_mem_allTargets hu)).mp hfu
  obtain rfl : p = p' := hp.leadsTo.unique hp'.leadsTo
  exact absurd (hentry.trans (hp'.isOpen.directory t htu hl.ne_nil hne)) nofun

/-! ### A new output directory -/

/-- The tree is well formed and has no links, the output directory is new and can be made, and no
path is too long. -/
structure Ready (f : OutputFormat) (dir : String) (fs : Files) (records : List ModuleDoc) :
    Prop where
  linkFree : fs.disk.LinkFree
  rooted : fs.disk.Rooted
  fresh : ∃ q name, fs.find true (Files.dropEndSlashes dir) = .ok (.missing q name)
  fits : ∀ t ∈ allTargets f records, Fits dir t

/-- The output directory has been made and is empty. -/
theorem Ready.exists_directory (h : Ready f dir fs records) :
    ∃ fs₁ q, fs.createDirectories dir = (fs₁, .ok ()) ∧ fs₁.disk.LinkFree ∧ fs₁.LeadsTo dir q ∧
      fs.disk.entry? q = none ∧ fs₁.disk.entry? q = some .directory ∧
      ∀ l, l ≠ [] → fs₁.disk.entry? (q ++ l) = none := by
  obtain ⟨q, name, hm⟩ := h.fresh
  obtain ⟨fs₁, hd, hmade, he, hl⟩ := Files.createDirectories_fresh h.linkFree hm
  have hnone : fs.disk.entry? (q ++ [name]) = none :=
    Disk.entry?_of_descend_missing ((Files.find_eq_ok_iff h.linkFree).mp hm).2.2
  refine ⟨fs₁, q ++ [name], hd, hmade.linkFree, hl, hnone, he, fun l hne => ?_⟩
  rcases hmade.entry? (q ++ [name] ++ l) with e | ⟨-, -, l', hl', -, hp⟩
  · rw [e]
    exact h.rooted.entry?_eq_none hnone l
  · rw [List.append_assoc] at hp
    have hlen := hl'.length_le
    rw [← List.append_cancel_left hp] at hlen
    have hpos := List.length_pos_of_ne_nil hne
    simp only [List.cons_append, List.nil_append, List.length_cons, List.length_nil] at hlen
    omega

/-- **In a new directory everything is written if all targets are apart.** -/
theorem writeAll_of_apart (h : Ready f dir fs records) (hc : ¬ Collide f records)
    (hn : ¬ Nested f records) :
    (writeAll f dir fs records).result = .ok (index (planned f records)) := by
  obtain ⟨fs₁, q, hd, hlink, hq, -, -, hempty⟩ := h.exists_directory
  have hfree : ∀ t ∈ allTargets f records, fs₁.disk.Free q t := fun t ht =>
    Disk.free_of_none hempty (leadsDown_of_mem_allTargets ht).ne_nil
  obtain ⟨hindex, hpair⟩ := List.pairwise_cons.mp (pairwise_apart hc hn)
  have hmem : ∀ r ∈ records, targetNames f r.path ∈ allTargets f records := fun r hr =>
    List.mem_cons_of_mem _ (List.mem_map.mpr ⟨r, hr, rfl⟩)
  obtain ⟨hr, hstay⟩ := writeRecords_of_apart hlink hq (fun r hr => h.fits _ (hmem r hr))
    (fun r hr => hfree _ (hmem r hr)) hpair
  have hkeeps : Keeps fs₁ (writeRecords f dir fs₁ (planned f records)).files :=
    writeRecords_keeps hlink
  have hplace := hstay [indexTarget f]
    (fun r hr => (hindex _ (List.mem_map.mpr ⟨r, hr, rfl⟩)).symm) (hfree _ List.mem_cons_self)
  have hfits := h.fits _ List.mem_cons_self
  have hreach : (writeRecords f dir fs₁ (planned f records)).files.Reaches dir q [indexTarget f] :=
    ⟨hfits.usable, hkeeps.leadsTo hq, Disk.open_singleton (hfits.short _ List.mem_cons_self)⟩
  have hi := hreach.write hkeeps.linkFree hfits.leadsDown hplace.place
    (indexBytes f (index (planned f records)))
  rw [intercalate_indexTarget] at hi
  rw [writeAll, planAll_eq_ok_iff.mpr ⟨rfl, hc⟩]
  simp only [planned, indexBytes] at hr hi ⊢
  simp only [hd, hr, Files.writeText, hi]

/-- **What can come of writing into a new directory.**  Where a target lies below another, writing
fails after the output directory has been made. -/
theorem Ready.outcome (h : Ready f dir fs records) :
    (Collide f records ∧ (∃ e, (writeAll f dir fs records).result = .error e) ∧
        (writeAll f dir fs records).files = fs) ∨
      (¬ Collide f records ∧ Nested f records ∧
        (∃ e, (writeAll f dir fs records).result = .error e) ∧
        ∃ q, fs.disk.entry? q = none ∧
          (writeAll f dir fs records).files.disk.entry? q = some .directory) ∨
      (¬ Collide f records ∧ ¬ Nested f records ∧ ∃ entries q,
        (writeAll f dir fs records).result = .ok entries ∧
          Placed f dir records entries q fs (writeAll f dir fs records).files) := by
  have hcourse := writeAll_course f dir fs records
  by_cases hc : Collide f records
  · obtain ⟨hfiles, e, -, hresult⟩ := hcourse.of_collide hc
    exact .inl ⟨hc, ⟨e, hresult⟩, hfiles⟩
  by_cases hn : Nested f records
  · refine .inr (.inl ⟨hc, hn, ?_⟩)
    obtain ⟨fs₁, q, hd, hlink, -, hnone, hq, -⟩ := h.exists_directory
    generalize (writeAll f dir fs records).files = files at hcourse ⊢
    generalize (writeAll f dir fs records).result = result at hcourse ⊢
    have hkeeps : Keeps fs₁ (writeRecords f dir fs₁ (planned f records)).files :=
      writeRecords_keeps hlink
    cases hcourse with
    | collision hp => exact absurd (exists_of_planAll_eq_error hp).1 hc
    | directory _ hd' => cases hd.symm.trans hd'
    | record _ hd' =>
        cases hd.symm.trans hd'
        exact ⟨⟨_, rfl⟩, q, hnone, hkeeps.directories q hq⟩
    | index _ hd' =>
        cases hd.symm.trans hd'
        exact ⟨⟨_, rfl⟩, q, hnone, hkeeps.directories q hq⟩
    | done hn' hd' hr' hi' =>
        obtain ⟨_, hplaced⟩ := Course.exists_placed h.linkFree (.done hn' hd' hr' hi')
        exact absurd hn hplaced.not_nested
  · have hresult := writeAll_of_apart h hc hn
    rw [hresult] at hcourse
    obtain ⟨q, hplaced⟩ := hcourse.exists_placed h.linkFree
    exact .inr (.inr ⟨hc, hn, _, q, hresult, hplaced⟩)

/-- In an empty tree a directory can be made. -/
theorem ready_out (h : ∀ t ∈ allTargets f records, Fits "out" t) : Ready f "out" {} records where
  linkFree := by decide
  rooted p name hne := by simp [Disk.entry?] at hne
  fresh := ⟨[], "out", (Files.find_eq_ok_iff (by decide)).mpr ⟨by decide, by decide, rfl⟩⟩
  fits := h

/-- **Every record gets a file of its own.**  Two claims to one file are reported before anything is
written, with the first record whose file is taken and who took it.  Otherwise, if writing succeeds,
every record stands in its file and the index in its own, and no other file differs. -/
theorem writeAll_places (f : OutputFormat) (dir : String) (records : List ModuleDoc)
    (h : fs.disk.LinkFree) :
    ((∃ message, (writeAll f dir fs records).result = .error (.outputCollision message)) ↔
      Collide f records) ∧
    (∀ message, (writeAll f dir fs records).result = .error (.outputCollision message) →
      (writeAll f dir fs records).files = fs ∧
      ∃ before r after claimant, records = before ++ r :: after ∧ ¬ Collide f before ∧
        (target f r.path = indexTarget f ∧ claimant = "the module index" ∨
          ∃ c ∈ before, target f c.path = target f r.path ∧ claimant = c.path) ∧
        message = claimant ++ " and " ++ r.path ++ " both map to " ++ target f r.path) ∧
    ∀ entries, (writeAll f dir fs records).result = .ok entries →
      (∃ q, Placed f dir records entries q fs (writeAll f dir fs records).files) ∧
      SortedBy IndexEntry.path (records.map fun r =>
        { name := r.name
          path := r.path
          file := Path.slashed (target f r.path)
          isDeprecated := r.isDeprecated
          classes := r.classes.length
          mixins := r.mixins.length
          functions := r.functions.length
          vars := r.vars.length }) entries := by
  have hcourse := writeAll_course f dir fs records
  refine ⟨hcourse.collision_iff, fun message hm => ?_, fun entries he => ?_⟩
  · obtain ⟨hfiles, e, hp, hresult⟩ := hcourse.of_collide (hcourse.collision_iff.mp ⟨message, hm⟩)
    obtain ⟨-, before, r, after, claimant, hrs, hn, hclaim, rfl⟩ := exists_of_planAll_eq_error hp
    refine ⟨hfiles, before, r, after, claimant, hrs, hn, hclaim, ?_⟩
    exact Failure.outputCollision.inj (Except.error.inj (hm.symm.trans hresult))
  · rw [he] at hcourse
    exact ⟨hcourse.exists_placed h, hcourse.entries_eq ▸ index_sortedBy f records⟩

/-- Two records whose paths are spelled in different ways, and two that meet in one file. -/
theorem writeAll_places_spellings :
    let z : ModuleDoc := { name := "z", path := "z.js" }
    let b : ModuleDoc := { name := "b", path := "/lib/./../b.js" }
    let again : ModuleDoc := { path := "lib//b.js" }
    ({ } : Files).disk.LinkFree ∧
    (∃ entries q, (writeAll .json "out" {} [z, b]).result = .ok entries ∧
      Placed .json "out" [z, b] entries q {} (writeAll .json "out" {} [z, b]).files) ∧
    (writeAll .json "out" {} [z, b, again]).result = .error (.outputCollision
      "/lib/./../b.js and lib//b.js both map to lib/b.js.json") ∧
    (writeAll .json "out" {} [z, b, again]).files = {} := by
  intro z b again
  have hlink : ({ } : Files).disk.LinkFree := by decide
  have hready : Ready .json "out" {} [z, b] := ready_out (by decide)
  have hok := writeAll_of_apart hready (not_collide_iff.mpr ⟨by decide, by decide⟩) (by decide)
  obtain ⟨⟨q, hq⟩, -⟩ := (writeAll_places .json "out" [z, b] hlink).2.2 _ hok
  have hmessage : (writeAll .json "out" {} [z, b, again]).result = .error (.outputCollision
      "/lib/./../b.js and lib//b.js both map to lib/b.js.json") := by
    decide +kernel
  exact ⟨hlink, ⟨_, q, hok, hq⟩, hmessage,
    ((writeAll_places .json "out" [z, b, again] hlink).2.1 _ hmessage).1⟩

/-- **What a write into a new directory leaves behind.**  It is nothing if two claims are made to
one file, and everything if all targets are apart.  But the targets are only compared as a whole: if
one of them is a directory on the way of another, writing fails when part of it is done. -/
theorem writeAll_leaves (h : Ready f dir fs records) :
    ((∃ entries q, (writeAll f dir fs records).result = .ok entries ∧
        Placed f dir records entries q fs (writeAll f dir fs records).files) ↔
      ¬ Collide f records ∧ ¬ Nested f records) ∧
    ((∃ e, (writeAll f dir fs records).result = .error e ∧
        (writeAll f dir fs records).files = fs) ↔ Collide f records) ∧
    ((∃ e, (writeAll f dir fs records).result = .error e ∧
        (writeAll f dir fs records).files ≠ fs) ↔ ¬ Collide f records ∧ Nested f records) := by
  rcases h.outcome with ⟨hc, ⟨e, he⟩, hfiles⟩ | ⟨hc, hn, ⟨e, he⟩, q, hnone, hdir⟩ |
      ⟨hc, hn, entries, q, he, hplaced⟩
  · simp [hc, he, hfiles]
  · have hfiles : (writeAll f dir fs records).files ≠ fs := by
      intro e
      rw [e] at hdir
      exact absurd (hnone.symm.trans hdir) nofun
    simp [hc, hn, he, hfiles]
  · simp only [hc, hn, he, not_false_eq_true, and_self, iff_true]
    exact ⟨⟨entries, q, rfl, hplaced⟩, by simp, by simp⟩

/-- A path may go on where another one ends, as long as the files do not. -/
theorem writeAll_leaves_all :
    let records : List ModuleDoc := [{ path := "a" }, { path := "a/b" }]
    Ready .yaml "out" {} records ∧
    ∃ entries q, (writeAll .yaml "out" {} records).result = .ok entries ∧
      Placed .yaml "out" records entries q {} (writeAll .yaml "out" {} records).files := by
  intro records
  have hready : Ready .yaml "out" {} records := ready_out (by decide)
  exact ⟨hready, (writeAll_leaves hready).1.mpr
    ⟨not_collide_iff.mpr ⟨by decide, by decide⟩, by decide⟩⟩

/-- The second file lies below the first, which is written and stays. -/
theorem leftover_of_file_below_file :
    let records : List ModuleDoc := [{ path := "a" }, { path := "a.json/b" }]
    Ready .json "out" {} records ∧ ¬ Collide .json records ∧
    (∃ e, (writeAll .json "out" {} records).result = .error e) ∧
    (writeAll .json "out" {} records).files ≠ {} := by
  intro records
  have hready : Ready .json "out" {} records := ready_out (by decide)
  have hc : ¬ Collide .json records := not_collide_iff.mpr ⟨by decide, by decide⟩
  have hn : Nested .json records := by decide
  rcases hready.outcome with ⟨hc', -⟩ | ⟨-, -, herror, q, hnone, hdir⟩ | ⟨-, hn', -⟩
  · exact absurd hc' hc
  · refine ⟨hready, hc, herror, fun e => ?_⟩
    rw [e] at hdir
    exact absurd (hnone.symm.trans hdir) nofun
  · exact absurd hn hn'

end

end Output

end ModuleDocs
