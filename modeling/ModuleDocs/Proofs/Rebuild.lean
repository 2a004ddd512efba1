import ModuleDocs.Proofs.Collecting
import ModuleDocs.Proofs.Policies

/-!
# Proofs — Rebuilding

A build that is repeated finds the module files that it found before, reads the same from them and
writes what is there already.

* `createDirectories_of_directory`, `Placed.writeAll_again`: a directory is not made again, and
  writing what is in its place changes nothing.
* `document_again`: in whatever order modules end, the documentation is the same if no two modules
  have one file.
* `rebuild_unchanged`: a build after a build changes nothing.
-/

namespace ModuleDocs

/-! ### What is there already -/

/-- A joined path holds all the characters of the directory. -/
theorem Path.sublist_join (dir : String) {s : String} (hs : isAbsolute s = false) :
    dir.toList.Sublist (join dir s).toList := by
  rw [join_of_relative dir hs]
  split
  case isTrue hd =>
    rw [hd]
    exact List.nil_sublist _
  case isFalse =>
    split
    · rw [String.toList_append]
      exact List.sublist_append_left _ _
    · rw [String.append_assoc, String.toList_append]
      exact List.sublist_append_left _ _

namespace Files

variable {fs : Files} {path dir : String} {q : Place} {names l : List String}

theorem dropEndSlashes_sublist (path : String) :
    (dropEndSlashes path).toList.Sublist path.toList := by
  unfold dropEndSlashes
  split
  · exact .refl _
  · rw [String.toList_ofList, List.reverse_sublist.symm, List.reverse_reverse]
    exact List.dropWhile_sublist _

theorem dropEndSlashes_ne_empty (h : path ≠ "") : dropEndSlashes path ≠ "" := by
  unfold dropEndSlashes
  split
  case h_1 => exact h
  case h_2 hne =>
    intro e
    have := congrArg String.toList e
    rw [String.toList_ofList] at this
    exact hne (List.reverse_eq_nil_iff.mp this)

/-- **A directory that is there is not made again.** -/
theorem createDirectories_of_directory (h : fs.disk.LinkFree)
    (hd : fs.entry? path = some (q, .directory)) : fs.createDirectories path = (fs, .ok ()) := by
  obtain ⟨hne, hu, -⟩ := (find_eq_ok_iff h).mp (entry?_eq_some_iff.mp hd)
  have hleads : fs.LeadsTo (dropEndSlashes path) q := by
    have hl := leadsTo_of_directory h hd
    rw [LeadsTo, start] at hl ⊢
    rwa [isAbsolute_dropEndSlashes, names_dropEndSlashes]
  have hthere : fs.createDirectory path = .error .alreadyThere := by
    have he := entry?_of_leadsTo h (dropEndSlashes_ne_empty hne)
      (hu.of_sublist (dropEndSlashes_sublist path)) hleads
    have hf : fs.find false (dropEndSlashes path) = .ok (.entry q .directory) :=
      (find_eq_ok_iff h).mpr ((find_eq_ok_iff h).mp (entry?_eq_some_iff.mp he))
    rw [createDirectory, hf]
  have hbase : fs.createBase [] (lineage (path.length + 1) path) = .ok (fs, []) := by
    rw [lineage, if_neg hne]
    split
    · rfl
    · rw [createBase, hthere]
      simp [isDirectory_iff.mpr ⟨q, hd⟩]
  rw [createDirectories, hbase]
  rfl

/-- A paved way is gone to its end. -/
theorem descend_of_paved (hl : ∀ name ∈ l, Path.isNormal name = true ∧ '/' ∉ name.toList)
    (hs : ∀ name ∈ l, name.utf8ByteSize ≤ Disk.longestName) (hp : fs.disk.Paved q l) :
    fs.disk.descend q l = .ok (.entry (q ++ l) .directory) := by
  by_cases hnil : l = []
  · rw [hnil, List.append_nil]
    rfl
  · have hdown : Path.LeadsDown l := ⟨hnil, fun n hn => (hl n hn).1, fun n hn => (hl n hn).2⟩
    refine (Disk.descend_eq_ok_iff hdown).mpr ⟨⟨hs, fun l' hl' hne _ => hp l' hl' hne⟩, rfl, ?_⟩
    exact (hp l (List.prefix_refl l) hnil).symm

/-- The directories on an open way are there. -/
theorem Reaches.createDirectories (h : fs.disk.LinkFree) (hl : Path.LeadsDown names)
    (hr : fs.Reaches dir q names) :
    fs.createDirectories (Path.below dir names.dropLast) = (fs, .ok ()) := by
  obtain ⟨front, last, rfl⟩ := List.eq_nil_or_concat' names |>.resolve_left hl.ne_nil
  obtain ⟨hshort, hpaved⟩ := Disk.open_concat_iff.mp hr.isOpen
  have hp : front <+: front ++ [last] := List.prefix_append _ _
  rw [List.dropLast_concat]
  by_cases hnil : Path.parts dir ++ front = []
  · -- the way starts at the root or where one stands, and nothing is to be made
    rw [Path.below, hnil]
    cases Path.isAbsolute dir <;> rfl
  · have hfind : fs.find true (Path.below dir front) = .ok (.entry (q ++ front) .directory) := by
      rw [find_below h hr.leadsTo ⟨hl, hr.usable, hshort⟩ hp hnil]
      refine descend_of_paved (fun n hn => ?_) (fun n hn => hshort n (hp.subset hn)) hpaved
      exact ⟨hl.normal n (hp.subset hn), hl.noSlash n (hp.subset hn)⟩
    exact createDirectories_of_directory h (entry?_eq_some_iff.mpr hfind)

/-- Writing what a file holds already changes nothing. -/
theorem write_again (h : fs.Sound) {p : Place} {content : ByteArray}
    (hf : fs.find true path = .ok (.entry p (.file content))) :
    fs.write path content = .ok fs := by
  have he : fs.disk.entry? p = some (.file content) := h.entry?_of_find hf
  have hne : p ≠ [] := by
    rintro rfl
    rw [Disk.entry?_nil] at he
    cases he
  rw [write, hf]
  dsimp only
  rw [h.disk.put_self hne he]

end Files

namespace Output

variable {f : OutputFormat} {dir text : String} {fs : Files} {records : List ModuleDoc}
  {names : List String} {p q : Place}

/-- **Writing a file again changes nothing.** -/
theorem writeFile_again (h : fs.Sound) (hl : Path.LeadsDown names)
    (hf : fs.find true (Path.join dir ("/".intercalate names)) =
      .ok (.entry p (.file text.toUTF8))) :
    writeFile fs (Path.join dir ("/".intercalate names)) text = (fs, .ok ()) := by
  obtain ⟨q, hr, -⟩ := (Files.find_join_eq_ok_iff h.disk.linkFree hl).mp hf
  rw [writeFile, Path.parent?_join dir hl, Option.getD_some, ← Path.below,
    hr.createDirectories h.disk.linkFree hl]
  simp only [Files.writeText, Files.write_again h hf]

/-- Nor does writing the records again. -/
theorem writeRecords_again (h : fs.Sound)
    (hr : ∀ r ∈ records, fs.find true (Path.join dir (target f r.path)) =
      .ok (.entry (q ++ targetNames f r.path) (.file (recordBytes f r)))) :
    (writeRecords f dir fs (planned f records)).files = fs ∧
      (writeRecords f dir fs (planned f records)).result = .ok () := by
  induction records with
  | nil => exact ⟨rfl, rfl⟩
  | cons r records ih =>
      obtain ⟨hfirst, hrest⟩ := List.forall_mem_cons.mp hr
      rw [writeRecords_cons_of_ok (writeFile_again h (targetNames_leadsDown f r.path) hfirst)]
      exact ih hrest

/-- A write that gets through all its steps. -/
theorem writeAll_of_steps {fs₁ fs₂ fs₃ : Files} (hn : ¬ Collide f records)
    (hd : fs.createDirectories dir = (fs₁, .ok ()))
    (hr : (writeRecords f dir fs₁ (planned f records)).files = fs₂ ∧
      (writeRecords f dir fs₁ (planned f records)).result = .ok ())
    (hi : fs₂.write (Path.join dir (indexTarget f)) (indexBytes f (index (planned f records))) =
      .ok fs₃) :
    (writeAll f dir fs records).files = fs₃ ∧
      (writeAll f dir fs records).result = .ok (index (planned f records)) := by
  rw [indexBytes] at hi
  rw [writeAll, planAll_eq_ok_iff.mpr ⟨rfl, hn⟩, ← planned]
  simp only [hd, hr, Files.writeText, hi, and_self]

/-- **Writing what is in its place changes nothing.** -/
theorem Placed.writeAll_again {entries : List IndexEntry} {before : Files} (h : fs.Sound)
    (hn : ¬ Collide f records) (hd : fs.entry? dir = some (q, .directory))
    (hp : Placed f dir records entries q before fs)
    (he : entries = Output.index (planned f records)) :
    (writeAll f dir fs records).files = fs ∧ (writeAll f dir fs records).result = .ok entries := by
  subst he
  exact writeAll_of_steps hn (Files.createDirectories_of_directory h.disk.linkFree hd)
    (writeRecords_again h hp.record) (Files.write_again h hp.index)

/-- After writing the output directory is there. -/
theorem Placed.entry?_dir {entries : List IndexEntry} {before : Files} (h : fs.disk.LinkFree)
    (hne : dir ≠ "") (hp : Placed f dir records entries q before fs) :
    fs.LeadsTo dir q ∧ fs.entry? dir = some (q, .directory) := by
  have hindex := hp.index
  rw [← intercalate_indexTarget] at hindex
  obtain ⟨q', hr, hplace, -⟩ :=
    (Files.find_join_eq_ok_iff h (indexTarget_leadsDown f)).mp hindex
  obtain rfl : q = q' := (List.append_inj' hplace rfl).1
  have hrel := (indexTarget_leadsDown f).areNames.isAbsolute_intercalate
  have hu := hr.usable.of_sublist (Path.sublist_join dir hrel)
  exact ⟨hr.leadsTo, Files.entry?_of_leadsTo h hne hu hr.leadsTo⟩

end Output

/-! ### Documenting again -/

namespace Batch

variable {policy : FailurePolicy} {ended ended' : List Ended} {report : Report}

/-- A run ends well if no task failed, or if failures are let pass. -/
theorem conclude_eq_ok_iff : conclude policy ended = .ok report ↔
    (policy = .abort → ∀ task ∈ ended, ¬ Fails task) ∧ report = Batch.report ended := by
  cases policy with
  | isolate => simp [conclude, eq_comm]
  | abort => simpa using conclude_abort_eq_ok_iff

/-- **The order in which tasks end does not show in the documentation** if no two modules have one
file. -/
theorem conclude_again {f : OutputFormat} (hp : ended.Perm ended')
    (hc : conclude policy ended = .ok report) (hn : ¬ Output.Collide f report.modules) :
    ∃ report', conclude policy ended' = .ok report' ∧ report'.modules = report.modules := by
  obtain ⟨hfails, rfl⟩ := conclude_eq_ok_iff.mp hc
  refine ⟨_, conclude_eq_ok_iff.mpr ⟨fun ha task ht => hfails ha task (hp.mem_iff.mpr ht), rfl⟩, ?_⟩
  have hperm : (documented ended).Perm (documented ended') := hp.filterMap _
  refine (sortBy_eq_of_perm hperm fun a ha b hb hab => ?_).symm
  have hmem : ∀ {r}, r ∈ documented ended → r ∈ (Batch.report ended).modules := fun hr =>
    (sortBy_perm ModuleDoc.path _).mem_iff.mpr hr
  exact List.inj_on_of_nodup_map (Output.not_collide_iff.mp hn).1 (hmem ha) (hmem hb)
    (congrArg (Output.target f) hab)

end Batch

namespace Build

open Files (Filled)

variable {run : Runner} {h : Host} {o : Options} {s : Settings} {picks : List Nat}
  {fs fs' : Files} {files : List ModuleFile} {report : Report} {place : Place}

/-- A second run gives the same records, in whatever order its tasks end. -/
theorem document_again {f : OutputFormat}
    (hd : document run fs s.assembly picks files = .ok report)
    (hn : ¬ Output.Collide f report.modules)
    (hread : ∀ m ∈ files, fs'.read m.path = fs.read m.path) (picks' : List Nat) :
    ∃ report', document run fs' s.assembly picks' files = .ok report' ∧
      report'.modules = report.modules := by
  cases ha : Assembler.ofSettings s.assembly with
  | error e =>
      rw [document, ha] at hd
      cases hd
  | ok a =>
      rw [document_eq_conclude ha] at hd ⊢
      have htasks : ∀ m ∈ files,
          (m, outcome a s.assembly run fs' m) = (m, outcome a s.assembly run fs m) := by
        intro m hm
        simp only [outcome, Batch.process, Files.readText, hread m hm]
      rw [List.map_congr_left htasks]
      exact Batch.conclude_again
        ((Batch.completions_perm _ _ _).trans (Batch.completions_perm _ _ _).symm) hd hn

/-! ### Builds -/

/-- **What a build does that succeeds:** it writes the documentation of the module files that it
finds, if there are any. -/
theorem withSettings_done_iff (hw : o.dryRun = false) :
    (withSettings run h o s picks).failure = none ∧ (withSettings run h o s picks).files = fs' ↔
      ∃ files, collect h s o.paths = .ok files ∧ (files = [] ∧ fs' = h.files ∨
        files ≠ [] ∧ ∃ report entries, document run h.files s.assembly picks files = .ok report ∧
          (Output.writeAll s.output.format s.output.dir h.files report.modules).result =
            .ok entries ∧
          fs' = (Output.writeAll s.output.format s.output.dir h.files report.modules).files) := by
  unfold withSettings
  cases hc : collect h s o.paths with
  | error e => simp
  | ok files =>
      cases files with
      | nil => simp [eq_comm]
      | cons m ms =>
          simp only [Except.ok.injEq, exists_eq_left', reduceCtorEq, false_and, false_or, ne_eq,
            not_false_eq_true, true_and]
          cases hd : document run h.files s.assembly picks (m :: ms) with
          | error e => simp
          | ok report =>
              simp only [write, hw, Bool.false_eq_true, if_false, Except.ok.injEq, exists_and_left,
                exists_eq_left']
              cases hr : (Output.writeAll s.output.format s.output.dir h.files
                  report.modules).result with
              | error e => simp
              | ok entries => simp [eq_comm]

/-- Where the output directory is after a build it was before, or nothing was there. -/
theorem outputAt_of_filled (hs : fs.Sound) (hup : ".." ∉ Path.names s.output.dir)
    (hf : Filled (fs.spelled s.output.dir) fs fs')
    (hd : fs'.entry? s.output.dir = some (fs.spelled s.output.dir, .directory)) :
    OutputAt fs s (fs.spelled s.output.dir) ∧ OutputAt fs' s (fs.spelled s.output.dir) := by
  have hafter : fs'.disk.entry? (fs.spelled s.output.dir) = some .directory :=
    hf.sound.entry?_of_find (Files.entry?_eq_some_iff.mp hd)
  refine ⟨?_, .inl (by rw [outputPlace?, hd]; rfl)⟩
  have hbefore := hafter ▸ hf.entry? (fs.spelled s.output.dir)
  cases he : fs.disk.entry? (fs.spelled s.output.dir) with
  | none =>
      refine .inr ⟨?_, he⟩
      rw [outputPlace?, Option.map_eq_none_iff]
      by_contra hne
      obtain ⟨⟨q, e⟩, hq⟩ := Option.ne_none_iff_exists'.mp hne
      have := (hs.entry?_spelled hup hq).2
      rw [he] at this
      cases this
  | some e =>
      rw [he] at hbefore
      cases hbefore
      have := Files.entry?_of_same hs hf.sound hf.workDir hup hd he
      exact .inl (by rw [outputPlace?, this]; rfl)

/-- **A build after a build changes nothing.**  If a build succeeds, a build of the same paths finds
the same module files and reads the same from them, so that it never takes for a module what the
first one wrote; it succeeds and leaves every file as it is.  The output directory may have been
there before or not, and it may lie anywhere.  It has to have a path, since the empty one leads to
no directory, but is written to like the working directory. -/
theorem rebuild_unchanged (hs : h.files.Sound) (hdir : s.output.dir ≠ "")
    (hup : ".." ∉ Path.names s.output.dir) (hw : o.dryRun = false)
    (hd : ∀ path ∈ o.paths, h.files.isDirectory path = true)
    (hsteady : ∀ root ∈ roots o.paths, Scan.Steady h (h.files.spelled s.output.dir) root)
    (hok : (withSettings run h o s picks).failure = none) :
    let after : Host := { h with files := (withSettings run h o s picks).files }
    ∃ files, collect h s o.paths = .ok files ∧ collect after s o.paths = .ok files ∧
      (∀ m ∈ files, after.files.read m.path = h.files.read m.path) ∧
      ∀ picks', (withSettings run after o s picks').failure = none ∧
        (withSettings run after o s picks').files = after.files := by
  intro after
  obtain ⟨files, hc, hfiles⟩ := (withSettings_done_iff hw).mp ⟨hok, rfl⟩
  rcases hfiles with ⟨rfl, hsame⟩ | ⟨hne, report, entries, hdoc, hresult, hfiles⟩
  · have hafter : after = h := by
      show ({ h with files := _ } : Host) = h
      rw [hsame]
    rw [hafter]
    exact ⟨[], hc, hc, nofun, fun picks' =>
      (withSettings_done_iff hw).mpr ⟨[], hc, .inl ⟨rfl, rfl⟩⟩⟩
  · have hfiles : after.files =
        (Output.writeAll s.output.format s.output.dir h.files report.modules).files := hfiles
    have hf : Filled (h.files.spelled s.output.dir) h.files after.files :=
      hfiles ▸ Output.writeAll_filled _ _ hs hup
    have hcourse := Output.writeAll_course s.output.format s.output.dir h.files report.modules
    rw [hresult, ← hfiles] at hcourse
    have hn := hcourse.not_collide
    obtain ⟨q, hplaced⟩ := hcourse.exists_placed hs.disk.linkFree
    obtain ⟨hleads, hthere⟩ := hplaced.entry?_dir hf.sound.disk.linkFree hdir
    obtain rfl : q = h.files.spelled s.output.dir := by
      rw [Files.eq_spelled_of_leadsTo hup hleads, hf.spelled_eq]
    obtain ⟨hbefore, hafter⟩ := outputAt_of_filled hs hup hf hthere
    obtain ⟨hcollect, hread⟩ := collect_of_filled hs hf hd hsteady hbefore hafter
    refine ⟨files, hc, hcollect.trans hc, hread files hc, fun picks' => ?_⟩
    obtain ⟨report', hdoc', hmodules⟩ := document_again hdoc hn (hread files hc) picks'
    obtain ⟨hagain, hresult'⟩ := hplaced.writeAll_again hf.sound hn hthere hcourse.entries_eq
    refine (withSettings_done_iff hw).mpr ⟨files, hcollect.trans hc, .inr ⟨hne, report', entries,
      hdoc', ?_, ?_⟩⟩
    · rw [hmodules]
      exact hresult'
    · rw [hmodules]
      exact hagain.symm

/-! ### A build of one module -/

/-- A directory with a module file and others in it, seen from there. -/
def workTree (others : List (Place × Entry)) : Files where
  disk := { entries := (["w"], .directory) :: (["w", "a.json"], .file "[]".toUTF8) :: others }
  workDir := ["w"]

/-- A host with one module file. -/
def oneModule : Host where
  files := workTree []
  home := "/"

/-- Settings that ask for every module file. -/
def plainSettings (dir : String) : Settings where
  analysis := { includes := [], excludes := [] }
  output := { dir }

theorem oneModule_sound : oneModule.files.Sound := by
  refine ⟨⟨by decide, Disk.rooted_of_entries ?_, by decide, by decide⟩, rfl⟩
  exact List.forall_mem_cons.mpr ⟨rfl, List.forall_mem_cons.mpr ⟨rfl, nofun⟩⟩

theorem oneModule_absent : Ignore.Absent oneModule.files := by
  unfold Ignore.Absent
  decide

theorem oneModule_root : oneModule.files.entry? "." = some (["w"], .directory) :=
  Files.entry?_of_steps oneModule_sound.disk.linkFree (by decide) (by decide) rfl

theorem oneModule_file : oneModule.files.entry? "./a.json" =
    some (["w", "a.json"], .file "[]".toUTF8) :=
  Files.entry?_of_steps oneModule_sound.disk.linkFree (by decide) (by decide) rfl

theorem mem_files_oneModule {names : List String} :
    names ∈ Scan.files oneModule "." ↔ names = ["a.json"] := by
  rw [Scan.mem_files_iff_of_absent oneModule_absent oneModule_sound oneModule_root]
  constructor
  · rintro ⟨⟨content, he⟩, -⟩
    have hmem : names = ["a.json"] ∧ content = "[]".toUTF8 := by
      simpa [oneModule, workTree] using Disk.mem_entries (by simp) he
    exact hmem.1
  · rintro rfl
    have hsize : Scan.fileSize? oneModule.files ["w", "a.json"] = some "[]".toUTF8.size := by
      have he : oneModule.files.entry? "/w/a.json" =
          some (["w", "a.json"], .file "[]".toUTF8) :=
        Files.entry?_of_steps oneModule_sound.disk.linkFree (by decide) (by decide) rfl
      have hpath : Path.ofParts true ["w", "a.json"] = "/w/a.json" := by decide
      rw [Scan.fileSize?, hpath, he]
    exact ⟨⟨_, rfl⟩, Option.isSome_iff_exists.mpr ⟨_, hsize⟩⟩

/-- Without paths the working directory is scanned. -/
theorem collect_nil (hroot : h.files.entry? "." = some (place, .directory)) :
    collect h s [] = .ok (sortBy ModuleFile.relative (kept h s ".")) :=
  collect_single rfl (expand_eq hroot)

/-- The module file is the only one that is found, if the output directory is elsewhere. -/
theorem collect_oneModule {dir : String} {out : Place}
    (ho : OutputAt oneModule.files (plainSettings dir) out) (hout : ¬ out <+: ["w", "a.json"]) :
    collect oneModule (plainSettings dir) [] = .ok [⟨"./a.json", "a.json"⟩] := by
  have hwants : Scan.wants (plainSettings dir).analysis oneModule.files ⟨"./a.json", "a.json"⟩ =
      true := by
    simp only [Scan.wants, oneModule_file, plainSettings]
    rfl
  have hkept : kept oneModule (plainSettings dir) "." = [⟨"./a.json", "a.json"⟩] := by
    rw [← List.perm_singleton, List.perm_ext_iff_of_nodup
      (nodup_kept oneModule_sound oneModule_root) (List.nodup_singleton _)]
    intro m
    rw [mem_kept_iff oneModule_sound oneModule_root ho, List.mem_singleton]
    simp only [mem_files_oneModule, exists_eq_left]
    exact ⟨fun hm => hm.2.2, fun hm => ⟨hout, hwants, hm⟩⟩
  rw [collect_nil oneModule_root, hkept, sortBy, List.mergeSort_singleton]

/-- The documentation of a module without comments. -/
def bareDoc : ModuleDoc := { name := "a.json", path := "a.json" }

theorem document_oneModule (run : Runner) (dir : String) :
    ∃ report, document run oneModule.files (plainSettings dir).assembly []
      [⟨"./a.json", "a.json"⟩] = .ok report ∧ report.modules = [bareDoc] := by
  have ha : Assembler.ofSettings (plainSettings dir).assembly =
      .ok (.withExtensions (plainSettings dir).assembly []) := rfl
  have hread : oneModule.files.read (ModuleFile.mk "./a.json" "a.json").path = .ok "[]".toUTF8 :=
    Files.read_eq_ok_iff.mpr ⟨_, oneModule_file⟩
  have hdoc : Assembler.assemble (.withExtensions {} []) ⟨"a.json", "a.json"⟩ [] = bareDoc := by
    decide +kernel
  have hr : outcome (.withExtensions (plainSettings dir).assembly [])
      (plainSettings dir).assembly run oneModule.files ⟨"./a.json", "a.json"⟩ = .ok bareDoc := by
    rw [← hdoc]
    exact Batch.process_of_read hread
  refine ⟨_, document_eq ha rfl run oneModule.files [] _, ?_⟩
  have hended := List.perm_singleton.mp (Batch.completions_perm
    (plainSettings dir).assembly.concurrency [] [((⟨"./a.json", "a.json"⟩ : ModuleFile),
      (.ok bareDoc : Except Failure ModuleDoc))])
  rw [List.map_singleton, hr, hended]
  exact List.mergeSort_singleton _

/-- The build succeeds if the module's file can be written. -/
theorem oneModule_done {dir : String} {out : Place} {entries : List IndexEntry} (run : Runner)
    (ho : OutputAt oneModule.files (plainSettings dir) out) (hout : ¬ out <+: ["w", "a.json"])
    (hw : (Output.writeAll .json dir oneModule.files [bareDoc]).result = .ok entries) :
    (withSettings run oneModule {} (plainSettings dir) []).failure = none ∧
      (withSettings run oneModule {} (plainSettings dir) []).files =
        (Output.writeAll .json dir oneModule.files [bareDoc]).files := by
  obtain ⟨report, hd, hmodules⟩ := document_oneModule run dir
  refine (withSettings_done_iff rfl).mpr ⟨_, collect_oneModule ho hout, .inr
    ⟨List.cons_ne_nil _ _, report, entries, hd, ?_, ?_⟩⟩
  · rw [hmodules]
    exact hw
  · rw [hmodules]
    rfl

/-- The output directory is new and lies in the directory that is scanned. -/
theorem rebuild_unchanged_inside :
    let run : Runner := fun _ _ => .timedOut
    let first := withSettings run oneModule {} (plainSettings "docs") []
    oneModule.files.Sound ∧ first.failure = none ∧
    ∀ picks, (withSettings run { oneModule with files := first.files } {} (plainSettings "docs")
      picks).files = first.files := by
  intro run first
  have hs := oneModule_sound
  have hmissing : oneModule.files.find true "docs" = .ok (.missing ["w"] "docs") :=
    (Files.find_eq_ok_iff hs.disk.linkFree).mpr ⟨by decide, by decide, rfl⟩
  have ho : OutputAt oneModule.files (plainSettings "docs") ["w", "docs"] := by
    refine .inr ⟨?_, rfl⟩
    simp only [outputPlace?, plainSettings, Files.entry?, hmissing]
    rfl
  have hready : Output.Ready .json "docs" oneModule.files [bareDoc] :=
    ⟨hs.disk.linkFree, hs.disk.rooted, ⟨_, _, hmissing⟩, by decide⟩
  have hwrite := Output.writeAll_of_apart hready
    (Output.not_collide_iff.mpr ⟨by decide, by decide⟩) (by decide)
  obtain ⟨hok, -⟩ := oneModule_done run ho (by decide) hwrite
  have hspelled : oneModule.files.spelled "docs" = ["w", "docs"] := by decide
  have hsteady : ∀ root, Scan.Steady oneModule (oneModule.files.spelled "docs") root := fun root =>
    Scan.steady_of_undisturbed (hspelled ▸ oneModule_absent.undisturbed (by decide)) hs (by decide)
      root
  obtain ⟨files, -, -, -, hagain⟩ := rebuild_unchanged (o := {}) (s := plainSettings "docs") hs
    (by decide) (by decide) rfl (by simp) (fun root _ => hsteady root) hok
  exact ⟨hs, hok, fun picks => (hagain picks).2⟩

/-! ### The empty output path -/

/-- What is written where one stands. -/
def besides : List (Place × Entry) :=
  [(["w", "a.json.json"], .file (Output.recordBytes .json bareDoc)),
    (["w", "_index.json"], .file (Output.indexBytes .json [Output.entry bareDoc "a.json.json"]))]

theorem workTree_sound : (workTree besides).Sound := by
  refine ⟨⟨by decide, Disk.rooted_of_entries ?_, by decide, by decide⟩, rfl⟩
  simp [workTree, besides, Disk.entry?]

/-- With an empty path the files are written where one stands. -/
theorem writeAll_empty :
    (Output.writeAll .json "" oneModule.files [bareDoc]).files = workTree besides ∧
      (Output.writeAll .json "" oneModule.files [bareDoc]).result =
        .ok (Output.index (Output.planned .json [bareDoc])) := by
  have hdir : oneModule.files.createDirectories "" = (oneModule.files, .ok ()) := rfl
  have hrecord : oneModule.files.find true "a.json.json" = .ok (.missing ["w"] "a.json.json") :=
    (Files.find_eq_ok_iff oneModule_sound.disk.linkFree).mpr ⟨by decide, by decide, rfl⟩
  have hindex : (workTree (besides.take 1)).find true "_index.json" =
      .ok (.missing ["w"] "_index.json") :=
    (Files.find_eq_ok_iff (by decide)).mpr ⟨by decide, by decide, rfl⟩
  have hfirst : Output.writeFile oneModule.files (Path.join "" (Output.target .json bareDoc.path))
      (OutputFormat.json.print bareDoc.toValue) = (workTree (besides.take 1), .ok ()) := by
    rw [show Path.join "" (Output.target .json bareDoc.path) = "a.json.json" by decide,
      Output.writeFile, show Path.parent? "a.json.json" = some "" by decide, Option.getD_some, hdir]
    simp only [Files.writeText, Files.write, hrecord]
    rfl
  have hentries : Output.index (Output.planned .json [bareDoc]) =
      [Output.entry bareDoc "a.json.json"] := List.mergeSort_singleton _
  have hrecords : (Output.writeRecords .json "" oneModule.files
        (Output.planned .json [bareDoc])).files = workTree (besides.take 1) ∧
      (Output.writeRecords .json "" oneModule.files (Output.planned .json [bareDoc])).result =
        .ok () := by
    rw [Output.writeRecords_cons_of_ok hfirst]
    exact ⟨rfl, rfl⟩
  refine Output.writeAll_of_steps (Output.not_collide_iff.mpr ⟨by decide, by decide⟩) hdir
    hrecords ?_
  rw [hentries, show Path.join "" (Output.indexTarget .json) = "_index.json" by decide,
    Files.write, hindex]
  rfl

/-- **An empty output path makes a build read back what it wrote:** no path leads to the output
directory, so that its files are taken for modules. -/
theorem rebuild_reads_back_empty :
    let run : Runner := fun _ _ => .timedOut
    let first := withSettings run oneModule {} (plainSettings "") []
    (plainSettings "").problem? = none ∧ oneModule.files.Sound ∧ first.failure = none ∧
    collect { oneModule with files := first.files } (plainSettings "") [] ≠
      collect oneModule (plainSettings "") [] := by
  intro run first
  have hout : ∀ others, Disk.entry? (workTree others).disk ["x"] = none →
      OutputAt (workTree others) (plainSettings "") ["x"] := fun _ hx => .inr ⟨rfl, hx⟩
  obtain ⟨htree, hwrite⟩ := writeAll_empty
  obtain ⟨hok, hfiles⟩ := oneModule_done run (hout [] rfl) (by decide) hwrite
  refine ⟨by decide, oneModule_sound, hok, fun hsame => ?_⟩
  have hfirst : first.files = workTree besides := hfiles.trans htree
  rw [collect_oneModule (hout [] rfl) (by decide), hfirst] at hsame
  have hs := workTree_sound
  have hentry : ∀ {path : String} {p : Place} {e : Entry}, path ≠ "" → Files.Usable path →
      (workTree besides).disk.descend ((workTree besides).start path) (Disk.steps path) =
        .ok (.entry p e) → Files.entry? (workTree besides) path = some (p, e) := fun hne hu hd =>
    Files.entry?_eq_some_iff.mpr ((Files.find_eq_ok_iff hs.disk.linkFree).mpr ⟨hne, hu, hd⟩)
  have hroot : Files.entry? (workTree besides) "." = some (["w"], .directory) :=
    hentry (by decide) (by decide) rfl
  have hindex : Files.entry? (workTree besides) "./_index.json" = some (["w", "_index.json"],
      .file (Output.indexBytes .json [Output.entry bareDoc "a.json.json"])) :=
    hentry (by decide) (by decide) rfl
  have habsolute : Files.entry? (workTree besides) (Path.ofParts true (["w"] ++ ["_index.json"])) =
      some (["w", "_index.json"],
        .file (Output.indexBytes .json [Output.entry bareDoc "a.json.json"])) :=
    hentry (by decide) (by decide) rfl
  have habsent : Ignore.Absent (workTree besides) := by
    unfold Ignore.Absent
    decide
  have hmem : ["_index.json"] ∈ Scan.files { oneModule with files := workTree besides } "." := by
    refine (Scan.mem_files_iff_of_absent habsent hs hroot).mpr ⟨⟨_, rfl⟩, ?_⟩
    simp only [Scan.fileSize?, habsolute, Option.isSome_some]
  have hwants : Scan.wants (plainSettings "").analysis (workTree besides)
      (Scan.fileAt "." ["_index.json"]) = true := by
    rw [show Scan.fileAt "." ["_index.json"] = ⟨"./_index.json", "_index.json"⟩ by decide]
    simp only [Scan.wants, hindex]
    decide +kernel
  have hkept := (mem_kept_iff hs hroot (hout besides rfl)).mpr
    ⟨_, hmem, by decide, hwants, rfl⟩
  rw [collect_nil hroot, Except.ok.injEq] at hsame
  have hfound := hsame ▸ (sortBy_perm ModuleFile.relative _).mem_iff.mpr hkept
  exact absurd hfound (by decide)

end Build

end ModuleDocs
