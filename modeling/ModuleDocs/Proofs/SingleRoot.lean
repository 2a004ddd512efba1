import ModuleDocs.Proofs.Confinement
import ModuleDocs.Proofs.Rebuild
import ModuleDocs.Proofs.UsableSettings

/-!
# Proofs — Builds of one directory

The modules of one directory never share a file.  Their relative paths are the names that lead down
to them, all different; a module is documented under this path; and the file of a path has its
names, with an extension at the last one.  The index has the file of a module `_index`, and no
module is called that: a module file has an extension.

* `Scan.Below`: the module files that a scan can give, said by their names.
* `Scan.Below.relative_eq_of_target_eq`, `Scan.Below.target_ne_indexTarget`: they have different
  files, and none has that of the index.
* `document_not_collide`: nor do the files of the documentation collide, whatever the batch does.
* `modules_increasing`: the order of a scan is strict.
* `singleRoot_never_collides`: a build of one directory never fails with a collision.
-/

namespace ModuleDocs

/-! ### Files of scanned modules -/

namespace Scan

open Output (target indexTarget stemNames)

variable {root : String} {m n : ModuleFile} {names : List String} {f : OutputFormat}

/-- The file lies below the root, where its names say, and has an extension. -/
structure Below (root : String) (m : ModuleFile) : Prop where
  names : ∃ names, Path.LeadsDown names ∧ m = fileAt root names
  extension : (Path.extension? m.path).isSome = true

/-- A scanned file goes by the names that lead down to it. -/
theorem normalNames_fileAt (hl : Path.LeadsDown names) :
    Path.normalNames (fileAt root names).relative = names := by
  rw [fileAt, Path.normalNames, Text.split_intercalate hl.ne_nil hl.noSlash]
  exact List.filter_eq_self.mpr hl.normal

/-- So does the file that is written for it, before the format is added to the last name. -/
theorem stemNames_fileAt (hl : Path.LeadsDown names) :
    stemNames (fileAt root names).relative = names := by
  rw [stemNames, normalNames_fileAt hl, if_neg hl.ne_nil]

/-- Modules of different relative paths have different files. -/
theorem Below.relative_eq_of_target_eq (hm : Below root m) (hn : Below root n)
    (h : target f m.relative = target f n.relative) : m.relative = n.relative := by
  obtain ⟨names, hl, rfl⟩ := hm.names
  obtain ⟨names', hl', rfl⟩ := hn.names
  rw [Output.target_eq_iff, stemNames_fileAt hl, stemNames_fileAt hl'] at h
  rw [h]

/-- **No module has the file of the index:** it would be called `_index`, without an extension. -/
theorem Below.target_ne_indexTarget (hm : Below root m) : target f m.relative ≠ indexTarget f := by
  obtain ⟨names, hl, rfl⟩ := hm.names
  intro h
  rw [Output.indexTarget_eq, Output.target_eq_iff, stemNames_fileAt hl] at h
  obtain rfl : names = [] ++ ["_index"] := h.trans (by decide)
  have hextension := hm.extension
  rw [Build.fileAt_path hl, Path.extension?, Path.fileName?_join root hl] at hextension
  exact absurd hextension (by decide)

end Scan

/-! ### Documentation of scanned modules -/

namespace Batch

variable {policy : FailurePolicy} {ended : List Ended} {f : Failure}

/-- Where every module is documented under its own path, these are paths of the files, each no more
often than it is one. -/
theorem paths_documented {outcome : ModuleFile → Except Failure ModuleDoc}
    (hpath : ∀ m r, outcome m = .ok r → r.path = m.relative) (files : List ModuleFile) :
    ((documented (files.map fun m => (m, outcome m))).map (·.path)).Sublist
      (files.map (·.relative)) := by
  induction files with
  | nil => exact .slnil
  | cons m files ih =>
      cases hm : outcome m with
      | error e =>
          simp only [List.map_cons, hm]
          exact ih.cons m.relative
      | ok r =>
          simp only [List.map_cons, hm, ← hpath m r hm]
          exact ih.cons_cons r.path

end Batch

namespace Build

open Output (Collide)

variable {run : Runner} {h : Host} {o : Options} {s : Settings} {picks : List Nat} {fs : Files}
  {root : String} {place : Place} {files : List ModuleFile} {report : Report} {a : Assembler}

section

variable {t : AssemblySettings}

/-- **The files of the documentation do not collide** if the modules are different files below one
root. -/
theorem document_not_collide (ha : Assembler.ofSettings t = .ok a) (f : OutputFormat)
    (hbelow : ∀ m ∈ files, Scan.Below root m) (hnodup : (files.map (·.relative)).Nodup)
    (hd : document run fs t picks files = .ok report) : ¬ Collide f report.modules := by
  rw [document_eq_conclude ha] at hd
  obtain ⟨-, rfl⟩ := Batch.conclude_eq_ok_iff.mp hd
  have hperm := (Batch.report_accounts (Batch.completions_perm t.concurrency picks
    (files.map fun m => (m, outcome a t run fs m)))).modules.map (·.path)
  have hpaths := Batch.paths_documented (path_outcome ha run fs) files
  generalize (Batch.report _).modules = records at hperm ⊢
  have hpath : ∀ r ∈ records, ∃ m, Scan.Below root m ∧ r.path = m.relative := by
    intro r hr
    have hmem := hpaths.subset (hperm.mem_iff.mp (List.mem_map_of_mem hr))
    obtain ⟨m, hm, he⟩ := List.mem_map.mp hmem
    exact ⟨m, hbelow m hm, he.symm⟩
  have hdistinct : (records.map (·.path)).Nodup := hperm.nodup_iff.mpr (hpaths.nodup hnodup)
  refine Output.not_collide_iff.mpr ⟨?_, fun r hr => ?_⟩
  · refine (List.Nodup.of_map _ hdistinct).map_on fun r hr r' hr' he => ?_
    obtain ⟨m, hm, hrm⟩ := hpath r hr
    obtain ⟨n, hn, hrn⟩ := hpath r' hr'
    rw [hrm, hrn] at he
    have hsame := hm.relative_eq_of_target_eq hn he
    exact List.inj_on_of_nodup_map hdistinct hr hr' (hrm.trans (hsame.trans hrn.symm))
  · obtain ⟨m, hm, hrm⟩ := hpath r hr
    rw [hrm]
    exact hm.target_ne_indexTarget

end

/-! ### Scans of one directory -/

section

variable {t : AnalysisSettings} {m : ModuleFile}

/-- The modules of a root are the files of the scan that are wanted, in some order. -/
theorem modules_perm : (Scan.modules h root t).Perm
    (((Scan.files h root).map (Scan.fileAt root)).filter (Scan.wants t h.files)) :=
  sortBy_perm ModuleFile.relative _

/-- A module is a scanned file that is wanted. -/
theorem mem_modules_iff : m ∈ Scan.modules h root t ↔
    (∃ names ∈ Scan.files h root, Scan.fileAt root names = m) ∧
      Scan.wants t h.files m = true := by
  rw [modules_perm.mem_iff, List.mem_filter, List.mem_map]

/-- A wanted file has an extension. -/
theorem extension_of_wants (hw : Scan.wants t fs m = true) :
    (Path.extension? m.path).isSome = true := by
  simp only [Scan.wants, Bool.and_eq_true] at hw
  cases he : Path.extension? m.path with
  | some extension => rfl
  | none =>
      rw [he] at hw
      cases hw.1.1.1

/-- Every module lies below its root. -/
theorem below_of_mem_modules (hs : h.files.Sound)
    (hroot : h.files.entry? root = some (place, .directory)) (hm : m ∈ Scan.modules h root t) :
    Scan.Below root m := by
  obtain ⟨⟨names, hn, rfl⟩, hw⟩ := mem_modules_iff.mp hm
  exact ⟨⟨names, (leadsDown_of_mem_files hs hroot hn).1, rfl⟩, extension_of_wants hw⟩

/-- No two modules have the same path. -/
theorem nodup_modules (hs : h.files.Sound)
    (hroot : h.files.entry? root = some (place, .directory)) :
    ((Scan.modules h root t).map (·.relative)).Nodup := by
  refine (modules_perm.map _).nodup_iff.mpr ((nodup_relative hs hroot).sublist ?_)
  exact List.filter_sublist.map _

/-- **The relative paths of a scan increase.** -/
theorem modules_increasing (hs : h.files.Sound)
    (hroot : h.files.entry? root = some (place, .directory)) :
    (Scan.modules h root t).Pairwise (·.relative < ·.relative) := by
  have hordered : (Scan.modules h root t).Pairwise (·.relative ≤ ·.relative) :=
    (sortBy_sortedBy ModuleFile.relative _).ordered
  have hne : (Scan.modules h root t).Pairwise (·.relative ≠ ·.relative) :=
    List.pairwise_map.mp (nodup_modules hs hroot)
  refine (hordered.and hne).imp fun hab => ?_
  exact String.not_le.mp fun hba => hab.2 (String.le_antisymm hab.1 hba)

/-- A scanned module is the file that its relative path leads to from the root. -/
theorem entry?_of_mem_modules (hs : h.files.Sound)
    (hroot : h.files.entry? root = some (place, .directory)) (hm : m ∈ Scan.modules h root t) :
    m.path = Path.join root m.relative ∧ ∃ content, h.files.entry? (Path.join root m.relative) =
      some (place ++ Path.normalNames m.relative, .file content) := by
  obtain ⟨⟨names, hn, rfl⟩, hw⟩ := mem_modules_iff.mp hm
  have hl := (leadsDown_of_mem_files hs hroot hn).1
  have hpath : (Scan.fileAt root names).path = Path.join root ("/".intercalate names) :=
    fileAt_path hl
  obtain ⟨q, content, hq⟩ := file_of_wants hw
  obtain ⟨rfl, -⟩ := entry?_fileAt hs hroot hl hq
  refine ⟨hpath, content, ?_⟩
  rw [Scan.normalNames_fileAt hl, ← hq]
  exact congrArg h.files.entry? hpath.symm

end

/-! ### Builds -/

/-- **A build of one directory never collides.**  The module files that a scan of a directory gives
have strictly increasing relative paths, all different, and from the directory each leads to the
file itself.  In whatever order the modules end, the files of their documentation do not collide,
neither with each other nor with the index, and writing them into any directory is no collision.  So
a build that starts from the directory, which leaves out the files in the output directory, never
fails with one. -/
theorem singleRoot_never_collides (hs : h.files.Sound)
    (hroot : h.files.entry? root = some (place, .directory)) (hv : s.validate = .ok s) :
    let files := Scan.modules h root s.analysis
    files.Pairwise (·.relative < ·.relative) ∧ (files.map (·.relative)).Nodup ∧
    (∀ m ∈ files, m.path = Path.join root m.relative ∧
      ∃ content, h.files.entry? (Path.join root m.relative) =
        some (place ++ Path.normalNames m.relative, .file content)) ∧
    (∀ run picks, (s.assembly.failurePolicy = .isolate →
        ∃ report, document run h.files s.assembly picks files = .ok report) ∧
      ∀ report, document run h.files s.assembly picks files = .ok report →
        ¬ Collide s.output.format report.modules ∧
        ∀ dir fs message, (Output.writeAll s.output.format dir fs report.modules).result ≠
          .error (.outputCollision message)) ∧
    ∀ run picks o message, roots o.paths = [root] →
      (withSettings run h o s picks).failure ≠ some (.outputCollision message) := by
  intro files
  obtain ⟨a, ha⟩ := Settings.exists_assembler_of_validate hv
  -- the build documents a part of the files, so the argument is made for every part
  have hwrite : ∀ {part : List ModuleFile}, part.Sublist files → ∀ {run picks report},
      document run h.files s.assembly picks part = .ok report →
      ¬ Collide s.output.format report.modules ∧
      ∀ dir fs message, (Output.writeAll s.output.format dir fs report.modules).result ≠
        .error (.outputCollision message) := by
    intro part hpart run picks report hd
    have hn : ¬ Collide s.output.format report.modules :=
      document_not_collide ha s.output.format
        (fun m hm => below_of_mem_modules hs hroot (hpart.subset hm))
        ((nodup_modules hs hroot).sublist (hpart.map _)) hd
    refine ⟨hn, fun dir fs message he => hn ?_⟩
    exact (Output.writeAll_course _ dir fs report.modules).collision_iff.mp ⟨message, he⟩
  refine ⟨modules_increasing hs hroot, nodup_modules hs hroot,
    fun m hm => entry?_of_mem_modules hs hroot hm, fun run picks => ⟨fun hp => ?_, fun report hd =>
      hwrite (.refl _) hd⟩, fun run picks o message ho hf => ?_⟩
  · exact ⟨_, document_eq ha hp run h.files picks files⟩
  · have hexpand : expand h s root = .ok (files.filter fun m =>
        !isInside h.files (outputPlace? h.files s) m.path) := by
      rw [expand, if_pos (Files.isDirectory_iff.mpr ⟨place, hroot⟩)]
    rcases failure_withSettings (collect_single ho hexpand) hf with hd | ⟨report, hd, hw⟩
    · obtain ⟨path, fault, he⟩ := acquisition_of_document_eq_error ha hd
      cases he
    · exact (hwrite List.filter_sublist hd).2 _ _ message hw

/-- Files called like the index, of which the one with an extension is a module. -/
def indexLike : Host where
  files := workTree
    [(["w", "_index"], .file "[]".toUTF8), (["w", "_index.json"], .file "[]".toUTF8)]
  home := "/"

theorem indexLike_sound : indexLike.files.Sound := by
  refine ⟨⟨by decide, Disk.rooted_of_entries ?_, by decide, by decide⟩, rfl⟩
  simp [indexLike, workTree, Disk.entry?]

/-- A directory with a module called like the index. -/
theorem singleRoot_never_collides_indexLike :
    let s : Settings := plainSettings "docs"
    indexLike.files.Sound ∧ indexLike.files.entry? "." = some (["w"], .directory) ∧
    s.validate = .ok s ∧
    ⟨"./_index.json", "_index.json"⟩ ∈ Scan.modules indexLike "." s.analysis ∧
    ∀ run picks message,
      (withSettings run indexLike {} s picks).failure ≠ some (.outputCollision message) := by
  intro s
  have hs := indexLike_sound
  have hlink := hs.disk.linkFree
  have hroot : indexLike.files.entry? "." = some (["w"], .directory) :=
    Files.entry?_of_steps hlink (by decide) (by decide) rfl
  have hfile : indexLike.files.entry? "./_index.json" =
      some (["w", "_index.json"], .file "[]".toUTF8) :=
    Files.entry?_of_steps hlink (by decide) (by decide) rfl
  have habsolute : indexLike.files.entry? (Path.ofParts true (["w"] ++ ["_index.json"])) =
      some (["w", "_index.json"], .file "[]".toUTF8) :=
    Files.entry?_of_steps hlink (by decide) (by decide) rfl
  have habsent : Ignore.Absent indexLike.files := by
    unfold Ignore.Absent
    decide
  have hmem : ["_index.json"] ∈ Scan.files indexLike "." := by
    refine (Scan.mem_files_iff_of_absent habsent hs hroot).mpr ⟨⟨_, rfl⟩, ?_⟩
    simp only [Scan.fileSize?, habsolute, Option.isSome_some]
  have hwants : Scan.wants s.analysis indexLike.files ⟨"./_index.json", "_index.json"⟩ = true := by
    simp only [Scan.wants, hfile]
    rfl
  obtain ⟨-, -, -, -, hbuild⟩ := singleRoot_never_collides (s := s) hs hroot rfl
  refine ⟨hs, hroot, rfl, mem_modules_iff.mpr ⟨⟨_, hmem, by decide⟩, hwants⟩, ?_⟩
  exact fun run picks message => hbuild run picks {} message rfl

end Build

end ModuleDocs
