import ModuleDocs.Proofs.Placement

/-!
# Proofs — Files of the index

An entry of the index names the file of its record with slashes in place of backslashes.  A
backslash is an ordinary character of a name, so the two texts differ where a name has one, and then
the entry leads elsewhere.

* `slashed_eq_self_iff`, `backslash_mem_target_iff`: the text is unchanged exactly if the path of
  the module has no backslash.
* `descend_place`: the names of the place to which a way leads are names on the way, apart from
  those of the place where it starts.
* `index_points_at_files`: an entry leads to the file of its record exactly if the path of the
  record has no backslash, and such entries name different files.
-/

namespace ModuleDocs

/-! ### Characters of texts -/

theorem Text.mem_intercalate_iff {c : Char} (hc : c ≠ '/') {l : List String} :
    c ∈ ("/".intercalate l).toList ↔ ∃ name ∈ l, c ∈ name.toList := by
  induction l with
  | nil => simp
  | cons name rest ih =>
      cases rest with
      | nil => simp
      | cons next rest =>
          rw [String.intercalate_cons_cons, String.toList_append, String.toList_append,
            List.mem_append, List.mem_append, ih, List.exists_mem_cons_iff]
          simp [hc]

theorem Text.mem_iff_of_split {c : Char} (hc : c ≠ '/') {s : String} :
    c ∈ s.toList ↔ ∃ part ∈ split '/' s, c ∈ part.toList := by
  conv_lhs => rw [← intercalate_split s]
  exact mem_intercalate_iff hc

/-! ### Places of ways -/

namespace Disk

variable {d : Disk} {p q : Place} {names : List String} {found : Found}

/-- A way adds names of its own only. -/
theorem descend_place {good : String → Prop} (k : Nat) (h : d.descend p names = .ok found)
    (hn : ∀ name ∈ names, good name) (hp : ∀ name ∈ p.drop k, good name) :
    ∀ name ∈ found.place.drop k, good name := by
  have hdown : ∀ {p : Place} {name : String}, (∀ n ∈ p.drop k, good n) → good name →
      ∀ n ∈ (p ++ [name]).drop k, good n := by
    intro p name hp hname n hmem
    rw [List.drop_append, List.mem_append] at hmem
    rcases hmem with hmem | hmem
    · exact hp n hmem
    · exact List.mem_singleton.mp (List.mem_of_mem_drop hmem) ▸ hname
  induction names generalizing p with
  | nil =>
      cases h
      exact hp
  | cons name rest ih =>
      obtain ⟨hname, hrest⟩ := List.forall_mem_cons.mp hn
      rcases descend_cons_eq_ok h with ⟨p', hp', h'⟩ | ⟨-, -, -, -, hplace, -, -⟩
      · refine ih h' hrest ?_
        cases hp' with
        | here => exact hp
        | up => exact fun n hmem => hp n (((List.dropLast_sublist p).drop k).subset hmem)
        | down => exact hdown hp hname
      · rw [hplace]
        exact hdown hp hname

end Disk

namespace Files

variable {fs : Files} {dir s : String} {q : Place} {found : Disk.Found} {follow : Bool}

/-- What is looked up below a directory is at a place with no name that is not in the text, apart
from the names of the directory. -/
theorem place_of_find_join {c : Char} (hc : c ≠ '/') (hdot : c ≠ '.') (h : fs.disk.LinkFree)
    (hq : fs.LeadsTo dir q) (hs : c ∉ s.toList)
    (hf : fs.find follow (Path.join dir s) = .ok found) :
    ∀ name ∈ found.place.drop q.length, c ∉ name.toList := by
  have hnames : ∀ name ∈ Path.names s, c ∉ name.toList := fun name hmem hcn =>
    hs ((Text.mem_iff_of_split hc).mpr ⟨name, (List.mem_filter.mp hmem).1, hcn⟩)
  have hsteps : ∀ (path : String), ∃ l, (∀ name ∈ l, c ∉ name.toList) ∧
      Disk.steps path = Path.names path ++ l := by
    intro path
    refine ⟨_, fun name hmem => ?_, rfl⟩
    split at hmem
    · rw [List.mem_singleton.mp hmem]
      simpa using hdot
    · cases hmem
  obtain ⟨-, -, hd⟩ := (find_eq_ok_iff h).mp hf
  obtain ⟨l, hl, hsteps⟩ := hsteps (Path.join dir s)
  rw [hsteps] at hd
  by_cases ha : Path.isAbsolute s = true
  · have hjoin : Path.join dir s = s := by simp [Path.join, ha]
    rw [hjoin, start, if_pos ha] at hd
    refine Disk.descend_place q.length hd (fun name hmem => ?_) (by simp)
    exact (List.mem_append.mp hmem).elim (hnames name) (hl name)
  · rw [Bool.not_eq_true] at ha
    have hstart : fs.start (Path.join dir s) = fs.start dir := by
      rw [start, start, Path.isAbsolute_join_of_relative dir ha]
    rw [hstart, Path.names_join_of_relative dir ha, List.append_assoc, Disk.descend_append hq] at hd
    refine Disk.descend_place q.length hd (fun name hmem => ?_) (by simp)
    exact (List.mem_append.mp hmem).elim (hnames name) (hl name)

end Files

/-! ### Backslashes -/

namespace Path

/-- With slashes written, no backslash is left. -/
theorem backslash_notMem_slashed (s : String) : '\\' ∉ (slashed s).toList := by
  rw [slashed, String.toList_ofList, List.mem_map]
  rintro ⟨c, -, hc⟩
  split at hc
  · cases hc
  · exact absurd hc ‹_›

/-- A path without backslashes stays as it is, and no other does. -/
theorem slashed_eq_self_iff {s : String} : slashed s = s ↔ '\\' ∉ s.toList := by
  constructor
  · intro h
    rw [← h]
    exact backslash_notMem_slashed s
  · intro h
    rw [← String.toList_inj, slashed, String.toList_ofList]
    refine (List.map_congr_left fun c hc => ?_).trans (List.map_id s.toList)
    have hne : c ≠ '\\' := by
      rintro rfl
      exact h hc
    exact if_neg hne

end Path

namespace Output

theorem backslash_mem_fileName_iff {f : OutputFormat} {stem : String} :
    '\\' ∈ (f.fileName stem).toList ↔ '\\' ∈ stem.toList := by
  rw [fileName_toList, List.mem_append, or_iff_left]
  cases f <;> decide

/-- **The file of a module has a backslash in its name exactly if the module's path has one.** -/
theorem backslash_mem_target_iff {f : OutputFormat} {path : String} :
    '\\' ∈ (target f path).toList ↔ '\\' ∈ path.toList := by
  have hpath : '\\' ∈ path.toList ↔ ∃ name ∈ Path.normalNames path, '\\' ∈ name.toList := by
    rw [Text.mem_iff_of_split (by decide)]
    refine exists_congr fun name => ?_
    rw [Path.normalNames, List.mem_filter, and_assoc]
    refine and_congr_right fun _ => (and_iff_right_of_imp fun hmem => ?_).symm
    refine Path.isNormal_iff.mpr ⟨?_, ?_, ?_⟩ <;>
      · rintro rfl
        exact absurd hmem (by decide)
  rw [target, Text.mem_intercalate_iff (by decide), hpath]
  unfold targetNames
  split
  case h_1 hnil => cases f <;> simp [hnil] <;> decide
  case h_2 names hne =>
    obtain ⟨front, last, hlast⟩ :=
      List.eq_nil_or_concat' (Path.normalNames path) |>.resolve_left hne
    rw [hlast, onLast_concat]
    simp [or_and_right, exists_or, backslash_mem_fileName_iff]

/-! ### Entries and files -/

section

variable {f : OutputFormat} {dir : String} {fs fs' : Files} {records : List ModuleDoc}
  {entries : List IndexEntry} {q : Place}

/-- The index names the file that was written exactly if no backslash stands in the path. -/
theorem entry_file_eq_target_iff {r : ModuleDoc} :
    (entry r (target f r.path)).file = target f r.path ↔ '\\' ∉ r.path.toList := by
  rw [← backslash_mem_target_iff.not]
  exact Path.slashed_eq_self_iff

/-- The entries of modules without a backslash in their paths name different files. -/
theorem nodup_files (h : ¬ Collide f records) :
    (((index (planned f records)).filter fun e => '\\' ∉ e.path.toList).map
      IndexEntry.file).Nodup := by
  have hperm := ((index_perm f records).filter fun e => decide ('\\' ∉ e.path.toList)).map
    IndexEntry.file
  rw [hperm.nodup_iff, List.filter_map, List.map_map]
  have hfile : ∀ r ∈ records.filter ((fun e => decide ('\\' ∉ e.path.toList)) ∘
      fun r => entry r (target f r.path)),
      (IndexEntry.file ∘ fun r => entry r (target f r.path)) r = target f r.path := fun r hr =>
    entry_file_eq_target_iff.mpr (of_decide_eq_true (List.mem_filter.mp hr).2)
  rw [List.map_congr_left hfile]
  exact (not_collide_iff.mp h).1.sublist (List.filter_sublist.map _)

/-- **An entry leads to the file of its record exactly if the record's path has no backslash.** -/
theorem Placed.find_entry_iff (h : Placed f dir records entries q fs fs') {r : ModuleDoc}
    (hr : r ∈ records) :
    fs'.find true (Path.join dir (entry r (target f r.path)).file) =
        .ok (.entry (q ++ targetNames f r.path) (.file (recordBytes f r))) ↔
      '\\' ∉ r.path.toList := by
  constructor
  · intro hf
    have hl := targetNames_leadsDown f r.path
    obtain ⟨p, hp, hplace, -⟩ := (Files.find_join_eq_ok_iff h.keeps.linkFree hl).mp (h.record r hr)
    obtain rfl : q = p := List.append_cancel_right hplace
    have hnames := Files.place_of_find_join (by decide) (by decide) h.keeps.linkFree hp.leadsTo
      (Path.backslash_notMem_slashed (target f r.path)) hf
    rw [← backslash_mem_target_iff.not, target, Text.mem_intercalate_iff (by decide)]
    rintro ⟨name, hmem, hname⟩
    refine hnames name ?_ hname
    rwa [Disk.Found.place, List.drop_left]
  · intro hpath
    rw [entry_file_eq_target_iff.mpr hpath]
    exact h.record r hr

/-- **Where the index points.**  Every entry comes from a record and names the file of that record,
with slashes in place of backslashes.  So it leads to the file that was written for the record
exactly if the record's path has no backslash, and the entries of such records name different
files. -/
theorem index_points_at_files (h : fs.disk.LinkFree)
    (hok : (writeAll f dir fs records).result = .ok entries) :
    (∀ e ∈ entries, ∃ r ∈ records, e.name = r.name ∧ e.path = r.path ∧
      e.file = Path.slashed (target f r.path) ∧
      ∃ place, (writeAll f dir fs records).files.find true (Path.join dir (target f r.path)) =
          .ok (.entry place (.file (f.print r.toValue).toUTF8)) ∧
        ((writeAll f dir fs records).files.find true (Path.join dir e.file) =
          .ok (.entry place (.file (f.print r.toValue).toUTF8)) ↔ '\\' ∉ e.path.toList)) ∧
    ((entries.filter fun e => '\\' ∉ e.path.toList).map IndexEntry.file).Nodup := by
  have hcourse := writeAll_course f dir fs records
  rw [hok] at hcourse
  obtain ⟨q, hplaced⟩ := hcourse.exists_placed h
  obtain rfl := hcourse.entries_eq
  refine ⟨fun e he => ?_, nodup_files hcourse.not_collide⟩
  obtain ⟨r, hr, rfl⟩ := List.mem_map.mp ((index_perm f records).mem_iff.mp he)
  exact ⟨r, hr, rfl, rfl, rfl, _, hplaced.record r hr, hplaced.find_entry_iff hr⟩

/-- Two records in one directory, each found through its entry. -/
theorem index_points_at_files_below :
    let records : List ModuleDoc := [{ path := "lib/b.js" }, { path := "lib/a.js" }]
    ({ } : Files).disk.LinkFree ∧
    (writeAll .json "out" {} records).result = .ok (index (planned .json records)) ∧
    ∀ e ∈ index (planned .json records), ∃ r ∈ records, e.path = r.path ∧ ∃ place,
      (writeAll .json "out" {} records).files.find true (Path.join "out" e.file) =
        .ok (.entry place (.file (Json.print r.toValue).toUTF8)) := by
  intro records
  have hlink : ({ } : Files).disk.LinkFree := by decide
  have hready : Ready .json "out" {} records := ready_out (by decide)
  have hok := writeAll_of_apart hready (not_collide_iff.mpr ⟨by decide, by decide⟩) (by decide)
  refine ⟨hlink, hok, fun e he => ?_⟩
  obtain ⟨r, hr, -, hpath, -, place, -, hfind⟩ := (index_points_at_files hlink hok).1 e he
  have hnone : ∀ r ∈ records, '\\' ∉ r.path.toList := by decide
  exact ⟨r, hr, hpath, place, hfind.mpr (hpath ▸ hnone r hr)⟩

/-- A name with a backslash: the entry names a file that has not been written. -/
theorem entry_elsewhere_of_backslash :
    let r : ModuleDoc := { name := "b", path := "a\\b.js" }
    (writeAll .json "out" {} [r]).result = .ok [entry r "a\\b.js.json"] ∧
    (entry r "a\\b.js.json").file = "a/b.js.json" ∧
    ∀ place content, (writeAll .json "out" {} [r]).files.find true "out/a/b.js.json" ≠
      .ok (.entry place (.file content)) := by
  intro r
  have hready : Ready .json "out" {} [r] := ready_out (by decide)
  have hok := writeAll_of_apart hready (not_collide_iff.mpr ⟨by decide, by decide⟩) (by decide)
  have hcourse := writeAll_course .json "out" {} [r]
  rw [hok] at hcourse
  obtain ⟨q, hplaced⟩ := hcourse.exists_placed hready.linkFree
  have hindex : index (planned .json [r]) = [entry r "a\\b.js.json"] := by
    have htarget : target .json r.path = "a\\b.js.json" := by decide
    rw [index, planned, List.map_singleton, List.map_singleton, List.mergeSort_singleton, htarget]
  have hfile : Path.slashed "a\\b.js.json" = "a/b.js.json" := by decide
  refine ⟨hindex ▸ hok, hfile, fun place content hf => ?_⟩
  rw [show "out/a/b.js.json" = Path.join "out" ("/".intercalate ["a", "b.js.json"]) by decide,
    Files.find_join_eq_ok_iff hplaced.keeps.linkFree (by decide)] at hf
  obtain ⟨p, hp, -, hentry⟩ := hf
  obtain ⟨p', hp', hplace', -⟩ := (Files.find_join_eq_ok_iff hplaced.keeps.linkFree
    (targetNames_leadsDown .json r.path)).mp (hplaced.record r List.mem_cons_self)
  obtain rfl : p = p' := hp.leadsTo.unique hp'.leadsTo
  obtain rfl : q = p := List.append_cancel_right hplace'
  have hne : ∀ s ∈ [r], q ++ ["a", "b.js.json"] ≠ q ++ targetNames .json s.path := by
    intro s hs
    rw [List.mem_singleton.mp hs, ne_eq, List.append_right_inj]
    decide
  -- beside the two files only directories have come to a tree that was empty
  rcases hplaced.others (q ++ ["a", "b.js.json"]) (by simp) hne with e | ⟨-, hd⟩
  · rw [e] at hentry
    simp [Disk.Found.entry?, Disk.entry?] at hentry
  · cases hentry.trans hd

end

end Output

end ModuleDocs
