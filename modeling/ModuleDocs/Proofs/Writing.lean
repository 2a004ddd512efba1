import ModuleDocs.Proofs.Sorting
import ModuleDocs.Proofs.Targets

/-!
# Proofs — Writing

Writing goes through a plan, the output directory, the records and the index, and stops at the first
of them that fails (`Course`).

* `writeFile_wrote`: what one successful write does to the tree.
* `writeRecords_wrote`: records whose files differ are written each to its own place below the
  output directory, and nothing else is.
* `Placed`: every record stands in its file and the index in its own, and no other file differs.
-/

namespace ModuleDocs.Output

open Files (Keeps Grew Wrote WroteAll Reaches)

variable {f : OutputFormat} {dir text : String} {fs fs' : Files} {records : List ModuleDoc}
  {names : List String}

/-! ### One file -/

/-- A file is written by making its directories first. -/
theorem writeFile_eq_ok {path : String} (h : writeFile fs path text = (fs', .ok ())) :
    ∃ fs₁, fs.createDirectories ((Path.parent? path).getD "") = (fs₁, .ok ()) ∧
      fs₁.writeText path text = .ok fs' := by
  unfold writeFile at h
  split at h
  · cases h
  · rename_i fs₁ hc
    split at h
    · rename_i fs₂ hw
      cases h
      exact ⟨fs₁, hc, hw⟩
    · cases h

/-- **What one write does.** -/
theorem writeFile_wrote (h : fs.disk.LinkFree) (hl : Path.LeadsDown names)
    (hw : writeFile fs (Path.join dir ("/".intercalate names)) text = (fs', .ok ())) :
    ∃ q, fs'.Reaches dir q names ∧ Wrote fs fs' (q ++ names) text.toUTF8 := by
  obtain ⟨fs₁, hc, hw⟩ := writeFile_eq_ok hw
  have hg : Grew fs fs₁ := by
    have hg := Files.createDirectories_grew h ((Path.parent? (Path.join dir
      ("/".intercalate names))).getD "")
    rwa [hc] at hg
  obtain ⟨q, hr, hw⟩ := Files.write_join_wrote hg.linkFree hl hw
  exact ⟨q, hw.keeps.reaches hr, hg.wrote hw⟩

/-- Whatever comes of a write, every directory stays. -/
theorem writeFile_keeps (h : fs.disk.LinkFree) (dir text : String) (hl : Path.LeadsDown names) :
    Keeps fs (writeFile fs (Path.join dir ("/".intercalate names)) text).1 := by
  have hg := Files.createDirectories_grew h ((Path.parent? (Path.join dir
    ("/".intercalate names))).getD "")
  unfold writeFile
  split
  · rename_i fs₁ e hc
    rw [hc] at hg
    exact hg.keeps
  · rename_i fs₁ hc
    rw [hc] at hg
    split
    · rename_i fs₂ hw
      obtain ⟨q, -, hw⟩ := Files.write_join_wrote hg.linkFree hl hw
      exact hg.keeps.trans hw.keeps
    · exact hg.keeps

/-! ### All records -/

/-- Each record with its file. -/
def planned (f : OutputFormat) (records : List ModuleDoc) : List (ModuleDoc × String) :=
  records.map fun r => (r, target f r.path)

/-- The bytes of a record's file. -/
def recordBytes (f : OutputFormat) (r : ModuleDoc) : ByteArray := (f.print r.toValue).toUTF8

/-- The first file that cannot be written ends the writing. -/
theorem writeRecords_cons_of_error {r : ModuleDoc} {e : FileFault}
    (h : writeFile fs (Path.join dir (target f r.path)) (f.print r.toValue) = (fs', .error e)) :
    writeRecords f dir fs (planned f (r :: records)) =
      { files := fs', result := .error (ofFault e) } := by
  rw [planned, List.map_cons, writeRecords, h, afterWrite]

/-- A file that has been written is followed by the others. -/
theorem writeRecords_cons_of_ok {r : ModuleDoc}
    (h : writeFile fs (Path.join dir (target f r.path)) (f.print r.toValue) = (fs', .ok ())) :
    writeRecords f dir fs (planned f (r :: records)) =
      { writeRecords f dir fs' (planned f records) with
        events := .debug ("Wrote " ++ Path.join dir (target f r.path)) ::
          (writeRecords f dir fs' (planned f records)).events } := by
  rw [planned, List.map_cons, writeRecords, h, afterWrite]
  rfl

/-- **Records with different files are written each to its own place** below the output directory,
and nothing but directories beside them. -/
theorem writeRecords_wrote (h : fs.disk.LinkFree)
    (hn : (records.map fun r => targetNames f r.path).Nodup)
    (hr : (writeRecords f dir fs (planned f records)).result = .ok ()) :
    ∃ q, (∀ r ∈ records, (writeRecords f dir fs (planned f records)).files.Reaches dir q
        (targetNames f r.path)) ∧
      WroteAll fs (writeRecords f dir fs (planned f records)).files
        (records.map fun r => (q ++ targetNames f r.path, recordBytes f r)) := by
  induction records generalizing fs with
  | nil => exact ⟨[], nofun, .nil h⟩
  | cons r records ih =>
      obtain ⟨fs₁, hw⟩ : ∃ fs₁, writeFile fs (Path.join dir (target f r.path))
          (f.print r.toValue) = (fs₁, .ok ()) := by
        cases hw : writeFile fs (Path.join dir (target f r.path)) (f.print r.toValue) with
        | mk fs₁ result =>
            cases result with
            | ok => exact ⟨fs₁, rfl⟩
            | error e =>
                rw [writeRecords_cons_of_error hw] at hr
                cases hr
      rw [writeRecords_cons_of_ok hw] at hr ⊢
      obtain ⟨q, hq, hw⟩ := writeFile_wrote h (targetNames_leadsDown f r.path) hw
      rw [List.map_cons, List.nodup_cons] at hn
      obtain ⟨q', hq', ha⟩ := ih hw.linkFree hn.2 hr
      -- the directory is at one place throughout, so that the places of all files are below it
      have hplace : ∀ s ∈ records, q' = q := fun s hs =>
        (hq' s hs).leadsTo.unique (ha.keeps.leadsTo hq.leadsTo)
      have hsame : (records.map fun s => (q' ++ targetNames f s.path, recordBytes f s)) =
          records.map fun s => (q ++ targetNames f s.path, recordBytes f s) :=
        List.map_congr_left fun s hs => by rw [hplace s hs]
      rw [hsame] at ha
      refine ⟨q, List.forall_mem_cons.mpr ⟨ha.keeps.reaches hq, fun s hs => ?_⟩, .cons hw ha ?_⟩
      · exact hplace s hs ▸ hq' s hs
      · intro w hmem e
        obtain ⟨s, hs, rfl⟩ := List.mem_map.mp hmem
        exact hn.1 (List.mem_map.mpr ⟨s, hs, (List.append_cancel_left e).symm⟩)

/-- Whatever comes of writing records, every directory stays. -/
theorem writeRecords_keeps (h : fs.disk.LinkFree) :
    Keeps fs (writeRecords f dir fs (planned f records)).files := by
  induction records generalizing fs with
  | nil => exact .refl h
  | cons r records ih =>
      have hk := writeFile_keeps h dir (f.print r.toValue) (targetNames_leadsDown f r.path)
      rw [← target] at hk
      cases hw : writeFile fs (Path.join dir (target f r.path)) (f.print r.toValue) with
      | mk fs₁ result =>
          rw [hw] at hk
          cases result with
          | ok =>
              rw [writeRecords_cons_of_ok hw]
              exact hk.trans (ih hk.linkFree)
          | error e =>
              rw [writeRecords_cons_of_error hw]
              exact hk

/-! ### The whole course -/

/-- The bytes of the file of an index. -/
def indexBytes (f : OutputFormat) (entries : List IndexEntry) : ByteArray :=
  (f.print (.list (entries.map IndexEntry.toValue))).toUTF8

/-- How writing can go, with the tree and the result that it ends with. -/
inductive Course (f : OutputFormat) (dir : String) (fs : Files) (records : List ModuleDoc) :
    Files → Except Failure (List IndexEntry) → Prop where
  | collision {e : Failure} (h : planAll f records = .error e) :
      Course f dir fs records fs (.error e)
  | directory {fs₁ : Files} {e : FileFault} (hn : ¬ Collide f records)
      (hd : fs.createDirectories dir = (fs₁, .error e)) :
      Course f dir fs records fs₁ (.error (ofFault e))
  | record {fs₁ : Files} {e : Failure} (hn : ¬ Collide f records)
      (hd : fs.createDirectories dir = (fs₁, .ok ()))
      (hr : (writeRecords f dir fs₁ (planned f records)).result = .error e) :
      Course f dir fs records (writeRecords f dir fs₁ (planned f records)).files (.error e)
  | index {fs₁ : Files} {e : FileFault} (hn : ¬ Collide f records)
      (hd : fs.createDirectories dir = (fs₁, .ok ()))
      (hr : (writeRecords f dir fs₁ (planned f records)).result = .ok ())
      (hi : (writeRecords f dir fs₁ (planned f records)).files.write
        (Path.join dir (indexTarget f)) (indexBytes f (index (planned f records))) = .error e) :
      Course f dir fs records (writeRecords f dir fs₁ (planned f records)).files
        (.error (ofFault e))
  | done {fs₁ fs₂ : Files} (hn : ¬ Collide f records)
      (hd : fs.createDirectories dir = (fs₁, .ok ()))
      (hr : (writeRecords f dir fs₁ (planned f records)).result = .ok ())
      (hi : (writeRecords f dir fs₁ (planned f records)).files.write
        (Path.join dir (indexTarget f)) (indexBytes f (index (planned f records))) = .ok fs₂) :
      Course f dir fs records fs₂ (.ok (index (planned f records)))

/-- **Writing takes its course,** whatever it meets. -/
theorem writeAll_course (f : OutputFormat) (dir : String) (fs : Files) (records : List ModuleDoc) :
    Course f dir fs records (writeAll f dir fs records).files
      (writeAll f dir fs records).result := by
  unfold writeAll
  split
  · rename_i e hp
    exact .collision hp
  · rename_i p hp
    obtain ⟨rfl, hn⟩ := planAll_eq_ok_iff.mp hp
    split
    · rename_i fs₁ e hd
      exact .directory hn hd
    · rename_i fs₁ hd
      dsimp only
      split
      · rename_i e hr
        exact .record hn hd hr
      · rename_i hr
        split
        · rename_i fs₂ hi
          exact .done hn hd hr hi
        · rename_i e hi
          exact .index hn hd hr hi

/-- A record that cannot be written is a fault of the files. -/
theorem exists_of_writeRecords_eq_error {e : Failure}
    (h : (writeRecords f dir fs (planned f records)).result = .error e) :
    ∃ fault : FileFault, e = ofFault fault := by
  induction records generalizing fs with
  | nil => cases h
  | cons r records ih =>
      cases hw : writeFile fs (Path.join dir (target f r.path)) (f.print r.toValue) with
      | mk fs₁ result =>
          cases result with
          | ok =>
              rw [writeRecords_cons_of_ok hw] at h
              exact ih h
          | error fault =>
              rw [writeRecords_cons_of_error hw] at h
              exact ⟨fault, (Except.error.inj h).symm⟩

/-- **Only a collision is reported as one,** and every collision is. -/
theorem Course.collision_iff {result : Except Failure (List IndexEntry)}
    (h : Course f dir fs records fs' result) :
    (∃ message, result = .error (.outputCollision message)) ↔ Collide f records := by
  cases h with
  | collision hp =>
      obtain ⟨hc, _, _, _, _, _, _, _, rfl⟩ := exists_of_planAll_eq_error hp
      exact ⟨fun _ => hc, fun _ => ⟨_, rfl⟩⟩
  | directory hn hd => exact ⟨fun ⟨_, e⟩ => (nomatch e), fun hc => absurd hc hn⟩
  | record hn hd hr =>
      obtain ⟨fault, rfl⟩ := exists_of_writeRecords_eq_error hr
      exact ⟨fun ⟨_, e⟩ => (nomatch e), fun hc => absurd hc hn⟩
  | index hn hd hr hi => exact ⟨fun ⟨_, e⟩ => (nomatch e), fun hc => absurd hc hn⟩
  | done hn hd hr hi => exact ⟨fun ⟨_, e⟩ => (nomatch e), fun hc => absurd hc hn⟩

/-- Where files collide nothing is written. -/
theorem Course.of_collide {result : Except Failure (List IndexEntry)}
    (h : Course f dir fs records fs' result) (hc : Collide f records) :
    fs' = fs ∧ ∃ e, planAll f records = .error e ∧ result = .error e := by
  cases h with
  | collision hp => exact ⟨rfl, _, hp, rfl⟩
  | directory hn => exact absurd hc hn
  | record hn => exact absurd hc hn
  | index hn => exact absurd hc hn
  | done hn => exact absurd hc hn

/-- The index has an entry for each record, by path. -/
theorem index_sortedBy (f : OutputFormat) (records : List ModuleDoc) :
    SortedBy IndexEntry.path (records.map fun r => entry r (target f r.path))
      (index (planned f records)) := by
  have hmap : ((planned f records).map fun p => entry p.1 p.2) =
      records.map fun r => entry r (target f r.path) := List.map_map
  rw [← hmap]
  exact sortBy_sortedBy IndexEntry.path _

/-- The index has an entry for each record. -/
theorem index_perm (f : OutputFormat) (records : List ModuleDoc) :
    (index (planned f records)).Perm (records.map fun r => entry r (target f r.path)) := by
  rw [sortedBy_iff.mp (index_sortedBy f records)]
  exact sortBy_perm IndexEntry.path _

/-- Writing that ends well had no collision. -/
theorem Course.not_collide {entries : List IndexEntry}
    (h : Course f dir fs records fs' (.ok entries)) : ¬ Collide f records := by
  cases h with
  | done hn => exact hn

theorem Course.entries_eq {entries : List IndexEntry}
    (h : Course f dir fs records fs' (.ok entries)) :
    entries = Output.index (planned f records) := by
  cases h
  rfl

/-! ### Where everything is -/

/-- Every record stands in its file below the output directory and the index in its own, and new
directories are all else that has come to the tree. -/
structure Placed (f : OutputFormat) (dir : String) (records : List ModuleDoc)
    (entries : List IndexEntry) (q : Place) (fs fs' : Files) : Prop where
  keeps : Keeps fs fs'
  record : ∀ r ∈ records, fs'.find true (Path.join dir (target f r.path)) =
    .ok (.entry (q ++ targetNames f r.path) (.file (recordBytes f r)))
  index : fs'.find true (Path.join dir (indexTarget f)) =
    .ok (.entry (q ++ [indexTarget f]) (.file (indexBytes f entries)))
  others : ∀ p, p ≠ q ++ [indexTarget f] → (∀ r ∈ records, p ≠ q ++ targetNames f r.path) →
    Entry.SameOrNew (fs.disk.entry? p) (fs'.disk.entry? p)

/-- **If writing comes to its end, everything is in its place.** -/
theorem Course.exists_placed (h : fs.disk.LinkFree) {entries : List IndexEntry}
    (hc : Course f dir fs records fs' (.ok entries)) :
    ∃ q, Placed f dir records entries q fs fs' := by
  cases hc with
  | done hn hd hr hi =>
      rename_i fs₁
      have hg : Grew fs fs₁ := by
        have hg := Files.createDirectories_grew h dir
        rwa [hd] at hg
      obtain ⟨hnd, hindex⟩ := not_collide_iff.mp hn
      have hnd' : (records.map fun r => targetNames f r.path).Nodup :=
        List.Nodup.of_map ("/".intercalate ·) (by rwa [List.map_map])
      obtain ⟨q', hq', ha⟩ := writeRecords_wrote hg.linkFree hnd' hr
      rw [← intercalate_indexTarget] at hi
      obtain ⟨q, hq, hw⟩ := Files.write_join_wrote ha.keeps.linkFree (indexTarget_leadsDown f) hi
      have hplace : ∀ r ∈ records, q' = q := fun r hmem =>
        (hq' r hmem).leadsTo.unique hq.leadsTo
      refine ⟨q, (hg.keeps.trans ha.keeps).trans hw.keeps, fun r hmem => ?_, ?_, fun p hp hpr => ?_⟩
      · have hne : q ++ targetNames f r.path ≠ q ++ [indexTarget f] := fun e =>
          hindex r hmem (target_eq_indexTarget_iff.mpr (List.append_cancel_left e))
        have hfile := ha.file (q' ++ targetNames f r.path, recordBytes f r)
          (List.mem_map.mpr ⟨r, hmem, rfl⟩)
        rw [hplace r hmem] at hfile
        exact (hw.keeps.reaches (hplace r hmem ▸ hq' r hmem)).find hw.linkFree
          (targetNames_leadsDown f r.path) ((hw.others _ hne).file hfile)
      · rw [← intercalate_indexTarget]
        exact (hw.keeps.reaches hq).find hw.linkFree (indexTarget_leadsDown f) hw.file
      · refine ((hg.entry? p).trans (ha.others p ?_)).trans (hw.others p hp)
        intro w hmem e
        obtain ⟨r, hr, rfl⟩ := List.mem_map.mp hmem
        exact hpr r hr (e.trans (by rw [hplace r hr]))

end ModuleDocs.Output
