import ModuleDocs.Proofs.Determinism
import ModuleDocs.Proofs.SteadyScans

/-!
# Proofs — Collecting

The module files of a build, before and after the output directory has been filled.  Before, the
directory may not be there, so that nothing is left out for lying in it; after, its files are left
out.  The files that remain are the same ones, since none can lie in a directory that is not there.

* `fileAt_path`: the path of a scanned file is the root joined with the names of the file.
* `entry?_fileAt_iff`: a scanned file outside the directory that is filled stays the same.
* `mem_kept_iff`: which files are module files, said of places.
* `collect_of_filled`: filling the output directory does not change the module files of a build,
  nor what is read from them.
-/

namespace ModuleDocs

/-! ### Paths of scanned files -/

namespace Path

variable {root name : String} {names : List String}

/-- Each of the names leads down by itself. -/
theorem LeadsDown.of_mem {n : String} (h : LeadsDown names) (hn : n ∈ names) : LeadsDown [n] :=
  ⟨by simp, by simpa using h.normal n hn, by simpa using h.noSlash n hn⟩

/-- A path that is joined name by name. -/
theorem join_join (h : LeadsDown [name]) {s : String} (hs : isAbsolute s = false) :
    join (join root name) s = join root (name ++ "/" ++ s) := by
  have hname : isAbsolute name = false := by
    simpa using h.areNames.isAbsolute_intercalate
  have hne : name ≠ "" := h.areNames.ne_empty name List.mem_cons_self
  have hlong : isAbsolute (name ++ "/" ++ s) = false := by
    rw [String.append_assoc, isAbsolute_append hne, hname]
  have hend : (join root name).toList.getLast? ≠ some '/' := by
    simpa using getLast?_join root h
  have hjoin : join root name ≠ "" := by
    simpa using join_ne_empty root h
  rw [join_of_relative _ hs, if_neg hjoin, if_neg hend, join_of_relative root hname,
    join_of_relative root hlong]
  split
  · rfl
  · split <;> simp only [String.append_assoc]

/-- Joining the names one by one gives the path of all of them. -/
theorem foldl_join (h : LeadsDown names) :
    names.foldl join root = join root ("/".intercalate names) := by
  induction names generalizing root with
  | nil => exact absurd rfl h.ne_nil
  | cons name rest ih =>
      by_cases hrest : rest = []
      · subst hrest
        simp
      · obtain ⟨next, rest, rfl⟩ := List.exists_cons_of_ne_nil hrest
        have htail := h.tail hrest
        rw [List.foldl_cons, ih htail,
          join_join (h.of_mem List.mem_cons_self) htail.areNames.isAbsolute_intercalate,
          String.intercalate_cons_cons]

end Path

namespace Files

variable {fs fs' : Files} {path dir : String} {q : Place}

/-- A path that finds a directory leads to it. -/
theorem leadsTo_of_directory (h : fs.disk.LinkFree) (hf : fs.entry? path = some (q, .directory)) :
    fs.LeadsTo path q := by
  obtain ⟨-, -, hd⟩ := (find_eq_ok_iff h).mp (entry?_eq_some_iff.mp hf)
  unfold Disk.steps at hd
  split at hd
  · obtain ⟨q', hq'⟩ := Disk.exists_directory_of_descend hd (by simp)
    rw [Disk.descend_append hq'] at hd
    cases hd
    exact hq'
  · rwa [List.append_nil] at hd

/-- A usable path that leads to a directory finds it. -/
theorem entry?_of_leadsTo (h : fs.disk.LinkFree) (hne : path ≠ "") (hu : Usable path)
    (hl : fs.LeadsTo path q) : fs.entry? path = some (q, .directory) := by
  rw [entry?_eq_some_iff, find_eq_ok_iff h]
  refine ⟨hne, hu, ?_⟩
  rw [Disk.steps, Disk.descend_append hl]
  split <;> rfl

theorem isDirectory_iff :
    fs.isDirectory path = true ↔ ∃ q, fs.entry? path = some (q, .directory) := by
  unfold isDirectory
  split
  case h_1 h => simp [h]
  case h_2 h => simpa using fun q hq => h q hq

end Files

namespace Build

open Files (Filled)
open Scan (fileAt wants)

variable {h : Host} {s : Settings} {fs fs' : Files} {out place : Place} {root : String}
  {names : List String} {m : ModuleFile}

/-- The path of a scanned file is its names below the root. -/
theorem fileAt_path (hl : Path.LeadsDown names) :
    (fileAt root names).path = Path.join root ("/".intercalate names) :=
  Path.foldl_join hl

/-- A scan finds files only, and leads down to each of them from the root. -/
theorem leadsDown_of_mem_files (hs : h.files.Sound)
    (hroot : h.files.entry? root = some (place, .directory)) (hn : names ∈ Scan.files h root) :
    Path.LeadsDown names ∧
      ∃ content, h.files.disk.entry? (place ++ names) = some (.file content) := by
  simp only [Scan.files, hroot] at hn
  obtain ⟨content, he⟩ := Scan.file_of_mem_walk hs.disk.linkFree hn
  obtain ⟨⟨name, rest, hnames⟩, -⟩ := Scan.of_mem_walk hn
  have hne : place ++ names ≠ [] := by simp [hnames]
  have hl := hs.disk.leadsDown _ (Disk.mem_entries hne he)
  refine ⟨⟨by simp [hnames], fun n hn => ?_, fun n hn => ?_⟩, content, he⟩
  · exact hl.normal n (List.mem_append_right place hn)
  · exact hl.noSlash n (List.mem_append_right place hn)

/-- What the path of a scanned file leads to is the file. -/
theorem entry?_fileAt (hs : fs.Sound) (hroot : fs.entry? root = some (place, .directory))
    (hl : Path.LeadsDown names) {q : Place} {e : Entry}
    (he : fs.entry? (fileAt root names).path = some (q, e)) :
    q = place ++ names ∧ fs.disk.entry? q = some e := by
  rw [fileAt_path hl, Files.entry?_eq_some_iff] at he
  have hentry := hs.entry?_of_find he
  obtain ⟨p, hr, hplace, -⟩ := (Files.find_join_eq_ok_iff hs.disk.linkFree hl).mp he
  obtain rfl := hr.leadsTo.unique (Files.leadsTo_of_directory hs.disk.linkFree hroot)
  exact ⟨hplace, hentry⟩

/-- **A scanned file outside the directory that is filled stays the same.** -/
theorem entry?_fileAt_iff (hs : fs.Sound) (hf : Filled out fs fs')
    (hroot : fs.entry? root = some (place, .directory)) (hl : Path.LeadsDown names)
    (hout : ¬ out <+: place ++ names) {q : Place} {content : ByteArray} :
    fs'.entry? (fileAt root names).path = some (q, .file content) ↔
      fs.entry? (fileAt root names).path = some (q, .file content) := by
  have hroot' := hf.keeps.entry?_directory hs.disk.linkFree hroot
  have hsame : fs'.disk.entry? (place ++ names) = some (.file content) ↔
      fs.disk.entry? (place ++ names) = some (.file content) := (hf.entry? _).file_iff hout
  constructor
  · intro he
    obtain ⟨rfl, hfile⟩ := entry?_fileAt hf.sound hroot' hl he
    have hold := hsame.mp hfile
    rw [fileAt_path hl, Files.entry?_eq_some_iff] at he ⊢
    obtain ⟨p, hr, hplace, -⟩ := (Files.find_join_eq_ok_iff hf.sound.disk.linkFree hl).mp he
    have hleads := Files.leadsTo_of_directory hs.disk.linkFree hroot
    have hopen : fs.disk.Open place names := by
      obtain rfl := hr.leadsTo.unique (Files.leadsTo_of_directory hf.sound.disk.linkFree hroot')
      refine ⟨hr.isOpen.short, fun l hl _ hne => ?_⟩
      refine hs.disk.rooted.of_prefix (by rw [hold]; exact nofun)
        ((List.prefix_append_right_inj p).mpr hl) fun e => hne (List.append_cancel_left e)
    exact Files.Reaches.find ⟨hr.usable, hleads, hopen⟩ hs.disk.linkFree hl hold
  · intro he
    obtain ⟨rfl, hfile⟩ := entry?_fileAt hs hroot hl he
    rw [fileAt_path hl, Files.entry?_eq_some_iff] at he ⊢
    obtain ⟨p, hr, hplace, -⟩ := (Files.find_join_eq_ok_iff hs.disk.linkFree hl).mp he
    obtain rfl := hr.leadsTo.unique (Files.leadsTo_of_directory hs.disk.linkFree hroot)
    exact (hf.keeps.reaches hr).find hf.sound.disk.linkFree hl (hsame.mpr hfile)

/-! ### Files that are kept -/

/-- The settings ask for a file or not by what it holds. -/
theorem wants_congr {a : AnalysisSettings} (he : ∀ q content,
    fs'.entry? m.path = some (q, .file content) ↔ fs.entry? m.path = some (q, .file content)) :
    wants a fs' m = wants a fs m := by
  unfold wants
  congr 1
  split
  case h_1 q content hq => rw [(he q content).mp hq]
  case h_2 hnot =>
    split
    case h_1 q content hq => exact absurd ((he q content).mpr hq) (hnot q content)
    case h_2 => rfl

/-- Only files are asked for. -/
theorem file_of_wants {a : AnalysisSettings} (hw : wants a fs m = true) :
    ∃ q content, fs.entry? m.path = some (q, .file content) := by
  unfold wants at hw
  rw [Bool.and_eq_true] at hw
  have hsize := hw.2
  split at hsize
  case h_1 q content hq => exact ⟨q, content, hq⟩
  case h_2 => cases hsize

/-- The files below a root that are asked for and do not lie in the output directory. -/
def kept (h : Host) (s : Settings) (root : String) : List ModuleFile :=
  (((Scan.files h root).map (fileAt root)).filter (wants s.analysis h.files)).filter
    fun m => !isInside h.files (outputPlace? h.files s) m.path

/-- A directory gives the files that a scan of it keeps, ordered by their paths. -/
theorem expand_eq (hroot : h.files.entry? root = some (place, .directory)) :
    expand h s root = .ok (sortBy ModuleFile.relative (kept h s root)) := by
  rw [expand, if_pos (Files.isDirectory_iff.mpr ⟨place, hroot⟩), kept, ← filter_sortBy]
  rfl

/-- The output directory is at a place, or nothing is. -/
def OutputAt (fs : Files) (s : Settings) (out : Place) : Prop :=
  outputPlace? fs s = some out ∨ outputPlace? fs s = none ∧ fs.disk.entry? out = none

/-- **The files that are kept** are those outside the place of the output directory, whether it is
there or not. -/
theorem mem_kept_iff (hs : h.files.Sound) (hroot : h.files.entry? root = some (place, .directory))
    (hout : OutputAt h.files s out) : m ∈ kept h s root ↔
      ∃ names ∈ Scan.files h root, ¬ out <+: place ++ names ∧
        wants s.analysis h.files (fileAt root names) = true ∧ m = fileAt root names := by
  have hinside : ∀ names ∈ Scan.files h root,
      wants s.analysis h.files (fileAt root names) = true →
      (isInside h.files (outputPlace? h.files s) (fileAt root names).path = false ↔
        ¬ out <+: place ++ names) := by
    intro names hn hw
    obtain ⟨hl, content, hfile⟩ := leadsDown_of_mem_files hs hroot hn
    obtain ⟨q, content', hq⟩ := file_of_wants hw
    obtain ⟨rfl, -⟩ := entry?_fileAt hs hroot hl hq
    rcases hout with ho | ⟨ho, hnone⟩
    · simp only [isInside, ho, hq]
      rw [← List.isPrefixOf_iff_prefix, Bool.not_eq_true]
    · simp only [isInside, ho, true_iff]
      rintro ⟨rest, hrest⟩
      rw [← hrest, hs.disk.rooted.entry?_eq_none hnone] at hfile
      cases hfile
  simp only [kept, List.mem_filter, List.mem_map, Bool.not_eq_true', and_assoc]
  constructor
  · rintro ⟨⟨names, hn, rfl⟩, hw, hi⟩
    exact ⟨names, hn, (hinside names hn hw).mp hi, hw, rfl⟩
  · rintro ⟨names, hn, ho, hw, rfl⟩
    exact ⟨⟨names, hn, rfl⟩, hw, (hinside names hn hw).mpr ho⟩

/-- Two files of one root have different paths. -/
theorem fileAt_injective {names' : List String} (hl : Path.LeadsDown names)
    (hl' : Path.LeadsDown names')
    (he : (fileAt root names).relative = (fileAt root names').relative) : names = names' :=
  hl.intercalate_injective hl' he

/-- The files below a root have different relative paths. -/
theorem nodup_relative (hs : h.files.Sound)
    (hroot : h.files.entry? root = some (place, .directory)) :
    (((Scan.files h root).map (fileAt root)).map (·.relative)).Nodup := by
  have hfiles : (Scan.files h root).Nodup := by
    simp only [Scan.files, hroot]
    exact Scan.nodup_walk hs.disk _ _ _ _ _
  rw [List.map_map]
  refine hfiles.map_on fun a ha b hb hab => ?_
  exact fileAt_injective (leadsDown_of_mem_files hs hroot ha).1
    (leadsDown_of_mem_files hs hroot hb).1 hab

/-- No file is kept twice. -/
theorem nodup_kept (hs : h.files.Sound)
    (hroot : h.files.entry? root = some (place, .directory)) : (kept h s root).Nodup :=
  ((List.Nodup.of_map _ (nodup_relative hs hroot)).filter _).filter _

/-! ### Before and after -/

/-- **Filling the output directory does not change the files that are kept.** -/
theorem mem_kept_of_filled (hs : h.files.Sound) (hf : Filled out h.files fs')
    (hroot : h.files.entry? root = some (place, .directory)) (hsteady : Scan.Steady h out root)
    (hbefore : OutputAt h.files s out) (hafter : OutputAt fs' s out) :
    m ∈ kept { h with files := fs' } s root ↔ m ∈ kept h s root := by
  have hroot' := hf.keeps.entry?_directory hs.disk.linkFree hroot
  rw [mem_kept_iff hs hroot hbefore, mem_kept_iff hf.sound hroot' hafter]
  refine exists_congr fun names => ?_
  constructor
  · rintro ⟨hn, hout, hw, rfl⟩
    have hn' := (hsteady fs' place hf hroot names hout).mp hn
    have hl := (leadsDown_of_mem_files hs hroot hn').1
    have hwants : wants s.analysis fs' (fileAt root names) =
        wants s.analysis h.files (fileAt root names) :=
      wants_congr fun _ _ => entry?_fileAt_iff hs hf hroot hl hout
    exact ⟨hn', hout, hwants ▸ hw, rfl⟩
  · rintro ⟨hn, hout, hw, rfl⟩
    have hl := (leadsDown_of_mem_files hs hroot hn).1
    have hwants : wants s.analysis fs' (fileAt root names) =
        wants s.analysis h.files (fileAt root names) :=
      wants_congr fun _ _ => entry?_fileAt_iff hs hf hroot hl hout
    exact ⟨(hsteady fs' place hf hroot names hout).mpr hn, hout, hwants.symm ▸ hw, rfl⟩

/-- A directory gives the same files after the output has been written. -/
theorem expand_of_filled (hs : h.files.Sound) (hf : Filled out h.files fs')
    (hroot : h.files.entry? root = some (place, .directory)) (hsteady : Scan.Steady h out root)
    (hbefore : OutputAt h.files s out) (hafter : OutputAt fs' s out) :
    expand { h with files := fs' } s root = expand h s root := by
  have hroot' := hf.keeps.entry?_directory hs.disk.linkFree hroot
  have hperm : (kept h s root).Perm (kept { h with files := fs' } s root) :=
    (List.perm_ext_iff_of_nodup (nodup_kept hs hroot) (nodup_kept hf.sound hroot')).mpr fun _ =>
      (mem_kept_of_filled hs hf hroot hsteady hbefore hafter).symm
  rw [expand_eq hroot, expand_eq hroot', sortBy_eq_of_perm hperm]
  intro a ha b hb hab
  obtain ⟨names, hn, -, -, rfl⟩ := (mem_kept_iff hs hroot hbefore).mp ha
  obtain ⟨names', hn', -, -, rfl⟩ := (mem_kept_iff hs hroot hbefore).mp hb
  rw [fileAt_injective (leadsDown_of_mem_files hs hroot hn).1
    (leadsDown_of_mem_files hs hroot hn').1 hab]

/-- A file that is kept is read as before. -/
theorem read_of_mem_kept (hs : h.files.Sound) (hf : Filled out h.files fs')
    (hroot : h.files.entry? root = some (place, .directory)) (hbefore : OutputAt h.files s out)
    (hm : m ∈ kept h s root) : fs'.read m.path = h.files.read m.path := by
  obtain ⟨names, hn, hout, hw, rfl⟩ := (mem_kept_iff hs hroot hbefore).mp hm
  have hl := (leadsDown_of_mem_files hs hroot hn).1
  obtain ⟨q, content, hq⟩ := file_of_wants hw
  rw [Files.read_eq_ok_iff.mpr ⟨q, hq⟩, Files.read_eq_ok_iff]
  exact ⟨q, (entry?_fileAt_iff hs hf hroot hl hout).mpr hq⟩

/-- Only what the function gives on the members of the list counts. -/
theorem mapM_congr {α β : Type} {f g : α → Except Failure β} {l : List α}
    (hfg : ∀ a ∈ l, f a = g a) : l.mapM f = l.mapM g := by
  induction l with
  | nil => rfl
  | cons a l ih =>
      obtain ⟨ha, hl⟩ := List.forall_mem_cons.mp hfg
      rw [List.mapM_cons, List.mapM_cons, ha, ih hl]

/-- What stands in one of the lists was given for some member. -/
theorem mem_of_mapM_eq_ok {α β : Type} {f : α → Except Failure (List β)} {l : List α}
    {ls : List (List β)} (hf : l.mapM f = .ok ls) {b : β} (hb : b ∈ ls.flatten) :
    ∃ a ∈ l, ∃ bs, f a = .ok bs ∧ b ∈ bs := by
  obtain ⟨bs, hbs, hb⟩ := List.mem_flatten.mp hb
  obtain ⟨a, ha, hfa⟩ := exists_of_mapM_eq_ok hf hbs
  exact ⟨a, ha, bs, hfa, hb⟩

/-- A build that starts from one path finds the files that the path stands for. -/
theorem collect_single {paths : List String} {files : List ModuleFile} (hr : roots paths = [root])
    (he : expand h s root = .ok files) : collect h s paths = .ok files := by
  rw [collect, hr, List.mapM_cons, he]
  exact congrArg Except.ok (List.append_nil _)

/-- The roots of a build are directories if all its paths are. -/
theorem exists_place_of_mem_roots {paths : List String}
    (hd : ∀ path ∈ paths, h.files.isDirectory path = true) (hlink : h.files.disk.LinkFree)
    (hr : root ∈ roots paths) : ∃ place, h.files.entry? root = some (place, .directory) := by
  unfold roots at hr
  split at hr
  · obtain rfl := List.mem_singleton.mp hr
    exact ⟨h.files.workDir, Files.entry?_of_steps hlink (by decide) (by decide) rfl⟩
  · exact Files.isDirectory_iff.mp (hd root hr)

/-- **Filling the output directory does not change the module files of a build,** nor what is read
from them. -/
theorem collect_of_filled {paths : List String} (hs : h.files.Sound) (hf : Filled out h.files fs')
    (hd : ∀ path ∈ paths, h.files.isDirectory path = true)
    (hsteady : ∀ root ∈ roots paths, Scan.Steady h out root)
    (hbefore : OutputAt h.files s out) (hafter : OutputAt fs' s out) :
    collect { h with files := fs' } s paths = collect h s paths ∧
      ∀ files, collect h s paths = .ok files → ∀ m ∈ files,
        fs'.read m.path = h.files.read m.path := by
  have hplace := fun root (hr : root ∈ roots paths) =>
    exists_place_of_mem_roots hd hs.disk.linkFree hr
  constructor
  · rw [collect, collect, mapM_congr fun root hr => ?_]
    obtain ⟨place, hroot⟩ := hplace root hr
    exact expand_of_filled hs hf hroot (hsteady root hr) hbefore hafter
  · intro files hc m hm
    unfold collect at hc
    cases hmap : (roots paths).mapM (expand h s) with
    | error e =>
        rw [hmap] at hc
        cases hc
    | ok ls =>
        rw [hmap] at hc
        cases hc
        obtain ⟨root, hr, ms, hms, hmem⟩ := mem_of_mapM_eq_ok hmap hm
        obtain ⟨place, hroot⟩ := hplace root hr
        rw [expand_eq hroot] at hms
        cases hms
        exact read_of_mem_kept hs hf hroot hbefore ((sortBy_perm _ _).mem_iff.mp hmem)

end Build

end ModuleDocs
