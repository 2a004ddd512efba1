import ModuleDocs.Proofs.Scanning

/-!
# Proofs — Steady scans

Files that come to a directory leave a scan of what is outside as it was, since none of them says
what to leave out.

* `Ignore.rules_of_filled`: filling a directory leaves the ignore files as they are.
* `Ignore.Undisturbed`: no repository comes to be outside the directory, so that the same ignore
  files hold there.
* `Scan.Steady`: filling a directory does not change what a scan gives outside of it.
* `Scan.steady_of_undisturbed`: it does not if the ignore files that hold outside stay the same
  ones.
* `Ignore.Absent`: a tree without ignore files, in which a scan gives every file.
-/

namespace ModuleDocs

/-! ### Ignore files in a tree that is filled -/

namespace Path

variable {path s : String} {p l : List String}

/-- The path is absolute and has the given names. -/
def Spells (path : String) (p : List String) : Prop := isAbsolute path = true ∧ names path = p

theorem spells_ofParts (h : AreNames p) : Spells (ofParts true p) p :=
  ⟨isAbsolute_ofParts h true, names_ofParts h true⟩

/-- A relative path below a place spells the place below it. -/
theorem Spells.join (h : Spells path p) (hs : isAbsolute s = false) (hl : names s = l) :
    Spells (join path s) (p ++ l) :=
  ⟨(isAbsolute_join_of_relative path hs).trans h.1, by rw [names_join_of_relative path hs, h.2, hl]⟩

/-- A path without dots spells one place, whatever the working directory is. -/
theorem Spells.spelled (h : Spells path p) (hn : ∀ name ∈ p, isNormal name = true) (fs : Files) :
    fs.spelled path = p ∧ ".." ∉ names path := by
  have hdots : p.filter (· ≠ ".") = p := by
    rw [List.filter_eq_self]
    intro name hmem
    simpa using (isNormal_iff.mp (hn name hmem)).2.1
  refine ⟨?_, fun hmem => ?_⟩
  · rw [Files.spelled, Files.start, if_pos h.1, down, h.2, hdots, List.nil_append]
  · exact (isNormal_iff.mp (hn _ (h.2 ▸ hmem))).2.2 rfl

end Path

namespace Ignore

open Files (Filled)

variable {fs fs' : Files} {out p : Place} {path : String}

/-- The rules of a file depend on its content only. -/
theorem rules_congr (h : ∀ content, fs'.read path = .ok content ↔ fs.read path = .ok content) :
    rules fs' path = rules fs path := by
  unfold rules
  cases hr : fs.read path with
  | ok content => rw [(h content).mpr hr]
  | error e =>
      cases hr' : fs'.read path with
      | ok content => exact absurd ((h content).mp hr') (by rw [hr]; exact nofun)
      | error e' => rfl

/-- **Filling a directory leaves the ignore files as they are.** -/
theorem rules_of_filled (h : fs.Sound) (hf : Filled out fs fs') (hup : ".." ∉ Path.names path)
    {name : String} (hlast : (fs.spelled path).getLast? = some name) (hname : name ∈ fileNames) :
    rules fs' path = rules fs path := by
  refine rules_congr fun content => ?_
  rw [Files.read_eq_ok_iff, Files.read_eq_ok_iff]
  exact exists_congr fun q => Files.entry?_iff_of_same h hf.sound hf.workDir hup
    ((hf.entry? _).file_iff_of_mem hlast hname)

/-- Writing the output leaves the rules of every file of rules. -/
theorem rules_of_spells (h : fs.Sound) (hf : Filled out fs fs') {l : List String}
    (hs : Path.Spells path l) (hn : ∀ name ∈ l, Path.isNormal name = true) {name : String}
    (hlast : l.getLast? = some name) (hname : name ∈ fileNames) :
    rules fs' path = rules fs path := by
  obtain ⟨he, hup⟩ := hs.spelled hn fs
  exact rules_of_filled h hf hup (he ▸ hlast) hname

/-- No repository comes to be on the way to a place, and every repository keeps its own files in
its directory. -/
structure Undisturbed (fs : Files) (out : Place) : Prop where
  noNew : ∀ p, p ++ [".git"] <+: out → fs.disk.entry? (p ++ [".git"]) ≠ none
  noFile : ∀ p content, fs.disk.entry? (p ++ [".git"]) ≠ some (.file content)

namespace Undisturbed

variable (hu : Undisturbed fs out) (h : fs.Sound) (hf : Filled out fs fs')

include hu hf

/-- Outside the output, a directory is the top of a repository after writing as before. -/
theorem entry?_git (hout : ¬ out <+: p) :
    fs'.disk.entry? (p ++ [".git"]) = fs.disk.entry? (p ++ [".git"]) := by
  have hcases := hf.entry? (p ++ [".git"])
  generalize hb : fs.disk.entry? (p ++ [".git"]) = before at hcases ⊢
  generalize fs'.disk.entry? (p ++ [".git"]) = after at hcases ⊢
  cases hcases with
  | same => rfl
  | directory hnear =>
      refine absurd hb (hu.noNew p (hnear.resolve_right fun hpre => ?_))
      rcases List.prefix_concat_iff.mp hpre with rfl | hpre
      · exact hu.noNew p (List.prefix_refl _) hb
      · exact hout hpre
  | file _ hn => exact absurd (by decide) (hn ".git" (by simp))

include h

theorem entry?_eq (hs : fs.spelled path = p ++ [".git"]) (hup : ".." ∉ Path.names path)
    (hout : ¬ out <+: p) : fs'.entry? path = fs.entry? path := by
  refine Option.ext fun x => Files.entry?_iff_of_same h hf.sound hf.workDir hup ?_
  rw [hs, hu.entry?_git hf hout]

/-- **Outside the directory that is filled the rules stay the same.** -/
theorem level_eq (hp : fs.disk.entry? p = some .directory) (hout : ¬ out <+: p) :
    Level.read fs' p = Level.read fs p := by
  have hne : fs.disk.entry? p ≠ none := by
    rw [hp]
    exact nofun
  obtain ⟨hnames, hnormal⟩ := h.disk.normal hne
  have hall : ∀ {l : List String}, (∀ name ∈ l, Path.isNormal name = true) →
      ∀ name ∈ p ++ l, Path.isNormal name = true := fun hl =>
    List.forall_mem_append.mpr ⟨hnormal, hl⟩
  have hdir := Path.spells_ofParts hnames
  have hown : rules fs' (Path.join (Path.ofParts true p) ".ignore") =
      rules fs (Path.join (Path.ofParts true p) ".ignore") :=
    rules_of_spells h hf (hdir.join (by decide) rfl) (hall (by decide)) List.getLast?_concat
      (by decide)
  have hshared : rules fs' (Path.join (Path.ofParts true p) ".gitignore") =
      rules fs (Path.join (Path.ofParts true p) ".gitignore") :=
    rules_of_spells h hf (hdir.join (by decide) rfl) (hall (by decide)) List.getLast?_concat
      (by decide)
  have hgit : Path.Spells (Path.join (Path.ofParts true p) ".git") (p ++ [".git"]) :=
    hdir.join (by decide) rfl
  have hhidden : rules fs' (Path.join (Path.join (Path.ofParts true p) ".git") "info/exclude") =
      rules fs (Path.join (Path.join (Path.ofParts true p) ".git") "info/exclude") := by
    have hlast : (p ++ [".git"] ++ ["info", "exclude"]).getLast? = some "exclude" :=
      List.getLast?_append_of_ne_nil _ (by decide)
    refine rules_of_spells h hf (hgit.join (by decide) rfl) ?_ hlast (by decide)
    rw [List.append_assoc]
    exact hall (by decide)
  obtain ⟨hplace, hup⟩ := hgit.spelled (hall (by decide)) fs
  have hentry := hu.entry?_eq h hf hplace hup hout
  have hfile : fs.isFile (Path.join (Path.ofParts true p) ".git") = false := by
    unfold Files.isFile
    split
    · rename_i q content hq
      obtain ⟨-, he⟩ := h.entry?_spelled hup hq
      rw [hplace] at he
      exact absurd he (hu.noFile p content)
    · rfl
  have hfile' : fs'.isFile (Path.join (Path.ofParts true p) ".git") = false := by
    rw [← hfile, Files.isFile, Files.isFile, hentry]
  simp [Level.read, Files.exist, repositoryDir?, hentry, hfile, hfile', hown, hshared, hhidden]

end Undisturbed

end Ignore

namespace Scan

open Ignore (Level Undisturbed)
open Files (Filled)

variable {h : Host} {fs fs' : Files} {out place : Place} {root : String} {found : List String}

/-! ### Scans of a tree that is filled -/

/-- Filling a directory does not change what a scan gives outside of it. -/
def Steady (h : Host) (out : Place) (root : String) : Prop :=
  ∀ fs' place, Filled out h.files fs' → h.files.entry? root = some (place, .directory) →
    ∀ names, ¬ out <+: place ++ names →
      (names ∈ files { h with files := fs' } root ↔ names ∈ files h root)

/-- A file has the same size in two trees in which it is the same. -/
theorem fileSize?_of_same (h : fs.Sound) (h' : fs'.Sound) (hw : fs'.workDir = fs.workDir)
    {p : Place} {e : Entry} (he : fs.disk.entry? p = some e) (he' : fs'.disk.entry? p = some e) :
    fileSize? fs' p = fileSize? fs p := by
  have hne : fs.disk.entry? p ≠ none := by
    rw [he]
    exact nofun
  obtain ⟨hnames, hnormal⟩ := h.disk.normal hne
  obtain ⟨hplace, hup⟩ := (Path.spells_ofParts hnames).spelled hnormal fs
  have hentry : fs'.entry? (Path.ofParts true p) = fs.entry? (Path.ofParts true p) := by
    refine Option.ext fun x => Files.entry?_iff_of_same h h' hw hup ?_
    rw [hplace, he, he']
  rw [fileSize?, fileSize?, hentry]

/-- A walk finds files only. -/
theorem file_of_mem_walk {seen : List String → List String} {n : Nat} {scope : Ignore.Scope}
    {names : List String} (h : fs.disk.LinkFree) (hmem : found ∈ walk fs seen place n scope names) :
    ∃ content, fs.disk.entry? (place ++ found) = some (.file content) := by
  obtain ⟨-, hne, hdir, -⟩ := of_mem_walk hmem
  obtain ⟨e, he⟩ := Option.ne_none_iff_exists'.mp hne
  cases e with
  | file content => exact ⟨content, he⟩
  | directory => exact absurd he hdir
  | link target => exact absurd (h.isLink_eq he) Bool.noConfusion

/-- A file outside the directory that is filled is given before if and only if it is given after. -/
theorem mem_walk_iff_of_filled (hu : Undisturbed fs out) (h : fs.Sound) (hf : Filled out fs fs')
    (hout : ¬ out <+: place ++ found) (seen : List String → List String) (scope : Ignore.Scope) :
    found ∈ walk fs' seen place (fs'.disk.entries.length + 1) scope [] ↔
      found ∈ walk fs seen place (fs.disk.entries.length + 1) scope [] := by
  by_cases hfile : ∃ content, fs.disk.entry? (place ++ found) = some (.file content)
  · obtain ⟨content, he⟩ := hfile
    have he' := ((hf.entry? _).file_iff hout).mpr he
    have hne : fs.disk.entry? (place ++ found) ≠ none := by
      rw [he]
      exact nofun
    have hne' : fs'.disk.entry? (place ++ found) ≠ none := by
      rw [he']
      exact nofun
    have hpre : ∀ {l}, l <+: found → place ++ l <+: place ++ found := fun hl =>
      (List.prefix_append_right_inj place).mpr hl
    have hdir : ∀ {l}, l <+: found → l ≠ found →
        fs.disk.entry? (place ++ l) = some .directory := fun hl hlf =>
      h.disk.rooted.of_prefix hne (hpre hl) fun e => hlf (List.append_cancel_left e)
    have hentry : ∀ l, l <+: found →
        fs'.disk.entry? (place ++ l) = fs.disk.entry? (place ++ l) := by
      intro l hl
      by_cases hlf : l = found
      · rw [hlf, he, he']
      · rw [hdir hl hlf]
        exact hf.keeps.directories _ (hdir hl hlf)
    have hlevel : ∀ l, l <+: found → l ≠ found →
        Level.read fs' (place ++ l) = Level.read fs (place ++ l) := fun l hl hlf =>
      hu.level_eq h hf (hdir hl hlf) fun hpl => hout (hpl.trans (hpre hl))
    have hsize := fileSize?_of_same h hf.sound hf.workDir he he'
    -- a tree has as many entries as there are names on the way to a file, so that both scans go
    -- deep enough
    have hlen := h.disk.rooted.length_le hne
    have hlen' := hf.sound.disk.rooted.length_le hne'
    rw [List.length_append] at hlen hlen'
    constructor
    · intro hmem
      refine mem_walk_of_same (fun l hl => (hentry l hl).symm)
        (fun l hl hlf => (hlevel l hl hlf).symm) hsize.symm hmem ?_
      simp only [List.length_nil]
      omega
    · intro hmem
      refine mem_walk_of_same hentry hlevel hsize hmem ?_
      simp only [List.length_nil]
      omega
  · have hfile' : ¬ ∃ content, fs'.disk.entry? (place ++ found) = some (.file content) := by
      simpa only [(hf.entry? _).file_iff hout] using hfile
    exact iff_of_false (fun hmem => hfile' (file_of_mem_walk hf.sound.disk.linkFree hmem))
      fun hmem => hfile (file_of_mem_walk h.disk.linkFree hmem)

/-- Around a place outside the output the same rules are in force after writing it. -/
theorem around_of_filled (hu : Undisturbed fs out) (h : fs.Sound) (hf : Filled out fs fs')
    (hp : fs.disk.entry? place = some .directory) (hout : ¬ out <+: place)
    (everywhere : List Ignore.Rule) :
    Ignore.Scope.around fs' everywhere place = Ignore.Scope.around fs everywhere place := by
  have hlevels : ∀ n ∈ (List.range place.length).reverse,
      Level.read fs' (place.take n) = Level.read fs (place.take n) := by
    intro n hn
    rw [List.mem_reverse, List.mem_range] at hn
    refine hu.level_eq h hf ?_ fun hpre => hout (hpre.trans (List.take_prefix _ _))
    refine h.disk.rooted.of_prefix ?_ (List.take_prefix n place) fun e => ?_
    · rw [hp]
      exact nofun
    · have := congrArg List.length e
      rw [List.length_take] at this
      omega
  rw [Ignore.Scope.around, Ignore.Scope.around, List.map_congr_left hlevels]

/-- **Scans are steady** as long as no repository comes to be outside the directory. -/
theorem steady_of_undisturbed (hu : Undisturbed h.files out) (hs : h.files.Sound)
    (hup : ".." ∉ Path.names (everywhereFile h)) (root : String) : Steady h out root := by
  intro fs' place hf hroot names hout
  have hroot' := hf.keeps.entry?_directory hs.disk.linkFree hroot
  have hplace : h.files.disk.entry? place = some .directory :=
    hs.entry?_of_find (Files.entry?_eq_some_iff.mp hroot)
  have houtp : ¬ out <+: place := fun hpre => hout (hpre.trans (List.prefix_append _ _))
  have heverywhere : Ignore.rules fs' (everywhereFile h) =
      Ignore.rules h.files (everywhereFile h) := by
    have hlast : (h.files.spelled (everywhereFile h)).getLast? = some "ignore" := by
      unfold everywhereFile
      rw [Files.spelled, Path.down, Path.names_join_of_relative _ (by decide),
        show Path.names "git/ignore" = ["git", "ignore"] by decide, List.filter_append,
        ← List.append_assoc]
      exact List.getLast?_append_of_ne_nil _ (by decide)
    exact Ignore.rules_of_filled hs hf hup hlast (by decide)
  have hseen : seenNames fs' root = seenNames h.files root := by
    unfold seenNames
    rw [hf.workDir]
  have hafter : files { h with files := fs' } root =
      walk fs' (seenNames h.files root) place (fs'.disk.entries.length + 1)
        (.around h.files (Ignore.rules h.files (everywhereFile h)) place) [] := by
    rw [← hseen, ← around_of_filled hu hs hf hplace houtp, ← heverywhere]
    simp only [files, hroot']
    rfl
  have hbefore : files h root =
      walk h.files (seenNames h.files root) place (h.files.disk.entries.length + 1)
        (.around h.files (Ignore.rules h.files (everywhereFile h)) place) [] := by
    simp only [files, hroot]
  rw [hafter, hbefore]
  exact mem_walk_iff_of_filled hu hs hf hout _ _

end Scan

/-! ### Trees without ignore files -/

namespace Ignore

variable {fs : Files} {p : Place} {path : String}

/-- Nothing goes by the name of an ignore file. -/
def Absent (fs : Files) : Prop :=
  ∀ e ∈ fs.disk.entries, ∀ name ∈ e.1.getLast?, name ∉ fileNames

/-- Where files of rules are absent none is found. -/
theorem Absent.entry?_eq_none (ha : Absent fs) (h : fs.Sound) (hup : ".." ∉ Path.names path)
    {name : String} (hlast : (fs.spelled path).getLast? = some name) (hname : name ∈ fileNames) :
    fs.entry? path = none := by
  by_contra hne
  obtain ⟨⟨q, e⟩, hq⟩ := Option.ne_none_iff_exists'.mp hne
  obtain ⟨rfl, he⟩ := h.entry?_spelled hup hq
  have hnil : fs.spelled path ≠ [] := by
    intro hnil
    rw [hnil] at hlast
    cases hlast
  exact ha _ (Disk.mem_entries hnil he) name hlast hname

/-- Without files of rules no output disturbs a scan. -/
theorem Absent.undisturbed (ha : Absent fs) {out : Place} (hout : ".git" ∉ out) :
    Undisturbed fs out where
  noNew p hp := absurd (hp.subset (List.mem_append_right p List.mem_cons_self)) hout
  noFile p content he := by
    have hmem := Disk.mem_entries (by simp) he
    exact ha _ hmem ".git" List.getLast?_concat (by decide)

/-- No rule holds in the scope. -/
def Scope.Silent (s : Scope) : Prop := ∀ l ∈ s.levels, l.isRepository = false ∧ l.own = []

/-- Without rules there is no verdict. -/
theorem Scope.Silent.verdict?_eq_none {s : Scope} (hs : s.Silent) (place : Place)
    (names : List String) (isDirectory : Bool) : s.verdict? place names isDirectory = none := by
  have hrepository : s.levels.any (·.isRepository) = false := by
    rw [List.any_eq_false]
    exact fun l hl => by simp [(hs l hl).1]
  rw [Scope.verdict?, if_neg (by simp [hrepository]), List.findSome?_eq_none_iff]
  intro l hl
  rw [Level.verdict?, (hs l hl).2]
  rfl

/-- No rules come in on the way down. -/
theorem Absent.silent_enter (ha : Absent fs) (h : fs.Sound)
    (hp : fs.disk.entry? p = some .directory) {s : Scope} (hs : s.Silent) :
    (s.enter fs p).Silent := by
  have hne : fs.disk.entry? p ≠ none := by
    rw [hp]
    exact nofun
  obtain ⟨hnames, hnormal⟩ := h.disk.normal hne
  have hnone : ∀ name ∈ fileNames, Path.isAbsolute name = false → Path.names name = [name] →
      Path.isNormal name = true →
      fs.entry? (Path.join (Path.ofParts true p) name) = none := by
    intro name hname hrel hself hn
    obtain ⟨hplace, hup⟩ := ((Path.spells_ofParts hnames).join hrel hself).spelled
      (List.forall_mem_append.mpr ⟨hnormal, by simpa using hn⟩) fs
    refine ha.entry?_eq_none h hup ?_ hname
    rw [hplace, List.getLast?_concat]
  refine List.forall_mem_cons.mpr ⟨⟨?_, ?_⟩, hs⟩
  · show (fs.entry? (Path.join (Path.ofParts true p) ".git")).isSome = false
    rw [hnone ".git" (by decide) (by decide) (by decide) (by decide)]
    rfl
  · show rules fs (Path.join (Path.ofParts true p) ".ignore") = []
    unfold rules
    cases hr : fs.read (Path.join (Path.ofParts true p) ".ignore") with
    | error e => rfl
    | ok content =>
        obtain ⟨q, hq⟩ := Files.read_eq_ok_iff.mp hr
        rw [hnone ".ignore" (by decide) (by decide) (by decide) (by decide)] at hq
        cases hq

/-- There are no rules around a place, either. -/
theorem Absent.silent_around (ha : Absent fs) (h : fs.Sound)
    (hp : fs.disk.entry? p = some .directory) (everywhere : List Rule) :
    (Scope.around fs everywhere p).Silent := by
  intro l hl
  obtain ⟨n, -, rfl⟩ := List.mem_map.mp hl
  have hdir : fs.disk.entry? (p.take n) = some .directory := by
    by_cases hpn : p.take n = p
    · rwa [hpn]
    · exact h.disk.rooted.of_prefix (by rw [hp]; exact nofun) (List.take_prefix n p) hpn
  have hnone : (⟨[], everywhere⟩ : Scope).Silent := nofun
  exact ha.silent_enter h hdir hnone _ List.mem_cons_self

end Ignore

namespace Scan

open Ignore (Absent)

variable {h : Host} {fs : Files} {place : Place} {root : String} {names : List String}

/-- **Without files of rules every file is found.** -/
theorem mem_walk_of_absent (ha : Absent fs) (hs : fs.Sound) (seen : List String → List String)
    {content : ByteArray} (he : fs.disk.entry? (place ++ names) = some (.file content))
    (hsize : (fileSize? fs (place ++ names)).isSome = true) {before rest : List String}
    (hsplit : names = before ++ rest) (hne : rest ≠ []) {n : Nat} (hn : rest.length ≤ n)
    {scope : Ignore.Scope} (hscope : scope.Silent) : names ∈ walk fs seen place n scope before := by
  have hthere : fs.disk.entry? (place ++ names) ≠ none := by
    rw [he]
    exact nofun
  have hdir : ∀ l, l <+: names → l ≠ names → fs.disk.entry? (place ++ l) = some .directory :=
    fun l hl hln => hs.disk.rooted.of_prefix hthere ((List.prefix_append_right_inj place).mpr hl)
      fun e => hln (List.append_cancel_left e)
  -- along the names, with the scope of each directory that is entered
  induction rest generalizing before n scope with
  | nil => exact absurd rfl hne
  | cons name rest ih =>
      rw [List.length_cons] at hn
      obtain ⟨n, rfl⟩ : ∃ k, n = k + 1 := ⟨n - 1, by omega⟩
      have henter := ha.silent_enter hs (hdir before ⟨_, hsplit.symm⟩ (by simp [hsplit])) hscope
      by_cases hrest : rest = []
      · subst hrest
        refine mem_walk_succ_iff.mpr ⟨name, ?_, mem_walkName_iff.mpr ⟨?_, .inr ⟨?_, ?_, hsplit⟩⟩⟩
        · rwa [List.append_assoc, ← hsplit]
        · rw [henter.verdict?_eq_none]
          exact nofun
        · rw [← hsplit, Bool.eq_false_iff, ne_eq, isDirectoryAt_eq_true, he]
          exact nofun
        · rwa [← hsplit]
      · have hnext := hdir (before ++ [name]) ⟨rest, by simp [hsplit]⟩
          (by simp [hsplit, Ne.symm hrest])
        refine mem_walk_succ_iff.mpr ⟨name, ?_, mem_walkName_iff.mpr
          ⟨?_, .inl ⟨isDirectoryAt_eq_true.mpr hnext, ih (by simp [hsplit]) hrest ?_ henter⟩⟩⟩
        · rw [List.append_assoc, hnext]
          exact nofun
        · rw [henter.verdict?_eq_none]
          exact nofun
        · omega

/-- **Without ignore files a scan gives every file** that has a path. -/
theorem mem_files_iff_of_absent (ha : Absent h.files) (hs : h.files.Sound)
    (hroot : h.files.entry? root = some (place, .directory)) : names ∈ files h root ↔
      (∃ content, h.files.disk.entry? (place ++ names) = some (.file content)) ∧
        (fileSize? h.files (place ++ names)).isSome = true := by
  have hplace : h.files.disk.entry? place = some .directory :=
    hs.entry?_of_find (Files.entry?_eq_some_iff.mp hroot)
  simp only [files, hroot]
  constructor
  · intro hmem
    exact ⟨file_of_mem_walk hs.disk.linkFree hmem, (of_mem_walk hmem).2.2.2⟩
  · rintro ⟨⟨content, he⟩, hsize⟩
    have hne : names ≠ [] := by
      rintro rfl
      rw [List.append_nil, hplace] at he
      cases he
    have hlen := hs.disk.rooted.length_le (p := place ++ names) (by rw [he]; exact nofun)
    rw [List.length_append] at hlen
    exact mem_walk_of_absent ha hs _ he hsize rfl hne (by omega)
      (ha.silent_around hs hplace _)

end Scan

end ModuleDocs
