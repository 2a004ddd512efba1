import ModuleDocs.Proofs.Placement

/-!
# Proofs — Filling a directory

Writing fills the output directory and leaves the rest of the tree as it was.  A path without `..`
leads only to the place that it spells, so that a new directory is on the way to the output
directory or below it, and a new file is below it.

* `Disk.place_of_descend`: without `..` a way leads to the place that its names spell.
* `Disk.Sound`, `Files.Sound`: trees without links, in which everything stands in a directory under
  a name of its own.
* `Files.Filled`: what may differ after files have come to a directory.
* `createDirectories_filled`, `writeAll_filled`: creating directories and writing records do no
  more, whether they succeed or fail.
-/

namespace ModuleDocs

namespace Path

/-- The names of a path that take one to another place. -/
def down (path : String) : List String := (names path).filter (· ≠ ".")

/-- Without a dot in front, the parts of a path are the names that take one to another place. -/
theorem filter_parts (path : String) : (parts path).filter (· ≠ ".") = down path := by
  rw [parts_eq, down]
  split
  case isTrue hn => rw [hn]
  case isFalse =>
    split
    · rw [List.filter_cons_of_neg (by simp), List.filter_filter]
      simp
    · rw [List.filter_filter]
      simp

/-- A path made of names has these names. -/
theorem names_ofParts {l : List String} (h : AreNames l) (absolute : Bool) :
    names (ofParts absolute l) = l := by
  unfold ofParts
  split
  · have := names_append_slash "" ("/".intercalate l)
    rwa [String.empty_append, h.names_intercalate, show names "" = [] by decide,
      List.nil_append] at this
  · rw [String.empty_append, h.names_intercalate]

theorem isAbsolute_ofParts {l : List String} (h : AreNames l) (absolute : Bool) :
    isAbsolute (ofParts absolute l) = absolute := by
  cases absolute with
  | true => exact isAbsolute_append (show ("/" : String) ≠ "" by decide)
  | false =>
      rw [ofParts, if_neg Bool.false_ne_true, String.empty_append, h.isAbsolute_intercalate]

/-- The path above a path has its names but the last one that matters. -/
theorem parent?_eq_some {path above : String} (h : parent? path = some above) :
    isAbsolute above = isAbsolute path ∧ ∃ last, parts path = names above ++ [last] := by
  unfold parent? at h
  split at h
  · cases h
  · rename_i last before hparts
    cases h
    have heq : parts path = before.reverse ++ [last] := by
      rw [← List.reverse_reverse (parts path), hparts, List.reverse_cons]
    have hnames : AreNames before.reverse := by
      refine ((areNames_names path).of_subset (parts_sublist_names path).subset).of_subset ?_
      rw [heq]
      exact List.subset_append_left _ _
    refine ⟨isAbsolute_ofParts hnames _, last, ?_⟩
    rw [names_ofParts hnames, heq]

end Path

namespace Disk

/-! ### Ways without a step up -/

section

variable {d : Disk} {p q : Place} {name : String} {names : List String} {found : Found} {e : Entry}

/-- **A way without `..` leads to the place that its names spell.** -/
theorem place_of_descend (hup : ".." ∉ names) (h : d.descend p names = .ok found) :
    found.place = p ++ names.filter (· ≠ ".") := by
  induction names generalizing p with
  | nil =>
      cases h
      simp [Found.place]
  | cons name rest ih =>
      rw [List.mem_cons, not_or] at hup
      rcases descend_cons_eq_ok h with ⟨p', hp', h'⟩ | ⟨rfl, hdot, -, -, hplace, -⟩
      · rw [ih hup.2 h']
        cases hp' with
        | here => rw [List.filter_cons_of_neg (by simp)]
        | up => exact absurd rfl hup.1
        | down hdot =>
            rw [List.filter_cons_of_pos (by simpa using hdot), List.append_assoc,
              List.singleton_append]
      · rw [hplace, List.filter_cons_of_pos (by simpa using hdot), List.filter_nil]

/-- Every entry lies in a directory. -/
theorem Rooted.dropLast (h : d.Rooted) (hp : d.entry? p ≠ none) :
    d.entry? p.dropLast = some .directory := by
  rcases List.eq_nil_or_concat' p with rfl | ⟨front, name, rfl⟩
  · exact entry?_nil d
  · rw [List.dropLast_concat]
    exact h front name hp

/-- From a directory a way leads to what stands at its place. -/
theorem entry?_of_descend (h : d.Rooted) (hp : d.entry? p = some .directory)
    (hd : d.descend p names = .ok found) : d.entry? found.place = found.entry? := by
  induction names generalizing p with
  | nil =>
      cases hd
      exact hp
  | cons name rest ih =>
      rcases descend_cons_eq_ok hd with ⟨p', hp', h'⟩ | ⟨-, -, -, -, hplace, hentry, -⟩
      · refine ih ?_ h'
        cases hp' with
        | here => exact hp
        | up => exact h.dropLast (by rw [hp]; exact nofun)
        | down _ _ _ he => exact he
      · rw [hplace, hentry]

/-! ### Sound trees -/

/-- A tree without links in which everything stands in a directory, at a place of its own to which
names lead down. -/
structure Sound (d : Disk) : Prop where
  linkFree : d.LinkFree
  rooted : d.Rooted
  nodup : (d.entries.map Prod.fst).Nodup
  leadsDown : ∀ e ∈ d.entries, Path.LeadsDown e.1

/-- What is found on a disk is one of its entries. -/
theorem mem_entries (hp : p ≠ []) (he : d.entry? p = some e) : (p, e) ∈ d.entries := by
  unfold entry? at he
  rw [if_neg hp] at he
  obtain ⟨l₁, l₂, hl, -⟩ := List.lookup_eq_some_iff.mp he
  rw [hl]
  exact List.mem_append_right l₁ List.mem_cons_self

/-- It is enough to look at the entries to see that everything stands in a directory. -/
theorem rooted_of_entries (h : ∀ x ∈ d.entries, d.entry? x.1.dropLast = some .directory) :
    d.Rooted := by
  intro p name hne
  obtain ⟨e, he⟩ := Option.ne_none_iff_exists'.mp hne
  have hp := h _ (mem_entries (by simp) he)
  rwa [List.dropLast_concat] at hp

/-- A normal name below a directory leads down. -/
theorem Sound.leadsDown_concat (h : d.Sound) (hq : d.entry? q = some .directory)
    (hn : Path.isNormal name = true) (hs : '/' ∉ name.toList) : Path.LeadsDown (q ++ [name]) := by
  by_cases hnil : q = []
  · subst hnil
    exact ⟨by simp, by simpa using hn, by simpa using hs⟩
  · have hl := h.leadsDown _ (mem_entries hnil hq)
    exact ⟨by simp, List.forall_mem_append.mpr ⟨hl.normal, by simpa using hn⟩,
      List.forall_mem_append.mpr ⟨hl.noSlash, by simpa using hs⟩⟩

/-- The names that lead to a directory of a sound tree are normal. -/
theorem Sound.normal (h : d.Sound) (hp : d.entry? p ≠ none) :
    Path.AreNames p ∧ ∀ name ∈ p, Path.isNormal name = true := by
  by_cases hnil : p = []
  · subst hnil
    exact ⟨⟨nofun, nofun⟩, nofun⟩
  · obtain ⟨e, he⟩ := Option.ne_none_iff_exists'.mp hp
    have hl := h.leadsDown _ (mem_entries hnil he)
    exact ⟨hl.areNames, hl.normal⟩

/-- Putting an entry on a disk adds its place, unless it is there. -/
theorem keys_put (d : Disk) (p : Place) (e : Entry) :
    (d.put p e).entries.map Prod.fst = d.entries.map Prod.fst ∨
      p ∉ d.entries.map Prod.fst ∧
        (d.put p e).entries.map Prod.fst = d.entries.map Prod.fst ++ [p] := by
  unfold put
  split
  case isTrue =>
    left
    rw [List.map_map]
    refine List.map_congr_left fun x _ => ?_
    by_cases hx : x.1 = p <;> simp [hx]
  case isFalse ha =>
    right
    refine ⟨fun hmem => ha ?_, by simp⟩
    obtain ⟨x, hx, rfl⟩ := List.mem_map.mp hmem
    exact List.any_eq_true.mpr ⟨x, hx, beq_self_eq_true _⟩

/-- **A tree stays sound** if an entry is put into a directory, and no file in place of one. -/
theorem Sound.put (h : d.Sound) (hl : Path.LeadsDown p)
    (hparent : d.entry? p.dropLast = some .directory) (he : e.isLink = false)
    (hd : d.entry? p = some .directory → e = .directory) : (d.put p e).Sound where
  linkFree := h.linkFree.put p he
  rooted q name hne := by
    rw [entry?_put d hl.ne_nil] at hne ⊢
    by_cases hqp : q = p
    · subst hqp
      rw [if_pos rfl]
      rw [if_neg (by simp)] at hne
      rw [hd (h.rooted q name hne)]
    · rw [if_neg hqp]
      split at hne
      case isTrue hp =>
        rw [← hp, List.dropLast_concat] at hparent
        exact hparent
      case isFalse => exact h.rooted q name hne
  nodup := by
    rcases keys_put d p e with hk | ⟨hp, hk⟩
    · rw [hk]
      exact h.nodup
    · rw [hk]
      exact List.nodup_append.mpr ⟨h.nodup, List.nodup_singleton p, fun a ha b hb => by
        rw [List.mem_singleton.mp hb]
        exact fun hap => hp (hap ▸ ha)⟩
  leadsDown x hx := by
    have hkey : x.1 ∈ (d.put p e).entries.map Prod.fst := List.mem_map.mpr ⟨x, hx, rfl⟩
    have hold : x.1 ∈ d.entries.map Prod.fst → Path.LeadsDown x.1 := fun hmem => by
      obtain ⟨y, hy, hyx⟩ := List.mem_map.mp hmem
      exact hyx ▸ h.leadsDown y hy
    rcases keys_put d p e with hk | ⟨-, hk⟩
    · exact hold (hk ▸ hkey)
    · rw [hk] at hkey
      rcases List.mem_append.mp hkey with hmem | hmem
      · exact hold hmem
      · exact List.mem_singleton.mp hmem ▸ hl

/-- Nothing changes if what stands at a place is put there again. -/
theorem Sound.put_self (h : d.Sound) (hp : p ≠ []) (he : d.entry? p = some e) :
    d.put p e = d := by
  have hmem := mem_entries hp he
  have hany : d.entries.any (·.1 == p) = true :=
    List.any_eq_true.mpr ⟨_, hmem, beq_self_eq_true p⟩
  rw [Disk.put, if_pos hany]
  refine congrArg Disk.mk ((List.map_congr_left fun x hx => ?_).trans (List.map_id _))
  obtain ⟨q, old⟩ := x
  by_cases hq : q = p
  · subst hq
    have := List.inj_on_of_nodup_map h.nodup hx hmem rfl
    simp [this]
  · simp [hq]

end

end Disk

/-! ### What may come to a directory -/

/-- The names under which files are looked for that say what to leave out, or where such files
are. -/
def Ignore.fileNames : List String :=
  [".git", ".ignore", ".gitignore", "commondir", "exclude", "ignore"]

/-- What may have come to a place while a directory was filled: a directory on the way to it or
below it, or a file below it that is no ignore file. -/
inductive Entry.MayBecome (out p : Place) : Option Entry → Option Entry → Prop where
  | same (e : Option Entry) : MayBecome out p e e
  | directory (h : p <+: out ∨ out <+: p) : MayBecome out p none (some .directory)
  | file {before : Option Entry} {content : ByteArray} (h : out <+: p)
      (hn : ∀ name ∈ p.getLast?, name ∉ Ignore.fileNames) (hb : before ≠ some .directory) :
      MayBecome out p before (some (.file content))

namespace Entry.MayBecome

variable {out p : Place} {a b c : Option Entry} {content : ByteArray}

theorem trans (h : MayBecome out p a b) (h' : MayBecome out p b c) : MayBecome out p a c := by
  cases h' with
  | same => exact h
  | directory hp =>
      cases h with
      | same => exact .directory hp
  | file hp hn hb =>
      cases h with
      | same => exact .file hp hn hb
      | directory => exact absurd rfl hb
      | file _ _ hb' => exact .file hp hn hb'

/-- A directory stays one. -/
theorem of_directory (h : MayBecome out p (some .directory) b) : b = some .directory := by
  cases h with
  | same => rfl
  | file _ _ hb => exact absurd rfl hb

/-- Outside the directory files are as they were. -/
theorem file_iff (h : MayBecome out p a b) (hp : ¬ out <+: p) :
    b = some (.file content) ↔ a = some (.file content) := by
  cases h with
  | same => exact Iff.rfl
  | directory => exact ⟨nofun, nofun⟩
  | file hout => exact absurd hout hp

/-- Ignore files are as they were, wherever they are. -/
theorem file_iff_of_mem (h : MayBecome out p a b) {name : String} (hp : p.getLast? = some name)
    (hn : name ∈ Ignore.fileNames) : b = some (.file content) ↔ a = some (.file content) := by
  cases h with
  | same => exact Iff.rfl
  | directory => exact ⟨nofun, nofun⟩
  | file _ hnot => exact absurd hn (hnot name hp)

end Entry.MayBecome

namespace Files

/-- A sound tree seen from one of its directories. -/
structure Sound (fs : Files) : Prop where
  disk : fs.disk.Sound
  workDir : fs.disk.entry? fs.workDir = some .directory

/-- The second tree is the first after files have come to the directory at a place. -/
structure Filled (out : Place) (fs fs' : Files) : Prop where
  workDir : fs'.workDir = fs.workDir
  sound : fs'.Sound
  entry? : ∀ p, Entry.MayBecome out p (fs.disk.entry? p) (fs'.disk.entry? p)

/-- The place that a path spells, if it has no `..`. -/
def spelled (fs : Files) (path : String) : Place := fs.start path ++ Path.down path

section

variable {fs fs' fs'' : Files} {out p q : Place} {path dir name : String} {names : List String}
  {found : Disk.Found} {follow : Bool} {content : ByteArray}

theorem Filled.refl (h : fs.Sound) : Filled out fs fs := ⟨rfl, h, fun _ => .same _⟩

theorem Filled.trans (h : Filled out fs fs') (h' : Filled out fs' fs'') : Filled out fs fs'' where
  workDir := h'.workDir.trans h.workDir
  sound := h'.sound
  entry? p := (h.entry? p).trans (h'.entry? p)

/-- Filling a directory keeps all directories. -/
theorem Filled.keeps (h : Filled out fs fs') : Keeps fs fs' where
  workDir := h.workDir
  linkFree := h.sound.disk.linkFree
  directories p hp := (hp ▸ h.entry? p).of_directory

/-- A path starts where it started. -/
theorem Filled.start_eq (h : Filled out fs fs') (path : String) :
    fs'.start path = fs.start path := by
  rw [start, start, h.workDir]

/-- A path spells what it spelled. -/
theorem Filled.spelled_eq (h : Filled out fs fs') (path : String) :
    fs'.spelled path = fs.spelled path := by
  rw [spelled, spelled, h.start_eq]

/-- Every path starts at a directory. -/
theorem Sound.start (h : fs.Sound) (path : String) :
    fs.disk.entry? (fs.start path) = some .directory := by
  unfold Files.start
  split
  · exact Disk.entry?_nil _
  · exact h.workDir

/-- What a path leads to is what stands there. -/
theorem Sound.entry?_of_find (h : fs.Sound) (hf : fs.find follow path = .ok found) :
    fs.disk.entry? found.place = found.entry? :=
  Disk.entry?_of_descend h.disk.rooted (h.start path) ((find_eq_ok_iff h.disk.linkFree).mp hf).2.2

theorem Sound.entry?_of_leadsTo (h : fs.Sound) (hp : fs.LeadsTo path p) :
    fs.disk.entry? p = some .directory :=
  Disk.entry?_of_descend h.disk.rooted (h.start path) hp

/-- A path without `..` leads to a directory only at the place that it spells. -/
theorem eq_spelled_of_leadsTo (hup : ".." ∉ Path.names path) (hp : fs.LeadsTo path p) :
    p = fs.spelled path :=
  Disk.place_of_descend hup hp

/-! ### New directories -/

/-- The path has no `..`, and the place that it spells is on the way to another or below it. -/
structure Along (fs : Files) (out : Place) (path : String) : Prop where
  noUp : ".." ∉ Path.names path
  near : fs.spelled path <+: out ∨ out <+: fs.spelled path

theorem Along.filled (h : fs.Along out path) (hf : Filled out fs fs') : fs'.Along out path :=
  ⟨h.noUp, by rw [hf.spelled_eq]; exact h.near⟩

/-- The path above a path that goes along goes along. -/
theorem Along.parent (h : fs.Along out path) {above : String}
    (hp : Path.parent? path = some above) : fs.Along out above := by
  obtain ⟨habs, last, hparts⟩ := Path.parent?_eq_some hp
  have hsub : ∀ name ∈ Path.names above, name ∈ Path.names path := fun name hmem =>
    (Path.parts_sublist_names path).subset (hparts ▸ List.mem_append_left _ hmem)
  have hpre : fs.spelled above <+: fs.spelled path := by
    rw [spelled, spelled, start, start, habs, ← Path.filter_parts path, hparts, List.filter_append,
      Path.down]
    exact (List.prefix_append_right_inj _).mpr (List.prefix_append _ _)
  refine ⟨fun hmem => h.noUp (hsub _ hmem), ?_⟩
  rcases h.near with hn | hn
  · exact .inl (hpre.trans hn)
  · exact List.prefix_or_prefix_of_prefix hpre hn

/-- The directories above a path lie along with it. -/
theorem Along.of_mem_lineage (h : fs.Along out path) {n : Nat} {path' : String}
    (hmem : path' ∈ lineage n path) : fs.Along out path' := by
  induction n generalizing path with
  | zero => cases hmem
  | succ n ih =>
      rw [lineage] at hmem
      split at hmem
      · cases hmem
      · split at hmem
        · cases hmem
        · rename_i above habove
          rcases List.mem_cons.mp hmem with rfl | hmem
          · exact h
          · exact ih (h.parent habove) hmem

/-- Putting an entry that may come to its place fills the directory. -/
theorem Sound.filled_put (h : fs.Sound) {e : Entry} (hl : Path.LeadsDown p)
    (hparent : fs.disk.entry? p.dropLast = some .directory) (hlink : e.isLink = false)
    (he : Entry.MayBecome out p (fs.disk.entry? p) (some e)) :
    Filled out fs { fs with disk := fs.disk.put p e } := by
  have hdir : fs.disk.entry? p = some .directory → e = .directory := fun hd => by
    rw [hd] at he
    exact Option.some.inj he.of_directory
  refine ⟨rfl, ⟨h.disk.put hl hparent hlink hdir, ?_⟩, fun q => ?_⟩
  · rw [Disk.entry?_put _ hl.ne_nil]
    split
    case isTrue hp => rw [hdir (hp ▸ h.workDir)]
    case isFalse => exact h.workDir
  · rw [Disk.entry?_put _ hl.ne_nil]
    split
    case isTrue hp => exact hp ▸ he
    case isFalse => exact .same _

theorem isNormal_of_mem_names (hmem : name ∈ Path.names path) (hdot : name ≠ ".")
    (hup : name ≠ "..") : Path.isNormal name = true ∧ '/' ∉ name.toList :=
  ⟨Path.isNormal_iff.mpr ⟨(Path.areNames_names path).ne_empty name hmem, hdot, hup⟩,
    (Path.areNames_names path).noSlash name hmem⟩

/-- A directory made along the way to the output fills it. -/
theorem createDirectory_filled (h : fs.Sound) (ha : fs.Along out path)
    (hc : fs.createDirectory path = .ok fs') : Filled out fs fs' := by
  unfold createDirectory at hc
  split at hc
  · cases hc
  · rename_i q name hf
    cases hc
    have hlink := h.disk.linkFree
    obtain ⟨front, hnames, hfront, hdot, hup, -⟩ :=
      names_of_fresh hlink ((find_eq_ok_iff hlink).mpr ((find_eq_ok_iff hlink).mp hf))
    have hq : fs.disk.entry? q = some .directory :=
      Disk.entry?_of_descend h.disk.rooted (h.start path) hfront
    have hplace : q ++ [name] = fs.spelled path := by
      have hupf : ".." ∉ front := fun hmem => ha.noUp (hnames ▸ List.mem_append_left _ hmem)
      have hqf : q = fs.start path ++ front.filter (· ≠ ".") := Disk.place_of_descend hupf hfront
      rw [spelled, Path.down, hnames, List.filter_append, hqf, List.append_assoc,
        List.filter_cons_of_pos (by simpa using hdot), List.filter_nil]
    have hmem : name ∈ Path.names path := by
      rw [hnames]
      exact List.mem_append_right front List.mem_cons_self
    obtain ⟨hn, hs⟩ := isNormal_of_mem_names hmem hdot hup
    refine h.filled_put (h.disk.leadsDown_concat hq hn hs) (by rwa [List.dropLast_concat]) rfl ?_
    have hnone : fs.disk.entry? (q ++ [name]) = none := h.entry?_of_find hf
    rw [hnone]
    exact .directory (hplace ▸ ha.near)
  · cases hc

/-- So does the lowest of several paths that can be made. -/
theorem createBase_filled (h : fs.Sound) {paths left left' : List String}
    (hp : ∀ path ∈ paths, fs.Along out path) (hl : ∀ path ∈ left, fs.Along out path)
    (hc : fs.createBase left paths = .ok (fs', left')) :
    Filled out fs fs' ∧ ∀ path ∈ left', fs.Along out path := by
  induction paths generalizing left with
  | nil =>
      cases hc
      exact ⟨.refl h, hl⟩
  | cons path above ih =>
      obtain ⟨hpath, habove⟩ := List.forall_mem_cons.mp hp
      rw [createBase] at hc
      split at hc
      · rename_i fs₁ hd
        cases hc
        exact ⟨createDirectory_filled h hpath hd, hl⟩
      · exact ih habove (List.forall_mem_cons.mpr ⟨hpath, hl⟩) hc
      · split at hc
        · cases hc
          exact ⟨.refl h, hl⟩
        · cases hc
      · cases hc

/-- So do all of them. -/
theorem createAll_filled (h : fs.Sound) {paths : List String}
    (hp : ∀ path ∈ paths, fs.Along out path) : Filled out fs (fs.createAll paths).1 := by
  induction paths generalizing fs with
  | nil => exact .refl h
  | cons path rest ih =>
      obtain ⟨hpath, hrest⟩ := List.forall_mem_cons.mp hp
      rw [createAll]
      split
      · rename_i fs₁ hd
        have hf := createDirectory_filled h hpath hd
        exact hf.trans (ih hf.sound fun path hmem => (hrest path hmem).filled hf)
      · split
        · exact ih h hrest
        · exact .refl h

/-- **Creating directories along a way fills it with directories only,** whether it succeeds or
fails. -/
theorem createDirectories_filled (h : fs.Sound) (ha : fs.Along out path) :
    Filled out fs (fs.createDirectories path).1 := by
  unfold createDirectories
  split
  · exact .refl h
  · rename_i fs₁ left hb
    obtain ⟨hf, hleft⟩ := createBase_filled h (fun _ hmem => ha.of_mem_lineage hmem) (by simp) hb
    exact hf.trans (createAll_filled hf.sound fun path hmem => (hleft path hmem).filled hf)

/-! ### New files -/

/-- Writing a file below a directory fills the directory. -/
theorem write_filled (h : fs.Sound) (hup : ".." ∉ Path.names dir) (hl : Path.LeadsDown names)
    (hn : ∀ name ∈ names.getLast?, name ∉ Ignore.fileNames)
    (hw : fs.write (Path.join dir ("/".intercalate names)) content = .ok fs') :
    Filled (fs.spelled dir) fs fs' := by
  obtain ⟨found, hf, hfile, rfl⟩ := write_eq_ok_iff.mp hw
  obtain ⟨q, hr, hplace, hentry⟩ := (find_join_eq_ok_iff h.disk.linkFree hl).mp hf
  obtain rfl : q = fs.spelled dir := eq_spelled_of_leadsTo hup hr.leadsTo
  have hdir := h.entry?_of_leadsTo hr.leadsTo
  have hlast : (fs.spelled dir ++ names).getLast? = names.getLast? :=
    List.getLast?_append_of_ne_nil _ hl.ne_nil
  have hdown : Path.LeadsDown (fs.spelled dir ++ names) := by
    by_cases hnil : fs.spelled dir = []
    · rwa [hnil]
    · have hd := h.disk.leadsDown _ (Disk.mem_entries hnil hdir)
      exact ⟨by simp [hnil], List.forall_mem_append.mpr ⟨hd.normal, hl.normal⟩,
        List.forall_mem_append.mpr ⟨hd.noSlash, hl.noSlash⟩⟩
  rw [hplace]
  refine h.filled_put hdown ?_ rfl (.file (List.prefix_append _ _) (hlast ▸ hn) ?_)
  · obtain ⟨front, last, rfl⟩ := List.eq_nil_or_concat' names |>.resolve_left hl.ne_nil
    rw [← List.append_assoc, List.dropLast_concat]
    by_cases hnil : front = []
    · rwa [hnil, List.append_nil]
    · exact hr.isOpen.directory front (List.prefix_append _ _) hnil (by simp)
  · rw [← hentry]
    intro hd
    obtain ⟨old, ho⟩ := hfile _ hd
    cases ho

/-- The directories on the way to a file below a directory go along. -/
theorem along_below (fs : Files) (hup : ".." ∉ Path.names dir) (hl : Path.LeadsDown names)
    {l : List String} (hp : l <+: names) : fs.Along (fs.spelled dir) (Path.below dir l) where
  noUp := by
    rw [Path.names_below dir hl hp, List.mem_append, not_or]
    refine ⟨fun hmem => hup ((Path.parts_sublist_names dir).subset hmem), fun hmem => ?_⟩
    exact (Path.isNormal_iff.mp (hl.normal _ (hp.subset hmem))).2.2 rfl
  near := by
    right
    have hdown : Path.down (Path.below dir l) = Path.down dir ++ l.filter (· ≠ ".") := by
      rw [Path.down, Path.names_below dir hl hp, List.filter_append, Path.filter_parts]
    rw [spelled, spelled, start, start, Path.isAbsolute_below dir hl hp, hdown, ← List.append_assoc]
    exact List.prefix_append _ _

end

end Files

namespace Output

open Files (Filled)

variable {f : OutputFormat} {dir text : String} {fs fs' : Files} {records : List ModuleDoc}
  {names : List String}

/-- The name of a file with documentation is not that of an ignore file. -/
theorem fileName_notMem_fileNames (f : OutputFormat) (stem : String) :
    f.fileName stem ∉ Ignore.fileNames := by
  have hlast : (f.fileName stem).toList.getLast? = f.name.toList.getLast? := by
    rw [fileName_toList]
    cases f <;> simp [OutputFormat.name]
  have hall : ∀ name ∈ Ignore.fileNames, name.toList.getLast? ≠ f.name.toList.getLast? := by
    cases f <;> decide
  exact fun hmem => hall _ hmem hlast

/-- No written file is one of rules. -/
theorem getLast?_targetNames (f : OutputFormat) (path : String) :
    ∀ name ∈ (targetNames f path).getLast?, name ∉ Ignore.fileNames := by
  have hlast : ∃ front stem, targetNames f path = front ++ [f.fileName stem] := by
    unfold targetNames
    split
    case h_1 => exact ⟨[], "module", rfl⟩
    case h_2 hne =>
      obtain ⟨front, last, hlast⟩ :=
        List.eq_nil_or_concat' (Path.normalNames path) |>.resolve_left hne
      exact ⟨front, last, by rw [hlast, onLast_concat]⟩
  obtain ⟨front, stem, hlast⟩ := hlast
  intro name hmem
  rw [hlast, List.getLast?_concat, Option.mem_some] at hmem
  exact hmem ▸ fileName_notMem_fileNames f stem

/-- **Writing a file below the output directory fills it,** and changes nothing else. -/
theorem writeFile_filled (h : fs.Sound) (hup : ".." ∉ Path.names dir) (hl : Path.LeadsDown names)
    (hn : ∀ name ∈ names.getLast?, name ∉ Ignore.fileNames) (text : String) :
    Filled (fs.spelled dir) fs (writeFile fs (Path.join dir ("/".intercalate names)) text).1 := by
  have hd := Files.createDirectories_filled h (fs.along_below hup hl (List.dropLast_prefix names))
  rw [writeFile, Path.parent?_join dir hl, Option.getD_some, ← Path.below]
  split
  · rename_i fs₁ e hc
    rwa [hc] at hd
  · rename_i fs₁ hc
    rw [hc] at hd
    split
    · rename_i fs₂ hw
      have hw := Files.write_filled hd.sound hup hl hn hw
      rw [hd.spelled_eq] at hw
      exact hd.trans hw
    · exact hd

/-- So does writing the records. -/
theorem writeRecords_filled (h : fs.Sound) (hup : ".." ∉ Path.names dir) :
    Filled (fs.spelled dir) fs (writeRecords f dir fs (planned f records)).files := by
  induction records generalizing fs with
  | nil => exact .refl h
  | cons r records ih =>
      have hr := writeFile_filled h hup (targetNames_leadsDown f r.path)
        (getLast?_targetNames f r.path) (f.print r.toValue)
      rw [← target] at hr
      cases hw : writeFile fs (Path.join dir (target f r.path)) (f.print r.toValue) with
      | mk fs₁ result =>
          rw [hw] at hr
          cases result with
          | ok =>
              rw [writeRecords_cons_of_ok hw]
              exact hr.trans (hr.spelled_eq dir ▸ ih hr.sound)
          | error e =>
              rw [writeRecords_cons_of_error hw]
              exact hr

/-- **Writing fills the output directory and nothing else,** whether it succeeds or fails. -/
theorem writeAll_filled (f : OutputFormat) (records : List ModuleDoc) (h : fs.Sound)
    (hup : ".." ∉ Path.names dir) :
    Filled (fs.spelled dir) fs (writeAll f dir fs records).files := by
  have hdir := Files.createDirectories_filled h ⟨hup, .inl (List.prefix_refl (fs.spelled dir))⟩
  have hrecords : ∀ {fs₁ : Files} {result}, fs.createDirectories dir = (fs₁, result) →
      Filled (fs.spelled dir) fs (writeRecords f dir fs₁ (planned f records)).files := by
    intro fs₁ result hd
    rw [hd] at hdir
    exact hdir.trans (hdir.spelled_eq dir ▸ writeRecords_filled hdir.sound hup)
  have hcourse := writeAll_course f dir fs records
  generalize (writeAll f dir fs records).files = fs' at hcourse ⊢
  generalize (writeAll f dir fs records).result = result at hcourse
  cases hcourse with
  | collision => exact .refl h
  | directory _ hd => rwa [hd] at hdir
  | record _ hd => exact hrecords hd
  | index _ hd => exact hrecords hd
  | done _ hd _ hi =>
      have hr := hrecords hd
      have hindex : ∀ name ∈ [indexTarget f].getLast?, name ∉ Ignore.fileNames := by
        simpa [indexTarget] using fileName_notMem_fileNames f "_index"
      rw [← intercalate_indexTarget] at hi
      exact hr.trans (hr.spelled_eq dir ▸
        Files.write_filled hr.sound hup (indexTarget_leadsDown f) hindex hi)

end Output

end ModuleDocs
