import ModuleDocs.Proofs.Tree
import Mathlib.Data.List.Induction

/-!
# Proofs — Directories

Making the directories that lead to a file.  The way to a directory is gone up until one can be made
or is there already, and down again from there.

* `Path.below`: the texts of the directories on a way, which go up name by name (`parent?_below`)
  and are no longer than the path of the file (`below_sublist`).
* `Disk.Paved`, `Disk.Clear`: the places along names are directories, or nothing else is in the way.
  A clear way is open or breaks off where nothing stands (`open_or_notFound`).
* `createDirectory_below`: what making one directory on a clear way can do.
* `createDirectories_below`: along a clear way all directories are made, and nothing else is
  (`Made`).
* `createDirectories_fresh`: a directory that is missing from its parent is made at once.
-/

namespace ModuleDocs

namespace Path

/-! ### Texts of directories -/

/-- Names below a directory as a text: what matters of the directory, and then the names. -/
def below (dir : String) (names : List String) : String :=
  ofParts (isAbsolute dir) (parts dir ++ names)

/-- A part of the way leads down, too. -/
theorem LeadsDown.of_prefix {l names : List String} (h : LeadsDown names) (hp : l <+: names)
    (hne : l ≠ []) : LeadsDown l where
  ne_nil := hne
  normal name hn := h.normal name (hp.subset hn)
  noSlash name hn := h.noSlash name (hp.subset hn)

theorem parts_sublist_names (path : String) : (parts path).Sublist (names path) := by
  rw [parts_eq]
  split
  · exact List.nil_sublist _
  · split
    case isTrue hn =>
      obtain ⟨rest, hrest⟩ := List.head?_eq_some_iff.mp hn.1
      rw [hrest]
      simp only [ne_eq, decide_not, List.filter_cons, decide_true, Bool.not_true,
        Bool.false_eq_true, ↓reduceIte]
      exact List.filter_sublist.cons_cons "."
    case isFalse => exact List.filter_sublist

/-- Of a path, `.` matters only at the start, and there only if it is not absolute. -/
theorem parts_eq_self {path : String} (dir : String) {l : List String} (hl : "." ∉ l)
    (hn : names path = parts dir ++ l) (ha : isAbsolute path = isAbsolute dir) :
    parts path = parts dir ++ l := by
  have hdots : ∀ {l : List String}, "." ∉ l → l.filter (· ≠ ".") = l := by
    intro l hl
    rw [List.filter_eq_self]
    intro name hname
    simpa using fun e : name = "." => hl (e ▸ hname)
  by_cases hdir : (names dir).head? = some "." ∧ isAbsolute dir = false
  · have hparts : parts dir = "." :: (names dir).filter (· ≠ ".") := by
      rw [parts_eq dir, if_neg (by intro e; simp [e] at hdir), if_pos hdir]
    rw [parts_eq path, hn, ha, hparts, if_neg (by simp), if_pos ⟨by simp, hdir.2⟩]
    rw [List.cons_append, List.filter_cons_of_neg (by simp), List.filter_append, hdots hl,
      hdots (by simp)]
  · have hparts : parts dir = (names dir).filter (· ≠ ".") := by
      rw [parts_eq dir]
      split
      · simp_all
      · rfl
    have hall : "." ∉ parts dir ++ l := by
      rw [List.mem_append, not_or, hparts]
      exact ⟨by simp, hl⟩
    rw [parts_eq path, hn, hdots hall]
    split
    case isTrue e => exact e.symm
    case isFalse =>
      rw [if_neg]
      rintro ⟨hhead, -⟩
      exact hall (List.mem_of_head? hhead)

section

variable {l names : List String} (dir : String)

/-- The parts of a directory on the way are names. -/
theorem areNames_below (h : LeadsDown names) (hp : l <+: names) : AreNames (parts dir ++ l) :=
  ((areNames_names dir).of_subset (parts_sublist_names dir).subset).append
    (h.areNames.of_subset hp.subset)

/-- The names of a directory on the way. -/
theorem names_below (h : LeadsDown names) (hp : l <+: names) :
    Path.names (below dir l) = parts dir ++ l := by
  have hl := (areNames_below dir h hp).names_intercalate
  unfold below ofParts
  split
  · have := names_append_slash "" ("/".intercalate (parts dir ++ l))
    rwa [String.empty_append, hl, show Path.names "" = [] by decide, List.nil_append] at this
  · rw [String.empty_append, hl]

/-- A directory on the way is absolute if the first one is. -/
theorem isAbsolute_below (h : LeadsDown names) (hp : l <+: names) :
    isAbsolute (below dir l) = isAbsolute dir := by
  unfold below ofParts
  split
  case isTrue ha =>
    rw [isAbsolute_append (by decide), ha]
    decide
  case isFalse ha =>
    rw [String.empty_append, (areNames_below dir h hp).isAbsolute_intercalate]
    simpa using ha

theorem parts_below (h : LeadsDown names) (hp : l <+: names) :
    parts (below dir l) = parts dir ++ l := by
  refine parts_eq_self dir (fun hmem => ?_) (names_below dir h hp) (isAbsolute_below dir h hp)
  exact (isNormal_iff.mp (h.normal "." (hp.subset hmem))).2.1 rfl

theorem getLast?_below (h : LeadsDown names) (hp : l <+: names) (hne : parts dir ++ l ≠ []) :
    (below dir l).toList.getLast? ≠ some '/' := by
  have hl := areNames_below dir h hp
  have hchars : ("/".intercalate (parts dir ++ l)).toList ≠ [] := fun e =>
    hl.text_ne_empty hne (String.toList_inj.mp e)
  rw [below, ofParts, String.toList_append, List.getLast?_append_of_ne_nil _ hchars]
  exact hl.getLast?_intercalate hne

/-- The steps to a directory on the way. -/
theorem steps_below (h : LeadsDown names) (hp : l <+: names) (hne : parts dir ++ l ≠ []) :
    Disk.steps (below dir l) = parts dir ++ l := by
  rw [Disk.steps, names_below dir h hp, if_neg (getLast?_below dir h hp hne), List.append_nil]

/-- The directory of names below a directory. -/
theorem parent?_below {name : String} (h : LeadsDown names) (hp : l ++ [name] <+: names) :
    parent? (below dir (l ++ [name])) = some (below dir l) := by
  rw [parent?, parts_below dir h hp, isAbsolute_below dir h hp]
  simp [below]

theorem below_ne_empty (h : LeadsDown names) (hp : l <+: names) (hne : parts dir ++ l ≠ []) :
    below dir l ≠ "" := by
  intro e
  have hn := names_below dir h hp
  rw [e, show Path.names "" = [] by decide] at hn
  exact hne hn.symm

/-! ### Lengths of texts -/

theorem intercalate_sublist (sep : List Char) {l l' : List (List Char)} (h : l.Sublist l') :
    (sep.intercalate l).Sublist (sep.intercalate l') := by
  induction h with
  | slnil => exact .refl _
  | @cons l l' a h ih =>
      cases l' with
      | nil =>
          rw [List.sublist_nil.mp h]
          exact List.nil_sublist _
      | cons b l' =>
          rw [List.intercalate_cons_cons]
          exact ih.trans (List.sublist_append_right _ _)
  | @cons_cons l l' a h ih =>
      cases l with
      | nil =>
          cases l' with
          | nil => exact .refl _
          | cons b l' =>
              rw [List.intercalate_singleton, List.intercalate_cons_cons, List.append_assoc]
              exact List.sublist_append_left _ _
      | cons b l =>
          cases l' with
          | nil => cases h
          | cons c l' =>
              rw [List.intercalate_cons_cons, List.intercalate_cons_cons]
              exact (List.Sublist.refl _).append ih

/-- A path of some of the names holds characters of the path only. -/
theorem text_sublist {path : String} {l : List String} (h : l.Sublist (Path.names path)) :
    ("/".intercalate l).toList.Sublist path.toList := by
  have hsplit : l.Sublist (Text.split '/' path) := h.trans List.filter_sublist
  rw [← Text.intercalate_split path, String.toList_intercalate, String.toList_intercalate]
  exact intercalate_sublist _ (hsplit.map _)

/-- So does writing it without the dots. -/
theorem ofParts_sublist {path : String} {l : List String} (h : l.Sublist (Path.names path)) :
    (ofParts (isAbsolute path) l).toList.Sublist path.toList := by
  unfold ofParts
  split
  case isTrue ha =>
    -- the slash at the start comes first in both, and the names are those of the rest
    obtain ⟨cs, hcs⟩ : ∃ cs, path.toList = '/' :: cs :=
      List.head?_eq_some_iff.mp (of_decide_eq_true ha)
    have hpath : path = "" ++ "/" ++ String.ofList cs := String.toList_inj.mp (by simp [hcs])
    rw [hpath, names_append_slash, show Path.names "" = [] by decide, List.nil_append] at h
    have ht := text_sublist h
    rw [hcs, String.toList_append]
    rw [String.toList_ofList] at ht
    exact ht.cons_cons '/'
  case isFalse =>
    rw [String.empty_append]
    exact text_sublist h

/-- **The text of a directory on the way is no longer than the path:** it only leaves out. -/
theorem below_sublist (h : LeadsDown names) (hp : l <+: names) :
    (below dir l).toList.Sublist (join dir ("/".intercalate names)).toList := by
  rw [below, ← isAbsolute_join dir h]
  refine ofParts_sublist ?_
  rw [names_join dir h]
  exact (parts_sublist_names dir).append hp.sublist

theorem length_le_intercalate {l : List String} (he : ∀ name ∈ l, name ≠ "") :
    l.length ≤ ("/".intercalate l).length := by
  induction l with
  | nil => exact Nat.zero_le _
  | cons name rest ih =>
      have hname : 0 < name.length := by
        rw [Nat.pos_iff_ne_zero]
        exact fun e => he name List.mem_cons_self (String.length_eq_zero_iff.mp e)
      have hrest := ih fun n hn => he n (List.mem_cons_of_mem name hn)
      cases rest with
      | nil =>
          rw [String.intercalate_singleton]
          exact hname
      | cons next rest =>
          rw [String.intercalate_cons_cons, String.length_append, String.length_append,
            List.length_cons]
          omega

/-- The text of a directory has as many characters as names at least, so that going up ends. -/
theorem length_le_below (h : LeadsDown names) (hp : l <+: names) :
    l.length ≤ (below dir l).length := by
  have hlen := length_le_intercalate (areNames_below dir h hp).ne_empty
  rw [List.length_append] at hlen
  rw [below, ofParts, String.length_append]
  omega

end

end Path

namespace Disk

/-! ### Clear ways -/

section

variable {d d' : Disk} {p q : Place} {name : String} {names l : List String}

/-- Every place along the names is a directory. -/
def Paved (d : Disk) (p : Place) (names : List String) : Prop :=
  ∀ l, l <+: names → l ≠ [] → d.entry? (p ++ l) = some .directory

/-- Every place along the names is a directory or can become one. -/
def Clear (d : Disk) (p : Place) (names : List String) : Prop :=
  ∀ l, l <+: names → l ≠ [] → d.entry? (p ++ l) = none ∨ d.entry? (p ++ l) = some .directory

theorem paved_nil : d.Paved p [] := fun _ hl hne => absurd (List.prefix_nil.mp hl) hne

/-- A way is paved if it is so up to its last name, and that one leads to a directory. -/
theorem paved_concat_iff : d.Paved p (names ++ [name]) ↔
    d.Paved p names ∧ d.entry? (p ++ (names ++ [name])) = some .directory := by
  constructor
  · intro h
    exact ⟨fun l hl => h l (hl.trans (List.prefix_append _ _)), h _ (List.prefix_refl _) (by simp)⟩
  · rintro ⟨h, hlast⟩ l hl hne
    rcases List.prefix_concat_iff.mp hl with rfl | hl
    · exact hlast
    · exact h l hl hne

/-- A part of a clear way is clear. -/
theorem Clear.of_prefix (h : d.Clear p names) (hl : l <+: names) : d.Clear p l :=
  fun l' hl' => h l' (hl'.trans hl)

/-- The way to the last name is open if all places before it are directories. -/
theorem open_concat_iff : d.Open p (names ++ [name]) ↔
    (∀ n ∈ names ++ [name], n.utf8ByteSize ≤ longestName) ∧ d.Paved p names := by
  constructor
  · intro h
    refine ⟨h.short, fun l hl hne => h.directory l (hl.trans (List.prefix_append _ _)) hne ?_⟩
    rintro rfl
    have hlen := hl.length_le
    rw [List.length_append, List.length_singleton] at hlen
    omega
  · rintro ⟨hs, h⟩
    refine ⟨hs, fun l hl hne hlast => ?_⟩
    exact h l ((List.prefix_concat_iff.mp hl).resolve_left hlast) hne

/-- **A clear way is open, or it breaks off where nothing stands.** -/
theorem open_or_notFound (hl : Path.LeadsDown (names ++ [name]))
    (hs : ∀ n ∈ names ++ [name], n.utf8ByteSize ≤ longestName) (hc : d.Clear p names) :
    d.Open p (names ++ [name]) ∨ d.descend p (names ++ [name]) = .error .notFound := by
  induction names generalizing p with
  | nil => exact .inl (open_singleton (hs name List.mem_cons_self))
  | cons first rest ih =>
      obtain ⟨-, hdot, hup⟩ := Path.isNormal_iff.mp (hl.normal first List.mem_cons_self)
      have hshort := hs first List.mem_cons_self
      have hne : rest ++ [name] ≠ [] := by simp
      rw [List.cons_append, descend_of_ne d p hdot hup hshort]
      rcases hc [first] ⟨rest, rfl⟩ (by simp) with he | he
      · rw [he]
        exact .inr (by simp)
      · rw [he, open_cons_iff hne]
        have hrest : d.Clear (p ++ [first]) rest := by
          intro l hl hne
          have := hc (first :: l) (List.cons_prefix_cons.mpr ⟨rfl, hl⟩) (by simp)
          rwa [List.append_cons] at this
        have hshorts := fun n hn => hs n (List.mem_cons_of_mem first hn)
        exact (ih (hl.tail hne) hshorts hrest).imp_left fun ho => ⟨hshort, he, ho⟩

/-- Steps that stay where they are can be left out. -/
theorem descend_filter (h : d.descend p names = .ok (.entry q .directory)) :
    d.descend p (names.filter (· ≠ ".")) = .ok (.entry q .directory) := by
  induction names generalizing p with
  | nil => exact h
  | cons name rest ih =>
      by_cases hdot : name = "."
      · subst hdot
        rw [(Enters.here p).descend_eq] at h
        simpa using ih h
      · rw [List.filter_cons_of_pos (by simpa using hdot)]
        rcases descend_cons_eq_ok h with ⟨p', hp', h'⟩ | ⟨-, -, -, -, -, -, hne⟩
        · rw [hp'.descend_eq]
          exact ih h'
        · exact absurd rfl hne

/-- What is missing is missing from the directory before it. -/
theorem descend_eq_missing (h : d.descend p names = .ok (.missing q name)) :
    ∃ front, names = front ++ [name] ∧ d.descend p front = .ok (.entry q .directory) ∧
      name ≠ "." ∧ name ≠ ".." ∧ name.utf8ByteSize ≤ longestName := by
  induction names generalizing p with
  | nil => cases h
  | cons first rest ih =>
      rcases descend_cons_eq_ok h with ⟨p', hp', h'⟩ | ⟨rfl, hdot, hup, hs, hplace, -, -⟩
      · obtain ⟨front, rfl, hfront, hname⟩ := ih h'
        exact ⟨first :: front, rfl, (hp'.descend_eq front).trans hfront, hname⟩
      · obtain ⟨rfl, hname⟩ := List.append_inj' (show q ++ [name] = p ++ [first] from hplace) rfl
        cases hname
        exact ⟨[], rfl, rfl, hdot, hup, hs⟩

end

end Disk

namespace Files

section

variable {s t : String}

theorem utf8ByteSize_le_of_sublist {l l' : List Char} (h : l.Sublist l') :
    (String.ofList l).utf8ByteSize ≤ (String.ofList l').utf8ByteSize := by
  induction h with
  | slnil => exact Nat.le_refl _
  | cons c h ih =>
      rw [String.ofList_cons, String.utf8ByteSize_append]
      omega
  | cons_cons c h ih =>
      rw [String.ofList_cons, String.ofList_cons, String.utf8ByteSize_append,
        String.utf8ByteSize_append]
      omega

/-- What is left of a usable path is usable. -/
theorem Usable.of_sublist (h : Usable t) (hs : s.toList.Sublist t.toList) : Usable s := by
  refine ⟨fun hmem => h.1 (hs.subset hmem), ?_⟩
  have hle := utf8ByteSize_le_of_sublist hs
  rw [String.ofList_toList, String.ofList_toList] at hle
  exact Nat.le_trans hle h.2

end

/-- The names lead down from a directory, and neither they nor their path are too long. -/
structure Fits (dir : String) (names : List String) : Prop where
  leadsDown : Path.LeadsDown names
  usable : Usable (Path.join dir ("/".intercalate names))
  short : ∀ name ∈ names, name.utf8ByteSize ≤ Disk.longestName

instance (dir : String) (names : List String) : Decidable (Fits dir names) :=
  decidable_of_iff (Path.LeadsDown names ∧ Usable (Path.join dir ("/".intercalate names)) ∧
    ∀ name ∈ names, name.utf8ByteSize ≤ Disk.longestName)
    ⟨fun h => ⟨h.1, h.2.1, h.2.2⟩, fun h => ⟨h.1, h.2, h.3⟩⟩

section

variable {fs fs' fs'' : Files} {dir name : String} {q : Place} {names l rest : List String}
  {follow : Bool}

/-- The dots of a path make no difference to where it leads. -/
theorem LeadsTo.descend_parts (hq : fs.LeadsTo dir q) :
    fs.disk.descend (fs.start dir) (Path.parts dir) = .ok (.entry q .directory) := by
  rw [Path.parts_eq]
  split
  case isTrue hn =>
    rw [LeadsTo, hn] at hq
    exact hq
  case isFalse =>
    split
    · rw [(Disk.Enters.here _).descend_eq]
      exact Disk.descend_filter hq
    · exact Disk.descend_filter hq

/-- A directory on the way is looked up from the place of the first one. -/
theorem find_below (h : fs.disk.LinkFree) (hq : fs.LeadsTo dir q) (hf : Fits dir names)
    (hp : l <+: names) (hne : Path.parts dir ++ l ≠ []) :
    fs.find follow (Path.below dir l) = fs.disk.descend q l := by
  have hu := hf.usable.of_sublist (Path.below_sublist dir hf.leadsDown hp)
  have hstart : fs.start (Path.below dir l) = fs.start dir := by
    rw [start, start, Path.isAbsolute_below dir hf.leadsDown hp]
  rw [find_of_usable h (Path.below_ne_empty dir hf.leadsDown hp hne) hu, hstart,
    Path.steps_below dir hf.leadsDown hp hne, Disk.descend_append hq.descend_parts]

theorem dropEndSlashes_eq_self {path : String} (h : path.toList.getLast? ≠ some '/') :
    dropEndSlashes path = path := by
  unfold dropEndSlashes
  have hdrop : path.toList.reverse.dropWhile (· = '/') = path.toList.reverse := by
    rw [← List.head?_reverse] at h
    cases hr : path.toList.reverse with
    | nil => rfl
    | cons c cs =>
        rw [hr, List.head?_cons] at h
        exact List.dropWhile_cons_of_neg (by simpa using h)
  rw [hdrop]
  split
  · rfl
  · rw [List.reverse_reverse, String.ofList_toList]

/-! ### Making the directories on a way -/

/-- Directories along the names are all that has come to the tree. -/
structure Made (fs fs' : Files) (q : Place) (names : List String) : Prop where
  workDir : fs'.workDir = fs.workDir
  linkFree : fs'.disk.LinkFree
  entry? : ∀ p, fs'.disk.entry? p = fs.disk.entry? p ∨
    fs.disk.entry? p = none ∧ fs'.disk.entry? p = some .directory ∧
      ∃ l, l <+: names ∧ l ≠ [] ∧ p = q ++ l

theorem Made.refl (h : fs.disk.LinkFree) : Made fs fs q names := ⟨rfl, h, fun _ => .inl rfl⟩

/-- Making directories only adds to the disk. -/
theorem Made.grew (h : Made fs fs' q names) : Grew fs fs' :=
  ⟨h.workDir, h.linkFree, fun p => (h.entry? p).imp_right fun hn => ⟨hn.1, hn.2.1⟩⟩

theorem Made.trans (h : Made fs fs' q names) (h' : Made fs' fs'' q names) :
    Made fs fs'' q names where
  workDir := h'.workDir.trans h.workDir
  linkFree := h'.linkFree
  entry? p := by
    rcases h'.entry? p with e' | ⟨hn', hd', hl'⟩
    · rw [e']
      exact h.entry? p
    · rcases h.entry? p with e | ⟨-, hd, -⟩
      · exact .inr ⟨e ▸ hn', hd', hl'⟩
      · exact absurd (hn'.symm.trans hd) nofun

/-- Making directories puts nothing into the way. -/
theorem Made.clear (h : Made fs fs' q names) {p : Place} (hc : fs.disk.Clear p l) :
    fs'.disk.Clear p l := by
  intro l' hl' hne
  rcases h.entry? (p ++ l') with e | ⟨-, hd, -⟩
  · rw [e]
    exact hc l' hl' hne
  · exact .inr hd

/-- A paved way stays paved. -/
theorem Made.paved (h : Made fs fs' q names) {p : Place} (hp : fs.disk.Paved p l) :
    fs'.disk.Paved p l :=
  fun l' hl' hne => h.grew.keeps.directories _ (hp l' hl' hne)

theorem Made.mono (h : Made fs fs' q l) (hp : l <+: names) : Made fs fs' q names :=
  ⟨h.workDir, h.linkFree, fun p => (h.entry? p).imp_right fun ⟨hn, hd, l', hl', he⟩ =>
    ⟨hn, hd, l', hl'.trans hp, he⟩⟩

/-- One directory more. -/
theorem made_put (h : fs.disk.LinkFree) (hne : l ≠ []) (he : fs.disk.entry? (q ++ l) = none) :
    Made fs { fs with disk := fs.disk.put (q ++ l) .directory } q l where
  workDir := rfl
  linkFree := h.put _ rfl
  entry? p := by
    rw [Disk.entry?_put _ (by simp [hne])]
    split
    case isTrue hpl => exact .inr ⟨hpl ▸ he, rfl, l, List.prefix_refl l, hne, hpl⟩
    case isFalse => exact .inl rfl

section

variable (h : fs.disk.LinkFree) (hq : fs.LeadsTo dir q) (hf : Fits dir names)

include h hq hf

/-- **What making one directory on a clear way can do:** the directory is made, or it is there, or
the way to it is missing. -/
theorem createDirectory_below (hp : l ++ [name] <+: names) (hc : fs.disk.Clear q (l ++ [name])) :
    (fs.disk.Paved q l ∧ ∃ fs', fs.createDirectory (Path.below dir (l ++ [name])) = .ok fs' ∧
        Made fs fs' q (l ++ [name]) ∧ fs'.disk.Paved q (l ++ [name])) ∨
      (fs.disk.Paved q (l ++ [name]) ∧
        fs.createDirectory (Path.below dir (l ++ [name])) = .error .alreadyThere ∧
        fs.isDirectory (Path.below dir (l ++ [name])) = true) ∨
      (¬ fs.disk.Paved q l ∧
        fs.createDirectory (Path.below dir (l ++ [name])) = .error .notFound) := by
  have hne : Path.parts dir ++ (l ++ [name]) ≠ [] := by simp
  have hl : Path.LeadsDown (l ++ [name]) := hf.leadsDown.of_prefix hp (by simp)
  have hs : ∀ n ∈ l ++ [name], n.utf8ByteSize ≤ Disk.longestName :=
    fun n hn => hf.short n (hp.subset hn)
  have hfind : ∀ follow, fs.find follow (Path.below dir (l ++ [name])) =
      fs.disk.descend q (l ++ [name]) := fun follow => find_below h hq hf hp hne
  rw [createDirectory, dropEndSlashes_eq_self (Path.getLast?_below dir hf.leadsDown hp hne), hfind,
    isDirectory, entry?, hfind]
  rcases Disk.open_or_notFound hl hs (hc.of_prefix (List.prefix_append _ _)) with ho | hd
  · have hpaved := (Disk.open_concat_iff.mp ho).2
    obtain ⟨found, hd, hplace, hentry⟩ := ho.descend hl
    rw [hd]
    rcases hc _ (List.prefix_refl _) (by simp) with he | he
    · left
      obtain rfl : found = .missing (q ++ l) name :=
        Disk.Found.ext (by rw [hplace, Disk.Found.place, List.append_assoc]) (hentry.trans he)
      have hplace : q ++ l ++ [name] = q ++ (l ++ [name]) := List.append_assoc ..
      refine ⟨hpaved, _, rfl, ?_, ?_⟩
      · rw [hplace]
        exact made_put h (by simp) he
      · rw [hplace]
        refine Disk.paved_concat_iff.mpr ⟨(made_put h (by simp) he).paved hpaved, ?_⟩
        rw [Disk.entry?_put _ (by simp), if_pos rfl]
    · right; left
      obtain rfl : found = .entry (q ++ (l ++ [name])) .directory :=
        Disk.Found.ext hplace (hentry.trans he)
      exact ⟨Disk.paved_concat_iff.mpr ⟨hpaved, he⟩, rfl, rfl⟩
  · right; right
    refine ⟨fun hpaved => ?_, by rw [hd]⟩
    obtain ⟨found, hd', -⟩ := (Disk.open_concat_iff.mpr ⟨hs, hpaved⟩).descend hl
    rw [hd] at hd'
    cases hd'

end

/-- The texts of the directories along names, after those passed already. -/
def pathsAlong (dir : String) (passed : List String) : List String → List String
  | [] => []
  | name :: rest => Path.below dir (passed ++ [name]) :: pathsAlong dir (passed ++ [name]) rest

/-- Going down: every directory along the names is made. -/
theorem createAll_pathsAlong (h : fs.disk.LinkFree) (hq : fs.LeadsTo dir q) (hf : Fits dir names)
    (hp : l ++ rest <+: names) (hc : fs.disk.Clear q (l ++ rest)) (hpaved : fs.disk.Paved q l) :
    ∃ fs', fs.createAll (pathsAlong dir l rest) = (fs', .ok ()) ∧ Made fs fs' q (l ++ rest) ∧
      fs'.disk.Paved q (l ++ rest) := by
  induction rest generalizing fs l with
  | nil => exact ⟨fs, rfl, .refl h, by rwa [List.append_nil]⟩
  | cons name rest ih =>
      rw [List.append_cons] at hp hc ⊢
      have hp' : l ++ [name] <+: names := (List.prefix_append _ _).trans hp
      rw [pathsAlong, createAll]
      rcases createDirectory_below h hq hf hp' (hc.of_prefix (List.prefix_append _ _)) with
        ⟨-, fs₁, hd, hm, hpaved'⟩ | ⟨hpaved', hd, hdir⟩ | ⟨hnot, -⟩
      · obtain ⟨fs', ha, hm', hall⟩ := ih hm.linkFree (hm.grew.keeps.leadsTo hq) hp
          (hm.clear hc) hpaved'
        exact ⟨fs', by rw [hd]; exact ha, (hm.mono (List.prefix_append _ _)).trans hm', hall⟩
      · obtain ⟨fs', ha, hm', hall⟩ := ih h hq hp hc hpaved'
        exact ⟨fs', by simp [hd, hdir, ha], hm', hall⟩
      · exact absurd hpaved hnot

/-- A path is the first of the directories above it. -/
theorem exists_lineage_succ {path : String} (n : Nat) (h : Path.parts path ≠ []) :
    ∃ above, lineage (n + 1) path = path :: above := by
  obtain ⟨front, last, hlast⟩ := List.eq_nil_or_concat' (Path.parts path) |>.resolve_left h
  have hne : path ≠ "" := by
    rintro rfl
    exact h (by decide)
  refine ⟨lineage n (Path.ofParts (Path.isAbsolute path) front), ?_⟩
  rw [lineage, if_neg hne, Path.parent?, hlast]
  simp

/-- Above a directory on the way lies the one before it. -/
theorem lineage_below {n : Nat} (hf : Path.LeadsDown names) (hp : l ++ [name] <+: names) :
    lineage (n + 1) (Path.below dir (l ++ [name])) =
      Path.below dir (l ++ [name]) :: lineage n (Path.below dir l) := by
  rw [lineage, if_neg (Path.below_ne_empty dir hf hp (by simp)), Path.parent?_below dir hf hp]

/-- The directory itself is there, so that going up ends at the latest with it. -/
theorem createBase_dir (h : fs.disk.LinkFree) (hq : fs.LeadsTo dir q) (hf : Fits dir names)
    (left : List String) (n : Nat) :
    fs.createBase left (lineage n (Path.below dir [])) = .ok (fs, left) := by
  have hp : [] <+: names := List.nil_prefix
  cases n with
  | zero => rfl
  | succ n =>
      by_cases hparts : Path.parts dir = []
      · have hparent : Path.parent? (Path.below dir []) = none := by
          rw [Path.parent?, Path.parts_below dir hf.leadsDown hp, hparts]
          rfl
        rw [lineage, hparent]
        split <;> rfl
      · have hne : Path.parts dir ++ [] ≠ [] := by simpa using hparts
        have hfind : ∀ follow, fs.find follow (Path.below dir []) = .ok (.entry q .directory) :=
          fun follow => find_below h hq hf hp hne
        obtain ⟨above, hlineage⟩ := exists_lineage_succ n
          (Path.parts_below dir hf.leadsDown hp ▸ hne)
        have hcreate : fs.createDirectory (Path.below dir []) = .error .alreadyThere := by
          rw [createDirectory, dropEndSlashes_eq_self
            (Path.getLast?_below dir hf.leadsDown hp hne), hfind]
        have hdir : fs.isDirectory (Path.below dir []) = true := by
          rw [isDirectory, entry?, hfind]
        rw [hlineage, createBase, hcreate]
        simp [hdir]

/-- Going up: a directory is made or is there already, and those above it are there. -/
theorem createBase_below (h : fs.disk.LinkFree) (hq : fs.LeadsTo dir q) (hf : Fits dir names)
    {n : Nat} (hn : l.length ≤ n) (hp : l ++ rest <+: names) (hc : fs.disk.Clear q l) :
    ∃ l' rest' fs', l' ++ rest' = l ++ rest ∧
      fs.createBase (pathsAlong dir l rest) (lineage n (Path.below dir l)) =
        .ok (fs', pathsAlong dir l' rest') ∧
      Made fs fs' q l ∧ fs'.disk.Paved q l' := by
  -- from the last name up, since that is the way that is gone
  induction l using List.reverseRecOn generalizing n rest with
  | nil => exact ⟨[], rest, fs, rfl, createBase_dir h hq hf _ n, .refl h, Disk.paved_nil⟩
  | append_singleton l name ih =>
      have hp' : l ++ [name] <+: names := (List.prefix_append _ _).trans hp
      rw [List.length_append, List.length_singleton] at hn
      obtain ⟨n, rfl⟩ : ∃ m, n = m + 1 := ⟨n - 1, by omega⟩
      rw [lineage_below hf.leadsDown hp', createBase]
      rcases createDirectory_below h hq hf hp' hc with
        ⟨-, fs₁, hd, hm, hpaved⟩ | ⟨hpaved, hd, hdir⟩ | ⟨-, hd⟩
      · exact ⟨l ++ [name], rest, fs₁, rfl, by rw [hd], hm, hpaved⟩
      · exact ⟨l ++ [name], rest, fs, rfl, by simp [hd, hdir], .refl h, hpaved⟩
      · rw [hd]
        have hcons : l ++ name :: rest <+: names := by rwa [List.append_cons]
        have hn' : l.length ≤ n := by omega
        obtain ⟨l', rest', fs', hl, hb, hm, hpaved⟩ := ih hn' hcons
          (hc.of_prefix (List.prefix_append _ _))
        exact ⟨l', rest', fs', by rw [hl, List.append_cons], hb, hm.mono (List.prefix_append _ _),
          hpaved⟩

/-- **Directories can be made along a clear way,** and nothing else is. -/
theorem createDirectories_below (h : fs.disk.LinkFree) (hq : fs.LeadsTo dir q)
    (hf : Fits dir names) (hp : l <+: names) (hc : fs.disk.Clear q l) :
    ∃ fs', fs.createDirectories (Path.below dir l) = (fs', .ok ()) ∧ Made fs fs' q l ∧
      fs'.disk.Paved q l := by
  have hlen := Path.length_le_below dir hf.leadsDown hp
  have hnil : l ++ [] <+: names := by rwa [List.append_nil]
  obtain ⟨l', rest', fs₁, hl, hb, hm, hpaved⟩ := createBase_below h hq hf
    (Nat.le_succ_of_le hlen) hnil hc
  rw [List.append_nil] at hl
  obtain ⟨fs', ha, hm', hall⟩ := createAll_pathsAlong hm.linkFree (hm.grew.keeps.leadsTo hq) hf
    (hl ▸ hp) (hl ▸ hm.clear hc) hpaved
  refine ⟨fs', ?_, hm.trans (hl ▸ hm'), hl ▸ hall⟩
  rw [createDirectories, show ([] : List String) = pathsAlong dir l [] from rfl, hb]
  exact ha

/-! ### A new directory -/

theorem names_dropWhile_slash (cs : List Char) :
    Path.names (String.ofList (cs.dropWhile (· = '/')).reverse) =
      Path.names (String.ofList cs.reverse) := by
  induction cs with
  | nil => rfl
  | cons c cs ih =>
      by_cases hc : c = '/'
      · subst hc
        rw [List.dropWhile_cons_of_pos (by simp), List.reverse_cons, String.ofList_append, ih]
        exact (Path.names_concat_slash _).symm
      · rw [List.dropWhile_cons_of_neg (by simpa using hc)]

/-- Slashes at the end make no difference to the names of a path. -/
theorem names_dropEndSlashes (path : String) :
    Path.names (dropEndSlashes path) = Path.names path := by
  have h := names_dropWhile_slash path.toList.reverse
  rw [List.reverse_reverse, String.ofList_toList] at h
  unfold dropEndSlashes
  split
  · rfl
  · exact h

theorem isAbsolute_dropEndSlashes (path : String) :
    Path.isAbsolute (dropEndSlashes path) = Path.isAbsolute path := by
  unfold dropEndSlashes
  split
  · rfl
  · rename_i hne
    have hcs : path.toList = (path.toList.reverse.dropWhile (· = '/')).reverse ++
        (path.toList.reverse.takeWhile (· = '/')).reverse := by
      rw [← List.reverse_append, List.takeWhile_append_dropWhile, List.reverse_reverse]
    rw [Path.isAbsolute, Path.isAbsolute, String.toList_ofList, hcs,
      List.head?_append_of_ne_nil _ (by simpa using hne)]
    simp

/-- A missing directory is missing from the directory before it. -/
theorem names_of_fresh (h : fs.disk.LinkFree)
    (hm : fs.find true (dropEndSlashes dir) = .ok (.missing q name)) :
    ∃ front, Path.names dir = front ++ [name] ∧
      fs.disk.descend (fs.start dir) front = .ok (.entry q .directory) ∧
      name ≠ "." ∧ name ≠ ".." ∧ name.utf8ByteSize ≤ Disk.longestName := by
  obtain ⟨-, -, hd⟩ := (find_eq_ok_iff h).mp hm
  have hstart : fs.start (dropEndSlashes dir) = fs.start dir := by
    rw [start, start, isAbsolute_dropEndSlashes]
  rw [hstart, Disk.steps, names_dropEndSlashes] at hd
  split at hd
  · -- a path of slashes alone leads to the root, which is not missing
    obtain ⟨front, hfront, -, hdot, -⟩ := Disk.descend_eq_missing hd
    exact absurd (List.cons.inj (List.append_inj' hfront rfl).2).1.symm hdot
  · rw [List.append_nil] at hd
    exact Disk.descend_eq_missing hd

/-- **A new directory is made at once,** and the path leads to it. -/
theorem createDirectories_fresh (h : fs.disk.LinkFree)
    (hm : fs.find true (dropEndSlashes dir) = .ok (.missing q name)) :
    ∃ fs', fs.createDirectories dir = (fs', .ok ()) ∧ Made fs fs' q [name] ∧
      fs'.disk.entry? (q ++ [name]) = some .directory ∧ fs'.LeadsTo dir (q ++ [name]) := by
  obtain ⟨front, hnames, hfront, hdot, hup, hs⟩ := names_of_fresh h hm
  obtain ⟨hne, hu, hd⟩ := (find_eq_ok_iff h).mp hm
  have hfalse : fs.find false (dropEndSlashes dir) = .ok (.missing q name) :=
    (find_eq_ok_iff h).mpr ⟨hne, hu, hd⟩
  have hmade := made_put h (List.cons_ne_nil name []) (Disk.entry?_of_descend_missing hd)
  have hentry : Disk.entry? (fs.disk.put (q ++ [name]) .directory) (q ++ [name]) =
      some .directory := by
    rw [Disk.entry?_put _ (by simp), if_pos rfl]
  have hparts : Path.parts dir ≠ [] := by
    have hmem : name ∈ (Path.names dir).filter (· ≠ ".") :=
      List.mem_filter.mpr ⟨hnames ▸ by simp, by simpa using hdot⟩
    rw [Path.parts_eq]
    split
    · simp_all
    · split
      · simp
      · exact List.ne_nil_of_mem hmem
  obtain ⟨above, hlineage⟩ := exists_lineage_succ dir.length hparts
  refine ⟨_, ?_, hmade, hentry, ?_⟩
  · rw [createDirectories, hlineage, createBase, createDirectory, hfalse]
    rfl
  · have hstay := hmade.grew.keeps.directories.descend hfront
    have hstart :
        ({ fs with disk := fs.disk.put (q ++ [name]) .directory } : Files).start dir =
          fs.start dir := rfl
    rw [LeadsTo, hnames, hstart, Disk.descend_append hstay,
      (Disk.Enters.down hdot hup hs hentry).descend_eq]
    rfl

end

end Files

end ModuleDocs
