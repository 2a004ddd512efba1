import ModuleDocs.Proofs.Paths

/-!
# Proofs — Trees without links

In a tree without links a path leads where its names lead, one after the other (`Disk.descend`,
`walk_eq_descend`): a directory is entered, and what is no directory ends the way.

* `descend_append`, `exists_directory_of_descend`: a way along two lists of names goes through the
  directory to which the first of them leads.
* `descend_eq_ok_iff`: names that lead down from a directory lead to the place that they spell below
  it, exactly if every place before it is a directory.
* `Files.Grew`: new directories are the only difference between two trees.  No other trace is left
  by creating directories, whether this succeeds or fails (`createDirectories_grew`).
* `Files.Wrote`: a file has been written, and new directories are the only other difference.
-/

namespace ModuleDocs

/-- The entry is a link. -/
def Entry.isLink : Entry → Bool
  | .link _ => true
  | .file _ | .directory => false

/-- At a place stands what stood there before, or a directory where nothing stood. -/
def Entry.SameOrNew (before after : Option Entry) : Prop :=
  after = before ∨ before = none ∧ after = some .directory

/-- A directory stays one. -/
theorem Entry.SameOrNew.directory {before after : Option Entry} (h : SameOrNew before after)
    (hd : before = some .directory) : after = some .directory := by
  rcases h with e | ⟨-, hd'⟩
  · exact e.trans hd
  · exact hd'

/-- A file keeps its content. -/
theorem Entry.SameOrNew.file {before after : Option Entry} {content : ByteArray}
    (h : SameOrNew before after) (hf : before = some (.file content)) :
    after = some (.file content) := by
  rcases h with e | ⟨hn, -⟩
  · exact e.trans hf
  · exact absurd (hn.symm.trans hf) nofun

theorem Entry.SameOrNew.trans {a b c : Option Entry} (h : SameOrNew a b) (h' : SameOrNew b c) :
    SameOrNew a c := by
  rcases h with rfl | ⟨hn, hd⟩
  · exact h'
  · exact .inr ⟨hn, h'.directory hd⟩

namespace Disk

/-! ### Entries -/

/-- No entry is a link. -/
def LinkFree (d : Disk) : Prop := ∀ e ∈ d.entries, e.2.isLink = false

instance (d : Disk) : Decidable d.LinkFree :=
  inferInstanceAs (Decidable (∀ e ∈ d.entries, e.2.isLink = false))

@[simp] theorem entry?_nil (d : Disk) : d.entry? [] = some .directory := if_pos rfl

/-- Replacing an entry is seen at its place only. -/
theorem lookup_replace (l : List (Place × Entry)) (p q : Place) (e : Entry) :
    (l.map fun (k, old) => if k = p then (k, e) else (k, old)).lookup q =
      (l.lookup q).map fun old => if q = p then e else old := by
  induction l with
  | nil => rfl
  | cons head l ih =>
      obtain ⟨k, old⟩ := head
      by_cases hq : q = k
      · subst hq
        by_cases hp : q = p <;> simp [hp]
      · have hk : (q == k) = false := beq_eq_false_iff_ne.mpr hq
        by_cases hp : k = p
        · subst hp
          simpa [List.lookup_cons, hk] using ih
        · simpa [List.lookup_cons, hk, hp] using ih

theorem lookup_isSome_of_any {l : List (Place × Entry)} {p : Place}
    (h : l.any (·.1 == p) = true) : (l.lookup p).isSome = true := by
  obtain ⟨⟨k, old⟩, hmem, hk⟩ := List.any_eq_true.mp h
  obtain rfl : k = p := beq_iff_eq.mp hk
  rw [List.lookup_isSome_iff]
  exact ⟨(k, old), hmem, beq_self_eq_true k⟩

/-- **Putting an entry at a place changes what stands there,** and nothing else. -/
theorem entry?_put (d : Disk) {p : Place} (hp : p ≠ []) (e : Entry) (q : Place) :
    entry? (d.put p e) q = if q = p then some e else d.entry? q := by
  by_cases hq : q = []
  · subst hq
    rw [entry?_nil, if_neg (Ne.symm hp), entry?_nil]
  · unfold entry?
    rw [if_neg hq, if_neg hq, put]
    split
    case isTrue ha =>
      rw [lookup_replace]
      split
      case isTrue hqp =>
        obtain ⟨old, ho⟩ := Option.isSome_iff_exists.mp (lookup_isSome_of_any ha)
        rw [hqp, ho, Option.map_some]
      case isFalse => simp
    case isFalse ha =>
      rw [List.lookup_append]
      split
      case isTrue hqp =>
        have hnone : d.entries.lookup p = none := by
          rw [List.lookup_eq_none_iff]
          intro k hk
          exact bne_iff_ne.mpr fun e =>
            ha (List.any_eq_true.mpr ⟨k, hk, beq_iff_eq.mpr e.symm⟩)
        rw [hqp, hnone]
        simp
      case isFalse hqp => simp [List.lookup_cons, beq_eq_false_iff_ne.mpr hqp]

theorem LinkFree.isLink_eq {d : Disk} (h : d.LinkFree) {p : Place} {e : Entry}
    (he : d.entry? p = some e) : e.isLink = false := by
  unfold entry? at he
  split at he
  · cases he
    rfl
  · obtain ⟨l₁, l₂, hl, -⟩ := List.lookup_eq_some_iff.mp he
    exact h (p, e) (hl ▸ List.mem_append_right l₁ List.mem_cons_self)

/-- A disk without links stays so, if no link is put on it. -/
theorem LinkFree.put {d : Disk} (h : d.LinkFree) (p : Place) {e : Entry} (he : e.isLink = false) :
    (d.put p e).LinkFree := by
  unfold Disk.put
  split
  · intro x hx
    obtain ⟨⟨k, old⟩, hmem, rfl⟩ := List.mem_map.mp hx
    by_cases hk : k = p
    · simpa [hk] using he
    · simpa [hk] using h (k, old) hmem
  · intro x hx
    rcases List.mem_append.mp hx with hx | hx
    · exact h x hx
    · rw [List.mem_singleton.mp hx]
      exact he

/-! ### Ways -/

/-- Follows names from a directory of a tree without links. -/
def descend (d : Disk) (place : Place) : List String → Except FileFault Found
  | [] => .ok (.entry place .directory)
  | name :: rest =>
    if name = "." then descend d place rest
    else if name = ".." then descend d place.dropLast rest
    else if longestName < name.utf8ByteSize then .error .nameTooLong
    else
      match d.entry? (place ++ [name]) with
      | none => if rest.isEmpty then .ok (.missing place name) else .error .notFound
      | some .directory => descend d (place ++ [name]) rest
      | some e => if rest.isEmpty then .ok (.entry (place ++ [name]) e) else .error .notDirectory

/-- **Without links a path leads where its names lead.** -/
theorem walk_eq_descend {d : Disk} (h : d.LinkFree) (follow : Bool) (links : Nat) (place : Place)
    (names : List String) : d.walk follow links place names = d.descend place names := by
  induction names generalizing place with
  | nil => rw [walk, descend]
  | cons name rest ih =>
      by_cases hdot : name = "."
      · subst hdot
        rw [walk, descend, if_pos rfl, ih]
      by_cases hup : name = ".."
      · subst hup
        rw [walk, descend, if_neg (by decide), if_pos rfl, ih]
      rw [walk, descend, if_neg hdot, if_neg hup]
      · by_cases hl : longestName < name.utf8ByteSize
        · rw [if_pos hl, if_pos hl]
        · rw [if_neg hl, if_neg hl]
          cases he : d.entry? (place ++ [name]) with
          | none => rfl
          | some e =>
              cases e with
              | file content => rfl
              | directory => exact ih _
              | link target => exact absurd (h.isLink_eq he) Bool.noConfusion
      · exact hdot
      · exact hup

/-- The place that was found. -/
def Found.place : Found → Place
  | .entry place _ => place
  | .missing directory name => directory ++ [name]

/-- What stands at the place that was found. -/
def Found.entry? : Found → Option Entry
  | .entry _ e => some e
  | .missing .. => none

/-- A name leads from a directory into a directory. -/
inductive Enters (d : Disk) : Place → String → Place → Prop where
  | here (p : Place) : d.Enters p "." p
  | up (p : Place) : d.Enters p ".." p.dropLast
  | down {p : Place} {name : String} (hdot : name ≠ ".") (hup : name ≠ "..")
      (hs : name.utf8ByteSize ≤ longestName) (he : d.entry? (p ++ [name]) = some .directory) :
      d.Enters p name (p ++ [name])

section

variable {d d' : Disk} {p p' q : Place} {name : String} {names more rest : List String}
  {found : Found}

/-- One step down by a name that is no dot. -/
theorem descend_of_ne (d : Disk) (p : Place) (hdot : name ≠ ".") (hup : name ≠ "..")
    (hs : name.utf8ByteSize ≤ longestName) (rest : List String) :
    d.descend p (name :: rest) =
      match d.entry? (p ++ [name]) with
      | none => if rest.isEmpty then .ok (.missing p name) else .error .notFound
      | some .directory => d.descend (p ++ [name]) rest
      | some e => if rest.isEmpty then .ok (.entry (p ++ [name]) e) else .error .notDirectory := by
  rw [descend, if_neg hdot, if_neg hup, if_neg (Nat.not_lt.mpr hs)]

/-- A step that enters a directory goes on from there. -/
theorem Enters.descend_eq (h : d.Enters p name p') (rest : List String) :
    d.descend p (name :: rest) = d.descend p' rest := by
  cases h with
  | here => rw [descend, if_pos rfl]
  | up => rw [descend, if_neg (by decide), if_pos rfl]
  | down hdot hup hs he => rw [descend_of_ne d p hdot hup hs, he]

/-- **What one name can do on a way:** it leads into a directory, or it is the last one and leads to
what is none. -/
theorem descend_cons_eq_ok (h : d.descend p (name :: rest) = .ok found) :
    (∃ p', d.Enters p name p' ∧ d.descend p' rest = .ok found) ∨
      rest = [] ∧ name ≠ "." ∧ name ≠ ".." ∧ name.utf8ByteSize ≤ longestName ∧
        found.place = p ++ [name] ∧ found.entry? = d.entry? (p ++ [name]) ∧
        found.entry? ≠ some .directory := by
  by_cases hdot : name = "."
  · subst hdot
    exact .inl ⟨p, .here p, (Enters.here p).descend_eq rest ▸ h⟩
  by_cases hup : name = ".."
  · subst hup
    exact .inl ⟨p.dropLast, .up p, (Enters.up p).descend_eq rest ▸ h⟩
  by_cases hs : name.utf8ByteSize ≤ longestName
  · rw [descend_of_ne d p hdot hup hs] at h
    cases he : d.entry? (p ++ [name]) with
    | none =>
        rw [he] at h
        cases rest with
        | nil =>
            cases h
            exact .inr ⟨rfl, hdot, hup, hs, rfl, rfl, by simp [Found.entry?]⟩
        | cons => cases h
    | some e =>
        rw [he] at h
        cases e with
        | directory => exact .inl ⟨p ++ [name], .down hdot hup hs he, h⟩
        | file content | link target =>
            cases rest with
            | nil =>
                cases h
                exact .inr ⟨rfl, hdot, hup, hs, rfl, rfl, by simp [Found.entry?]⟩
            | cons => cases h
  · rw [descend, if_neg hdot, if_neg hup, if_pos (Nat.lt_of_not_le hs)] at h
    cases h

/-- A way through a directory goes on from there. -/
theorem descend_append (h : d.descend p names = .ok (.entry q .directory)) :
    d.descend p (names ++ more) = d.descend q more := by
  induction names generalizing p with
  | nil =>
      cases h
      rfl
  | cons name rest ih =>
      rcases descend_cons_eq_ok h with ⟨p', hp', h'⟩ | ⟨-, -, -, -, -, -, hne⟩
      · rw [List.cons_append, hp'.descend_eq, ih h']
      · exact absurd rfl hne

/-- A way that goes on leads through a directory. -/
theorem exists_directory_of_descend (h : d.descend p (names ++ more) = .ok found)
    (hm : more ≠ []) : ∃ q, d.descend p names = .ok (.entry q .directory) := by
  induction names generalizing p with
  | nil => exact ⟨p, rfl⟩
  | cons name rest ih =>
      rcases descend_cons_eq_ok h with ⟨p', hp', h'⟩ | ⟨hnil, -⟩
      · obtain ⟨q, hq⟩ := ih h'
        exact ⟨q, (hp'.descend_eq rest).trans hq⟩
      · exact absurd (List.append_eq_nil_iff.mp hnil).2 hm

/-- What is missing does not stand there. -/
theorem entry?_of_descend_missing (h : d.descend p names = .ok (.missing q name)) :
    d.entry? (q ++ [name]) = none := by
  induction names generalizing p with
  | nil => cases h
  | cons first rest ih =>
      rcases descend_cons_eq_ok h with ⟨p', -, h'⟩ | ⟨-, -, -, -, hplace, hentry, -⟩
      · exact ih h'
      · rw [show q ++ [name] = p ++ [first] from hplace]
        exact hentry.symm

/-- Every directory of the first tree is one of the second. -/
def KeepsDirectories (d d' : Disk) : Prop :=
  ∀ p, d.entry? p = some .directory → d'.entry? p = some .directory

/-- Directories that are kept can still be entered. -/
theorem KeepsDirectories.enters (h : KeepsDirectories d d') (he : d.Enters p name p') :
    d'.Enters p name p' := by
  cases he with
  | here => exact .here p
  | up => exact .up p
  | down hdot hup hs he => exact .down hdot hup hs (h _ he)

/-- A way through directories stays open. -/
theorem KeepsDirectories.descend (h : KeepsDirectories d d')
    (hd : d.descend p names = .ok (.entry q .directory)) :
    d'.descend p names = .ok (.entry q .directory) := by
  induction names generalizing p with
  | nil => exact hd
  | cons name rest ih =>
      rcases descend_cons_eq_ok hd with ⟨p', hp', h'⟩ | ⟨-, -, -, -, -, -, hne⟩
      · rw [(h.enters hp').descend_eq]
        exact ih h'
      · exact absurd rfl hne

/-! ### Ways down -/

/-- The way along names that lead down from a place is open: no name is too long, and every place
before the last is a directory. -/
structure Open (d : Disk) (p : Place) (names : List String) : Prop where
  short : ∀ name ∈ names, name.utf8ByteSize ≤ longestName
  directory : ∀ l, l <+: names → l ≠ [] → l ≠ names → d.entry? (p ++ l) = some .directory

/-- The way down is open if the first name leads into a directory from which it goes on. -/
theorem open_cons_iff (hne : rest ≠ []) : d.Open p (name :: rest) ↔
    name.utf8ByteSize ≤ longestName ∧ d.entry? (p ++ [name]) = some .directory ∧
      d.Open (p ++ [name]) rest := by
  constructor
  · intro h
    refine ⟨h.short name List.mem_cons_self, ?_, ?_, ?_⟩
    · exact h.directory [name] ⟨rest, rfl⟩ (by simp) (by simpa using Ne.symm hne)
    · exact fun n hn => h.short n (List.mem_cons_of_mem name hn)
    · intro l hl _ hlr
      have := h.directory (name :: l) (List.cons_prefix_cons.mpr ⟨rfl, hl⟩) (by simp)
        (by simpa using hlr)
      rwa [List.append_cons] at this
  · rintro ⟨hs, hd, ho⟩
    refine ⟨List.forall_mem_cons.mpr ⟨hs, ho.short⟩, fun l hl hl0 hlr => ?_⟩
    obtain ⟨l, rfl, hl'⟩ := (List.prefix_cons_iff.mp hl).resolve_left hl0
    rw [List.append_cons]
    by_cases hnil : l = []
    · simpa [hnil] using hd
    · exact ho.directory l hl' hnil (by simpa using hlr)

theorem Found.ext {f f' : Found} (hp : f.place = f'.place) (he : f.entry? = f'.entry?) :
    f = f' := by
  cases f with
  | entry place e =>
      cases f' with
      | entry place' e' =>
          cases hp
          cases he
          rfl
      | missing => cases he
  | missing directory name =>
      cases f' with
      | entry => cases he
      | missing directory' name' =>
          obtain ⟨rfl, hn⟩ := List.append_inj' hp rfl
          cases hn
          rfl

/-- **An open way is gone to its end.** -/
theorem Open.descend (hl : Path.LeadsDown names) (ho : d.Open p names) :
    ∃ found, d.descend p names = .ok found ∧ found.place = p ++ names ∧
      found.entry? = d.entry? (p ++ names) := by
  induction names generalizing p with
  | nil => exact absurd rfl hl.ne_nil
  | cons name rest ih =>
      obtain ⟨-, hdot, hup⟩ := Path.isNormal_iff.mp (hl.normal name List.mem_cons_self)
      have hs := ho.short name List.mem_cons_self
      by_cases hrest : rest = []
      · subst hrest
        rw [descend_of_ne d p hdot hup hs]
        cases he : d.entry? (p ++ [name]) with
        | none => exact ⟨_, rfl, rfl, rfl⟩
        | some e => cases e <;> exact ⟨_, rfl, rfl, rfl⟩
      · obtain ⟨-, hd, ho'⟩ := (open_cons_iff hrest).mp ho
        rw [(Enters.down hdot hup hs hd).descend_eq, List.append_cons p name rest]
        exact ih (hl.tail hrest) ho'

theorem open_singleton (hs : name.utf8ByteSize ≤ longestName) : d.Open p [name] where
  short n hn := List.mem_singleton.mp hn ▸ hs
  directory l hl hl0 hlr := by
    obtain ⟨l, rfl, hl'⟩ := (List.prefix_cons_iff.mp hl).resolve_left hl0
    exact absurd (congrArg (name :: ·) (List.prefix_nil.mp hl')) hlr

/-- Only an open way is gone to its end. -/
theorem open_of_descend (hl : Path.LeadsDown names) (h : d.descend p names = .ok found) :
    d.Open p names := by
  induction names generalizing p with
  | nil => exact absurd rfl hl.ne_nil
  | cons name rest ih =>
      obtain ⟨-, hdot, hup⟩ := Path.isNormal_iff.mp (hl.normal name List.mem_cons_self)
      rcases descend_cons_eq_ok h with ⟨p', hp', h'⟩ | ⟨rfl, -, -, hs, -⟩
      · cases hp' with
        | here => exact absurd rfl hdot
        | up => exact absurd rfl hup
        | down _ _ hs he =>
            by_cases hrest : rest = []
            · subst hrest
              exact open_singleton hs
            · exact (open_cons_iff hrest).mpr ⟨hs, he, ih (hl.tail hrest) h'⟩
      · exact open_singleton hs

/-- **Names that lead down from a directory lead to the place they spell,** exactly if the way is
open. -/
theorem descend_eq_ok_iff (hl : Path.LeadsDown names) : d.descend p names = .ok found ↔
    d.Open p names ∧ found.place = p ++ names ∧ found.entry? = d.entry? (p ++ names) := by
  constructor
  · intro h
    have ho := open_of_descend hl h
    obtain ⟨found', h', hp, he⟩ := ho.descend hl
    obtain rfl : found' = found := Except.ok.inj (h'.symm.trans h)
    exact ⟨ho, hp, he⟩
  · rintro ⟨ho, hp, he⟩
    obtain ⟨found', h', hp', he'⟩ := ho.descend hl
    rw [h', Found.ext (hp'.trans hp.symm) (he'.trans he.symm)]

end

end Disk

/-! ### Paths in a tree -/

namespace Files

/-- The place from which a path is looked up. -/
def start (fs : Files) (path : String) : Place := if Path.isAbsolute path then [] else fs.workDir

/-- The text can be looked up as a path: it has no NUL character and is not too long. -/
def Usable (path : String) : Prop := '\x00' ∉ path.toList ∧ path.utf8ByteSize ≤ longestPath

instance (path : String) : Decidable (Usable path) :=
  inferInstanceAs (Decidable (_ ∧ _))

/-- The names of a path lead to a directory at a place. -/
def LeadsTo (fs : Files) (path : String) (p : Place) : Prop :=
  fs.disk.descend (fs.start path) (Path.names path) = .ok (.entry p .directory)

section

variable {fs fs' fs'' : Files} {dir path : String} {p q : Place} {names : List String}
  {follow : Bool} {found : Disk.Found} {content : ByteArray}

/-- A path leads to one place. -/
theorem LeadsTo.unique (hp : fs.LeadsTo path p) (hq : fs.LeadsTo path q) : p = q := by
  have h := Except.ok.inj (hp.symm.trans hq)
  exact (Disk.Found.entry.inj h).1

/-- Without links a usable path is found step by step. -/
theorem find_of_usable (h : fs.disk.LinkFree) (hne : path ≠ "") (hu : Usable path) :
    fs.find follow path = fs.disk.descend (fs.start path) (Disk.steps path) := by
  rw [find, Disk.walk_eq_descend h]
  simp [hu.1, hne, Nat.not_lt.mpr hu.2, start]

/-- Without links finding is going down step by step, from where the path starts. -/
theorem find_eq_ok_iff (h : fs.disk.LinkFree) : fs.find follow path = .ok found ↔
    path ≠ "" ∧ Usable path ∧
      fs.disk.descend (fs.start path) (Disk.steps path) = .ok found := by
  rw [find, Disk.walk_eq_descend h, Usable]
  by_cases hnul : '\x00' ∈ path.toList
  · simp [hnul]
  by_cases hempty : path = ""
  · simp [hempty]
  by_cases hlong : longestPath < path.utf8ByteSize
  · simp [hnul, hempty, hlong, Nat.not_le.mpr hlong]
  · simp [hnul, hempty, hlong, Nat.le_of_not_lt hlong, start]

/-- A list of names that leads down from a directory can be looked up as a path below it: the
directory is at a place, and the way from there is open. -/
structure Reaches (fs : Files) (dir : String) (q : Place) (names : List String) : Prop where
  usable : Usable (Path.join dir ("/".intercalate names))
  leadsTo : fs.LeadsTo dir q
  isOpen : fs.disk.Open q names

/-- **What a path below a directory leads to** stands at the place that its names spell below the
directory. -/
theorem find_join_eq_ok_iff (h : fs.disk.LinkFree) (hl : Path.LeadsDown names) :
    fs.find follow (Path.join dir ("/".intercalate names)) = .ok found ↔
      ∃ q, fs.Reaches dir q names ∧ found.place = q ++ names ∧
        found.entry? = fs.disk.entry? (q ++ names) := by
  have hstart : fs.start (Path.join dir ("/".intercalate names)) = fs.start dir := by
    rw [start, start, Path.isAbsolute_join dir hl]
  rw [find_eq_ok_iff h, Path.steps_join dir hl, hstart]
  constructor
  · rintro ⟨-, hu, hd⟩
    obtain ⟨q, hq⟩ := Disk.exists_directory_of_descend hd hl.ne_nil
    rw [Disk.descend_append hq] at hd
    obtain ⟨ho, hfound⟩ := (Disk.descend_eq_ok_iff hl).mp hd
    exact ⟨q, ⟨hu, hq, ho⟩, hfound⟩
  · rintro ⟨q, ⟨hu, hq, ho⟩, hfound⟩
    refine ⟨Path.join_ne_empty dir hl, hu, ?_⟩
    rw [Disk.descend_append hq]
    exact (Disk.descend_eq_ok_iff hl).mpr ⟨ho, hfound⟩

/-- What lies at the end of a way that is reached is found. -/
theorem Reaches.find (hr : fs.Reaches dir q names) (h : fs.disk.LinkFree)
    (hl : Path.LeadsDown names) {e : Entry} (he : fs.disk.entry? (q ++ names) = some e) :
    fs.find follow (Path.join dir ("/".intercalate names)) = .ok (.entry (q ++ names) e) :=
  (find_join_eq_ok_iff h hl).mpr ⟨q, hr, rfl, he.symm⟩

/-! ### What stays -/

/-- The second tree is free of links and has every directory of the first. -/
structure Keeps (fs fs' : Files) : Prop where
  workDir : fs'.workDir = fs.workDir
  linkFree : fs'.disk.LinkFree
  directories : fs.disk.KeepsDirectories fs'.disk

theorem Keeps.refl (h : fs.disk.LinkFree) : Keeps fs fs := ⟨rfl, h, fun _ hp => hp⟩

theorem Keeps.trans (h : Keeps fs fs') (h' : Keeps fs' fs'') : Keeps fs fs'' where
  workDir := h'.workDir.trans h.workDir
  linkFree := h'.linkFree
  directories p hp := h'.directories p (h.directories p hp)

/-- A path leads where it led before. -/
theorem Keeps.leadsTo (h : Keeps fs fs') (hp : fs.LeadsTo path p) : fs'.LeadsTo path p := by
  have hstart : fs'.start path = fs.start path := by rw [start, start, h.workDir]
  rw [LeadsTo, hstart]
  exact h.directories.descend hp

/-- What was reached before is still reached. -/
theorem Keeps.reaches (h : Keeps fs fs') (hr : fs.Reaches dir q names) :
    fs'.Reaches dir q names where
  usable := hr.usable
  leadsTo := h.leadsTo hr.leadsTo
  isOpen := ⟨hr.isOpen.short, fun l hl hl0 hln =>
    h.directories _ (hr.isOpen.directory l hl hl0 hln)⟩

/-! ### New directories -/

/-- New directories are all that has come to the tree. -/
structure Grew (fs fs' : Files) : Prop where
  workDir : fs'.workDir = fs.workDir
  linkFree : fs'.disk.LinkFree
  entry? : ∀ p, Entry.SameOrNew (fs.disk.entry? p) (fs'.disk.entry? p)

theorem Grew.refl (h : fs.disk.LinkFree) : Grew fs fs := ⟨rfl, h, fun _ => .inl rfl⟩

theorem Grew.trans (h : Grew fs fs') (h' : Grew fs' fs'') : Grew fs fs'' where
  workDir := h'.workDir.trans h.workDir
  linkFree := h'.linkFree
  entry? p := (h.entry? p).trans (h'.entry? p)

theorem Grew.keeps (h : Grew fs fs') : Keeps fs fs' :=
  ⟨h.workDir, h.linkFree, fun p hp => (h.entry? p).directory hp⟩

/-- Making a directory only adds to the disk. -/
theorem createDirectory_grew (h : fs.disk.LinkFree) (hc : fs.createDirectory path = .ok fs') :
    Grew fs fs' := by
  unfold createDirectory at hc
  split at hc
  · cases hc
  · rename_i directory name hf
    cases hc
    have hmissing := Disk.entry?_of_descend_missing ((find_eq_ok_iff h).mp hf).2.2
    refine ⟨rfl, h.put _ rfl, fun p => ?_⟩
    rw [Disk.entry?_put _ (by simp)]
    split
    case isTrue hp => exact .inr ⟨hp ▸ hmissing, rfl⟩
    case isFalse => exact .inl rfl
  · cases hc

/-- So does making the lowest of several paths that can be made. -/
theorem createBase_grew (h : fs.disk.LinkFree) {paths left left' : List String}
    (hc : fs.createBase left paths = .ok (fs', left')) : Grew fs fs' := by
  induction paths generalizing left with
  | nil =>
      cases hc
      exact .refl h
  | cons path above ih =>
      rw [createBase] at hc
      split at hc
      · rename_i fs₁ hd
        cases hc
        exact createDirectory_grew h hd
      · exact ih hc
      · split at hc
        · cases hc
          exact .refl h
        · cases hc
      · cases hc

/-- So does making several of them. -/
theorem createAll_grew (h : fs.disk.LinkFree) (paths : List String) :
    Grew fs (fs.createAll paths).1 := by
  induction paths generalizing fs with
  | nil => exact .refl h
  | cons path rest ih =>
      rw [createAll]
      split
      · rename_i fs₁ hd
        have hg := createDirectory_grew h hd
        exact hg.trans (ih hg.linkFree)
      · split
        · exact ih h
        · exact .refl h

/-- **Creating directories leaves nothing but directories,** whether it succeeds or fails. -/
theorem createDirectories_grew (h : fs.disk.LinkFree) (path : String) :
    Grew fs (fs.createDirectories path).1 := by
  unfold createDirectories
  split
  · exact .refl h
  · rename_i fs₁ left hb
    have hg := createBase_grew h hb
    exact hg.trans (createAll_grew hg.linkFree left)

/-! ### Written files -/

/-- A file with the given content has been written at a place where there was no directory, and new
directories are all else that has come to the tree. -/
structure Wrote (fs fs' : Files) (p : Place) (content : ByteArray) : Prop where
  workDir : fs'.workDir = fs.workDir
  linkFree : fs'.disk.LinkFree
  before : fs.disk.entry? p ≠ some .directory
  file : fs'.disk.entry? p = some (.file content)
  others : ∀ q, q ≠ p → Entry.SameOrNew (fs.disk.entry? q) (fs'.disk.entry? q)

theorem Wrote.keeps (h : Wrote fs fs' p content) : Keeps fs fs' :=
  ⟨h.workDir, h.linkFree, fun q hq => (h.others q fun e => h.before (e ▸ hq)).directory hq⟩

/-- Writing after growth has written, seen from before the growth. -/
theorem Grew.wrote (hg : Grew fs fs') (hw : Wrote fs' fs'' p content) :
    Wrote fs fs'' p content where
  workDir := hw.workDir.trans hg.workDir
  linkFree := hw.linkFree
  before hd := hw.before (hg.keeps.directories p hd)
  file := hw.file
  others q hq := (hg.entry? q).trans (hw.others q hq)

/-- A text is written where the path leads, unless a directory or a link stands there. -/
theorem write_eq_ok_iff : fs.write path content = .ok fs' ↔
    ∃ found, fs.find true path = .ok found ∧ (∀ e, found.entry? = some e → ∃ old, e = .file old) ∧
      fs' = { fs with disk := fs.disk.put found.place (.file content) } := by
  unfold write
  cases hf : fs.find true path with
  | error e => simp
  | ok found =>
      cases found with
      | missing directory name => simp [Disk.Found.entry?, Disk.Found.place, eq_comm]
      | entry place e => cases e <;> simp [Disk.Found.entry?, Disk.Found.place, eq_comm]

/-- **Writing below a directory** reaches the place that the names spell below it. -/
theorem write_join_wrote (h : fs.disk.LinkFree) (hl : Path.LeadsDown names)
    (hw : fs.write (Path.join dir ("/".intercalate names)) content = .ok fs') :
    ∃ q, fs.Reaches dir q names ∧ Wrote fs fs' (q ++ names) content := by
  obtain ⟨found, hf, hfile, rfl⟩ := write_eq_ok_iff.mp hw
  obtain ⟨q, hr, hplace, hentry⟩ := (find_join_eq_ok_iff h hl).mp hf
  have hne : q ++ names ≠ [] := fun e => hl.ne_nil (List.append_eq_nil_iff.mp e).2
  refine ⟨q, hr, rfl, h.put _ rfl, ?_, ?_, ?_⟩
  · rw [← hentry]
    intro hd
    obtain ⟨old, ho⟩ := hfile _ hd
    cases ho
  · rw [hplace, Disk.entry?_put _ hne, if_pos rfl]
  · intro p hp
    rw [hplace, Disk.entry?_put _ hne, if_neg hp]
    exact .inl rfl

/-- Files have been written, each at its place, and new directories are all else that has come to
the tree. -/
structure WroteAll (fs fs' : Files) (written : List (Place × ByteArray)) : Prop where
  keeps : Keeps fs fs'
  file : ∀ w ∈ written, fs'.disk.entry? w.1 = some (.file w.2)
  others : ∀ p, (∀ w ∈ written, p ≠ w.1) →
    Entry.SameOrNew (fs.disk.entry? p) (fs'.disk.entry? p)

theorem WroteAll.nil (h : fs.disk.LinkFree) : WroteAll fs fs [] :=
  ⟨.refl h, nofun, fun _ _ => .inl rfl⟩

/-- A file stays as it was written if no later one is written at its place. -/
theorem WroteAll.cons {written : List (Place × ByteArray)} (hw : Wrote fs fs' p content)
    (ha : WroteAll fs' fs'' written) (hp : ∀ w ∈ written, p ≠ w.1) :
    WroteAll fs fs'' ((p, content) :: written) where
  keeps := hw.keeps.trans ha.keeps
  file := by
    refine List.forall_mem_cons.mpr ⟨?_, ha.file⟩
    exact (ha.others p hp).file hw.file
  others q hq := by
    obtain ⟨hqp, hqw⟩ := List.forall_mem_cons.mp hq
    exact (hw.others q hqp).trans (ha.others q hqw)

end

end Files

end ModuleDocs
