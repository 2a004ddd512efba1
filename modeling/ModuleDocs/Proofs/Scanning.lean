import ModuleDocs.Proofs.Filling
import ModuleDocs.Scan
import Mathlib.Data.List.Perm.Subperm

/-!
# Proofs — Scanning

A scan gives the files below a directory, each once.  Whether it gives a file depends on the file,
on the directories on the way to it and on the rules that hold in them; so two trees that agree in
these give the file or leave it out together.

* `Disk.mem_namesIn_iff`: the names in a directory are those under which something stands.
* `nodup_walk`, `of_mem_walk`: a scan gives each file once, and nothing but files.
* `mem_walk_of_same`: a file is given in a tree that agrees on its way with one in which it is
  given.
-/

namespace ModuleDocs

namespace Disk

variable {d d' : Disk} {p q : Place} {name : String} {names : List String} {e : Entry}

/-! ### Names in a directory -/

/-- A directory lists what lies in it. -/
theorem mem_namesIn_iff : name ∈ d.namesIn p ↔ d.entry? (p ++ [name]) ≠ none := by
  have hne : p ++ [name] ≠ [] := by simp
  rw [namesIn, List.mem_filterMap, entry?, if_neg hne, ne_eq, List.lookup_eq_none_iff]
  push Not
  constructor
  · rintro ⟨⟨q, e⟩, hmem, hq⟩
    split at hq
    case isTrue hp =>
      refine ⟨(q, e), hmem, ?_⟩
      obtain ⟨front, rfl⟩ := List.getLast?_eq_some_iff.mp hq
      rw [List.dropLast_concat] at hp
      simp [hp]
    case isFalse => cases hq
  · rintro ⟨⟨q, e⟩, hmem, hq⟩
    obtain rfl : p ++ [name] = q := by simpa using hq
    exact ⟨_, hmem, by simp⟩

/-- No name is listed twice. -/
theorem nodup_namesIn (h : d.Sound) (p : Place) : (d.namesIn p).Nodup := by
  have hkeys : d.namesIn p =
      (d.entries.map Prod.fst).filterMap fun q => if q.dropLast = p then q.getLast? else none := by
    rw [namesIn, List.filterMap_map]
    rfl
  rw [hkeys]
  refine h.nodup.filterMap fun q q' name hq hq' => ?_
  -- a place is given by the place above it and its last name
  have hplace : ∀ {q : Place}, name ∈ (if q.dropLast = p then q.getLast? else none) →
      q = p ++ [name] := by
    intro q hq
    split at hq
    case isTrue hp =>
      obtain ⟨front, rfl⟩ := List.getLast?_eq_some_iff.mp hq
      rw [List.dropLast_concat] at hp
      rw [hp]
    case isFalse => cases hq
  rw [hplace hq, hplace hq']

/-- What stands below a place stands below a directory, however far below. -/
theorem Rooted.of_prefix (h : d.Rooted) (hq : d.entry? q ≠ none) (hp : p <+: q) (hne : p ≠ q) :
    d.entry? p = some .directory := by
  obtain ⟨l, rfl⟩ := hp
  obtain ⟨name, l, rfl⟩ := List.exists_cons_of_ne_nil (l := l) (by rintro rfl; simp at hne)
  by_contra hnot
  refine hq ?_
  have hbelow : d.entry? (p ++ [name]) = none := by
    by_contra hb
    exact hnot (h p name hb)
  rw [List.append_cons]
  exact h.entry?_eq_none hbelow l

/-- A tree has a place for every name on the way to what stands in it. -/
theorem Rooted.length_le (h : d.Rooted) (hp : d.entry? p ≠ none) : p.length ≤ d.entries.length := by
  have hsub : (List.range p.length).map (fun n => p.take (n + 1)) ⊆ d.entries.map Prod.fst := by
    intro l hl
    obtain ⟨n, hn, rfl⟩ := List.mem_map.mp hl
    have hne : p.take (n + 1) ≠ [] := by
      intro e
      have := congrArg List.length e
      rw [List.length_take, List.length_nil] at this
      have := List.mem_range.mp hn
      omega
    have hl : d.entry? (p.take (n + 1)) ≠ none := by
      by_cases hlp : p.take (n + 1) = p
      · rwa [hlp]
      · rw [h.of_prefix hp (List.take_prefix _ _) hlp]
        exact nofun
    obtain ⟨e, he⟩ := Option.ne_none_iff_exists'.mp hl
    exact List.mem_map.mpr ⟨_, mem_entries hne he, rfl⟩
  have hnodup : ((List.range p.length).map fun n => p.take (n + 1)).Nodup := by
    refine List.nodup_range.map_on fun a ha b hb hab => ?_
    have hlen := congrArg List.length hab
    rw [List.length_take, List.length_take] at hlen
    have := List.mem_range.mp ha
    have := List.mem_range.mp hb
    omega
  simpa using (hnodup.subperm hsub).length_le

/-! ### Ways that two trees share -/

/-- Dots lead nowhere else. -/
theorem descend_of_dots (h : ∀ name ∈ names, name = ".") :
    d.descend p names = .ok (.entry p .directory) := by
  induction names with
  | nil => rfl
  | cons name rest ih =>
      obtain ⟨rfl, hrest⟩ := List.forall_mem_cons.mp h
      rw [(Enters.here p).descend_eq]
      exact ih hrest

/-- **A way without `..` is found again** in a tree in which the same stands at its end. -/
theorem descend_of_same (hr : d.Rooted) (hup : ".." ∉ names)
    (h : d'.descend p names = .ok (.entry q e)) (he : d.entry? q = some e) :
    d.descend p names = .ok (.entry q e) := by
  induction names generalizing p with
  | nil => exact h
  | cons name rest ih =>
      rw [List.mem_cons, not_or] at hup
      rcases descend_cons_eq_ok h with ⟨p', hp', h'⟩ | ⟨rfl, hdot, hup', hs, hplace, -, hne⟩
      · cases hp' with
        | here =>
            rw [(Enters.here p).descend_eq]
            exact ih hup.2 h'
        | up => exact absurd rfl hup.1
        | down hdot hup' hs =>
            have hq : q = p ++ [name] ++ rest.filter (· ≠ ".") := place_of_descend hup.2 h'
            have hdir : d.entry? (p ++ [name]) = some .directory := by
              by_cases hend : p ++ [name] = q
              · -- only steps that stay are left, so that a directory was found
                have hdots : ∀ n ∈ rest, n = "." := by
                  have hnil := List.append_right_eq_self.mp (hq.symm.trans hend.symm)
                  simpa using List.filter_eq_nil_iff.mp hnil
                rw [descend_of_dots hdots] at h'
                cases h'
                exact he
              · exact hr.of_prefix (by rw [he]; exact nofun) ⟨_, hq.symm⟩ hend
            rw [(Enters.down hdot hup' hs hdir).descend_eq]
            exact ih hup.2 h'
      · obtain rfl : q = p ++ [name] := hplace
        rw [descend_of_ne d p hdot hup' hs, he]
        cases e with
        | directory => exact absurd rfl hne
        | file | link => rfl

end Disk

/-- A slash at the end of a path does not lead up. -/
theorem Path.up_notMem_steps {path : String} (h : ".." ∉ names path) : ".." ∉ Disk.steps path := by
  rw [Disk.steps, List.mem_append, not_or]
  refine ⟨h, ?_⟩
  split <;> decide

namespace Files

variable {fs fs' : Files} {path : String} {p q : Place} {e : Entry} {follow : Bool}
  {content : ByteArray}

theorem entry?_eq_some_iff :
    fs.entry? path = some (q, e) ↔ fs.find true path = .ok (.entry q e) := by
  unfold entry?
  split
  case h_1 place e' h => simp [h]
  case h_2 h => simpa using h q e

/-- A path leads to what its steps lead to. -/
theorem entry?_of_steps (h : fs.disk.LinkFree) (hne : path ≠ "") (hu : Usable path)
    (hd : fs.disk.descend (fs.start path) (Disk.steps path) = .ok (.entry q e)) :
    fs.entry? path = some (q, e) :=
  entry?_eq_some_iff.mpr ((find_eq_ok_iff h).mpr ⟨hne, hu, hd⟩)

/-- What is read is the content of a file that is found. -/
theorem read_eq_ok_iff :
    fs.read path = .ok content ↔ ∃ q, fs.entry? path = some (q, .file content) := by
  simp only [entry?_eq_some_iff]
  unfold read
  split
  case h_1 h => simp [h]
  case h_2 hne h =>
    simp only [reduceCtorEq, h, Except.ok.injEq, Disk.Found.entry.injEq, false_iff, not_exists,
      not_and]
    rintro q rfl rfl
    exact hne _ rfl
  case h_3 h => simp [h]
  case h_4 h => simp [h]

/-- A path without `..` leads to what stands at the place that it spells. -/
theorem Sound.entry?_spelled (h : fs.Sound) (hup : ".." ∉ Path.names path)
    (hf : fs.entry? path = some (q, e)) :
    q = fs.spelled path ∧ fs.disk.entry? (fs.spelled path) = some e := by
  have hf := entry?_eq_some_iff.mp hf
  obtain ⟨-, -, hd⟩ := (find_eq_ok_iff h.disk.linkFree).mp hf
  have hdots : (Disk.steps path).filter (· ≠ ".") = Path.down path := by
    rw [Disk.steps, List.filter_append, Path.down]
    split <;> simp
  have hq : q = fs.spelled path := by
    have hplace := Disk.place_of_descend (Path.up_notMem_steps hup) hd
    rwa [hdots] at hplace
  exact ⟨hq, hq ▸ h.entry?_of_find hf⟩

/-- A path finds on one disk what it finds on another, if the same entry lies there. -/
theorem entry?_of_same (h : fs.Sound) (h' : fs'.Sound) (hw : fs'.workDir = fs.workDir)
    (hup : ".." ∉ Path.names path) (hf : fs'.entry? path = some (q, e))
    (he : fs.disk.entry? q = some e) : fs.entry? path = some (q, e) := by
  rw [entry?_eq_some_iff] at hf ⊢
  obtain ⟨hne, hu, hd⟩ := (find_eq_ok_iff h'.disk.linkFree).mp hf
  refine (find_eq_ok_iff h.disk.linkFree).mpr ⟨hne, hu, ?_⟩
  have hstart : fs'.start path = fs.start path := by rw [start, start, hw]
  rw [hstart] at hd
  exact Disk.descend_of_same h.disk.rooted (Path.up_notMem_steps hup) hd he

/-- **A path without `..` leads to the same in two trees** in which the same stands at the place
that it spells. -/
theorem entry?_iff_of_same (h : fs.Sound) (h' : fs'.Sound) (hw : fs'.workDir = fs.workDir)
    (hup : ".." ∉ Path.names path) (he : fs'.disk.entry? (fs.spelled path) = some e ↔
      fs.disk.entry? (fs.spelled path) = some e) :
    fs'.entry? path = some (q, e) ↔ fs.entry? path = some (q, e) := by
  have hspelled : fs'.spelled path = fs.spelled path := by
    rw [spelled, spelled, start, start, hw]
  constructor
  · intro hf
    obtain ⟨hq, hfe⟩ := h'.entry?_spelled hup hf
    rw [hspelled] at hq hfe
    exact entry?_of_same h h' hw hup hf (hq ▸ he.mp hfe)
  · intro hf
    obtain ⟨hq, hfe⟩ := h.entry?_spelled hup hf
    exact entry?_of_same h' h hw.symm hup hf (hq ▸ he.mpr hfe)

/-- A directory that was found is found again. -/
theorem Keeps.entry?_directory (hk : Keeps fs fs') (h : fs.disk.LinkFree)
    (hf : fs.entry? path = some (q, .directory)) : fs'.entry? path = some (q, .directory) := by
  rw [entry?_eq_some_iff] at hf ⊢
  obtain ⟨hne, hu, hd⟩ := (find_eq_ok_iff h).mp hf
  have hstart : fs'.start path = fs.start path := by rw [start, start, hk.workDir]
  exact (find_eq_ok_iff hk.linkFree).mpr ⟨hne, hu, hstart ▸ hk.directories.descend hd⟩

end Files

namespace Scan

open Ignore (Level)

variable {fs fs' : Files} {seen : List String → List String} {place : Place}
  {scope : Ignore.Scope} {n m : Nat} {names found : List String}

/-! ### What a scan gives -/

/-- The entry is a directory. -/
def isDirectoryAt (fs : Files) (p : Place) : Bool :=
  match fs.disk.entry? p with
  | some .directory => true
  | _ => false

theorem isDirectoryAt_eq_true {p : Place} :
    isDirectoryAt fs p = true ↔ fs.disk.entry? p = some .directory := by
  unfold isDirectoryAt
  split
  case h_1 h => simp [h]
  case h_2 h => simpa using h

/-- What a scan of a directory gives under one of the names in it. -/
def walkName (fs : Files) (seen : List String → List String) (place : Place) (n : Nat)
    (scope : Ignore.Scope) (names : List String) (name : String) : List (List String) :=
  if scope.verdict? (place ++ (names ++ [name])) (seen (names ++ [name]))
      (isDirectoryAt fs (place ++ (names ++ [name]))) = some .ignored then []
  else if isDirectoryAt fs (place ++ (names ++ [name])) then
    walk fs seen place n scope (names ++ [name])
  else if (fileSize? fs (place ++ (names ++ [name]))).isSome then [names ++ [name]]
  else []

theorem walk_succ : walk fs seen place (n + 1) scope names =
    (fs.disk.namesIn (place ++ names)).flatMap
      (walkName fs seen place n (scope.enter fs (place ++ names)) names) := rfl

/-- **What a scan gives under a name** that no rule leaves out: the file, or what a scan of the
directory gives. -/
theorem mem_walkName_iff {name : String} : found ∈ walkName fs seen place n scope names name ↔
    scope.verdict? (place ++ (names ++ [name])) (seen (names ++ [name]))
        (isDirectoryAt fs (place ++ (names ++ [name]))) ≠ some .ignored ∧
      ((isDirectoryAt fs (place ++ (names ++ [name])) = true ∧
          found ∈ walk fs seen place n scope (names ++ [name])) ∨
        (isDirectoryAt fs (place ++ (names ++ [name])) = false ∧
          (fileSize? fs (place ++ (names ++ [name]))).isSome = true ∧
          found = names ++ [name])) := by
  unfold walkName
  split
  case isTrue hv => simp [hv]
  case isFalse hv =>
    simp only [ne_eq, hv, not_false_eq_true, true_and]
    cases isDirectoryAt fs (place ++ (names ++ [name])) with
    | true => simp
    | false => cases (fileSize? fs (place ++ (names ++ [name]))).isSome <;> simp

/-- A walk goes through the names of a directory. -/
theorem mem_walk_succ_iff : found ∈ walk fs seen place (n + 1) scope names ↔
    ∃ name, fs.disk.entry? (place ++ names ++ [name]) ≠ none ∧
      found ∈ walkName fs seen place n (scope.enter fs (place ++ names)) names name := by
  rw [walk_succ, List.mem_flatMap]
  simp only [Disk.mem_namesIn_iff]

/-- A scan gives files below its directory, and nothing else. -/
theorem of_mem_walk (h : found ∈ walk fs seen place n scope names) :
    (∃ name rest, found = names ++ name :: rest) ∧ fs.disk.entry? (place ++ found) ≠ none ∧
      fs.disk.entry? (place ++ found) ≠ some .directory ∧
      (fileSize? fs (place ++ found)).isSome = true := by
  induction n generalizing scope names with
  | zero => cases h
  | succ n ih =>
      obtain ⟨name, hne, hmem⟩ := mem_walk_succ_iff.mp h
      obtain ⟨-, ⟨-, hmem⟩ | ⟨hd, hs, rfl⟩⟩ := mem_walkName_iff.mp hmem
      · obtain ⟨⟨next, rest, rfl⟩, hfile⟩ := ih hmem
        exact ⟨⟨name, next :: rest, by simp⟩, hfile⟩
      · refine ⟨⟨name, [], rfl⟩, by rwa [← List.append_assoc], fun e => ?_, hs⟩
        rw [isDirectoryAt_eq_true.mpr e] at hd
        cases hd

/-- What is given under a name starts with it. -/
theorem of_mem_walkName {name : String} (h : found ∈ walkName fs seen place n scope names name) :
    names ++ [name] <+: found := by
  obtain ⟨-, ⟨-, hmem⟩ | ⟨-, -, rfl⟩⟩ := mem_walkName_iff.mp h
  · obtain ⟨⟨next, rest, rfl⟩, -⟩ := of_mem_walk hmem
    exact List.prefix_append _ _
  · exact List.prefix_refl _

/-- **A scan gives no file twice.** -/
theorem nodup_walk (h : fs.disk.Sound) (seen : List String → List String) (place : Place) (n : Nat)
    (scope : Ignore.Scope) (names : List String) : (walk fs seen place n scope names).Nodup := by
  induction n generalizing scope names with
  | zero => exact List.nodup_nil
  | succ n ih =>
      rw [walk_succ, List.nodup_flatMap]
      constructor
      · intro name _
        unfold walkName
        split
        · exact List.nodup_nil
        · split
          · exact ih _ _
          · split
            · exact List.nodup_singleton _
            · exact List.nodup_nil
      · refine (Disk.nodup_namesIn h _).pairwise_of_forall_ne fun a _ b _ hab found ha hb => hab ?_
        have hpre := List.prefix_of_prefix_length_le (of_mem_walkName ha) (of_mem_walkName hb)
          (by simp)
        simpa using hpre

/-- **A file that a scan gives is given in another tree,** if the two agree on the way to it and the
scan goes deep enough. -/
theorem mem_walk_of_same
    (hentry : ∀ l, l <+: found → fs'.disk.entry? (place ++ l) = fs.disk.entry? (place ++ l))
    (hlevel : ∀ l, l <+: found → l ≠ found →
      Level.read fs' (place ++ l) = Level.read fs (place ++ l))
    (hsize : fileSize? fs' (place ++ found) = fileSize? fs (place ++ found))
    (h : found ∈ walk fs seen place n scope names) (hm : found.length ≤ names.length + m) :
    found ∈ walk fs' seen place m scope names := by
  induction n generalizing m scope names with
  | zero => cases h
  | succ n ih =>
      obtain ⟨⟨first, rest, hfound⟩, -⟩ := of_mem_walk h
      obtain ⟨m, rfl⟩ : ∃ k, m = k + 1 := by
        rw [hfound, List.length_append, List.length_cons] at hm
        exact ⟨m - 1, by omega⟩
      have henter : scope.enter fs' (place ++ names) = scope.enter fs (place ++ names) := by
        rw [Ignore.Scope.enter, Ignore.Scope.enter,
          hlevel names ⟨_, hfound.symm⟩ (by simp [hfound])]
      obtain ⟨name, hne, hname⟩ := mem_walk_succ_iff.mp h
      have hpre := of_mem_walkName hname
      obtain ⟨hv, hmem⟩ := mem_walkName_iff.mp hname
      have hdir : isDirectoryAt fs' (place ++ (names ++ [name])) =
          isDirectoryAt fs (place ++ (names ++ [name])) := by
        rw [isDirectoryAt, isDirectoryAt, hentry _ hpre]
      refine mem_walk_succ_iff.mpr ⟨name, ?_, mem_walkName_iff.mpr ⟨?_, ?_⟩⟩
      · rw [List.append_assoc, hentry _ hpre, ← List.append_assoc]
        exact hne
      · rw [henter, hdir]
        exact hv
      · rw [henter, hdir]
        refine hmem.imp (fun ⟨hd, hmem⟩ => ⟨hd, ih hmem ?_⟩) fun ⟨hd, hs, he⟩ => ⟨hd, ?_, he⟩
        · rw [List.length_append, List.length_singleton]
          omega
        · rw [← he, hsize, he]
          exact hs

end Scan

end ModuleDocs
