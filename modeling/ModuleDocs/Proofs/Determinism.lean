import ModuleDocs.Build
import ModuleDocs.Proofs.Builtins
import ModuleDocs.Proofs.Reports
import ModuleDocs.Proofs.Tree

/-!
# Proofs — Determinism

A report is sorted by path, and the sort is stable: modules of one path stand in the order in which
they ended.  So the order in which tasks end shows in the report exactly where two tasks of one path
have different outcomes, and two tasks can be under way at once.

* `sortBy_eq_of_perm`: a sort forgets the order if no two different elements have one key.
* `completions_hold`: with two tasks under way a task can be held back until all others have ended.
* `sort_completions_iff`: what is sorted after the tasks have ended is the same for every order,
  exactly if no two different elements have one key.
* `report_determined_iff`, `document_determined_iff`: the same of the report on a batch, and of the
  report on module files.
-/

namespace ModuleDocs

/-! ### Sorting what comes in any order -/

section

variable {α β : Type} {key : β → String}

/-- **A sort forgets the order of a list** without different elements of one key. -/
theorem sortBy_eq_of_perm {l l' : List β} (h : l.Perm l')
    (hk : ∀ a ∈ l, ∀ b ∈ l, key a = key b → a = b) : sortBy key l = sortBy key l' := by
  have hl := sortBy_perm key l
  refine List.Perm.eq_of_pairwise (fun a b ha hb hab hba => ?_) (sortBy_sortedBy key l).ordered
    (sortBy_sortedBy key l').ordered (hl.trans (h.trans (sortBy_perm key l').symm))
  exact hk a (hl.mem_iff.mp ha) b (h.mem_iff.mpr ((sortBy_perm key l').mem_iff.mp hb))
    (le_antisymm hab hba)

theorem eq_of_cons_eq_concat {a : β} {l : List β} (h : a :: l = l ++ [a]) : ∀ b ∈ l, b = a := by
  induction l with
  | nil => exact nofun
  | cons c l ih =>
      rw [List.cons_append] at h
      obtain ⟨rfl, h⟩ := List.cons.inj h
      exact List.forall_mem_cons.mpr ⟨rfl, ih h⟩

/-- If an element can move to the end of a list unnoticed, the later ones of its key are equal to
it. -/
theorem eq_of_sortBy_move {pre later : List β} {a b : β}
    (h : sortBy key (pre ++ a :: later) = sortBy key (pre ++ later ++ [a])) (hb : b ∈ later)
    (hk : key b = key a) : b = a := by
  have hf : (pre ++ a :: later).filter (key · = key a) =
      (pre ++ later ++ [a]).filter (key · = key a) := by
    rw [← (sortBy_sortedBy key _).stable, h, (sortBy_sortedBy key _).stable]
  simp only [List.append_assoc, List.filter_append, List.append_right_inj, List.filter_cons,
    decide_true, ↓reduceIte, List.filter_nil] at hf
  exact eq_of_cons_eq_concat hf b (List.mem_filter.mpr ⟨hb, decide_eq_true hk⟩)

end

namespace Batch

/-! ### Orders in which tasks can end -/

section

variable {α β : Type} {width : Nat} {picks : List Nat}

theorem completions_zero (width : Nat) (picks : List Nat) (t : α) (ts : List α) :
    completions width (0 :: picks) (t :: ts) = t :: completions width picks ts := by
  rw [completions]
  simp

/-- Without picks the tasks end in order. -/
theorem completions_first (width : Nat) (ts : List α) : completions width [] ts = ts := by
  induction ts with
  | nil => rw [completions]
  | cons t ts ih =>
      rw [completions]
      simp [ih]

/-- The second of two running tasks may end first. -/
theorem completions_second (hw : 2 ≤ width) (picks : List Nat) (x y : α) (ts : List α) :
    completions width (1 :: picks) (x :: y :: ts) = y :: completions width picks (x :: ts) := by
  have hmod : 1 % min (max 1 width) (ts.length + 1 + 1) = 1 := Nat.mod_eq_of_lt (by omega)
  rw [completions]
  simp [hmod]

/-- One task at a time ends in the order of the tasks. -/
theorem completions_of_le_one (hw : width ≤ 1) (picks : List Nat) (ts : List α) :
    completions width picks ts = ts := by
  induction ts generalizing picks with
  | nil => rw [completions]
  | cons t ts ih =>
      have hunder : min (max 1 width) (ts.length + 1) = 1 := by omega
      rw [completions]
      simp [hunder, Nat.mod_one, ih]

/-- **With two tasks under way** one can be held back until all others have ended. -/
theorem completions_hold (hw : 2 ≤ width) (pre : List α) (x : α) (later : List α) :
    ∃ picks, completions width picks (pre ++ x :: later) = pre ++ later ++ [x] := by
  have hlast : ∀ later : List α, completions width (List.replicate later.length 1) (x :: later) =
      later ++ [x] := by
    intro later
    induction later with
    | nil => exact completions_first width [x]
    | cons y later ih =>
        rw [List.length_cons, List.replicate_succ, completions_second hw, ih]
        rfl
  refine ⟨List.replicate pre.length 0 ++ List.replicate later.length 1, ?_⟩
  induction pre with
  | nil => exact hlast later
  | cons t pre ih =>
      rw [List.length_cons, List.replicate_succ, List.cons_append, List.cons_append,
        completions_zero, ih]
      rfl

/-- **What is sorted after all tasks have ended.** -/
theorem sort_completions_iff (hw : 2 ≤ width) (g : α → Option β) (key : β → String)
    (tasks : List α) :
    (∀ picks picks', sortBy key ((completions width picks tasks).filterMap g) =
        sortBy key ((completions width picks' tasks).filterMap g)) ↔
      ∀ a ∈ tasks.filterMap g, ∀ b ∈ tasks.filterMap g, key a = key b → a = b := by
  constructor
  · intro h
    -- the earlier of two tasks, held back, shows in the report if the later one differs
    have hlater : ∀ {pre later : List α} {x y : α} {a b : β}, tasks = pre ++ x :: later →
        y ∈ later → g x = some a → g y = some b → key b = key a → b = a := by
      rintro pre later x y a b rfl hy hx hgy hk
      obtain ⟨picks, hp⟩ := completions_hold hw pre x later
      have hs := h [] picks
      rw [completions_first, hp, List.filterMap_append, List.filterMap_append,
        List.filterMap_append, List.filterMap_cons_some hx, List.filterMap_cons_some hx] at hs
      exact eq_of_sortBy_move hs (List.mem_filterMap.mpr ⟨y, hy, hgy⟩) hk
    intro a ha b hb hk
    obtain ⟨x, hx, hgx⟩ := List.mem_filterMap.mp ha
    obtain ⟨y, hy, hgy⟩ := List.mem_filterMap.mp hb
    obtain ⟨pre, later, hl⟩ := List.append_of_mem hx
    rw [hl, List.mem_append, List.mem_cons] at hy
    rcases hy with hy | rfl | hy
    · obtain ⟨pre', later', rfl⟩ := List.append_of_mem hy
      rw [List.append_assoc, List.cons_append] at hl
      exact hlater hl (by simp) hgy hgx hk
    · exact Option.some.inj (hgx.symm.trans hgy)
    · exact (hlater hl hy hgx hgy hk.symm).symm
  · intro h picks picks'
    have hp : ∀ picks, ((completions width picks tasks).filterMap g).Perm (tasks.filterMap g) :=
      fun picks => (completions_perm width picks tasks).filterMap g
    rw [← sortBy_eq_of_perm (hp picks).symm h, ← sortBy_eq_of_perm (hp picks').symm h]

end

/-! ### Reports -/

/-- No two outcomes of one path can be told apart in a report. -/
def Agrees (tasks : List Ended) : Prop :=
  (∀ a ∈ documented tasks, ∀ b ∈ documented tasks, a.path = b.path → a = b) ∧
    ∀ a ∈ failed tasks, ∀ b ∈ failed tasks, a.path = b.path → a = b

/-- **A report shows the order in which tasks ended** exactly if two of them can be under way at
once and two outcomes of one path differ. -/
theorem report_determined_iff (width : Nat) (tasks : List Ended) :
    (∀ picks picks', report (completions width picks tasks) =
        report (completions width picks' tasks)) ↔ width ≤ 1 ∨ Agrees tasks := by
  have hreport : ∀ ended ended', report ended = report ended' ↔
      sortBy ModuleDoc.path (documented ended) = sortBy ModuleDoc.path (documented ended') ∧
        sortBy ModuleFailure.path (failed ended) = sortBy ModuleFailure.path (failed ended') :=
    fun ended ended' => ⟨fun h => Report.mk.inj h, fun h => congrArg₂ Report.mk h.1 h.2⟩
  rcases Nat.lt_or_ge 1 width with hw | hw
  · have hd := sort_completions_iff hw (fun task : Ended => task.2.toOption) ModuleDoc.path tasks
    have hf := sort_completions_iff hw failureOf ModuleFailure.path tasks
    simp only [hreport, forall_and, failed_eq, Agrees, documented, Nat.not_le.mpr hw, false_or]
    exact and_congr hd hf
  · simp [completions_of_le_one hw, hw]

/-- Two outcomes that a report shows alike if they have one path: the same documentation, or
failures in the same words, or documentation and a failure, which are listed apart. -/
def Alike : Except Failure ModuleDoc → Except Failure ModuleDoc → Prop
  | .ok r, .ok r' => r = r'
  | .error e, .error e' => e.message = e'.message
  | _, _ => True

theorem alike_refl (result : Except Failure ModuleDoc) : Alike result result := by
  cases result <;> rfl

section

variable {outcome : ModuleFile → Except Failure ModuleDoc} {files : List ModuleFile}

/-- The records are those of the tasks that ended well. -/
theorem mem_documented {r : ModuleDoc} :
    r ∈ documented (files.map fun m => (m, outcome m)) ↔ ∃ m ∈ files, outcome m = .ok r := by
  simp only [documented, List.filterMap_map, List.mem_filterMap, Function.comp_apply]
  refine exists_congr fun m => and_congr_right fun _ => ?_
  cases outcome m <;> simp [Except.toOption]

/-- The failures are those of the other tasks. -/
theorem mem_failed {f : ModuleFailure} : f ∈ failed (files.map fun m => (m, outcome m)) ↔
    ∃ m ∈ files, ∃ e, outcome m = .error e ∧ f = ⟨m.relative, e.message⟩ := by
  simp only [failed_eq, List.filterMap_map, List.mem_filterMap, Function.comp_apply]
  refine exists_congr fun m => and_congr_right fun _ => ?_
  cases outcome m <;> simp [failureOf, eq_comm]

/-- Where every module is documented under its own path, what agrees is what came of the files of
one path. -/
theorem agrees_iff (hpath : ∀ m r, outcome m = .ok r → r.path = m.relative) :
    Agrees (files.map fun m => (m, outcome m)) ↔
      ∀ m ∈ files, ∀ n ∈ files, m.relative = n.relative → Alike (outcome m) (outcome n) := by
  constructor
  · intro h m hm n hn hmn
    cases hom : outcome m with
    | ok r =>
        cases hon : outcome n with
        | ok r' =>
            refine h.1 r (mem_documented.mpr ⟨m, hm, hom⟩) r' (mem_documented.mpr ⟨n, hn, hon⟩) ?_
            rw [hpath m r hom, hpath n r' hon, hmn]
        | error e' => exact trivial
    | error e =>
        cases hon : outcome n with
        | ok r' => exact trivial
        | error e' =>
            exact congrArg ModuleFailure.error (h.2 _ (mem_failed.mpr ⟨m, hm, e, hom, rfl⟩) _
              (mem_failed.mpr ⟨n, hn, e', hon, rfl⟩) hmn)
  · intro h
    refine ⟨fun r hr r' hr' hp => ?_, fun f hf f' hf' hp => ?_⟩
    · obtain ⟨m, hm, hom⟩ := mem_documented.mp hr
      obtain ⟨n, hn, hon⟩ := mem_documented.mp hr'
      rw [hpath m r hom, hpath n r' hon] at hp
      have ha := h m hm n hn hp
      rwa [hom, hon] at ha
    · obtain ⟨m, hm, e, hom, rfl⟩ := mem_failed.mp hf
      obtain ⟨n, hn, e', hon, rfl⟩ := mem_failed.mp hf'
      have ha := h m hm n hn hp
      rw [hom, hon] at ha
      rw [show m.relative = n.relative from hp, show e.message = e'.message from ha]

end

end Batch

/-! ### The path of a module -/

namespace Draft

/-- No comment changes the path of a record. -/
theorem path_add (rules : Rules) (d : Draft) (c : Comment) :
    (d.add rules c).header.path = d.header.path := by
  obtain ⟨b, hb, hadd⟩ := d.add_cases rules c
  rw [hadd]
  cases hb with
  | description =>
      show (d.header.withDeprecation c.deprecation?).path = _
      cases c.deprecation? <;> rfl
  | _ => rfl

/-- Nor do many of them. -/
theorem path_addAll (rules : Rules) (d : Draft) (cs : List Comment) :
    (d.addAll rules cs).header.path = d.header.path := by
  induction cs generalizing d with
  | nil => rfl
  | cons c cs ih => exact (ih (d.add rules c)).trans (path_add rules d c)

end Draft

namespace Extension

/-- Built-in extensions leave the path of a module. -/
theorem path_applyModule {names : List String} {es : List Extension} (h : ofNames names = .ok es)
    (r : ModuleDoc) : (applyModule es r).path = r.path := by
  rw [applyModule_ofNames h, iterate_stripExtension]

end Extension

namespace Assembler

/-- **A module is documented under the path it is given.** -/
theorem path_assemble {s : AssemblySettings} {a : Assembler} (h : ofSettings s = .ok a)
    (module : Identity) (cs : List Comment) : (a.assemble module cs).path = module.path := by
  have hseed : (a.seed module).path = module.path := by
    unfold ofSettings at h
    cases hes : Extension.ofNames s.extensions with
    | error f =>
        rw [hes] at h
        cases h
    | ok es =>
        rw [hes] at h
        cases h
        exact Extension.path_applyModule hes _
  have hstart : ∀ cs, (a.start module cs).header.path = (a.seed module).path := by
    intro cs
    unfold start
    cases a.resolution <;> rfl
  exact (Draft.path_addAll a.rules _ _).trans ((hstart _).trans hseed)

/-- A record has the path of its module. -/
theorem path_document {s : AssemblySettings} {a : Assembler} (h : ofSettings s = .ok a)
    {module : Identity} {acquired : Except Failure (List Comment)} {r : ModuleDoc}
    (hr : a.document module acquired = .ok r) : r.path = module.path := by
  unfold document at hr
  split at hr
  · cases hr
    exact path_assemble h module _
  · split at hr
    · cases hr
      exact path_assemble h module []
    · cases hr

end Assembler

namespace Build

section

variable {s : AssemblySettings} {a : Assembler}

/-- What comes of a module file. -/
def outcome (a : Assembler) (s : AssemblySettings) (run : Runner) (fs : Files) :
    ModuleFile → Except Failure ModuleDoc :=
  Batch.process a (fun path text => (Source.ofSettings s).comments run path text) fs

/-- A record has the path of its file. -/
theorem path_outcome (ha : Assembler.ofSettings s = .ok a) (run : Runner) (fs : Files)
    (m : ModuleFile) (r : ModuleDoc) (hr : outcome a s run fs m = .ok r) : r.path = m.relative := by
  unfold outcome Batch.process at hr
  split at hr
  · cases hr
  · exact Assembler.path_document ha hr

/-- A run is the conclusion from the outcomes, in the order in which they come. -/
theorem document_eq_conclude (ha : Assembler.ofSettings s = .ok a) (run : Runner) (fs : Files)
    (picks : List Nat) (files : List ModuleFile) :
    document run fs s picks files = Batch.conclude s.failurePolicy
      (Batch.completions s.concurrency picks (files.map fun m => (m, outcome a s run fs m))) := by
  rw [document, ha]
  rfl

/-- Where failures are reported there always is a report on the files. -/
theorem document_eq (ha : Assembler.ofSettings s = .ok a) (hp : s.failurePolicy = .isolate)
    (run : Runner) (fs : Files) (picks : List Nat) (files : List ModuleFile) :
    document run fs s picks files = .ok (Batch.report (Batch.completions s.concurrency picks
      (files.map fun m => (m, outcome a s run fs m)))) := by
  rw [document_eq_conclude ha, hp]
  rfl

/-- **When the report on module files is determined.**  In whatever order the modules end, the
report is the same exactly if they are documented one at a time, or what comes of two files of one
relative path is the same.  Files of one relative path can come from different roots. -/
theorem document_determined_iff (ha : Assembler.ofSettings s = .ok a)
    (hp : s.failurePolicy = .isolate) (run : Runner) (fs : Files) (files : List ModuleFile) :
    (∀ picks picks', document run fs s picks files = document run fs s picks' files) ↔
      s.concurrency ≤ 1 ∨ ∀ m ∈ files, ∀ n ∈ files, m.relative = n.relative →
        Batch.Alike (outcome a s run fs m) (outcome a s run fs n) := by
  simp only [document_eq ha hp, Except.ok.injEq]
  rw [Batch.report_determined_iff, Batch.agrees_iff (path_outcome ha run fs)]

/-- Files of different relative paths, of which one is missing. -/
theorem document_determined_iff_distinct :
    let fs : Files := { disk := { entries := [(["b.json"], .file "[]".toUTF8)] } }
    Assembler.ofSettings {} = .ok (Assembler.withExtensions {} []) ∧
    ∀ picks picks',
      document (fun _ _ => .timedOut) fs {} picks
          [⟨"a.json", "a.json"⟩, ⟨"b.json", "b.json"⟩] =
        document (fun _ _ => .timedOut) fs {} picks'
          [⟨"a.json", "a.json"⟩, ⟨"b.json", "b.json"⟩] := by
  intro fs
  have ha : Assembler.ofSettings {} = .ok (Assembler.withExtensions {} []) := rfl
  refine ⟨ha, (document_determined_iff ha rfl _ fs _).mpr (.inr fun m hm n hn hmn => ?_)⟩
  obtain rfl : m = n := by
    simp only [List.mem_cons, List.not_mem_nil, or_false] at hm hn
    rcases hm with rfl | rfl <;> rcases hn with rfl | rfl <;> first | rfl | simp at hmn
  exact Batch.alike_refl _

/-- **Roots that are files are the modules of a build,** each under its own path with slashes. -/
theorem collect_of_files {h : Host} {paths : List String} (hne : paths ≠ []) (s : Settings)
    (hf : ∀ path ∈ paths, ∃ place content,
      h.files.find true path = .ok (.entry place (.file content))) :
    collect h s paths = .ok (paths.map .standalone) := by
  have hexpand : ∀ path ∈ paths, expand h s path = .ok [.standalone path] := by
    intro path hmem
    obtain ⟨place, content, hfind⟩ := hf path hmem
    simp [expand, Files.isDirectory, Files.isFile, Files.entry?, hfind]
  have hall : paths.mapM (expand h s) = .ok (paths.map fun path => [.standalone path]) := by
    clear hf hne
    induction paths with
    | nil => rfl
    | cons path paths ih =>
        obtain ⟨hpath, hrest⟩ := List.forall_mem_cons.mp hexpand
        rw [List.mapM_cons, hpath, ih hrest]
        rfl
  have hflat : (paths.map fun path => [ModuleFile.standalone path]).flatten =
      paths.map .standalone := by rw [← List.flatMap_def, List.map_eq_flatMap]
  rw [collect, roots, if_neg (by simpa using hne), hall, Except.map, hflat]

/-- Two files under one relative path, of which the first describes the module.  The file that ends
first comes first in the report. -/
theorem report_shows_order :
    let text := "[\x7b\"description\":\"x\",\"kind\":\"description\"\x7d]"
    let fs : Files := { disk := { entries := [(["m\\n.json"], .file text.toUTF8),
      (["m"], .directory), (["m", "n.json"], .file "[]".toUTF8)] } }
    let s : Settings := { assembly := { renderMarkdown := false } }
    ∃ files, collect { files := fs, home := "/" } s ["m\\n.json", "m/n.json"] = .ok files ∧
      ¬ ∀ picks picks', document (fun _ _ => .timedOut) fs s.assembly picks files =
        document (fun _ _ => .timedOut) fs s.assembly picks' files := by
  intro text fs s
  have hlink : fs.disk.LinkFree := by decide
  have hm : fs.find true "m\\n.json" = .ok (.entry ["m\\n.json"] (.file text.toUTF8)) :=
    (Files.find_eq_ok_iff hlink).mpr ⟨by decide, by decide, rfl⟩
  have hn : fs.find true "m/n.json" = .ok (.entry ["m", "n.json"] (.file "[]".toUTF8)) :=
    (Files.find_eq_ok_iff hlink).mpr ⟨by decide, by decide, rfl⟩
  have ha : Assembler.ofSettings s.assembly = .ok (.withExtensions s.assembly []) := rfl
  refine ⟨[.standalone "m\\n.json", .standalone "m/n.json"], ?_, fun h => ?_⟩
  · refine collect_of_files (List.cons_ne_nil _ _) s (List.forall_mem_cons.mpr ⟨⟨_, _, hm⟩, ?_⟩)
    exact List.forall_mem_cons.mpr ⟨⟨_, _, hn⟩, nofun⟩
  · simp only [document_eq ha rfl, Except.ok.injEq] at h
    have hagree := (Batch.agrees_iff (path_outcome ha _ fs)).mp
      (((Batch.report_determined_iff _ _).mp h).resolve_left (by decide))
      (.standalone "m\\n.json") (by simp) (.standalone "m/n.json") (by simp) (by decide)
    have hread : fs.read (ModuleFile.standalone "m\\n.json").path = .ok text.toUTF8 := by
      rw [ModuleFile.standalone, Files.read, hm]
    have hread' : fs.read (ModuleFile.standalone "m/n.json").path = .ok "[]".toUTF8 := by
      rw [ModuleFile.standalone, Files.read, hn]
    have hom : outcome (.withExtensions s.assembly []) s.assembly (fun _ _ => .timedOut) fs
        (.standalone "m\\n.json") = .ok (Assembler.assemble (.withExtensions s.assembly [])
          ⟨"m/n.json", "m/n.json"⟩ [{ description := "x", kind := .description }]) := by
      refine (Batch.process_of_read hread).trans ?_
      decide +kernel
    have hon : outcome (.withExtensions s.assembly []) s.assembly (fun _ _ => .timedOut) fs
        (.standalone "m/n.json") = .ok (Assembler.assemble (.withExtensions s.assembly [])
          ⟨"m/n.json", "m/n.json"⟩ []) := by
      refine (Batch.process_of_read hread').trans ?_
      decide +kernel
    rw [hom, hon] at hagree
    exact absurd (congrArg ModuleDoc.description hagree) (by decide +kernel)

end

end Build

end ModuleDocs
