import ModuleDocs.Output
import ModuleDocs.Proofs.Tree
import Mathlib.Data.List.Nodup

/-!
# Proofs — Targets

The file of a module and the file of the index lie below the output directory, and they are known
before anything is written.

* `targetNames_leadsDown`: the names of a module's file lead down, whatever the module's path is, so
  that the file lies below the output directory.
* `Collide`: two records, or a record and the index, have one file.
* `planAll_eq_ok_iff`, `exists_of_planAll_eq_error`: a plan is made exactly if no files collide;
  otherwise it names the first record whose file is taken, and who took it.
-/

namespace ModuleDocs.Output

/-! ### Names of files -/

theorem onLast_concat (change : String → String) (front : List String) (name : String) :
    onLast change (front ++ [name]) = front ++ [change name] := by
  induction front with
  | nil => rfl
  | cons first front ih =>
      cases front with
      | nil => rfl
      | cons second front => exact congrArg (first :: ·) ih

/-- The name of a written file is the stem, a dot and the format. -/
theorem fileName_toList (f : OutputFormat) (stem : String) :
    (f.fileName stem).toList = stem.toList ++ '.' :: f.name.toList := by
  simp [OutputFormat.fileName]

/-- A written file has a normal name, whatever its stem is. -/
theorem isNormal_fileName (f : OutputFormat) (stem : String) :
    Path.isNormal (f.fileName stem) = true := by
  -- the name of a format alone is longer than `.` and `..`
  have hlen : 2 < (f.fileName stem).toList.length := by
    rw [fileName_toList]
    cases f <;> simp [OutputFormat.name]
  refine Path.isNormal_iff.mpr ⟨?_, ?_, ?_⟩ <;>
    · intro e
      rw [e] at hlen
      exact absurd hlen (by decide)

theorem noSlash_fileName (f : OutputFormat) {stem : String} (h : '/' ∉ stem.toList) :
    '/' ∉ (f.fileName stem).toList := by
  rw [fileName_toList, List.mem_append, not_or]
  refine ⟨h, ?_⟩
  cases f <;> decide

/-- A list of names with the extension of the format at its last one leads down. -/
theorem leadsDown_fileName (f : OutputFormat) (front : List String) {stem : String}
    (hn : ∀ name ∈ front, Path.isNormal name = true) (hs : ∀ name ∈ front, '/' ∉ name.toList)
    (h : '/' ∉ stem.toList) : Path.LeadsDown (front ++ [f.fileName stem]) where
  ne_nil := by simp
  normal name hmem := by
    rcases List.mem_append.mp hmem with hmem | hmem
    · exact hn name hmem
    · rw [List.mem_singleton.mp hmem]
      exact isNormal_fileName f stem
  noSlash name hmem := by
    rcases List.mem_append.mp hmem with hmem | hmem
    · exact hs name hmem
    · rw [List.mem_singleton.mp hmem]
      exact noSlash_fileName f h

/-- **The file of a module lies below the output directory,** whatever the module's path is. -/
theorem targetNames_leadsDown (f : OutputFormat) (path : String) :
    Path.LeadsDown (targetNames f path) := by
  have hmem : ∀ name ∈ Path.normalNames path, Path.isNormal name = true ∧ '/' ∉ name.toList :=
    fun name hn => ⟨(List.mem_filter.mp hn).2, Text.notMem_of_mem_split (List.mem_filter.mp hn).1⟩
  unfold targetNames
  split
  case h_1 => exact leadsDown_fileName f [] (by simp) (by simp) (by decide)
  case h_2 names hne =>
    obtain ⟨front, last, hlast⟩ :=
      List.eq_nil_or_concat' (Path.normalNames path) |>.resolve_left hne
    rw [hlast] at hmem ⊢
    rw [onLast_concat]
    refine leadsDown_fileName f front (fun name hn => ?_) (fun name hn => ?_) ?_
    · exact (hmem name (List.mem_append_left _ hn)).1
    · exact (hmem name (List.mem_append_left _ hn)).2
    · exact (hmem last (by simp)).2

theorem indexTarget_leadsDown (f : OutputFormat) : Path.LeadsDown [indexTarget f] :=
  leadsDown_fileName f [] (by simp) (by simp) (by decide)

theorem intercalate_indexTarget (f : OutputFormat) :
    "/".intercalate [indexTarget f] = indexTarget f :=
  String.intercalate_singleton

/-- A record goes to the place of the index exactly if its names do. -/
theorem target_eq_indexTarget_iff {f : OutputFormat} {p : String} :
    target f p = indexTarget f ↔ targetNames f p = [indexTarget f] := by
  rw [← intercalate_indexTarget]
  exact ⟨(targetNames_leadsDown f p).intercalate_injective (indexTarget_leadsDown f),
    congrArg ("/".intercalate ·)⟩

/-! ### Collisions -/

/-- Two records, or a record and the index, have one file. -/
def Collide (f : OutputFormat) (records : List ModuleDoc) : Prop :=
  (∃ (i j : Nat) (r s : ModuleDoc), i ≠ j ∧ records[i]? = some r ∧ records[j]? = some s ∧
    target f r.path = target f s.path) ∨
  ∃ r ∈ records, target f r.path = indexTarget f

/-- Nothing collides if the targets differ from one another and from the index. -/
theorem not_collide_iff {f : OutputFormat} {records : List ModuleDoc} :
    ¬ Collide f records ↔ (records.map fun r => target f r.path).Nodup ∧
      ∀ r ∈ records, target f r.path ≠ indexTarget f := by
  rw [Collide, not_or]
  refine and_congr ?_ (by push Not; rfl)
  rw [List.nodup_iff_getElem?_ne_getElem?]
  constructor
  · intro h i j hij hj e
    rw [List.length_map] at hj
    have hi : i < records.length := by omega
    refine h ⟨i, j, records[i], records[j], by omega, List.getElem?_eq_getElem hi,
      List.getElem?_eq_getElem hj, ?_⟩
    simpa [hi, hj] using e
  · rintro h ⟨i, j, r, s, hne, hr, hs, e⟩
    have hlt : ∀ {k : Nat} {t : ModuleDoc}, records[k]? = some t →
        k < (records.map fun r => target f r.path).length := fun hk => by
      rw [List.length_map]
      exact (List.getElem?_eq_some_iff.mp hk).1
    rcases Nat.lt_or_gt_of_ne hne with hij | hij
    · exact h i j hij (hlt hs) (by simp [hr, hs, e])
    · exact h j i hij (hlt hr) (by simp [hr, hs, e])

/-! ### Plans -/

section

variable {f : OutputFormat} {claimed : List (String × String)} {rs records : List ModuleDoc}
  {planned : List (ModuleDoc × String)} {e : Failure}

/-- A file that is claimed already ends the plan. -/
theorem plan_cons_of_claimed {r : ModuleDoc} {claimant : String}
    (h : claimed.lookup (target f r.path) = some claimant) :
    plan f claimed (r :: rs) =
      .error (.outputCollision (collisionMessage claimant r.path (target f r.path))) := by
  simp only [plan, h]

/-- A file that is free is claimed. -/
theorem plan_cons_of_free {r : ModuleDoc} (h : claimed.lookup (target f r.path) = none) :
    plan f claimed (r :: rs) =
      (plan f ((target f r.path, r.path) :: claimed) rs).map ((r, target f r.path) :: ·) := by
  simp only [plan, h]

theorem lookup_cons_eq_none_iff {file other claimant : String} :
    ((other, claimant) :: claimed).lookup file = none ↔
      file ≠ other ∧ claimed.lookup file = none := by
  by_cases h : file = other
  · simp [h]
  · rw [List.lookup_cons, beq_false_of_ne h]
    exact (and_iff_right h).symm

/-- A plan is made exactly if no file is claimed twice, and it gives each record its file. -/
theorem plan_eq_ok_iff : plan f claimed rs = .ok planned ↔
    planned = rs.map (fun r => (r, target f r.path)) ∧ (rs.map fun r => target f r.path).Nodup ∧
      ∀ r ∈ rs, claimed.lookup (target f r.path) = none := by
  induction rs generalizing claimed planned with
  | nil => simp [plan, eq_comm]
  | cons r rs ih =>
      cases hc : claimed.lookup (target f r.path) with
      | some claimant =>
          rw [plan_cons_of_claimed hc]
          refine ⟨nofun, fun ⟨_, _, hfree⟩ => ?_⟩
          exact absurd (hc.symm.trans (hfree r List.mem_cons_self)) nofun
      | none =>
          have hmap : plan f claimed (r :: rs) = .ok planned ↔
              ∃ later, plan f ((target f r.path, r.path) :: claimed) rs = .ok later ∧
                (r, target f r.path) :: later = planned := by
            rw [plan_cons_of_free hc]
            cases plan f ((target f r.path, r.path) :: claimed) rs <;> simp [Except.map]
          simp only [hmap, ih, lookup_cons_eq_none_iff, List.map_cons, List.nodup_cons,
            List.forall_mem_cons, hc, true_and, List.mem_map, not_exists, not_and]
          constructor
          · rintro ⟨later, ⟨rfl, hnd, hfree⟩, rfl⟩
            exact ⟨rfl, ⟨fun s hs => (hfree s hs).1, hnd⟩, fun s hs => (hfree s hs).2⟩
          · rintro ⟨rfl, ⟨hne, hnd⟩, hfree⟩
            exact ⟨_, ⟨rfl, hnd, fun s hs => ⟨hne s hs, hfree s hs⟩⟩, rfl⟩

/-- A plan that fails names the first record whose file is claimed, and who claims it. -/
theorem exists_of_plan_eq_error (h : plan f claimed rs = .error e) :
    ∃ before r after claimant, rs = before ++ r :: after ∧
      (∃ planned, plan f claimed before = .ok planned) ∧
      (claimed.lookup (target f r.path) = some claimant ∨
        ∃ c ∈ before, target f c.path = target f r.path ∧ claimant = c.path) ∧
      e = .outputCollision (collisionMessage claimant r.path (target f r.path)) := by
  induction rs generalizing claimed with
  | nil => cases h
  | cons r rs ih =>
      cases hc : claimed.lookup (target f r.path) with
      | some claimant =>
          rw [plan_cons_of_claimed hc] at h
          cases h
          exact ⟨[], r, rs, claimant, rfl, ⟨[], rfl⟩, .inl hc, rfl⟩
      | none =>
          rw [plan_cons_of_free hc] at h
          cases hp : plan f ((target f r.path, r.path) :: claimed) rs with
          | ok later =>
              rw [hp] at h
              cases h
          | error e' =>
              rw [hp] at h
              cases h
              obtain ⟨before, s, after, claimant, rfl, ⟨planned, hb⟩, hclaim, rfl⟩ := ih hp
              refine ⟨r :: before, s, after, claimant, rfl,
                ⟨(r, target f r.path) :: planned, ?_⟩, ?_, rfl⟩
              · rw [plan_cons_of_free hc, hb]
                rfl
              · rcases hclaim with hclaim | ⟨c, hcb, hct, hcc⟩
                · by_cases hs : target f s.path = target f r.path
                  · rw [hs, List.lookup_cons_self] at hclaim
                    exact .inr ⟨r, List.mem_cons_self, hs.symm, (Option.some.inj hclaim).symm⟩
                  · rw [List.lookup_cons, beq_false_of_ne hs] at hclaim
                    exact .inl hclaim
                · exact .inr ⟨c, List.mem_cons_of_mem r hcb, hct, hcc⟩

/-- **A plan for all is made exactly if no files collide.** -/
theorem planAll_eq_ok_iff : planAll f records = .ok planned ↔
    planned = records.map (fun r => (r, target f r.path)) ∧ ¬ Collide f records := by
  rw [planAll, plan_eq_ok_iff, not_collide_iff]
  simp only [lookup_cons_eq_none_iff, List.lookup_nil, and_true]

/-- **A plan that fails names the first record whose file is taken,** and who took it. -/
theorem exists_of_planAll_eq_error (h : planAll f records = .error e) :
    Collide f records ∧ ∃ before r after claimant, records = before ++ r :: after ∧
      ¬ Collide f before ∧
      (target f r.path = indexTarget f ∧ claimant = "the module index" ∨
        ∃ c ∈ before, target f c.path = target f r.path ∧ claimant = c.path) ∧
      e = .outputCollision (collisionMessage claimant r.path (target f r.path)) := by
  have hcollide : Collide f records := by
    by_contra hn
    have hok := planAll_eq_ok_iff.mpr ⟨rfl, hn⟩
    rw [h] at hok
    cases hok
  obtain ⟨before, r, after, claimant, hrs, ⟨planned, hb⟩, hclaim, he⟩ := exists_of_plan_eq_error h
  refine ⟨hcollide, before, r, after, claimant, hrs, (planAll_eq_ok_iff.mp hb).2, ?_, he⟩
  refine hclaim.imp_left fun hl => ?_
  by_cases hi : target f r.path = indexTarget f
  · rw [hi, List.lookup_cons_self] at hl
    exact ⟨hi, (Option.some.inj hl).symm⟩
  · rw [List.lookup_cons, beq_false_of_ne hi] at hl
    cases hl

end

end ModuleDocs.Output
