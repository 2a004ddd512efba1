import ModuleDocs.Proofs.Reports

/-!
# Proofs — Failure policies

A batch that ends at the first failure and one that reports failures look at the same tasks in the
same order, and differ only where a task fails.

* `Ended.Fails`: the task did not end well.
* `firstFailure?_eq_some_iff`: the first failure is that of the task before which all others ended
  well.
* `conclude_abort_eq_ok_iff`, `conclude_abort_eq_error_iff`: when a batch that ends at failures
  gives a report, and when it gives a failure.
* `abort_agrees_isolate`: the two policies side by side.
-/

namespace ModuleDocs.Batch

/-- The task did not end well. -/
def Fails (task : Ended) : Prop := ∃ f, task.2 = .error f

variable {tasks ended : List Ended} {report : Report} {f : Failure}

/-- A task that does not fail gives a record. -/
theorem not_fails_iff {task : Ended} : ¬ Fails task ↔ ∃ doc, task.2 = .ok doc := by
  obtain ⟨file, result⟩ := task
  cases result with
  | ok doc => exact ⟨fun _ => ⟨doc, rfl⟩, fun _ ⟨_, h⟩ => nomatch h⟩
  | error e => exact ⟨fun h => absurd ⟨e, rfl⟩ h, fun ⟨_, h⟩ => nomatch h⟩

/-- **The first failure** is that of the task before which all others ended well. -/
theorem firstFailure?_eq_some_iff : firstFailure? ended = some f ↔
    ∃ before file after, ended = before ++ (file, .error f) :: after ∧
      ∀ task ∈ before, ¬ Fails task := by
  induction ended with
  | nil => simp [firstFailure?]
  | cons task ended ih =>
      obtain ⟨file, result⟩ := task
      cases result with
      | error e =>
          have hfirst : firstFailure? ((file, .error e) :: ended) = some e := rfl
          rw [hfirst, Option.some_inj]
          constructor
          · rintro rfl
            exact ⟨[], file, ended, rfl, nofun⟩
          · rintro ⟨before, file', after, hsplit, hbefore⟩
            cases before with
            | nil =>
                cases hsplit
                rfl
            | cons first before =>
                obtain ⟨rfl, -⟩ := List.cons.inj hsplit
                exact absurd ⟨e, rfl⟩ (hbefore _ List.mem_cons_self)
      | ok doc =>
          have hlater : firstFailure? ((file, .ok doc) :: ended) = firstFailure? ended := rfl
          rw [hlater, ih]
          constructor
          · rintro ⟨before, file', after, rfl, hbefore⟩
            refine ⟨(file, .ok doc) :: before, file', after, rfl, ?_⟩
            exact List.forall_mem_cons.mpr ⟨not_fails_iff.mpr ⟨doc, rfl⟩, hbefore⟩
          · rintro ⟨before, file', after, hsplit, hbefore⟩
            cases before with
            | nil => cases hsplit
            | cons first before =>
                obtain ⟨-, hrest⟩ := List.cons.inj hsplit
                exact ⟨before, file', after, hrest, (List.forall_mem_cons.mp hbefore).2⟩

/-- There is no first failure exactly if no task fails. -/
theorem firstFailure?_eq_none_iff :
    firstFailure? ended = none ↔ ∀ task ∈ ended, ¬ Fails task := by
  rw [firstFailure?, List.findSome?_eq_none_iff]
  refine forall₂_congr fun task _ => ?_
  obtain ⟨file, result⟩ := task
  cases result with
  | ok doc => exact ⟨fun _ => not_fails_iff.mpr ⟨doc, rfl⟩, fun _ => rfl⟩
  | error e => exact ⟨nofun, fun h => absurd ⟨e, rfl⟩ h⟩

/-! ### What the policies conclude -/

/-- An aborting run ends well exactly if no task fails. -/
theorem conclude_abort_eq_ok_iff : conclude .abort ended = .ok report ↔
    (∀ task ∈ ended, ¬ Fails task) ∧ report = Batch.report ended := by
  rw [← firstFailure?_eq_none_iff]
  unfold conclude
  cases firstFailure? ended with
  | none => simp [eq_comm]
  | some e => simp

/-- An aborting run ends with the first failure. -/
theorem conclude_abort_eq_error_iff :
    conclude .abort ended = .error f ↔ firstFailure? ended = some f := by
  unfold conclude
  cases firstFailure? ended with
  | none => simp
  | some e => simp

/-- A report on tasks that all ended well has no failures. -/
theorem failures_report_eq_nil (h : ∀ task ∈ ended, ¬ Fails task) :
    (Batch.report ended).failures = [] := by
  have hnone : failed ended = [] := by
    rw [failed_eq, List.filterMap_eq_nil_iff]
    intro task ht
    obtain ⟨doc, hd⟩ := not_fails_iff.mp (h task ht)
    obtain ⟨file, result⟩ := task
    cases hd
    rfl
  rw [Batch.report, hnone, List.mergeSort_nil]

/-- Every task that fails is among the failures of a report. -/
theorem mem_failures_report {file : ModuleFile} (h : (file, .error f) ∈ ended) :
    ⟨file.relative, f.message⟩ ∈ (Batch.report ended).failures := by
  have hf : ⟨file.relative, f.message⟩ ∈ failed ended := by
    rw [failed_eq]
    exact List.mem_filterMap.mpr ⟨_, h, rfl⟩
  exact (sortBy_perm ModuleFailure.path (failed ended)).mem_iff.mpr hf

/-- **The two policies side by side.**  In whatever order the tasks ended, a batch that ends at
failures gives a report exactly if no task fails, and it is then the report without failures that
the other policy gives.  Otherwise it gives the failure of the task that ended first among those
that fail, even if that one ended last of all; the other policy has it among its failures.  Both
policies see the tasks of a run in one order. -/
theorem abort_agrees_isolate :
    (∀ tasks ended : List Ended, ended.Perm tasks →
      ((∃ report, conclude .abort ended = .ok report) ↔ ∀ task ∈ tasks, ¬ Fails task) ∧
      (∀ report, conclude .abort ended = .ok report →
        report.failures = [] ∧ conclude .isolate ended = .ok report) ∧
      (∀ f, conclude .abort ended = .error f ↔
        ∃ before file after, ended = before ++ (file, .error f) :: after ∧
          ∀ task ∈ before, ¬ Fails task) ∧
      ∀ f, conclude .abort ended = .error f → ∃ file report, (file, .error f) ∈ tasks ∧
        conclude .isolate ended = .ok report ∧ ⟨file.relative, f.message⟩ ∈ report.failures) ∧
    ∀ (a : Assembler) (comments : String → String → Except Failure (List Comment)) (fs : Files)
        (concurrency : Nat) (picks : List Nat) (files : List ModuleFile),
      ∃ ended : List Ended,
        ended.Perm (files.map fun file => (file, process a comments fs file)) ∧
        ∀ policy, run a comments fs policy concurrency picks files = conclude policy ended := by
  refine ⟨fun tasks ended hp => ⟨?_, ?_, ?_, ?_⟩, ?_⟩
  · constructor
    · rintro ⟨report, hr⟩ task ht
      exact (conclude_abort_eq_ok_iff.mp hr).1 task (hp.mem_iff.mpr ht)
    · intro h
      have hended : ∀ task ∈ ended, ¬ Fails task := fun task ht => h task (hp.mem_iff.mp ht)
      exact ⟨_, conclude_abort_eq_ok_iff.mpr ⟨hended, rfl⟩⟩
  · intro report hr
    obtain ⟨hended, rfl⟩ := conclude_abort_eq_ok_iff.mp hr
    exact ⟨failures_report_eq_nil hended, rfl⟩
  · intro f
    exact conclude_abort_eq_error_iff.trans firstFailure?_eq_some_iff
  · intro f hf
    obtain ⟨before, file, after, rfl, -⟩ :=
      firstFailure?_eq_some_iff.mp (conclude_abort_eq_error_iff.mp hf)
    have hmem : (file, .error f) ∈ before ++ (file, .error f) :: after :=
      List.mem_append_right before List.mem_cons_self
    exact ⟨file, _, hp.mem_iff.mp hmem, rfl, mem_failures_report hmem⟩
  · intro a comments fs concurrency picks files
    exact ⟨_, completions_perm concurrency picks _, fun _ => rfl⟩

/-- Two failures behind a module that is documented: the one that ended earlier is given, although
it stands later in the order of paths. -/
theorem abort_agrees_isolate_last :
    let fine : Ended := (⟨"b.json", "b.json"⟩, .ok { path := "b.json" })
    let gone : Ended := (⟨"c.json", "c.json"⟩, .error (.acquisition "c.json" "not found"))
    let lost : Ended := (⟨"a.json", "a.json"⟩, .error (.acquisition "a.json" "not found"))
    [fine, gone, lost].Perm [lost, fine, gone] ∧
    conclude .abort [fine, gone, lost] = .error (.acquisition "c.json" "not found") ∧
    ∃ report, conclude .isolate [fine, gone, lost] = .ok report ∧
      ⟨"c.json", "Failed to read module c.json: not found"⟩ ∈ report.failures := by
  intro fine gone lost
  have hp : [fine, gone, lost].Perm [lost, fine, gone] :=
    List.perm_append_singleton lost [fine, gone]
  obtain ⟨-, -, herror, hfailures⟩ := abort_agrees_isolate.1 _ _ hp
  have habort : conclude .abort [fine, gone, lost] =
      .error (.acquisition "c.json" "not found") := by
    refine (herror _).mpr ⟨[fine], ⟨"c.json", "c.json"⟩, [lost], rfl, ?_⟩
    exact List.forall_mem_singleton.mpr (not_fails_iff.mpr ⟨_, rfl⟩)
  obtain ⟨file, report, hmem, hr, hf⟩ := hfailures _ habort
  obtain rfl : file = ⟨"c.json", "c.json"⟩ := by
    simpa [lost, fine, gone] using hmem
  exact ⟨hp, habort, report, hr, hf⟩

end ModuleDocs.Batch
