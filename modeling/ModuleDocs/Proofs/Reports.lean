import ModuleDocs.Batch
import ModuleDocs.Proofs.Sorting
import Mathlib.Data.List.Perm.Basic

/-!
# Proofs — Reports on batches

Where failures are reported and not fatal, a batch always ends in a report, and the report accounts
for every module, in whatever order the modules end.

* `Accounts tasks report`: each task that ended well stands in the report with its documentation,
  and each other one with its failure; both lists are in the order of paths.
* `completions_perm`: the order in which tasks end loses none and repeats none.
* `Source.recoverable_of_error`: whatever goes wrong with a source, the module survives it.  So a
  module fails only if its file holds no text (`process_eq_error_iff`).
-/

namespace ModuleDocs

/-! ### Files that hold a text -/

namespace Files

/-- A text is read exactly where the path leads to a file that holds its bytes. -/
theorem readText_eq_ok_iff (fs : Files) (path text : String) :
    fs.readText path = .ok text ↔ fs.read path = .ok text.toUTF8 := by
  have hu : ∀ bytes : ByteArray, String.fromUTF8? bytes = some text ↔ bytes = text.toUTF8 := by
    intro bytes
    unfold String.fromUTF8?
    split
    case isTrue h =>
      rw [Option.some_inj]
      exact ⟨fun e => e ▸ rfl, fun e => by subst e; rfl⟩
    case isFalse h =>
      constructor
      · intro e
        cases e
      · rintro rfl
        exact absurd text.isValidUTF8 h
  unfold readText
  cases fs.read path with
  | error e => simp [Except.bind]
  | ok bytes =>
      rw [Except.ok.injEq, ← hu]
      cases hb : String.fromUTF8? bytes with
      | none => simp [Except.bind, hb]
      | some s => simp [Except.bind, hb]

end Files

/-! ### Sources -/

namespace Source

/-- A text that cannot be read is a failure of one module only. -/
theorem recoverable_of_readComments {path text : String} {f : Failure}
    (h : readComments path text = .error f) : f.isRecoverable = true := by
  unfold readComments at h
  split at h
  · cases h
  · cases h
    rfl

/-- **Every failure of a source is recoverable,** whatever a command does. -/
theorem recoverable_of_error {source : Source} {run : Runner} {path text : String} {f : Failure}
    (h : source.comments run path text = .error f) : f.isRecoverable = true := by
  cases source with
  | json => exact recoverable_of_readComments h
  | command c =>
      simp only [comments] at h
      split at h
      · cases h
        rfl
      · cases hr : run c text with
        | notStarted reason | timedOut | lost reason =>
            rw [hr] at h
            cases h
            rfl
        | exited success stdout stderr =>
            rw [hr] at h
            cases success with
            | false =>
                cases h
                rfl
            | true =>
                simp only [Outcome.comments] at h
                split at h
                · exact recoverable_of_readComments h
                · cases h
                  rfl

end Source

namespace Batch

/-! ### One module -/

section

variable {a : Assembler} {comments : String → String → Except Failure (List Comment)} {fs : Files}
  {file : ModuleFile}

/-- The module as its documentation names it. -/
def identity (file : ModuleFile) : Identity := ⟨file.relative, file.relative⟩

/-- A module that can be read is documented from its text. -/
theorem process_of_read {text : String} (h : fs.read file.path = .ok text.toUTF8) :
    process a comments fs file = a.document (identity file) (comments file.relative text) := by
  rw [process, (fs.readText_eq_ok_iff file.path text).mpr h]
  rfl

/-- A module that cannot be read is a failure of its own. -/
theorem process_of_not_read (h : ¬ ∃ text : String, fs.read file.path = .ok text.toUTF8) :
    ∃ message, process a comments fs file = .error (.acquisition file.relative message) := by
  unfold process
  cases hr : fs.readText file.path with
  | ok text => exact absurd ⟨text, (fs.readText_eq_ok_iff _ _).mp hr⟩ h
  | error fault => exact ⟨fault.message, rfl⟩

/-- A source all of whose failures are recoverable gives every module that can be read its
documentation, without comments where the source fails. -/
theorem process_of_recoverable (hc : ∀ text f, comments file.relative text = .error f →
      f.isRecoverable = true) {text : String} (h : fs.read file.path = .ok text.toUTF8) :
    process a comments fs file =
      .ok (a.assemble (identity file) ((comments file.relative text).toOption.getD [])) := by
  rw [process_of_read h]
  cases hs : comments file.relative text with
  | ok cs => rfl
  | error f => exact if_pos (hc text f hs)

/-- **A module fails exactly where its file holds no text,** if its source is recoverable. -/
theorem process_eq_error_iff (hc : ∀ text f, comments file.relative text = .error f →
      f.isRecoverable = true) :
    (∃ f, process a comments fs file = .error f) ↔
      ¬ ∃ text : String, fs.read file.path = .ok text.toUTF8 := by
  constructor
  · rintro ⟨f, hf⟩ ⟨text, ht⟩
    rw [process_of_recoverable hc ht] at hf
    cases hf
  · intro h
    obtain ⟨message, hm⟩ := process_of_not_read h
    exact ⟨_, hm⟩

end

/-! ### Orders in which tasks end -/

/-- However tasks end, all of them do. -/
theorem completions_perm {α : Type} (width : Nat) (picks : List Nat) (tasks : List α) :
    (completions width picks tasks).Perm tasks := by
  fun_induction completions width picks tasks with
  | case1 => exact .refl _
  | case2 picks first others under i ih =>
      have hi : i < (first :: others).length :=
        Nat.lt_of_lt_of_le (Nat.mod_lt _ (by omega)) (by simp only [List.length_cons]; omega)
      rw [List.getElem?_eq_getElem hi, Option.getD_some]
      exact (ih.cons _).trans (List.getElem_cons_eraseIdx_perm hi)

/-! ### Reports -/

/-- What is reported of a task that did not end well. -/
def failureOf : Ended → Option ModuleFailure
  | (_, .ok _) => none
  | (file, .error f) => some ⟨file.relative, f.message⟩

/-- The report accounts for every task: those that ended well are among the modules and the others
among the failures, each as often as it is a task, and both are in the order of paths. -/
structure Accounts (tasks : List Ended) (report : Report) : Prop where
  modules : report.modules.Perm (tasks.filterMap fun task => task.2.toOption)
  failures : report.failures.Perm (tasks.filterMap failureOf)
  modulesOrdered : report.modules.Pairwise (·.path ≤ ·.path)
  failuresOrdered : report.failures.Pairwise (·.path ≤ ·.path)
  count : report.modules.length + report.failures.length = tasks.length

theorem failed_eq (tasks : List Ended) : failed tasks = tasks.filterMap failureOf := by
  refine List.filterMap_congr fun task _ => ?_
  obtain ⟨file, result⟩ := task
  cases result <;> rfl

/-- A task ends well or fails. -/
theorem length_modules_add_failures (tasks : List Ended) :
    (tasks.filterMap fun task => task.2.toOption).length + (tasks.filterMap failureOf).length =
      tasks.length := by
  induction tasks with
  | nil => rfl
  | cons task tasks ih =>
      obtain ⟨file, result⟩ := task
      cases result with
      | ok doc =>
          show (tasks.filterMap fun task => task.2.toOption).length + 1 +
            (tasks.filterMap failureOf).length = tasks.length + 1
          omega
      | error f =>
          show (tasks.filterMap fun task => task.2.toOption).length +
            ((tasks.filterMap failureOf).length + 1) = tasks.length + 1
          omega

/-- **Nothing is lost and nothing doubled,** in whatever order the tasks ended. -/
theorem report_accounts {tasks ended : List Ended} (h : ended.Perm tasks) :
    Accounts tasks (report ended) := by
  have hm : (report ended).modules.Perm (tasks.filterMap fun task => task.2.toOption) :=
    (sortBy_perm ModuleDoc.path (documented ended)).trans (h.filterMap _)
  have hf : (report ended).failures.Perm (tasks.filterMap failureOf) := by
    refine (sortBy_perm ModuleFailure.path (failed ended)).trans ?_
    rw [failed_eq]
    exact h.filterMap failureOf
  refine ⟨hm, hf, (sortBy_sortedBy ModuleDoc.path (documented ended)).ordered,
    (sortBy_sortedBy ModuleFailure.path (failed ended)).ordered, ?_⟩
  rw [hm.length_eq, hf.length_eq, length_modules_add_failures]

/-- **A batch that reports failures.**  It always gives a report, and this accounts for every task
whatever came of it and in whatever order the tasks ended, with any number of them under way at
once.  Where the settings name the source, every failure of the source is recoverable: a module
fails exactly if its file holds no text, and a module whose source fails is documented as one
without comments. -/
theorem isolate_accounts (a : Assembler) :
    (∀ tasks ended : List Ended, ended.Perm tasks →
      ∃ report, conclude .isolate ended = .ok report ∧ Accounts tasks report) ∧
    (∀ comments fs concurrency picks files, ∃ report,
      run a comments fs .isolate concurrency picks files = .ok report ∧
        Accounts (files.map fun file => (file, process a comments fs file)) report) ∧
    ∀ (settings : AssemblySettings) (runner : Runner) (fs : Files) (file : ModuleFile),
      let comments path text := (Source.ofSettings settings).comments runner path text
      (∀ text f, comments file.relative text = .error f → f.isRecoverable = true) ∧
      ((∃ f, process a comments fs file = .error f) ↔
        ¬ ∃ text : String, fs.read file.path = .ok text.toUTF8) ∧
      ∀ text : String, fs.read file.path = .ok text.toUTF8 →
        (∀ cs, comments file.relative text = .ok cs →
          process a comments fs file = .ok (a.assemble ⟨file.relative, file.relative⟩ cs)) ∧
        ∀ f, comments file.relative text = .error f →
          process a comments fs file = .ok (a.assemble ⟨file.relative, file.relative⟩ []) := by
  refine ⟨fun tasks ended h => ⟨_, rfl, report_accounts h⟩, ?_, ?_⟩
  · intro comments fs concurrency picks files
    exact ⟨_, rfl, report_accounts (completions_perm concurrency picks _)⟩
  · intro settings runner fs file comments
    have hc : ∀ text f, comments file.relative text = .error f → f.isRecoverable = true :=
      fun _ _ => Source.recoverable_of_error
    refine ⟨hc, process_eq_error_iff hc, fun text ht => ⟨fun cs hs => ?_, fun f hs => ?_⟩⟩
    · rw [process_of_recoverable hc ht, hs]
      rfl
    · rw [process_of_recoverable hc ht, hs]
      rfl

/-- A module whose text is no JSON and one that is missing, which ends first. -/
theorem isolate_accounts_mixed :
    let fs : Files := { disk := { entries := [(["b.json"], .file "not JSON".toUTF8)] } }
    let a : Assembler := { render := id }
    let comments path text := (Source.ofSettings {}).comments (fun _ _ => .timedOut) path text
    let there : Ended := (⟨"b.json", "b.json"⟩, process a comments fs ⟨"b.json", "b.json"⟩)
    let gone : Ended := (⟨"a.json", "a.json"⟩, .error (.acquisition "a.json" "not found"))
    conclude .isolate [gone, there] = .ok
      { modules := [a.assemble ⟨"b.json", "b.json"⟩ []]
        failures := [⟨"a.json", "Failed to read module a.json: not found"⟩] } := by
  intro fs a comments there gone
  have hread : fs.read "b.json" = .ok "not JSON".toUTF8 := by
    have hs : Disk.steps "b.json" = ["b.json"] := by decide
    have ha : Path.isAbsolute "b.json" = false := by decide
    have hw : fs.disk.walk true Files.longestChain [] ["b.json"] =
        .ok (.entry ["b.json"] (.file "not JSON".toUTF8)) := by
      rw [Disk.walk]
      · rfl
      · decide
      · decide
    have hf : fs.find true "b.json" = .ok (.entry ["b.json"] (.file "not JSON".toUTF8)) := by
      rw [Files.find, hs, ha]
      exact hw
    rw [Files.read, hf]
  obtain ⟨h₁, -, h₃⟩ := isolate_accounts a
  have hthere : process a comments fs ⟨"b.json", "b.json"⟩ =
      .ok (a.assemble ⟨"b.json", "b.json"⟩ []) := by
    obtain ⟨-, -, hp⟩ := h₃ {} (fun _ _ => .timedOut) fs ⟨"b.json", "b.json"⟩
    exact (hp "not JSON" hread).2 (.commentParse "b.json" "expected ident") (by decide)
  have hperm : [gone, there].Perm
      [(⟨"b.json", "b.json"⟩, .ok (a.assemble ⟨"b.json", "b.json"⟩ [])), gone] := by
    rw [← hthere]
    exact .swap _ _ _
  obtain ⟨report, hr, hacc⟩ := h₁ _ _ hperm
  have hm := List.perm_singleton.mp hacc.modules
  have hf := List.perm_singleton.mp hacc.failures
  exact hr.trans (congrArg Except.ok (congrArg₂ Report.mk hm hf))

end Batch

end ModuleDocs
