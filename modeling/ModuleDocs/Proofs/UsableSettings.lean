import ModuleDocs.Proofs.Determinism
import ModuleDocs.Proofs.Policies
import ModuleDocs.Proofs.Writing

/-!
# Proofs — Usable settings

Settings are looked at once, before anything is done with them, and what is done with them relies on
that: extensions can be set up, some module is always under way, and a command has a name and some
time.  All of this follows from the settings being usable, save one thing.  A command is a list of
words, and the list is only asked not to be empty: its first word, which is the program, may be the
empty text.

* `problem?_eq_none_iff`: what makes settings usable, all at once.
* `exists_assembler_of_validate`: modules can be documented with usable settings.
* `withSettings_ne_extension`: no build with usable settings fails because of its extensions.
* `usable_settings_suffice`: what usable settings are good for, and the one thing that can still be
  missing.
-/

namespace ModuleDocs

/-! ### What is looked at -/

namespace Settings

variable {s t : Settings}

/-- **What makes settings usable.** -/
theorem problem?_eq_none_iff : s.problem? = none ↔
    s.assembly.concurrency ≠ 0 ∧
      (s.assembly.source = .command →
        s.assembly.command ≠ [] ∧ s.assembly.commandTimeoutSecs ≠ 0) ∧
      (∀ name ∈ s.assembly.extensions, name ∈ Extension.builtinNames) ∧
      s.analysis.extensions ≠ [] := by
  have hfind : (s.assembly.extensions.find? (!Extension.builtinNames.contains ·)) = none ↔
      ∀ name ∈ s.assembly.extensions, name ∈ Extension.builtinNames := by
    simp
  have passes {p : Prop} [Decidable p] {problem : String} {rest : Option String} :
      (if p then some problem else rest) = none ↔ ¬ p ∧ rest = none := by
    split <;> simp [*]
  rw [← hfind]
  unfold problem?
  simp only [passes]
  cases s.assembly.extensions.find? (!Extension.builtinNames.contains ·) with
  | none =>
      simp only [passes]
      tauto
  | some unknown => simp

/-- Usable settings are used as they are. -/
theorem validate_eq_ok_iff : s.validate = .ok t ↔ s.problem? = none ∧ t = s := by
  unfold validate
  cases s.problem? with
  | none => simp [eq_comm]
  | some problem => simp

/-- **Modules can be documented with usable settings.** -/
theorem exists_assembler_of_validate (h : s.validate = .ok t) :
    ∃ a, Assembler.ofSettings s.assembly = .ok a := by
  obtain ⟨-, -, hnames, -⟩ := problem?_eq_none_iff.mp (validate_eq_ok_iff.mp h).1
  obtain ⟨es, hes⟩ := Extension.exists_ofNames hnames
  rw [Assembler.ofSettings, hes]
  exact ⟨_, rfl⟩

/-- Settings that are laid over others are looked at again. -/
theorem validate_of_override {o : Overrides} (h : t.override o = .ok s) : s.validate = .ok s := by
  obtain ⟨hp, hs⟩ := validate_eq_ok_iff.mp h
  exact validate_eq_ok_iff.mpr ⟨hs ▸ hp, rfl⟩

end Settings

/-! ### What a build fails with -/

namespace Batch

/-- A batch fails with what one of its tasks failed with. -/
theorem exists_of_conclude_eq_error {policy : FailurePolicy} {ended : List Ended} {f : Failure}
    (h : conclude policy ended = .error f) :
    ∃ file, (file, .error f) ∈ ended := by
  cases policy with
  | isolate => cases h
  | abort =>
      obtain ⟨before, file, after, rfl, -⟩ :=
        firstFailure?_eq_some_iff.mp (conclude_abort_eq_error_iff.mp h)
      exact ⟨file, List.mem_append_right before List.mem_cons_self⟩

end Batch

/-- Writing fails because two files are one or because of the files that are there. -/
theorem Output.kind_of_writeAll_eq_error {f : OutputFormat} {dir : String} {fs : Files}
    {records : List ModuleDoc} {e : Failure} (h : (writeAll f dir fs records).result = .error e) :
    (∃ message, e = .outputCollision message) ∨ ∃ message, e = .io message := by
  have hcourse := writeAll_course f dir fs records
  rw [h] at hcourse
  generalize (writeAll f dir fs records).files = after at hcourse
  cases hcourse with
  | collision hp =>
      obtain ⟨-, _, _, _, _, _, _, _, rfl⟩ := exists_of_planAll_eq_error hp
      exact .inl ⟨_, rfl⟩
  | directory => exact .inr ⟨_, rfl⟩
  | record _ _ hr =>
      obtain ⟨fault, rfl⟩ := exists_of_writeRecords_eq_error hr
      exact .inr ⟨_, rfl⟩
  | index => exact .inr ⟨_, rfl⟩

namespace Build

variable {run : Runner} {h : Host} {o : Options} {s : Settings} {picks : List Nat} {fs : Files}
  {files : List ModuleFile} {a : Assembler} {t : AssemblySettings} {f : Failure}

/-- Only a file that cannot be read ends a batch. -/
theorem acquisition_of_document_eq_error (ha : Assembler.ofSettings t = .ok a)
    (hd : document run fs t picks files = .error f) :
    ∃ path message, f = .acquisition path message := by
  rw [document_eq_conclude ha] at hd
  obtain ⟨file, hfile⟩ := Batch.exists_of_conclude_eq_error hd
  rw [(Batch.completions_perm _ _ _).mem_iff] at hfile
  obtain ⟨m, -, hm⟩ := List.mem_map.mp hfile
  obtain ⟨rfl, hf⟩ := Prod.mk.inj hm
  unfold outcome at hf
  have hread := (Batch.process_eq_error_iff fun _ _ => Source.recoverable_of_error).mp ⟨f, hf⟩
  obtain ⟨message, hmessage⟩ := Batch.process_of_not_read hread
  rw [hf] at hmessage
  exact ⟨_, message, Except.error.inj hmessage⟩

/-- Only a path that leads nowhere keeps a build from collecting its files. -/
theorem acquisition_of_collect_eq_error {paths : List String} (hc : collect h s paths = .error f) :
    ∃ path message, f = .acquisition path message := by
  unfold collect at hc
  cases hfiles : (roots paths).mapM (expand h s) with
  | ok files =>
      rw [hfiles] at hc
      cases hc
  | error e =>
      rw [hfiles] at hc
      cases hc
      obtain ⟨root, -, hroot⟩ := exists_of_mapM_eq_error hfiles
      unfold expand at hroot
      split at hroot
      · cases hroot
      · split at hroot
        · cases hroot
        · split at hroot
          · cases hroot
            exact ⟨_, _, rfl⟩
          · cases hroot

/-- What a build that has found its module files fails with. -/
theorem failure_withSettings (hc : collect h s o.paths = .ok files)
    (hf : (withSettings run h o s picks).failure = some f) :
    document run h.files s.assembly picks files = .error f ∨
      ∃ report, document run h.files s.assembly picks files = .ok report ∧
        (Output.writeAll s.output.format s.output.dir h.files report.modules).result =
          .error f := by
  unfold withSettings at hf
  rw [hc] at hf
  cases files with
  | nil => cases hf
  | cons m files =>
      cases hd : document run h.files s.assembly picks (m :: files) with
      | error e =>
          simp only [hd] at hf
          exact .inl (congrArg Except.error (Option.some.inj hf))
      | ok report =>
          simp only [hd, write] at hf
          refine .inr ⟨report, rfl, ?_⟩
          split at hf
          · cases hf
          · cases hw : (Output.writeAll s.output.format s.output.dir h.files
                report.modules).result with
            | error e =>
                simp only [hw] at hf
                exact congrArg Except.error (Option.some.inj hf)
            | ok entries =>
                simp only [hw] at hf
                cases hf

/-- **With usable settings no build fails because of its extensions.** -/
theorem withSettings_ne_extension (hv : s.validate = .ok s) (message : String) :
    (withSettings run h o s picks).failure ≠ some (.extension message) := by
  intro hf
  obtain ⟨a, ha⟩ := Settings.exists_assembler_of_validate hv
  cases hc : collect h s o.paths with
  | error e =>
      unfold withSettings at hf
      rw [hc] at hf
      obtain ⟨_, _, rfl⟩ := acquisition_of_collect_eq_error hc
      cases hf
  | ok files =>
      rcases failure_withSettings hc hf with hd | ⟨report, -, hw⟩
      · obtain ⟨_, _, he⟩ := acquisition_of_document_eq_error ha hd
        cases he
      · rcases Output.kind_of_writeAll_eq_error hw with ⟨_, he⟩ | ⟨_, he⟩ <;> cases he

end Build

/-! ### What usable settings are good for -/

namespace Settings

variable {s : Settings}

/-- Settings that are laid over others and that pass are usable as well. -/
theorem problem?_of_accepted
    (hs : s.validate = .ok s ∨ ∃ t o, override t o = .ok s) : s.problem? = none := by
  rcases hs with hv | ⟨t, o, ho⟩
  · exact (validate_eq_ok_iff.mp hv).1
  · exact (validate_eq_ok_iff.mp (validate_of_override ho)).1

/-- **Usable settings suffice.**  Settings that passed, as they are or laid over others, set up their
extensions and keep some module under way.  A command has a program and some time, and its program is
asked for the comments unless it is the empty text. -/
theorem usable_settings_suffice
    (hs : s.validate = .ok s ∨ ∃ t o, override t o = .ok s) :
    (∃ a, Assembler.ofSettings s.assembly = .ok a) ∧
      (∀ run h o picks message,
        (Build.withSettings run h o s picks).failure ≠ some (.extension message)) ∧
      1 ≤ s.assembly.concurrency ∧
      (s.assembly.source = .command →
        ∃ c : Command, Source.ofSettings s.assembly = .command c ∧
          s.assembly.command = c.program :: c.args ∧ 0 < c.timeout.nanos ∧
          ∀ run path text, (Source.command c).comments run path text =
            if c.program = "" then .error (.commentParse path "No parser command configured")
            else (run c text).comments c path) := by
  have hp := problem?_of_accepted hs
  have hv : s.validate = .ok s := validate_eq_ok_iff.mpr ⟨hp, rfl⟩
  obtain ⟨hconcurrency, hcommand, -, -⟩ := problem?_eq_none_iff.mp hp
  refine ⟨exists_assembler_of_validate hv, ?_, Nat.one_le_iff_ne_zero.mpr hconcurrency, ?_⟩
  · intro run h o picks message
    exact Build.withSettings_ne_extension hv message
  · intro hsource
    obtain ⟨hwords, hsecs⟩ := hcommand hsource
    obtain ⟨program, args, hwords⟩ := List.exists_cons_of_ne_nil hwords
    refine ⟨_, by rw [Source.ofSettings, hsource], ?_, ?_, ?_⟩
    · rw [hwords]
      rfl
    · exact Nat.mul_pos (Nat.pos_of_ne_zero hsecs) (by decide)
    · intro run path text
      simp only [Source.comments, String.isEmpty_iff]

/-- A run that asks for comments from a command gets the one there is by default. -/
theorem usable_settings_suffice_override :
    override {} { source := some .command } = .ok { assembly := { source := .command } } ∧
      ∃ c : Command, Source.ofSettings { source := .command } = .command c ∧
        ["dox", "--raw"] = c.program :: c.args ∧ 0 < c.timeout.nanos ∧
        ∀ run path text, (Source.command c).comments run path text =
          if c.program = "" then .error (.commentParse path "No parser command configured")
          else (run c text).comments c path :=
  have ho : override {} { source := some .command } = .ok { assembly := { source := .command } } :=
    rfl
  ⟨ho, (usable_settings_suffice (.inr ⟨_, _, ho⟩)).2.2.2 rfl⟩

/-- A command whose only word is the empty text passes, and no module then has comments. -/
theorem accepted_without_program :
    validate { assembly := { source := .command, command := [""] } } =
        .ok { assembly := { source := .command, command := [""] } } ∧
      ∀ run path text,
        (Source.ofSettings { source := .command, command := [""] }).comments run path text =
          .error (.commentParse path "No parser command configured") :=
  ⟨rfl, fun _ _ _ => rfl⟩

end Settings

end ModuleDocs
