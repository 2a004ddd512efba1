import ModuleDocs.Proofs.Resolution

/-!
# Proofs — Silent comments

A comment is *silent* (`Silent`) when nothing of it can show in the finished module: it documents a
function or a variable that is not known to be public, it stands before code of an unknown kind or
before none without describing the module, or it documents a member that has no owner, or one whose
owner the module never has.

* `Draft.SameShown d d'`: the drafts differ at most in variables and functions that are not public.
  Such drafts are finished alike (`SameShown.finish`) and stay so whatever is read
  (`SameShown.add`).
* `Draft.sameShown_add`: a silent comment leaves a draft that shows the same.  That a member's owner
  is not there when the comment is read follows from `Registry.OwnersAmong`, which every step keeps.
* `assemble_inserted`: silent comments may be put into a stream anywhere, and in any number; the
  module stays the same.
-/

namespace ModuleDocs

/-- The second list is the first one with elements put in that satisfy `extra`. -/
inductive Inserted {α : Type} (extra : α → Prop) : List α → List α → Prop where
  | nil : Inserted extra [] []
  | keep (a : α) {l l' : List α} : Inserted extra l l' → Inserted extra (a :: l) (a :: l')
  | insert {a : α} {l l' : List α} : extra a → Inserted extra l l' → Inserted extra l (a :: l')

theorem Inserted.map {α β : Type} {extra : α → Prop} {extra' : β → Prop} {l l' : List α}
    (h : Inserted extra l l') {f : α → β} (hf : ∀ a, extra a → extra' (f a)) :
    Inserted extra' (l.map f) (l'.map f) := by
  induction h with
  | nil => exact .nil
  | keep a _ ih => exact .keep (f a) ih
  | insert ha _ ih => exact .insert (hf _ ha) ih

/-- The name is that of a class or mixin of the seed, or of one that a comment declares. -/
def ownerKnown (seed : ModuleDoc) (cs : List Comment) (n : String) : Bool :=
  seed.classes.any (·.name = n) || seed.mixins.any (·.name = n) ||
    cs.any fun c => c.declaresOwner && c.name = n

/-- An owner that is declared is known. -/
theorem ownerKnown_of_mem {seed : ModuleDoc} {cs : List Comment} {c : Comment} (hc : c ∈ cs)
    (hd : c.declaresOwner) : ownerKnown seed cs c.name = true := by
  have h : (cs.any fun d => d.declaresOwner && d.name = c.name) = true :=
    List.any_eq_true.mpr ⟨c, hc, by rw [hd, decide_eq_true rfl]; rfl⟩
  rw [ownerKnown, h, Bool.or_true]

/-- Nothing of the comment can show in a module whose owners have the names that are `known`. -/
inductive Silent (rules : Rules) (known : String → Bool) (c : Comment) : Prop where
  | function : c.contextKind = some .function → c.isConstructor = false →
      c.isPrivate ≠ some false → Silent rules known c
  | declaration : c.contextKind = some .declaration → c.hasTag "mixin" = false →
      c.isPrivate ≠ some false → Silent rules known c
  | unknown : c.contextKind = some .unknown → Silent rules known c
  | contextless : c.contextKind = none → rules.describesModule c = false → Silent rules known c
  | member (kind : MemberKind) : c.contextKind = some kind.contextKind →
      (∀ n, c.owner = some n → known n = false) → Silent rules known c

/-! ### The owners of a registry -/

namespace Registry

/-- The registry has no class or mixin but those of the given names. -/
def OwnersAmong (r : Registry) (known : String → Bool) : Prop :=
  ∀ n, r.hasClass n = true ∨ r.hasMixin n = true → known n = true

namespace OwnersAmong

variable {known : String → Bool} {r : Registry} {c : Comment}

theorem insertClass (h : r.OwnersAmong known) {o : ClassDoc} (hn : known o.name = true) :
    (r.insertClass o).OwnersAmong known := by
  rintro n (hc | hm)
  · rcases (Table.contains_upsert r.classes o.name n o).mp hc with rfl | hc
    · exact hn
    · exact h n (Or.inl hc)
  · exact h n (Or.inr hm)

theorem insertMixin (h : r.OwnersAmong known) {o : MixinDoc} (hn : known o.name = true) :
    (r.insertMixin o).OwnersAmong known := by
  rintro n (hc | hm)
  · exact h n (Or.inl hc)
  · rcases (Table.contains_upsert r.mixins o.name n o).mp hm with rfl | hm
    · exact hn
    · exact h n (Or.inr hm)

/-- The owners of a seed are known if its records are. -/
theorem ofDocs {classes : List ClassDoc} {mixins : List MixinDoc}
    (hc : ∀ o ∈ classes, known o.name = true) (hm : ∀ o ∈ mixins, known o.name = true) :
    (Registry.ofDocs classes mixins).OwnersAmong known := by
  have empty : OwnersAmong {} known := by
    rintro n (h | h) <;> simp [Registry.hasClass, Registry.hasMixin, Table.contains] at h
  refine List.foldlRecOn (motive := fun r : Registry => r.OwnersAmong known) mixins _ ?_
    fun r hr o ho => hr.insertMixin (hm o ho)
  exact List.foldlRecOn (motive := fun r : Registry => r.OwnersAmong known) classes _ empty
    fun r hr o ho => hr.insertClass (hc o ho)

/-- Taking a member brings in no owner. -/
theorem attach (h : r.OwnersAmong known) (owner : String) (kind : MemberKind) (c : Comment) :
    (r.attach owner kind c).2.OwnersAmong known := by
  unfold Registry.attach
  split
  · rintro n (hc | hm)
    · exact h n (Or.inl ((Table.contains_modify r.classes _ n _).symm.trans hc))
    · exact h n (Or.inr hm)
  · split
    · rintro n (hc | hm)
      · exact h n (Or.inl hc)
      · exact h n (Or.inr ((Table.contains_modify r.mixins _ n _).symm.trans hm))
    · exact h

/-- Registering an owner brings in that one only. -/
theorem registerOwner (h : r.OwnersAmong known) (hc : c.declaresOwner → known c.name = true) :
    (r.registerOwner c).OwnersAmong known := by
  rw [Comment.declaresOwner, c.declaresClass_eq, c.declaresMixin_eq] at hc
  rw [Registry.registerOwner_eq]
  cases hr : c.role with
  | classOwner => exact h.insertClass (hc (by rw [hr]; rfl))
  | mixinOwner => exact h.insertMixin (hc (by rw [hr]; rfl))
  | contextless | topVariable | topFunction | unknown | member kind => exact h

end OwnersAmong

end Registry

namespace Draft

/-! ### Drafts that show the same -/

/-- The drafts differ at most in variables and functions that are not public. -/
structure SameShown (d d' : Draft) : Prop where
  registry : d.registry = d'.registry
  described : d.described = d'.described
  vars : d.header.vars.filter (·.isPublic) = d'.header.vars.filter (·.isPublic)
  functions : d.header.functions.filter (·.isPublic) = d'.header.functions.filter (·.isPublic)
  rest : { d.header with vars := [], functions := [] } =
    { d'.header with vars := [], functions := [] }

theorem SameShown.refl (d : Draft) : SameShown d d := ⟨rfl, rfl, rfl, rfl, rfl⟩

theorem SameShown.trans {d₁ d₂ d₃ : Draft} (h : SameShown d₁ d₂) (h' : SameShown d₂ d₃) :
    SameShown d₁ d₃ where
  registry := h.registry.trans h'.registry
  described := h.described.trans h'.described
  vars := h.vars.trans h'.vars
  functions := h.functions.trans h'.functions
  rest := h.rest.trans h'.rest

/-- **Drafts that show the same are finished alike.** -/
theorem SameShown.finish {d d' : Draft} (h : SameShown d d') : d.finish = d'.finish := by
  -- only the public variables and functions are looked at, whether before or after the sort
  have hf : ∀ d : Draft, d.finish =
      { { d.header with vars := [], functions := [] } with
        dependencies := sortDependencies
          ({ d.header with vars := [], functions := [] } : ModuleDoc).dependencies
        vars := sortByName (d.header.vars.filter (·.isPublic))
        functions := sortByName (d.header.functions.filter (·.isPublic))
        classes := d.registry.classes.toList.map (·.sorted)
        mixins := d.registry.mixins.toList.map (·.sorted) } := fun d => by
    rw [Draft.finish, sortByName, sortByName, ← sortBy, ← sortBy, filter_sortBy, filter_sortBy]
    rfl
  rw [hf, hf, h.rest, h.vars, h.functions, h.registry]

theorem SameShown.describe {d d' : Draft} (h : SameShown d d') (render : String → String)
    (c : Comment) :
    SameShown { d with header := d.header.describe render c, described := true }
      { d' with header := d'.header.describe render c, described := true } := by
  have hb : ∀ r : ModuleDoc, { r.describe render c with vars := [], functions := [] } =
      ({ r with vars := [], functions := [] } : ModuleDoc).describe render c := fun r => by
    unfold ModuleDoc.describe
    cases c.deprecation? <;> rfl
  have hv : ∀ r : ModuleDoc, (r.describe render c).vars = r.vars := fun r => by
    unfold ModuleDoc.describe
    cases c.deprecation? <;> rfl
  have hn : ∀ r : ModuleDoc, (r.describe render c).functions = r.functions := fun r => by
    unfold ModuleDoc.describe
    cases c.deprecation? <;> rfl
  refine ⟨h.registry, rfl, ?_, ?_, ?_⟩
  · rw [hv, hv, h.vars]
  · rw [hn, hn, h.functions]
  · rw [hb, hb, h.rest]

/-- **Whatever is read, drafts that show the same still do.** -/
theorem SameShown.add {d d' : Draft} (h : SameShown d d') (rules : Rules) (c : Comment) :
    SameShown (d.add rules c) (d'.add rules c) := by
  rw [add_eq, add_eq, bucket_congr h.registry h.described]
  cases d'.bucket rules c.owner c with
  | description => exact h.describe rules.render c
  | classes | mixins | members =>
      exact ⟨by rw [fill, fill, h.registry], h.described, h.vars, h.functions, h.rest⟩
  | vars =>
      refine ⟨h.registry, h.described, ?_, h.functions, h.rest⟩
      rw [fill, fill, List.filter_append, List.filter_append, h.vars]
  | functions =>
      refine ⟨h.registry, h.described, h.vars, ?_, h.rest⟩
      rw [fill, fill, List.filter_append, List.filter_append, h.functions]
  | dropped => exact h

/-! ### Silent comments -/

/-- **Adding a comment** brings in no unknown owner. -/
theorem add_ownersAmong {known : String → Bool} {d : Draft} {c : Comment}
    (h : d.registry.OwnersAmong known) (rules : Rules)
    (hc : c.declaresOwner → known c.name = true) :
    (d.add rules c).registry.OwnersAmong known := by
  rw [Comment.declaresOwner, c.declaresClass_eq, c.declaresMixin_eq] at hc
  obtain ⟨b, hb, hadd⟩ := d.add_cases rules c
  rw [hadd]
  cases hb with
  | classes hr _ => exact h.insertClass (hc (by rw [hr]; rfl))
  | mixins hr _ => exact h.insertMixin (hc (by rw [hr]; rfl))
  | members _ _ _ => exact h.attach _ _ c
  | _ => exact h

/-- A member whose owner is not known is dropped. -/
theorem bucket_of_not_known {known : String → Bool} {d : Draft} (h : d.registry.OwnersAmong known)
    {c : Comment} {kind : MemberKind} (hr : c.role = .member kind)
    (hc : ∀ n, c.owner = some n → known n = false) {rules : Rules} :
    d.bucket rules c.owner c = .dropped := by
  rw [bucket, hr]
  cases ho : c.owner with
  | none => rfl
  | some n =>
      have hn : (d.registry.hasClass n || d.registry.hasMixin n) = false := by
        rw [← Bool.not_eq_true, Bool.or_eq_true]
        exact fun e => Bool.false_ne_true ((hc n ho).symm.trans (h n e))
      simp only [hn, Bool.false_eq_true, if_false]

/-- A comment that is not public is no part of what is shown. -/
theorem filter_concat_of_not_public (cs : List Comment) {c : Comment}
    (h : c.isPrivate ≠ some false) :
    cs.filter (·.isPublic) = (cs ++ [c]).filter (·.isPublic) := by
  have hc : c.isPublic = false := decide_eq_false h
  rw [List.filter_append, List.filter_singleton, hc, cond_false, List.append_nil]

/-- **A silent comment.**  Only owners with `known` names are in the draft, so a silent member has
none. -/
theorem sameShown_add {rules : Rules} {known : String → Bool} {d : Draft} {c : Comment}
    (h : d.registry.OwnersAmong known) (hs : Silent rules known c) :
    SameShown d (d.add rules c) := by
  rw [add_eq]
  cases hs with
  | function hk hc hp =>
      have hb : d.bucket rules c.owner c = .functions := by rw [bucket, Comment.role, hk, hc]; rfl
      rw [hb]
      exact ⟨rfl, rfl, rfl, filter_concat_of_not_public _ hp, rfl⟩
  | declaration hk hc hp =>
      have hb : d.bucket rules c.owner c = .vars := by rw [bucket, Comment.role, hk, hc]; rfl
      rw [hb]
      exact ⟨rfl, rfl, filter_concat_of_not_public _ hp, rfl, rfl⟩
  | unknown hk =>
      have hb : d.bucket rules c.owner c = .dropped := by rw [bucket, Comment.role, hk]
      rw [hb]
      exact .refl d
  | contextless hk hd =>
      have hb : d.bucket rules c.owner c = .dropped := by
        simp only [bucket, Comment.role, hk, takesDescription, hd, Bool.and_false,
          Bool.false_eq_true, if_false]
      rw [hb]
      exact .refl d
  | member kind hk ho =>
      rw [bucket_of_not_known h ((c.role_eq_member_iff kind).mpr hk) ho]
      exact .refl d

/-- A silent comment registers nothing. -/
theorem registerOwner_of_silent {rules : Rules} {known : String → Bool} {c : Comment}
    (hs : Silent rules known c) (r : Registry) : r.registerOwner c = r := by
  unfold Registry.registerOwner
  cases hs with
  | function hk hc _ | declaration hk hc _ => simp [hk, hc]
  | unknown hk | contextless hk _ => rw [hk]
  | member kind hk _ => cases kind <;> rw [hk, MemberKind.contextKind]

/-- **A whole stream.**  The drafts show the same before, so they do behind. -/
theorem SameShown.addAll {rules : Rules} {known : String → Bool} {cs cs' : List Comment}
    (h : Inserted (Silent rules known) cs cs')
    (hk : ∀ c ∈ cs, c.declaresOwner → known c.name = true) {d d' : Draft} (hd : SameShown d d')
    (ho : d.registry.OwnersAmong known) : SameShown (d.addAll rules cs) (d'.addAll rules cs') := by
  induction h generalizing d d' with
  | nil => exact hd
  | keep c _ ih =>
      exact ih (fun e he => hk e (List.mem_cons_of_mem c he)) (hd.add rules c)
        (add_ownersAmong ho rules (hk c List.mem_cons_self))
  | insert hs _ ih =>
      have hs' := sameShown_add (hd.registry ▸ ho) hs
      exact ih hk (hd.trans hs') ho

/-- Silent comments make no difference to the owners that are registered. -/
theorem registerOwners_inserted {rules : Rules} {known : String → Bool} {cs cs' : List Comment}
    (h : Inserted (Silent rules known) cs cs') (d : Draft) :
    d.registerOwners cs' = d.registerOwners cs := by
  suffices hr : ∀ r, cs'.foldl Registry.registerOwner r = cs.foldl Registry.registerOwner r by
    rw [registerOwners, registerOwners, hr]
  induction h with
  | nil => exact fun _ => rfl
  | keep c _ ih => exact fun r => ih _
  | insert hs _ ih =>
      intro r
      rw [List.foldl_cons, registerOwner_of_silent hs, ih]

end Draft

namespace Assembler

/-- The owners of the draft in which the first comment is read are known. -/
theorem start_ownersAmong (a : Assembler) (module : Identity) (cs : List Comment) :
    (a.start module cs).registry.OwnersAmong (ownerKnown (a.seed module) cs) := by
  have hseed : (Draft.ofDoc (a.seed module)).registry.OwnersAmong
      (ownerKnown (a.seed module) cs) := by
    refine .ofDocs (fun o ho => ?_) fun o ho => ?_
    · have h : (a.seed module).classes.any (·.name = o.name) = true :=
        List.any_eq_true.mpr ⟨o, ho, decide_eq_true rfl⟩
      rw [ownerKnown, h]
      rfl
    · have h : (a.seed module).mixins.any (·.name = o.name) = true :=
        List.any_eq_true.mpr ⟨o, ho, decide_eq_true rfl⟩
      rw [ownerKnown, h, Bool.or_true]
      rfl
  unfold start
  cases a.resolution with
  | singlePass => exact hseed
  | twoPhase =>
      exact List.foldlRecOn
        (motive := fun r : Registry => r.OwnersAmong (ownerKnown (a.seed module) cs)) cs _ hseed
        fun r hr c hc => hr.registerOwner (ownerKnown_of_mem hc)

/-- **Silent comments do not count.**  In both ways in which members find their owners, a stream
with silent comments put in gives the module of the stream without them. -/
theorem assemble_inserted (a : Assembler) (module : Identity) {comments comments' : List Comment}
    (h : Inserted (fun c => Silent a.rules
        (ownerKnown (a.seed module) (comments.map a.prepare)) (a.prepare c)) comments comments') :
    a.assemble module comments' = a.assemble module comments := by
  have hp := h.map (f := a.prepare) fun _ hc => hc
  have hstart : a.start module (comments'.map a.prepare) =
      a.start module (comments.map a.prepare) := by
    unfold start
    cases a.resolution with
    | singlePass => rfl
    | twoPhase => exact Draft.registerOwners_inserted hp _
  have hshown : (a.draft module comments).SameShown (a.draft module comments') := by
    unfold draft
    dsimp only
    rw [hstart]
    exact .addAll hp (fun _ => ownerKnown_of_mem) (.refl _) (a.start_ownersAmong module _)
  exact hshown.finish.symm

/-- A silent comment of each sort among a class, its method and a public function, while the hook
makes what has the tag `ignore` private. -/
theorem assemble_inserted_each :
    let ignore : Extension := { name := "ignore-tag", onComment := some Extension.ignoreTag }
    let a : Assembler := { render := id, resolution := .twoPhase, extensions := [ignore] }
    let view : Comment :=
      { context := some { kind := .function, name := "View" }, isConstructor := true }
    let draw (owner : Option String) : Comment :=
      { context := some { kind := .method, name := "draw", scope := some { owner } } }
    let helper : Comment :=
      { context := some { kind := .function, name := "helper" }, isPrivate := some false }
    let hidden : Comment := { helper with tags := [{ key := "@ignore" }] }
    let state : Comment := { context := some { kind := .declaration, name := "View" } }
    let other : Comment := { context := some { kind := .unknown, name := "View" } }
    let note : Comment := { description := "a note", kind := .other }
    a.assemble ⟨"m", "m.js"⟩ [note, draw (some "Model"), helper, hidden, state, draw (some "View"),
        other, view, draw none] =
      a.assemble ⟨"m", "m.js"⟩ [helper, draw (some "View"), view] := by
  intro ignore a view draw helper hidden state other note
  refine assemble_inserted a ⟨"m", "m.js"⟩ ?_
  refine .insert (.contextless rfl (by decide)) (.insert (.member .method rfl ?_) ?_)
  · rintro n ⟨⟩
    decide
  refine .keep _ (.insert (.function rfl rfl (by decide)) (.insert (.declaration rfl rfl ?_) ?_))
  · decide
  refine .keep _ (.insert (.unknown rfl) (.keep _ (.insert (.member .method rfl ?_) .nil)))
  rintro n ⟨⟩

end Assembler

end ModuleDocs
