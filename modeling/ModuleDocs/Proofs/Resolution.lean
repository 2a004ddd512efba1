import ModuleDocs.Proofs.Reading

/-!
# Proofs — Resolution

The classes and mixins of a finished module, and the members that each of them got, in both ways in
which members find their owners.

* `singlePass_ownership`: with one pass, an owner has the members behind the last comment that
  declares it.  A mixin has only those before which no class of its name was declared.
* `twoPhase_ownership`: with two passes, a class has all its members, wherever they stand, and so
  has a mixin unless there is a class of its name.
* `resolutions_agree`: both ways give the same owners and the same rest of the module, and the same
  module if every owner is declared before its members.

The maps of owners that both ways lead to are `Assembler.owners`.  What they hold is found comment
by comment (`Records.run`); for two passes that is done twice, once for the declarations alone and
once for the members alone.
-/

namespace ModuleDocs

/-! ### Streams -/

namespace Comment

/-- It declares a class or a mixin. -/
def declaresOwner (c : Comment) : Bool := c.declaresClass || c.declaresMixin

theorem not_isMember_of_declaresOwner {c : Comment} (h : c.declaresOwner) (kind : MemberKind)
    (n : String) : ¬ c.isMember kind n := by
  intro hm
  rw [isMember_iff] at hm
  rw [declaresOwner, declaresClass_eq, declaresMixin_eq, hm.1] at h
  exact Bool.false_ne_true h

end Comment

/-- No comment declares an owner that has a member before it. -/
def OwnersFirst (cs : List Comment) : Prop :=
  cs.Pairwise fun c d => d.declaresOwner → ∀ kind, ¬ c.isMember kind d.name

instance (cs : List Comment) : Decidable (OwnersFirst cs) :=
  inferInstanceAs (Decidable (cs.Pairwise _))

/-- An owner comes before its members. -/
theorem OwnersFirst.lt {cs : List Comment} (h : OwnersFirst cs) {i j : Nat} {c d : Comment}
    {kind : MemberKind} (hi : cs[i]? = some c) (hj : cs[j]? = some d) (hc : c.isMember kind d.name)
    (hd : d.declaresOwner) : j < i := by
  obtain ⟨hi', rfl⟩ := List.getElem?_eq_some_iff.mp hi
  obtain ⟨hj', rfl⟩ := List.getElem?_eq_some_iff.mp hj
  rcases Nat.lt_trichotomy j i with hlt | rfl | hlt
  · exact hlt
  · exact absurd hc (Comment.not_isMember_of_declaresOwner hd kind _)
  · exact absurd hc (List.pairwise_iff_getElem.mp h i j hi' hj' hlt hd kind)

/-- The streams declare the same owners in the same order, and each owner has the same members in
the same order.  How declarations and members are mixed may differ. -/
structure SameParts (cs cs' : List Comment) : Prop where
  classes : cs.filter (·.declaresClass) = cs'.filter (·.declaresClass)
  mixins : cs.filter (·.declaresMixin) = cs'.filter (·.declaresMixin)
  members : ∀ kind n, cs.filter (·.isMember kind n) = cs'.filter (·.isMember kind n)

/-! ### Classes of a name -/

/-- There is a class of the given name from the start, or some comment declares one. -/
def classKnown (classes : List ClassDoc) (cs : List Comment) (n : String) : Bool :=
  classes.any (·.name = n) || cs.any (·.declaresClassNamed n)

/-- A class that is known early is known at the end. -/
theorem classKnown_of_take {classes : List ClassDoc} {cs : List Comment} {n : String} {i : Nat}
    (h : classKnown classes (cs.take i) n) : classKnown classes cs n := by
  rw [classKnown, Bool.or_eq_true] at h ⊢
  refine h.imp_right fun h => ?_
  obtain ⟨c, hc, hn⟩ := List.any_eq_true.mp h
  exact List.any_eq_true.mpr ⟨c, List.mem_of_mem_take hc, hn⟩

/-- Where owners come first, all classes of a name are known at the members of that name. -/
theorem OwnersFirst.classKnown_take {cs : List Comment} (h : OwnersFirst cs)
    {classes : List ClassDoc} {n : String} {i : Nat} {c : Comment} {kind : MemberKind}
    (hi : cs[i]? = some c) (hc : c.isMember kind n) :
    classKnown classes (cs.take i) n = classKnown classes cs n := by
  refine Bool.eq_iff_iff.mpr ⟨classKnown_of_take, fun hk => ?_⟩
  rw [classKnown, Bool.or_eq_true] at hk ⊢
  refine hk.imp_right fun hk => ?_
  obtain ⟨d, hd, hn⟩ := List.any_eq_true.mp hk
  obtain ⟨j, hj⟩ := List.mem_iff_getElem?.mp hd
  obtain ⟨hdc, rfl⟩ : d.declaresClass = true ∧ d.name = n := by
    simpa [Comment.declaresClassNamed] using hn
  have hlt : j < i := h.lt hi hj hc (by rw [Comment.declaresOwner, hdc, Bool.true_or])
  refine List.any_eq_true.mpr ⟨d, List.mem_iff_getElem?.mpr ⟨j, ?_⟩, hn⟩
  rw [List.getElem?_take, if_pos hlt, hj]

/-- Where owners come first, a class has all its members with one pass too. -/
theorem OwnersFirst.taken_classes {cs : List Comment} (h : OwnersFirst cs) (n : String)
    (k : MemberKind) :
    Owner.taken (·.declaresClass) (fun _ _ => true) cs n k = cs.filter (·.isMember k n) := by
  refine Owner.taken_eq_filter (fun i j c d hi hc hj hd hn => ?_) fun _ _ _ _ => rfl
  exact h.lt hi hj (hn ▸ hc) (by rw [Comment.declaresOwner, hd, Bool.true_or])

/-- Where owners come first, a mixin has all its members with one pass too, or none if there is a
class of its name. -/
theorem OwnersFirst.taken_mixins {cs : List Comment} (h : OwnersFirst cs)
    (classes : List ClassDoc) (n : String) (k : MemberKind) :
    Owner.taken (·.declaresMixin) (fun before n => !classKnown classes before n) cs n k =
      if classKnown classes cs n then [] else cs.filter (·.isMember k n) := by
  refine Owner.taken_eq_ite (fun i j c d hi hc hj hd hn => ?_) fun i c hi hc => ?_
  · exact h.lt hi hj (hn ▸ hc) (by rw [Comment.declaresOwner, hd, Bool.or_true])
  · rw [h.classKnown_take hi hc]

theorem classKnown_congr {classes : List ClassDoc} {cs cs' : List Comment}
    (h : cs.filter (·.declaresClass) = cs'.filter (·.declaresClass)) (n : String) :
    classKnown classes cs n = classKnown classes cs' n := by
  have hf : ∀ l : List Comment, l.any (·.declaresClassNamed n) =
      (l.filter (·.declaresClass)).any (·.name = n) := fun l => List.any_filter.symm
  rw [classKnown, classKnown, hf, hf, h]

theorem Records.contains_eq {α : Type} [Owner α] {seed : List α} {declared : List Comment}
    {taken : String → MemberKind → List Comment} {m : OrderedMap α}
    (h : Records seed declared taken m) (n : String) :
    m.contains n = (seed.any (Owner.name · = n) || declared.any (·.name = n)) := by
  rw [OrderedMap.contains, h.names, Bool.eq_iff_iff]
  simp [List.mem_eraseDups]

/-! ### Whole streams -/

namespace Owners

variable {classes : List ClassDoc} {mixins : List MixinDoc}

/-- What a stream makes of owners that took no members yet. -/
theorem foldl_records (registers takes : Bool) {s : Owners} {dc dm : List Comment}
    (hc : Records classes dc (fun _ _ => []) s.classes)
    (hm : Records mixins dm (fun _ _ => []) s.mixins) (cs : List Comment) :
    Records classes (dc ++ cs.filter fun c => registers && c.declaresClass)
        (Owner.taken (fun c => registers && c.declaresClass) (fun _ _ => takes) cs)
        (cs.foldl (read registers takes) s).classes ∧
      Records mixins (dm ++ cs.filter fun c => registers && c.declaresMixin)
        (Owner.taken (fun c => registers && c.declaresMixin)
          (fun before n => takes &&
            !(before.foldl (read registers takes) s).classes.contains n) cs)
        (cs.foldl (read registers takes) s).mixins := by
  constructor
  · refine Records.run (m := fun cs => (cs.foldl (read registers takes) s).classes) hc ?_ cs
    intro cs c
    rw [List.foldl_concat]
    exact reads_classes registers takes _ c
  · refine Records.run (m := fun cs => (cs.foldl (read registers takes) s).mixins) hm ?_ cs
    intro cs c
    rw [List.foldl_concat]
    exact reads_mixins registers takes _ c

/-- **One pass.** -/
theorem singlePass_records (classes : List ClassDoc) (mixins : List MixinDoc) (cs : List Comment) :
    let s := cs.foldl (read true true) (ofDocs classes mixins)
    Records classes (cs.filter (·.declaresClass))
        (Owner.taken (·.declaresClass) (fun _ _ => true) cs) s.classes ∧
      Records mixins (cs.filter (·.declaresMixin))
        (Owner.taken (·.declaresMixin) (fun before n => !classKnown classes before n) cs)
        s.mixins := by
  obtain ⟨hc, hm⟩ := ofDocs_records classes mixins
  have hs := foldl_records true true hc hm
  refine ⟨(hs cs).1, ?_⟩
  -- which mixins are open is known from what was said of the classes before
  have ho : (fun before n =>
      true && !(before.foldl (read true true) (ofDocs classes mixins)).classes.contains n) =
        fun before n => !classKnown classes before n := by
    funext before n
    rw [(hs before).1.contains_eq, List.nil_append, List.any_filter]
    rfl
  exact ho ▸ (hs cs).2

/-- **Two passes.**  The first one takes no members, and the second one registers no owners. -/
theorem twoPhase_records (classes : List ClassDoc) (mixins : List MixinDoc) (cs : List Comment) :
    let s := cs.foldl (read false true) (cs.foldl (read true false) (ofDocs classes mixins))
    Records classes (cs.filter (·.declaresClass)) (fun n k => cs.filter (·.isMember k n))
        s.classes ∧
      Records mixins (cs.filter (·.declaresMixin))
        (fun n k => if classKnown classes cs n then [] else cs.filter (·.isMember k n))
        s.mixins := by
  obtain ⟨hc, hm⟩ := ofDocs_records classes mixins
  obtain ⟨hc₁, hm₁⟩ := foldl_records true false hc hm cs
  -- no owner took a member in the first pass, so the second one starts like the first
  have hs := foldl_records false true
    (hc₁.congr rfl fun _ _ => Owner.taken_eq_nil fun _ _ _ _ => rfl)
    (hm₁.congr rfl fun _ _ => Owner.taken_eq_nil fun _ _ _ _ => rfl)
  have hnone : ∀ l before : List Comment, l ++ before.filter (fun _ => false) = l := fun l _ => by
    rw [List.filter_false, List.append_nil]
  -- the second pass adds no class, so a mixin is open at all its members or at none
  have hknown : ∀ (before : List Comment) (n : String),
      (before.foldl (read false true) (cs.foldl (read true false)
        (ofDocs classes mixins))).classes.contains n = classKnown classes cs n := by
    intro before n
    rw [((hs before).1.congr (hnone _ before) fun _ _ => rfl).contains_eq, List.nil_append,
      List.any_filter]
    rfl
  refine ⟨(hs cs).1.congr (hnone _ cs) fun n k => ?_, (hs cs).2.congr (hnone _ cs) fun n k => ?_⟩
  · exact Owner.taken_eq_filter (fun _ _ _ _ _ _ _ h => absurd h Bool.false_ne_true)
      fun _ _ _ _ => rfl
  · refine Owner.taken_eq_ite (fun _ _ _ _ _ _ _ h => absurd h Bool.false_ne_true) ?_
    intro i _ _ _
    rw [hknown, Bool.true_and]

end Owners

/-! ### Finished modules -/

theorem Draft.Agree.finish {d d' : Draft} (h : Agree d d') :
    { d.finish with classes := [], mixins := [] } =
      { d'.finish with classes := [], mixins := [] } := by
  rw [Draft.finish, Draft.finish, h.header]

namespace Assembler

section

variable (a : Assembler) (module : Identity) (comments : List Comment)

/-- The classes and mixins after the last comment, as ordered maps. -/
def owners : Owners :=
  let stream := comments.map a.prepare
  let start := Owners.ofDocs (a.seed module).classes (a.seed module).mixins
  match a.resolution with
  | .singlePass => stream.foldl (Owners.read true true) start
  | .twoPhase => stream.foldl (Owners.read false true) (stream.foldl (Owners.read true false) start)

/-- The draft of a module, seen on the owners. -/
theorem draft_represents :
    (a.draft module comments).registry.Represents (a.owners module comments) := by
  have h := Draft.ofDoc_represents (a.seed module)
  unfold draft start owners
  cases hr : a.resolution with
  | singlePass =>
      have h₁ := Draft.addAll_represents a.rules (comments.map a.prepare) h
      rw [show a.rules.registers = true from decide_eq_true hr] at h₁
      exact h₁
  | twoPhase =>
      have h₂ := Draft.addAll_represents a.rules (comments.map a.prepare)
        (Draft.registerOwners_represents (comments.map a.prepare) h)
      rw [show a.rules.registers = false from decide_eq_false (by rw [hr]; exact nofun)] at h₂
      exact h₂

/-- The finished module lists the owners that the maps hold. -/
theorem assemble_listed {seed : List ClassDoc} {seed' : List MixinDoc} {dc dm : List Comment}
    {taken taken' : String → MemberKind → List Comment}
    (h : Records seed dc taken (a.owners module comments).classes ∧
      Records seed' dm taken' (a.owners module comments).mixins) :
    Listed seed dc taken (a.assemble module comments).classes ∧
      Listed seed' dm taken' (a.assemble module comments).mixins := by
  have hr := a.draft_represents module comments
  have hc := h.1.listed
  have hm := h.2.listed
  rw [hr.classes.values_eq] at hc
  rw [hr.mixins.values_eq] at hm
  exact ⟨hc, hm⟩

/-- Resolving in two phases takes every member of a declared class. -/
theorem twoPhase_listed :
    Listed (a.seed module).classes ((comments.map a.prepare).filter (·.declaresClass))
        (fun n kind => (comments.map a.prepare).filter (·.isMember kind n))
        ({ a with resolution := .twoPhase }.assemble module comments).classes ∧
      Listed (a.seed module).mixins ((comments.map a.prepare).filter (·.declaresMixin))
        (fun n kind => if classKnown (a.seed module).classes (comments.map a.prepare) n then []
          else (comments.map a.prepare).filter (·.isMember kind n))
        ({ a with resolution := .twoPhase }.assemble module comments).mixins :=
  assemble_listed { a with resolution := .twoPhase } module comments
    (Owners.twoPhase_records _ _ _)

/-- Apart from their registries the two ways have the same drafts. -/
theorem draft_agree :
    ({ a with resolution := .singlePass }.draft module comments).Agree
      ({ a with resolution := .twoPhase }.draft module comments) := by
  refine Draft.Agree.addAll ?_ ?_ ?_ _
  · exact ⟨rfl, rfl⟩
  · rfl
  · rfl

end

/-- **Ownership with one pass.**  The classes are those of the seed and those that constructors
declare, the mixins those of the seed and those that declarations with the tag declare; each has the
last comment that declares it, and its members behind that comment.  A mixin has a member only if no
class of its name was there before. -/
theorem singlePass_ownership (a : Assembler) (module : Identity) (comments : List Comment) :
    let seed := a.seed module
    let stream := comments.map a.prepare
    let doc := { a with resolution := .singlePass }.assemble module comments
    Listed seed.classes (stream.filter (·.declaresClass))
        (Owner.taken (·.declaresClass) (fun _ _ => true) stream) doc.classes ∧
      Listed seed.mixins (stream.filter (·.declaresMixin))
        (Owner.taken (·.declaresMixin) (fun before n => !classKnown seed.classes before n) stream)
        doc.mixins :=
  assemble_listed { a with resolution := .singlePass } module comments
    (Owners.singlePass_records _ _ _)

/-- A mixin, and then a class of its name that is declared twice: the mixin has what stands before
the class, and the class what stands behind its second declaration. -/
theorem singlePass_ownership_again :
    let shared : Comment :=
      { context := some { kind := .declaration, name := "View" }, tags := [{ key := "mixin" }] }
    let view (description : String) : Comment :=
      { context := some { kind := .function, name := "View" }, isConstructor := true, description }
    let method (name : String) : Comment :=
      { context := some { kind := .method, name, scope := some { owner := some "View" } } }
    let doc := ({ render := id, resolution := .singlePass } : Assembler).assemble ⟨"m", "m.js"⟩
      [method "lost", shared, method "log", view "first", method "show", view "last",
        method "update", method "hide"]
    doc.mixins = [{ declaration := shared, methods := [method "log"] }] ∧
      doc.classes =
        [{ constructor := view "last", methods := [method "hide", method "update"] }] := by
  intro shared view method doc
  obtain ⟨hc, hm⟩ := singlePass_ownership { render := id } ⟨"m", "m.js"⟩
    [method "lost", shared, method "log", view "first", method "show", view "last",
      method "update", method "hide"]
  exact ⟨hm.unique (by decide) rfl fun _ _ => rfl, hc.unique (by decide) rfl fun _ _ => rfl⟩

/-- **Ownership with two passes.**  Owners are declared as with one pass.  A class has all its
members, and so has a mixin if there is no class of its name; else it has none of the stream.  So
the classes and mixins do not depend on where members stand among declarations. -/
theorem twoPhase_ownership (a : Assembler) (module : Identity) (comments : List Comment) :
    let seed := a.seed module
    let stream := comments.map a.prepare
    let two := { a with resolution := .twoPhase }
    let doc := two.assemble module comments
    Listed seed.classes (stream.filter (·.declaresClass))
        (fun n kind => stream.filter (·.isMember kind n)) doc.classes ∧
      Listed seed.mixins (stream.filter (·.declaresMixin))
        (fun n kind =>
          if classKnown seed.classes stream n then [] else stream.filter (·.isMember kind n))
        doc.mixins ∧
      ∀ comments', SameParts stream (comments'.map a.prepare) →
        (two.assemble module comments').classes = doc.classes ∧
          (two.assemble module comments').mixins = doc.mixins := by
  intro seed stream two doc
  obtain ⟨hc, hm⟩ := a.twoPhase_listed module comments
  refine ⟨hc, hm, fun comments' hs => ?_⟩
  obtain ⟨hc', hm'⟩ := a.twoPhase_listed module comments'
  refine ⟨hc'.unique hc hs.classes.symm fun n k => (hs.members k n).symm,
    hm'.unique hm hs.mixins.symm fun n k => ?_⟩
  rw [classKnown_congr hs.classes, hs.members]

/-- A method before the constructor and behind it. -/
theorem twoPhase_ownership_before :
    let view : Comment :=
      { context := some { kind := .function, name := "View" }, isConstructor := true }
    let scope : Scope := { owner := some "View" }
    let render : Comment := { context := some { kind := .method, name := "render", scope } }
    let two : Assembler := { render := id, resolution := .twoPhase }
    SameParts [view, render] [render, view] ∧
      (two.assemble ⟨"m", "m.js"⟩ [render, view]).classes =
        (two.assemble ⟨"m", "m.js"⟩ [view, render]).classes ∧
      (two.assemble ⟨"m", "m.js"⟩ [view, render]).classes =
        [{ constructor := view, methods := [render] }] := by
  intro view scope render two
  have hs : SameParts [view, render] [render, view] := by
    refine ⟨by decide, by decide, fun kind n => ?_⟩
    have hv : view.isMember kind n = false := by cases kind <;> rfl
    simp [List.filter_cons, hv]
  obtain ⟨hc, -, hp⟩ := twoPhase_ownership two ⟨"m", "m.js"⟩ [view, render]
  refine ⟨hs, (hp [render, view] hs).1, ?_⟩
  exact hc.unique (by decide) rfl fun _ _ => rfl

/-- **The two ways agree** on everything but the members of owners, and a class has with one pass
some of the members that it has with two.  Where no owner is declared behind one of its members the
modules are the same. -/
theorem resolutions_agree (a : Assembler) (module : Identity) (comments : List Comment) :
    let one := { a with resolution := .singlePass }.assemble module comments
    let two := { a with resolution := .twoPhase }.assemble module comments
    { one with classes := [], mixins := [] } = { two with classes := [], mixins := [] } ∧
      one.classes.map (fun c => (c.name, c.constructor)) =
        two.classes.map (fun c => (c.name, c.constructor)) ∧
      one.mixins.map (fun m => (m.name, m.declaration)) =
        two.mixins.map (fun m => (m.name, m.declaration)) ∧
      List.Forall₂ (fun c d => c.name = d.name ∧ c.methods.Sublist d.methods ∧
        c.properties.Sublist d.properties) one.classes two.classes ∧
      (OwnersFirst (comments.map a.prepare) → one = two) := by
  intro one two
  obtain ⟨hc₁, hm₁⟩ := assemble_listed { a with resolution := .singlePass } module comments
    (Owners.singlePass_records _ _ _)
  obtain ⟨hc₂, hm₂⟩ := a.twoPhase_listed module comments
  have hrest : { one with classes := [], mixins := [] } =
      { two with classes := [], mixins := [] } := (a.draft_agree module comments).finish
  refine ⟨hrest, ?_, ?_, ?_, fun hf => ?_⟩
  · have hh := congrArg (List.map fun c : Comment => (c.name, c)) (hc₁.heads_eq hc₂)
    rwa [List.map_map, List.map_map] at hh
  · have hh := congrArg (List.map fun c : Comment => (c.name, c)) (hm₁.heads_eq hm₂)
    rwa [List.map_map, List.map_map] at hh
  · refine (hc₁.forall₂ hc₂).imp fun c d hcd => ?_
    have hsub : ∀ k, (Owner.members c k).Sublist (Owner.members d k) := fun k => by
      rw [(hcd.2 k).1, (hcd.2 k).2]
      exact sortByName_sublist ((Owner.taken_sublist _ _ _ _ _).append_left _)
    exact ⟨congrArg Comment.name hcd.1, hsub .method, hsub .property⟩
  · have hc : one.classes = two.classes := hc₁.unique hc₂ rfl fun n k => hf.taken_classes n k
    have hm : one.mixins = two.mixins := hm₁.unique hm₂ rfl fun n k => hf.taken_mixins _ n k
    calc one = { { one with classes := [], mixins := [] } with
                  classes := one.classes, mixins := one.mixins } := rfl
      _ = two := by rw [hrest, hc, hm]

/-- A class, a mixin and a member of each, in this order. -/
theorem resolutions_agree_declared :
    let view : Comment :=
      { context := some { kind := .function, name := "View" }, isConstructor := true }
    let shared : Comment :=
      { context := some { kind := .declaration, name := "Shared" }, tags := [{ key := "mixin" }] }
    let member (kind : ContextKind) (name owner : String) : Comment :=
      { context := some { kind, name, scope := some { owner := some owner } } }
    let stream := [shared, view, member .method "render" "View", member .property "log" "Shared"]
    OwnersFirst stream ∧
      ({ render := id, resolution := .singlePass } : Assembler).assemble ⟨"m", "m.js"⟩ stream =
        ({ render := id, resolution := .twoPhase } : Assembler).assemble ⟨"m", "m.js"⟩ stream := by
  intro view shared member stream
  have hf : OwnersFirst stream := by decide
  obtain ⟨-, -, -, -, h⟩ := resolutions_agree { render := id } ⟨"m", "m.js"⟩ stream
  exact ⟨hf, h hf⟩

end Assembler

end ModuleDocs
