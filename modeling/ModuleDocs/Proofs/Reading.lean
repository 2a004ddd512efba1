import ModuleDocs.Proofs.Buckets
import ModuleDocs.Proofs.Ownership

/-!
# Proofs — Reading comments

The draft of a module reads its comments one by one.  Its registry follows the maps of owners,
`Owners.read`, and the rest of it does not look at the registry.

* `Draft.addAll_represents`, `Draft.registerOwners_represents`: the registry follows, with and
  without registration and with and without members.
* `Owners.reads_classes`, `Owners.reads_mixins`: what one comment does to the classes and the
  mixins.  A class may have members whenever it is there; a mixin only while there is no class of
  its name.
* `Draft.Agree.addAll`: two drafts that differ in their registries only stay so.
-/

namespace ModuleDocs

/-! ### One comment -/

namespace Reads

variable {α : Type} [Owner α] {declares : Comment → Bool} {opn : String → Bool} {c : Comment}
  {m : OrderedMap α}

/-- The comment declares an owner. -/
theorem insert (hd : declares c = true) (hm : ∀ kind n, ¬ c.isMember kind n) :
    Reads declares opn c m (m.insert c.name (Owner.bare c)) := by
  refine ⟨?_, fun n => ?_⟩
  · rw [OrderedMap.names_insert]
    by_cases hn : c.name ∈ m.names
    · rw [if_pos hn, if_neg fun h => h.2 hn]
    · rw [if_neg hn, if_pos ⟨hd, hn⟩]
  · rw [OrderedMap.get?_insert]
    by_cases hn : c.name = n
    · rw [if_pos hn.symm, if_pos (by simp [hd, hn])]
    · rw [if_neg (Ne.symm hn), if_neg (by simp [hn]),
        funext (Owner.receive_of_not_isMember fun kind => hm kind n), Option.map_id', ite_self]

/-- The comment is a member of an owner that is open. -/
theorem modify {kind : MemberKind} {o : String} (hd : declares c = false)
    (hm : c.isMember kind o = true) (ho : opn o = true) :
    Reads declares opn c m (m.modify o (Owner.attach · kind c)) := by
  refine ⟨?_, fun n => ?_⟩
  · rw [OrderedMap.names_modify, hd, if_neg fun h => Bool.false_ne_true h.1]
  · rw [OrderedMap.get?_modify, hd, Bool.false_and, if_neg Bool.false_ne_true]
    by_cases hn : n = o
    · subst hn
      rw [if_pos rfl, if_pos ho, funext (Owner.receive_of_isMember hm)]
    · have hm' : ∀ kind', ¬ c.isMember kind' n := fun _ h' =>
        hn (Comment.isMember_unique h' hm).2
      rw [if_neg hn, funext (Owner.receive_of_not_isMember hm'), Option.map_id', ite_self]

/-- The comment concerns no owner that is there and open. -/
theorem same (hd : declares c = false)
    (hm : ∀ n, opn n = true → m.get? n = none ∨ ∀ kind, ¬ c.isMember kind n) :
    Reads declares opn c m m := by
  refine ⟨?_, fun n => ?_⟩
  · rw [hd, if_neg fun h => Bool.false_ne_true h.1]
  · rw [hd, Bool.false_and, if_neg Bool.false_ne_true]
    split
    case isTrue ho =>
      rcases hm n ho with h | h
      · rw [h, Option.map_none]
      · rw [funext (Owner.receive_of_not_isMember h), Option.map_id']
    case isFalse => rfl

/-- The comment is a member of an owner that gets it if it is there and open. -/
theorem member {kind : MemberKind} {o : String} (hd : declares c = false)
    (hm : c.isMember kind o = true) :
    Reads declares opn c m
      (if opn o && m.contains o then m.modify o (Owner.attach · kind c) else m) := by
  split
  case isTrue h => exact modify hd hm (Bool.and_eq_true_iff.mp h).1
  case isFalse h =>
    refine same hd fun n hn => ?_
    by_cases hno : n = o
    · subst hno
      refine Or.inl (Option.not_isSome_iff_eq_none.mp fun hs => h ?_)
      rw [hn, Bool.true_and]
      exact decide_eq_true ((m.get?_isSome n).mp hs)
    · exact Or.inr fun _ h' => hno (Comment.isMember_unique h' hm).2

end Reads

namespace Owners

/-- The maps after one more comment, which counts as a declaration only if `registers`, and as a
member only if `takes`. -/
def read (registers takes : Bool) (s : Owners) (c : Comment) : Owners :=
  match c.role with
  | .classOwner => if registers then s.registerClass c else s
  | .mixinOwner => if registers then s.registerMixin c else s
  | .member kind =>
    match takes, c.owner with
    | true, some n => (s.attach n kind c).2
    | _, _ => s
  | .contextless | .topVariable | .topFunction | .unknown => s

/-- The maps of classes and mixins that exist already. -/
def ofDocs (classes : List ClassDoc) (mixins : List MixinDoc) : Owners :=
  mixins.foldl insertMixin (classes.foldl insertClass none)

theorem not_isMember_of_role {c : Comment} (h : ∀ kind, c.role ≠ .member kind) (kind : MemberKind)
    (n : String) : ¬ c.isMember kind n :=
  fun hm => h kind ((c.isMember_iff kind n).mp hm).1

/-- A class takes a member that names it. -/
theorem attach_classes (s : Owners) (o : String) (kind : MemberKind) (c : Comment) :
    (s.attach o kind c).2.classes =
      if s.classes.contains o then s.classes.modify o (Owner.attach · kind c) else s.classes := by
  unfold attach
  split
  · rfl
  · split <;> rfl

/-- A mixin takes a member that names it, unless a class does. -/
theorem attach_mixins (s : Owners) (o : String) (kind : MemberKind) (c : Comment) :
    (s.attach o kind c).2.mixins =
      if !s.classes.contains o && s.mixins.contains o then
        s.mixins.modify o (Owner.attach · kind c)
      else s.mixins := by
  unfold attach
  cases s.classes.contains o
  · cases s.mixins.contains o <;> rfl
  · rfl

/-- **A comment and the classes.** -/
theorem reads_classes (registers takes : Bool) (s : Owners) (c : Comment) :
    Reads (fun c => registers && c.declaresClass) (fun _ => takes) c s.classes
      (s.read registers takes c).classes := by
  unfold read
  cases hr : c.role with
  | classOwner =>
      have hm := not_isMember_of_role (c := c) (by simp [hr])
      cases registers with
      | true => exact .insert (by simp [c.declaresClass_eq, hr]) hm
      | false => exact .same rfl fun n _ => Or.inr (hm · n)
  | member kind =>
      have hd : (registers && c.declaresClass) = false := by simp [c.declaresClass_eq, hr]
      cases takes with
      | false => exact .same hd fun _ h => absurd h Bool.false_ne_true
      | true =>
          cases ho : c.owner with
          | none => exact .same hd fun n _ => Or.inr fun k h => by simp [c.isMember_iff, ho] at h
          | some o =>
              have hm : c.isMember kind o := (c.isMember_iff kind o).mpr ⟨hr, ho⟩
              show Reads _ _ c s.classes (s.attach o kind c).2.classes
              rw [attach_classes]
              exact .member hd hm
  | mixinOwner =>
      have hm := not_isMember_of_role (c := c) (by simp [hr])
      have hd : (registers && c.declaresClass) = false := by simp [c.declaresClass_eq, hr]
      cases registers <;> exact .same hd fun n _ => Or.inr (hm · n)
  | contextless | topVariable | topFunction | unknown =>
      have hm := not_isMember_of_role (c := c) (by simp [hr])
      exact .same (by simp [c.declaresClass_eq, hr]) fun n _ => Or.inr (hm · n)

/-- **A comment and the mixins.**  A class of its name closes a mixin. -/
theorem reads_mixins (registers takes : Bool) (s : Owners) (c : Comment) :
    Reads (fun c => registers && c.declaresMixin) (fun n => takes && !s.classes.contains n) c
      s.mixins (s.read registers takes c).mixins := by
  unfold read
  cases hr : c.role with
  | mixinOwner =>
      have hm := not_isMember_of_role (c := c) (by simp [hr])
      cases registers with
      | true => exact .insert (by simp [c.declaresMixin_eq, hr]) hm
      | false => exact .same rfl fun n _ => Or.inr (hm · n)
  | member kind =>
      have hd : (registers && c.declaresMixin) = false := by simp [c.declaresMixin_eq, hr]
      cases takes with
      | false => exact .same hd fun _ h => absurd h Bool.false_ne_true
      | true =>
          cases ho : c.owner with
          | none => exact .same hd fun n _ => Or.inr fun k h => by simp [c.isMember_iff, ho] at h
          | some o =>
              have hm : c.isMember kind o := (c.isMember_iff kind o).mpr ⟨hr, ho⟩
              show Reads _ _ c s.mixins (s.attach o kind c).2.mixins
              rw [attach_mixins]
              exact .member hd hm
  | classOwner =>
      have hm := not_isMember_of_role (c := c) (by simp [hr])
      have hd : (registers && c.declaresMixin) = false := by simp [c.declaresMixin_eq, hr]
      cases registers <;> exact .same hd fun n _ => Or.inr (hm · n)
  | contextless | topVariable | topFunction | unknown =>
      have hm := not_isMember_of_role (c := c) (by simp [hr])
      exact .same (by simp [c.declaresMixin_eq, hr]) fun n _ => Or.inr (hm · n)

/-! ### Seeds -/

theorem foldl_insertClass (cs : List ClassDoc) (s : Owners) :
    cs.foldl insertClass s =
      { s with classes := cs.foldl (fun m c => m.insert (Owner.name c) c) s.classes } := by
  induction cs generalizing s with
  | nil => rfl
  | cons c cs ih => exact ih (s.insertClass c)

theorem foldl_insertMixin (ms : List MixinDoc) (s : Owners) :
    ms.foldl insertMixin s =
      { s with mixins := ms.foldl (fun m c => m.insert (Owner.name c) c) s.mixins } := by
  induction ms generalizing s with
  | nil => rfl
  | cons m ms ih => exact ih (s.insertMixin m)

/-- The maps that a module starts with. -/
theorem ofDocs_records (classes : List ClassDoc) (mixins : List MixinDoc) :
    Records classes [] (fun _ _ => []) (ofDocs classes mixins).classes ∧
      Records mixins [] (fun _ _ => []) (ofDocs classes mixins).mixins := by
  rw [ofDocs, foldl_insertMixin, foldl_insertClass]
  exact ⟨.ofSeed classes, .ofSeed mixins⟩

end Owners

/-! ### The registry of a draft -/

namespace Registry

/-- The comments that declare owners are told apart in the same way before the members are looked
at and with them. -/
theorem registerOwner_eq (r : Registry) (c : Comment) :
    r.registerOwner c =
      match c.role with
      | .classOwner => r.registerClass c
      | .mixinOwner => r.registerMixin c
      | _ => r := by
  unfold registerOwner Comment.role
  rcases c.contextKind with _ | (_ | _ | _ | _ | _)
  · rfl
  · cases c.hasTag "mixin" <;> rfl
  · cases c.isConstructor <;> rfl
  all_goals rfl

/-- Registering an owner, seen on the owners. -/
theorem Represents.registerOwner {r : Registry} {s : Owners} (h : Represents r s) (c : Comment) :
    Represents (r.registerOwner c) (s.read true false c) := by
  rw [registerOwner_eq, Owners.read]
  cases c.role with
  | classOwner => exact h.insertClass (Owner.bare c)
  | mixinOwner => exact h.insertMixin (Owner.bare c)
  | contextless | topVariable | topFunction | unknown | member kind => exact h

end Registry

namespace Draft

theorem ofDoc_represents (r : ModuleDoc) :
    (ofDoc r).registry.Represents (.ofDocs r.classes r.mixins) :=
  Registry.Represents.insertMixins r.mixins (Registry.Represents.insertClasses r.classes .empty)

/-- **Adding a comment,** seen on the owners. -/
theorem add_represents {d : Draft} {s : Owners} (h : d.registry.Represents s) (rules : Rules)
    (c : Comment) : (d.add rules c).registry.Represents (s.read rules.registers true c) := by
  obtain ⟨b, hb, hadd⟩ := d.add_cases rules c
  rw [hadd, Owners.read]
  cases hb with
  | classes hr hreg =>
      rw [hr, hreg]
      exact h.insertClass (Owner.bare c)
  | mixins hr hreg =>
      rw [hr, hreg]
      exact h.insertMixin (Owner.bare c)
  | @members n kind hr ho _ =>
      rw [hr, ho]
      exact (h.attach n kind c).2
  | registered hr hreg =>
      rw [hreg]
      rcases hr with hr | hr <;> rw [hr] <;> exact h
  | @ownerless kind hr hnone =>
      rw [hr]
      cases ho : c.owner with
      | none => exact h
      | some n =>
          have hsame := (h.attach n kind c).2
          rwa [Registry.attach_of_not_has (hnone n ho)] at hsame
  | description hr _ | contextless hr _ | vars hr | functions hr | unknown hr =>
      rw [hr]
      exact h

/-- **The registry follows the maps** while comments are read. -/
theorem addAll_represents (rules : Rules) (cs : List Comment) {d : Draft} {s : Owners}
    (h : d.registry.Represents s) :
    (d.addAll rules cs).registry.Represents (cs.foldl (Owners.read rules.registers true) s) := by
  induction cs generalizing d s with
  | nil => exact h
  | cons c cs ih => exact ih (add_represents h rules c)

/-- **The registry follows the maps** while owners are registered. -/
theorem registerOwners_represents (cs : List Comment) {d : Draft} {s : Owners}
    (h : d.registry.Represents s) :
    (d.registerOwners cs).registry.Represents (cs.foldl (Owners.read true false) s) := by
  show (cs.foldl Registry.registerOwner d.registry).Represents _
  generalize d.registry = r at h
  induction cs generalizing r s with
  | nil => exact h
  | cons c cs ih => exact ih _ (h.registerOwner c)

/-! ### The rest of a draft -/

/-- The drafts differ in their registries only. -/
structure Agree (d d' : Draft) : Prop where
  header : d.header = d'.header
  described : d.described = d'.described

/-- Whether comments are registered does not matter to the rest of the draft. -/
theorem Agree.add {d d' : Draft} {rules rules' : Rules} (h : Agree d d')
    (hr : rules.render = rules'.render) (hm : rules.marker = rules'.marker) (c : Comment) :
    Agree (d.add rules c) (d'.add rules' c) := by
  have ht : d.takesDescription rules c = d'.takesDescription rules' c := by
    rw [takesDescription, takesDescription, Rules.describesModule, Rules.describesModule, hm,
      h.described]
  rw [add_eq, add_eq, bucket, bucket, ht]
  cases c.role with
  | contextless =>
      dsimp only
      split
      · exact ⟨by rw [fill, fill, h.header, hr], rfl⟩
      · exact h
  | topVariable | topFunction => exact ⟨by rw [fill, fill, h.header], h.described⟩
  | unknown => exact h
  -- what is done to the owners does not matter
  | classOwner | mixinOwner => dsimp only; split <;> split <;> exact ⟨h.header, h.described⟩
  | member kind =>
      cases c.owner with
      | none => exact h
      | some n => dsimp only; split <;> split <;> exact ⟨h.header, h.described⟩

/-- Drafts that agree still do so after the same comments. -/
theorem Agree.addAll {d d' : Draft} {rules rules' : Rules} (h : Agree d d')
    (hr : rules.render = rules'.render) (hm : rules.marker = rules'.marker) (cs : List Comment) :
    Agree (d.addAll rules cs) (d'.addAll rules' cs) := by
  induction cs generalizing d d' with
  | nil => exact h
  | cons c cs ih => exact ih (h.add hr hm c)

end Draft

end ModuleDocs
