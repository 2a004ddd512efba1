import ModuleDocs.Assembly

/-!
# Proofs — Where comments are taken

A draft takes a comment into one of its buckets.  Which one follows from the part the comment plays
and, for a member, from its owner; a comment for which there is none is dropped.

* `Bucket`, `Draft.bucket`: where a comment is taken; `Draft.fill`: the draft with it there.
* `Draft.add_eq`: reading a comment takes it into its bucket.
* `Draft.Fits`, `Draft.add_cases`: all that reading a comment can do, with what has to hold for it.
  What comments keep or change in a draft is proved from these cases.
-/

namespace ModuleDocs

/-- Where a draft takes a comment. -/
inductive Bucket where
  /-- It describes the module. -/
  | description
  | classes
  | mixins
  | vars
  | functions
  /-- The members of a kind that the owner of the given name has. -/
  | members (owner : String) (kind : MemberKind)
  /-- Nowhere. -/
  | dropped
deriving DecidableEq, Repr

/-- An owner that is neither a class nor a mixin gets no member. -/
theorem Registry.attach_of_not_has {r : Registry} {n : String}
    (h : (r.hasClass n || r.hasMixin n) = false) (kind : MemberKind) (c : Comment) :
    (r.attach n kind c).2 = r := by
  obtain ⟨hc, hm⟩ := Bool.or_eq_false_iff.mp h
  rw [attach, if_neg (Bool.eq_false_iff.mp hc), if_neg (Bool.eq_false_iff.mp hm)]

namespace Draft

/-- Where a comment is taken if its entity has the given owner. -/
def bucket (rules : Rules) (d : Draft) (owner : Option String) (c : Comment) : Bucket :=
  match c.role with
  | .contextless => if d.takesDescription rules c then .description else .dropped
  | .classOwner => if rules.registers then .classes else .dropped
  | .mixinOwner => if rules.registers then .mixins else .dropped
  | .topVariable => .vars
  | .topFunction => .functions
  | .member kind =>
    match owner with
    | some n => if d.registry.hasClass n || d.registry.hasMixin n then .members n kind else .dropped
    | none => .dropped
  | .unknown => .dropped

/-- The draft with a comment in the given bucket. -/
def fill (rules : Rules) (d : Draft) (c : Comment) : Bucket → Draft
  | .description => { d with header := d.header.describe rules.render c, described := true }
  | .classes => { d with registry := d.registry.registerClass c }
  | .mixins => { d with registry := d.registry.registerMixin c }
  | .vars => { d with header.vars := d.header.vars ++ [c] }
  | .functions => { d with header.functions := d.header.functions ++ [c] }
  | .members owner kind => { d with registry := (d.registry.attach owner kind c).2 }
  | .dropped => d

/-- **A comment is taken into its bucket.** -/
theorem add_eq (rules : Rules) (d : Draft) (c : Comment) :
    d.add rules c = d.fill rules c (d.bucket rules c.owner c) := by
  unfold add bucket
  cases c.role with
  | contextless => dsimp only; split <;> rfl
  | classOwner | mixinOwner => dsimp only; split <;> rfl
  | topVariable | topFunction | unknown => rfl
  | member kind =>
      dsimp only
      unfold attach
      cases c.owner with
      | none => rfl
      | some n =>
          simp only [Option.bind_some, Registry.attach?, Registry.attach]
          by_cases hc : d.registry.hasClass n = true
          · simp [hc, fill, Registry.attach]
          · by_cases hm : d.registry.hasMixin n = true
            · simp [hc, hm, fill, Registry.attach]
            · simp [hc, hm, fill]

/-- Drafts with the same owners and both with or without a description take a comment alike. -/
theorem bucket_congr {d d' : Draft} (hr : d.registry = d'.registry)
    (hd : d.described = d'.described) (rules : Rules) (owner : Option String) (c : Comment) :
    d.bucket rules owner c = d'.bucket rules owner c := by
  unfold bucket takesDescription
  rw [hr, hd]

/-- What has to hold for a comment to be taken into a bucket, if its entity has the given owner. -/
inductive Fits (rules : Rules) (d : Draft) (owner : Option String) (c : Comment) :
    Bucket → Prop where
  | description : c.role = .contextless → d.takesDescription rules c = true →
      Fits rules d owner c .description
  | classes : c.role = .classOwner → rules.registers = true → Fits rules d owner c .classes
  | mixins : c.role = .mixinOwner → rules.registers = true → Fits rules d owner c .mixins
  | vars : c.role = .topVariable → Fits rules d owner c .vars
  | functions : c.role = .topFunction → Fits rules d owner c .functions
  | members {n : String} {kind : MemberKind} : c.role = .member kind → owner = some n →
      (d.registry.hasClass n || d.registry.hasMixin n) = true →
      Fits rules d owner c (.members n kind)
  /-- It may not describe the module, or the module has its description. -/
  | contextless : c.role = .contextless → d.takesDescription rules c = false →
      Fits rules d owner c .dropped
  /-- All owners are registered before. -/
  | registered : c.role = .classOwner ∨ c.role = .mixinOwner → rules.registers = false →
      Fits rules d owner c .dropped
  /-- It is a member without an owner, or its owner is not there. -/
  | ownerless {kind : MemberKind} : c.role = .member kind →
      (∀ n, owner = some n → (d.registry.hasClass n || d.registry.hasMixin n) = false) →
      Fits rules d owner c .dropped
  | unknown : c.role = .unknown → Fits rules d owner c .dropped

theorem fits_bucket (rules : Rules) (d : Draft) (owner : Option String) (c : Comment) :
    d.Fits rules owner c (d.bucket rules owner c) := by
  unfold bucket
  cases hr : c.role with
  | contextless =>
      cases ht : d.takesDescription rules c with
      | true => exact .description hr ht
      | false => exact .contextless hr ht
  | classOwner =>
      cases hreg : rules.registers with
      | true => exact .classes hr hreg
      | false => exact .registered (.inl hr) hreg
  | mixinOwner =>
      cases hreg : rules.registers with
      | true => exact .mixins hr hreg
      | false => exact .registered (.inr hr) hreg
  | topVariable => exact .vars hr
  | topFunction => exact .functions hr
  | unknown => exact .unknown hr
  | member kind =>
      cases owner with
      | none =>
          refine .ownerless hr fun n h => ?_
          cases h
      | some n =>
          dsimp only
          cases hn : d.registry.hasClass n || d.registry.hasMixin n with
          | true => exact .members hr rfl hn
          | false =>
              refine .ownerless hr fun m h => ?_
              cases h
              exact hn

/-- **All that reading a comment can do.** -/
theorem add_cases (rules : Rules) (d : Draft) (c : Comment) :
    ∃ b, d.Fits rules c.owner c b ∧ d.add rules c = d.fill rules c b :=
  ⟨_, d.fits_bucket rules c.owner c, d.add_eq rules c⟩

end Draft

end ModuleDocs
