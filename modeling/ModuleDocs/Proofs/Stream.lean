import ModuleDocs.Assembly.Role
import Mathlib.Data.List.Basic
import Mathlib.Data.List.Induction

/-!
# Proofs — Streams of comments

What comments say of owners, read off the comments alone, and positions in a stream.  Positions
count from 0.

* `declaresClass`, `declaresMixin`, `isMember`: the comments that declare an owner, and those that
  belong to one.  `declaresClass_eq` and its siblings tie them to the part a comment plays.
* `last? p`: the last position of a comment that satisfies `p`.
* `select ok`: the comments at the positions that `ok` admits, in the order of the stream.

Facts about a stream are proved from its last comment backwards, so each notion has its equation at
a stream with one more comment at the end.
-/

namespace ModuleDocs

/-! ### What a comment says of owners -/

/-- The syntax that a member of the kind stands before. -/
def MemberKind.contextKind : MemberKind → ContextKind
  | .method => .method
  | .property => .property

instance MemberKind.decidableForall {p : MemberKind → Prop} [∀ kind, Decidable (p kind)] :
    Decidable (∀ kind, p kind) :=
  decidable_of_iff (p .method ∧ p .property)
    ⟨fun h kind => match kind with | .method => h.1 | .property => h.2, fun h => ⟨h _, h _⟩⟩

namespace Comment

/-- It documents a constructor. -/
def declaresClass (c : Comment) : Bool := c.contextKind = some .function && c.isConstructor

/-- It documents a declaration and has the tag `mixin`. -/
def declaresMixin (c : Comment) : Bool := c.contextKind = some .declaration && c.hasTag "mixin"

/-- It declares the class of the given name. -/
def declaresClassNamed (n : String) (c : Comment) : Bool := c.declaresClass && c.name = n

/-- It documents a method, or a property, of the owner of the given name. -/
def isMember (kind : MemberKind) (n : String) (c : Comment) : Bool :=
  c.contextKind = some kind.contextKind && c.owner = some n

/-- Classes are declared by comments of their role, and by no others. -/
theorem declaresClass_eq (c : Comment) : c.declaresClass = decide (c.role = .classOwner) := by
  unfold role declaresClass
  rcases c.contextKind with _ | (_ | _ | _ | _ | _)
  · rfl
  · cases c.hasTag "mixin" <;> rfl
  · cases c.isConstructor <;> rfl
  all_goals rfl

theorem declaresMixin_eq (c : Comment) : c.declaresMixin = decide (c.role = .mixinOwner) := by
  unfold role declaresMixin
  rcases c.contextKind with _ | (_ | _ | _ | _ | _)
  · rfl
  · cases c.hasTag "mixin" <;> rfl
  · cases c.isConstructor <;> rfl
  all_goals rfl

/-- A comment is a member of a kind by its context. -/
theorem role_eq_member_iff (c : Comment) (kind : MemberKind) :
    c.role = .member kind ↔ c.contextKind = some kind.contextKind := by
  unfold role
  rcases c.contextKind with _ | (_ | _ | _ | _ | _)
  · cases kind <;> simp [MemberKind.contextKind]
  · cases c.hasTag "mixin" <;> cases kind <;> simp [MemberKind.contextKind]
  · cases c.isConstructor <;> cases kind <;> simp [MemberKind.contextKind]
  all_goals cases kind <;> simp [MemberKind.contextKind]

/-- A member of an owner has the role and names the owner. -/
theorem isMember_iff (c : Comment) (kind : MemberKind) (n : String) :
    c.isMember kind n ↔ c.role = .member kind ∧ c.owner = some n := by
  rw [role_eq_member_iff, isMember, Bool.and_eq_true, decide_eq_true_iff, decide_eq_true_iff]

/-- A comment documents a member of one kind, and of one owner. -/
theorem isMember_unique {c : Comment} {kind kind' : MemberKind} {n n' : String}
    (h : c.isMember kind n) (h' : c.isMember kind' n') : kind = kind' ∧ n = n' := by
  rw [isMember_iff] at h h'
  exact ⟨Role.member.inj (h.1.symm.trans h'.1), Option.some.inj (h.2.symm.trans h'.2)⟩

end Comment

/-! ### Positions -/

namespace Position

/-- The last position of a comment that satisfies `p`. -/
def last? (p : Comment → Bool) (cs : List Comment) : Option Nat :=
  (cs.zipIdx.filter fun ci => p ci.1).getLast?.map Prod.snd

/-- The comments at the positions that `ok` admits. -/
def select (ok : Nat → Comment → Bool) (cs : List Comment) : List Comment :=
  (cs.zipIdx.filter fun ci => ok ci.2 ci.1).map Prod.fst

/-- The newest comment of a kind is the last one. -/
theorem last?_concat (p : Comment → Bool) (cs : List Comment) (c : Comment) :
    last? p (cs ++ [c]) = if p c then some cs.length else last? p cs := by
  rw [last?, List.zipIdx_append, List.filter_append]
  by_cases h : p c
  · simp [h]
  · simp [h, last?]

/-- Whether a comment is selected depends on its position and on itself. -/
theorem select_concat (ok : Nat → Comment → Bool) (cs : List Comment) (c : Comment) :
    select ok (cs ++ [c]) = select ok cs ++ if ok cs.length c then [c] else [] := by
  rw [select, List.zipIdx_append, List.filter_append, List.map_append]
  by_cases h : ok cs.length c
  · simp [h, select]
  · simp [h, select]

theorem getElem?_concat_iff {cs : List Comment} {c d : Comment} {j : Nat} :
    (cs ++ [c])[j]? = some d ↔ cs[j]? = some d ∨ j = cs.length ∧ c = d := by
  rw [List.getElem?_append]
  by_cases h : j < cs.length
  · simp [h, Nat.ne_of_lt h]
  · rw [if_neg h, List.getElem?_eq_none (Nat.le_of_not_lt h), List.getElem?_singleton]
    split <;> grind

/-- A position is behind the last comment that satisfies `p` if it is behind all that do. -/
theorem all_last?_iff {p : Comment → Bool} {cs : List Comment} {i : Nat} :
    (last? p cs).all (· < i) = true ↔ ∀ j d, cs[j]? = some d → p d → j < i := by
  induction cs using List.reverseRecOn with
  | nil => simp [last?]
  | append_singleton cs c ih =>
      rw [last?_concat]
      by_cases h : p c
      · rw [if_pos h, Option.all_some, decide_eq_true_iff]
        constructor
        · intro hi j d hj _
          rcases getElem?_concat_iff.mp hj with hj | ⟨rfl, -⟩
          · exact Nat.lt_trans (List.getElem?_eq_some_iff.mp hj).1 hi
          · exact hi
        · exact fun hi => hi cs.length c List.getElem?_concat_length h
      · rw [if_neg h, ih]
        constructor
        · intro hi j d hj hd
          rcases getElem?_concat_iff.mp hj with hj | ⟨-, rfl⟩
          · exact hi j d hj hd
          · exact absurd hd h
        · exact fun hi j d hj => hi j d (getElem?_concat_iff.mpr (Or.inl hj))

/-- Only what `ok` says of the comments of the stream counts. -/
theorem select_congr {ok ok' : Nat → Comment → Bool} {cs : List Comment}
    (h : ∀ i c, cs[i]? = some c → ok i c = ok' i c) : select ok cs = select ok' cs := by
  refine congrArg (List.map Prod.fst) (List.filter_congr fun ci hci => ?_)
  exact h ci.2 ci.1 (List.mem_zipIdx_iff_getElem?.mp hci)

/-- What does not look at positions is a filter. -/
theorem select_eq_filter {p : Comment → Bool} {ok : Nat → Comment → Bool} {cs : List Comment}
    (h : ∀ i c, cs[i]? = some c → ok i c = p c) : select ok cs = cs.filter p := by
  calc select ok cs
      = (cs.zipIdx.filter (p ∘ Prod.fst)).map Prod.fst := select_congr h
    _ = (cs.zipIdx.map Prod.fst).filter p := List.filter_map.symm
    _ = cs.filter p := by rw [List.zipIdx_map_fst]

theorem select_eq_nil {ok : Nat → Comment → Bool} {cs : List Comment}
    (h : ∀ i c, cs[i]? = some c → ok i c = false) : select ok cs = [] := by
  rw [select_eq_filter h]
  exact List.filter_false cs

/-- Selected comments keep their order. -/
theorem select_sublist_filter {p : Comment → Bool} {ok : Nat → Comment → Bool} {cs : List Comment}
    (h : ∀ i c, ok i c → p c) : (select ok cs).Sublist (cs.filter p) := by
  have hp : select (fun _ c => p c) cs = cs.filter p := select_eq_filter fun _ _ _ => rfl
  rw [← hp]
  refine List.Sublist.map Prod.fst ?_
  have ho : (fun ci : Comment × Nat => ok ci.2 ci.1) = fun ci => ok ci.2 ci.1 && p ci.1 := by
    funext ci
    cases hc : ok ci.2 ci.1
    · rfl
    · exact (h _ _ hc).symm
  rw [ho, ← List.filter_filter]
  exact List.filter_sublist

end Position

end ModuleDocs
