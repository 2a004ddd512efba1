import ModuleDocs.Assembly.Registry
import ModuleDocs.Proofs.OrderedMap
import Mathlib.Logic.Function.Basic

/-!
# Proofs — Owners

The registry of a module's classes and mixins stands for two ordered maps, `Owners`, whatever was
done with it: records were put in, classes and mixins registered and members attached, in any order
and any number (`Registry.Op`).

* `Registry.run_represents`: after any sequence of operations the registry represents the maps that
  the same sequence makes of nothing.
* `Registry.KeepsSlots`: no operation moves a name to another slot.
* `attach_grows`: attaching hands the member back, or one member list of one record grows by it.

Classes and mixins differ only in what the declaring comment is called; `Owner` is what they share.
-/

namespace ModuleDocs

/-- A class or a mixin: the comment that declares it, and its members of each kind. -/
class Owner (α : Type) where
  head : α → Comment
  members : α → MemberKind → List Comment
  make : Comment → (MemberKind → List Comment) → α
  head_make : ∀ h ms, head (make h ms) = h
  members_make : ∀ h ms, members (make h ms) = ms
  make_eta : ∀ a, make (head a) (members a) = a

attribute [simp] Owner.head_make Owner.members_make Owner.make_eta

/-- The members of a class, by kind. -/
def ClassDoc.members (c : ClassDoc) : MemberKind → List Comment
  | .method => c.methods
  | .property => c.properties

/-- The members of a mixin, by kind. -/
def MixinDoc.members (m : MixinDoc) : MemberKind → List Comment
  | .method => m.methods
  | .property => m.properties

instance : Owner ClassDoc where
  head := ClassDoc.constructor
  members := ClassDoc.members
  make h ms := { constructor := h, properties := ms .property, methods := ms .method }
  head_make _ _ := rfl
  members_make _ _ := by funext k; cases k <;> rfl
  make_eta _ := rfl

instance : Owner MixinDoc where
  head := MixinDoc.declaration
  members := MixinDoc.members
  make h ms := { declaration := h, properties := ms .property, methods := ms .method }
  head_make _ _ := rfl
  members_make _ _ := by funext k; cases k <;> rfl
  make_eta _ := rfl

namespace Owner

variable {α : Type} [Owner α]

/-- An owner has the name of the comment that declares it. -/
def name (a : α) : String := (head a).name

/-- The owner that a comment declares, without members. -/
def bare (c : Comment) : α := make c fun _ => []

/-- The owner with one more member, behind those of its kind. -/
def attach (a : α) (kind : MemberKind) (member : Comment) : α :=
  make (head a) (Function.update (members a) kind (members a kind ++ [member]))

@[simp] theorem head_attach (a : α) (kind : MemberKind) (c : Comment) :
    head (attach a kind c) = head a :=
  head_make _ _

@[simp] theorem name_attach (a : α) (kind : MemberKind) (c : Comment) :
    name (attach a kind c) = name a :=
  congrArg Comment.name (head_attach a kind c)

/-- A member goes to the end of the members of its kind. -/
theorem members_attach (a : α) (kind k : MemberKind) (c : Comment) :
    members (attach a kind c) k = members a k ++ if kind = k then [c] else [] := by
  rw [attach, members_make]
  by_cases h : kind = k
  · subst h; simp
  · rw [Function.update_of_ne (Ne.symm h), if_neg h, List.append_nil]

/-- Owners with the same declaration and the same members are equal. -/
theorem ext {a b : α} (hh : head a = head b) (hm : ∀ k, members a k = members b k) : a = b := by
  rw [← make_eta a, ← make_eta b, hh, funext hm]

end Owner

/-- Classes take members as owners do. -/
theorem ClassDoc.attach_eq (c : ClassDoc) (kind : MemberKind) (member : Comment) :
    c.attach kind member = Owner.attach c kind member := by
  cases kind <;> rfl

/-- So do mixins. -/
theorem MixinDoc.attach_eq (m : MixinDoc) (kind : MemberKind) (member : Comment) :
    m.attach kind member = Owner.attach m kind member := by
  cases kind <;> rfl

/-! ### The maps of owners -/

/-- The classes and mixins of a module, as ordered maps. -/
structure Owners where
  classes : OrderedMap ClassDoc
  mixins : OrderedMap MixinDoc

namespace Owners

/-- No class and no mixin. -/
def none : Owners := ⟨.empty, .empty⟩

/-- Puts a class under its name. -/
def insertClass (s : Owners) (c : ClassDoc) : Owners :=
  { s with classes := s.classes.insert (Owner.name c) c }

/-- Puts a mixin under its name. -/
def insertMixin (s : Owners) (m : MixinDoc) : Owners :=
  { s with mixins := s.mixins.insert (Owner.name m) m }

/-- Puts the class of a constructor under its name, without members. -/
def registerClass (s : Owners) (c : Comment) : Owners := s.insertClass (Owner.bare c)

/-- Puts the mixin of a declaration under its name, without members. -/
def registerMixin (s : Owners) (c : Comment) : Owners := s.insertMixin (Owner.bare c)

/-- Adds a member to the class of the given name, else to the mixin of that name; where there is
neither, the member is handed back. -/
def attach (s : Owners) (owner : String) (kind : MemberKind) (member : Comment) :
    Except Comment Unit × Owners :=
  if s.classes.contains owner then
    (.ok (), { s with classes := s.classes.modify owner (Owner.attach · kind member) })
  else if s.mixins.contains owner then
    (.ok (), { s with mixins := s.mixins.modify owner (Owner.attach · kind member) })
  else (.error member, s)

end Owners

/-! ### Operations -/

/-- What is done with a registry. -/
inductive Registry.Op where
  /-- Records that exist already are put in, classes first. -/
  | seed (classes : List ClassDoc) (mixins : List MixinDoc)
  | registerClass (constructor : Comment)
  | registerMixin (declaration : Comment)
  | attach (owner : String) (kind : MemberKind) (member : Comment)

namespace Registry

/-- The registry after one operation. -/
def Op.apply (r : Registry) : Op → Registry
  | .seed classes mixins => mixins.foldl insertMixin (classes.foldl insertClass r)
  | .registerClass c => r.registerClass c
  | .registerMixin c => r.registerMixin c
  | .attach owner kind member => (r.attach owner kind member).2

/-- The maps after one operation. -/
def Op.applyOwners (s : Owners) : Op → Owners
  | .seed classes mixins => mixins.foldl Owners.insertMixin (classes.foldl Owners.insertClass s)
  | .registerClass c => s.registerClass c
  | .registerMixin c => s.registerMixin c
  | .attach owner kind member => (s.attach owner kind member).2

/-- The registry after a sequence of operations on an empty one. -/
def run (ops : List Op) : Registry := ops.foldl Op.apply {}

/-- The maps after a sequence of operations on empty ones. -/
def runOwners (ops : List Op) : Owners := ops.foldl Op.applyOwners .none

/-- The registry of records that exist already is the empty one after these are put in. -/
theorem ofDocs_eq_run (classes : List ClassDoc) (mixins : List MixinDoc) :
    ofDocs classes mixins = run [.seed classes mixins] :=
  rfl

/-- The registry stands for the maps. -/
structure Represents (r : Registry) (s : Owners) : Prop where
  classes : r.classes.Represents Owner.name s.classes
  mixins : r.mixins.Represents Owner.name s.mixins

namespace Represents

variable {r : Registry} {s : Owners}

theorem empty : Represents {} .none := ⟨.empty, .empty⟩

/-- The registry knows the classes of the owners it represents. -/
theorem hasClass_eq (h : Represents r s) (n : String) : r.hasClass n = s.classes.contains n :=
  h.classes.contains_eq n

theorem hasMixin_eq (h : Represents r s) (n : String) : r.hasMixin n = s.mixins.contains n :=
  h.mixins.contains_eq n

theorem insertClass (h : Represents r s) (c : ClassDoc) :
    Represents (r.insertClass c) (s.insertClass c) :=
  ⟨h.classes.upsert c, h.mixins⟩

theorem insertMixin (h : Represents r s) (m : MixinDoc) :
    Represents (r.insertMixin m) (s.insertMixin m) :=
  ⟨h.classes, h.mixins.upsert m⟩

/-- Classes inserted one after the other. -/
theorem insertClasses (cs : List ClassDoc) (h : Represents r s) :
    Represents (cs.foldl Registry.insertClass r) (cs.foldl Owners.insertClass s) := by
  induction cs generalizing r s with
  | nil => exact h
  | cons c cs ih => exact ih (h.insertClass c)

/-- Mixins inserted one after the other. -/
theorem insertMixins (ms : List MixinDoc) (h : Represents r s) :
    Represents (ms.foldl Registry.insertMixin r) (ms.foldl Owners.insertMixin s) := by
  induction ms generalizing r s with
  | nil => exact h
  | cons m ms ih => exact ih (h.insertMixin m)

/-- The answers agree, and so do the registry and the maps afterwards. -/
theorem attach (h : Represents r s) (owner : String) (kind : MemberKind) (member : Comment) :
    (r.attach owner kind member).1 = (s.attach owner kind member).1 ∧
      Represents (r.attach owner kind member).2 (s.attach owner kind member).2 := by
  unfold Registry.attach Owners.attach
  rw [h.hasClass_eq, h.hasMixin_eq]
  rw [funext fun c => ClassDoc.attach_eq c kind member,
    funext fun m => MixinDoc.attach_eq m kind member]
  split
  · exact ⟨rfl, h.classes.modify owner fun c => Owner.name_attach c kind member, h.mixins⟩
  · split
    · exact ⟨rfl, h.classes, h.mixins.modify owner fun m => Owner.name_attach m kind member⟩
    · exact ⟨rfl, h⟩

/-- **One operation, followed.** -/
theorem apply (h : Represents r s) : ∀ op : Op, Represents (op.apply r) (op.applyOwners s)
  | .seed cs ms => insertMixins ms (insertClasses cs h)
  | .registerClass c => h.insertClass (Owner.bare c)
  | .registerMixin c => h.insertMixin (Owner.bare c)
  | .attach owner kind member => (h.attach owner kind member).2

end Represents

/-- **Any sequence of operations, followed.** -/
theorem run_represents (ops : List Op) : Represents (run ops) (runOwners ops) := by
  suffices h : ∀ r s, Represents r s →
      Represents (ops.foldl Op.apply r) (ops.foldl Op.applyOwners s) from h _ _ .empty
  induction ops with
  | nil => exact fun _ _ h => h
  | cons op ops ih => exact fun r s h => ih _ _ (h.apply op)

/-! ### Slots -/

/-- Every name of the first registry has its slot in the second one too. -/
structure KeepsSlots (r r' : Registry) : Prop where
  classes : ∀ (n : String) i, r.classes.slots[n]? = some i → r'.classes.slots[n]? = some i
  mixins : ∀ (n : String) i, r.mixins.slots[n]? = some i → r'.mixins.slots[n]? = some i

namespace KeepsSlots

variable {r r₁ r₂ : Registry}

theorem refl (r : Registry) : KeepsSlots r r := ⟨fun _ _ h => h, fun _ _ h => h⟩

theorem trans (h₁ : KeepsSlots r r₁) (h₂ : KeepsSlots r₁ r₂) : KeepsSlots r r₂ :=
  ⟨fun n i h => h₂.classes n i (h₁.classes n i h), fun n i h => h₂.mixins n i (h₁.mixins n i h)⟩

theorem insertClass (r : Registry) (c : ClassDoc) : KeepsSlots r (r.insertClass c) :=
  ⟨fun _ _ h => Table.slot_upsert h c, fun _ _ h => h⟩

theorem insertMixin (r : Registry) (m : MixinDoc) : KeepsSlots r (r.insertMixin m) :=
  ⟨fun _ _ h => h, fun _ _ h => Table.slot_upsert h m⟩

/-- What keeps the slots in every step of a loop keeps them in the whole loop. -/
theorem foldl {β : Type} {f : Registry → β → Registry} (hf : ∀ r b, KeepsSlots r (f r b)) :
    ∀ (bs : List β) (r : Registry), KeepsSlots r (bs.foldl f r)
  | [], r => refl r
  | b :: bs, r => (hf r b).trans (foldl hf bs (f r b))

/-- Taking a member keeps the slots. -/
theorem attach (r : Registry) (owner : String) (kind : MemberKind) (member : Comment) :
    KeepsSlots r (r.attach owner kind member).2 := by
  unfold Registry.attach
  split
  · exact ⟨fun _ _ h => by rwa [Table.slots_modify], fun _ _ h => h⟩
  · split
    · exact ⟨fun _ _ h => h, fun _ _ h => by rwa [Table.slots_modify]⟩
    · exact refl r

/-- **One operation keeps the slots.** -/
theorem apply (r : Registry) : ∀ op : Op, KeepsSlots r (op.apply r)
  | .seed cs ms => (foldl insertClass cs r).trans (foldl insertMixin ms _)
  | .registerClass _ => insertClass r _
  | .registerMixin _ => insertMixin r _
  | .attach owner kind member => attach r owner kind member

end KeepsSlots

/-- **A run keeps the slots** of every run that it goes on with. -/
theorem run_keepsSlots (ops more : List Op) : KeepsSlots (run ops) (run (ops ++ more)) := by
  rw [run, run, List.foldl_append]
  exact KeepsSlots.foldl KeepsSlots.apply more _

/-! ### Attaching -/

/-- One record, of the given name, has one more member behind those of its kind; all else in it and
all other records are as before. -/
def Grows {α : Type} [Owner α] (n : String) (kind : MemberKind) (member : Comment)
    (before after : List α) : Prop :=
  ∃ l₁ a b l₂, before = l₁ ++ a :: l₂ ∧ after = l₁ ++ b :: l₂ ∧ Owner.name a = n ∧
    Owner.head b = Owner.head a ∧ Owner.members b kind = Owner.members a kind ++ [member] ∧
    ∀ k ≠ kind, Owner.members b k = Owner.members a k

theorem grows_modify {α : Type} [Owner α] {t : Table α} {m : OrderedMap α}
    (h : t.Represents Owner.name m) {n : String} (hn : n ∈ m.names) (kind : MemberKind)
    (member : Comment) :
    Grows n kind member t.toList (t.modify n (Owner.attach · kind member)).toList := by
  obtain ⟨l₁, a, l₂, he, hc⟩ := m.exists_modify hn (Owner.attach · kind member)
  have ha : (n, a) ∈ m.pairs := by rw [he]; simp
  rw [h.pairs_eq] at ha
  obtain ⟨a', -, hp⟩ := List.mem_map.mp ha
  obtain ⟨hna, rfl⟩ := Prod.mk.inj hp
  have h' := h.modify n fun c => Owner.name_attach c kind member
  refine ⟨l₁.map Prod.snd, a', Owner.attach a' kind member, l₂.map Prod.snd, ?_, ?_, hna,
    Owner.head_attach _ _ _, ?_, fun k hk => ?_⟩
  · rw [← h.values_eq, OrderedMap.values, he, List.map_append, List.map_cons]
  · rw [← h'.values_eq, OrderedMap.values, hc, List.map_append, List.map_cons]
  · rw [Owner.members_attach, if_pos rfl]
  · rw [Owner.members_attach, if_neg (Ne.symm hk), List.append_nil]

/-- **Attaching, exactly.**  The member is handed back, and nothing changes, if there is neither a
class nor a mixin of the owner's name; else it goes to the class, or to the mixin if there is no
such class, and nothing else changes. -/
theorem attach_grows {r : Registry} {s : Owners} (h : Represents r s) (owner : String)
    (kind : MemberKind) (member : Comment) :
    (r.hasClass owner = false ∧ r.hasMixin owner = false ∧
        r.attach owner kind member = (.error member, r)) ∨
      ∃ r', r.attach owner kind member = (.ok (), r') ∧
        ((r.hasClass owner = true ∧ r'.mixins = r.mixins ∧
            Grows owner kind member r.classes.toList r'.classes.toList) ∨
          (r.hasClass owner = false ∧ r.hasMixin owner = true ∧ r'.classes = r.classes ∧
            Grows owner kind member r.mixins.toList r'.mixins.toList)) := by
  unfold Registry.attach
  rw [funext fun c => ClassDoc.attach_eq c kind member,
    funext fun m => MixinDoc.attach_eq m kind member]
  by_cases hc : r.hasClass owner = true
  · refine Or.inr ⟨_, if_pos hc, Or.inl ⟨hc, rfl, grows_modify h.classes ?_ kind member⟩⟩
    rw [h.hasClass_eq] at hc
    exact of_decide_eq_true hc
  · rw [if_neg hc]
    rw [Bool.not_eq_true] at hc
    by_cases hm : r.hasMixin owner = true
    · refine Or.inr ⟨_, if_pos hm, Or.inr ⟨hc, hm, rfl, grows_modify h.mixins ?_ kind member⟩⟩
      rw [h.hasMixin_eq] at hm
      exact of_decide_eq_true hm
    · exact Or.inl ⟨hc, Bool.eq_false_iff.mpr hm, if_neg hm⟩

/-! ### The registry is a pair of ordered maps -/

/-- All that can be seen of the registry is what the maps show. -/
structure SameView (r : Registry) (s : Owners) : Prop where
  hasClass : ∀ n, r.hasClass n = s.classes.contains n
  hasMixin : ∀ n, r.hasMixin n = s.mixins.contains n
  classCount : r.classes.size = s.classes.size
  mixinCount : r.mixins.size = s.mixins.size
  classes : r.classes.toList = s.classes.values
  mixins : r.mixins.toList = s.mixins.values

/-- A registry shows the owners that it represents. -/
theorem Represents.sameView {r : Registry} {s : Owners} (h : Represents r s) : SameView r s where
  hasClass := h.hasClass_eq
  hasMixin := h.hasMixin_eq
  classCount := h.classes.size_eq.symm
  mixinCount := h.mixins.size_eq.symm
  classes := h.classes.values_eq.symm
  mixins := h.mixins.values_eq.symm

/-- **The registry is a pair of ordered maps.**  After any sequence of operations on an empty
registry both indexes are sound, a name keeps its slot in all that follows, and the registry shows
what the maps show.  A member that is attached next is handed back, with nothing changed, exactly
where there is neither a class nor a mixin of its owner's name; else one member list of one record
grows by it, the class's before the mixin's. -/
theorem registry_refines_orderedMaps (ops : List Op) :
    (∀ classes mixins, ofDocs classes mixins = run [.seed classes mixins]) ∧
    (run ops).classes.Sound ClassDoc.name ∧ (run ops).mixins.Sound MixinDoc.name ∧
    (∀ more, KeepsSlots (run ops) (run (ops ++ more))) ∧
    SameView (run ops) (runOwners ops) ∧
    ∀ owner kind member,
      ((run ops).attach owner kind member).1 = ((runOwners ops).attach owner kind member).1 ∧
      (((run ops).hasClass owner = false ∧ (run ops).hasMixin owner = false ∧
          (run ops).attach owner kind member = (.error member, run ops)) ∨
        ∃ r', (run ops).attach owner kind member = (.ok (), r') ∧
          (((run ops).hasClass owner = true ∧ r'.mixins = (run ops).mixins ∧
              Grows owner kind member (run ops).classes.toList r'.classes.toList) ∨
            ((run ops).hasClass owner = false ∧ (run ops).hasMixin owner = true ∧
              r'.classes = (run ops).classes ∧
              Grows owner kind member (run ops).mixins.toList r'.mixins.toList))) := by
  have h := run_represents ops
  refine ⟨ofDocs_eq_run, h.classes.sound, h.mixins.sound, run_keepsSlots ops, h.sameView, ?_⟩
  intro owner kind member
  exact ⟨(h.attach owner kind member).1, attach_grows h owner kind member⟩

/-- The same at a class that is registered again: it keeps its slot and loses its member. -/
theorem registry_refines_orderedMaps_again :
    let view : Comment :=
      { context := some { kind := .function, name := "View" }, isConstructor := true }
    let dom : Comment := { context := some { kind := .function, name := "Dom" } }
    let ops : List Op := [.registerClass dom, .registerClass view, .attach "View" .method dom]
    (run ops).classes.toList =
        [{ constructor := dom }, { constructor := view, methods := [dom] }] ∧
      (run ops).classes.slots["View"]? = some 1 ∧
      (run (ops ++ [.registerClass view])).classes.slots["View"]? = some 1 ∧
      (run (ops ++ [.registerClass view])).classes.toList =
        [{ constructor := dom }, { constructor := view }] := by
  intro view dom ops
  obtain ⟨-, hs, -, hk, hv, -⟩ := registry_refines_orderedMaps ops
  obtain ⟨-, -, -, -, hv', -⟩ := registry_refines_orderedMaps (ops ++ [.registerClass view])
  have hlist : (run ops).classes.toList =
      [{ constructor := dom }, { constructor := view, methods := [dom] }] :=
    hv.classes.trans (by decide)
  have hslot : (run ops).classes.slots["View"]? = some 1 := by
    refine (hs.indexed "View" 1).mpr ⟨{ constructor := view, methods := [dom] }, ?_, rfl⟩
    rw [← Array.getElem?_toList]
    exact congrArg (·[1]?) hlist
  exact ⟨hlist, hslot, (hk _).classes _ _ hslot, hv'.classes.trans (by decide)⟩

end Registry

end ModuleDocs
