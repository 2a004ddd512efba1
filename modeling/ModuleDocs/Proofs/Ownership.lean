import ModuleDocs.Proofs.Owners
import ModuleDocs.Proofs.Sorting
import ModuleDocs.Proofs.Stream
import Mathlib.Data.List.Forall2

/-!
# Proofs — Ownership

Which owners a stream of comments leaves, and with which members.  An owner is there from the
start, in `seed`, or comments declare it; `declared` lists the comments that do, in order.  Its
members are those it had at the start, unless it is declared again (`Owner.kept`), and then those
that it took from the stream, `taken`.

* `Records seed declared taken m`: the ordered map `m` holds these owners, each under its name.
* `Reads declares opn c m m'`: what one comment does to such a map.  A comment that declares an
  owner puts it there without members; a member goes to its owner if that is open.
* `Records.run`: what a whole stream does (`Owner.taken`), from what one comment does.
* `Listed seed declared taken owners`: the same of a finished list, with the members sorted
  (`StableSort`).  There is one such list (`Listed.unique`).
-/

namespace ModuleDocs

open Position

namespace Owner

variable {α : Type} [Owner α]

/-- The comments that declare the owner of the given name, first those of the seed. -/
def declarations (seed : List α) (declared : List Comment) (n : String) : List Comment :=
  (seed.map head ++ declared).filter (·.name = n)

/-- The members that the owner of the given name had at the start: none if it is declared again. -/
def kept (seed : List α) (declared : List Comment) (n : String) (kind : MemberKind) :
    List Comment :=
  if n ∈ declared.map (·.name) then []
  else ((seed.filter (name · = n)).getLast?).elim [] (members · kind)

/-- The members that the owner of the given name takes from the stream: those behind the last
comment that declares it, at positions where it is open. -/
def taken (declares : Comment → Bool) (opn : List Comment → String → Bool) (cs : List Comment)
    (n : String) (kind : MemberKind) : List Comment :=
  select (fun i c => c.isMember kind n &&
    (last? (fun d => declares d && d.name = n) cs).all (· < i) && opn (cs.take i) n) cs

/-- The next comment adds a declaration of its own name only. -/
theorem declarations_concat (seed : List α) (declared : List Comment) (c : Comment) (n : String) :
    declarations seed (declared ++ [c]) n =
      declarations seed declared n ++ if c.name = n then [c] else [] := by
  by_cases h : c.name = n <;> simp [declarations, h]

/-- A new declaration drops the members that were there. -/
theorem kept_concat (seed : List α) (declared : List Comment) (c : Comment) (n : String)
    (k : MemberKind) :
    kept seed (declared ++ [c]) n k = if c.name = n then [] else kept seed declared n k := by
  by_cases h : c.name = n
  · simp [kept, h]
  · simp [kept, h, Ne.symm h]

/-- One more comment: a declaration drops all that was taken, a member is taken where its owner is
open. -/
theorem taken_concat (declares : Comment → Bool) (opn : List Comment → String → Bool)
    (cs : List Comment) (c : Comment) (n : String) (k : MemberKind) :
    taken declares opn (cs ++ [c]) n k =
      if declares c && c.name = n then []
      else taken declares opn cs n k ++ if c.isMember k n && opn cs n then [c] else [] := by
  have lt : ∀ {i d}, cs[i]? = some d → i < cs.length := fun h =>
    (List.getElem?_eq_some_iff.mp h).1
  rw [taken, last?_concat]
  by_cases hc : (declares c && c.name = n) = true
  · rw [if_pos hc, if_pos hc]
    refine select_eq_nil fun i d hi => ?_
    have hle : i ≤ cs.length := by
      rcases getElem?_concat_iff.mp hi with hi | ⟨rfl, -⟩
      · exact Nat.le_of_lt (lt hi)
      · exact Nat.le_refl _
    simp [Nat.not_lt.mpr hle]
  · have hlast : (last? (fun d => declares d && d.name = n) cs).all (· < cs.length) = true :=
      all_last?_iff.mpr fun _ _ hj _ => lt hj
    rw [if_neg hc, if_neg hc, select_concat, hlast, List.take_left, Bool.and_true, taken]
    congr 1
    refine select_congr fun i d hi => ?_
    rw [List.take_append_of_le_length (Nat.le_of_lt (lt hi))]

/-- All members are taken where they stand behind every declaration of their owner, which is open
there. -/
theorem taken_eq_filter {declares : Comment → Bool} {opn : List Comment → String → Bool}
    {cs : List Comment} {n : String} {k : MemberKind}
    (hd : ∀ (i j : Nat) (c d : Comment), cs[i]? = some c → c.isMember k n → cs[j]? = some d →
      declares d → d.name = n → j < i)
    (ho : ∀ (i : Nat) (c : Comment), cs[i]? = some c → c.isMember k n → opn (cs.take i) n = true) :
    taken declares opn cs n k = cs.filter (·.isMember k n) := by
  refine select_eq_filter fun i c hi => ?_
  by_cases hc : c.isMember k n = true
  · have hlast : (last? (fun d => declares d && d.name = n) cs).all (· < i) = true := by
      refine all_last?_iff.mpr fun j d hj hdn => ?_
      rw [Bool.and_eq_true, decide_eq_true_iff] at hdn
      exact hd i j c d hi hc hj hdn.1 hdn.2
    rw [hc, hlast, ho i c hi hc]
    rfl
  · rw [Bool.eq_false_iff.mpr hc]
    rfl

/-- An owner that is not open where its members stand takes none. -/
theorem taken_eq_nil {declares : Comment → Bool} {opn : List Comment → String → Bool}
    {cs : List Comment} {n : String} {k : MemberKind}
    (ho : ∀ (i : Nat) (c : Comment), cs[i]? = some c → c.isMember k n → opn (cs.take i) n = false) :
    taken declares opn cs n k = [] := by
  refine select_eq_nil fun i c hi => ?_
  by_cases hc : c.isMember k n = true
  · rw [ho i c hi hc, Bool.and_false]
  · rw [Bool.eq_false_iff.mpr hc]
    rfl

/-- An owner that is either closed or open at all its members takes none or all of them. -/
theorem taken_eq_ite {declares : Comment → Bool} {opn : List Comment → String → Bool}
    {cs : List Comment} {n : String} {k : MemberKind} {closed : Bool}
    (hd : ∀ (i j : Nat) (c d : Comment), cs[i]? = some c → c.isMember k n → cs[j]? = some d →
      declares d → d.name = n → j < i)
    (ho : ∀ (i : Nat) (c : Comment), cs[i]? = some c → c.isMember k n →
      opn (cs.take i) n = !closed) :
    taken declares opn cs n k = if closed then [] else cs.filter (·.isMember k n) := by
  cases closed with
  | true => exact taken_eq_nil ho
  | false => exact taken_eq_filter hd ho

/-- Members are taken in the order of the comments. -/
theorem taken_sublist (declares : Comment → Bool) (opn : List Comment → String → Bool)
    (cs : List Comment) (n : String) (k : MemberKind) :
    (taken declares opn cs n k).Sublist (cs.filter (·.isMember k n)) := by
  refine select_sublist_filter fun i c h => ?_
  rw [Bool.and_eq_true, Bool.and_eq_true] at h
  exact h.1.1

/-- The owner with the comment as a new member, if it is a member of the owner `n`. -/
def receive (n : String) (c : Comment) (a : α) : α :=
  make (head a) fun k => members a k ++ if c.isMember k n then [c] else []

/-- A member is attached. -/
theorem receive_of_isMember {n : String} {c : Comment} {kind : MemberKind} (h : c.isMember kind n)
    (a : α) : receive n c a = attach a kind c := by
  refine ext (by rw [receive, head_make, head_attach]) fun k => ?_
  rw [receive, members_make, members_attach]
  by_cases hk : kind = k
  · rw [if_pos hk, if_pos (hk ▸ h)]
  · rw [if_neg hk, if_neg fun h' => hk (Comment.isMember_unique h h').1]

/-- Any other comment leaves the owner. -/
theorem receive_of_not_isMember {n : String} {c : Comment} (h : ∀ kind, ¬ c.isMember kind n)
    (a : α) : receive n c a = a := by
  rw [receive]
  simp only [if_neg (h _), List.append_nil, make_eta]

end Owner

/-! ### Maps of owners -/

/-- The map holds the owners of the seed and the declared ones, under their names and in the order
in which the names came, each with the last comment that declares it and with its members. -/
structure Records {α : Type} [Owner α] (seed : List α) (declared : List Comment)
    (taken : String → MemberKind → List Comment) (m : OrderedMap α) : Prop where
  names : m.names = (seed.map Owner.name ++ declared.map (·.name)).eraseDups
  get? : ∀ n, m.get? n = (Owner.declarations seed declared n).getLast?.map fun h =>
    Owner.make h fun k => Owner.kept seed declared n k ++ taken n k

/-- What a comment does to a map of owners.  `declares` says which comments declare owners of this
sort, `opn` which owners may have members. -/
structure Reads {α : Type} [Owner α] (declares : Comment → Bool) (opn : String → Bool)
    (c : Comment) (m m' : OrderedMap α) : Prop where
  names : m'.names =
    if declares c = true ∧ c.name ∉ m.names then m.names ++ [c.name] else m.names
  get? : ∀ n, m'.get? n =
    if declares c && c.name = n then some (Owner.bare c)
    else if opn n then (m.get? n).map (Owner.receive n c) else m.get? n

namespace Records

variable {α : Type} [Owner α] {seed : List α} {declared : List Comment}
  {taken : String → MemberKind → List Comment} {m m' : OrderedMap α}

/-- A name that came before adds nothing. -/
theorem eraseDups_concat (l : List String) (n : String) :
    (l ++ [n]).eraseDups = if n ∈ l then l.eraseDups else l.eraseDups ++ [n] := by
  rw [List.eraseDups_append]
  by_cases h : n ∈ l
  · simp [h, List.removeAll]
  · simp [h, List.removeAll, List.eraseDups_cons]

theorem congr {declared' : List Comment} {taken' : String → MemberKind → List Comment}
    (h : Records seed declared taken m) (hd : declared = declared')
    (ht : ∀ n k, taken n k = taken' n k) : Records seed declared' taken' m := by
  obtain rfl : taken = taken' := funext fun n => funext (ht n)
  exact hd ▸ h

/-- The map of the seed. -/
theorem ofSeed (seed : List α) :
    Records seed [] (fun _ _ => [])
      (seed.foldl (fun m a => m.insert (Owner.name a) a) OrderedMap.empty) := by
  induction seed using List.reverseRecOn with
  | nil => exact ⟨rfl, fun _ => rfl⟩
  | append_singleton seed a ih =>
      rw [List.foldl_append, List.foldl_cons, List.foldl_nil]
      refine ⟨?_, fun n => ?_⟩
      · have hn := ih.names
        rw [List.map_nil, List.append_nil] at hn ⊢
        rw [OrderedMap.names_insert, hn, List.map_append, List.map_singleton, eraseDups_concat]
        simp only [List.mem_eraseDups]
      · rw [OrderedMap.get?_insert]
        by_cases h : n = Owner.name a
        · have hd : Owner.declarations (seed ++ [a]) [] n =
              Owner.declarations seed [] n ++ [Owner.head a] := by
            simp [Owner.declarations, h, Owner.name]
          have hk : ∀ k, Owner.kept (seed ++ [a]) [] n k = Owner.members a k := fun k => by
            simp [Owner.kept, h]
          rw [if_pos h, hd, List.getLast?_concat, Option.map_some]
          simp only [hk, List.append_nil, Owner.make_eta]
        · have hd : Owner.declarations (seed ++ [a]) [] n = Owner.declarations seed [] n := by
            simp [Owner.declarations, show ¬ (Owner.head a).name = n from Ne.symm h]
          have hk : ∀ k, Owner.kept (seed ++ [a]) [] n k = Owner.kept seed [] n k := fun k => by
            simp [Owner.kept, Ne.symm h]
          rw [if_neg h, ih.get?, hd]
          simp only [hk]

/-- **One comment.**  It may add to the declared owners, and to the members taken. -/
theorem read {declares : Comment → Bool} {opn : String → Bool} {c : Comment}
    (h : Records seed declared taken m) (hr : Reads declares opn c m m') :
    Records seed (declared ++ if declares c then [c] else [])
      (fun n k => if declares c && c.name = n then []
        else taken n k ++ if c.isMember k n && opn n then [c] else []) m' := by
  refine ⟨?_, fun n => ?_⟩
  · rw [hr.names, h.names]
    by_cases hc : declares c = true
    · rw [if_pos hc, List.map_append, List.map_singleton, ← List.append_assoc, eraseDups_concat]
      simp only [hc, List.mem_eraseDups, true_and]
      split <;> simp_all
    · rw [if_neg hc, List.append_nil, if_neg fun h' => hc h'.1]
  · rw [hr.get?, h.get?]
    by_cases hc : (declares c && c.name = n) = true
    · obtain ⟨hdc, hn⟩ : declares c = true ∧ c.name = n := by simpa using hc
      rw [if_pos hc, if_pos hdc, Owner.declarations_concat, if_pos hn, List.getLast?_concat,
        Option.map_some]
      simp only [Owner.kept_concat, if_pos hn, if_pos hc, List.append_nil]
      rfl
    · -- the owner `n` is declared by the same comments as before
      have hd : Owner.declarations seed (declared ++ if declares c then [c] else []) n =
          Owner.declarations seed declared n := by
        split <;> simp_all [Owner.declarations_concat]
      have hk : ∀ k, Owner.kept seed (declared ++ if declares c then [c] else []) n k =
          Owner.kept seed declared n k := fun k => by
        split <;> simp_all [Owner.kept_concat]
      simp only [if_neg hc, hd, hk]
      cases (Owner.declarations seed declared n).getLast? with
      | none => split <;> rfl
      | some hd =>
          by_cases ho : opn n = true
          · simp [ho, Owner.receive]
          · simp [ho]

/-- **A whole stream.**  `m cs` is the map after the comments `cs`. -/
theorem run {declares : Comment → Bool} {opn : List Comment → String → Bool}
    {m : List Comment → OrderedMap α} (h : Records seed declared (fun _ _ => []) (m []))
    (hr : ∀ cs c, Reads declares (opn cs) c (m cs) (m (cs ++ [c]))) (cs : List Comment) :
    Records seed (declared ++ cs.filter declares) (Owner.taken declares opn cs) (m cs) := by
  induction cs using List.reverseRecOn with
  | nil => exact h.congr (List.append_nil _).symm fun _ _ => rfl
  | append_singleton cs c ih =>
      refine (ih.read (hr cs c)).congr ?_ fun n k => (Owner.taken_concat _ _ cs c n k).symm
      rw [List.filter_append, List.append_assoc, List.filter_singleton, cond_eq_ite]

/-- An entry of the map in full. -/
theorem entry (h : Records seed declared taken m) {n : String} {a : α} (ha : m.get? n = some a) :
    Owner.name a = n ∧ (Owner.declarations seed declared n).getLast? = some (Owner.head a) ∧
      ∀ k, Owner.members a k = Owner.kept seed declared n k ++ taken n k := by
  rw [h.get?] at ha
  obtain ⟨c, hc, rfl⟩ := Option.map_eq_some_iff.mp ha
  have hm : c ∈ Owner.declarations seed declared n := List.mem_of_getLast? hc
  refine ⟨?_, ?_, fun k => ?_⟩
  · rw [Owner.name, Owner.head_make]
    exact of_decide_eq_true (List.mem_filter.mp hm).2
  · rw [Owner.head_make, hc]
  · rw [Owner.members_make]

end Records

/-! ### Finished lists -/

/-- The owner with its members sorted. -/
def Owner.sorted {α : Type} [Owner α] (a : α) : α := make (head a) fun k => sortByName (members a k)

@[simp] theorem Owner.name_sorted {α : Type} [Owner α] (a : α) : name (sorted a) = name a :=
  congrArg Comment.name (head_make _ _)

@[simp] theorem Owner.map_name_sorted {α : Type} [Owner α] (owners : List α) :
    (owners.map sorted).map name = owners.map name := by
  rw [List.map_map]
  exact List.map_congr_left fun a _ => name_sorted a

/-- The list holds the owners of the seed and the declared ones, in the order in which their names
came, each once, with the last comment that declares it and with its members sorted. -/
structure Listed {α : Type} [Owner α] (seed : List α) (declared : List Comment)
    (taken : String → MemberKind → List Comment) (owners : List α) : Prop where
  names : owners.map Owner.name = (seed.map Owner.name ++ declared.map (·.name)).eraseDups
  heads : ∀ a ∈ owners,
    (Owner.declarations seed declared (Owner.name a)).getLast? = some (Owner.head a)
  members : ∀ a ∈ owners, ∀ k,
    StableSort (Owner.kept seed declared (Owner.name a) k ++ taken (Owner.name a) k)
      (Owner.members a k)

section

variable {α : Type} [Owner α] {seed : List α} {declared : List Comment}
  {taken taken' : String → MemberKind → List Comment}

/-- Owners are listed if their names stand in the order in which they came first, each with its
newest head and with its members in order. -/
theorem listed_iff {owners : List α} : Listed seed declared taken owners ↔
    owners.map Owner.name = (seed.map Owner.name ++ declared.map (·.name)).eraseDups ∧
      (∀ a ∈ owners,
        (Owner.declarations seed declared (Owner.name a)).getLast? = some (Owner.head a)) ∧
      ∀ a ∈ owners, ∀ k,
        StableSort (Owner.kept seed declared (Owner.name a) k ++ taken (Owner.name a) k)
          (Owner.members a k) :=
  ⟨fun h => ⟨h.names, h.heads, h.members⟩, fun h => ⟨h.1, h.2.1, h.2.2⟩⟩

instance (owners : List α) : Decidable (Listed seed declared taken owners) :=
  decidable_of_iff _ listed_iff.symm

/-- **Recorded owners are listed.** -/
theorem Records.listed {m : OrderedMap α} (h : Records seed declared taken m) :
    Listed seed declared taken (m.values.map Owner.sorted) := by
  have hv : ∀ a ∈ m.values.map Owner.sorted, ∃ b, a = Owner.sorted b ∧
      m.get? (Owner.name b) = some b := by
    intro a ha
    obtain ⟨b, hb, rfl⟩ := List.mem_map.mp ha
    rw [OrderedMap.values_eq_filterMap] at hb
    obtain ⟨n, -, hn⟩ := List.mem_filterMap.mp hb
    exact ⟨b, rfl, (h.entry hn).1 ▸ hn⟩
  refine ⟨?_, fun a ha => ?_, fun a ha k => ?_⟩
  · rw [← h.names, Owner.map_name_sorted, m.values_eq_filterMap, List.map_filterMap]
    refine (List.filterMap_congr fun n hn => ?_).trans List.filterMap_some
    obtain ⟨a, ha⟩ := Option.isSome_iff_exists.mp ((m.get?_isSome n).mpr hn)
    rw [ha, Option.map_some, (h.entry ha).1]
  · obtain ⟨b, rfl, hb⟩ := hv a ha
    rw [Owner.name_sorted, (h.entry hb).2.1, Owner.sorted, Owner.head_make]
  · obtain ⟨b, rfl, hb⟩ := hv a ha
    rw [stableSort_iff, Owner.name_sorted, Owner.sorted, Owner.members_make, (h.entry hb).2.2]

namespace Listed

variable {l l' : List α}

/-- Two lists of the same owners agree place by place but for the members taken. -/
theorem forall₂ (h : Listed seed declared taken l) (h' : Listed seed declared taken' l') :
    List.Forall₂ (fun a b => Owner.head a = Owner.head b ∧ ∀ k,
      Owner.members a k =
        sortByName (Owner.kept seed declared (Owner.name a) k ++ taken (Owner.name a) k) ∧
      Owner.members b k =
        sortByName (Owner.kept seed declared (Owner.name a) k ++ taken' (Owner.name a) k))
      l l' := by
  have hn : List.Forall₂ (fun a b : α => Owner.name a = Owner.name b) l l' := by
    have he : l.map Owner.name = l'.map Owner.name := h.names.trans h'.names.symm
    rw [← List.forall₂_eq_eq_eq, List.forall₂_map_left_iff, List.forall₂_map_right_iff] at he
    exact he
  rw [List.forall₂_iff_zip] at hn ⊢
  refine ⟨hn.1, fun {a b} hab => ?_⟩
  obtain ⟨ha, hb⟩ := List.of_mem_zip hab
  have hab := hn.2 hab
  have hh := h.heads a ha
  rw [hab, h'.heads b hb] at hh
  refine ⟨(Option.some.inj hh).symm, fun k => ⟨stableSort_iff.mp (h.members a ha k), ?_⟩⟩
  rw [hab]
  exact stableSort_iff.mp (h'.members b hb k)

/-- The list is determined by its owners and what they took. -/
theorem unique {declared' : List Comment} (h : Listed seed declared taken l)
    (h' : Listed seed declared' taken' l') (hd : declared = declared')
    (ht : ∀ n k, taken n k = taken' n k) : l = l' := by
  subst hd
  rw [← List.forall₂_eq_eq_eq]
  refine (h.forall₂ h').imp fun a b hab => Owner.ext hab.1 fun k => ?_
  rw [(hab.2 k).1, (hab.2 k).2, ht]

/-- Two lists for the same declarations have the same heads. -/
theorem heads_eq (h : Listed seed declared taken l) (h' : Listed seed declared taken' l') :
    l.map Owner.head = l'.map Owner.head := by
  rw [← List.forall₂_eq_eq_eq, List.forall₂_map_left_iff, List.forall₂_map_right_iff]
  exact (h.forall₂ h').imp fun a b hab => hab.1

end Listed

end

end ModuleDocs
