import ModuleDocs.Assembly.Table
import Mathlib.Data.List.Nodup

/-!
# Proofs — Ordered maps

An *ordered map* holds one entry under each of its names, in the order in which the names first
came: an entry under a name that is there takes the place of the earlier one, any other entry goes
to the end.  It has no slots and no index.

A table *represents* an ordered map (`Table.Represents`) when its entries are those of the map in
order, each under the name that the entry itself carries, and its index leads from a name to a slot
exactly when the entry in that slot has that name (`Table.Indexed`).

* `Represents.upsert`, `Represents.modify`: the operations of the table are those of the map.
* `Represents.sound`: no slot is out of range, none is without its name, no two names are equal.
-/

namespace ModuleDocs

/-- Entries under distinct names, in the order in which the names first came. -/
structure OrderedMap (α : Type) where
  pairs : List (String × α)
  nodup : (pairs.map Prod.fst).Nodup

namespace OrderedMap

variable {α : Type}

/-- The pairs with an entry under a name: in the place of the earlier one, or at the end. -/
def placed (n : String) (a : α) : List (String × α) → List (String × α)
  | [] => [(n, a)]
  | (k, b) :: ps => if k = n then (k, a) :: ps else (k, b) :: placed n a ps

/-- The pairs with the entry under a name changed. -/
def changed (n : String) (f : α → α) : List (String × α) → List (String × α)
  | [] => []
  | (k, b) :: ps => if k = n then (k, f b) :: ps else (k, b) :: changed n f ps

/-- Placing an entry adds its name at the end, unless the name is there. -/
theorem map_fst_placed (n : String) (a : α) (ps : List (String × α)) :
    (placed n a ps).map Prod.fst =
      if n ∈ ps.map Prod.fst then ps.map Prod.fst else ps.map Prod.fst ++ [n] := by
  induction ps with
  | nil => rfl
  | cons p ps ih =>
      obtain ⟨k, b⟩ := p
      by_cases h : k = n
      · simp [placed, h]
      · have hn : n ≠ k := fun e => h e.symm
        rw [placed, if_neg h, List.map_cons, ih]
        by_cases hm : n ∈ ps.map Prod.fst
        · simp [hm]
        · rw [if_neg hm, if_neg (by simpa [hn] using hm)]
          rfl

theorem map_fst_changed (n : String) (f : α → α) (ps : List (String × α)) :
    (changed n f ps).map Prod.fst = ps.map Prod.fst := by
  induction ps with
  | nil => rfl
  | cons p ps ih =>
      obtain ⟨k, b⟩ := p
      rw [changed]
      split
      · rfl
      · rw [List.map_cons, List.map_cons, ih]

theorem lookup_cons_ite (n k : String) (b : α) (ps : List (String × α)) :
    ((k, b) :: ps).lookup n = if n = k then some b else ps.lookup n := by
  by_cases h : n = k
  · rw [if_pos h, h, List.lookup_cons_self]
  · rw [if_neg h, List.lookup_cons, beq_false_of_ne h]

/-- The placed entry is found under its name, and the others as before. -/
theorem lookup_placed (n k : String) (a : α) (ps : List (String × α)) :
    (placed n a ps).lookup k = if k = n then some a else ps.lookup k := by
  induction ps with
  | nil => rw [placed, lookup_cons_ite]
  | cons p ps ih =>
      obtain ⟨j, b⟩ := p
      rw [placed, lookup_cons_ite]
      split
      case isTrue hj =>
        subst hj
        rw [lookup_cons_ite]
        split <;> rfl
      case isFalse hj =>
        rw [lookup_cons_ite, ih]
        by_cases h : k = j
        · rw [if_pos h, if_pos h, if_neg (h ▸ hj)]
        · rw [if_neg h, if_neg h]

/-- A change is seen under its name only. -/
theorem lookup_changed (n k : String) (f : α → α) (ps : List (String × α)) :
    (changed n f ps).lookup k = if k = n then (ps.lookup k).map f else ps.lookup k := by
  induction ps with
  | nil => simp [changed]
  | cons p ps ih =>
      obtain ⟨j, b⟩ := p
      rw [changed, lookup_cons_ite]
      split
      case isTrue hj =>
        subst hj
        rw [lookup_cons_ite]
        split <;> rfl
      case isFalse hj =>
        rw [lookup_cons_ite, ih]
        by_cases h : k = j
        · rw [if_pos h, if_pos h, if_neg (h ▸ hj)]
        · rw [if_neg h, if_neg h]

/-- Where the pair of slot `i` has the name, placing an entry sets that slot. -/
theorem placed_eq_set {n : String} {a b : α} {ps : List (String × α)} {i : Nat}
    (hps : (ps.map Prod.fst).Nodup) (hi : ps[i]? = some (n, b)) :
    placed n a ps = ps.set i (n, a) := by
  induction ps generalizing i with
  | nil => simp at hi
  | cons p ps ih =>
      obtain ⟨k, c⟩ := p
      obtain ⟨hk, hps⟩ := List.nodup_cons.mp hps
      cases i with
      | zero =>
          obtain ⟨rfl, rfl⟩ : k = n ∧ c = b := by simpa using hi
          simp [placed]
      | succ i =>
          rw [List.getElem?_cons_succ] at hi
          have hkn : k ≠ n := fun e =>
            hk (List.mem_map.mpr ⟨(n, b), List.mem_of_getElem? hi, e.symm⟩)
          rw [placed, if_neg hkn, ih hps hi, List.set_cons_succ]

/-- Where the pair of slot `i` has the name, changing the entry changes that slot. -/
theorem changed_eq_modify {n : String} {f : α → α} {b : α} {ps : List (String × α)} {i : Nat}
    (hps : (ps.map Prod.fst).Nodup) (hi : ps[i]? = some (n, b)) :
    changed n f ps = ps.modify i fun p => (p.1, f p.2) := by
  induction ps generalizing i with
  | nil => simp at hi
  | cons p ps ih =>
      obtain ⟨k, c⟩ := p
      obtain ⟨hk, hps⟩ := List.nodup_cons.mp hps
      cases i with
      | zero =>
          obtain ⟨rfl, rfl⟩ : k = n ∧ c = b := by simpa using hi
          simp [changed]
      | succ i =>
          rw [List.getElem?_cons_succ] at hi
          have hkn : k ≠ n := fun e =>
            hk (List.mem_map.mpr ⟨(n, b), List.mem_of_getElem? hi, e.symm⟩)
          rw [changed, if_neg hkn, ih hps hi, List.modify_succ_cons]

/-- A new name goes to the end. -/
theorem placed_of_notMem {n : String} {a : α} {ps : List (String × α)}
    (h : n ∉ ps.map Prod.fst) : placed n a ps = ps ++ [(n, a)] := by
  induction ps with
  | nil => rfl
  | cons p ps ih =>
      obtain ⟨k, b⟩ := p
      obtain ⟨hk, hps⟩ : n ≠ k ∧ n ∉ ps.map Prod.fst := by simpa using h
      rw [placed, if_neg hk.symm, ih hps, List.cons_append]

/-- There is nothing to change under a name that is not there. -/
theorem changed_of_notMem {n : String} {f : α → α} {ps : List (String × α)}
    (h : n ∉ ps.map Prod.fst) : changed n f ps = ps := by
  induction ps with
  | nil => rfl
  | cons p ps ih =>
      obtain ⟨k, b⟩ := p
      obtain ⟨hk, hps⟩ : n ≠ k ∧ n ∉ ps.map Prod.fst := by simpa using h
      rw [changed, if_neg hk.symm, ih hps]

/-! ### The operations -/

/-- The map without entries. -/
def empty : OrderedMap α := ⟨[], List.nodup_nil⟩

/-- The names in order. -/
def names (m : OrderedMap α) : List String := m.pairs.map Prod.fst

/-- The entries in order. -/
def values (m : OrderedMap α) : List α := m.pairs.map Prod.snd

/-- The number of entries. -/
def size (m : OrderedMap α) : Nat := m.pairs.length

/-- There is an entry under the name. -/
def contains (m : OrderedMap α) (n : String) : Bool := n ∈ m.names

/-- The entry under the name. -/
def get? (m : OrderedMap α) (n : String) : Option α := m.pairs.lookup n

/-- Puts an entry under a name: in the place of the earlier one, or at the end. -/
def insert (m : OrderedMap α) (n : String) (a : α) : OrderedMap α where
  pairs := placed n a m.pairs
  nodup := by
    rw [map_fst_placed]
    split
    · exact m.nodup
    · exact List.nodup_append.mpr ⟨m.nodup, List.nodup_singleton n, by grind⟩

/-- Changes the entry under a name, if there is one. -/
def modify (m : OrderedMap α) (n : String) (f : α → α) : OrderedMap α where
  pairs := changed n f m.pairs
  nodup := by rw [map_fst_changed]; exact m.nodup

/-- A name keeps the place at which it came first. -/
theorem names_insert (m : OrderedMap α) (n : String) (a : α) :
    (m.insert n a).names = if n ∈ m.names then m.names else m.names ++ [n] :=
  map_fst_placed n a m.pairs

@[simp] theorem names_modify (m : OrderedMap α) (n : String) (f : α → α) :
    (m.modify n f).names = m.names :=
  map_fst_changed n f m.pairs

/-- The newest entry of a name is the one that is found. -/
theorem get?_insert (m : OrderedMap α) (n k : String) (a : α) :
    (m.insert n a).get? k = if k = n then some a else m.get? k :=
  lookup_placed n k a m.pairs

/-- Changing an entry leaves all others. -/
theorem get?_modify (m : OrderedMap α) (n k : String) (f : α → α) :
    (m.modify n f).get? k = if k = n then (m.get? k).map f else m.get? k :=
  lookup_changed n k f m.pairs

theorem names_nodup (m : OrderedMap α) : m.names.Nodup := m.nodup

/-- An entry is found exactly if it is one of the pairs. -/
theorem get?_eq_some_iff (m : OrderedMap α) {n : String} {a : α} :
    m.get? n = some a ↔ (n, a) ∈ m.pairs := by
  obtain ⟨ps, hps⟩ := m
  show ps.lookup n = some a ↔ (n, a) ∈ ps
  induction ps with
  | nil => simp
  | cons p ps ih =>
      obtain ⟨k, b⟩ := p
      obtain ⟨hk, hps⟩ := List.nodup_cons.mp hps
      by_cases h : n = k
      · subst h
        have hn : (n, a) ∉ ps := fun hm => hk (List.mem_map.mpr ⟨_, hm, rfl⟩)
        simp [hn, eq_comm]
      · rw [lookup_cons_ite, if_neg h, ih hps]
        simp [h]

theorem get?_isSome (m : OrderedMap α) (n : String) : (m.get? n).isSome ↔ n ∈ m.names := by
  rw [Option.isSome_iff_exists]
  constructor
  · rintro ⟨a, h⟩
    exact List.mem_map.mpr ⟨(n, a), m.get?_eq_some_iff.mp h, rfl⟩
  · intro h
    obtain ⟨⟨k, a⟩, hp, rfl⟩ := List.mem_map.mp h
    exact ⟨a, m.get?_eq_some_iff.mpr hp⟩

/-- Where the name is there, changing its entry changes one pair and no other. -/
theorem exists_modify (m : OrderedMap α) {n : String} (h : n ∈ m.names) (f : α → α) :
    ∃ l₁ a l₂, m.pairs = l₁ ++ (n, a) :: l₂ ∧ (m.modify n f).pairs = l₁ ++ (n, f a) :: l₂ := by
  obtain ⟨⟨k, a⟩, hp, rfl⟩ := List.mem_map.mp h
  obtain ⟨i, hi⟩ := List.mem_iff_getElem?.mp hp
  obtain ⟨hlt, hi'⟩ := List.getElem?_eq_some_iff.mp hi
  refine ⟨m.pairs.take i, a, m.pairs.drop (i + 1), ?_, ?_⟩
  · rw [← hi', ← List.drop_eq_getElem_cons hlt, List.take_append_drop]
  · show changed k f m.pairs = _
    rw [changed_eq_modify m.nodup hi, List.modify_eq_take_cons_drop hlt, hi']

/-- The entries are those under the names, in the order of the names. -/
theorem values_eq_filterMap (m : OrderedMap α) : m.values = m.names.filterMap m.get? := by
  rw [values, names, List.filterMap_map, ← List.filterMap_eq_map]
  refine List.filterMap_congr fun p hp => ?_
  exact (m.get?_eq_some_iff.mpr hp).symm

end OrderedMap

/-! ### Tables -/

namespace Table

variable {α : Type} {name : α → String}

/-- The index leads from a name to a slot exactly when the entry in that slot has that name. -/
def Indexed (name : α → String) (t : Table α) : Prop :=
  ∀ n i, t.slots[n]? = some i ↔ ∃ a, t.entries[i]? = some a ∧ name a = n

/-- The table stands for the ordered map. -/
structure Represents (name : α → String) (t : Table α) (m : OrderedMap α) : Prop where
  indexed : t.Indexed name
  pairs_eq : m.pairs = t.toList.map fun a => (name a, a)

/-- What an index is good for: it leads to slots that exist, to each of them from one name, and no
two entries have the same name. -/
structure Sound (name : α → String) (t : Table α) : Prop where
  indexed : t.Indexed name
  inRange : ∀ (n : String) i, t.slots[n]? = some i → i < t.entries.size
  oneName : ∀ i < t.entries.size, ∃! n : String, t.slots[n]? = some i
  nodup : (t.toList.map name).Nodup

namespace Represents

variable {t : Table α} {m : OrderedMap α}

theorem empty : Represents name {} (.empty : OrderedMap α) where
  indexed n i := by simp
  pairs_eq := rfl

/-- The entries of the table are the values of the map, in order. -/
theorem values_eq (h : Represents name t m) : m.values = t.toList := by
  rw [OrderedMap.values, h.pairs_eq, List.map_map]
  exact List.map_id' _

/-- The names come in the order of the entries. -/
theorem names_eq (h : Represents name t m) : m.names = t.toList.map name := by
  rw [OrderedMap.names, h.pairs_eq, List.map_map]
  rfl

theorem size_eq (h : Represents name t m) : m.size = t.size := by
  rw [OrderedMap.size, h.pairs_eq, List.length_map, Table.toList, Array.length_toList, Table.size]

/-- The entry at a position has its own name there. -/
theorem pairs_getElem? (h : Represents name t m) (i : Nat) :
    m.pairs[i]? = t.entries[i]?.map fun a => (name a, a) := by
  rw [h.pairs_eq, List.getElem?_map, Table.toList, Array.getElem?_toList]

/-- The slot of a name holds the pair of that name. -/
theorem pair_of_slot (h : Represents name t m) {n : String} {i : Nat}
    (hi : t.slots[n]? = some i) :
    ∃ a, t.entries[i]? = some a ∧ name a = n ∧ m.pairs[i]? = some (n, a) := by
  obtain ⟨a, ha, rfl⟩ := (h.indexed n i).mp hi
  exact ⟨a, ha, rfl, by rw [h.pairs_getElem?, ha]; rfl⟩

/-- A name has a slot exactly if it is in the map. -/
theorem mem_names_iff (h : Represents name t m) (n : String) :
    n ∈ m.names ↔ t.slots[n]?.isSome := by
  rw [h.names_eq, Option.isSome_iff_exists, List.mem_map]
  constructor
  · rintro ⟨a, ha, rfl⟩
    obtain ⟨i, hi⟩ := List.mem_iff_getElem?.mp ha
    rw [Table.toList, Array.getElem?_toList] at hi
    exact ⟨i, (h.indexed _ i).mpr ⟨a, hi, rfl⟩⟩
  · rintro ⟨i, hi⟩
    obtain ⟨a, ha, hn⟩ := (h.indexed n i).mp hi
    exact ⟨a, Array.mem_toList_iff.mpr (Array.mem_of_getElem? ha), hn⟩

/-- Table and map know the same names. -/
theorem contains_eq (h : Represents name t m) (n : String) : t.contains n = m.contains n := by
  rw [Table.contains, OrderedMap.contains, Std.HashMap.contains_eq_isSome_getElem?,
    Bool.eq_iff_iff, decide_eq_true_iff, h.mem_names_iff]

theorem notMem_names (h : Represents name t m) {n : String} (hn : t.slots[n]? = none) :
    n ∉ m.names := by
  rw [h.mem_names_iff, hn]
  exact Bool.false_ne_true

/-- A table that represents a map is sound. -/
theorem sound (h : Represents name t m) : t.Sound name where
  indexed := h.indexed
  inRange n i hi := by
    obtain ⟨a, ha, -⟩ := (h.indexed n i).mp hi
    exact (Array.getElem?_eq_some_iff.mp ha).1
  oneName i hi := by
    refine ⟨name t.entries[i], (h.indexed _ i).mpr ⟨_, Array.getElem?_eq_getElem hi, rfl⟩, ?_⟩
    intro n hn
    obtain ⟨a, ha, rfl⟩ := (h.indexed n i).mp hn
    rw [Array.getElem?_eq_getElem hi] at ha
    rw [Option.some.inj ha]
  nodup := h.names_eq ▸ m.names_nodup

/-- **Inserting or replacing.**  Putting an entry into the slot of its name is putting it into the
map under that name. -/
theorem upsert (h : Represents name t m) (a : α) :
    Represents name (t.upsert (name a) a) (m.insert (name a) a) := by
  unfold Table.upsert
  cases hs : t.slots[name a]? with
  | some i =>
      obtain ⟨b, hb, hbn, hp⟩ := h.pair_of_slot hs
      have hi : i < t.entries.size := h.sound.inRange _ i hs
      refine ⟨fun n j => ?_, ?_⟩
      · show t.slots[n]? = some j ↔ _
        rw [h.indexed n j, Array.getElem?_setIfInBounds]
        by_cases hij : i = j
        · subst hij
          rw [if_pos rfl, if_pos hi, hb]
          simp [hbn]
        · rw [if_neg hij]
      · show OrderedMap.placed (name a) a m.pairs = (t.entries.setIfInBounds i a).toList.map _
        rw [OrderedMap.placed_eq_set m.nodup hp, Array.toList_setIfInBounds, List.map_set,
          h.pairs_eq, Table.toList]
  | none =>
      have hn := h.notMem_names hs
      refine ⟨fun n j => ?_, ?_⟩
      · show (t.slots.insert (name a) t.entries.size)[n]? = some j ↔ _
        rw [Std.HashMap.getElem?_insert, Array.getElem?_push]
        by_cases hna : name a = n
        · subst hna
          rw [if_pos (beq_self_eq_true _)]
          by_cases hj : j = t.entries.size
          · simp [hj]
          · rw [if_neg hj, ← h.indexed, hs]
            simp [Ne.symm hj]
        · rw [if_neg (by simpa using hna)]
          by_cases hj : j = t.entries.size
          · rw [if_pos hj, h.indexed, hj]
            simp [hna]
          · rw [if_neg hj, h.indexed]
      · show OrderedMap.placed (name a) a m.pairs = (t.entries.push a).toList.map _
        rw [OrderedMap.placed_of_notMem hn, Array.toList_push, List.map_append, h.pairs_eq,
          Table.toList]
        rfl

/-- **Changing.**  Changing the entry in the slot of a name, without changing what it is called, is
changing the entry of the map under that name. -/
theorem modify (h : Represents name t m) (n : String) {f : α → α}
    (hf : ∀ a, name (f a) = name a) : Represents name (t.modify n f) (m.modify n f) := by
  unfold Table.modify
  cases hs : t.slots[n]? with
  | some i =>
      obtain ⟨b, hb, hbn, hp⟩ := h.pair_of_slot hs
      refine ⟨fun k j => ?_, ?_⟩
      · show t.slots[k]? = some j ↔ _
        rw [h.indexed k j, Array.getElem?_modify]
        by_cases hij : i = j
        · subst hij
          rw [if_pos rfl, hb]
          simp [hf]
        · rw [if_neg hij]
      · show OrderedMap.changed n f m.pairs = (t.entries.modify i f).toList.map _
        rw [OrderedMap.changed_eq_modify m.nodup hp, Array.toList_modify, h.pairs_eq, Table.toList]
        refine List.ext_getElem? fun j => ?_
        simp only [List.getElem?_modify, List.getElem?_map]
        cases t.entries.toList[j]? with
        | none => split <;> rfl
        | some a => split <;> simp [hf]
  | none =>
      refine ⟨h.indexed, ?_⟩
      show OrderedMap.changed n f m.pairs = _
      rw [OrderedMap.changed_of_notMem (h.notMem_names hs), h.pairs_eq]

end Represents

/-! ### Names and their slots -/

/-- A name is known once it has been put in. -/
theorem contains_upsert (t : Table α) (k n : String) (a : α) :
    (t.upsert k a).contains n = true ↔ k = n ∨ t.contains n = true := by
  unfold upsert contains
  cases hk : t.slots[k]? with
  | some i =>
      have hc : t.slots.contains k = true := by
        rw [Std.HashMap.contains_eq_isSome_getElem?, hk, Option.isSome_some]
      exact ⟨Or.inr, fun h => h.elim (fun e => e ▸ hc) id⟩
  | none => simp

/-- A name keeps its slot, whatever is put in. -/
theorem slot_upsert {t : Table α} {n k : String} {i : Nat} (h : t.slots[n]? = some i) (a : α) :
    (t.upsert k a).slots[n]? = some i := by
  unfold upsert
  cases hk : t.slots[k]? with
  | some j => exact h
  | none =>
      have hkn : k ≠ n := fun e => by rw [e, h] at hk; cases hk
      rw [Std.HashMap.getElem?_insert, if_neg (by simpa using hkn), h]

theorem slots_modify (t : Table α) (n : String) (f : α → α) : (t.modify n f).slots = t.slots := by
  unfold modify
  split <;> rfl

/-- Changing an entry brings in no name. -/
theorem contains_modify (t : Table α) (k n : String) (f : α → α) :
    (t.modify k f).contains n = t.contains n := by
  rw [contains, contains, slots_modify]

end Table

end ModuleDocs
