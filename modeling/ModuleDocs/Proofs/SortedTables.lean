import ModuleDocs.Proofs.Merging
import ModuleDocs.Settings.Environment
import ModuleDocs.Toml.Reader

/-!
# Proofs — Sorted tables

Whatever is read from a document or from a variable is sorted.  A document is built up as a tree of
nodes whose members stand in the order in which they were written, and is only sorted at its end; on
the way it is enough that the values in it are sorted (`Node.Orderly`), since the tables of the tree
are sorted by `Node.sorted` whatever their order was.

* `Node.Orderly.datum`: an orderly tree becomes a sorted datum.
* `assign_orderly`, `define_orderly`, `extend_orderly`, `inOpen_orderly`: every line keeps the tree
  orderly.
* `read?_sorted`: a document is a sorted table.
* `Environment.read_sorted`: the value of a variable is sorted.
-/

namespace ModuleDocs

open Datum (mem_of_lookup)

/-- What a reader of values gives is sorted. -/
def GivesSorted (value : List Char → Option (Datum Unit × List Char)) : Prop :=
  ∀ cs d rest, value cs = some (d, rest) → d.Sorted

namespace Toml

/-! ### Documents under reading -/

/-- The values of the tree are sorted.  Nothing is said of what stands in lists. -/
inductive Node.Orderly : Node → Prop
  | value {d : Datum Unit} (h : d.Sorted) : Orderly (.value d)
  | table (standing : Standing) {ms : Members} (h : ∀ m ∈ ms, m.2.Orderly) :
      Orderly (.table standing ms)
  | tables (newest : Members) (older : List Members) : Orderly (.tables newest older)

/-- The values of the members are sorted. -/
def Members.Orderly (ms : Members) : Prop := ∀ m ∈ ms, m.2.Orderly

/-- Ordering the members of a table by key makes it sorted, if their values are. -/
theorem sorted_sorted {ms : Members} (h : ∀ m ∈ ms, m.2.datum.Sorted) :
    (Datum.table () (Node.sorted ms)).Sorted := by
  induction ms with
  | nil => exact .nil ()
  | cons m ms ih =>
      obtain ⟨k, node⟩ := m
      rw [List.forall_mem_cons] at h
      rw [Node.sorted]
      exact (ih h.2).insertMember h.1

/-- An orderly tree becomes a sorted datum. -/
theorem Node.Orderly.datum {node : Node} (h : node.Orderly) : node.datum.Sorted := by
  induction h with
  | value h => rwa [Node.datum]
  | table standing _ ih =>
      rw [Node.datum]
      exact sorted_sorted ih
  | tables => exact .list () _

namespace Members.Orderly

variable {ms ms' : Members} {k : String} {node : Node} {standing : Standing} {found : Option Members}

theorem nil : Members.Orderly [] := by simp [Members.Orderly]

/-- A new member keeps a table orderly. -/
theorem concat (h : ms.Orderly) (hn : node.Orderly) : Members.Orderly (ms ++ [(k, node)]) := by
  intro m hm
  rcases List.mem_append.mp hm with hm | hm
  · exact h m hm
  · rw [List.mem_singleton.mp hm]
    exact hn

/-- So does a new value for an old one. -/
theorem replace (h : ms.Orderly) (hn : node.Orderly) : (ms.replace k node).Orderly := by
  intro m hm
  obtain ⟨⟨l, old⟩, hold, rfl⟩ := List.mem_map.mp hm
  dsimp only
  split
  · exact hn
  · exact h _ hold

theorem table (h : ms.Orderly) : (Node.table standing ms).Orderly := .table standing h

/-- The inner tables are orderly. -/
theorem of_lookup (h : ms.Orderly) (hk : ms.lookup k = some (.table standing ms')) :
    ms'.Orderly := by
  cases h _ (mem_of_lookup hk) with
  | table _ hinner => exact hinner

/-- A table is made on the way. -/
theorem made (h : ms.Orderly) (hf : ∀ inner, found = some inner → inner.Orderly)
    (hm : (found.map fun inner => ms ++ [(k, .table standing inner)]) = some ms') :
    ms'.Orderly := by
  obtain ⟨inner, hinner, rfl⟩ := Option.map_eq_some_iff.mp hm
  exact h.concat (hf inner hinner).table

/-- The way leads through a table. -/
theorem through (h : ms.Orderly) (hf : ∀ inner, found = some inner → inner.Orderly)
    (hm : (found.map fun inner => ms.replace k (.table standing inner)) = some ms') :
    ms'.Orderly := by
  obtain ⟨inner, hinner, rfl⟩ := Option.map_eq_some_iff.mp hm
  exact h.replace (hf inner hinner).table

/-- The way leads through a list of tables. -/
theorem throughNewest {older : List Members} (h : ms.Orderly)
    (hm : (found.map fun newest => ms.replace k (.tables newest older)) = some ms') :
    ms'.Orderly := by
  obtain ⟨newest, -, rfl⟩ := Option.map_eq_some_iff.mp hm
  exact h.replace (.tables newest older)

end Members.Orderly

section

variable {d : Datum Unit} {dotted : Option Bool} {ms ms' : Members} {path : List String}

/-- An assignment keeps a table orderly. -/
theorem assign_orderly (hd : d.Sorted) (h : ms.Orderly) (ha : assign d dotted ms path = some ms') :
    ms'.Orderly := by
  fun_induction assign d dotted ms path generalizing ms' with
  | case1 | case2 => cases ha
  | case3 =>
      cases ha
      exact h.concat (.value hd)
  | case4 _ _ _ _ _ _ ih => exact h.made (fun _ => ih .nil) ha
  | case5 _ _ _ _ _ _ hk ih | case6 _ _ _ _ _ _ hk ih =>
      exact h.through (fun _ => ih (h.of_lookup hk)) ha
  | case7 => exact h.throughNewest ha
  | case8 => cases ha

/-- So does a header. -/
theorem define_orderly (h : ms.Orderly) (hd : define ms path = some ms') : ms'.Orderly := by
  fun_induction define ms path generalizing ms' with
  | case1 => cases hd
  | case2 =>
      cases hd
      exact h.concat (Members.Orderly.nil.table)
  | case3 _ _ _ hk =>
      cases hd
      exact h.replace (h.of_lookup hk).table
  | case4 => cases hd
  | case5 _ _ _ _ _ ih => exact h.made (fun _ => ih .nil) hd
  | case6 _ _ _ _ _ _ hk ih => exact h.through (fun _ => ih (h.of_lookup hk)) hd
  | case7 => exact h.throughNewest hd
  | case8 => cases hd

/-- So does a header of a list of tables. -/
theorem extend_orderly (h : ms.Orderly) (he : extend ms path = some ms') : ms'.Orderly := by
  fun_induction extend ms path generalizing ms' with
  | case1 => cases he
  | case2 =>
      cases he
      exact h.concat (.tables _ _)
  | case3 =>
      cases he
      exact h.replace (.tables _ _)
  | case4 => cases he
  | case5 _ _ _ _ _ ih => exact h.made (fun _ => ih .nil) he
  | case6 _ _ _ _ _ _ hk ih => exact h.through (fun _ => ih (h.of_lookup hk)) he
  | case7 => exact h.throughNewest he
  | case8 => cases he

/-- So does a change in an inner table that keeps that one orderly. -/
theorem inOpen_orderly {change : Members → Option Members}
    (hc : ∀ inner inner', inner.Orderly → change inner = some inner' → inner'.Orderly)
    (h : ms.Orderly) (ho : inOpen change ms path = some ms') : ms'.Orderly := by
  fun_induction inOpen change ms path generalizing ms' with
  | case1 => exact hc _ _ h ho
  | case2 _ _ _ _ _ hk ih => exact h.through (fun _ => ih (h.of_lookup hk)) ho
  | case3 => exact h.throughNewest ho
  | case4 => cases ho

end

/-! ### Values and lines -/

section

variable {value : List Char → Option (Datum Unit × List Char)} {cs rest : List Char}
  {d : Datum Unit} {ms ms' : Members} {path : List String}

theorem assignment?_sorted (hv : GivesSorted value)
    (h : assignment? value cs = some (path, d, rest)) : d.Sorted := by
  unfold assignment? at h
  obtain ⟨⟨path', rest'⟩, -, h⟩ := Option.bind_eq_some_iff.mp h
  dsimp only at h
  split at h
  · obtain ⟨⟨d', rest''⟩, hd, h⟩ := Option.bind_eq_some_iff.mp h
    cases h
    exact hv _ _ _ hd
  · cases h

/-- The members of an inline table are orderly. -/
theorem inlineMembers?_orderly {n : Nat} (hv : GivesSorted value) (hms : ms.Orderly)
    (h : inlineMembers? value n ms cs = some (ms', rest)) : ms'.Orderly := by
  induction n generalizing ms cs with
  | zero => cases h
  | succ n ih =>
      unfold inlineMembers? at h
      obtain ⟨⟨path, d, rest'⟩, ha, h⟩ := Option.bind_eq_some_iff.mp h
      obtain ⟨inner, hinner, h⟩ := Option.bind_eq_some_iff.mp h
      have horderly := assign_orderly (assignment?_sorted hv ha) hms hinner
      split at h
      · exact ih horderly h
      · cases h
        exact horderly
      · cases h

theorem scalar?_sorted : GivesSorted scalar? := by
  intro cs d rest h
  unfold scalar? at h
  split at h
  · cases h
    exact .scalar () _
  · split at h
    · cases h
      exact .table () (List.pairwise_singleton _ _)
        (List.forall_mem_singleton.mpr (.scalar () _))
    · obtain ⟨s, -, hs⟩ := Option.map_eq_some_iff.mp h
      cases hs
      exact .scalar () s

/-- **Every value that is read is sorted.** -/
theorem value?_sorted (depth : Nat) : GivesSorted (value? depth) := by
  induction depth with
  | zero => intro cs d rest h; cases h
  | succ depth ih =>
      intro cs d rest h
      unfold value? at h
      split at h
      · split at h
        · cases h
        · obtain ⟨⟨ds, _⟩, -, hds⟩ := Option.map_eq_some_iff.mp h
          cases hds
          exact .list () ds
      · split at h
        · cases h
        · split at h
          · cases h
            exact .nil ()
          · obtain ⟨⟨ms, _⟩, hms, hd⟩ := Option.map_eq_some_iff.mp h
            cases hd
            exact sorted_sorted fun m hm => (inlineMembers?_orderly ih .nil hms m hm).datum
      · exact scalar?_sorted _ _ _ h

/-- **Line after line** keeps the document orderly. -/
theorem lines?_orderly {n : Nat} {header : List String} (hms : ms.Orderly)
    (h : lines? n ms header cs = some ms') : ms'.Orderly := by
  induction n generalizing ms header cs with
  | zero =>
      cases h
      exact hms
  | succ n ih =>
      unfold lines? at h
      split at h
      · cases h
        exact hms
      · obtain ⟨⟨path, rest⟩, -, h⟩ := Option.bind_eq_some_iff.mp h
        dsimp only at h
        split at h
        · obtain ⟨inner, hinner, h⟩ := Option.bind_eq_some_iff.mp h
          obtain ⟨rest, -, h⟩ := Option.bind_eq_some_iff.mp h
          exact ih (extend_orderly hms hinner) h
        · cases h
      · obtain ⟨⟨path, rest⟩, -, h⟩ := Option.bind_eq_some_iff.mp h
        dsimp only at h
        split at h
        · obtain ⟨inner, hinner, h⟩ := Option.bind_eq_some_iff.mp h
          obtain ⟨rest, -, h⟩ := Option.bind_eq_some_iff.mp h
          exact ih (define_orderly hms hinner) h
        · cases h
      · split at h
        · obtain ⟨rest, -, h⟩ := Option.bind_eq_some_iff.mp h
          exact ih hms h
        · obtain ⟨⟨path, d, rest⟩, ha, h⟩ := Option.bind_eq_some_iff.mp h
          obtain ⟨inner, hinner, h⟩ := Option.bind_eq_some_iff.mp h
          obtain ⟨rest, -, h⟩ := Option.bind_eq_some_iff.mp h
          have hd := assignment?_sorted (value?_sorted deepest) ha
          exact ih (inOpen_orderly (fun _ _ => assign_orderly hd) hms hinner) h

end

/-- **A document is a sorted table.** -/
theorem read?_sorted {s : String} {d : Datum Unit} (h : read? s = some d) : d.Sorted := by
  obtain ⟨ms, hms, rfl⟩ := Option.map_eq_some_iff.mp h
  exact sorted_sorted fun m hm => (lines?_orderly .nil hms m hm).datum

end Toml

/-! ### Variables -/

namespace Environment

/-- What is true of each element is true of all. -/
theorem forall_of_items? {α : Type} {P : α → Prop} {item : List Char → Option (α × List Char)}
    {close : Char} {n : Nat} {taken as : List α} {cs rest : List Char}
    (hi : ∀ cs a rest, item cs = some (a, rest) → P a) (ht : ∀ a ∈ taken, P a)
    (h : items? item close n taken cs = some (as, rest)) : ∀ a ∈ as, P a := by
  induction n generalizing taken cs with
  | zero => cases h
  | succ n ih =>
      unfold items? at h
      split at h
      · cases h
        exact fun a ha => ht a (List.mem_reverse.mp ha)
      · obtain ⟨⟨a, rest'⟩, ha, h⟩ := Option.bind_eq_some_iff.mp h
        have htaken : ∀ b ∈ a :: taken, P b := List.forall_mem_cons.mpr ⟨hi _ _ _ ha, ht⟩
        dsimp only at h
        split at h
        · exact ih htaken h
        · split at h
          · cases h
            exact fun b hb => htaken b (List.mem_reverse.mp hb)
          · cases h
        · cases h

theorem member?_sorted {value : List Char → Option (Datum Unit × List Char)}
    (hv : GivesSorted value) {cs rest : List Char} {m : String × Datum Unit}
    (h : member? value cs = some (m, rest)) : m.2.Sorted := by
  unfold member? at h
  extract_lets behindKey at h
  -- whichever way the key is written, the value stands behind it
  have hvalue : ∀ key, behindKey key = some (m, rest) → m.2.Sorted := by
    intro key hm
    simp only [behindKey] at hm
    split at hm
    · obtain ⟨⟨d, rest'⟩, hd, hm⟩ := Option.bind_eq_some_iff.mp hm
      cases hm
      exact hv _ _ _ hd
    · cases hm
  split at h
  · obtain ⟨key, -, h⟩ := Option.bind_eq_some_iff.mp h
    exact hvalue key h
  · dsimp only at h
    split at h
    · cases h
    · obtain ⟨key, -, h⟩ := Option.bind_eq_some_iff.mp h
      exact hvalue key h

/-- Members that are inserted one after the other give a sorted table. -/
theorem sorted_foldl_insertMember {ms start : List (String × Datum Unit)}
    (hms : ∀ m ∈ ms, m.2.Sorted) (hs : (Datum.table () start).Sorted) :
    (Datum.table () (ms.foldl (fun all (k, d) => Datum.insertMember k d all) start)).Sorted := by
  induction ms generalizing start with
  | nil => exact hs
  | cons m ms ih =>
      rw [List.forall_mem_cons] at hms
      exact ih hms.2 (hs.insertMember hms.1)

theorem value?_sorted (depth : Nat) : GivesSorted (value? depth) := by
  induction depth with
  | zero => intro cs d rest h; cases h
  | succ depth ih =>
      intro cs d rest h
      unfold value? at h
      extract_lets behindValue at h
      have hgiven : ∀ read : Datum Unit × List Char, behindValue read = some (d, rest) →
          read.1 = d := by
        intro read hread
        cases hread
        rfl
      split at h <;> obtain ⟨read, hread, h⟩ := Option.bind_eq_some_iff.mp h <;>
        obtain rfl := hgiven read h <;>
        obtain ⟨found, hfound, rfl⟩ := Option.map_eq_some_iff.mp hread
      · exact sorted_foldl_insertMember
          (forall_of_items? (fun _ _ _ => member?_sorted ih) (by simp) hfound) (.nil ())
      · exact .list () _
      · exact .scalar () _

/-- **The value of a variable is sorted.** -/
theorem read_sorted (s : String) : (read s).Sorted := by
  unfold read
  dsimp only
  split
  · exact value?_sorted _ _ _ _ ‹_›
  · exact .scalar () _

/-- A sorted value nested under keys is sorted. -/
theorem nest_sorted {d : Datum Unit} (h : d.Sorted) (keys : List String) :
    (nest d keys).Sorted := by
  induction keys with
  | nil => exact h
  | cons k keys ih =>
      exact .table () (List.pairwise_singleton _ _) (List.forall_mem_singleton.mpr ih)

end Environment

end ModuleDocs
