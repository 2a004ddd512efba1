import ModuleDocs.Assembly.Draft
import Mathlib.Data.String.Basic

/-!
# Proofs — Sorting

Lists are sorted by a text that each element carries, its key, and elements of one key keep their
order.  Comments are sorted by name, dependencies by name in lower case, modules by path.

* `SortedBy key xs l`: `l` is such a sort of `xs`, said without an algorithm.
* `sortedBy_iff`: there is one stable sort of a list, and `sortBy key` finds it.
* `filter_sortBy`: what is left out of a list before or after it is sorted leaves the same.
* `sortBy_sublist`: what is left out of a list before it is sorted is missing afterwards, and
  nothing else changes.
* `StableSort`, `stableSort_iff`, `sortByName_sublist`: the same of comments and their names.
-/

namespace ModuleDocs

section

variable {α : Type} {key : α → String} {xs l l' : List α}

/-- The elements in the order of their keys; those of one key keep their order. -/
def sortBy (key : α → String) (xs : List α) : List α := xs.mergeSort fun a b => key a ≤ key b

/-- The list `l` has the elements of `xs`, by key, and those of one key in their order in `xs`. -/
structure SortedBy (key : α → String) (xs l : List α) : Prop where
  ordered : l.Pairwise (key · ≤ key ·)
  stable : ∀ k, l.filter (key · = k) = xs.filter (key · = k)

/-- Only the keys that occur have to be looked at. -/
theorem sortedBy_iff_occurring : SortedBy key xs l ↔ l.Pairwise (key · ≤ key ·) ∧
    ∀ a ∈ l ++ xs, l.filter (key · = key a) = xs.filter (key · = key a) := by
  refine ⟨fun h => ⟨h.ordered, fun a _ => h.stable (key a)⟩, fun h => ⟨h.1, fun k => ?_⟩⟩
  by_cases hk : ∃ a ∈ l ++ xs, key a = k
  · obtain ⟨a, ha, rfl⟩ := hk
    exact h.2 a ha
  · have hnone : ∀ a ∈ l ++ xs, ¬ decide (key a = k) = true := fun a ha hak =>
      hk ⟨a, ha, of_decide_eq_true hak⟩
    rw [List.filter_eq_nil_iff.mpr fun a ha => hnone a (List.mem_append_left xs ha),
      List.filter_eq_nil_iff.mpr fun a ha => hnone a (List.mem_append_right l ha)]

instance [DecidableEq α] (key : α → String) (xs l : List α) : Decidable (SortedBy key xs l) :=
  decidable_of_iff _ sortedBy_iff_occurring.symm

theorem keyLe_trans (key : α → String) (a b c : α) (hab : decide (key a ≤ key b) = true)
    (hbc : decide (key b ≤ key c) = true) : decide (key a ≤ key c) = true :=
  decide_eq_true (le_trans (of_decide_eq_true hab) (of_decide_eq_true hbc))

theorem keyLe_total (key : α → String) (a b : α) :
    (decide (key a ≤ key b) || decide (key b ≤ key a)) = true := by
  rw [Bool.or_eq_true, decide_eq_true_iff, decide_eq_true_iff]
  exact le_total (key a) (key b)

/-- **Sorting gives a sorted list.** -/
theorem sortBy_sortedBy (key : α → String) (xs : List α) : SortedBy key xs (sortBy key xs) where
  ordered := by
    refine (List.pairwise_mergeSort (keyLe_trans key) (keyLe_total key) xs).imp fun h => ?_
    exact of_decide_eq_true h
  stable k := by
    -- the elements of one key are in order as they stand, so the sort does not move them
    have hp : (xs.filter (key · = k)).Pairwise fun a b => decide (key a ≤ key b) = true := by
      refine List.pairwise_of_forall_mem_list fun a ha b hb => ?_
      have ha' : key a = k := of_decide_eq_true (List.mem_filter.mp ha).2
      have hb' : key b = k := of_decide_eq_true (List.mem_filter.mp hb).2
      exact decide_eq_true (ha'.trans hb'.symm).le
    have hs : (xs.filter (key · = k)).Sublist ((sortBy key xs).filter (key · = k)) := by
      have h := (List.sublist_mergeSort (keyLe_trans key) (keyLe_total key) hp
        List.filter_sublist).filter fun a => decide (key a = k)
      simp only [List.filter_filter, Bool.and_self] at h
      exact h
    exact (hs.eq_of_length ((List.mergeSort_perm xs _).filter _).length_eq.symm).symm

/-- A sorted list is known by its elements of each key. -/
theorem eq_of_filter_eq (h : l.Pairwise (key · ≤ key ·)) (h' : l'.Pairwise (key · ≤ key ·))
    (hf : ∀ k, l.filter (key · = k) = l'.filter (key · = k)) : l = l' := by
  have mem : ∀ {l l' : List α} {a}, (∀ k, l.filter (key · = k) = l'.filter (key · = k)) →
      a ∈ l → a ∈ l' := fun {l l' a} hf ha => by
    have ha' : a ∈ l.filter (key · = key a) := List.mem_filter.mpr ⟨ha, by simp⟩
    rw [hf] at ha'
    exact (List.mem_filter.mp ha').1
  induction l generalizing l' with
  | nil =>
      cases l' with
      | nil => rfl
      | cons b l' => exact absurd (mem (fun k => (hf k).symm) (List.mem_cons_self)) (by simp)
  | cons a l ih =>
      cases l' with
      | nil => exact absurd (mem hf (List.mem_cons_self)) (by simp)
      | cons b l' =>
          -- each head stands in the other list, so both have the least key
          have hab : key a = key b := by
            refine le_antisymm ?_ ?_
            · rcases List.mem_cons.mp (mem (fun k => (hf k).symm) List.mem_cons_self) with e | hb
              · exact (congrArg key e).ge
              · exact (List.pairwise_cons.mp h).1 b hb
            · rcases List.mem_cons.mp (mem hf List.mem_cons_self) with e | ha
              · exact (congrArg key e).ge
              · exact (List.pairwise_cons.mp h').1 a ha
          have heq : a = b := by
            have hh := hf (key a)
            rw [List.filter_cons_of_pos (by simp), List.filter_cons_of_pos (by simp [hab])] at hh
            exact (List.cons.inj hh).1
          subst heq
          congr 1
          refine ih (List.pairwise_cons.mp h).2 (List.pairwise_cons.mp h').2 fun k => ?_
          have hh := hf k
          rw [List.filter_cons, List.filter_cons] at hh
          split at hh
          · exact (List.cons.inj hh).2
          · exact hh

/-- **There is one stable sort.** -/
theorem sortedBy_iff : SortedBy key xs l ↔ l = sortBy key xs := by
  have hs := sortBy_sortedBy key xs
  constructor
  · intro h
    exact eq_of_filter_eq h.ordered hs.ordered fun k => (h.stable k).trans (hs.stable k).symm
  · rintro rfl
    exact hs

/-- Sorting leaves out nothing. -/
theorem sortBy_perm (key : α → String) (xs : List α) : (sortBy key xs).Perm xs :=
  List.mergeSort_perm xs _

/-! ### Sorting a part of a list -/

/-- Leaving out and sorting may change places. -/
theorem filter_sortBy (p : α → Bool) (key : α → String) (xs : List α) :
    (sortBy key xs).filter p = sortBy key (xs.filter p) := by
  have hs := sortBy_sortedBy key xs
  refine sortedBy_iff.mp ⟨hs.ordered.sublist List.filter_sublist, fun k => ?_⟩
  rw [List.filter_comm, hs.stable, List.filter_comm]

/-- Sorting puts an element behind the smaller ones of the rest, and before the others. -/
theorem sortBy_cons (key : α → String) (a : α) (xs : List α) :
    sortBy key (a :: xs) =
      (sortBy key xs).filter (fun b => !decide (key a ≤ key b)) ++
        a :: (sortBy key xs).filter (key a ≤ key ·) := by
  obtain ⟨x, y, hxy, hl, hx⟩ := List.mergeSort_cons (keyLe_trans key) (keyLe_total key) a xs
  have hs := List.pairwise_mergeSort (keyLe_trans key) (keyLe_total key) (a :: xs)
  rw [hxy] at hs
  have hy : ∀ b ∈ y, decide (key a ≤ key b) = true :=
    (List.pairwise_cons.mp (List.pairwise_append.mp hs).2.1).1
  rw [sortBy, sortBy, hxy, hl, List.filter_append, List.filter_append,
    List.filter_eq_self.mpr hx, List.filter_eq_self.mpr hy,
    List.filter_eq_nil_iff.mpr fun b hb => by simp [hy b hb],
    List.filter_eq_nil_iff.mpr fun b hb => by simpa using hx b hb, List.append_nil, List.nil_append]

/-- Sorting a part of a list gives a part of the sorted list. -/
theorem sortBy_sublist {xs' : List α} (h : xs.Sublist xs') :
    (sortBy key xs).Sublist (sortBy key xs') := by
  induction h with
  | slnil => exact List.Sublist.refl _
  | @cons xs xs' a _ ih =>
      obtain ⟨x, y, hxy, hl, -⟩ := List.mergeSort_cons (keyLe_trans key) (keyLe_total key) a xs'
      rw [sortBy, sortBy, hl] at ih
      rw [sortBy, sortBy, hxy]
      exact ih.trans ((List.sublist_cons_self a y).append_left x)
  | @cons_cons xs xs' a _ ih =>
      rw [sortBy_cons, sortBy_cons]
      exact (ih.filter _).append ((ih.filter _).cons_cons a)

end

/-! ### Comments by name -/

/-- The list `l` has the comments of `cs`, by name, and those of one name in their order in `cs`. -/
structure StableSort (cs l : List Comment) : Prop where
  ordered : l.Pairwise (·.name ≤ ·.name)
  stable : ∀ n, l.filter (·.name = n) = cs.filter (·.name = n)

theorem stableSort_iff_sortedBy {cs l : List Comment} :
    StableSort cs l ↔ SortedBy Comment.name cs l :=
  ⟨fun h => ⟨h.ordered, h.stable⟩, fun h => ⟨h.ordered, h.stable⟩⟩

instance (cs l : List Comment) : Decidable (StableSort cs l) :=
  decidable_of_iff _ stableSort_iff_sortedBy.symm

/-- There is one stable order. -/
theorem stableSort_iff {cs l : List Comment} : StableSort cs l ↔ l = sortByName cs :=
  stableSort_iff_sortedBy.trans sortedBy_iff

/-- Comments that are left out change nothing in the order of the others. -/
theorem sortByName_sublist {cs cs' : List Comment} (h : cs.Sublist cs') :
    (sortByName cs).Sublist (sortByName cs') :=
  sortBy_sublist h

end ModuleDocs
