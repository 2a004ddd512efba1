import ModuleDocs.Datum
import ModuleDocs.Proofs.OrderedMap
import Mathlib.Data.String.Basic

/-!
# Proofs — Merging data

Keys lead into a datum from table to table (`at?`).  A datum *opens to* keys when nothing but tables
stands above their end, so that what it does not have there can still be laid over it or under it.

Laying one datum over another goes down both of them as long as there are tables, and takes the upper
one where they end.  Two tables at the end of some keys are laid over each other too, but what comes
of it is a table of the origin of the upper one: without its members (`bare`) it is the upper one.  So
the keys lead to what the uppermost datum has there, up to the members of a table.

Tables are lists of members, and all of this asks them to be sorted (`Sorted`): of two members with
one key, `merge` would take the second and a lookup the first.

* `lookup_mergeMembers`: members laid over others, key by key.
* `bare_at?_merge`: one datum laid over another, seen from keys.
* `bare_at?_foldl_merge`: any number of data laid over each other, seen from keys.
-/

namespace ModuleDocs.Datum

open OrderedMap (lookup_cons_ite)

variable {ω ψ : Type} {o : ω} {d lower upper : Datum ω} {k : String} {keys : List String}
  {ms : List (String × Datum ω)}

/-! ### Where keys lead -/

/-- Where keys lead, from table to table. -/
def at? : Datum ω → List String → Option (Datum ω)
  | d, [] => some d
  | .table _ ms, k :: keys => (ms.lookup k).bind (·.at? keys)
  | _, _ :: _ => none

/-- Nothing but tables stands above the end of the keys. -/
def OpensTo : Datum ω → List String → Prop
  | _, [] => True
  | .table _ ms, k :: keys => ∀ d, ms.lookup k = some d → d.OpensTo keys
  | _, _ :: _ => False

/-- The datum, without its members if it is a table. -/
def bare : Datum ω → Datum ω
  | .table o _ => .table o []
  | d => d

/-- The tables of the datum are sorted by key.  Nothing is said of what stands in lists. -/
inductive Sorted : Datum ω → Prop
  | scalar (o : ω) (s : Scalar) : Sorted (.scalar o s)
  | list (o : ω) (ds : List (Datum ω)) : Sorted (.list o ds)
  | table (o : ω) {ms : List (String × Datum ω)} (keys : ms.Pairwise (·.1 < ·.1))
      (members : ∀ m ∈ ms, m.2.Sorted) : Sorted (.table o ms)

theorem Sorted.nil (o : ω) : (Datum.table o []).Sorted := .table o .nil (by simp)

/-- An empty table has nothing at any keys. -/
theorem at?_nil (o : ω) (h : keys ≠ []) : (table o []).at? keys = none := by
  cases keys with
  | nil => exact absurd rfl h
  | cons => rfl

/-- What opens to a key is a table. -/
theorem exists_of_opensTo_cons (h : d.OpensTo (k :: keys)) : ∃ o ms, d = .table o ms := by
  cases d with
  | scalar | list => exact h.elim
  | table o ms => exact ⟨o, ms, rfl⟩

/-- What is found under a key is a member. -/
theorem mem_of_lookup {α : Type} {a : α} {ps : List (String × α)} (h : ps.lookup k = some a) :
    (k, a) ∈ ps := by
  obtain ⟨before, after, rfl, -⟩ := List.lookup_eq_some_iff.mp h
  exact List.mem_append_right before List.mem_cons_self

/-- A key before all others is not there. -/
theorem lookup_eq_none_of_lt (h : ∀ m ∈ ms, k < m.1) : ms.lookup k = none := by
  rw [List.lookup_eq_none_iff]
  intro m hm
  exact bne_iff_ne.mpr (ne_of_lt (h m hm))

/-! ### One member -/

/-- An inserted member is found under its key, and the others as before. -/
theorem lookup_insertMember (k k' : String) (d : Datum ω) (ms : List (String × Datum ω)) :
    (insertMember k' d ms).lookup k = if k = k' then some d else ms.lookup k := by
  induction ms with
  | nil => rw [insertMember, lookup_cons_ite]
  | cons m ms ih =>
      obtain ⟨l, e⟩ := m
      rw [insertMember]
      split
      · rw [lookup_cons_ite]
      · split
        · subst k'
          simp only [lookup_cons_ite]
          split <;> rfl
        · rename_i hne
          simp only [lookup_cons_ite, ih]
          by_cases hl : k = l
          · rw [if_pos hl, if_neg fun (hk : k = k') => hne (hk ▸ hl), if_pos hl]
          · rw [if_neg hl, if_neg hl]

/-- Inserting brings in one member only. -/
theorem mem_insertMember {m : String × Datum ω} (h : m ∈ insertMember k d ms) :
    m = (k, d) ∨ m ∈ ms := by
  induction ms with
  | nil => exact .inl (List.mem_singleton.mp h)
  | cons m' ms ih =>
      rw [insertMember] at h
      split at h
      · exact List.mem_cons.mp h
      · split at h
        · exact (List.mem_cons.mp h).imp_right (List.mem_cons_of_mem _)
        · rcases List.mem_cons.mp h with rfl | h
          · exact .inr List.mem_cons_self
          · exact (ih h).imp_right (List.mem_cons_of_mem _)

/-- Inserting keeps the order of the keys. -/
theorem pairwise_insertMember (h : ms.Pairwise (·.1 < ·.1)) :
    (insertMember k d ms).Pairwise (·.1 < ·.1) := by
  induction ms with
  | nil => exact List.pairwise_singleton _ _
  | cons m ms ih =>
      obtain ⟨l, e⟩ := m
      obtain ⟨hhead, htail⟩ := List.pairwise_cons.mp h
      rw [insertMember]
      split
      · rename_i hlt
        refine .cons (fun m hm => ?_) h
        rcases List.mem_cons.mp hm with rfl | hm
        · exact hlt
        · exact hlt.trans (hhead m hm)
      · split
        · subst k
          exact .cons hhead htail
        · rename_i hnlt hne
          refine .cons (fun m hm => ?_) (ih htail)
          rcases mem_insertMember hm with rfl | hm
          · exact lt_of_le_of_ne (not_lt.mp hnlt) (Ne.symm hne)
          · exact hhead m hm

/-- Inserting a sorted value keeps a table sorted. -/
theorem Sorted.insertMember (h : (Datum.table o ms).Sorted) (hd : d.Sorted) :
    (Datum.table o (Datum.insertMember k d ms)).Sorted := by
  cases h with
  | table _ hkeys hmembers =>
      refine .table o (pairwise_insertMember hkeys) fun m hm => ?_
      rcases mem_insertMember hm with rfl | hm
      · exact hd
      · exact hmembers m hm

theorem Sorted.pairwise (h : (Datum.table o ms).Sorted) : ms.Pairwise (·.1 < ·.1) := by
  cases h with
  | table _ hkeys _ => exact hkeys

/-- The values of a sorted table are sorted. -/
theorem Sorted.of_lookup (h : (Datum.table o ms).Sorted) (hk : ms.lookup k = some d) : d.Sorted := by
  cases h with
  | table _ _ hmembers => exact hmembers _ (mem_of_lookup hk)

/-! ### Members over members -/

/-- **Members laid over others, key by key.** -/
theorem lookup_mergeMembers {laid : List (String × Datum ω)} (h : laid.Pairwise (·.1 < ·.1))
    (k : String) (base : List (String × Datum ω)) :
    (mergeMembers base laid).lookup k = Option.merge merge (base.lookup k) (laid.lookup k) := by
  induction laid generalizing base with
  | nil => rw [mergeMembers, List.lookup_nil, Option.merge_none_right]
  | cons m laid ih =>
      obtain ⟨l, d⟩ := m
      obtain ⟨hhead, htail⟩ := List.pairwise_cons.mp h
      rw [mergeMembers, ih htail, lookup_insertMember, lookup_cons_ite]
      split
      · -- no later member has this key
        subst k
        rw [lookup_eq_none_of_lt hhead]
        cases base.lookup l <;> rfl
      · rfl

/-- Laying sorted members over a sorted table gives one. -/
theorem Sorted.mergeMembers {laid : List (String × Datum ω)} (hbase : (Datum.table o ms).Sorted)
    (hlaid : ∀ m ∈ laid, ∀ lower : Datum ω, lower.Sorted → (lower.merge m.2).Sorted)
    (hsorted : ∀ m ∈ laid, m.2.Sorted) : (Datum.table o (Datum.mergeMembers ms laid)).Sorted := by
  induction laid generalizing ms with
  | nil => rwa [Datum.mergeMembers]
  | cons m laid ih =>
      obtain ⟨k, d⟩ := m
      rw [List.forall_mem_cons] at hlaid hsorted
      rw [Datum.mergeMembers]
      refine ih (hbase.insertMember ?_) hlaid.2 hsorted.2
      split
      · exact hlaid.1 _ (hbase.of_lookup ‹_›)
      · exact hsorted.1

/-- **Merging keeps values sorted.** -/
theorem Sorted.merge (hl : lower.Sorted) (hu : upper.Sorted) : (lower.merge upper).Sorted := by
  -- the members that are laid over others are data that are laid over others
  induction hu generalizing lower with
  | scalar o s => exact .scalar o s
  | list o ds => exact .list o ds
  | table o hkeys hmembers ih =>
      cases hl with
      | scalar | list => exact .table o hkeys hmembers
      | table _ hlower hlowers =>
          exact Sorted.mergeMembers (.table o hlower hlowers) (fun m hm _ => ih m hm) hmembers

/-! ### One datum over another -/

/-- A merged value is the upper one, but for the members of tables. -/
theorem bare_merge (lower upper : Datum ω) : (lower.merge upper).bare = upper.bare := by
  cases upper with
  | scalar | list => rfl
  | table o ms => cases lower <;> rfl

/-- **One datum laid over another, seen from keys.** -/
theorem bare_at?_merge (hu : upper.Sorted) (hlo : lower.OpensTo keys) (huo : upper.OpensTo keys) :
    ((lower.merge upper).at? keys).map bare =
      ((upper.at? keys).or (lower.at? keys)).map bare := by
  induction keys generalizing lower upper with
  | nil => simp [at?, bare_merge]
  | cons k keys ih =>
      obtain ⟨o, base, rfl⟩ := exists_of_opensTo_cons hlo
      obtain ⟨o', laid, rfl⟩ := exists_of_opensTo_cons huo
      simp only [merge, at?, lookup_mergeMembers hu.pairwise]
      cases hbase : base.lookup k with
      | none => cases laid.lookup k <;> simp
      | some old =>
          cases hlaid : laid.lookup k with
          | none => simp
          -- both have something at this key, and the rest of the keys leads on in what they make
          | some new => exact ih (hu.of_lookup hlaid) (hlo old hbase) (huo new hlaid)

/-- Where both values open, the merged one does. -/
theorem OpensTo.merge (hu : upper.Sorted) (hlo : lower.OpensTo keys) (huo : upper.OpensTo keys) :
    (lower.merge upper).OpensTo keys := by
  induction keys generalizing lower upper with
  | nil => trivial
  | cons k keys ih =>
      obtain ⟨o, base, rfl⟩ := exists_of_opensTo_cons hlo
      obtain ⟨o', laid, rfl⟩ := exists_of_opensTo_cons huo
      intro d hd
      rw [lookup_mergeMembers hu.pairwise] at hd
      cases hbase : base.lookup k with
      | none => exact huo d (by simpa [hbase] using hd)
      | some old =>
          cases hlaid : laid.lookup k with
          | none => exact hlo d (by simpa [hbase, hlaid] using hd)
          | some new =>
              rw [hbase, hlaid] at hd
              cases hd
              exact ih (hu.of_lookup hlaid) (hlo old hbase) (huo new hlaid)

/-- The datum is sorted and opens to the keys, so that others can be laid over it and under it
there. -/
structure Fits (d : Datum ω) (keys : List String) : Prop where
  sorted : d.Sorted
  opens : d.OpensTo keys

theorem Fits.nil (o : ω) (keys : List String) : (Datum.table o []).Fits keys := by
  refine ⟨.nil o, ?_⟩
  cases keys with
  | nil => trivial
  | cons => exact nofun

/-- Values that fit the keys are merged into one that does. -/
theorem Fits.merge (hl : lower.Fits keys) (hu : upper.Fits keys) : (lower.merge upper).Fits keys :=
  ⟨hl.sorted.merge hu.sorted, .merge hu.sorted hl.opens hu.opens⟩

/-! ### Data over data -/

/-- What the uppermost of several data has at the end of the keys; the lowest comes first. -/
def uppermost? (ds : List (Datum ω)) (keys : List String) : Option (Datum ω) :=
  ds.reverse.findSome? (·.at? keys)

@[simp] theorem uppermost?_nil : uppermost? ([] : List (Datum ω)) keys = none := rfl

/-- Upper layers are asked first. -/
@[simp] theorem uppermost?_append (ds es : List (Datum ω)) :
    uppermost? (ds ++ es) keys = (uppermost? es keys).or (uppermost? ds keys) := by
  simp [uppermost?]

@[simp] theorem uppermost?_cons (d : Datum ω) (ds : List (Datum ω)) :
    uppermost? (d :: ds) keys = (uppermost? ds keys).or (d.at? keys) := by
  simp [uppermost?]

/-- Layers that fit the keys, merged one after the other, give a value that does. -/
theorem Fits.foldl {ds : List (Datum ω)} (hds : ∀ e ∈ ds, e.Fits keys) (hd : d.Fits keys) :
    (ds.foldl Datum.merge d).Fits keys := by
  induction ds generalizing d with
  | nil => exact hd
  | cons e ds ih =>
      rw [List.forall_mem_cons] at hds
      exact ih hds.2 (hd.merge hds.1)

/-- **Data laid over each other, seen from keys**: the uppermost one that has something there says
what stands there. -/
theorem bare_at?_foldl_merge {ds : List (Datum ω)} (hds : ∀ e ∈ ds, e.Fits keys)
    (hd : d.Fits keys) :
    ((ds.foldl merge d).at? keys).map bare = ((uppermost? ds keys).or (d.at? keys)).map bare := by
  induction ds generalizing d with
  | nil => rfl
  | cons e ds ih =>
      rw [List.forall_mem_cons] at hds
      rw [List.foldl_cons, ih hds.2 (hd.merge hds.1), uppermost?_cons, Option.or_assoc,
        Option.map_or, Option.map_or, bare_at?_merge hds.1.sorted hd.opens hds.1.opens]

/-! ### Origins -/

/-- Members are given an origin one by one. -/
theorem membersWithOrigin_eq_map (o : ψ) (ms : List (String × Datum ω)) :
    membersWithOrigin o ms = ms.map fun m => (m.1, m.2.withOrigin o) := by
  induction ms with
  | nil => rfl
  | cons m ms ih => rw [membersWithOrigin, ih, List.map_cons]

/-- An origin leaves the order of the keys. -/
theorem Sorted.withOrigin (o : ψ) (h : d.Sorted) : (d.withOrigin o).Sorted := by
  induction h with
  | scalar _ s => exact .scalar o s
  | list => exact .list o _
  | table _ hkeys _ ih =>
      rw [Datum.withOrigin, membersWithOrigin_eq_map]
      refine .table o (List.pairwise_map.mpr hkeys) fun m hm => ?_
      obtain ⟨m', hm', rfl⟩ := List.mem_map.mp hm
      exact ih m' hm'

theorem lookup_membersWithOrigin (o : ψ) (k : String) (ms : List (String × Datum ω)) :
    (membersWithOrigin o ms).lookup k = (ms.lookup k).map (withOrigin o) := by
  induction ms with
  | nil => rfl
  | cons m ms ih =>
      rw [membersWithOrigin, lookup_cons_ite, lookup_cons_ite, ih]
      split <;> rfl

theorem membersWithOrigin_insertMember (o : ψ) (k : String) (d : Datum ω)
    (ms : List (String × Datum ω)) :
    membersWithOrigin o (insertMember k d ms) =
      insertMember k (d.withOrigin o) (membersWithOrigin o ms) := by
  induction ms with
  | nil => rfl
  | cons m ms ih =>
      rw [insertMember, membersWithOrigin, insertMember]
      split
      · rw [membersWithOrigin, membersWithOrigin]
      · split
        · rw [membersWithOrigin]
        · rw [membersWithOrigin, ih]

mutual

/-- It does not matter whether origins are set before or after data are laid over each other. -/
theorem withOrigin_merge (o : ψ) : ∀ lower upper : Datum ω,
    (lower.merge upper).withOrigin o = (lower.withOrigin o).merge (upper.withOrigin o)
  | _, .scalar .. | _, .list .. => rfl
  | .scalar .., .table .. | .list .., .table .. => rfl
  | .table _ base, .table _ laid => by
      simp only [merge, withOrigin, membersWithOrigin_mergeMembers o base laid]

theorem membersWithOrigin_mergeMembers (o : ψ) : ∀ base laid : List (String × Datum ω),
    membersWithOrigin o (mergeMembers base laid) =
      mergeMembers (membersWithOrigin o base) (membersWithOrigin o laid)
  | _, [] => rfl
  | base, (k, d) :: laid => by
      rw [mergeMembers, membersWithOrigin_mergeMembers o _ laid, membersWithOrigin_insertMember,
        membersWithOrigin, mergeMembers, lookup_membersWithOrigin]
      cases base.lookup k with
      | none => rfl
      | some old => simp only [Option.map_some, withOrigin_merge o old d]

end

/-- It makes no difference whether layers are given an origin before or after they are merged. -/
theorem withOrigin_foldl_merge (o : ψ) (ds : List (Datum ω)) (d : Datum ω) :
    (ds.foldl merge d).withOrigin o = (ds.map (withOrigin o)).foldl merge (d.withOrigin o) := by
  induction ds generalizing d with
  | nil => rfl
  | cons e ds ih => rw [List.foldl_cons, ih, withOrigin_merge, List.map_cons, List.foldl_cons]

end ModuleDocs.Datum
