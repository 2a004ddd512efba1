import ModuleDocs.Proofs.Resolution

/-!
# Proofs — Finishing

Documentation that is finished stays as it is when it is taken into a draft again and finished once
more.  What changes the first time is what is not yet *finished*: owners of one name become one, in
the place of the first; members, variables, functions and dependencies are sorted; variables and
functions that are not known to be public go.

* `ModuleDoc.Finished`: the documentation that has nothing of this to do, said without the draft.
* `refinished_eq_self_iff`: finishing again leaves exactly the finished documentation.
* `Draft.finish_finished`: whatever a draft holds, finishing it gives finished documentation.
* `finishing_settles`: finishing twice is finishing once, and an assembled module is finished.
-/

namespace ModuleDocs

/-! ### What sorting leaves -/

/-- Sorting leaves alone exactly the lists that are in order. -/
theorem sortBy_eq_self_iff {α : Type} {key : α → String} {xs : List α} :
    sortBy key xs = xs ↔ xs.Pairwise (key · ≤ key ·) := by
  constructor
  · intro h
    rw [← h]
    exact (sortBy_sortedBy key xs).ordered
  · intro h
    exact (sortedBy_iff.mp ⟨h, fun _ => rfl⟩).symm

/-- The comments are sorted by name and all of them are public. -/
structure Shown (cs : List Comment) : Prop where
  ordered : cs.Pairwise (·.name ≤ ·.name)
  visible : ∀ c ∈ cs, c.isPublic = true

/-- Public comments in order are shown. -/
theorem shown_filter_sortByName (cs : List Comment) :
    Shown ((sortByName cs).filter (·.isPublic)) where
  ordered := (sortBy_sortedBy Comment.name cs).ordered.sublist List.filter_sublist
  visible _ hc := (List.mem_filter.mp hc).2

/-- Sorting and leaving out the private ones changes nothing exactly if there is nothing to do. -/
theorem filter_sortByName_eq_self_iff {cs : List Comment} :
    (sortByName cs).filter (·.isPublic) = cs ↔ Shown cs := by
  constructor
  · intro h
    rw [← h]
    exact shown_filter_sortByName cs
  · intro h
    have hs : sortByName cs = cs := sortBy_eq_self_iff.mpr h.ordered
    rw [hs]
    exact List.filter_eq_self.mpr h.visible

/-! ### Owners of different names -/

/-- Entries of new names come behind those of the map, in their order. -/
theorem OrderedMap.pairs_foldl_insert {α : Type} (name : α → String) {m : OrderedMap α}
    {as : List α} (h : (m.names ++ as.map name).Nodup) :
    (as.foldl (fun m a => m.insert (name a) a) m).pairs =
      m.pairs ++ as.map fun a => (name a, a) := by
  induction as generalizing m with
  | nil => simp
  | cons a as ih =>
      have hnew : name a ∉ m.names := fun hmem =>
        (List.nodup_append.mp h).2.2 _ hmem _ List.mem_cons_self rfl
      have hnames : (m.insert (name a) a).names = m.names ++ [name a] := by
        rw [names_insert, if_neg hnew]
      have hpairs : (m.insert (name a) a).pairs = m.pairs ++ [(name a, a)] := placed_of_notMem hnew
      rw [List.foldl_cons, ih (by rwa [hnames, List.append_assoc]), hpairs, List.append_assoc]
      rfl

/-- The owners have different names, and the members of each are sorted. -/
structure Tidy {α : Type} [Owner α] (owners : List α) : Prop where
  nodup : (owners.map Owner.name).Nodup
  ordered : ∀ a ∈ owners, ∀ k, (Owner.members a k).Pairwise (·.name ≤ ·.name)

section

variable {α : Type} [Owner α] {owners : List α}

theorem Owner.sorted_eq_self {a : α} (h : ∀ k, (members a k).Pairwise (·.name ≤ ·.name)) :
    sorted a = a := by
  refine ext (head_make _ _) fun k => ?_
  rw [sorted, members_make]
  exact sortBy_eq_self_iff.mpr (h k)

/-- Whatever a map of owners holds is tidy once the members are sorted. -/
theorem tidy_map_sorted {t : Table α} {m : OrderedMap α} (h : t.Represents Owner.name m) :
    Tidy (t.toList.map Owner.sorted) where
  nodup := by
    rw [Owner.map_name_sorted, ← h.names_eq]
    exact m.names_nodup
  ordered a ha k := by
    obtain ⟨b, -, rfl⟩ := List.mem_map.mp ha
    rw [Owner.sorted, Owner.members_make]
    exact (sortBy_sortedBy Comment.name _).ordered

/-- A table made of tidy owners lists them as they are. -/
theorem Tidy.map_sorted {t : Table α} (h : Tidy owners) (ht : t.Represents Owner.name
    (owners.foldl (fun m a => m.insert (Owner.name a) a) .empty)) :
    t.toList.map Owner.sorted = owners := by
  have hvalues : t.toList = owners := by
    have hp := OrderedMap.pairs_foldl_insert Owner.name (m := .empty) h.nodup
    rw [← ht.values_eq, OrderedMap.values, hp, OrderedMap.empty, List.nil_append, List.map_map]
    exact List.map_id' _
  rw [hvalues]
  exact (List.map_congr_left fun a ha => Owner.sorted_eq_self (h.ordered a ha)).trans
    (List.map_id' _)

end

/-! ### Finished documentation -/

namespace ModuleDoc

/-- The documentation taken into a draft and finished without any comment. -/
def refinished (r : ModuleDoc) : ModuleDoc := (Draft.ofDoc r).finish

/-- There is nothing left to sort, to leave out or to bring together. -/
structure Finished (r : ModuleDoc) : Prop where
  vars : Shown r.vars
  functions : Shown r.functions
  classes : Tidy r.classes
  mixins : Tidy r.mixins
  dependencies : r.dependencies.Pairwise (Text.lower ·.name ≤ Text.lower ·.name)

end ModuleDoc

/-- **Finishing finishes,** whatever the draft holds. -/
theorem Draft.finish_finished {d : Draft} {s : Owners} (h : d.registry.Represents s) :
    d.finish.Finished where
  vars := shown_filter_sortByName d.header.vars
  functions := shown_filter_sortByName d.header.functions
  classes := tidy_map_sorted h.classes
  mixins := tidy_map_sorted h.mixins
  dependencies :=
    (sortBy_sortedBy (fun d : Dependency => Text.lower d.name) d.header.dependencies).ordered

namespace ModuleDoc

/-- What has been finished again is finished. -/
theorem finished_refinished (r : ModuleDoc) : r.refinished.Finished :=
  Draft.finish_finished (Draft.ofDoc_represents r)

/-- Finishing a finished record changes nothing. -/
theorem Finished.refinished_eq {r : ModuleDoc} (h : r.Finished) : r.refinished = r := by
  have hr := Draft.ofDoc_represents r
  rw [Owners.ofDocs, Owners.foldl_insertMixin, Owners.foldl_insertClass] at hr
  have hvars := filter_sortByName_eq_self_iff.mpr h.vars
  have hfunctions := filter_sortByName_eq_self_iff.mpr h.functions
  have hdependencies : sortDependencies r.dependencies = r.dependencies :=
    sortBy_eq_self_iff.mpr h.dependencies
  have hclasses : (Draft.ofDoc r).registry.classes.toList.map (·.sorted) = r.classes :=
    h.classes.map_sorted hr.classes
  have hmixins : (Draft.ofDoc r).registry.mixins.toList.map (·.sorted) = r.mixins :=
    h.mixins.map_sorted hr.mixins
  calc r.refinished
      = { r with
          dependencies := sortDependencies r.dependencies
          vars := (sortByName r.vars).filter (·.isPublic)
          functions := (sortByName r.functions).filter (·.isPublic)
          classes := (Draft.ofDoc r).registry.classes.toList.map (·.sorted)
          mixins := (Draft.ofDoc r).registry.mixins.toList.map (·.sorted) } := rfl
    _ = r := by rw [hvars, hfunctions, hdependencies, hclasses, hmixins]

/-- **Finishing again leaves exactly the finished documentation.** -/
theorem refinished_eq_self_iff {r : ModuleDoc} : r.refinished = r ↔ r.Finished :=
  ⟨fun h => h ▸ r.finished_refinished, Finished.refinished_eq⟩

end ModuleDoc

/-! ### Assembled modules -/

namespace Assembler

/-- Without comments the seed is finished. -/
theorem assemble_nil (a : Assembler) (module : Identity) :
    a.assemble module [] = (a.seed module).refinished := by
  unfold assemble draft start
  cases a.resolution <;> rfl

/-- The last hook on the module may replace all that is there. -/
theorem seed_of_supplied (a : Assembler) (module : Identity) (r : ModuleDoc) (e : Extension)
    (he : e.onModule = some fun _ => r) :
    { a with extensions := a.extensions ++ [e] }.seed module = r := by
  rw [seed, Extension.applyModule, List.filterMap_append, List.filterMap_cons_some he,
    List.filterMap_nil, List.foldl_concat]

/-- **Finishing settles a module.**  Taking documentation into a draft and finishing it does no more
when it is done again; it is what assembling gives without comments for documentation that a hook
supplies; and what assembling gives for any comments, with any extensions and either way to find
owners, it leaves as it is.  It leaves exactly the documentation in which nothing is to be sorted,
to be left out or to be brought together. -/
theorem finishing_settles (a : Assembler) (module : Identity) (comments : List Comment)
    (r : ModuleDoc) :
    let f (r : ModuleDoc) : ModuleDoc := (Draft.ofDoc r).finish
    let supplied (name : String) (onComment : Option (Comment → Comment)) : Extension :=
      { name, onModule := some fun _ => r, onComment }
    f (f r) = f r ∧ (f r = r ↔ r.Finished) ∧
      (∀ name onComment, { a with extensions := a.extensions ++ [supplied name onComment] }.assemble
        module [] = f r) ∧
      a.assemble module [] = f (a.seed module) ∧
      f (a.assemble module comments) = a.assemble module comments := by
  intro f supplied
  refine ⟨?_, ModuleDoc.refinished_eq_self_iff, fun name onComment => ?_, a.assemble_nil module, ?_⟩
  · exact r.finished_refinished.refinished_eq
  · rw [assemble_nil, seed_of_supplied a module r (supplied name onComment) rfl]
    rfl
  · exact (Draft.finish_finished (a.draft_represents module comments)).refinished_eq

end Assembler

end ModuleDocs
