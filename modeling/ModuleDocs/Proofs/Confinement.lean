import ModuleDocs.Proofs.Targets

/-!
# Proofs — Confinement

The file of a module lies below the output directory, however the module's path is spelled: it has
the normal names of the path, and neither the root nor `.` nor `..` is among them.  Paths that have
the same normal names therefore have the same file, and no others do; a path without any is taken
for `module`.

* `Path.StrictlyBelow`: a path that goes through a directory and then down.
* `stemNames`: the names of a module's file before it gets its extension.
* `target_eq_iff`: two modules have one file exactly if these names are the same.
* `target_confined`: where the files of modules lie, and which modules share one.
-/

namespace ModuleDocs

namespace Path

/-- The path starts where the directory does, goes through its names and then further down. -/
structure StrictlyBelow (dir path : String) : Prop where
  absolute : isAbsolute path = isAbsolute dir
  parts : ∃ names, LeadsDown names ∧ parts path = parts dir ++ names

/-- Names that lead down lead below the directory. -/
theorem strictlyBelow_join (dir : String) {l : List String} (h : LeadsDown l) :
    StrictlyBelow dir (join dir ("/".intercalate l)) :=
  ⟨isAbsolute_join dir h, l, h, parts_join dir h⟩

theorem join_empty {l : List String} (h : LeadsDown l) :
    join "" ("/".intercalate l) = "/".intercalate l := by
  rw [join_of_relative "" h.areNames.isAbsolute_intercalate, if_pos rfl]

/-- The names of a text of names that lead down all matter. -/
theorem parts_intercalate {l : List String} (h : LeadsDown l) : parts ("/".intercalate l) = l := by
  have hparts := parts_join "" h
  rwa [join_empty h, show parts "" = [] by decide, List.nil_append] at hparts

/-- The last name is the name of the file. -/
theorem fileName?_join (dir : String) {front : List String} {last : String}
    (h : LeadsDown (front ++ [last])) :
    fileName? (join dir ("/".intercalate (front ++ [last]))) = some last := by
  have hnormal := h.normal last (List.mem_append_right front List.mem_cons_self)
  rw [fileName?, parts_join dir h, ← List.append_assoc, List.getLast?_concat, Option.bind_some,
    if_pos hnormal]

end Path

namespace Output

variable {f : OutputFormat} {p q : String}

/-- The names of a module's file, without the extension. -/
def stemNames (path : String) : List String :=
  if Path.normalNames path = [] then ["module"] else Path.normalNames path

theorem targetNames_eq (f : OutputFormat) (path : String) :
    targetNames f path = onLast f.fileName (stemNames path) := by
  unfold targetNames stemNames
  split
  case h_1 hn => rw [if_pos hn, onLast]
  case h_2 hn => rw [if_neg hn]

/-- There is always a last name for a file. -/
theorem exists_stemNames (path : String) : ∃ front stem, stemNames path = front ++ [stem] := by
  refine List.eq_nil_or_concat' (stemNames path) |>.resolve_left ?_
  unfold stemNames
  split
  case isTrue => exact List.cons_ne_nil _ _
  case isFalse hn => exact hn

/-! ### Which modules share a file -/

/-- Different stems give different files. -/
theorem fileName_injective (f : OutputFormat) : Function.Injective f.fileName := by
  intro a b h
  have hchars := congrArg String.toList h
  rw [fileName_toList, fileName_toList] at hchars
  exact String.toList_inj.mp (List.append_cancel_right hchars)

/-- A change that keeps names apart keeps lists apart in which it is made to the last name. -/
theorem onLast_injective {change : String → String} (h : Function.Injective change) :
    Function.Injective (onLast change) := by
  intro l l' he
  rcases List.eq_nil_or_concat' l with rfl | ⟨front, a, rfl⟩ <;>
    rcases List.eq_nil_or_concat' l' with rfl | ⟨front', b, rfl⟩
  · rfl
  · rw [onLast_concat, onLast] at he
    exact absurd he.symm (by simp)
  · rw [onLast_concat, onLast] at he
    exact absurd he (by simp)
  · rw [onLast_concat, onLast_concat] at he
    obtain ⟨rfl, hlast⟩ := List.append_inj' he rfl
    rw [h (List.cons.inj hlast).1]

/-- **Two modules have one file exactly if its names are the same before the extension.** -/
theorem target_eq_iff : target f p = target f q ↔ stemNames p = stemNames q := by
  constructor
  · intro h
    have hnames := (targetNames_leadsDown f p).intercalate_injective (targetNames_leadsDown f q) h
    rw [targetNames_eq, targetNames_eq] at hnames
    exact onLast_injective (fileName_injective f) hnames
  · intro h
    rw [target, target, targetNames_eq, targetNames_eq, h]

/-- The index has the file of a module `_index`. -/
theorem indexTarget_eq (f : OutputFormat) : indexTarget f = target f "_index" := by
  cases f <;> decide

/-- The path `module` has the file of the paths without normal names, and only it does. -/
theorem stemNames_eq_iff : stemNames p = stemNames q ↔
    Path.normalNames p = Path.normalNames q ∨
      Path.normalNames p = [] ∧ Path.normalNames q = ["module"] ∨
      Path.normalNames p = ["module"] ∧ Path.normalNames q = [] := by
  unfold stemNames
  by_cases hp : Path.normalNames p = [] <;> by_cases hq : Path.normalNames q = []
  · simp [hp, hq]
  · rw [if_pos hp, if_neg hq, hp]
    simp [hq, Ne.symm hq, eq_comm]
  · rw [if_neg hp, if_pos hq, hq]
    simp [hp]
  · rw [if_neg hp, if_neg hq]
    simp [hp, hq]

/-- **The files of modules stay inside the output directory.**  Whatever the path of a module is,
its file is a path that is not empty and does not start at the root, all its names are normal, the
last one ends in the extension of the format, and joined to a directory it lies strictly below the
directory.  Two modules have one file exactly if their paths have the same normal names, or one has
none and the other the name `module` alone. -/
theorem target_confined (f : OutputFormat) :
    (∀ path, let file := target f path
      file ≠ "" ∧ Path.isAbsolute file = false ∧ Path.parts file ≠ [] ∧
        (∀ name ∈ Path.parts file, Path.isNormal name = true) ∧
        (∃ stem, Path.fileName? file = some (stem ++ "." ++ f.name)) ∧
        ∀ dir, Path.StrictlyBelow dir (Path.join dir file)) ∧
    ∀ p q, target f p = target f q ↔
      Path.normalNames p = Path.normalNames q ∨
        Path.normalNames p = [] ∧ Path.normalNames q = ["module"] ∨
        Path.normalNames p = ["module"] ∧ Path.normalNames q = [] := by
  refine ⟨fun path => ?_, fun p q => target_eq_iff.trans stemNames_eq_iff⟩
  have hl := targetNames_leadsDown f path
  have hparts : Path.parts (target f path) = targetNames f path := Path.parts_intercalate hl
  obtain ⟨front, stem, hstem⟩ := exists_stemNames path
  have hnames : targetNames f path = front ++ [f.fileName stem] := by
    rw [targetNames_eq, hstem, onLast_concat]
  refine ⟨hl.areNames.text_ne_empty hl.ne_nil, hl.areNames.isAbsolute_intercalate, ?_, ?_,
    ⟨stem, ?_⟩, fun dir => Path.strictlyBelow_join dir hl⟩
  · rw [hparts]
    exact hl.ne_nil
  · rw [hparts]
    exact hl.normal
  · rw [target, hnames, ← Path.join_empty (hnames ▸ hl)]
    exact Path.fileName?_join "" (hnames ▸ hl)

/-- A path that starts at the root, goes up and ends in a slash, and one that stays where it is. -/
example : target .json "/a/../b.js/" = "a/b.js.json" ∧ target .yaml "./.." = "module.yaml" := by
  decide

end Output

end ModuleDocs
