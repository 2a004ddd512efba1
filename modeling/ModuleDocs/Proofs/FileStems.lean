import ModuleDocs.Proofs.Targets
import Mathlib.Data.List.TakeWhile

/-!
# Proofs — File stems

The extension `strip-extension` cuts the name of a module at its last dot, unless nothing stands
before the dot or a slash behind it.  A reader thinks of the last name in a path, which is to lose
its file extension.  The two differ for one kind of path: a last name with a dot at its start and
nowhere else is kept where it stands alone, but below a directory nothing is left of it.

* `fileStem`: a file name without its extension.
* `HiddenBelow`: a path through a directory to a name of this kind.
* `stem_alone`, `stem_below`: the cut, for a name alone and for a name below a directory.
* `stripExtension_exact`: what the extension makes of a module.
-/

namespace ModuleDocs.Extension

open Output (onLast onLast_concat)

/-- A file name without its extension: what stands before its last dot, or all of it if nothing
does. -/
def fileStem (name : String) : String := ((Path.splitExtension? name).map Prod.fst).getD name

/-- The path leads through a directory to a name that has a dot at its start and nowhere else. -/
def HiddenBelow (path : String) : Prop :=
  ∃ dir rest : String, path = dir ++ "/" ++ ("." ++ rest) ∧ '.' ∉ rest.toList ∧ '/' ∉ rest.toList

/-! ### The last dot -/

section

variable {front rest name : String}

/-- A text with a mark has a last one. -/
theorem exists_lastMark {mark : Char} {text : String} (ht : text.toList = [mark])
    (h : mark ∈ name.toList) :
    ∃ front rest : String, name = front ++ text ++ rest ∧ mark ∉ rest.toList := by
  obtain ⟨back, cs, hback, hmark⟩ := List.eq_append_cons_of_mem (List.mem_reverse.mpr h)
  refine ⟨String.ofList cs.reverse, String.ofList back.reverse, ?_, ?_⟩
  · rw [← String.toList_inj, ← List.reverse_reverse name.toList, hback]
    simp [ht]
  · simpa using hmark

/-- A name with dots has a last one. -/
theorem exists_lastDot (h : '.' ∈ name.toList) :
    ∃ front rest : String, name = front ++ "." ++ rest ∧ '.' ∉ rest.toList :=
  exists_lastMark (by simp) h

/-- Both readers of a name look for its last dot from the end on. -/
theorem ne_dot_of_mem_reverse (h : '.' ∉ name.toList) :
    ∀ c ∈ name.toList.reverse, decide (c ≠ '.') = true := by
  intro c hc
  simpa using ne_of_mem_of_not_mem (List.mem_reverse.mp hc) h

theorem reverse_lastDot : (front ++ "." ++ rest).toList.reverse =
    rest.toList.reverse ++ '.' :: front.toList.reverse := by
  simp

theorem takeWhile_lastDot (h : '.' ∉ rest.toList) :
    (front ++ "." ++ rest).toList.reverse.takeWhile (· ≠ '.') = rest.toList.reverse := by
  rw [reverse_lastDot, List.takeWhile_append_of_pos (ne_dot_of_mem_reverse h),
    List.takeWhile_cons_of_neg (by simp), List.append_nil]

theorem dropWhile_lastDot (h : '.' ∉ rest.toList) :
    (front ++ "." ++ rest).toList.reverse.dropWhile (· ≠ '.') = '.' :: front.toList.reverse := by
  rw [reverse_lastDot, List.dropWhile_append_of_pos (ne_dot_of_mem_reverse h),
    List.dropWhile_cons_of_neg (by simp)]

/-- The stem goes up to the last dot, unless that is in front. -/
theorem fileStem_lastDot (h : '.' ∉ rest.toList) :
    fileStem (front ++ "." ++ rest) = if front = "" then "." ++ rest else front := by
  have hdrop : (front ++ "." ++ rest).toList.reverse.drop (rest.toList.reverse.length + 1) =
      front.toList.reverse := by
    rw [reverse_lastDot, List.drop_length_add_append]
    rfl
  unfold fileStem Path.splitExtension?
  simp only [takeWhile_lastDot h, hdrop, List.reverse_reverse, String.ofList_toList]
  by_cases hf : front = ""
  · simp [hf]
  · simp [hf]

/-- A name without dots is its own stem. -/
theorem fileStem_of_noDot (h : '.' ∉ name.toList) : fileStem name = name := by
  have hall := List.takeWhile_eq_self_iff.mpr (ne_dot_of_mem_reverse h)
  unfold fileStem Path.splitExtension?
  simp only [hall]
  simp

/-- A file name is not lost. -/
theorem fileStem_eq_empty_iff : fileStem name = "" ↔ name = "" := by
  by_cases hdot : '.' ∈ name.toList
  · obtain ⟨front, rest, rfl, hrest⟩ := exists_lastDot hdot
    rw [fileStem_lastDot hrest]
    by_cases hf : front = ""
    · simp [hf]
    · simp [hf]
  · rw [fileStem_of_noDot hdot]

/-- The cut at the last dot, which a slash behind the dot prevents. -/
theorem stem_lastDot (h : '.' ∉ rest.toList) : stem (front ++ "." ++ rest) =
    if front = "" ∨ '/' ∈ rest.toList then front ++ "." ++ rest else front := by
  unfold stem
  simp only [dropWhile_lastDot h, takeWhile_lastDot h]
  by_cases hf : front = ""
  · simp [hf]
  · by_cases hs : '/' ∈ rest.toList
    · simp [hf, hs]
    · simp [hf, hs]

theorem stem_of_noDot (h : '.' ∉ name.toList) : stem name = name := by
  have hnone := List.dropWhile_eq_nil_iff.mpr (ne_dot_of_mem_reverse h)
  unfold stem
  simp only [hnone]

end

/-! ### The last name -/

section

variable {dir name rest : String}

/-- A name alone is cut as a file name is. -/
theorem stem_alone (h : '/' ∉ name.toList) : stem name = fileStem name := by
  by_cases hdot : '.' ∈ name.toList
  · obtain ⟨front, rest, rfl, hrest⟩ := exists_lastDot hdot
    have hs : '/' ∉ rest.toList := fun hc => h (by simp [hc])
    rw [stem_lastDot hrest, fileStem_lastDot hrest]
    by_cases hf : front = ""
    · simp [hf]
    · simp [hf, hs]
  · rw [stem_of_noDot hdot, fileStem_of_noDot hdot]

/-- Below a directory a dot at the start of the name is as good as any other. -/
theorem stem_hidden (h : '.' ∉ rest.toList) (hs : '/' ∉ rest.toList) :
    stem (dir ++ "/" ++ ("." ++ rest)) = dir ++ "/" := by
  rw [← String.append_assoc, stem_lastDot h, if_neg (by simp [hs])]

/-- Every other name below a directory is cut as a file name is. -/
theorem stem_below (h : '/' ∉ name.toList) (hn : ¬ HiddenBelow (dir ++ "/" ++ name)) :
    stem (dir ++ "/" ++ name) = dir ++ "/" ++ fileStem name := by
  by_cases hdot : '.' ∈ name.toList
  · obtain ⟨front, rest, rfl, hrest⟩ := exists_lastDot hdot
    have hs : '/' ∉ rest.toList := fun hc => h (by simp [hc])
    have hf : front ≠ "" := by
      rintro rfl
      exact hn ⟨dir, rest, by simp, hrest, hs⟩
    rw [← String.append_assoc, ← String.append_assoc, stem_lastDot hrest, fileStem_lastDot hrest,
      if_neg hf, if_neg (by simp [hs])]
  · -- the last dot, if there is one, stands before the slash
    rw [fileStem_of_noDot hdot]
    by_cases hdir : '.' ∈ dir.toList
    · obtain ⟨front, rest, rfl, hrest⟩ := exists_lastDot hdir
      have hpath : front ++ "." ++ rest ++ "/" ++ name = front ++ "." ++ (rest ++ "/" ++ name) := by
        simp [String.append_assoc]
      rw [hpath, stem_lastDot (by simp [hrest, hdot]), if_pos (.inr (by simp))]
    · exact stem_of_noDot (by simp [hdir, hdot])

end

/-! ### Modules -/

section

variable {path dir name : String}

/-- A name without slashes is not split. -/
theorem split_of_noSlash (h : '/' ∉ name.toList) : Text.split '/' name = [name] := by
  have hsplit := Text.split_intercalate (List.cons_ne_nil name [])
    (List.forall_mem_singleton.mpr h)
  rwa [String.intercalate_singleton] at hsplit

/-- The last name below a directory changed. -/
theorem intercalate_onLast_below (h : '/' ∉ name.toList) (change : String → String) :
    "/".intercalate (onLast change (Text.split '/' (dir ++ "/" ++ name))) =
      dir ++ "/" ++ change name := by
  have hne : Text.split '/' dir ≠ [] := by
    rw [Text.split, Text.splitChars_eq_splitOn]
    exact mt List.map_eq_nil_iff.mp (List.splitOn_ne_nil '/' dir.toList)
  rw [Text.split_append_slash, split_of_noSlash h, onLast_concat,
    String.intercalate_append_of_ne_nil hne (List.cons_ne_nil _ _), Text.intercalate_split,
    String.intercalate_singleton]

/-- The last name of a hidden file below a directory is lost. -/
theorem stem_of_hiddenBelow (h : HiddenBelow path) :
    stem path = "/".intercalate (onLast (fun _ => "") (Text.split '/' path)) := by
  obtain ⟨dir, rest, rfl, hdot, hs⟩ := h
  rw [stem_hidden hdot hs, intercalate_onLast_below (by simp [hs]), String.append_empty]

/-- All other stems are taken off the last name. -/
theorem stem_of_not_hiddenBelow (h : ¬ HiddenBelow path) :
    stem path = "/".intercalate (onLast fileStem (Text.split '/' path)) := by
  by_cases hslash : '/' ∈ path.toList
  · obtain ⟨dir, name, rfl, hname⟩ : ∃ dir name : String, path = dir ++ "/" ++ name ∧
        '/' ∉ name.toList := exists_lastMark (by simp) hslash
    rw [stem_below hname h, intercalate_onLast_below hname]
  · rw [stem_alone hslash, split_of_noSlash hslash, onLast, String.intercalate_singleton]

end

/-- **What the extension `strip-extension` makes of a module.**  It changes nothing but the name,
and of the name only what stands behind the last slash: this loses its file extension, which leaves
some of it if there was any.  It does so exactly if the name does not lead through a directory to a
name with a dot at its start and nowhere else; of such a name nothing is left behind the slash. -/
theorem stripExtension_exact (r : ModuleDoc) :
    let names := Text.split '/' r.name
    let renamed (change : String → String) : ModuleDoc :=
      { r with name := "/".intercalate (onLast change names) }
    (stripExtension r = renamed fileStem ↔ ¬ HiddenBelow r.name) ∧
      (HiddenBelow r.name → stripExtension r = renamed fun _ => "") ∧
      (∀ name, fileStem name = "" ↔ name = "") ∧
      (∀ name, '.' ∉ name.toList → fileStem name = name) ∧
      ∀ front rest, '.' ∉ rest.toList →
        fileStem (front ++ "." ++ rest) = if front = "" then "." ++ rest else front := by
  intro names renamed
  have hhidden : HiddenBelow r.name → stripExtension r = renamed fun _ => "" := by
    intro h
    rw [stripExtension, stem_of_hiddenBelow h]
  refine ⟨⟨?_, ?_⟩, hhidden, fun _ => fileStem_eq_empty_iff, fun _ => fileStem_of_noDot,
    fun _ _ => fileStem_lastDot⟩
  · intro h hb
    have hnames := congrArg ModuleDoc.name ((hhidden hb).symm.trans h)
    obtain ⟨dir, rest, hname, -, hs⟩ := hb
    simp only [renamed, names, hname] at hnames
    rw [intercalate_onLast_below (by simp [hs]), intercalate_onLast_below (by simp [hs])] at hnames
    have hlost : fileStem ("." ++ rest) = "" := (String.append_right_inj _).mp hnames.symm
    rw [fileStem_eq_empty_iff] at hlost
    simp at hlost
  · intro h
    rw [stripExtension, stem_of_not_hiddenBelow h]

/-- A hidden file below a directory has no extension, and all of it goes. -/
theorem hidden_lost_below_directory :
    let r : ModuleDoc := { name := "lib/.eslintrc" }
    "/".intercalate (onLast fileStem (Text.split '/' r.name)) = r.name ∧
      stripExtension r = { r with name := "lib/" } ∧ stripExtension r ≠ r := by
  decide

/-- Alone it is kept, as it is with a second dot; dots of directories do not count. -/
example : stem ".eslintrc" = ".eslintrc" ∧ stem "lib/.eslintrc.js" = "lib/.eslintrc" ∧
    stem "lib.d/view" = "lib.d/view" := by
  decide

end ModuleDocs.Extension
