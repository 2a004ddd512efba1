import ModuleDocs.Files.Disk
import Mathlib.Data.List.Basic

/-!
# Proofs — Paths

A path is a text, and what it leads to depends on the names in it.  A list of names *leads down* if
it is not empty and each of them is normal and has no slash; the text of such a list is the names
with slashes between them.

* `AreNames.names_intercalate`: the names in a text of names are these names, so that two lists with
  one text are the same (`intercalate_injective`).
* `names_join`, `steps_join`, `parts_join`: a list that leads down, joined to a directory, is walked
  after the names of the directory.
* `parent?_join`: the directory of such a path is the directory followed by all names but the last.
-/

namespace ModuleDocs

/-! ### Cutting texts -/

namespace Text

theorem splitChars_eq_splitOn (mark : Char) (cs : List Char) :
    splitChars mark cs = cs.splitOn mark := by
  induction cs with
  | nil => rw [splitChars, List.splitOn_nil]
  | cons c cs ih =>
      rw [splitChars, List.splitOn_cons_eq_if_modifyHead, ih]
      by_cases hc : c = mark
      · rw [if_pos hc, if_pos (beq_iff_eq.mpr hc)]
      · rw [if_neg hc, if_neg (mt beq_iff_eq.mp hc)]
        cases hs : cs.splitOn mark with
        | nil => exact absurd hs (List.splitOn_ne_nil mark cs)
        | cons part parts => rfl

theorem notMem_of_mem_splitChars {mark : Char} {cs part : List Char}
    (h : part ∈ splitChars mark cs) : mark ∉ part := by
  induction cs generalizing part with
  | nil =>
      rw [splitChars, List.mem_singleton] at h
      rw [h]
      exact List.not_mem_nil
  | cons c cs ih =>
      rw [splitChars] at h
      split at h
      case isTrue hc =>
        rcases List.mem_cons.mp h with rfl | h
        · exact List.not_mem_nil
        · exact ih h
      case isFalse hc =>
        split at h
        case h_1 first parts hs =>
          rcases List.mem_cons.mp h with rfl | h
          · rw [List.mem_cons, not_or]
            exact ⟨Ne.symm hc, ih (hs ▸ List.mem_cons_self)⟩
          · exact ih (hs ▸ List.mem_cons_of_mem first h)
        case h_2 hs =>
          rw [splitChars_eq_splitOn] at hs
          exact absurd hs (List.splitOn_ne_nil mark cs)

/-- No part of a split text holds the mark. -/
theorem notMem_of_mem_split {mark : Char} {s part : String} (h : part ∈ split mark s) :
    mark ∉ part.toList := by
  obtain ⟨cs, hcs, rfl⟩ := List.mem_map.mp h
  rw [String.toList_ofList]
  exact notMem_of_mem_splitChars hcs

/-- A slash splits a path in two. -/
theorem split_append_slash (a b : String) :
    split '/' (a ++ "/" ++ b) = split '/' a ++ split '/' b := by
  have h : (a ++ "/" ++ b).toList = a.toList ++ '/' :: b.toList := by simp
  rw [split, h, splitChars_eq_splitOn, List.splitOn_append_cons_self, List.map_append,
    ← splitChars_eq_splitOn, ← splitChars_eq_splitOn]
  rfl

/-- Names put together with slashes are split apart again. -/
theorem split_intercalate {names : List String} (hne : names ≠ [])
    (h : ∀ name ∈ names, '/' ∉ name.toList) : split '/' ("/".intercalate names) = names := by
  have hslash : ("/" : String).toList = ['/'] := rfl
  rw [split, String.toList_intercalate, hslash, splitChars_eq_splitOn,
    List.splitOn_intercalate '/' ?_ (mt List.map_eq_nil_iff.mp hne), List.map_map]
  · exact (List.map_congr_left fun name _ => String.ofList_toList).trans (List.map_id names)
  · intro cs hcs
    obtain ⟨name, hname, rfl⟩ := List.mem_map.mp hcs
    exact h name hname

/-- What is cut out of a text, put together again, is the text. -/
theorem intercalate_split (s : String) : "/".intercalate (split '/' s) = s := by
  have hslash : ("/" : String).toList = ['/'] := rfl
  have hid : (splitChars '/' s.toList).map (String.toList ∘ String.ofList) =
      splitChars '/' s.toList :=
    (List.map_congr_left fun cs _ => String.toList_ofList).trans (List.map_id _)
  rw [← String.toList_inj, String.toList_intercalate, split, List.map_map, hid, hslash,
    splitChars_eq_splitOn]
  exact List.intercalate_splitOn '/'

end Text

namespace Path

/-! ### Names -/

/-- The names lead down from a directory. -/
structure LeadsDown (names : List String) : Prop where
  ne_nil : names ≠ []
  normal : ∀ name ∈ names, isNormal name = true
  noSlash : ∀ name ∈ names, '/' ∉ name.toList

instance (names : List String) : Decidable (LeadsDown names) :=
  decidable_of_iff (names ≠ [] ∧ (∀ name ∈ names, isNormal name = true) ∧
    ∀ name ∈ names, '/' ∉ name.toList) ⟨fun h => ⟨h.1, h.2.1, h.2.2⟩, fun h => ⟨h.1, h.2, h.3⟩⟩

/-- A normal name is none of the three that do not lead down. -/
theorem isNormal_iff {name : String} :
    isNormal name = true ↔ name ≠ "" ∧ name ≠ "." ∧ name ≠ ".." := by
  simp [isNormal, and_assoc]

/-- A list of names: texts with characters, none of them a slash. -/
structure AreNames (l : List String) : Prop where
  noSlash : ∀ name ∈ l, '/' ∉ name.toList
  ne_empty : ∀ name ∈ l, name ≠ ""

/-- The names of a path are names. -/
theorem areNames_names (path : String) : AreNames (names path) where
  noSlash _ h := Text.notMem_of_mem_split (List.mem_filter.mp h).1
  ne_empty _ h := by simpa using (List.mem_filter.mp h).2

namespace AreNames

variable {l l' : List String}

theorem of_subset (h : AreNames l') (hs : l ⊆ l') : AreNames l :=
  ⟨fun name hn => h.noSlash name (hs hn), fun name hn => h.ne_empty name (hs hn)⟩

theorem append (h : AreNames l) (h' : AreNames l') : AreNames (l ++ l') :=
  ⟨List.forall_mem_append.mpr ⟨h.noSlash, h'.noSlash⟩,
    List.forall_mem_append.mpr ⟨h.ne_empty, h'.ne_empty⟩⟩

/-- **The names in a text of names are these names.** -/
theorem names_intercalate (h : AreNames l) : names ("/".intercalate l) = l := by
  cases l with
  | nil => decide
  | cons name rest =>
      rw [names, Text.split_intercalate (List.cons_ne_nil name rest) h.noSlash, List.filter_eq_self]
      intro n hn
      simpa using h.ne_empty n hn

/-- Names give a path that is not empty. -/
theorem text_ne_empty (h : AreNames l) (hne : l ≠ []) : "/".intercalate l ≠ "" := by
  intro e
  have hn := h.names_intercalate
  rw [e] at hn
  exact hne (hn.symm.trans (by decide))

/-- A text of names starts with the first of them, so it is looked up from where one stands. -/
theorem isAbsolute_intercalate (h : AreNames l) : isAbsolute ("/".intercalate l) = false := by
  cases l with
  | nil => decide
  | cons name rest =>
      have hne : name.toList ≠ [] := fun e =>
        h.ne_empty name List.mem_cons_self (String.toList_inj.mp e)
      obtain ⟨c, cs, hc⟩ := List.exists_cons_of_ne_nil hne
      have hslash : c ≠ '/' := by
        rintro rfl
        exact h.noSlash name List.mem_cons_self (hc ▸ List.mem_cons_self)
      cases rest with
      | nil => simp [isAbsolute, hc, hslash]
      | cons next rest => simp [isAbsolute, String.intercalate_cons_cons, hc, hslash]

theorem getLast?_intercalate (h : AreNames l) (hne : l ≠ []) :
    ("/".intercalate l).toList.getLast? ≠ some '/' := by
  obtain ⟨front, name, rfl⟩ := List.eq_nil_or_concat' l |>.resolve_left hne
  have hmem : name ∈ front ++ [name] := List.mem_append_right front List.mem_cons_self
  have hchars : name.toList ≠ [] := fun e => h.ne_empty name hmem (String.toList_inj.mp e)
  have hlast : ("/".intercalate (front ++ [name])).toList.getLast? = name.toList.getLast? := by
    cases front with
    | nil => simp
    | cons first front =>
        rw [String.intercalate_append_of_ne_nil (List.cons_ne_nil first front)
          (List.cons_ne_nil name []), String.intercalate_singleton, String.toList_append,
          List.getLast?_append_of_ne_nil _ hchars]
  rw [hlast]
  intro e
  exact h.noSlash name hmem (List.mem_of_getLast? e)

end AreNames

/-- The names on both sides of a slash follow one another. -/
theorem names_append_slash (a b : String) : names (a ++ "/" ++ b) = names a ++ names b := by
  rw [names, Text.split_append_slash, List.filter_append]
  rfl

/-- A slash at the end adds no name. -/
theorem names_concat_slash (a : String) : names (a ++ "/") = names a := by
  have := names_append_slash a ""
  rwa [String.append_empty, show names "" = [] by decide, List.append_nil] at this

namespace LeadsDown

variable {l l' : List String}

theorem areNames (h : LeadsDown l) : AreNames l :=
  ⟨h.noSlash, fun name hn => (isNormal_iff.mp (h.normal name hn)).1⟩

theorem tail {name : String} (h : LeadsDown (name :: l)) (hne : l ≠ []) : LeadsDown l where
  ne_nil := hne
  normal n hn := h.normal n (List.mem_cons_of_mem name hn)
  noSlash n hn := h.noSlash n (List.mem_cons_of_mem name hn)

/-- **Two lists of names with one text are the same list.** -/
theorem intercalate_injective (h : LeadsDown l) (h' : LeadsDown l')
    (e : "/".intercalate l = "/".intercalate l') : l = l' := by
  rw [← h.areNames.names_intercalate, e, h'.areNames.names_intercalate]

end LeadsDown

/-! ### Paths below a directory -/

section

variable {l : List String} (dir : String)

/-- A text that ends in a slash, without it. -/
theorem exists_of_getLast?_slash {s : String} (h : s.toList.getLast? = some '/') :
    ∃ front : String, s = front ++ "/" := by
  obtain ⟨cs, hcs⟩ := List.getLast?_eq_some_iff.mp h
  exact ⟨String.ofList cs, String.toList_inj.mp (by rw [hcs]; simp)⟩

theorem isAbsolute_append {a b : String} (h : a ≠ "") : isAbsolute (a ++ b) = isAbsolute a := by
  have hne : a.toList ≠ [] := fun e => h (String.toList_inj.mp e)
  rw [isAbsolute, isAbsolute, String.toList_append, List.head?_append_of_ne_nil _ hne]

/-- A relative path is put behind the directory, with a slash if there is none. -/
theorem join_of_relative {s : String} (h : isAbsolute s = false) :
    join dir s =
      if dir = "" then s
      else if dir.toList.getLast? = some '/' then dir ++ s
      else dir ++ "/" ++ s := by
  simp [join, h]

/-- The names of a path looked up from a directory come after those of the directory. -/
theorem names_join_of_relative {s : String} (h : isAbsolute s = false) :
    names (join dir s) = names dir ++ names s := by
  rw [join_of_relative dir h]
  split
  case isTrue hd =>
    rw [hd]
    rfl
  case isFalse =>
    split
    case isTrue hs =>
      obtain ⟨front, rfl⟩ := exists_of_getLast?_slash hs
      rw [names_append_slash, names_concat_slash]
    case isFalse => exact names_append_slash dir s

/-- A joined path is absolute if the directory is. -/
theorem isAbsolute_join_of_relative {s : String} (h : isAbsolute s = false) :
    isAbsolute (join dir s) = isAbsolute dir := by
  rw [join_of_relative dir h]
  split
  case isTrue hd =>
    rw [hd, h]
    decide
  case isFalse hd =>
    split
    · exact isAbsolute_append hd
    · rw [String.append_assoc]
      exact isAbsolute_append hd

/-- **The names of a path below a directory** are those of the directory and then its own. -/
theorem names_join (h : LeadsDown l) : names (join dir ("/".intercalate l)) = names dir ++ l := by
  rw [names_join_of_relative dir h.areNames.isAbsolute_intercalate, h.areNames.names_intercalate]

theorem isAbsolute_join (h : LeadsDown l) :
    isAbsolute (join dir ("/".intercalate l)) = isAbsolute dir :=
  isAbsolute_join_of_relative dir h.areNames.isAbsolute_intercalate

/-- Names that lead down give a path that is not empty. -/
theorem join_ne_empty (h : LeadsDown l) : join dir ("/".intercalate l) ≠ "" := by
  intro e
  have hn := names_join dir h
  rw [e, show names "" = [] by decide] at hn
  exact h.ne_nil (List.append_eq_nil_iff.mp hn.symm).2

theorem getLast?_join (h : LeadsDown l) :
    (join dir ("/".intercalate l)).toList.getLast? ≠ some '/' := by
  have hne : ("/".intercalate l).toList ≠ [] := fun e =>
    h.areNames.text_ne_empty h.ne_nil (String.toList_inj.mp e)
  have hlast : (join dir ("/".intercalate l)).toList.getLast? =
      ("/".intercalate l).toList.getLast? := by
    rw [join_of_relative dir h.areNames.isAbsolute_intercalate]
    split
    · rfl
    · split
      · rw [String.toList_append, List.getLast?_append_of_ne_nil _ hne]
      · rw [String.toList_append, List.getLast?_append_of_ne_nil _ hne]
  rw [hlast]
  exact h.areNames.getLast?_intercalate h.ne_nil

/-- The steps of a joined path are those of the directory and the names. -/
theorem steps_join (h : LeadsDown l) :
    Disk.steps (join dir ("/".intercalate l)) = names dir ++ l := by
  rw [Disk.steps, names_join dir h, if_neg (getLast?_join dir h), List.append_nil]

/-! ### The directories on the way -/

/-- The parts of a path are its names without the dots, but for a dot in front of a relative one. -/
theorem parts_eq (path : String) : parts path =
    if names path = [] then []
    else if (names path).head? = some "." ∧ isAbsolute path = false then
      "." :: (names path).filter (· ≠ ".")
    else (names path).filter (· ≠ ".") := by
  unfold parts
  split
  case h_1 rest hn =>
    by_cases ha : isAbsolute path = true
    · simp [hn, ha]
    · simp [hn, ha]
  case h_2 all hn =>
    cases hall : names path with
    | nil => simp
    | cons first rest =>
        have hf : first ≠ "." := fun e => hn rest (e ▸ hall)
        simp [hf]

/-- The parts of a joined path are those of the directory and the names. -/
theorem parts_join (h : LeadsDown l) : parts (join dir ("/".intercalate l)) = parts dir ++ l := by
  have hdots : l.filter (· ≠ ".") = l := by
    rw [List.filter_eq_self]
    intro name hn
    simpa using (isNormal_iff.mp (h.normal name hn)).2.1
  obtain ⟨first, rest, rfl⟩ := List.exists_cons_of_ne_nil h.ne_nil
  have hfirst : first ≠ "." := (isNormal_iff.mp (h.normal first List.mem_cons_self)).2.1
  rw [parts_eq, parts_eq, names_join dir h, isAbsolute_join dir h, List.filter_append, hdots]
  cases hd : names dir with
  | nil => simp [hfirst]
  | cons name more =>
      by_cases hn : name = "." ∧ isAbsolute dir = false
      · simp [hn]
      · simp [hn]

/-- The directory of a path below a directory. -/
theorem parent?_join (h : LeadsDown l) : parent? (join dir ("/".intercalate l)) =
    some (ofParts (isAbsolute dir) (parts dir ++ l.dropLast)) := by
  obtain ⟨front, last, rfl⟩ := List.eq_nil_or_concat' l |>.resolve_left h.ne_nil
  rw [parent?, parts_join dir h, isAbsolute_join dir h]
  simp

end

end Path

end ModuleDocs
