import ModuleDocs.Text.Blank
import Mathlib.Data.List.DropRight
import Mathlib.Data.List.TakeWhile

/-!
# Proofs — Runs and blanks

A reader takes characters of a kind for as long as they go on.  What it takes is known as soon as
one knows where the run ends.  Trimming takes the runs of blanks at the ends of a text.

* `takeWhile_run`, `dropWhile_run`: a run up to a text that does not go on with it.
* `ne_of_kind`: a kind keeps characters apart.
* `trimChars_append`, `exists_trimChars`: trimming takes blanks, and nothing but blanks.
* `trimChars_trimChars`: a text is trimmed once and for all.
* `trim_isEmpty`: a text is blank exactly if trimming leaves nothing of it.
-/

namespace ModuleDocs.Text

/-! ### Deciding about characters

What holds of the characters of a text is decided by going through the text, and not through all the
characters that there are. -/

section

variable (p : Char → Prop) [DecidablePred p]

instance decidableForallMem (cs : List Char) : Decidable (∀ c ∈ cs, p c) := List.decidableBAll p cs

instance decidableExistsMem (cs : List Char) : Decidable (∃ c ∈ cs, p c) := List.decidableBEx p cs

instance decidableForallMemOption (o : Option Char) : Decidable (∀ c ∈ o, p c) :=
  Option.decidableForallMem o

instance decidableExistsMemOption (o : Option Char) : Decidable (∃ c ∈ o, p c) :=
  Option.decidableExistsMem o

end

/-! ### Runs -/

section

variable {p : Char → Bool} {run rest : List Char}

/-- A character of a kind is none that is not of the kind. -/
theorem ne_of_kind {c d : Char} (hc : p c = true) (hd : p d = false) : c ≠ d := by
  rintro rfl
  exact Bool.false_ne_true (hd ▸ hc)

theorem forall_head_cons {P : Char → Prop} {c : Char} {cs : List Char} (h : P c) :
    ∀ d ∈ (c :: cs).head?, P d := by
  rintro _ ⟨⟩
  exact h

/-- Dropping a run leaves what stands behind it. -/
theorem dropWhile_run (hrun : ∀ c ∈ run, p c = true) (hrest : ∀ c ∈ rest.head?, p c = false) :
    (run ++ rest).dropWhile p = rest := by
  rw [List.dropWhile_append_of_pos hrun]
  cases rest with
  | nil => rfl
  | cons c rest => exact List.dropWhile_cons_of_neg (by simp [hrest c rfl])

/-- Taking a run takes it whole, and nothing more. -/
theorem takeWhile_run (hrun : ∀ c ∈ run, p c = true) (hrest : ∀ c ∈ rest.head?, p c = false) :
    (run ++ rest).takeWhile p = run := by
  rw [List.takeWhile_append_of_pos hrun]
  cases rest with
  | nil => exact List.append_nil run
  | cons c rest => rw [List.takeWhile_cons_of_neg (by simp [hrest c rfl]), List.append_nil]

end

/-! ### Blanks at the ends -/

theorem trimRight_eq (cs : List Char) : trimRight cs = cs.rdropWhile isBlank := rfl

/-- What is left after trimming starts with no blank. -/
theorem trimLeft_trimChars (cs : List Char) : trimLeft (trimChars cs) = trimChars cs := by
  -- it is the start of a text without the blanks in front
  have hp : trimChars cs <+: trimLeft cs := List.rdropWhile_prefix isBlank (trimLeft cs)
  refine List.dropWhile_eq_self_iff.mpr fun hl hb => ?_
  have hl' : 0 < (trimLeft cs).length := Nat.lt_of_lt_of_le hl hp.length_le
  refine List.dropWhile_get_zero_not isBlank cs hl' ?_
  rwa [hp.getElem hl] at hb

/-- A text is trimmed once and for all. -/
theorem trimChars_trimChars (cs : List Char) : trimChars (trimChars cs) = trimChars cs := by
  rw [trimChars, trimLeft_trimChars, trimChars, trimRight_eq, trimRight_eq,
    List.rdropWhile_idempotent]

@[simp] theorem trim_trim (s : String) : trim (trim s) = trim s := by
  rw [trim, trim, String.toList_ofList, trimChars_trimChars]

/-- Trimming leaves nothing of blanks, and of nothing else. -/
theorem trimChars_eq_nil_iff {cs : List Char} : trimChars cs = [] ↔ ∀ c ∈ cs, isBlank c = true := by
  have hright : trimChars cs = [] ↔ ∀ c ∈ trimLeft cs, isBlank c = true :=
    List.rdropWhile_eq_nil_iff
  rw [hright]
  constructor
  · intro h c hc
    rw [← List.takeWhile_append_dropWhile (p := isBlank) (l := cs)] at hc
    rcases List.mem_append.mp hc with hc | hc
    · exact List.mem_takeWhile_imp hc
    · exact h c hc
  · exact fun h c hc => h c ((List.dropWhile_sublist isBlank).subset hc)

/-- Trimming leaves nothing of a blank text, and something of any other. -/
theorem trim_isEmpty (s : String) : (trim s).isEmpty = allBlank s := by
  rw [Bool.eq_iff_iff, String.isEmpty_iff, allBlank, List.all_eq_true, ← trimChars_eq_nil_iff, trim,
    ← String.toList_inj, String.toList_ofList, String.toList_empty]

section

variable {front cs back : List Char}

theorem trimLeft_append (h : ∀ c ∈ front, isBlank c = true) (cs : List Char) :
    trimLeft (front ++ cs) = trimLeft cs :=
  List.dropWhile_append_of_pos h

theorem trimRight_append (h : ∀ c ∈ back, isBlank c = true) (cs : List Char) :
    trimRight (cs ++ back) = trimRight cs := by
  rw [trimRight, List.reverse_append,
    List.dropWhile_append_of_pos fun c hc => h c (List.mem_reverse.mp hc), trimRight]

/-- A text that starts with no blank keeps its start. -/
theorem trimLeft_eq_self (h : ∀ c ∈ cs.head?, isBlank c = false) : trimLeft cs = cs := by
  cases cs with
  | nil => rfl
  | cons c cs => exact List.dropWhile_cons_of_neg (by simp [h c rfl])

/-- A text without a blank at its end keeps it, and what stands behind it is trimmed alone. -/
theorem trimRight_append_of_solid (hne : front ≠ []) (h : ∀ c ∈ front, isBlank c = false)
    (cs : List Char) : trimRight (front ++ cs) = front ++ trimRight cs := by
  have hfront : front.reverse.dropWhile isBlank = front.reverse := by
    cases hr : front.reverse with
    | nil => exact absurd (List.reverse_eq_nil_iff.mp hr) hne
    | cons c rest =>
        have hc : c ∈ front := List.mem_reverse.mp (hr ▸ List.mem_cons_self)
        exact List.dropWhile_cons_of_neg (by simp [h c hc])
  rw [trimRight, List.reverse_append, List.dropWhile_append, trimRight]
  split
  case isTrue hall =>
      rw [List.isEmpty_iff] at hall
      rw [hfront, hall, List.reverse_reverse, List.reverse_nil, List.append_nil]
  case isFalse => rw [List.reverse_append, List.reverse_reverse]

/-- Blanks around a text make no difference to what trimming leaves. -/
theorem trimChars_append (h : ∀ c ∈ front, isBlank c = true) (h' : ∀ c ∈ back, isBlank c = true)
    (cs : List Char) : trimChars (front ++ cs ++ back) = trimChars cs := by
  rw [trimChars, List.append_assoc, trimLeft_append h, trimChars, trimLeft, List.dropWhile_append]
  split
  case isTrue hall =>
      rw [List.isEmpty_iff] at hall
      rw [trimLeft, hall, ← List.append_nil (List.dropWhile _ _), List.dropWhile_eq_nil_iff.mpr h']
      rfl
  case isFalse => rw [trimRight_append h', trimLeft]

theorem trimChars_trimRight (cs : List Char) : trimChars (trimRight cs) = trimChars cs := by
  have h := trimChars_append (List.forall_mem_nil _)
    (fun c (hc : c ∈ cs.rtakeWhile isBlank) => List.mem_rtakeWhile_imp hc) (trimRight cs)
  rwa [List.nil_append, trimRight_eq, List.rdropWhile_append_rtakeWhile, eq_comm] at h

/-- Only blanks have been taken from a text, and none is left at either end. -/
theorem exists_trimChars (cs : List Char) : ∃ front back, (∀ c ∈ front, isBlank c = true) ∧
    (∀ c ∈ back, isBlank c = true) ∧ cs = front ++ trimChars cs ++ back := by
  refine ⟨cs.takeWhile isBlank, (trimLeft cs).rtakeWhile isBlank, fun c => List.mem_takeWhile_imp,
    fun c => List.mem_rtakeWhile_imp, ?_⟩
  rw [List.append_assoc, trimChars, trimRight_eq, List.rdropWhile_append_rtakeWhile, trimLeft,
    List.takeWhile_append_dropWhile]

/-- A trimmed text starts with no blank. -/
theorem head?_trimChars (cs : List Char) : ∀ c ∈ (trimChars cs).head?, isBlank c = false := by
  intro c hc
  rw [← trimLeft_trimChars, trimLeft, Option.mem_def] at hc
  simpa [hc] using List.head?_dropWhile_not isBlank (trimChars cs)

/-- A trimmed text ends with no blank. -/
theorem getLast?_trimChars (cs : List Char) :
    ∀ c ∈ (trimChars cs).getLast?, isBlank c = false := by
  intro c hc
  rw [trimChars, trimRight, List.getLast?_reverse, Option.mem_def] at hc
  simpa [hc] using List.head?_dropWhile_not isBlank (trimLeft cs).reverse

end

end ModuleDocs.Text
