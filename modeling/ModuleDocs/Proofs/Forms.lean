import ModuleDocs.Proofs.Skipping

/-!
# Proofs — Forms of values

Which texts present a value: a record as an object or as a list of its fields, in any order, with
fields under any of their names, with others between them that nobody asked for.

* `Form α`: the texts that present a value of `α`, and those that would but for fields that they
  mention again.  `Form.text`, `Form.flag`, `Form.optional`, `Form.list`, `Form.choice`,
  `Form.record` make the forms of larger values from those of smaller ones.
* `Slot σ`: a field of a record, with its names, its default and the form of its value.
* `ReadsForm read form`: the reader takes every text of the form for the value that it presents, and
  reports a field that is mentioned again.  It is so of the readers of strings, flags and choices,
  and of those of optional values and lists whose elements have such a reader.
-/

namespace ModuleDocs.Json

/-! ### Forms -/

/-- The texts of the values of a type. -/
structure Form (α : Type) where
  /-- The text presents the value. -/
  presents : α → Input → Prop
  /-- The text is of the form but for fields that an object mentions again, one of which has this
  name. -/
  repeats : String → Input → Prop

/-- The text is of the form, but for fields that are mentioned again. -/
def Form.Shaped {α : Type} (form : Form α) (t : Input) : Prop :=
  (∃ a, form.presents a t) ∨ ∃ name, form.repeats name t

namespace Form

variable {α : Type}

/-- A string. -/
def text : Form String where
  presents := StringText
  repeats _ _ := False

/-- `true` or `false`. -/
def flag : Form Bool where
  presents b t := t = if b then ['t', 'r', 'u', 'e'] else ['f', 'a', 'l', 's', 'e']
  repeats _ _ := False

/-- `null` or a value. -/
def optional (form : Form α) : Form (Option α) where
  presents a t :=
    match a with
    | none => t = ['n', 'u', 'l', 'l']
    | some a => form.presents a t
  repeats := form.repeats

/-- A list of values. -/
def list (form : Form α) : Form (List α) where
  presents as t := ∃ ts u, List.Forall₂ form.presents as ts ∧ Items true ts u ∧ t = bracketed u
  repeats name t := ∃ ts u, (∀ t' ∈ ts, form.Shaped t') ∧ (∃ t' ∈ ts, form.repeats name t') ∧
    Items true ts u ∧ t = bracketed u

/-- A choice that goes by some names: one of them as a string, or as the only key of an object with
`null` for its value. -/
def choice (goesBy : α → String → Prop) : Form α where
  presents a t := ∃ name, goesBy a name ∧
    (StringText name t ∨
      ∃ u, Members StringText true [(name, ['n', 'u', 'l', 'l'])] u ∧ t = braced u)
  repeats _ _ := False

end Form

/-! ### Records -/

/-- A field of a record: its name and further names, the value that it has when it is left out, if
it may be, and the form of its value. -/
structure Slot (σ : Type) where
  {α : Type}
  name : String
  aliases : List String := []
  default : Option α
  get : σ → α
  form : Form α

namespace Slot

variable {σ : Type}

/-- The key is a name of the field. -/
def GoesBy (slot : Slot σ) (key : String) : Prop := key ∈ slot.name :: slot.aliases

instance (slot : Slot σ) (key : String) : Decidable (slot.GoesBy key) :=
  inferInstanceAs (Decidable (_ ∈ _))

/-- How many of the members mention the field. -/
def times (slot : Slot σ) (ms : List (String × Input)) : Nat := ms.countP fun m => slot.GoesBy m.1

end Slot

variable {σ : Type}

/-- The member shows the field that goes by its key, or has any value if none does. -/
structure Fits (slots : List (Slot σ)) (Shows : Slot σ → Input → Prop) (m : String × Input) :
    Prop where
  known : ∀ slot ∈ slots, slot.GoesBy m.1 → Shows slot m.2
  unknown : (∀ slot ∈ slots, ¬ slot.GoesBy m.1) → IsValue m.2

/-- The text presents the record. -/
inductive RecordText (slots : List (Slot σ)) (r : σ) : Input → Prop where
  /-- As an object that mentions no field again and leaves out only what has its default. -/
  | object {ms : List (String × Input)} {u : Input} :
      (∀ m ∈ ms, Fits slots (fun slot => slot.form.presents (slot.get r)) m) →
      (∀ slot ∈ slots, slot.times ms ≤ 1) →
      (∀ slot ∈ slots, slot.times ms = 0 → slot.default = some (slot.get r)) →
      Members StringText true ms u → RecordText slots r (braced u)
  /-- As a list of the fields in their order, without those behind that have their defaults. -/
  | positions {ts : List Input} {u : Input} : ts.length ≤ slots.length →
      (∀ p ∈ slots.zip ts, p.1.form.presents (p.1.get r) p.2) →
      (∀ slot ∈ slots.drop ts.length, slot.default = some (slot.get r)) →
      Items true ts u → RecordText slots r (bracketed u)

/-- The text would present a record if no object mentioned a field again, one of which has the name:
the object that the text is, or one further in. -/
inductive RecordRepeats (slots : List (Slot σ)) (name : String) : Input → Prop where
  | object {ms : List (String × Input)} {u : Input} :
      (∀ m ∈ ms, Fits slots (fun slot => slot.form.Shaped) m) →
      (∀ slot ∈ slots, slot.times ms = 0 → slot.default.isSome = true) →
      ((∃ slot ∈ slots, slot.name = name ∧ 2 ≤ slot.times ms) ∨
        ∃ m ∈ ms, ∃ slot ∈ slots, slot.GoesBy m.1 ∧ slot.form.repeats name m.2) →
      Members StringText true ms u → RecordRepeats slots name (braced u)
  | positions {ts : List Input} {u : Input} : ts.length ≤ slots.length →
      (∀ p ∈ slots.zip ts, p.1.form.Shaped p.2) →
      (∀ slot ∈ slots.drop ts.length, slot.default.isSome = true) →
      (∃ p ∈ slots.zip ts, p.1.form.repeats name p.2) →
      Items true ts u → RecordRepeats slots name (bracketed u)

/-- A record with the given fields. -/
def Form.record (slots : List (Slot σ)) : Form σ where
  presents := RecordText slots
  repeats := RecordRepeats slots

/-! ### Readers of forms -/

variable {α : Type}

/-- The reader takes a text of the form for the value that it presents, and leaves what follows; of
a text that mentions fields again it reports such a field. -/
structure ReadsForm (read : Reader α) (form : Form α) : Prop where
  opens : ∀ {t}, form.Shaped t → Opens t
  value : ∀ {a t s rest}, form.presents a t → skipSpace s = t ++ rest → read s = .ok (a, rest)
  again : ∀ {name t s rest}, form.repeats name t → skipSpace s = t ++ rest →
    ∃ n, form.repeats n t ∧ read s = .error (.duplicateField n)

/-- A string starts with its quotes. -/
theorem StringText.opens {s : String} {t : Input} (h : StringText s t) : Opens t := by
  obtain ⟨u, -, rfl⟩ := h
  exact ⟨'"', _, rfl, by decide⟩

theorem opens_bracketed (u : Input) : Opens (bracketed u) := ⟨'[', _, rfl, by decide⟩

theorem opens_braced (u : Input) : Opens (braced u) := ⟨'\x7b', _, rfl, by decide⟩

/-- A record stands between brackets of one kind or the other. -/
theorem record_shaped {slots : List (Slot σ)} {t : Input} (h : (Form.record slots).Shaped t) :
    ∃ u, t = braced u ∨ t = bracketed u := by
  rcases h with ⟨r, h⟩ | ⟨name, h⟩ <;> cases h
  · exact ⟨_, .inl rfl⟩
  · exact ⟨_, .inr rfl⟩
  · exact ⟨_, .inl rfl⟩
  · exact ⟨_, .inr rfl⟩

/-- Texts are read in the form of strings. -/
theorem reads_text : ReadsForm readText .text where
  opens := by
    rintro t (⟨s, h⟩ | ⟨_, ⟨⟩⟩)
    exact StringText.opens h
  value := by
    rintro text t s rest ⟨u, hu, rfl⟩ hs
    rw [List.cons_append, List.append_assoc, List.singleton_append] at hs
    simp only [readText, hs, readString_chars hu]
  again := nofun

/-- Flags are read in their two forms. -/
theorem reads_flag : ReadsForm readFlag .flag where
  opens := by
    rintro t (⟨b, rfl⟩ | ⟨_, ⟨⟩⟩)
    cases b <;> exact ⟨_, _, rfl, by decide⟩
  value := by
    rintro b t s rest rfl hs
    cases b <;> simp only [readFlag, hs] <;> rfl
  again := nofun

/-- A choice is read under every name that it goes by. -/
theorem reads_choice {choose : String → α} {goesBy : α → String → Prop}
    (h : ∀ a name, goesBy a name → choose name = a) :
    ReadsForm (readChoice choose) (.choice goesBy) where
  opens := by
    rintro t (⟨a, name, -, ht | ⟨u, -, rfl⟩⟩ | ⟨_, ⟨⟩⟩)
    · exact ht.opens
    · exact opens_braced u
  value := by
    rintro a t s rest ⟨name, ha, ⟨u, hu, rfl⟩ | ⟨u, hu, rfl⟩⟩ hs
    · rw [List.cons_append, List.append_assoc, List.singleton_append] at hs
      simp only [readChoice, hs, readString_chars hu, bind, Except.bind, h a name ha]
    · obtain _ | ⟨⟨hw⟩, ⟨v, hv, rfl⟩, hw₁, hw₂, ⟨hw'⟩⟩ := hu
      simp only [braced, List.cons_append, List.append_assoc, List.nil_append] at hs
      simp only [readChoice, hs, skipSpace_append hw, skipSpace_append hw₂, readString_chars hv,
        colon_colon hw₁, skipSpace_cons (show isSpace '"' = false by decide),
        skipSpace_cons (show isSpace 'n' = false by decide), readWord, if_true,
        skipSpace_append hw', skipSpace_cons (show isSpace '\x7d' = false by decide), bind,
        Except.bind, h a name ha]
  again := nofun

/-- No text of the form could be taken for `null`. -/
def Form.NotNull (form : Form α) : Prop := ∀ t, form.Shaped t → t.head? ≠ some 'n'

theorem notNull_text : Form.text.NotNull := by
  rintro t (⟨s, u, -, rfl⟩ | ⟨_, ⟨⟩⟩)
  rw [List.head?_cons]
  decide

theorem notNull_flag : Form.flag.NotNull := by
  rintro t (⟨b, rfl⟩ | ⟨_, ⟨⟩⟩)
  cases b <;> decide

/-- A record is never spelled as `null`. -/
theorem notNull_record (slots : List (Slot σ)) : (Form.record slots).NotNull := by
  intro t h
  obtain ⟨u, rfl | rfl⟩ := record_shaped h
  · rw [braced, List.head?_cons]
    decide
  · rw [bracketed, List.head?_cons]
    decide

/-- What does not start as `null` is read as a value. -/
theorem readOptional_eq {read : Reader α} {t s rest : Input} (hnull : t.head? ≠ some 'n')
    (ht : Opens t) (hs : skipSpace s = t ++ rest) :
    readOptional read s = (read (t ++ rest)).map fun p => (some p.1, p.2) := by
  obtain ⟨c, u, rfl, -⟩ := ht
  rw [readOptional, hs, List.cons_append]
  split
  case h_1 hc => exact absurd (congrArg some (List.cons.inj hc).1) hnull
  case h_2 => cases read (c :: (u ++ rest)) <;> rfl

/-- A reader for a form reads it where it may be left out, too. -/
theorem ReadsForm.optional {read : Reader α} {form : Form α} (h : ReadsForm read form)
    (hnull : form.NotNull) : ReadsForm (readOptional read) form.optional where
  opens := by
    rintro t (⟨_ | a, ht⟩ | ht)
    · obtain rfl : t = ['n', 'u', 'l', 'l'] := ht
      exact ⟨_, _, rfl, by decide⟩
    · exact h.opens (.inl ⟨a, ht⟩)
    · exact h.opens (.inr ht)
  value := by
    rintro (_ | a) t s rest ht hs
    · obtain rfl : t = ['n', 'u', 'l', 'l'] := ht
      simp only [readOptional, hs]
      rfl
    · have hr : read (t ++ rest) = .ok (a, rest) :=
        h.value ht ((h.opens (.inl ⟨a, ht⟩)).skipSpace_append rest)
      rw [readOptional_eq (hnull t (.inl ⟨a, ht⟩)) (h.opens (.inl ⟨a, ht⟩)) hs, hr]
      rfl
  again := by
    intro name t s rest ht hs
    have hopens : Opens t := h.opens (.inr ⟨name, ht⟩)
    obtain ⟨n, hn, hr⟩ := h.again ht (hopens.skipSpace_append rest)
    refine ⟨n, hn, ?_⟩
    rw [readOptional_eq (hnull t (.inr ⟨name, ht⟩)) hopens hs, hr]
    rfl

/-! ### Lists -/

/-- A list is at least as long as it has items, so that its length is fuel enough. -/
theorem Items.length_le {first : Bool} {ts : List Input} {u : Input} (h : Items first ts u)
    (hopens : ∀ t ∈ ts, Opens t) : ts.length ≤ u.length := by
  induction h with
  | nil => exact Nat.zero_le _
  | @cons _ _ t u ts _ _ ih =>
      obtain ⟨c, v, rfl, -⟩ := hopens t List.mem_cons_self
      have := ih fun t' ht' => hopens t' (List.mem_cons_of_mem _ ht')
      simp only [List.length_cons, List.length_append]
      omega

section

variable {read : Reader α} {form : Form α}

/-- The elements are read one after the other, up to the blanks before the end of the list. -/
theorem readItems_presents (h : ReadsForm read form) {first : Bool} {as : List α} {ts : List Input}
    {u : Input} (hu : Items first ts u) (has : List.Forall₂ form.presents as ts) {fuel : Nat}
    (hf : ts.length < fuel) (s : Input) :
    ∃ w, Spaces w ∧ readItems read fuel first (u ++ ']' :: s) = .ok (as, w ++ ']' :: s) := by
  induction hu generalizing as fuel with
  | @nil _ w hw =>
      cases has
      obtain ⟨fuel, rfl⟩ := Nat.exists_eq_succ_of_ne_zero (Nat.ne_of_gt hf)
      refine ⟨w, hw, ?_⟩
      simp only [readItems, itemStart_end hw]
      rfl
  | @cons first w t u ts hg _ ih =>
      obtain _ | @⟨a, _, as, _, ha, has⟩ := has
      obtain ⟨fuel, rfl⟩ := Nat.exists_eq_succ_of_ne_zero (Nat.ne_of_gt (Nat.zero_lt_of_lt hf))
      obtain ⟨w', hw', hr⟩ := ih has (Nat.lt_of_succ_lt_succ hf)
      refine ⟨w', hw', ?_⟩
      have hopens : Opens t := h.opens (.inl ⟨a, ha⟩)
      have hv : read (t ++ (u ++ ']' :: s)) = .ok (a, u ++ ']' :: s) :=
        h.value ha (hopens.skipSpace_append _)
      simp only [readItems, List.append_assoc, itemStart_opens hg hopens, hv, hr, bind, Except.bind]

/-- The first element that mentions a field again ends the reading. -/
theorem readItems_repeats (h : ReadsForm read form) {first : Bool} {ts : List Input} {u : Input}
    (hu : Items first ts u) (hts : ∀ t ∈ ts, form.Shaped t)
    (hrep : ∃ t ∈ ts, ∃ name, form.repeats name t) {fuel : Nat} (hf : ts.length < fuel)
    (s : Input) :
    ∃ n, (∃ t ∈ ts, form.repeats n t) ∧
      readItems read fuel first (u ++ ']' :: s) = .error (.duplicateField n) := by
  induction hu generalizing fuel with
  | nil =>
      obtain ⟨_, ht, -⟩ := hrep
      cases ht
  | @cons first w t u ts hg _ ih =>
      obtain ⟨fuel, rfl⟩ := Nat.exists_eq_succ_of_ne_zero (Nat.ne_of_gt (Nat.zero_lt_of_lt hf))
      have ht : form.Shaped t := hts t List.mem_cons_self
      have hopens : Opens t := h.opens ht
      by_cases hrt : ∃ name, form.repeats name t
      · obtain ⟨name, hname⟩ := hrt
        obtain ⟨n, hn, hr⟩ := h.again hname (hopens.skipSpace_append (u ++ ']' :: s))
        refine ⟨n, ⟨t, List.mem_cons_self, hn⟩, ?_⟩
        simp only [readItems, List.append_assoc, itemStart_opens hg hopens, hr, bind, Except.bind]
      · obtain ⟨a, ha⟩ := ht.resolve_right hrt
        obtain ⟨t', ht', hrep'⟩ := hrep
        rcases List.mem_cons.mp ht' with rfl | ht'
        · exact absurd hrep' hrt
        obtain ⟨n, ⟨t'', ht'', hn⟩, hr⟩ := ih (fun t hmem => hts t (List.mem_cons_of_mem _ hmem))
          ⟨t', ht', hrep'⟩ (Nat.lt_of_succ_lt_succ hf)
        refine ⟨n, ⟨t'', List.mem_cons_of_mem _ ht'', hn⟩, ?_⟩
        have hv : read (t ++ (u ++ ']' :: s)) = .ok (a, u ++ ']' :: s) :=
          h.value ha (hopens.skipSpace_append _)
        simp only [readItems, List.append_assoc, itemStart_opens hg hopens, hv, hr, bind,
          Except.bind]

/-- **A reader for a form reads lists of it.** -/
theorem ReadsForm.list (h : ReadsForm read form) : ReadsForm (readList read) form.list where
  opens := by
    rintro t (⟨as, ts, u, -, -, rfl⟩ | ⟨_, ts, u, -, -, -, rfl⟩) <;> exact opens_bracketed u
  value := by
    rintro as t s rest ⟨ts, u, has, hu, rfl⟩ hs
    have hopens : ∀ t ∈ ts, Opens t := by
      clear hu hs
      induction has with
      | nil => nofun
      | cons ha _ ih => exact List.forall_mem_cons.mpr ⟨h.opens (.inl ⟨_, ha⟩), ih⟩
    have hf : ts.length < (u ++ ']' :: rest).length + 1 := by
      have hlen := hu.length_le hopens
      simp only [List.length_append]
      omega
    obtain ⟨w, hw, hr⟩ := readItems_presents h hu has hf rest
    simp only [bracketed, List.cons_append, List.append_assoc, List.nil_append] at hs
    simp only [readList, hs, hr, listEnd_end hw, bind, Except.bind]
  again := by
    rintro name t s rest ⟨ts, u, hts, ⟨t', ht', hrep⟩, hu, rfl⟩ hs
    have hf : ts.length < (u ++ ']' :: rest).length + 1 := by
      have hlen := hu.length_le fun t ht => h.opens (hts t ht)
      simp only [List.length_append]
      omega
    obtain ⟨n, hn, hr⟩ := readItems_repeats h hu hts ⟨t', ht', name, hrep⟩ hf rest
    simp only [bracketed, List.cons_append, List.append_assoc, List.nil_append] at hs
    refine ⟨n, ⟨ts, u, hts, hn, hu, rfl⟩, ?_⟩
    simp only [readList, hs, hr, bind, Except.bind]

end

end ModuleDocs.Json
