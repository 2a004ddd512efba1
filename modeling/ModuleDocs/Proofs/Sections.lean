import ModuleDocs.Proofs.Paths
import ModuleDocs.Proofs.QuotedTexts
import ModuleDocs.Toml.Reader

/-!
# Proofs — Sections of settings

A document of settings is read back as the printer has got it.  The printer writes a setting on a
line, or a list over several lines, and a section under the line of its header; the reader takes
lines for as long as it has steps left, and fills the table that the last header has opened.

Values are told apart by their first character (`startsScalar`), and they end where a line, a list
or an item of a list does (`Ends`), so that a number is never taken for a date and a word never goes
on.  Between values, a reader skips blanks and line ends up to what is `Solid`.

A reader's place in a document is a `Cursor`, and one place `Leads` to another if the reader gets
there and is left with steps enough.  Each kind of line is one such move (`leads_blank`,
`leads_setting`, `leads_header`); moves compose, and runs of them pass the settings of a table
(`leads_settings`), a section (`leads_section`) and all sections (`leads_sections`).

* `scalar?_printScalar`, `value?_printValue`: a value is read back, whatever ends it.
* `read?_print`: a document is read back.
-/

namespace ModuleDocs.Toml

/-! ### Numbers -/

/-- A number is written in digits. -/
theorem isDigit_toDigits {n : Nat} : ∀ c ∈ Nat.toDigits 10 n, c.isDigit = true :=
  fun _ hc => Nat.isDigit_of_mem_toDigits (by decide) (by decide) hc

/-- A number is the value of its digits. -/
theorem digitsValue_toDigits (n : Nat) : Text.digitsValue 10 (Nat.toDigits 10 n) = n := by
  have hvalue : ∀ c ∈ Nat.toDigits 10 n, (Text.hexValue? c).getD 0 = c.toNat - '0'.toNat := by
    intro c hc
    have hdigit := isDigit_toDigits c hc
    simp only [Char.isDigit, Bool.and_eq_true, decide_eq_true_eq] at hdigit
    have hrange : '0' ≤ c ∧ c ≤ '9' := hdigit
    simp [Text.hexValue?, hrange]
  calc Text.digitsValue 10 (Nat.toDigits 10 n)
      = Nat.ofDigitChars 10 (Nat.toDigits 10 n) 0 := by
        rw [Text.digitsValue, Nat.ofDigitChars_eq_foldl]
        refine List.foldl_ext _ _ 0 fun m c hc => ?_
        rw [hvalue c hc, Nat.mul_comm]
    _ = n := Nat.ofDigitChars_ten_toDigits

/-- A number but zero does not start with a zero. -/
theorem head?_toDigits {n : Nat} (hn : 0 < n) : (Nat.toDigits 10 n).head? ≠ some '0' := by
  induction n using Nat.strongRecOn with
  | ind n ih =>
    by_cases h : n < 10
    · have hdigit : ∀ m < 10, 0 < m → Nat.digitChar m ≠ '0' := by decide
      simpa [Nat.toDigits_of_lt_base h] using hdigit n h hn
    · rw [Nat.toDigits_of_base_le (by decide) (by omega),
        List.head?_append_of_ne_nil _ Nat.toDigits_ne_nil]
      exact ih (n / 10) (by omega) (by omega)

theorem wholeDigits?_toDigits (n : Nat) :
    wholeDigits? (Nat.toDigits 10 n) = some (Nat.toDigits 10 n) := by
  have hzero : ¬ ((Nat.toDigits 10 n).head? = some '0' ∧ 1 < (Nat.toDigits 10 n).length) := by
    rintro ⟨hhead, hlength⟩
    rcases Nat.eq_zero_or_pos n with rfl | hn
    · simp at hlength
    · exact head?_toDigits hn hhead
  have hsplit : Text.splitChars '_' (Nat.toDigits 10 n) = [Nat.toDigits 10 n] := by
    rw [Text.splitChars_eq_splitOn]
    exact List.splitOn_eq_singleton Nat.underscore_not_in_toDigits
  have hdigits : (Nat.toDigits 10 n).all Char.isDigit = true :=
    List.all_eq_true.2 isDigit_toDigits
  rw [wholeDigits?, if_neg (by simpa using hzero), joinedDigits?, hsplit]
  simp [hdigits]

/-- **A number is read back,** if it is in range. -/
theorem integer?_toDigits {n : Nat} (hn : n < Nat.pow 2 63) :
    integer? (Nat.toDigits 10 n) = some (n : Int) := by
  have hdigits := isDigit_toDigits (n := n)
  have hsign : splitSign (Nat.toDigits 10 n) = (false, Nat.toDigits 10 n) := by
    unfold splitSign
    split <;> simp_all
  unfold integer?
  split
  case h_4 =>
    have hbound : n < 9223372036854775808 := hn
    simp only [Nat.pow_eq, Nat.reducePow, Int.cast_ofNat_Int, Int.reduceNeg, hsign,
      Bool.false_eq_true, ↓reduceIte, wholeDigits?_toDigits, Option.map_some, digitsValue_toDigits,
      Option.filter_eq_some_iff, Int.neg_ofNat_le_natCast, decide_true, Bool.true_and,
      decide_eq_true_eq, true_and]
    omega
  all_goals simp_all

/-! ### Scalars -/

/-- What may follow a value. -/
def Ends (rest : List Char) : Prop := ∀ c ∈ rest.head?, c = '\n' ∨ c = ',' ∨ c = ']'

theorem Ends.cons {c : Char} (h : c = '\n' ∨ c = ',' ∨ c = ']') (rest : List Char) :
    Ends (c :: rest) := by
  simpa [Ends] using h

theorem Ends.forall {p : Char → Prop} {rest : List Char} (h : Ends rest) (hline : p '\n')
    (hcomma : p ',') (hbracket : p ']') : ∀ c ∈ rest.head?, p c := by
  intro c hc
  rcases h c hc with rfl | rfl | rfl <;> assumption

theorem text?_eq_none {cs : List Char} (h : ∀ d ∈ cs.head?, d ≠ '"' ∧ d ≠ '\'') :
    text? cs = none := by
  have hd : ∀ r, cs ≠ '"' :: r := fun r e => (h '"' (by simp [e])).1 rfl
  have hs : ∀ r, cs ≠ '\'' :: r := fun r e => (h '\'' (by simp [e])).2 rfl
  rw [text?_of_not_three (fun r => hd _) fun r => hs _]
  unfold lineText?
  split
  · exact absurd rfl (hd _)
  · exact absurd rfl (hs _)
  · rfl

/-- Digits that are counted out of a number end in it. -/
theorem fixedNumber?_digits {ds rest r : List Char} {w m : Nat} (hrest : Ends rest)
    (h : fixedNumber? w (ds ++ rest) = some (m, r)) : r = ds.drop w ++ rest := by
  simp only [fixedNumber?] at h
  split_ifs at h with hall
  simp only [Bool.and_eq_true, decide_eq_true_eq, List.all_eq_true] at hall
  obtain ⟨hlength, hdigits⟩ := hall
  have hle : w ≤ ds.length := by
    by_contra hlt
    cases rest with
    | nil =>
      simp only [List.append_nil, List.length_take] at hlength
      omega
    | cons c rest =>
      have hmem : c ∈ (ds ++ c :: rest).take w := by
        rw [List.take_append, show w - ds.length = (w - ds.length - 1) + 1 by omega]
        simp
      have hc := hdigits c hmem
      exact absurd hc (by rcases hrest c rfl with rfl | rfl | rfl <;> decide)
  obtain ⟨-, rfl⟩ : _ ∧ _ := by simpa using h
  rw [List.drop_append_of_le_length hle]

theorem behindChar?_eq_none {mark : Char} {cs : List Char} (h : ∀ c ∈ cs.head?, c ≠ mark) :
    behindChar? mark cs = none := by
  cases cs with
  | nil => rfl
  | cons c cs => exact if_neg (h c rfl)

/-- Neither a date nor a time starts with digits that end. -/
theorem behindMoment?_digits {ds rest : List Char} (hds : ∀ c ∈ ds, c.isDigit = true)
    (hrest : Ends rest) : behindMoment? (ds ++ rest) = none := by
  have hmark : ∀ (mark : Char) (w : Nat), mark = '-' ∨ mark = ':' →
      behindChar? mark (ds.drop w ++ rest) = none := by
    intro mark w hmark
    refine behindChar?_eq_none ?_
    cases hdrop : ds.drop w with
    | nil => rcases hmark with rfl | rfl <;> exact hrest.forall (by decide) (by decide) (by decide)
    | cons d t =>
      have hd : d.isDigit = true := hds d (List.mem_of_mem_drop (hdrop ▸ List.mem_cons_self))
      rintro c ⟨⟩ rfl
      rcases hmark with rfl | rfl <;> exact absurd hd (by decide)
  have hdate : behindDate? (ds ++ rest) = none := by
    unfold behindDate?
    cases h : fixedNumber? 4 (ds ++ rest) with
    | none => rfl
    | some p => simp [fixedNumber?_digits hrest h, hmark '-' 4 (.inl rfl)]
  have htime : behindTime? (ds ++ rest) = none := by
    unfold behindTime?
    cases h : fixedNumber? 2 (ds ++ rest) with
    | none => rfl
    | some p => simp [fixedNumber?_digits hrest h, hmark ':' 2 (.inr rfl)]
  simp [behindMoment?, hdate, htime]

/-- Neither a date nor a time starts with anything but a digit. -/
theorem behindMoment?_letter {c : Char} (hc : c.isDigit = false) (cs : List Char) :
    behindMoment? (c :: cs) = none := by
  have hnumber : ∀ w, fixedNumber? (w + 1) (c :: cs) = none := by simp [fixedNumber?, hc]
  have hdate : behindDate? (c :: cs) = none := by simp [behindDate?, hnumber]
  have htime : behindTime? (c :: cs) = none := by simp [behindTime?, hnumber]
  simp [behindMoment?, hdate, htime]

/-- A word is read up to its end. -/
theorem scalar?_word {word rest : List Char} {s : Scalar} (hrest : Ends rest)
    (hne : word ≠ []) (hword : ∀ c ∈ word, isWordChar c = true)
    (hmoment : behindMoment? (word ++ rest) = none) (hs : word? word = some s) :
    scalar? (word ++ rest) = some (.scalar () s, rest) := by
  have hrun : (word ++ rest).takeWhile isWordChar = word :=
    Text.takeWhile_run hword (hrest.forall (by decide) (by decide) (by decide))
  have htext : text? (word ++ rest) = none := by
    obtain ⟨c, t, rfl⟩ := List.exists_cons_of_ne_nil hne
    have hc := hword c List.mem_cons_self
    refine text?_eq_none ?_
    rintro d ⟨⟩
    exact ⟨Text.ne_of_kind hc (by decide), Text.ne_of_kind hc (by decide)⟩
  simp [scalar?, htext, hmoment, hrun, hs]

/-- A value that is neither a list nor a section and is in the range of a reader. -/
def IsScalar : Value → Prop
  | .bool _ | .text _ => True
  | .number n => n < Nat.pow 2 63
  | .list _ | .object _ => False

/-- What a reader makes of a value. -/
def scalarDatum : Value → Datum Unit
  | .bool b => .scalar () (.bool b)
  | .number n => .scalar () (.signed n)
  | .text s => .scalar () (.text s)
  | .list _ | .object _ => .table () []

/-- A scalar is read back. -/
theorem scalar?_printScalar {v : Value} (hv : IsScalar v) {rest : List Char} (hrest : Ends rest) :
    scalar? (printScalar v ++ rest) = some (scalarDatum v, rest) := by
  cases v with
  | bool b =>
    cases b <;>
      exact scalar?_word hrest (by decide) (List.all_eq_true.mp (by decide))
        (behindMoment?_letter (by decide) _) rfl
  | number n =>
    have hdigits : printScalar (.number n) = Nat.toDigits 10 n := by
      simp [printScalar, Nat.toString_eq_repr, Nat.toList_repr]
    -- no word of letters is a number
    have hnot : ∀ word : List Char, 'e' ∈ word → Nat.toDigits 10 n ≠ word := by
      rintro word he rfl
      exact absurd (isDigit_toDigits 'e' he) (by decide)
    rw [hdigits]
    refine scalar?_word hrest Nat.toDigits_ne_nil (fun c hc => ?_)
      (behindMoment?_digits isDigit_toDigits hrest) ?_
    · simp [isWordChar, Char.isAlphanum, isDigit_toDigits c hc]
    · rw [word?, if_neg (hnot _ (by decide)), if_neg (hnot _ (by decide)), integer?_toDigits hv]
  | text s =>
    have htext := text?_printText s (hrest.forall (by decide) (by decide) (by decide))
    simp [printScalar, scalar?, htext, scalarDatum]
  | list | object => exact hv.elim

/-! ### Values -/

/-- A character that starts a scalar. -/
def startsScalar (c : Char) : Bool := ['"', '\'', 't', 'f'].contains c || c.isDigit

/-- How a scalar starts. -/
theorem head_printScalar {v : Value} (hv : IsScalar v) :
    ∃ c t, printScalar v = c :: t ∧ startsScalar c = true := by
  cases v with
  | bool b => cases b <;> exact ⟨_, _, rfl, by decide⟩
  | number n =>
    obtain ⟨c, t, hct⟩ := List.exists_cons_of_ne_nil (Nat.toDigits_ne_nil (n := n) (b := 10))
    have hc := isDigit_toDigits c (hct ▸ List.mem_cons_self)
    refine ⟨c, t, ?_, by simp [startsScalar, hc]⟩
    simp [printScalar, Nat.toString_eq_repr, Nat.toList_repr, hct]
  | text s =>
    unfold printScalar printText
    dsimp only
    split_ifs <;> exact ⟨_, _, rfl, by decide⟩
  | list | object => exact hv.elim

/-- A reader looks for nothing in front of what stands here. -/
def Solid (cs : List Char) : Prop := ∀ c ∈ cs.head?, c ∉ [' ', '\t', '\n', '\r', '#']

/-- Indentation is skipped up to something solid. -/
theorem Solid.skipSpace {cs : List Char} (h : Solid cs) (k : Nat) :
    skipSpace (List.replicate k ' ' ++ cs) = cs := by
  refine Text.dropWhile_run (fun c hc => ?_) fun c hc => ?_
  · simp [List.eq_of_mem_replicate hc]
  · have := h c hc
    simp_all

theorem Solid.skipFiller {cs : List Char} (h : Solid cs) (k : Nat) :
    skipFiller (List.replicate k ' ' ++ cs).length (List.replicate k ' ' ++ cs) = some cs := by
  have hcomment : behindComment? cs = some cs := by
    unfold behindComment?
    split
    · exact absurd (h '#' rfl) (by decide)
    · rfl
  have hline : behindNewline? cs = none :=
    behindNewline?_eq_none fun c hc => by
      have := h c hc
      simp_all
  cases hn : (List.replicate k ' ' ++ cs).length with
  | zero =>
    have hnil := List.append_eq_nil_iff.1 (List.length_eq_zero_iff.1 hn)
    simp [Toml.skipFiller, hnil]
  | succ n => simp [Toml.skipFiller, h.skipSpace, hcomment, hline]

/-- The end of a line and an indentation are passed. -/
theorem Solid.skipFiller_line {cs : List Char} (h : Solid cs) (k : Nat) :
    Toml.skipFiller ('\n' :: (List.replicate k ' ' ++ cs)).length
      ('\n' :: (List.replicate k ' ' ++ cs)) = some cs := by
  have hspace : Toml.skipSpace ('\n' :: (List.replicate k ' ' ++ cs)) =
      '\n' :: (List.replicate k ' ' ++ cs) := by simp [Toml.skipSpace]
  rw [List.length_cons, Toml.skipFiller, hspace]
  exact h.skipFiller k

theorem Solid.cons {c : Char} (hc : c ∉ [' ', '\t', '\n', '\r', '#']) (cs : List Char) :
    Solid (c :: cs) := by
  rintro d ⟨⟩
  exact hc

/-- A text is solid if it starts with a character of a kind that leaves blanks out, and the mark of
a comment. -/
theorem Solid.of_kind {p : Char → Bool} (hp : [' ', '\t', '\n', '\r', '#'].all (!p ·) = true)
    {c : Char} (hc : p c = true) (cs : List Char) : Solid (c :: cs) := by
  refine .cons (fun hmem => ?_) cs
  have hnot := List.all_eq_true.mp hp c hmem
  simp [hc] at hnot

/-- A scalar is solid. -/
theorem solid_printScalar {v : Value} (hv : IsScalar v) (rest : List Char) :
    Solid (printScalar v ++ rest) := by
  obtain ⟨c, t, hct, hc⟩ := head_printScalar hv
  exact hct ▸ .of_kind (by decide) hc (t ++ rest)

/-- **A scalar is read back.** -/
theorem value?_printScalar {v : Value} (hv : IsScalar v) (depth : Nat) {rest : List Char}
    (hrest : Ends rest) :
    value? (depth + 1) (printScalar v ++ rest) = some (scalarDatum v, rest) := by
  rw [← scalar?_printScalar hv hrest]
  obtain ⟨c, t, hct, hc⟩ := head_printScalar hv
  have hbracket : c ≠ '[' := Text.ne_of_kind hc (by decide)
  have hbrace : c ≠ '\x7b' := Text.ne_of_kind hc (by decide)
  rw [hct, List.cons_append]
  simp [value?, hbracket, hbrace]

/-- A list goes on behind an item with a comma, and ends behind one with a bracket. -/
theorem items?_item {v : Value} (hv : IsScalar v) (depth n : Nat)
    (taken : List (Datum Unit)) {cs rest : List Char} {mark : Char}
    (hmark : mark = ',' ∨ mark = ']')
    (hfiller : skipFiller cs.length cs = some (printScalar v ++ mark :: rest)) :
    items? (value? (depth + 1)) (n + 1) taken cs =
      if mark = ',' then items? (value? (depth + 1)) n (scalarDatum v :: taken) rest
      else some ((scalarDatum v :: taken).reverse, rest) := by
  obtain ⟨c, t, hct, hc⟩ := head_printScalar hv
  have hclose : c ≠ ']' := Text.ne_of_kind hc (by decide)
  have hvalue := value?_printScalar hv depth (Ends.cons (.inr hmark) rest)
  have hbehind : skipFiller (mark :: rest).length (mark :: rest) = some (mark :: rest) :=
    (Solid.cons (by rcases hmark with rfl | rfl <;> decide) rest).skipFiller 0
  rw [List.length_cons] at hbehind
  rw [hct, List.cons_append] at hvalue hfiller
  rcases hmark with rfl | rfl <;> simp [items?, hfiller, hclose, hvalue, hbehind]

/-- The lines of the items of a list. -/
def itemLines (vs : List Value) : List Char :=
  '\n' :: vs.flatMap fun v => "    ".toList ++ printScalar v ++ [',', '\n']

/-- Each item stands on a line of its own. -/
theorem itemLines_cons (v : Value) (vs : List Value) :
    itemLines (v :: vs) =
      '\n' :: (List.replicate 4 ' ' ++ (printScalar v ++ ',' :: itemLines vs)) := by
  simp [itemLines, List.replicate_succ]

/-- There are at least as many characters as items, so that their number is fuel enough. -/
theorem length_le_itemLines (vs : List Value) : vs.length ≤ (itemLines vs).length := by
  induction vs with
  | nil => exact Nat.zero_le _
  | cons v vs ih =>
    simp only [itemLines_cons, List.length_cons, List.length_append]
    omega

/-- The items of a list that has a line for each are read back. -/
theorem items?_lines {vs : List Value} (hvs : ∀ v ∈ vs, IsScalar v) (depth : Nat)
    (rest : List Char) : ∀ (n : Nat) (taken : List (Datum Unit)), vs.length < n →
    items? (value? (depth + 1)) n taken (itemLines vs ++ ']' :: rest) =
      some (taken.reverse ++ vs.map scalarDatum, rest) := by
  induction vs with
  | nil =>
    intro n taken hn
    obtain ⟨n, rfl⟩ : ∃ m, n = m + 1 := ⟨n - 1, by omega⟩
    have hfiller := (Solid.cons (c := ']') (by decide) rest).skipFiller_line 0
    simp_all [items?, itemLines]
  | cons v vs ih =>
    intro n taken hn
    obtain ⟨n, rfl⟩ : ∃ m, n = m + 1 := ⟨n - 1, by omega⟩
    rw [List.forall_mem_cons] at hvs
    have hsolid := solid_printScalar hvs.1 (',' :: (itemLines vs ++ ']' :: rest))
    have hitem := items?_item hvs.1 depth n taken (.inl rfl) (hsolid.skipFiller_line 4)
    simp only [itemLines_cons, List.cons_append, List.append_assoc]
    rw [hitem, if_pos rfl, ih hvs.2 n _ (by simpa using hn)]
    simp

/-- A value of a setting: a scalar or a list of scalars. -/
def IsSetting : Value → Prop
  | .list vs => ∀ v ∈ vs, IsScalar v
  | v => IsScalar v

@[simp] theorem isSetting_bool (b : Bool) : IsSetting (.bool b) := trivial

@[simp] theorem isSetting_text (s : String) : IsSetting (.text s) := trivial

theorem isSetting_number {n : Nat} (hn : n < Nat.pow 2 63) : IsSetting (.number n) := hn

@[simp] theorem isSetting_texts (ss : List String) : IsSetting (.texts ss) := by
  simp [Value.texts, IsSetting, IsScalar]

/-- What a reader makes of the value of a setting. -/
def settingDatum : Value → Datum Unit
  | .list vs => .list () (vs.map scalarDatum)
  | v => scalarDatum v

/-- The value of a setting is read back. -/
theorem value?_printValue {v : Value} (hv : IsSetting v) (depth : Nat) {rest : List Char}
    (hrest : Ends rest) :
    value? (depth + 2) (printValue v ++ rest) = some (settingDatum v, rest) := by
  have hlist : ∀ (vs : List Value) (cs : List Char), printValue (.list vs) = '[' :: cs →
      items? (value? (depth + 1)) ((cs ++ rest).length + 1) [] (cs ++ rest) =
        some (vs.map scalarDatum, rest) →
      value? (depth + 2) (printValue (.list vs) ++ rest) =
        some (settingDatum (.list vs), rest) := by
    intro vs cs hcs hitems
    rw [hcs, List.cons_append, value?]
    simp only [if_neg (Nat.succ_ne_zero depth), hitems, Option.map_some, settingDatum]
  match v with
  | .bool b => exact value?_printScalar (v := .bool b) hv (depth + 1) hrest
  | .number n => exact value?_printScalar (v := .number n) hv (depth + 1) hrest
  | .text s => exact value?_printScalar (v := .text s) hv (depth + 1) hrest
  | .object _ => exact hv.elim
  | .list [] =>
    have hfiller := (Solid.cons (c := ']') (by decide) rest).skipFiller 0
    exact hlist [] [']'] rfl (by simp_all [items?])
  | .list [v] =>
    have hv : IsScalar v := hv v List.mem_cons_self
    have hsolid := solid_printScalar hv (']' :: rest)
    refine hlist [v] (printScalar v ++ [']']) rfl ?_
    rw [List.append_assoc, List.singleton_append]
    exact (items?_item hv depth _ [] (.inr rfl) (hsolid.skipFiller 0)).trans (if_neg (by decide))
  | .list (v :: w :: vs) =>
    have hitems := items?_lines hv depth rest
    refine hlist (v :: w :: vs) (itemLines (v :: w :: vs) ++ [']']) rfl ?_
    rw [List.append_assoc, List.singleton_append]
    refine hitems _ [] ?_
    have hle := length_le_itemLines (v :: w :: vs)
    rw [List.length_append]
    omega

/-! ### Keys -/

/-- A key that is written without quotes. -/
def IsKey (k : String) : Prop := k ≠ "" ∧ k.toList.all isKeyChar = true

instance (k : String) : Decidable (IsKey k) := inferInstanceAs (Decidable (_ ∧ _))

/-- How a key starts. -/
theorem IsKey.head {k : String} (hk : IsKey k) :
    ∃ c t, k.toList = c :: t ∧ isKeyChar c = true := by
  obtain ⟨c, t, hct⟩ := List.exists_cons_of_ne_nil (mt String.toList_eq_nil_iff.1 hk.1)
  exact ⟨c, t, hct, List.all_eq_true.mp hk.2 c (hct ▸ List.mem_cons_self)⟩

/-- A bare key is read up to the first character that is none of a key. -/
theorem keyPart?_key {k : String} (hk : IsKey k) {rest : List Char}
    (hrest : ∀ c ∈ rest.head?, isKeyChar c = false) :
    keyPart? (k.toList ++ rest) = some (k, rest) := by
  obtain ⟨c, t, hct, hc⟩ := hk.head
  have hline : lineText? (k.toList ++ rest) = none := by
    have hd := Text.ne_of_kind hc (d := '"') (by decide)
    have hs := Text.ne_of_kind hc (d := '\'') (by decide)
    rw [hct, List.cons_append]
    simp [lineText?, hd, hs]
  have hrun : (k.toList ++ rest).takeWhile isKeyChar = k.toList :=
    Text.takeWhile_run (List.all_eq_true.mp hk.2) hrest
  rw [keyPart?, hline]
  simp [hrun, hk.1]

theorem IsKey.solid {k : String} (hk : IsKey k) (rest : List Char) :
    Solid (k.toList ++ rest) := by
  obtain ⟨c, t, hct, hc⟩ := hk.head
  exact hct ▸ .of_kind (by decide) hc (t ++ rest)

/-- A key is read up to the mark behind it. -/
theorem key?_key {k : String} (hk : IsKey k) (n blanks : Nat) {mark : Char}
    (hmark : mark = '=' ∨ mark = ']') (rest : List Char) :
    key? (n + 1) (k.toList ++ (List.replicate blanks ' ' ++ mark :: rest)) =
      some ([k], mark :: rest) := by
  have hsolid : Solid (mark :: rest) := .cons (by rcases hmark with rfl | rfl <;> decide) rest
  have hpart : keyPart? (k.toList ++ (List.replicate blanks ' ' ++ mark :: rest)) =
      some (k, List.replicate blanks ' ' ++ mark :: rest) := by
    refine keyPart?_key hk fun c hc => ?_
    cases blanks with
    | zero => rcases hmark with rfl | rfl <;> rcases hc with ⟨⟩ <;> decide
    | succ =>
      rcases hc with ⟨⟩
      decide
  have hkey : skipSpace (k.toList ++ (List.replicate blanks ' ' ++ mark :: rest)) =
      k.toList ++ (List.replicate blanks ' ' ++ mark :: rest) := (hk.solid _).skipSpace 0
  rcases hmark with rfl | rfl <;> simp [key?, hkey, hpart, hsolid.skipSpace blanks]

/-- The value of a setting is no blank. -/
theorem solid_printValue {v : Value} (hv : IsSetting v) (rest : List Char) :
    Solid (printValue v ++ rest) := by
  match v with
  | .bool b => exact solid_printScalar (v := .bool b) hv rest
  | .number n => exact solid_printScalar (v := .number n) hv rest
  | .text s => exact solid_printScalar (v := .text s) hv rest
  | .object _ => exact hv.elim
  | .list [] | .list [_] | .list (_ :: _ :: _) => exact .cons (by decide) _

/-- A setting is read back. -/
theorem assignment?_printSetting {k : String} (hk : IsKey k) {v : Value} (hv : IsSetting v)
    (depth : Nat) (rest : List Char) :
    assignment? (value? (depth + 2)) (printSetting k v ++ rest) =
      some ([k], settingDatum v, '\n' :: rest) := by
  have htext : printSetting k v ++ rest = k.toList ++
      (List.replicate 1 ' ' ++ '=' :: ' ' :: (printValue v ++ '\n' :: rest)) := by
    simp [printSetting]
  have hvalue := value?_printValue hv depth (Ends.cons (.inl rfl) rest)
  rw [htext, assignment?, key?_key hk _ 1 (.inl rfl)]
  have hspace : skipSpace (' ' :: (printValue v ++ '\n' :: rest)) = printValue v ++ '\n' :: rest :=
    (solid_printValue hv _).skipSpace 1
  simp [hspace, hvalue]

/-! ### Lines -/

/-- Where a reader stands: what it has read, the header of the open table and what is left. -/
structure Cursor where
  members : Members
  header : List String
  text : List Char

namespace Cursor

/-- One place leads to another: with steps enough for the text at the first one, the reader gets to
the second one and has steps enough for the text there. -/
def Leads (a b : Cursor) : Prop :=
  ∀ n, a.text.length ≤ n → ∃ m, b.text.length ≤ m ∧
    lines? n a.members a.header a.text = lines? m b.members b.header b.text

theorem Leads.refl (a : Cursor) : a.Leads a := fun n hn => ⟨n, hn, rfl⟩

theorem Leads.trans {a b c : Cursor} (hab : a.Leads b) (hbc : b.Leads c) : a.Leads c := by
  intro n hn
  obtain ⟨m, hm, hnm⟩ := hab n hn
  obtain ⟨k, hk, hmk⟩ := hbc m hm
  exact ⟨k, hk, hnm.trans hmk⟩

/-- A line is passed in one step. -/
theorem Leads.line {a b : Cursor} (hlength : b.text.length < a.text.length)
    (h : ∀ n, lines? (n + 1) a.members a.header a.text = lines? n b.members b.header b.text) :
    a.Leads b := by
  intro n hn
  obtain ⟨n, rfl⟩ : ∃ m, n = m + 1 := ⟨n - 1, by omega⟩
  exact ⟨n, by omega, h n⟩

/-- A reader that has come to the end gives what it has read. -/
theorem Leads.lines? {a : Cursor} {ms : Members} {header : List String}
    (h : a.Leads ⟨ms, header, []⟩) {n : Nat} (hn : a.text.length ≤ n) :
    lines? n a.members a.header a.text = some ms := by
  obtain ⟨m, -, hm⟩ := h n hn
  rw [hm]
  cases m <;> simp [Toml.lines?, skipSpace]

theorem behindLine?_newline (rest : List Char) : behindLine? ('\n' :: rest) = some rest := by
  simp [behindLine?, skipSpace, behindComment?, behindNewline?]

/-- An empty line. -/
theorem leads_blank (ms : Members) (header : List String) (rest : List Char) :
    Leads ⟨ms, header, '\n' :: rest⟩ ⟨ms, header, rest⟩ := by
  refine .line (Nat.lt_succ_self _) fun n => ?_
  simp [Toml.lines?, skipSpace, behindLine?_newline]

/-- The line of a setting. -/
theorem leads_setting {k : String} (hk : IsKey k) {v : Value} (hv : IsSetting v)
    {ms ms' : Members} {header : List String}
    (hopen : inOpen (fun inner => assign (settingDatum v) none inner [k]) ms header = some ms')
    (rest : List Char) :
    Leads ⟨ms, header, printSetting k v ++ rest⟩ ⟨ms', header, rest⟩ := by
  refine .line (by simp [printSetting]; omega) fun n => ?_
  have hread : assignment? (value? deepest) (printSetting k v ++ rest) =
      some ([k], settingDatum v, '\n' :: rest) := assignment?_printSetting hk hv 78 rest
  obtain ⟨c, u, hcu, hc⟩ : ∃ c u, printSetting k v ++ rest = c :: u ∧ isKeyChar c = true := by
    obtain ⟨c, t, hct, hc⟩ := hk.head
    exact ⟨c, t ++ (" = ".toList ++ printValue v ++ '\n' :: rest), by simp [printSetting, hct], hc⟩
  dsimp only
  rw [hcu] at hread ⊢
  have hspace : skipSpace (c :: u) = c :: u := (Solid.of_kind (by decide) hc u).skipSpace 0
  simp [Toml.lines?, hspace, Text.ne_of_kind hc (d := '[') (by decide),
    Text.ne_of_kind hc (d := '#') (by decide), Text.ne_of_kind hc (d := '\n') (by decide),
    Text.ne_of_kind hc (d := '\r') (by decide), hread, hopen, behindLine?_newline]

/-- The line of a header. -/
theorem leads_header {k : String} (hk : IsKey k) {ms : Members} (hnew : ms.lookup k = none)
    (header : List String) (rest : List Char) :
    Leads ⟨ms, header, '[' :: (k.toList ++ ']' :: '\n' :: rest)⟩
      ⟨ms ++ [(k, .table .defined [])], [k], rest⟩ := by
  refine .line (by simp; omega) fun n => ?_
  have hread : ∀ n, key? (n + 1) (k.toList ++ ']' :: '\n' :: rest) =
      some ([k], ']' :: '\n' :: rest) := fun n => key?_key hk n 0 (.inr rfl) ('\n' :: rest)
  obtain ⟨c, t, hct, hc⟩ := hk.head
  have htext : k.toList ++ ']' :: '\n' :: rest = c :: (t ++ ']' :: '\n' :: rest) := by
    rw [hct, List.cons_append]
  dsimp only
  rw [htext] at hread ⊢
  have hspace : skipSpace ('[' :: c :: (t ++ ']' :: '\n' :: rest)) =
      '[' :: c :: (t ++ ']' :: '\n' :: rest) := (Solid.cons (by decide) _).skipSpace 0
  simp [Toml.lines?, hspace, Text.ne_of_kind hc (d := '[') (by decide), hread, define, hnew,
    behindLine?_newline]

end Cursor

/-! ### Documents -/

/-- Settings that can be written into one table. -/
structure Section (settings : List (String × Value)) : Prop where
  keys : ∀ k ∈ settings.map (·.1), IsKey k
  values : ∀ m ∈ settings, IsSetting m.2
  distinct : (settings.map (·.1)).Nodup

/-- The settings as a reader keeps them. -/
def settingNodes (settings : List (String × Value)) : Members :=
  settings.map fun m => (m.1, .value (settingDatum m.2))

/-- The sections as a reader keeps them. -/
def sectionNodes (sections : List (String × List (String × Value))) : Members :=
  sections.map fun m => (m.1, .table .defined (settingNodes m.2))

/-- A key that has not come yet has no member. -/
theorem lookup_eq_none_of_nodup {k : String} {ms : Members} {keys : List String}
    (h : (ms.map (·.1) ++ k :: keys).Nodup) : ms.lookup k = none := by
  rw [List.lookup_eq_none_iff]
  intro m hm
  refine bne_iff_ne.2 ?_
  rintro rfl
  exact (List.nodup_append.1 h).2.2 m.1 (List.mem_map_of_mem hm) m.1 List.mem_cons_self rfl

namespace Cursor

variable {settings : List (String × Value)} {ms : Members} {header : List String}

/-- The settings of a table are read one after the other into the open table, wherever in the
document it is. -/
theorem leads_settings (doc : Members → Members)
    (hdoc : ∀ change inner, inOpen change (doc inner) header = (change inner).map doc)
    (hkeys : ∀ k ∈ settings.map (·.1), IsKey k) (hvalues : ∀ m ∈ settings, IsSetting m.2)
    (rest : List Char) : ∀ inner : Members, (inner.map (·.1) ++ settings.map (·.1)).Nodup →
    Leads ⟨doc inner, header, settings.flatMap (fun m => printSetting m.1 m.2) ++ rest⟩
      ⟨doc (inner ++ settingNodes settings), header, rest⟩ := by
  induction settings with
  | nil =>
    intro inner _
    simpa [settingNodes] using Leads.refl _
  | cons m settings ih =>
    obtain ⟨k, v⟩ := m
    intro inner hdistinct
    rw [List.map_cons, List.forall_mem_cons] at hkeys
    rw [List.forall_mem_cons] at hvalues
    have hnew : inner.lookup k = none := lookup_eq_none_of_nodup hdistinct
    have hopen : inOpen (fun inner => assign (settingDatum v) none inner [k]) (doc inner) header =
        some (doc (inner ++ [(k, .value (settingDatum v))])) := by
      simp [hdoc, assign, hnew]
    have hline := leads_setting hkeys.1 hvalues.1 hopen
      (settings.flatMap (fun m => printSetting m.1 m.2) ++ rest)
    have hlines := ih hkeys.2 hvalues.2 (inner ++ [(k, .value (settingDatum v))])
      (by simpa using hdistinct)
    simpa [settingNodes] using hline.trans (by simpa [settingNodes] using hlines)

/-- The open table is the last one, which its header has defined. -/
theorem inOpen_last {k : String} (hnew : ms.lookup k = none) (change : Members → Option Members)
    (inner : Members) :
    inOpen change (ms ++ [(k, .table .defined inner)]) [k] =
      (change inner).map fun inner => ms ++ [(k, .table .defined inner)] := by
  have hlookup : (ms ++ [(k, Node.table .defined inner)]).lookup k =
      some (.table .defined inner) := by
    simp [List.lookup_append, hnew]
  have hreplace : ∀ node old, Members.replace (ms ++ [(k, old)]) k node = ms ++ [(k, node)] := by
    intro node old
    have hkept : ms.replace k node = ms := by
      refine (List.map_congr_left fun m hm => if_neg ?_).trans (List.map_id ms)
      exact (bne_iff_ne.1 (List.lookup_eq_none_iff.1 hnew m hm)).symm
    have hsplit : Members.replace (ms ++ [(k, old)]) k node =
        ms.replace k node ++ [(k, node)] := by
      simp [Members.replace]
    rw [hsplit, hkept]
  simp [inOpen, hlookup, hreplace]

/-- A section is read as a whole. -/
theorem leads_section {k : String} (hk : IsKey k) (hsection : Section settings)
    (hnew : ms.lookup k = none) (header : List String) (rest : List Char) :
    Leads ⟨ms, header, printMember (k, .object settings) ++ rest⟩
      ⟨ms ++ [(k, .table .defined (settingNodes settings))], [k], rest⟩ := by
  have htext : printMember (k, .object settings) ++ rest =
      '\n' :: '[' :: (k.toList ++ ']' :: '\n' ::
        (settings.flatMap (fun m => printSetting m.1 m.2) ++ rest)) := by
    simp [printMember]
  rw [htext]
  have hsettings := leads_settings _ (inOpen_last hnew) hsection.keys hsection.values rest []
    (by simpa using hsection.distinct)
  exact (leads_blank ms header _).trans ((leads_header hk hnew header _).trans hsettings)

/-- Sections are read one after the other. -/
theorem leads_sections {sections : List (String × List (String × Value))}
    (hkeys : ∀ k ∈ sections.map (·.1), IsKey k) (hsections : ∀ m ∈ sections, Section m.2)
    (rest : List Char) : ∀ (ms : Members) (header : List String),
    (ms.map (·.1) ++ sections.map (·.1)).Nodup →
    ∃ header', Leads
      ⟨ms, header, sections.flatMap (fun m => printMember (m.1, .object m.2)) ++ rest⟩
      ⟨ms ++ sectionNodes sections, header', rest⟩ := by
  induction sections with
  | nil =>
    intro ms header _
    exact ⟨header, by simpa [sectionNodes] using Leads.refl _⟩
  | cons m sections ih =>
    obtain ⟨k, settings⟩ := m
    intro ms header hdistinct
    rw [List.map_cons, List.forall_mem_cons] at hkeys
    rw [List.forall_mem_cons] at hsections
    have hnew : ms.lookup k = none := lookup_eq_none_of_nodup hdistinct
    obtain ⟨header', hlines⟩ := ih hkeys.2 hsections.2
      (ms ++ [(k, .table .defined (settingNodes settings))]) [k] (by simpa using hdistinct)
    have hline := leads_section hkeys.1 hsections.1 hnew header
      (sections.flatMap (fun m => printMember (m.1, .object m.2)) ++ rest)
    exact ⟨header', by simpa [sectionNodes] using hline.trans hlines⟩

end Cursor

section

variable {settings : List (String × Value)} {sections : List (String × List (String × Value))}
  {ending : String}

/-- The text of a document, its settings before its sections. -/
theorem toList_print (hvalues : ∀ m ∈ settings, IsSetting m.2) :
    (print (settings ++ sections.map fun m => (m.1, .object m.2)) ++ ending).toList =
      settings.flatMap (fun m => printSetting m.1 m.2) ++
        (sections.flatMap (fun m => printMember (m.1, .object m.2)) ++ ending.toList) := by
  have hprint : ∀ m ∈ settings, printMember m = printSetting m.1 m.2 := by
    rintro ⟨k, v⟩ hm
    have hv := hvalues _ hm
    cases v with
    | object => exact hv.elim
    | _ => rfl
  simp [print, List.flatMap_map, List.flatMap_congr hprint]

/-- No document starts with a byte order mark. -/
theorem ne_byteOrderMark (hkeys : ∀ k ∈ settings.map (·.1), IsKey k)
    (hending : ending = "" ∨ ending = "\n") (rest : List Char) :
    settings.flatMap (fun m => printSetting m.1 m.2) ++
      (sections.flatMap (fun m => printMember (m.1, .object m.2)) ++ ending.toList) ≠
        '\ufeff' :: rest := by
  cases settings with
  | nil =>
    cases sections with
    | nil => rcases hending with rfl | rfl <;> simp
    | cons => simp [printMember]
  | cons m settings =>
    obtain ⟨c, t, hct, hc⟩ := (hkeys m.1 List.mem_cons_self).head
    have hne := Text.ne_of_kind hc (d := '\ufeff') (by decide)
    simp [printSetting, hct, hne]

/-- **A printed document is read back**, also with a line feed behind it. -/
theorem read?_print (hsettings : Section settings) (hkeys : ∀ k ∈ sections.map (·.1), IsKey k)
    (hsections : ∀ m ∈ sections, Section m.2)
    (hdistinct : (settings.map (·.1) ++ sections.map (·.1)).Nodup)
    (hending : ending = "" ∨ ending = "\n") :
    read? (print (settings ++ sections.map fun m => (m.1, .object m.2)) ++ ending) =
      some (.table () (Node.sorted (settingNodes settings ++ sectionNodes sections))) := by
  have hread : Cursor.Leads ⟨[], [], _⟩ ⟨_, [], _⟩ :=
    Cursor.leads_settings id (fun change inner => by simp [inOpen]) hsettings.keys
      hsettings.values (sections.flatMap (fun m => printMember (m.1, .object m.2)) ++ ending.toList)
      [] (by simpa using hsettings.distinct)
  obtain ⟨header, hsectionsRead⟩ := Cursor.leads_sections hkeys hsections ending.toList
    (settingNodes settings) [] (by simpa [settingNodes, Function.comp_def] using hdistinct)
  have hend : Cursor.Leads ⟨settingNodes settings ++ sectionNodes sections, header, ending.toList⟩
      ⟨settingNodes settings ++ sectionNodes sections, header, []⟩ := by
    rcases hending with rfl | rfl
    · exact .refl _
    · exact Cursor.leads_blank _ header []
  have hlines := (hread.trans (hsectionsRead.trans hend)).lines? (Nat.le_succ _)
  rw [read?, toList_print hsettings.values]
  split
  · exact absurd ‹_› (ne_byteOrderMark hsettings.keys hending _)
  · exact congrArg (Option.map fun ms => Datum.table () (Node.sorted ms)) hlines

end

end ModuleDocs.Toml
