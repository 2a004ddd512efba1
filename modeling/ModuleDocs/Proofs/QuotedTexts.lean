import ModuleDocs.Proofs.Blanks
import ModuleDocs.Toml.Printer
import ModuleDocs.Toml.Scalar

/-!
# Proofs — Quoted texts

A text can be written in four notations: between single or double quotes, once or three times.  The
printer takes the plainest one that shows the text, so that what a reader has to undo hangs on what
the text holds: its line ends, backslashes, control characters and its longest runs of quotes.

An escape is undone by the reader of escapes (`escape?_escaped`).  Between three quotes a quote is
no end of the text, and whether a run of quotes ends it is known only behind the run; `Spelled`
keeps the count of the quotes that have just been passed, and its reading lemma (`Spelled.read`) has
those quotes in front of what is left to read.

* `text?_basicText`, `text?_literalText`, `text?_betweenThree`: a text is read back from each of the
  notations, if it can be written in it.
* `text?_printText`: a printed text is read back, whatever it holds and whatever follows but a
  quote.
-/

namespace ModuleDocs.Toml

/-! ### Escapes -/

/-- Every character of seven bits is the one that its four digits spell. -/
theorem fourDigits_spell : ∀ n < 128, (fourDigits n).length = 4 ∧
    (fourDigits n).all (fun c => (Text.hexValue? c).isSome) = true ∧
    Text.digitsValue 16 (fourDigits n) = n ∧ n.isValidChar := by
  decide

theorem codeChar?_fourDigits {n : Nat} (hn : n < 128) (rest : List Char) :
    codeChar? 4 (fourDigits n ++ rest) = some (Char.ofNat n, rest) := by
  obtain ⟨hlength, hdigits, hvalue, hvalid⟩ := fourDigits_spell n hn
  simp [codeChar?, List.take_left' hlength, List.drop_left' hlength, hlength, hdigits, hvalue,
    hvalid]

/-- A character that needs an escape has seven bits. -/
theorem toNat_lt_of_needsEscape {c : Char} (h : needsEscape c = true) : c.toNat < 128 := by
  simp only [needsEscape, Bool.or_eq_true, Bool.and_eq_true, decide_eq_true_eq, beq_iff_eq] at h
  rcases h with ⟨⟨hc, -⟩, -⟩ | rfl
  · have : c.toNat < 32 := hc
    omega
  · decide

/-- A character without an escape is allowed in a text, except for the end of a line. -/
theorem isControl_eq_false {c : Char} (h : needsEscape c = false) (hc : c ≠ '\n') :
    isControl c = false := by
  simp_all [needsEscape, isControl]

/-- A character other than a quote stands for itself or is written as an escape. -/
theorem escape?_escaped (lines : Bool) (c : Char) :
    (escaped lines c = [c] ∧ c ≠ '\\' ∧ (isControl c = false ∨ lines = true ∧ c = '\n')) ∨
    ∃ e t, escaped lines c = '\\' :: e :: t ∧ e ∉ [' ', '\t', '\n', '\r'] ∧
      ∀ rest, escape? (e :: t ++ rest) = some (c, rest) := by
  unfold escaped
  split_ifs with h₁ h₂ h₃ h₄ h₅ h₆ h₇ h₈
  · exact .inr ⟨'b', [], rfl, by decide, fun rest => by simp [escape?, h₁]⟩
  · exact .inr ⟨'t', [], rfl, by decide, fun rest => by simp [escape?, h₂]⟩
  · exact .inl ⟨by rw [h₃], by simp [h₃], .inr ⟨h₄, h₃⟩⟩
  · exact .inr ⟨'n', [], rfl, by decide, fun rest => by simp [escape?, h₃]⟩
  · exact .inr ⟨'f', [], rfl, by decide, fun rest => by simp [escape?, h₅]⟩
  · exact .inr ⟨'r', [], rfl, by decide, fun rest => by simp [escape?, h₆]⟩
  · exact .inr ⟨'\\', [], rfl, by decide, fun rest => by simp [escape?, h₇]⟩
  · refine .inr ⟨'u', fourDigits c.toNat, rfl, by decide, fun rest => ?_⟩
    have hcode := codeChar?_fourDigits (toNat_lt_of_needsEscape h₈) rest
    simpa [escape?] using hcode
  · exact .inl ⟨rfl, h₇, .inl (isControl_eq_false (by simpa using h₈) h₃)⟩

/-! ### One line -/

/-- A text between double quotes is read back. -/
theorem basicText?_escapedText (cs rest : List Char) : ∀ (n : Nat) (taken : List Char),
    (escapedText false 0 0 cs).length < n →
    basicText? n taken (escapedText false 0 0 cs ++ '"' :: rest) =
      some (taken.reverse ++ cs, rest) := by
  induction cs with
  | nil =>
    intro n taken hn
    obtain ⟨n, rfl⟩ := Nat.exists_eq_add_of_lt hn
    simp [escapedText, basicText?]
  | cons c cs ih =>
    intro n taken hn
    obtain ⟨n, rfl⟩ : ∃ m, n = m + 1 := ⟨n - 1, by omega⟩
    by_cases hq : c = '"'
    · subst hq
      simp only [escapedText, ↓reduceIte, Nat.lt_irrefl, List.length_cons] at hn ⊢
      simp [basicText?, escape?, ih n ('"' :: taken) (by omega)]
    · simp only [escapedText, if_neg hq, List.length_append] at hn ⊢
      rcases escape?_escaped false c with ⟨he, hb, hc⟩ | ⟨e, t, he, -, hread⟩
      · have hc : isControl c = false := by simpa using hc
        rw [he, List.length_singleton] at hn
        simp [he, basicText?, hq, hb, hc, ih n (c :: taken) (by omega)]
      · rw [he, List.length_cons, List.length_cons] at hn
        have hread := hread (escapedText false 0 0 cs ++ '"' :: rest)
        simp only [List.cons_append] at hread
        simp [he, basicText?, hread, ih n (c :: taken) (by omega)]

/-- A text between single quotes is read back. -/
theorem literalText?_plain {cs : List Char} (hq : '\'' ∉ cs) (hc : ∀ c ∈ cs, isControl c = false)
    (taken rest : List Char) :
    literalText? taken (cs ++ '\'' :: rest) = some (taken.reverse ++ cs, rest) := by
  induction cs generalizing taken with
  | nil => simp [literalText?]
  | cons c cs ih =>
    rw [List.mem_cons, not_or] at hq
    rw [List.forall_mem_cons] at hc
    simp [literalText?, Ne.symm hq.1, hc.1, ih hq.2 hc.2]

/-! ### Several lines -/

theorem behindNewline?_eq_none {cs : List Char} (h : ∀ d ∈ cs.head?, d ≠ '\n' ∧ d ≠ '\r') :
    behindNewline? cs = none := by
  unfold behindNewline?
  split <;> simp_all

section Several

variable {quote : Char} {escapes : Bool}

/-- The piece is read as the character.  It starts with no quote, and with the end of a line only if
it is one. -/
structure ReadAs (quote : Char) (escapes : Bool) (piece : List Char) (c : Char) : Prop where
  head : ∀ d ∈ piece.head?, d ≠ quote ∧ d ≠ '\r' ∧ (d = '\n' → c = '\n')
  nonempty : piece ≠ []
  step (n : Nat) (taken rest : List Char) : linesText? quote escapes (n + 1) taken (piece ++ rest) =
    linesText? quote escapes n (c :: taken) rest

theorem ReadAs.head_append {piece : List Char} {c : Char} (h : ReadAs quote escapes piece c)
    (rest : List Char) : ∀ d ∈ (piece ++ rest).head?, d ≠ quote := by
  obtain ⟨d, t, rfl⟩ := List.exists_cons_of_ne_nil h.nonempty
  simpa using (h.head d rfl).1

/-- A character stands for itself. -/
theorem ReadAs.self {c : Char} (hq : c ≠ quote) (hb : c = '\\' → escapes = false)
    (hc : isControl c = false ∨ c = '\n') : ReadAs quote escapes [c] c where
  head := by
    have hr : c ≠ '\r' := by
      rintro rfl
      revert hc
      decide
    simp [hq, hr]
  nonempty := by simp
  step n taken rest := by
    have hb : (decide (c = '\\') && escapes) = false := by
      by_cases h : c = '\\' <;> simp [h, hb]
    rcases hc with hc | rfl
    · have hn : behindNewline? (c :: rest) = none := by
        unfold behindNewline?
        split <;> simp_all [isControl]
      simp [linesText?, hq, hb, hn, hc]
    · simp [linesText?, hq, behindNewline?]

/-- An escape stands for its character. -/
theorem ReadAs.escape {c e : Char} {t : List Char} (hq : '\\' ≠ quote)
    (he : e ∉ [' ', '\t', '\n', '\r'])
    (hread : ∀ rest, escape? (e :: t ++ rest) = some (c, rest)) :
    ReadAs quote true ('\\' :: e :: t) c where
  head := by simpa using hq
  nonempty := by simp
  step n taken rest := by
    simp only [List.mem_cons, List.not_mem_nil, or_false, not_or] at he
    obtain ⟨hs, ht, hn, hr⟩ := he
    have hskip : skipSpace (e :: (t ++ rest)) = e :: (t ++ rest) := by simp [skipSpace, hs, ht]
    have hline : behindNewline? (e :: (t ++ rest)) = none := by
      unfold behindNewline?
      split <;> simp_all
    have hread := hread rest
    rw [List.cons_append] at hread
    simp [linesText?, hq, hskip, hline, hread]

/-- `Spelled quote escapes q t cs`: behind `q` quotes that belong to the text, its characters `cs`
are spelled by `t`, with at most two quotes in a row. -/
inductive Spelled (quote : Char) (escapes : Bool) : Nat → List Char → List Char → Prop where
  | nil {q : Nat} (hq : q ≤ 2) : Spelled quote escapes q [] []
  | quote {q : Nat} {t cs : List Char} (h : Spelled quote escapes (q + 1) t cs) :
      Spelled quote escapes q (quote :: t) (quote :: cs)
  | char {q : Nat} {c : Char} {piece t cs : List Char} (hq : q ≤ 2)
      (hc : ReadAs quote escapes piece c) (h : Spelled quote escapes 0 t cs) :
      Spelled quote escapes q (piece ++ t) (c :: cs)

/-- A run of quotes is taken as a whole. -/
theorem takeWhile_quotes (q : Nat) {rest : List Char} (hrest : ∀ d ∈ rest.head?, d ≠ quote) :
    (quote :: (List.replicate q quote ++ rest)).takeWhile (· == quote) =
      List.replicate (q + 1) quote := by
  rw [← List.cons_append, ← List.replicate_succ]
  refine Text.takeWhile_run (fun c hc => ?_) fun d hd => ?_
  · simpa using List.eq_of_mem_replicate hc
  · simpa using hrest d hd

/-- A short run of quotes belongs to the text. -/
theorem linesText?_short {q : Nat} (hq : q < 2) (n : Nat) (taken : List Char) {rest : List Char}
    (hrest : ∀ d ∈ rest.head?, d ≠ quote) :
    linesText? quote escapes (n + 1) taken (List.replicate (q + 1) quote ++ rest) =
      linesText? quote escapes n (List.replicate (q + 1) quote ++ taken) rest := by
  have hshort : q + 1 < 3 := by omega
  rw [List.replicate_succ, List.cons_append, linesText?]
  simp only [↓reduceIte, takeWhile_quotes q hrest, List.length_replicate, hshort]
  simp [List.replicate_succ]

/-- A run of three quotes and up to two more ends the text. -/
theorem linesText?_close {q : Nat} (hq : q ≤ 2) (n : Nat) (taken : List Char) {rest : List Char}
    (hrest : ∀ d ∈ rest.head?, d ≠ quote) :
    linesText? quote escapes (n + 1) taken (List.replicate (q + 3) quote ++ rest) =
      some (taken.reverse ++ List.replicate q quote, rest) := by
  have hlong : ¬ q + 3 < 3 := by omega
  have hend : q + 3 ≤ 5 := by omega
  rw [List.replicate_succ, List.cons_append, linesText?]
  simp only [↓reduceIte, takeWhile_quotes (q + 2) hrest, List.length_replicate, hlong, hend]
  simp

/-- What is spelled is read back from the quotes that stand before it. -/
theorem Spelled.read {q : Nat} {t cs : List Char} (h : Spelled quote escapes q t cs)
    {rest : List Char} (hrest : ∀ d ∈ rest.head?, d ≠ quote) :
    ∀ (n : Nat) (taken : List Char), q + t.length + 3 ≤ n →
    linesText? quote escapes n taken
        (List.replicate q quote ++ (t ++ (List.replicate 3 quote ++ rest))) =
      some (taken.reverse ++ List.replicate q quote ++ cs, rest) := by
  induction h with
  | nil hq =>
    intro n taken hn
    obtain ⟨n, rfl⟩ : ∃ m, n = m + 1 := ⟨n - 1, by omega⟩
    rw [List.nil_append, ← List.append_assoc, List.replicate_append_replicate,
      linesText?_close hq n taken hrest, List.append_nil]
  | @quote q t cs _ ih =>
    intro n taken hn
    have hone := ih n taken (by simp only [List.length_cons] at hn; omega)
    simpa [List.replicate_succ', List.append_assoc] using hone
  | @char q c piece t cs hq hc _ ih =>
    intro n taken hn
    have hpos : 0 < piece.length := List.length_pos_iff.2 hc.nonempty
    rw [List.length_append] at hn
    -- the piece behind the pending quotes, wherever the reader stands before it
    have hpiece : ∀ (m : Nat) (taken : List Char), t.length + 3 < m →
        linesText? quote escapes m taken (piece ++ (t ++ (List.replicate 3 quote ++ rest))) =
          some (taken.reverse ++ c :: cs, rest) := by
      intro m taken hm
      obtain ⟨m, rfl⟩ : ∃ k, m = k + 1 := ⟨m - 1, by omega⟩
      have hrest := ih m (c :: taken) (by omega)
      rw [hc.step]
      simpa using hrest
    rw [List.append_assoc piece]
    cases q with
    | zero => simpa using hpiece n taken (by omega)
    | succ q =>
      obtain ⟨n, rfl⟩ : ∃ m, n = m + 1 := ⟨n - 1, by omega⟩
      rw [linesText?_short hq n taken (hc.head_append _), hpiece n _ (by omega)]
      simp

end Several

/-- With escapes, every text is spelled. -/
theorem spelled_escapedText (cs : List Char) : ∀ q ≤ 2,
    Spelled '"' true q (escapedText true 2 q cs) cs := by
  induction cs with
  | nil => exact fun q hq => .nil hq
  | cons c cs ih =>
    intro q hq
    by_cases hc : c = '"'
    · subst hc
      by_cases h2 : q < 2
      · simpa [escapedText, h2] using Spelled.quote (ih (q + 1) h2)
      · have hquote : ReadAs '"' true ['\\', '"'] '"' :=
          .escape (by decide) (by decide) fun rest => by simp [escape?]
        simpa [escapedText, h2] using Spelled.char hq hquote (ih 0 (Nat.zero_le 2))
    · have hpiece : ReadAs '"' true (escaped true c) c := by
        rcases escape?_escaped true c with ⟨he, hb, hn⟩ | ⟨e, t, he, hs, hread⟩
        · exact he ▸ .self hc (absurd · hb) (by simpa using hn)
        · exact he ▸ .escape (by decide) hs hread
      simpa [escapedText, hc] using Spelled.char hq hpiece (ih 0 (Nat.zero_le 2))

/-! ### Runs -/

/-- The longest run and the run at the end, from those of what stands before. -/
def runStep (mark : Char) (runs : Nat × Nat) (c : Char) : Nat × Nat :=
  let current := if c = mark then runs.2 + 1 else 0
  (max runs.1 current, current)

theorem longestRun_eq (mark : Char) (cs : List Char) :
    longestRun mark cs = (cs.foldl (runStep mark) (0, 0)).1 := rfl

/-- The longest run does not get shorter. -/
theorem le_foldl_runStep (mark : Char) (cs : List Char) (runs : Nat × Nat) :
    runs.1 ≤ (cs.foldl (runStep mark) runs).1 := by
  induction cs generalizing runs with
  | nil => exact Nat.le_refl _
  | cons c cs ih => exact Nat.le_trans (Nat.le_max_left runs.1 _) (ih (runStep mark runs c))

theorem not_mem_of_longestRun_eq_zero {mark : Char} {cs : List Char}
    (h : longestRun mark cs = 0) : mark ∉ cs := by
  intro hmem
  obtain ⟨before, after, rfl⟩ := List.append_of_mem hmem
  rw [longestRun_eq, List.foldl_append, List.foldl_cons] at h
  have hle := le_foldl_runStep mark after (runStep mark (before.foldl (runStep mark) (0, 0)) mark)
  simp only [runStep, ↓reduceIte] at h hle
  omega

/-- Without escapes, a text with short runs of quotes is spelled by itself. -/
theorem spelled_self {cs : List Char} (hc : ∀ c ∈ cs, isControl c = false ∨ c = '\n') :
    ∀ runs : Nat × Nat, runs.2 ≤ runs.1 → (cs.foldl (runStep '\'') runs).1 ≤ 2 →
    Spelled '\'' false runs.2 cs cs := by
  induction cs with
  | nil => exact fun runs hle h => .nil (Nat.le_trans hle h)
  | cons c cs ih =>
    intro runs hle h
    rw [List.forall_mem_cons] at hc
    rw [List.foldl_cons] at h
    have hshort := Nat.le_trans (le_foldl_runStep '\'' (c :: cs) runs) h
    have hrest := ih hc.2 (runStep '\'' runs c) (Nat.le_max_right _ _) h
    by_cases hq : c = '\''
    · subst hq
      exact .quote (by simpa [runStep] using hrest)
    · have hpiece : ReadAs '\'' false [c] c := .self hq (fun _ => rfl) hc.1
      exact .char (Nat.le_trans hle hshort) hpiece (by simpa [runStep, hq] using hrest)

/-! ### Texts -/

/-- What starts with fewer than three quotes of a kind is a text on one line. -/
theorem text?_of_not_three {cs : List Char} (hd : ∀ r, cs ≠ '"' :: '"' :: '"' :: r)
    (hs : ∀ r, cs ≠ '\'' :: '\'' :: '\'' :: r) : text? cs = lineText? cs := by
  unfold text?
  split
  · exact absurd rfl (hd _)
  · exact absurd rfl (hs _)
  · rfl

/-- No two quotes follow the first one of a text on one line. -/
theorem escapedText_ne {rest : List Char} (hrest : ∀ d ∈ rest.head?, d ≠ '"') (cs r : List Char) :
    escapedText false 0 0 cs ++ '"' :: rest ≠ '"' :: '"' :: r := by
  cases cs with
  | nil =>
    rintro h
    simp only [escapedText, List.nil_append, List.cons.injEq, true_and] at h
    exact hrest '"' (by simp [h]) rfl
  | cons c cs =>
    by_cases hc : c = '"'
    · simp [escapedText, hc]
    · rcases escape?_escaped false c with ⟨he, -, -⟩ | ⟨e, t, he, -, -⟩ <;>
        simp [escapedText, hc, he]

theorem text?_basicText {rest : List Char} (hrest : ∀ d ∈ rest.head?, d ≠ '"') (cs : List Char) :
    text? (basicText cs ++ rest) = some (cs, rest) := by
  have htext : basicText cs ++ rest = '"' :: (escapedText false 0 0 cs ++ '"' :: rest) := by
    simp [basicText]
  have hthree : ∀ r, '"' :: (escapedText false 0 0 cs ++ '"' :: rest) ≠ '"' :: '"' :: '"' :: r :=
    fun r h => escapedText_ne hrest cs r (List.cons.inj h).2
  rw [htext, text?_of_not_three hthree (by simp)]
  exact basicText?_escapedText cs rest _ [] (by simp only [List.length_append]; omega)

theorem text?_literalText {cs rest : List Char} (hrest : ∀ d ∈ rest.head?, d ≠ '\'')
    (hq : '\'' ∉ cs) (hc : ∀ c ∈ cs, isControl c = false) :
    text? (literalText cs ++ rest) = some (cs, rest) := by
  have htext : literalText cs ++ rest = '\'' :: (cs ++ '\'' :: rest) := by simp [literalText]
  rw [htext, text?_of_not_three (by simp) fun r h => ?_]
  · exact literalText?_plain hq hc [] rest
  · cases cs with
    | nil => exact hrest '\'' (by simp_all) rfl
    | cons c cs => simp_all

/-- What is spelled starts with the end of a line only if the text holds one. -/
theorem Spelled.head {quote : Char} (hn : quote ≠ '\n' ∧ quote ≠ '\r') {escapes : Bool} {q : Nat}
    {t cs : List Char} (h : Spelled quote escapes q t cs) (hcs : '\n' ∉ cs) :
    ∀ d ∈ t.head?, d ≠ '\n' ∧ d ≠ '\r' := by
  cases h with
  | nil => simp
  | quote => simpa using hn
  | @char _ c piece t cs _ hc _ =>
    obtain ⟨e, piece, rfl⟩ := List.exists_cons_of_ne_nil hc.nonempty
    obtain ⟨-, hr, hline⟩ := hc.head e rfl
    have hc : e ≠ '\n' := fun he => hcs (by simp [hline he])
    simpa using ⟨hc, hr⟩

/-- A text between three quotes is read back if it is spelled between them. -/
theorem text?_betweenThree {quote : Char} (hquote : quote = '"' ∨ quote = '\'')
    {cs body : List Char} (h : Spelled quote (quote == '"') 0 body cs) {rest : List Char}
    (hrest : ∀ d ∈ rest.head?, d ≠ quote) :
    text? (betweenThree quote cs body ++ rest) = some (cs, rest) := by
  have hn : quote ≠ '\n' ∧ quote ≠ '\r' := by rcases hquote with rfl | rfl <;> decide
  have hread := h.read hrest (body ++ (List.replicate 3 quote ++ rest)).length.succ []
    (by simp only [List.length_append, List.length_replicate]; omega)
  have hbody : ∀ d ∈ (body ++ (List.replicate 3 quote ++ rest)).head?, '\n' ∉ cs →
      d ≠ '\n' ∧ d ≠ '\r' := by
    intro d hd hcs
    cases body with
    | nil => simp_all [List.replicate_succ]
    | cons e body => exact h.head hn hcs d (by simpa using hd)
  -- the line end behind the three quotes is there only if the text holds one
  have hlines : text? (betweenThree quote cs body ++ rest) =
      linesText? quote (quote == '"') (body ++ (List.replicate 3 quote ++ rest)).length.succ []
        (body ++ (List.replicate 3 quote ++ rest)) := by
    by_cases hcs : '\n' ∈ cs
    · rcases hquote with rfl | rfl <;>
        simp [betweenThree, hcs, text?, List.replicate_succ, behindNewline?]
    · have hnone := behindNewline?_eq_none fun d hd => hbody d hd hcs
      rcases hquote with rfl | rfl <;> simp_all [betweenThree, text?, List.replicate_succ]
  rw [hlines]
  simpa using hread

/-- **A printed text is read back**, in whichever notation it is printed. -/
theorem text?_printText (s : String) {rest : List Char}
    (hrest : ∀ d ∈ rest.head?, d ≠ '"' ∧ d ≠ '\'') :
    text? (printText s ++ rest) = some (s.toList, rest) := by
  have hdouble : ∀ d ∈ rest.head?, d ≠ '"' := fun d hd => (hrest d hd).1
  have hsingle : ∀ d ∈ rest.head?, d ≠ '\'' := fun d hd => (hrest d hd).2
  have hplain : s.toList.any needsEscape = false →
      ∀ c ∈ s.toList, isControl c = false ∨ c = '\n' := by
    intro h c hc
    by_cases hn : c = '\n'
    · exact .inr hn
    · exact .inl (isControl_eq_false (by simpa using List.any_eq_false.1 h c hc) hn)
  have hescaped :=
    text?_betweenThree (.inl rfl) (spelled_escapedText s.toList 0 (Nat.zero_le 2)) hdouble
  unfold printText
  dsimp only
  split_ifs with h₁ h₂ h₃ h₄ h₅
  · exact text?_basicText hdouble s.toList
  · simp only [Bool.and_eq_true, Bool.not_eq_true', decide_eq_true_eq] at h₂
    obtain ⟨⟨hesc, hruns⟩, hlines⟩ := h₂
    refine text?_literalText hsingle (not_mem_of_longestRun_eq_zero hruns) fun c hc => ?_
    have hn : c ≠ '\n' := by rintro rfl; simp_all
    exact (hplain hesc c hc).resolve_right hn
  · exact hescaped
  · simp only [Bool.and_eq_true, Bool.not_eq_true', decide_eq_true_eq] at h₄
    have hself := spelled_self (hplain h₄.1) (0, 0) (Nat.le_refl 0) h₄.2
    exact text?_betweenThree (.inr rfl) hself hsingle
  · exact hescaped
  · exact text?_basicText hdouble s.toList

end ModuleDocs.Toml
