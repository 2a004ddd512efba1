import ModuleDocs.Json.Reader
import ModuleDocs.Proofs.Spelling

/-!
# Proofs — The grammar of texts

JSON by its grammar: every spelling of a string, every number, every layout of elements and members.

* `StringText s t`: the text `t` is a string that says `s`, each character plainly or by an escape.
* `IsString`, `IsNumber`, `IsValue`: a text is of the grammar, whatever it says.  A string need not
  say anything: its escapes may name half of a surrogate pair.
* `Items`, `Members`: texts laid out between brackets, with the blanks and commas around them.
  `listText` and `objectText` are one layout of each.
* `itemStart_cons`, `memberStart_quote` and the like: what the readers make of the blanks, commas and
  brackets between words.
* `readString_chars`: a string is read as what it says.
-/

namespace ModuleDocs.Json

/-! ### Strings -/

/-- The digit of a number below sixteen, in either case. -/
def HexDigit (n : Nat) (c : Char) : Prop :=
  "0123456789abcdef".toList[n]? = some c ∨ "0123456789ABCDEF".toList[n]? = some c

instance (n : Nat) (c : Char) : Decidable (HexDigit n c) := inferInstanceAs (Decidable (_ ∨ _))

/-- Four digits and the number that they write. -/
inductive CodeUnit : Nat → Input → Prop where
  | digits {n₁ n₂ n₃ n₄ : Nat} {c₁ c₂ c₃ c₄ : Char} : HexDigit n₁ c₁ → HexDigit n₂ c₂ →
      HexDigit n₃ c₃ → HexDigit n₄ c₄ →
      CodeUnit (((n₁ * 16 + n₂) * 16 + n₃) * 16 + n₄) [c₁, c₂, c₃, c₄]

/-- The letters that may follow a backslash, each with the character that it stands for. -/
def escapes : List (Char × Char) :=
  [('"', '"'), ('\\', '\\'), ('/', '/'), ('b', '\x08'), ('f', '\x0c'), ('n', '\n'), ('r', '\r'),
    ('t', '\t')]

/-- A character that may stand for itself. -/
def IsPlain (c : Char) : Prop := c ≠ '"' ∧ c ≠ '\\' ∧ 0x20 ≤ c.toNat

instance (c : Char) : Decidable (IsPlain c) := inferInstanceAs (Decidable (_ ∧ _))

/-- The text stands for the character in a string. -/
inductive CharText (c : Char) : Input → Prop where
  | plain : IsPlain c → CharText c [c]
  | letter {e : Char} : (e, c) ∈ escapes → CharText c ['\\', e]
  | unit {t : Input} : CodeUnit c.toNat t → CharText c ('\\' :: 'u' :: t)
  /-- A character beyond the code units is written as a surrogate pair. -/
  | pair {t u : Input} : 0x10000 ≤ c.toNat →
      CodeUnit (0xD800 + (c.toNat - 0x10000) / 0x400) t →
      CodeUnit (0xDC00 + (c.toNat - 0x10000) % 0x400) u →
      CharText c ('\\' :: 'u' :: (t ++ '\\' :: 'u' :: u))

/-- The text stands for the characters in a string. -/
inductive Chars : List Char → Input → Prop where
  | nil : Chars [] []
  | cons {c : Char} {cs : List Char} {t u : Input} : CharText c t → Chars cs u →
      Chars (c :: cs) (t ++ u)

/-- The text is a string that says `s`. -/
def StringText (s : String) (t : Input) : Prop := ∃ u, Chars s.toList u ∧ t = '"' :: (u ++ ['"'])

/-- A character of a string or an escape, whatever it says. -/
inductive Piece : Input → Prop where
  | plain {c : Char} : IsPlain c → Piece [c]
  | letter {e c : Char} : (e, c) ∈ escapes → Piece ['\\', e]
  | unit {n : Nat} {t : Input} : CodeUnit n t → Piece ('\\' :: 'u' :: t)

/-- The text is a string. -/
def IsString (t : Input) : Prop :=
  ∃ ps : List Input, (∀ p ∈ ps, Piece p) ∧ t = '"' :: (ps.flatten ++ ['"'])

/-! ### Numbers -/

/-- Digits, of which there is one at least. -/
def Digits (t : Input) : Prop := t ≠ [] ∧ ∀ c ∈ t, c.isDigit = true

/-- A point and digits, if anything. -/
def Fraction (t : Input) : Prop := t = [] ∨ ∃ ds, Digits ds ∧ t = '.' :: ds

/-- A mark, a sign perhaps, and digits, if anything. -/
def Exponent (t : Input) : Prop :=
  t = [] ∨ ∃ e ∈ ['e', 'E'], ∃ sign ∈ [[], ['+'], ['-']], ∃ ds, Digits ds ∧ t = e :: (sign ++ ds)

/-- The text is a number: a zero in front is the only digit before the point. -/
def IsNumber (t : Input) : Prop :=
  ∃ sign ∈ [[], ['-']], ∃ ds f e, Digits ds ∧ (ds.head? = some '0' → ds = ['0']) ∧ Fraction f ∧
    Exponent e ∧ t = sign ++ (ds ++ (f ++ e))

/-! ### Layouts -/

/-- The text lays out the elements `ts`, with the blanks behind them. -/
inductive Items : Bool → List Input → Input → Prop where
  | nil {first : Bool} {w : Input} : Spaces w → Items first [] w
  | cons {first : Bool} {w t u : Input} {ts : List Input} : Gap first w → Items false ts u →
      Items first (t :: ts) (w ++ (t ++ u))

/-- The text lays out the members `ms`, each of which has a key that `Key` gives a text of, with the
blanks behind them. -/
inductive Members {κ : Type} (Key : κ → Input → Prop) : Bool → List (κ × Input) → Input → Prop where
  | nil {first : Bool} {w : Input} : Spaces w → Members Key first [] w
  | cons {first : Bool} {w k w₁ w₂ t u : Input} {key : κ} {ms : List (κ × Input)} : Gap first w →
      Key key k → Spaces w₁ → Spaces w₂ → Members Key false ms u →
      Members Key first ((key, t) :: ms) (w ++ (k ++ (w₁ ++ ':' :: (w₂ ++ (t ++ u)))))

/-- Between the brackets of a list. -/
def bracketed (t : Input) : Input := '[' :: (t ++ [']'])

/-- Between the brackets of an object. -/
def braced (t : Input) : Input := '\x7b' :: (t ++ ['\x7d'])

/-- The text is a value of any kind and depth. -/
inductive IsValue : Input → Prop where
  | null : IsValue ['n', 'u', 'l', 'l']
  | yes : IsValue ['t', 'r', 'u', 'e']
  | no : IsValue ['f', 'a', 'l', 's', 'e']
  | number {t : Input} : IsNumber t → IsValue t
  | string {t : Input} : IsString t → IsValue t
  | list {ts : List Input} {u : Input} : (∀ t ∈ ts, IsValue t) → Items true ts u →
      IsValue (bracketed u)
  | object {ms : List (Input × Input)} {u : Input} : (∀ m ∈ ms, IsString m.1) →
      (∀ m ∈ ms, IsValue m.2) → Members Eq true ms u → IsValue (braced u)

/-! ### Plain texts -/

/-- A string with every character as it is. -/
def plainText (s : String) : Input := '"' :: (s.toList ++ ['"'])

/-- A text without special characters is spelled by putting quotes around it. -/
theorem stringText_plainText {s : String} (h : (s.toList.all fun c => IsPlain c) = true) :
    StringText s (plainText s) := by
  have hchars : ∀ cs : List Char, (∀ c ∈ cs, IsPlain c) → Chars cs cs := by
    intro cs hcs
    induction cs with
    | nil => exact .nil
    | cons c cs ih =>
        obtain ⟨hc, hcs⟩ := List.forall_mem_cons.mp hcs
        exact .cons (.plain hc) (ih hcs)
  exact ⟨s.toList, hchars s.toList (by simpa using h), rfl⟩

/-- The elements with commas between them, and the blanks `w` behind each comma. -/
def spread (w : Input) : List Input → Input
  | [] => []
  | [t] => t
  | t :: ts => t ++ ',' :: (w ++ spread w ts)

/-- Items may be spread with blanks between them. -/
theorem items_spread {w : Input} (hw : Spaces w) (ts : List Input) :
    Items true ts (spread w ts) := by
  have hlater : ∀ (ts : List Input) (t : Input) {first : Bool} {g : Input}, Gap first g →
      Items first (t :: ts) (g ++ spread w (t :: ts)) := by
    intro ts
    induction ts with
    | nil =>
        intro t first g hg
        have h : Items first [t] (g ++ (t ++ [])) := .cons hg (.nil .nil)
        rwa [List.append_nil] at h
    | cons t' ts ih =>
        intro t first g hg
        have hnext : Items false (t' :: ts) ([] ++ ',' :: w ++ spread w (t' :: ts)) :=
          ih t' (.next .nil hw)
        have h : Items first (t :: t' :: ts) _ := .cons hg hnext
        simpa only [spread, List.append_assoc, List.nil_append, List.cons_append] using h
  cases ts with
  | nil => exact .nil .nil
  | cons t ts => exact hlater ts t (.first .nil)

/-- Elements that are keys and values with a colon between them are members. -/
theorem Items.members {κ : Type} {Key : κ → Input → Prop} {ms : List (κ × Input)} {k : κ → Input}
    (hk : ∀ m ∈ ms, Key m.1 (k m.1)) {first : Bool} {u : Input}
    (h : Items first (ms.map fun m => k m.1 ++ ':' :: m.2) u) : Members Key first ms u := by
  induction ms generalizing first u with
  | nil =>
      obtain ⟨hw⟩ | _ := h
      exact .nil hw
  | cons m ms ih =>
      obtain ⟨hm, hms⟩ := List.forall_mem_cons.mp hk
      obtain _ | @⟨_, w, _, u, _, hg, hrest⟩ := h
      have h : Members Key first (m :: ms) (w ++ (k m.1 ++ ([] ++ ':' :: ([] ++ (m.2 ++ u))))) :=
        .cons hg hm .nil .nil (ih hms hrest)
      simpa only [List.append_assoc, List.cons_append, List.nil_append] using h

/-- A list without blanks. -/
def listText (ts : List Input) : Input := bracketed (spread [] ts)

/-- An object with a blank behind each comma. -/
def objectText (ms : List (String × Input)) : Input :=
  braced (spread [' '] (ms.map fun m => plainText m.1 ++ ':' :: m.2))

/-- So may the members of an object. -/
theorem members_objectText {ms : List (String × Input)}
    (h : (ms.all fun m => m.1.toList.all fun c => IsPlain c) = true) :
    Members StringText true ms (spread [' '] (ms.map fun m => plainText m.1 ++ ':' :: m.2)) :=
  (items_spread (by simp [Spaces, isSpace]) _).members fun m hm =>
    stringText_plainText (List.all_eq_true.mp h m hm)

/-! ### Reading between words -/

/-- Spaces in front are skipped. -/
theorem skipSpace_append {w : Input} (hw : Spaces w) (s : Input) :
    skipSpace (w ++ s) = skipSpace s :=
  List.dropWhile_append_of_pos hw

theorem skipSpace_cons {c : Char} (hc : isSpace c = false) (s : Input) :
    skipSpace (c :: s) = c :: s :=
  List.dropWhile_cons_of_neg (by simp [hc])

/-- An element starts behind its gap, with a character that is neither a blank nor the end of the
list. -/
theorem itemStart_cons {first : Bool} {w : Input} {c : Char} (hg : Gap first w)
    (hc : isSpace c = false) (hend : c ≠ ']') (s : Input) :
    itemStart first (w ++ c :: s) = .ok (some (c :: s)) := by
  cases hg with
  | first hw =>
      rw [itemStart, skipSpace_append hw, skipSpace_cons hc]
      simp
  | @next w w' hw hw' =>
      have hcomma : skipSpace (w ++ ',' :: w' ++ c :: s) = ',' :: (w' ++ c :: s) := by
        rw [List.append_assoc, skipSpace_append hw, List.cons_append, skipSpace_cons (by decide)]
      have hitem : skipSpace (w' ++ c :: s) = c :: s := by
        rw [skipSpace_append hw', skipSpace_cons hc]
      rw [itemStart, hcomma]
      split
      case h_1 hnil => exact absurd hnil (List.cons_ne_nil _ _)
      case h_2 hcons => exact absurd (List.cons.inj hcons).1 (by decide)
      case h_3 hcons =>
        obtain ⟨rfl, rfl⟩ := List.cons.inj hcons
        rw [if_neg Bool.false_ne_true, if_pos rfl, hitem]
        split
        case h_1 hnil => exact absurd hnil (List.cons_ne_nil _ _)
        case h_2 hcons => exact absurd (List.cons.inj hcons).1 hend
        case h_3 => rfl

/-- At the closing bracket no item starts. -/
theorem itemStart_end {first : Bool} {w : Input} (hw : Spaces w) (s : Input) :
    itemStart first (w ++ ']' :: s) = .ok none := by
  rw [itemStart, skipSpace_append hw, skipSpace_cons (by decide)]
  rfl

theorem listEnd_end {w : Input} (hw : Spaces w) (s : Input) : listEnd (w ++ ']' :: s) = .ok s := by
  rw [listEnd, skipSpace_append hw, skipSpace_cons (by decide)]
  rfl

/-- At a quote the key of a member starts. -/
theorem memberStart_quote {first : Bool} {w : Input} (hg : Gap first w) (s : Input) :
    memberStart first (w ++ '"' :: s) = .ok (some s) := by
  cases hg with
  | first hw =>
      rw [memberStart, skipSpace_append hw, skipSpace_cons (by decide)]
      rfl
  | next hw hw' =>
      have hkey : isSpace '"' = false := by decide
      rw [memberStart, List.append_assoc, skipSpace_append hw, List.cons_append,
        skipSpace_cons (by decide)]
      simp [skipSpace_append hw', skipSpace_cons hkey]

/-- At the closing brace no member starts. -/
theorem memberStart_end {first : Bool} {w : Input} (hw : Spaces w) (s : Input) :
    memberStart first (w ++ '\x7d' :: s) = .ok none := by
  rw [memberStart, skipSpace_append hw, skipSpace_cons (by decide)]
  rfl

/-- A colon may stand behind spaces. -/
theorem colon_colon {w : Input} (hw : Spaces w) (s : Input) : colon (w ++ ':' :: s) = .ok s := by
  rw [colon, skipSpace_append hw, skipSpace_cons (by decide)]
  rfl

theorem objectEnd_end {w : Input} (hw : Spaces w) (s : Input) :
    objectEnd (w ++ '\x7d' :: s) = .ok s := by
  rw [objectEnd, skipSpace_append hw, skipSpace_cons (by decide)]
  rfl

/-! ### Reading strings -/

/-- A hexadecimal digit is read as its value. -/
theorem hexValue?_hexDigit {n : Nat} {c : Char} (h : HexDigit n c) : hexValue? c = some n := by
  have hlower : ∀ m < 16, "0123456789abcdef".toList[m]?.bind hexValue? = some m := by decide
  have hupper : ∀ m < 16, "0123456789ABCDEF".toList[m]?.bind hexValue? = some m := by decide
  rcases h with h | h
  · simpa only [h, Option.bind_some] using hlower n (List.getElem?_eq_some_iff.mp h).1
  · simpa only [h, Option.bind_some] using hupper n (List.getElem?_eq_some_iff.mp h).1

/-- A code unit is read from its four digits. -/
theorem CodeUnit.hex4? {n : Nat} {t : Input} (h : CodeUnit n t) :
    ∃ c₁ c₂ c₃ c₄, t = [c₁, c₂, c₃, c₄] ∧ hex4? c₁ c₂ c₃ c₄ = some n := by
  obtain @⟨n₁, n₂, n₃, n₄, c₁, c₂, c₃, c₄, h₁, h₂, h₃, h₄⟩ := h
  refine ⟨c₁, c₂, c₃, c₄, rfl, ?_⟩
  rw [Json.hex4?, hexValue?_hexDigit h₁, hexValue?_hexDigit h₂, hexValue?_hexDigit h₃,
    hexValue?_hexDigit h₄]
  rfl

/-- The letters of the escapes are read as the characters they stand for. -/
theorem letterEscape?_of_mem {e c : Char} (h : (e, c) ∈ escapes) : letterEscape? e = some c := by
  have hall : ∀ p ∈ escapes, letterEscape? p.1 = some p.2 := by decide
  exact hall (e, c) h

/-- No character is half of a surrogate pair. -/
theorem toNat_not_surrogate (c : Char) :
    isTrailing c.toNat = false ∧ isLeading c.toNat = false := by
  have hc : c.toNat < 0xD800 ∨ 0xDFFF < c.toNat ∧ c.toNat < 0x110000 := c.valid
  simp only [isTrailing, isLeading, Bool.and_eq_false_iff, decide_eq_false_iff_not]
  omega

theorem readStringAfter_quote (out : List Char) (s : Input) :
    readStringAfter out ('"' :: s) = .ok (String.ofList out.reverse, s) := by
  rw [readStringAfter.eq_def]
  rfl

/-- A plain character stands for itself. -/
theorem readStringAfter_plain {c : Char} (hq : c ≠ '"') (hb : c ≠ '\\') (hc : ¬ c.toNat < 0x20)
    (out : List Char) (s : Input) :
    readStringAfter out (c :: s) = readStringAfter (c :: out) s := by
  rw [readStringAfter.eq_def]
  simp only [if_neg hq, if_neg hb, if_neg hc]

/-- An escape by a letter stands for one character. -/
theorem readStringAfter_letter {e c : Char} (h : letterEscape? e = some c) (out : List Char)
    (s : Input) : readStringAfter out ('\\' :: e :: s) = readStringAfter (c :: out) s := by
  rw [readStringAfter.eq_def]
  simp [h]

/-- An escape by a code unit stands for the character of that code. -/
theorem readStringAfter_unit {c : Char} {t : Input} (h : CodeUnit c.toNat t) (out : List Char)
    (s : Input) : readStringAfter out ('\\' :: 'u' :: (t ++ s)) = readStringAfter (c :: out) s := by
  obtain ⟨c₁, c₂, c₃, c₄, rfl, hn⟩ := h.hex4?
  rw [readStringAfter.eq_def]
  simp [letterEscape?, hn, toNat_not_surrogate c, Char.ofNat_toNat]

/-- A surrogate pair is put together again. -/
theorem joinSurrogates_split {c : Char} (h : 0x10000 ≤ c.toNat) :
    joinSurrogates (0xD800 + (c.toNat - 0x10000) / 0x400) (0xDC00 + (c.toNat - 0x10000) % 0x400) =
      c := by
  have hc : (0xD800 + (c.toNat - 0x10000) / 0x400 - 0xD800) * 0x400 +
      (0xDC00 + (c.toNat - 0x10000) % 0x400 - 0xDC00) + 0x10000 = c.toNat := by omega
  rw [joinSurrogates, hc, Char.ofNat_toNat]

/-- Two code units stand for one character outside the basic plane. -/
theorem readStringAfter_pair {c : Char} {t u : Input} (hc : 0x10000 ≤ c.toNat)
    (ht : CodeUnit (0xD800 + (c.toNat - 0x10000) / 0x400) t)
    (hu : CodeUnit (0xDC00 + (c.toNat - 0x10000) % 0x400) u) (out : List Char) (s : Input) :
    readStringAfter out ('\\' :: 'u' :: (t ++ '\\' :: 'u' :: (u ++ s))) =
      readStringAfter (c :: out) s := by
  have hmax : c.toNat < 0x110000 := by
    have hv : c.toNat < 0xD800 ∨ 0xDFFF < c.toNat ∧ c.toNat < 0x110000 := c.valid
    omega
  obtain ⟨c₁, c₂, c₃, c₄, rfl, hhi⟩ := ht.hex4?
  obtain ⟨d₁, d₂, d₃, d₄, rfl, hlo⟩ := hu.hex4?
  have hlead : isTrailing (0xD800 + (c.toNat - 0x10000) / 0x400) = false ∧
      isLeading (0xD800 + (c.toNat - 0x10000) / 0x400) = true := by
    simp only [isTrailing, isLeading, Bool.and_eq_false_iff, Bool.and_eq_true,
      decide_eq_false_iff_not, decide_eq_true_iff]
    omega
  have htrail : isTrailing (0xDC00 + (c.toNat - 0x10000) % 0x400) = true := by
    simp only [isTrailing, Bool.and_eq_true, decide_eq_true_iff]
    omega
  rw [readStringAfter.eq_def]
  simp [letterEscape?, hhi, hlo, hlead, htrail, joinSurrogates_split hc]

/-- **Every spelling of a character is read as that character.** -/
theorem readStringAfter_charText {c : Char} {t : Input} (h : CharText c t) (out : List Char)
    (s : Input) : readStringAfter out (t ++ s) = readStringAfter (c :: out) s := by
  cases h with
  | plain hc => exact readStringAfter_plain hc.1 hc.2.1 (Nat.not_lt.mpr hc.2.2) out s
  | letter he => exact readStringAfter_letter (letterEscape?_of_mem he) out s
  | unit ht => exact readStringAfter_unit ht out s
  | pair hc ht hu =>
      simpa only [List.cons_append, List.append_assoc] using readStringAfter_pair hc ht hu out s

/-- A string is read up to its closing quote. -/
theorem readStringAfter_chars {cs : List Char} {t : Input} (h : Chars cs t) (out : List Char)
    (s : Input) :
    readStringAfter out (t ++ '"' :: s) = .ok (String.ofList (out.reverse ++ cs), s) := by
  induction h generalizing out with
  | nil => rw [List.nil_append, readStringAfter_quote, List.append_nil]
  | cons hc _ ih =>
      rw [List.append_assoc, readStringAfter_charText hc, ih, List.reverse_cons, List.append_assoc,
        List.singleton_append]

/-- **A string is read as what it says**, in whatever way each character is written. -/
theorem readString_chars {text : String} {t : Input} (h : Chars text.toList t) (s : Input) :
    readString (t ++ '"' :: s) = .ok (text, s) := by
  rw [readString, readStringAfter_chars h, List.reverse_nil, List.nil_append, String.ofList_toList]

end ModuleDocs.Json
