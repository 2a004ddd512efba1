import ModuleDocs.Proofs.Sorting
import ModuleDocs.Text.Utf8

/-!
# Proofs — The order of names

Members are listed in the order of their names.  Names are compared by their bytes in UTF-8, and
this is the order of their code points: the first byte of a character tells how many bytes there
are, more bytes for greater codes, and the bytes are the digits of the code, the highest one first.

* `encodeChar_eq`: the bytes of a character as the digits of its code in base 64.
* `encodeChar_lt`: a smaller character has smaller bytes, whatever follows it.
* `encode_le_iff`: texts by their bytes are texts by their code points.
* `sortByName_exact`: what sorting by name does to a list of comments.
-/

namespace ModuleDocs

namespace Text

/-! ### The bytes of a text -/

theorem toList_loop (bytes : ByteArray) (i : Nat) (out : List UInt8) :
    ByteArray.toList.loop bytes i out = out.reverse ++ bytes.data.toList.drop i := by
  fun_induction ByteArray.toList.loop bytes i out with
  | case1 i out hi ih =>
      have hi' : i < bytes.data.toList.length := by simpa using hi
      rw [ih, List.drop_eq_getElem_cons hi', List.reverse_cons, List.append_assoc,
        List.singleton_append]
      congr 2
      rw [Array.getElem_toList]
      exact getElem!_pos bytes.data i (by simpa using hi)
  | case2 i out hi =>
      have hi' : bytes.data.toList.length ≤ i := by simpa using hi
      rw [List.drop_eq_nil_of_le hi', List.append_nil]

/-- The bytes of a text are those of its characters in a row. -/
theorem encode_eq (s : String) : encode s = s.toList.flatMap String.utf8EncodeChar := by
  rw [encode, ByteArray.toList, toList_loop, List.reverse_nil, List.nil_append, List.drop_zero,
    String.toUTF8_eq_toByteArray]
  conv_lhs => rw [← String.ofList_toList (s := s)]
  exact List.data_toByteArray ▸ rfl

/-! ### The bytes of a character -/

/-- The number of bytes that continue the character of a code. -/
def continuations (n : Nat) : Nat :=
  if n ≤ 0x7F then 0 else if n ≤ 0x7FF then 1 else if n ≤ 0xFFFF then 2 else 3

/-- The mark on the first byte of a character that `k` bytes continue. -/
def leadMark : Nat → Nat
  | 0 => 0
  | 1 => 0xC0
  | 2 => 0xE0
  | _ => 0xF0

/-- The first byte of the character of a code. -/
def leadByte (n : Nat) : Nat := n / 64 ^ continuations n + leadMark (continuations n)

/-- The last `k` digits of a number in base 64, as bytes that continue a character. -/
def continued : Nat → Nat → List UInt8
  | 0, _ => []
  | k + 1, n => UInt8.ofNat (n / 64 ^ k % 64 + 0x80) :: continued k n

theorem toNat_lt (c : Char) : c.toNat < 0x110000 := by
  rcases c.valid with h | h
  · exact Nat.lt_trans h (by decide)
  · exact h.2

theorem leadByte_lt {n : Nat} (h : n < 0x110000) : leadByte n < 256 := by
  unfold leadByte continuations
  split_ifs <;> simp only [leadMark] <;> omega

/-- A character is a first byte and its continuations. -/
theorem encodeChar_eq (c : Char) : String.utf8EncodeChar c =
    UInt8.ofNat (leadByte c.toNat) :: continued (continuations c.toNat) c.toNat := by
  have hc := toNat_lt c
  have hval : c.val.toNat = c.toNat := rfl
  simp only [String.utf8EncodeChar, leadByte, continuations, hval]
  split_ifs
  · simp [continued, leadMark]
  · have hdigit : c.toNat / 64 % 32 = c.toNat / 64 := by omega
    simp [continued, leadMark, hdigit]
  · have hdigit : c.toNat / 4096 % 16 = c.toNat / 4096 := by omega
    simp [continued, leadMark, hdigit]
  · have hdigit : c.toNat / 262144 % 8 = c.toNat / 262144 := by omega
    simp [continued, leadMark, hdigit]

/-! ### Smaller characters -/

theorem ofNat_lt {m n : Nat} (h : m < n) (hn : n < 256) : UInt8.ofNat m < UInt8.ofNat n := by
  rw [UInt8.lt_iff_toNat_lt, UInt8.toNat_ofNat', UInt8.toNat_ofNat', Nat.mod_eq_of_lt hn,
    Nat.mod_eq_of_lt (Nat.lt_trans h hn)]
  exact h

/-- A smaller code has a smaller first byte, or as many bytes and the same first one. -/
theorem leadByte_lt_or {m n : Nat} (h : m < n) : leadByte m < leadByte n ∨
    continuations m = continuations n ∧
      m / 64 ^ continuations n = n / 64 ^ continuations n := by
  unfold leadByte continuations
  split_ifs <;> simp only [leadMark, true_and] <;> omega

/-- Numbers that agree before their last digits compare by these. -/
theorem continued_lt {k m n : Nat} (hq : m / 64 ^ k = n / 64 ^ k) (h : m < n) (us vs : List UInt8) :
    continued k m ++ us < continued k n ++ vs := by
  induction k with
  | zero =>
      rw [pow_zero, Nat.div_one, Nat.div_one] at hq
      exact absurd hq h.ne
  | succ k ih =>
      rw [pow_succ, ← Nat.div_div_eq_div_mul, ← Nat.div_div_eq_div_mul] at hq
      have hle : m / 64 ^ k ≤ n / 64 ^ k := Nat.div_le_div_right h.le
      rw [continued, continued, List.cons_append, List.cons_append, List.cons_lt_cons_iff]
      rcases hle.lt_or_eq with hlt | heq
      · left
        exact ofNat_lt (by omega) (by omega)
      · right
        exact ⟨by rw [heq], ih heq⟩

/-- **A smaller character has smaller bytes,** whatever follows it. -/
theorem encodeChar_lt {c d : Char} (h : c < d) (us vs : List UInt8) :
    String.utf8EncodeChar c ++ us < String.utf8EncodeChar d ++ vs := by
  have hcode : c.toNat < d.toNat := UInt32.lt_iff_toNat_lt.mp h
  rw [encodeChar_eq, encodeChar_eq, List.cons_append, List.cons_append, List.cons_lt_cons_iff]
  rcases leadByte_lt_or hcode with hlt | ⟨hk, hq⟩
  · left
    exact ofNat_lt hlt (leadByte_lt (toNat_lt d))
  · right
    refine ⟨by rw [leadByte, leadByte, hk, hq], ?_⟩
    rw [hk]
    exact continued_lt hq hcode us vs

/-! ### Smaller texts -/

/-- Texts in order have bytes in order. -/
theorem flatMap_encodeChar_lt {cs ds : List Char} (h : cs < ds) :
    cs.flatMap String.utf8EncodeChar < ds.flatMap String.utf8EncodeChar := by
  rw [← List.lex_lt] at h
  induction h with
  | nil =>
      rw [List.flatMap_nil, List.flatMap_cons, encodeChar_eq, List.cons_append]
      exact List.nil_lt_cons _ _
  | cons _ ih =>
      rw [List.flatMap_cons, List.flatMap_cons]
      exact List.append_left_lt ih
  | rel hcd =>
      rw [List.flatMap_cons, List.flatMap_cons]
      exact encodeChar_lt hcd _ _

theorem map_toNat_lt {cs ds : List Char} (h : cs < ds) :
    cs.map Char.toNat < ds.map Char.toNat := by
  rw [← List.lex_lt] at h ⊢
  induction h with
  | nil => exact .nil
  | cons _ ih => exact .cons ih
  | rel hcd => exact .rel (UInt32.lt_iff_toNat_lt.mp hcd)

/-- What grows with a text tells texts apart, and in their order. -/
theorem lt_iff_of_growing {β : Type} [LT β] [Std.Asymm (· < · : β → β → Prop)]
    {f : String → List β} (hf : ∀ s t, s < t → f s < f t) (s t : String) :
    f s < f t ↔ s < t := by
  refine ⟨fun h => ?_, hf s t⟩
  rcases lt_trichotomy s t with hlt | rfl | hgt
  · exact hlt
  · exact absurd h (List.lt_irrefl (f s))
  · exact absurd h (List.lt_asymm (hf t s hgt))

/-- **The order of bytes is the order of texts,** which are compared character by character. -/
theorem encode_lt_iff (s t : String) : encode s < encode t ↔ s < t :=
  lt_iff_of_growing (fun s t h => by
    rw [encode_eq, encode_eq]
    exact flatMap_encodeChar_lt (String.lt_iff_toList_lt.mp h)) s t

/-- **The order of names is that of their bytes.** -/
theorem encode_le_iff (s t : String) : encode s ≤ encode t ↔ s ≤ t := by
  rw [← List.not_lt, encode_lt_iff, not_lt]

/-- The order of names is that of their codes. -/
theorem codes_lt_iff (s t : String) :
    s.toList.map Char.toNat < t.toList.map Char.toNat ↔ s < t :=
  lt_iff_of_growing (f := fun s => s.toList.map Char.toNat)
    (fun _ _ h => map_toNat_lt (String.lt_iff_toList_lt.mp h)) s t

end Text

/-! ### Comments -/

/-- **Sorting by name.**  Comments without an entity count as having the empty name.  The sorted
list has the comments of the list, by the bytes of their names, which is also by their code points,
and those of one name keep their order; no other list is like this.  Sorting again changes nothing,
and sorting a part of the list gives a part of the sorted list. -/
theorem sortByName_exact (cs : List Comment) :
    (∀ c : Comment, c.name = match c.context with
      | some context => context.name
      | none => "") ∧
      (sortByName cs).Perm cs ∧
      (sortByName cs).Pairwise (fun a b => Text.encode a.name ≤ Text.encode b.name) ∧
      (∀ s t : String, Text.encode s < Text.encode t ↔
        s.toList.map Char.toNat < t.toList.map Char.toNat) ∧
      (∀ n, (sortByName cs).filter (·.name = n) = cs.filter (·.name = n)) ∧
      (∀ l : List Comment, l.Pairwise (fun a b => Text.encode a.name ≤ Text.encode b.name) →
        (∀ n, l.filter (·.name = n) = cs.filter (·.name = n)) → l = sortByName cs) ∧
      sortByName (sortByName cs) = sortByName cs ∧
      ∀ part : List Comment, part.Sublist cs → (sortByName part).Sublist (sortByName cs) := by
  have hsorted : StableSort cs (sortByName cs) := stableSort_iff.mpr rfl
  refine ⟨fun c => ?_, List.mergeSort_perm cs _, ?_, fun s t => ?_, hsorted.stable,
    fun l hl hstable => ?_, ?_, fun _ => sortByName_sublist⟩
  · cases hc : c.context with
    | none => simp [Comment.name, hc]
    | some context => simp [Comment.name, hc]
  · exact hsorted.ordered.imp fun h => (Text.encode_le_iff _ _).mpr h
  · rw [Text.encode_lt_iff, Text.codes_lt_iff]
  · exact stableSort_iff.mp ⟨hl.imp fun h => (Text.encode_le_iff _ _).mp h, hstable⟩
  · exact (stableSort_iff.mp ⟨hsorted.ordered, fun _ => rfl⟩).symm

/-- A name beyond the first 65536 code points comes behind one before them, though the first of its
two units in UTF-16 is the smaller one; names of one start come by their length. -/
theorem sortByName_exact_wide :
    let named (name description : String) : Comment :=
      { context := some { kind := .function, name }, description }
    let cs := [named "😀" "1", named "�" "2", { description := "3" }, named "😀" "4", named "e" "5",
      named "ee" "6"]
    let sorted := [{ description := "3" }, named "e" "5", named "ee" "6", named "�" "2",
      named "😀" "1", named "😀" "4"]
    StableSort cs sorted ∧ sorted = sortByName cs ∧ (cs.drop 3).Sublist cs ∧
      (sortByName (cs.drop 3)).Sublist sorted := by
  intro named cs sorted
  have hsorted : StableSort cs sorted := by decide +kernel
  have hexact := sortByName_exact cs
  have heq : sorted = sortByName cs := hexact.2.2.2.2.2.1 sorted
    (hsorted.ordered.imp fun h => (Text.encode_le_iff _ _).mpr h) hsorted.stable
  refine ⟨hsorted, heq, List.drop_sublist 3 cs, ?_⟩
  rw [heq]
  exact hexact.2.2.2.2.2.2.2 _ (List.drop_sublist 3 cs)

end ModuleDocs
