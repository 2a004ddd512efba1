import ModuleDocs.Markdown.Running
import ModuleDocs.Proofs.Blanks

/-!
# Proofs — Guarded text

An author who wants a text to stand for itself puts a backslash before its punctuation.  The parts
of the notation that hold text of the author's choice, the destination and the title of a link, are
then read back as the text that was meant.  Tags of HTML and addresses between pointed brackets hold
text as it is, and are read up to where they end.

* `guarded`: a text with its punctuation behind backslashes; `unescape_guarded` undoes it.
* `Unreferred`: no part of a text can be taken for a character reference, so that references may be
  replaced (`decodeReferences_eq_self`).
* `Target.write`, `inlineTarget?_write`: the target of a link.
* `RawTag`, `RawTag.behindMarkup?_inside`: a tag.
* `IsAddress`, `IsAddress.pointedAddress?_append`: an address.
-/

namespace ModuleDocs.Markdown

/-! ### Backslashes -/

/-- A character that stands for itself: punctuation of ASCII is written behind a backslash. -/
def guardChar (c : Char) : List Char := if isAsciiPunctuation c then ['\\', c] else [c]

/-- A text that stands for itself. -/
def guarded (cs : List Char) : List Char := cs.flatMap guardChar

theorem guarded_cons (c : Char) (cs : List Char) : guarded (c :: cs) = guardChar c ++ guarded cs :=
  rfl

theorem guarded_singleton (c : Char) : guarded [c] = guardChar c := List.flatMap_singleton ..

theorem guarded_append (cs ds : List Char) : guarded (cs ++ ds) = guarded cs ++ guarded ds :=
  List.flatMap_append

theorem guardChar_ne_nil (c : Char) : guardChar c ≠ [] := by
  unfold guardChar
  split <;> exact List.cons_ne_nil _ _

/-- Guarding makes no text shorter. -/
theorem length_le_guarded (cs : List Char) : cs.length ≤ (guarded cs).length := by
  induction cs with
  | nil => exact Nat.le_refl 0
  | cons c cs ih =>
      have := List.length_pos_iff.mpr (guardChar_ne_nil c)
      rw [guarded_cons, List.length_append, List.length_cons]
      omega

theorem guardChar_of_punctuation {c : Char} (h : isAsciiPunctuation c = true) :
    guardChar c = ['\\', c] := if_pos h

theorem guardChar_of_not_punctuation {c : Char} (h : isAsciiPunctuation c = false) :
    guardChar c = [c] := if_neg (Bool.eq_false_iff.mp h)

/-- A guarded character starts with a backslash, or it is no punctuation. -/
theorem head_guardChar (c : Char) :
    ∀ d ∈ (guardChar c).head?, d = '\\' ∨ d = c ∧ isAsciiPunctuation c = false := by
  cases hp : isAsciiPunctuation c with
  | true =>
      rw [guardChar_of_punctuation hp]
      exact Text.forall_head_cons (.inl rfl)
  | false =>
      rw [guardChar_of_not_punctuation hp]
      exact Text.forall_head_cons (.inr ⟨rfl, rfl⟩)

/-- A guarded character starts with no mark but the backslash. -/
theorem head_guardChar_ne {mark : Char} (hmark : isAsciiPunctuation mark = true)
    (hne : mark ≠ '\\') (c : Char) : ∀ d ∈ (guardChar c).head?, d ≠ mark := by
  intro d hd
  rcases head_guardChar c d hd with rfl | ⟨rfl, hp⟩
  · exact hne.symm
  · exact (Text.ne_of_kind hmark hp).symm

/-- Nor does a guarded text, if what stands behind it does not. -/
theorem head_guarded_ne {mark : Char} (hmark : isAsciiPunctuation mark = true) (hne : mark ≠ '\\')
    (cs : List Char) {rest : List Char} (hrest : ∀ d ∈ rest.head?, d ≠ mark) :
    ∀ d ∈ (guarded cs ++ rest).head?, d ≠ mark := by
  cases cs with
  | nil => exact hrest
  | cons c cs =>
      rw [guarded_cons, List.append_assoc, List.head?_append_of_ne_nil _ (guardChar_ne_nil c)]
      exact head_guardChar_ne hmark hne c

/-- Guarding brings in backslashes only. -/
theorem mem_guarded {cs : List Char} {d : Char} (h : d ∈ guarded cs) : d ∈ cs ∨ d = '\\' := by
  obtain ⟨c, hc, hd⟩ := List.mem_flatMap.mp h
  cases hp : isAsciiPunctuation c with
  | true =>
      rw [guardChar_of_punctuation hp] at hd
      rcases List.mem_cons.mp hd with rfl | hd
      · exact .inr rfl
      · exact .inl (List.mem_singleton.mp hd ▸ hc)
  | false =>
      rw [guardChar_of_not_punctuation hp] at hd
      exact .inl (List.mem_singleton.mp hd ▸ hc)

theorem unescape_cons_of_ne {c : Char} (h : c ≠ '\\') (cs : List Char) :
    unescape (c :: cs) = c :: unescape cs := by
  cases cs with
  | nil => simp [unescape]
  | cons d cs => rw [unescape]; simp [h]

/-- **Backslashes are undone.** -/
theorem unescape_guarded (cs : List Char) : unescape (guarded cs) = cs := by
  induction cs with
  | nil => rfl
  | cons c cs ih =>
      rw [guarded_cons]
      cases hp : isAsciiPunctuation c with
      | true =>
          rw [guardChar_of_punctuation hp, List.cons_append, List.singleton_append, unescape,
            if_pos hp, ih]
      | false =>
          have hc : c ≠ '\\' := (Text.ne_of_kind (p := isAsciiPunctuation) (by decide) hp).symm
          rw [guardChar_of_not_punctuation hp, List.singleton_append, unescape_cons_of_ne hc, ih]

/-! ### Blanks -/

/-- The blanks of the notation. -/
def spaces : List Char := [' ', '\t', '\n', '\x0b', '\x0c', '\r']

theorem mem_spaces {c : Char} (h : isSpace c = true) : c ∈ spaces := by
  have hcode : ∀ n ≤ 32, n = 32 ∨ 9 ≤ n ∧ n ≤ 13 → Char.ofNat n ∈ spaces := by decide
  rw [isSpace, Bool.or_eq_true, Bool.and_eq_true, beq_iff_eq, decide_eq_true_iff,
    decide_eq_true_iff, Char.le_def, Char.le_def, UInt32.le_iff_toNat_le,
    UInt32.le_iff_toNat_le] at h
  rw [← Char.ofNat_toNat c]
  rcases h with rfl | ⟨hlow, hhigh⟩
  · decide
  · refine hcode c.toNat ?_ (.inr ⟨hlow, hhigh⟩)
    exact Nat.le_trans hhigh (by decide)

/-- A character of a kind that no white space is of is no white space. -/
theorem isSpace_eq_false_of_kind {p : Char → Bool} {c : Char} (h : p c = true)
    (hp : ∀ d ∈ spaces, p d = false) : isSpace c = false := by
  rw [← Bool.not_eq_true]
  intro hc
  exact Bool.false_ne_true ((hp c (mem_spaces hc)).symm.trans h)

/-- The text neither starts nor ends with a blank of the notation. -/
def Trimmed (cs : List Char) : Prop :=
  (∀ c ∈ cs.head?, isSpace c = false) ∧ ∀ c ∈ cs.getLast?, isSpace c = false

instance (cs : List Char) : Decidable (Trimmed cs) := inferInstanceAs (Decidable (_ ∧ _))

theorem dropWhile_eq_self {p : Char → Bool} {cs : List Char} (h : ∀ c ∈ cs.head?, p c = false) :
    cs.dropWhile p = cs := by
  have hnil : ∀ c ∈ ([] : List Char), p c = true := List.forall_mem_nil _
  exact Text.dropWhile_run hnil h

/-- White space at the end is trimmed, up to where the text ends. -/
theorem trimEnd_append {cs blanks : List Char} (h : ∀ c ∈ cs.getLast?, isSpace c = false)
    (hb : ∀ c ∈ blanks, isSpace c = true) : trimEnd (cs ++ blanks) = cs := by
  rw [trimEnd, List.reverse_append, Text.dropWhile_run (by simpa using hb)
    (by rwa [List.head?_reverse]), List.reverse_reverse]

theorem trimEnd_eq_self {cs : List Char} (h : ∀ c ∈ cs.getLast?, isSpace c = false) :
    trimEnd cs = cs := by
  have happend := trimEnd_append h (List.forall_mem_nil (isSpace · = true))
  rwa [List.append_nil] at happend

/-- A trimmed text stays as it is. -/
theorem Trimmed.trimBoth_eq {cs : List Char} (h : Trimmed cs) : trimBoth cs = cs := by
  rw [trimBoth, dropWhile_eq_self h.1, trimEnd_eq_self h.2]

/-- Guarding brings in no white space. -/
theorem isSpace_of_guardChar {c d : Char} (hc : isSpace c = false) (hd : d ∈ guardChar c) :
    isSpace d = false := by
  have hmem : d ∈ guarded [c] := by rwa [guarded_singleton]
  rcases mem_guarded hmem with h | rfl
  · rwa [List.mem_singleton.mp h]
  · decide

/-- A trimmed text is still so when it is guarded. -/
theorem Trimmed.guarded {cs : List Char} (h : Trimmed cs) : Trimmed (guarded cs) := by
  constructor
  · intro d hd
    cases cs with
    | nil => cases hd
    | cons c cs =>
        rw [guarded_cons, List.head?_append_of_ne_nil _ (guardChar_ne_nil c)] at hd
        exact isSpace_of_guardChar (h.1 c rfl) (List.mem_of_mem_head? hd)
  · intro d hd
    obtain rfl | ⟨front, c, rfl⟩ := List.eq_nil_or_concat' cs
    · cases hd
    · rw [Markdown.guarded, List.flatMap_append, List.flatMap_singleton,
        List.getLast?_append_of_ne_nil _ (guardChar_ne_nil c)] at hd
      exact isSpace_of_guardChar (h.2 c (by simp)) (List.mem_of_getLast? hd)

/-! ### References -/

/-- No part of the text can be taken for a character reference. -/
def Unreferred (cs : List Char) : Prop := '&' ∈ cs → ';' ∉ cs

instance (cs : List Char) : Decidable (Unreferred cs) := inferInstanceAs (Decidable (_ → _))

/-- A character reference ends with a semicolon. -/
theorem reference?_eq_none {cs : List Char} (h : ';' ∉ cs) : reference? cs = none := by
  have hno : ∀ {l : List Char}, l <:+ cs → ∀ rest, l ≠ ';' :: rest := by
    rintro _ hl rest rfl
    exact h (hl.subset List.mem_cons_self)
  unfold reference?
  split
  next number =>
    have hsuffix {l : List Char} (hl : l <:+ number) : l <:+ '#' :: number :=
      hl.trans (List.suffix_cons '#' number)
    unfold numericReference?
    split
    next base limit digits rest hmatch =>
      have hrest : rest <:+ '#' :: number := by
        split at hmatch <;> cases hmatch
        · exact hsuffix ((List.dropWhile_suffix _).trans (List.suffix_cons _ _))
        · exact hsuffix ((List.dropWhile_suffix _).trans (List.suffix_cons _ _))
        · exact hsuffix (List.dropWhile_suffix _)
      split
      next => exact absurd rfl (hno hrest _)
      next => rfl
  next =>
    unfold namedReference?
    dsimp only
    split
    next hrest => exact absurd hrest (hno (List.drop_suffix _ _) _)
    next => rfl

/-- Without references there is nothing to replace. -/
theorem decodeReferencesFrom_eq_self {cs : List Char} (h : Unreferred cs) (n : Nat) :
    decodeReferencesFrom n cs = cs := by
  induction n generalizing cs with
  | zero => rfl
  | succ n ih =>
      cases cs with
      | nil => rfl
      | cons c cs =>
          have hrest : Unreferred cs := fun hand hsemi =>
            h (List.mem_cons_of_mem c hand) (List.mem_cons_of_mem c hsemi)
          rw [decodeReferencesFrom]
          by_cases hc : c = '&'
          · have hsemi : ';' ∉ cs := fun hmem =>
              h (hc ▸ List.mem_cons_self) (List.mem_cons_of_mem c hmem)
            rw [if_pos hc, reference?_eq_none hsemi]
            exact congrArg (c :: ·) (ih hrest)
          · rw [if_neg hc, ih hrest]

/-- **A text without references is left as it is.** -/
theorem decodeReferences_eq_self {cs : List Char} (h : Unreferred cs) : decodeReferences cs = cs :=
  decodeReferencesFrom_eq_self h cs.length

/-- Guarding brings in no reference. -/
theorem Unreferred.guarded {cs : List Char} (h : Unreferred cs) : Unreferred (guarded cs) := by
  have hmem : ∀ d, d ≠ '\\' → d ∈ Markdown.guarded cs → d ∈ cs := fun d hne hd =>
    (mem_guarded hd).resolve_right hne
  exact fun hand hsemi => h (hmem _ (by decide) hand) (hmem _ (by decide) hsemi)

/-- **A guarded text is read back as it was meant.** -/
theorem unquote_guarded {cs : List Char} (h : Unreferred cs) : unquote (guarded cs) = cs := by
  rw [unquote, decodeReferences_eq_self h.guarded, unescape_guarded]

/-! ### Targets -/

/-- The character may stand inside a line. -/
def InLine (c : Char) : Prop := c ≠ '\n' ∧ c ≠ '\r' ∧ c ≠ '\x00'

instance (c : Char) : Decidable (InLine c) := inferInstanceAs (Decidable (_ ∧ _))

/-- A character of a kind that no line end is of stays on its line. -/
theorem inLine_of_kind {p : Char → Bool} {c : Char} (h : p c = true)
    (hp : ∀ d ∈ ['\n', '\r', '\x00'], p d = false) : InLine c := by
  have hne : ∀ d ∈ ['\n', '\r', '\x00'], c ≠ d := fun d hd => Text.ne_of_kind h (hp d hd)
  exact ⟨hne _ (by decide), hne _ (by decide), hne _ (by decide)⟩

theorem inLine_guarded {cs : List Char} (h : ∀ c ∈ cs, InLine c) : ∀ c ∈ guarded cs, InLine c := by
  intro c hc
  rcases mem_guarded hc with hc | rfl
  · exact h c hc
  · decide

/-- A target as it is written behind the text of a link. -/
def Target.write (t : Target) : List Char :=
  '(' :: '<' :: (guarded t.url ++ '>' :: ' ' :: '"' :: (guarded t.title ++ ['"', ')']))

/-- The target can be written.  A title may not end with a backslash, which would be taken for the
guard of the quotes behind it. -/
structure Target.Writable (t : Target) : Prop where
  url : ∀ c ∈ t.url, InLine c
  url_trimmed : Trimmed t.url
  url_unreferred : Unreferred t.url
  title : ∀ c ∈ t.title, InLine c
  title_last : t.title.getLast? ≠ some '\\'
  title_unreferred : Unreferred t.title

instance (t : Target) : Decidable t.Writable :=
  decidable_of_iff ((∀ c ∈ t.url, InLine c) ∧ Trimmed t.url ∧ Unreferred t.url ∧
      (∀ c ∈ t.title, InLine c) ∧ t.title.getLast? ≠ some '\\' ∧ Unreferred t.title)
    ⟨fun h => ⟨h.1, h.2.1, h.2.2.1, h.2.2.2.1, h.2.2.2.2.1, h.2.2.2.2.2⟩,
      fun h => ⟨h.url, h.url_trimmed, h.url_unreferred, h.title, h.title_last, h.title_unreferred⟩⟩

/-- A character that is none of the four marks is taken. -/
theorem pointedDestination?_cons {c : Char} (h : ∀ d ∈ ['\n', '<', '>', '\\'], c ≠ d)
    (taken cs : List Char) :
    pointedDestination? taken (c :: cs) = pointedDestination? (c :: taken) cs := by
  simp only [List.forall_mem_cons, List.not_mem_nil] at h
  rw [pointedDestination?]
  · simp [h]
  · exact fun hc => absurd hc h.2.2.1
  · exact fun _ _ hc => absurd hc h.2.2.2.1

/-- A guarded address is taken up to the bracket that closes it. -/
theorem pointedDestination?_guarded {url : List Char} (h : ∀ c ∈ url, InLine c)
    (taken : List Char) (d : Char) (rest : List Char) :
    pointedDestination? taken (guarded url ++ '>' :: d :: rest) =
      some (taken.reverse ++ guarded url, d :: rest) := by
  induction url generalizing taken with
  | nil => simp [guarded, pointedDestination?]
  | cons c url ih =>
      have ih := ih fun e he => h e (List.mem_cons_of_mem c he)
      rw [guarded_cons, List.append_assoc]
      cases hp : isAsciiPunctuation c with
      | true =>
          rw [guardChar_of_punctuation hp, List.cons_append, List.singleton_append,
            pointedDestination?, ih]
          simp
      | false =>
          have hne : ∀ d ∈ ['\n', '<', '>', '\\'], c ≠ d := by
            have hkind : ∀ d ∈ ['<', '>', '\\'], isAsciiPunctuation d = true := by decide
            refine List.forall_mem_cons.mpr ⟨(h c List.mem_cons_self).1, fun d hd => ?_⟩
            exact (Text.ne_of_kind (hkind d hd) hp).symm
          rw [guardChar_of_not_punctuation hp, List.singleton_append, pointedDestination?_cons hne,
            ih]
          simp

/-- A title ends at the first quotes that stand behind no backslash. -/
theorem titleBody?_guarded (title : List Char) (last : Option (List Char × List Char))
    (taken : List Char) (h : (title.reverse ++ taken).head? ≠ some '\\') (rest : List Char) :
    titleBody? (fun _ => false) '"' last taken (guarded title ++ '"' :: rest) =
      some (taken.reverse ++ guarded title, rest) := by
  induction title generalizing last taken with
  | nil =>
      have hhead : (taken.head? == some '\\') = false := by simpa using h
      simp [guarded, titleBody?, hhead]
  | cons c title ih =>
      have hhead (before : List Char) : (title.reverse ++ c :: before).head? ≠ some '\\' := by
        rw [List.reverse_cons, List.append_assoc, List.singleton_append] at h
        cases htitle : title.reverse with
        | nil => rwa [htitle] at h
        | cons d ds => rwa [htitle] at h
      rw [guarded_cons, List.append_assoc]
      cases hp : isAsciiPunctuation c with
      | true =>
          have hguard : titleBody? (fun _ => false) '"' last taken
              ('\\' :: c :: (guarded title ++ '"' :: rest)) =
                titleBody? (fun _ => false) '"'
                  (if c = '"' then some (('\\' :: taken).reverse, guarded title ++ '"' :: rest)
                    else last)
                  (c :: '\\' :: taken) (guarded title ++ '"' :: rest) := by
            by_cases hc : c = '"' <;> simp [titleBody?, hc]
          rw [guardChar_of_punctuation hp, List.cons_append, List.singleton_append, hguard,
            ih _ _ (hhead _)]
          simp
      | false =>
          have hc : c ≠ '"' := (Text.ne_of_kind (p := isAsciiPunctuation) (by decide) hp).symm
          rw [guardChar_of_not_punctuation hp, List.singleton_append, titleBody?]
          simp only [hc, if_false, Bool.false_and, Bool.false_eq_true]
          rw [ih _ _ (hhead _)]
          simp

/-- **The target of a link is read as it was meant.** -/
theorem inlineTarget?_write {t : Target} (h : t.Writable) (rest : List Char) :
    Reading.inlineTarget? (t.write ++ rest) = some (t, rest) := by
  have hd : destination? (('<' :: (guarded t.url ++ '>' :: ' ' :: '"' ::
      (guarded t.title ++ '"' :: ')' :: rest))).dropWhile isSpace) =
        some (guarded t.url, ' ' :: '"' :: (guarded t.title ++ '"' :: ')' :: rest)) := by
    rw [dropWhile_eq_self (by simp [isSpace])]
    exact pointedDestination?_guarded h.url [] ' ' _
  have ht : title? ((' ' :: '"' :: (guarded t.title ++ '"' :: ')' :: rest)).dropWhile isSpace) =
      some (guarded t.title, ')' :: rest) := by
    have hlast : (t.title.reverse ++ []).head? ≠ some '\\' := by
      simpa [List.head?_reverse] using h.title_last
    exact titleBody?_guarded t.title none [] hlast _
  have htarget : Target.ofParts (guarded t.url) (guarded t.title) = t := by
    rw [Target.ofParts, h.url_trimmed.guarded.trimBoth_eq, unquote_guarded h.url_unreferred,
      unquote_guarded h.title_unreferred]
  have hwrite : t.write ++ rest = '(' :: '<' :: (guarded t.url ++ '>' :: ' ' :: '"' ::
      (guarded t.title ++ '"' :: ')' :: rest)) := by
    simp [Target.write]
  rw [hwrite, Reading.inlineTarget?]
  simp only [hd, ht, Option.bind_eq_bind, Option.bind_some, Option.getD_some]
  simp [isSpace, htarget]

theorem Target.Writable.inLine {t : Target} (h : t.Writable) : ∀ c ∈ t.write, InLine c := by
  simp only [Target.write, List.forall_mem_cons, List.forall_mem_append]
  exact ⟨by decide, by decide, inLine_guarded h.url, by decide, by decide, by decide,
    inLine_guarded h.title, by decide⟩

/-! ### Tags -/

/-- A tag of HTML, as an author may write it. -/
inductive RawTag where
  | opening (name : List Char) (attributes : List (List Char × List Char))
  | closing (name : List Char)
deriving DecidableEq, Repr

/-- An attribute with the blank before it. -/
def writeAttribute (a : List Char × List Char) : List Char :=
  ' ' :: a.1 ++ '=' :: '"' :: a.2 ++ ['"']

/-- The tag behind its first `<`. -/
def RawTag.inside : RawTag → List Char
  | .opening name attributes => name ++ attributes.flatMap writeAttribute ++ ['>']
  | .closing name => '/' :: name ++ ['>']

/-- The name of a tag starts with a letter and goes on with letters, digits and hyphens. -/
def IsTagName (name : List Char) : Prop :=
  (∃ c ∈ name.head?, c.isAlpha = true) ∧ ∀ c ∈ name, isTagChar c = true

instance (name : List Char) : Decidable (IsTagName name) := inferInstanceAs (Decidable (_ ∧ _))

/-- The attribute can be written in a tag. -/
def IsRawAttribute (a : List Char × List Char) : Prop :=
  (∃ c ∈ a.1.head?, isAttributeStart c = true) ∧ (∀ c ∈ a.1, isAttributeChar c = true) ∧
    ∀ c ∈ a.2, InLine c ∧ c ≠ '"'

instance (a : List Char × List Char) : Decidable (IsRawAttribute a) :=
  inferInstanceAs (Decidable (_ ∧ _ ∧ _))

/-- The tag is well formed. -/
def RawTag.WellFormed : RawTag → Prop
  | .opening name attributes => IsTagName name ∧ ∀ a ∈ attributes, IsRawAttribute a
  | .closing name => IsTagName name

instance (t : RawTag) : Decidable t.WellFormed :=
  match t with
  | .opening _ _ => inferInstanceAs (Decidable (_ ∧ _))
  | .closing name => inferInstanceAs (Decidable (IsTagName name))

/-- The name of a tag is read as long as its characters go on. -/
theorem behindTagName?_append {name : List Char} (h : IsTagName name) {rest : List Char}
    (hrest : ∀ c ∈ rest.head?, isTagChar c = false) :
    behindTagName? (name ++ rest) = some rest := by
  obtain ⟨⟨c, hhead, halpha⟩, hall⟩ := h
  cases name with
  | nil => cases hhead
  | cons d name =>
      obtain rfl : d = c := Option.some.inj hhead
      rw [List.cons_append, behindTagName?, if_pos halpha,
        Text.dropWhile_run (fun e he => hall e (List.mem_cons_of_mem d he)) hrest]

/-- A mark is found where it stands first. -/
theorem behindFirst?_singleton {mark : Char} {cs : List Char} (h : mark ∉ cs) (rest : List Char) :
    behindFirst? [mark] (cs ++ mark :: rest) = some rest := by
  induction cs with
  | nil => simp [behindFirst?]
  | cons c cs ih =>
      rw [List.mem_cons, not_or] at h
      rw [List.cons_append, behindFirst?, if_neg (by simp [h.1]), ih h.2]

/-- One attribute. -/
theorem behindAttributes?_cons {a : List Char × List Char} (h : IsRawAttribute a) (n : Nat)
    (rest : List Char) :
    behindAttributes? (n + 1) (writeAttribute a ++ rest) = behindAttributes? n rest := by
  obtain ⟨key, value⟩ := a
  obtain ⟨⟨c, hhead, hstart⟩, hkey, hvalue⟩ := h
  cases key with
  | nil => cases hhead
  | cons d key =>
      obtain rfl : d = c := Option.some.inj hhead
      have hwrite : writeAttribute (d :: key, value) ++ rest =
          ' ' :: d :: (key ++ '=' :: '"' :: (value ++ '"' :: rest)) := by
        simp [writeAttribute]
      have hspace : isSpace d = false := isSpace_eq_false_of_kind hstart (by decide)
      have hinner : (' ' :: d :: (key ++ '=' :: '"' :: (value ++ '"' :: rest))).dropWhile isSpace =
          d :: (key ++ '=' :: '"' :: (value ++ '"' :: rest)) := by
        rw [List.dropWhile_cons_of_pos (by decide), List.dropWhile_cons_of_neg (by simp [hspace])]
      have hnamed : (key ++ '=' :: '"' :: (value ++ '"' :: rest)).dropWhile isAttributeChar =
          '=' :: '"' :: (value ++ '"' :: rest) :=
        Text.dropWhile_run (fun e he => hkey e (List.mem_cons_of_mem d he))
          (Text.forall_head_cons (by decide))
      have hquoted : behindAttributeValue? ('"' :: (value ++ '"' :: rest)) = some rest := by
        rw [behindAttributeValue?, if_pos (by decide)]
        exact behindFirst?_singleton (fun hmem => (hvalue _ hmem).2 rfl) rest
      rw [hwrite, behindAttributes?]
      simp only [hinner]
      split
      next heq => exact absurd (List.cons.inj heq).1 (Text.ne_of_kind hstart (by decide))
      next heq => exact absurd (List.cons.inj heq).1 (Text.ne_of_kind hstart (by decide))
      next heq =>
        obtain ⟨rfl, rfl⟩ := List.cons.inj heq
        rw [if_pos (by simp [hstart]), hnamed,
          dropWhile_eq_self (Text.forall_head_cons (by decide))]
        show (behindAttributeValue? (('"' :: (value ++ '"' :: rest)).dropWhile isSpace)).bind _ = _
        rw [dropWhile_eq_self (Text.forall_head_cons (by decide)), hquoted, Option.bind_some]
      next heq => cases heq

/-- Attributes are read one after the other, up to the bracket. -/
theorem behindAttributes?_write {attributes : List (List Char × List Char)}
    (h : ∀ a ∈ attributes, IsRawAttribute a) {n : Nat} (hn : attributes.length < n)
    (rest : List Char) :
    behindAttributes? n (attributes.flatMap writeAttribute ++ '>' :: rest) = some rest := by
  induction attributes generalizing n with
  | nil =>
      obtain ⟨n, rfl⟩ : ∃ m, n = m + 1 := ⟨n - 1, by omega⟩
      simp [behindAttributes?, isSpace]
  | cons a attributes ih =>
      obtain ⟨n, rfl⟩ : ∃ m, n = m + 1 := ⟨n - 1, by omega⟩
      rw [List.flatMap_cons, List.append_assoc,
        behindAttributes?_cons (h a List.mem_cons_self)]
      exact ih (fun b hb => h b (List.mem_cons_of_mem a hb)) (by simpa using hn)

/-- A tag name starts with a letter, and so with no mark. -/
theorem IsTagName.head_ne {name : List Char} (h : IsTagName name) (rest : List Char) {d : Char}
    (hd : d.isAlpha = false) : ∀ c ∈ (name ++ rest).head?, c ≠ d := by
  obtain ⟨⟨c, hhead, halpha⟩, -⟩ := h
  intro e he
  rw [List.head?_append, hhead] at he
  obtain rfl : c = e := Option.some.inj he
  exact Text.ne_of_kind halpha hd

theorem behindMarkup?_eq_behindTag? {cs : List Char} (h : ∀ c ∈ cs.head?, c ≠ '!')
    (h' : ∀ c ∈ cs.head?, c ≠ '?') : behindMarkup? cs = behindTag? cs := by
  unfold behindMarkup?
  split
  case h_6 => exact absurd rfl (h' _ rfl)
  case h_7 => rfl
  all_goals exact absurd rfl (h _ rfl)

/-- What does not start with a slash is read as an opening tag. -/
theorem behindTag?_opening {cs : List Char} (h : ∀ c ∈ cs.head?, c ≠ '/') :
    behindTag? cs =
      (behindTagName? cs).bind fun rest => behindAttributes? (rest.length + 1) rest := by
  unfold behindTag?
  split
  next => exact absurd rfl (h _ rfl)
  next => rfl

/-- **A tag is read up to its end.** -/
theorem RawTag.behindMarkup?_inside {t : RawTag} (h : t.WellFormed) (rest : List Char) :
    behindMarkup? (t.inside ++ rest) = some rest := by
  cases t with
  | opening name attributes =>
      obtain ⟨hname, hattributes⟩ := h
      have hend : ∀ c ∈ (attributes.flatMap writeAttribute ++ '>' :: rest).head?,
          isTagChar c = false := by
        cases attributes with
        | nil => exact Text.forall_head_cons (by decide)
        | cons a attributes => exact Text.forall_head_cons (by decide)
      have hlength : ∀ l : List (List Char × List Char),
          l.length ≤ (l.flatMap writeAttribute).length := by
        intro l
        induction l with
        | nil => exact Nat.le_refl 0
        | cons a l ih =>
            rw [List.flatMap_cons, List.length_append, List.length_cons]
            have : 0 < (writeAttribute a).length := by simp [writeAttribute]
            omega
      rw [inside, List.append_assoc, List.append_assoc, List.singleton_append,
        behindMarkup?_eq_behindTag? (hname.head_ne _ (by decide)) (hname.head_ne _ (by decide)),
        behindTag?_opening (hname.head_ne _ (by decide)), behindTagName?_append hname hend,
        Option.bind_some, behindAttributes?_write hattributes]
      have := hlength attributes
      simp only [List.length_append, List.length_cons]
      omega
  | closing name =>
      have hname : IsTagName name := h
      have hclosing : behindTag? ('/' :: (name ++ '>' :: rest)) = some rest := by
        rw [behindTag?, behindTagName?_append hname (Text.forall_head_cons (by decide)),
          Option.bind_some, dropWhile_eq_self (Text.forall_head_cons (by decide))]
        rfl
      rw [inside, List.cons_append, List.cons_append, List.append_assoc, List.singleton_append,
        behindMarkup?_eq_behindTag? (Text.forall_head_cons (by decide))
          (Text.forall_head_cons (by decide)), hclosing]

/-- A tag is its name, perhaps behind a slash, and then a blank or its end. -/
theorem RawTag.exists_inside {t : RawTag} (h : t.WellFormed) (rest : List Char) :
    ∃ slash name, (slash = [] ∨ slash = ['/']) ∧ IsTagName name ∧
      ∃ ending after, (ending = ' ' ∨ ending = '>') ∧
        t.inside ++ rest = slash ++ (name ++ ending :: after) := by
  cases t with
  | opening name attributes =>
      refine ⟨[], name, .inl rfl, h.1, ?_⟩
      cases attributes with
      | nil => exact ⟨'>', rest, .inr rfl, by simp [inside]⟩
      | cons a attributes => exact ⟨' ', _, .inl rfl, by simp [inside, writeAttribute]; rfl⟩
  | closing name => exact ⟨['/'], name, .inr rfl, h, '>', rest, .inr rfl, by simp [inside]⟩

/-- The characters of a tag's name are of every kind that has letters, digits and hyphens. -/
theorem IsTagName.kind {name : List Char} (h : IsTagName name) {p : Char → Bool}
    (halnum : ∀ c, c.isAlphanum = true → p c = true) (hhyphen : p '-' = true) :
    ∀ c ∈ name, p c = true := by
  intro c hc
  have htag := h.2 c hc
  rw [isTagChar, Bool.or_eq_true, beq_iff_eq] at htag
  rcases htag with hc | rfl
  · exact halnum c hc
  · exact hhyphen

/-- A tag is no address, since a blank or its end stands behind its name. -/
theorem RawTag.not_address {t : RawTag} (h : t.WellFormed) (rest : List Char) :
    pointedAddress? (t.inside ++ rest) = none ∧ pointedMail? (t.inside ++ rest) = none := by
  obtain ⟨slash, name, hslash, hname, ending, after, hending, heq⟩ := exists_inside h rest
  rw [heq]
  constructor
  · rcases hslash with rfl | rfl
    · have hscheme : (name ++ ending :: after).takeWhile
          (fun c => c.isAlphanum || "+.-".toList.contains c) = name := by
        refine Text.takeWhile_run (hname.kind (fun c hc => by simp [hc]) (by decide))
          (Text.forall_head_cons ?_)
        rcases hending with rfl | rfl <;> decide
      rw [List.nil_append, pointedAddress?, hscheme, List.drop_left]
      rcases hending with rfl | rfl <;> simp
    · simp [pointedAddress?]
  · have huser : (slash ++ (name ++ ending :: after)).takeWhile (fun c : Char =>
        c.isAlphanum || ".!#$%&'*+/=?^_\x60\x7b|\x7d~-".toList.contains c) = slash ++ name := by
      rw [← List.append_assoc]
      refine Text.takeWhile_run (fun c hc => ?_) (Text.forall_head_cons ?_)
      · rcases List.mem_append.mp hc with hc | hc
        · rcases hslash with rfl | rfl
          · cases hc
          · obtain rfl := List.mem_singleton.mp hc
            decide
        · exact hname.kind (p := fun c => c.isAlphanum ||
            ".!#$%&'*+/=?^_\x60\x7b|\x7d~-".toList.contains c) (fun c hc => by simp [hc])
            (by decide) c hc
      · rcases hending with rfl | rfl <;> decide
    rw [pointedMail?, huser, ← List.append_assoc, List.drop_left]
    rcases hending with rfl | rfl <;> rfl

theorem IsTagName.inLine {name : List Char} (h : IsTagName name) : ∀ c ∈ name, InLine c :=
  fun c hc => inLine_of_kind (h.2 c hc) (by decide)

theorem IsRawAttribute.inLine {a : List Char × List Char} (h : IsRawAttribute a) :
    ∀ c ∈ writeAttribute a, InLine c := by
  obtain ⟨-, hkey, hvalue⟩ := h
  simp only [writeAttribute, List.forall_mem_cons, List.forall_mem_append]
  exact ⟨⟨⟨by decide, fun c hc => inLine_of_kind (hkey c hc) (by decide)⟩, by decide, by decide,
    fun c hc => (hvalue c hc).1⟩, by decide⟩

theorem RawTag.WellFormed.inLine {t : RawTag} (h : t.WellFormed) : ∀ c ∈ t.inside, InLine c := by
  cases t with
  | opening name attributes =>
      simp only [RawTag.inside, List.forall_mem_append, List.forall_mem_flatMap]
      exact ⟨⟨h.1.inLine, fun a ha => (h.2 a ha).inLine⟩, by decide⟩
  | closing name =>
      simp only [RawTag.inside, List.forall_mem_append, List.forall_mem_cons]
      exact ⟨⟨by decide, IsTagName.inLine h⟩, by decide⟩

/-! ### Addresses -/

/-- A character of a scheme. -/
def isSchemeChar (c : Char) : Bool := c.isAlphanum || "+.-".toList.contains c

/-- An address that may stand between pointed brackets: a scheme, and what follows its colon. -/
structure IsAddress (scheme path : List Char) : Prop where
  alpha : ∃ c ∈ scheme.head?, c.isAlpha = true
  size : 2 ≤ scheme.length ∧ scheme.length ≤ 32
  unreferred : Unreferred path
  scheme_chars : ∀ c ∈ scheme, isSchemeChar c = true
  path_chars : ∀ c ∈ path, ' ' < c ∧ c ≠ '<' ∧ c ≠ '>'

instance (scheme path : List Char) : Decidable (IsAddress scheme path) :=
  decidable_of_iff ((∃ c ∈ scheme.head?, c.isAlpha = true) ∧
      (2 ≤ scheme.length ∧ scheme.length ≤ 32) ∧ Unreferred path ∧
      (∀ c ∈ scheme, isSchemeChar c = true) ∧ ∀ c ∈ path, ' ' < c ∧ c ≠ '<' ∧ c ≠ '>')
    ⟨fun h => ⟨h.1, h.2.1, h.2.2.1, h.2.2.2.1, h.2.2.2.2⟩,
      fun h => ⟨h.alpha, h.size, h.unreferred, h.scheme_chars, h.path_chars⟩⟩

namespace IsAddress

variable {scheme path : List Char}

/-- **An address is read up to its bracket.** -/
theorem pointedAddress?_append (h : IsAddress scheme path) (rest : List Char) :
    pointedAddress? (scheme ++ ':' :: (path ++ '>' :: rest)) =
      some (scheme ++ ':' :: path, rest) := by
  have hscheme : (scheme ++ ':' :: (path ++ '>' :: rest)).takeWhile
      (fun c => c.isAlphanum || "+.-".toList.contains c) = scheme :=
    Text.takeWhile_run h.scheme_chars (Text.forall_head_cons (by decide))
  have hpath : (path ++ '>' :: rest).takeWhile (fun c => ' ' < c && c != '<' && c != '>') = path :=
    Text.takeWhile_run (fun c hc => by simp [h.path_chars c hc]) (Text.forall_head_cons (by decide))
  have hstart : scheme.head?.all (·.isAlpha) = true := by
    obtain ⟨c, hc, halpha⟩ := h.alpha
    rw [hc]
    exact halpha
  rw [pointedAddress?, hscheme, hstart]
  simp [h.size, hpath]

/-- The scheme of an address brings in no reference. -/
theorem unreferred_append (h : IsAddress scheme path) : Unreferred (scheme ++ ':' :: path) := by
  have hpath : ∀ d, isSchemeChar d = false → d ≠ ':' → d ∈ scheme ++ ':' :: path → d ∈ path := by
    intro d hd hcolon hmem
    rcases List.mem_append.mp hmem with hmem | hmem
    · exact absurd (h.scheme_chars d hmem) (by simp [hd])
    · exact (List.mem_cons.mp hmem).resolve_left hcolon
  exact fun hand hsemi => h.unreferred (hpath _ (by decide) (by decide) hand)
    (hpath _ (by decide) (by decide) hsemi)

/-- There is no white space in an address. -/
theorem trimmed (h : IsAddress scheme path) : Trimmed (scheme ++ ':' :: path) := by
  have hspace : ∀ c ∈ scheme ++ ':' :: path, isSpace c = false := by
    intro c hc
    rcases List.mem_append.mp hc with hc | hc
    · exact isSpace_eq_false_of_kind (h.scheme_chars c hc) (by decide)
    · rcases List.mem_cons.mp hc with rfl | hc
      · decide
      · exact isSpace_eq_false_of_kind (p := fun c => ' ' < c) (by simp [h.path_chars c hc])
          (by decide)
  exact ⟨fun c hc => hspace c (List.mem_of_mem_head? hc),
    fun c hc => hspace c (List.mem_of_getLast? hc)⟩

theorem inLine (h : IsAddress scheme path) : ∀ c ∈ scheme ++ ':' :: path, InLine c := by
  simp only [List.forall_mem_append, List.forall_mem_cons]
  refine ⟨fun c hc => inLine_of_kind (h.scheme_chars c hc) (by decide), by decide, fun c hc => ?_⟩
  exact inLine_of_kind (p := fun c => ' ' < c) (by simp [h.path_chars c hc]) (by decide)

/-- The link of an address points to it and shows it. -/
theorem addressLink_eq (h : IsAddress scheme path) :
    Reading.addressLink [] (scheme ++ ':' :: path) =
      .link ⟨scheme ++ ':' :: path, []⟩ [.text (scheme ++ ':' :: path)] := by
  rw [Reading.addressLink, h.trimmed.trimBoth_eq, decodeReferences_eq_self h.unreferred_append,
    List.nil_append]

end IsAddress

end ModuleDocs.Markdown
