import ModuleDocs.Proofs.Blanks
import ModuleDocs.Proofs.Grammar

/-!
# Proofs — Passing over values

Where nothing is wanted of a value, any text of the grammar is passed over, and nothing more.

* `Opens`, `Delimited`: how a value starts, and what may follow one.
* `Passed v`: the walk with its stack of open lists and objects passes over the value, in a number
  of steps that its length bounds.  `Held f first u`: so it does over what is left of a list or
  object.
* `skipValue_isValue`: a value of any kind and depth is passed over.
-/

namespace ModuleDocs.Json

/-! ### Around values -/

/-- The text starts with none of the characters that are looked for in front of an element. -/
def Opens (t : Input) : Prop := ∃ c u, t = c :: u ∧ isSpace c = false ∧ c ≠ ']'

/-- There is no space to skip before something that opens. -/
theorem Opens.skipSpace_append {t : Input} (h : Opens t) (s : Input) :
    skipSpace (t ++ s) = t ++ s := by
  obtain ⟨c, u, rfl, hc, -⟩ := h
  exact skipSpace_cons hc (u ++ s)

/-- Behind a gap an item starts. -/
theorem itemStart_opens {first : Bool} {w t : Input} (hg : Gap first w) (h : Opens t) (s : Input) :
    itemStart first (w ++ (t ++ s)) = .ok (some (t ++ s)) := by
  obtain ⟨c, u, rfl, hc, hend⟩ := h
  exact itemStart_cons hg hc hend (u ++ s)

/-- What may follow a value: nothing, a blank, or a mark that ends an element. -/
def Delimited (s : Input) : Prop :=
  ∀ c, s.head? = some c → isSpace c = true ∨ c = ',' ∨ c = ']' ∨ c = '\x7d'

theorem delimited_comma (s : Input) : Delimited (',' :: s) := by
  rintro c ⟨⟩
  exact .inr (.inl rfl)

/-- The closer of a frame delimits what stands before it. -/
theorem Frame.delimited_closer (f : Frame) (s : Input) : Delimited (f.closer :: s) := by
  rintro c ⟨⟩
  cases f
  · exact .inr (.inr (.inl rfl))
  · exact .inr (.inr (.inr rfl))

theorem Spaces.delimited {w s : Input} (hw : Spaces w) (hs : Delimited s) : Delimited (w ++ s) := by
  cases w with
  | nil => exact hs
  | cons c w =>
      rintro d ⟨⟩
      exact .inl (hw c List.mem_cons_self)

/-- A gap between two items delimits the first of them. -/
theorem Gap.delimited {w : Input} (hg : Gap false w) (s : Input) : Delimited (w ++ s) := by
  obtain _ | ⟨hw, -⟩ := hg
  rw [List.append_assoc]
  exact hw.delimited (delimited_comma _)

/-- What follows an item, the other items or the end, delimits it. -/
theorem Items.delimited {ts : List Input} {u s : Input} (h : Items false ts u)
    (hs : Delimited s) : Delimited (u ++ s) := by
  cases h with
  | nil hw => exact hw.delimited hs
  | cons hg _ =>
      rw [List.append_assoc]
      exact hg.delimited _

/-- So does what follows a member. -/
theorem Members.delimited {κ : Type} {Key : κ → Input → Prop} {ms : List (κ × Input)}
    {u s : Input} (h : Members Key false ms u) (hs : Delimited s) : Delimited (u ++ s) := by
  cases h with
  | nil hw => exact hw.delimited hs
  | cons hg =>
      rw [List.append_assoc]
      exact hg.delimited _

/-- What follows a value does not carry a number on. -/
theorem Delimited.head {c : Char} {s : Input} (h : Delimited (c :: s)) :
    c.isDigit = false ∧ c ≠ '.' ∧ c ≠ 'e' ∧ c ≠ 'E' := by
  have hc := h c rfl
  simp only [isSpace, Bool.or_eq_true, decide_eq_true_iff] at hc
  rcases hc with (((rfl | rfl) | rfl) | rfl) | rfl | rfl | rfl <;> decide

/-! ### Passing over words -/

/-- One piece of a string is skipped. -/
theorem skipString_piece {p : Input} (h : Piece p) (s : Input) :
    skipString (p ++ s) = skipString s := by
  cases h with
  | plain hc =>
      rw [List.singleton_append, skipString.eq_def]
      simp only [if_neg hc.1, if_neg hc.2.1, if_neg (Nat.not_lt.mpr hc.2.2)]
  | letter he =>
      rw [List.cons_append, List.singleton_append, skipString.eq_def]
      simp [letterEscape?_of_mem he]
  | unit ht =>
      obtain ⟨c₁, c₂, c₃, c₄, rfl, hn⟩ := ht.hex4?
      rw [List.cons_append, List.cons_append, skipString.eq_def]
      simp [letterEscape?, hn]

/-- A string is skipped up to its closing quote. -/
theorem skipString_pieces {ps : List Input} (h : ∀ p ∈ ps, Piece p) (s : Input) :
    skipString (ps.flatten ++ '"' :: s) = .ok s := by
  induction ps with
  | nil =>
      rw [List.flatten_nil, List.nil_append, skipString.eq_def]
      rfl
  | cons p ps ih =>
      rw [List.flatten_cons, List.append_assoc, skipString_piece (h p List.mem_cons_self),
        ih fun q hq => h q (List.mem_cons_of_mem p hq)]

/-- Digits are skipped up to what is no digit. -/
theorem skipDigits_digits {ds s : Input} (h : Digits ds)
    (hs : ∀ c, s.head? = some c → c.isDigit = false) : skipDigits (ds ++ s) = .ok s := by
  obtain ⟨d, ds, rfl⟩ := List.exists_cons_of_ne_nil h.1
  rw [skipDigits, Text.dropWhile_run h.2 hs]
  simp [h.2 d List.mem_cons_self]

/-- What comes behind the digits of a number does not carry them on. -/
theorem Exponent.head_append {e s : Input} (he : Exponent e) (hs : Delimited s) :
    ∀ c, (e ++ s).head? = some c → c.isDigit = false ∧ c ≠ '.' := by
  intro c hc
  rcases he with rfl | ⟨m, hm, _, _, _, _, rfl⟩
  · cases s with
    | nil => cases hc
    | cons d s =>
        obtain rfl := Option.some.inj hc
        exact ⟨hs.head.1, hs.head.2.1⟩
  · obtain rfl := Option.some.inj hc
    simp only [List.mem_cons, List.not_mem_nil, or_false] at hm
    rcases hm with rfl | rfl <;> decide

/-- An exponent is skipped, if there is one. -/
theorem skipExponent_exponent {e s : Input} (he : Exponent e) (hs : Delimited s) :
    skipExponent (e ++ s) = .ok s := by
  have hdigit : ∀ c, s.head? = some c → c.isDigit = false := by
    intro c hc
    obtain ⟨u, rfl⟩ := List.head?_eq_some_iff.mp hc
    exact hs.head.1
  rcases he with rfl | ⟨m, hm, sign, hsign, ds, hds, rfl⟩
  · cases s with
    | nil => rfl
    | cons c s =>
        obtain ⟨-, -, he, hE⟩ := hs.head
        simp [skipExponent, he, hE]
  · have hskip : skipDigits (ds ++ s) = .ok s := skipDigits_digits hds hdigit
    obtain ⟨d, ds, rfl⟩ := List.exists_cons_of_ne_nil hds.1
    have hd : d ≠ '+' ∧ d ≠ '-' := by
      constructor <;> rintro rfl <;> exact absurd (hds.2 _ List.mem_cons_self) (by decide)
    simp only [List.mem_cons, List.not_mem_nil, or_false] at hm hsign
    rcases hm with rfl | rfl <;> rcases hsign with rfl | rfl | rfl <;>
      simpa [skipExponent, hd.1, hd.2] using hskip

/-- The part of a number behind its sign is passed over. -/
theorem skipNumber_unsigned {ds f e s : Input} (hds : Digits ds)
    (hzero : ds.head? = some '0' → ds = ['0']) (hf : Fraction f) (he : Exponent e)
    (hs : Delimited s) : skipNumber (ds ++ (f ++ (e ++ s))) = .ok s := by
  have hexp := he.head_append hs
  -- a point ends the digits, and so does what comes in its place
  have hpoint : ∀ c, (f ++ (e ++ s)).head? = some c → c.isDigit = false := by
    intro c hc
    rcases hf with rfl | ⟨_, _, rfl⟩
    · exact (hexp c hc).1
    · obtain rfl := Option.some.inj hc
      decide
  have hdrop := Text.dropWhile_run hds.2 hpoint
  obtain ⟨d, ds, rfl⟩ := List.exists_cons_of_ne_nil hds.1
  have hd : d.isDigit = true := hds.2 d List.mem_cons_self
  have hlead : (d = '0' && ((ds ++ (f ++ (e ++ s))).head?.any Char.isDigit)) = false := by
    by_cases h0 : d = '0'
    · subst h0
      obtain rfl := (List.cons.inj (hzero rfl)).2
      cases hrest : f ++ (e ++ s) with
      | nil => rfl
      | cons c u => simpa using hpoint c (by rw [hrest]; rfl)
    · simp [h0]
  rw [List.cons_append] at hdrop ⊢
  rw [skipNumber, hdrop, hd, hlead, if_neg (by decide), if_neg Bool.false_ne_true]
  rcases hf with rfl | ⟨fs, hfs, rfl⟩
  · have hskip : skipExponent (e ++ s) = .ok s := skipExponent_exponent he hs
    rw [List.nil_append]
    split
    case h_1 ht => exact absurd rfl (hexp '.' (by rw [ht]; rfl)).2
    case h_2 => exact hskip
  · have hskip : skipDigits (fs ++ (e ++ s)) = .ok (e ++ s) :=
      skipDigits_digits hfs fun c hc => (hexp c hc).1
    simp [hskip, skipExponent_exponent he hs, bind, Except.bind]

/-! ### Passing over values -/

theorem IsString.head {t : Input} (h : IsString t) : ∃ u, t = '"' :: u := by
  obtain ⟨ps, -, rfl⟩ := h
  exact ⟨_, rfl⟩

/-- A number starts with a sign or a digit. -/
theorem IsNumber.head {t : Input} (h : IsNumber t) :
    ∃ c u, t = c :: u ∧ (c = '-' ∨ c.isDigit = true) := by
  obtain ⟨sign, hsign, ds, f, e, hds, -, -, -, rfl⟩ := h
  obtain ⟨d, ds, rfl⟩ := List.exists_cons_of_ne_nil hds.1
  simp only [List.mem_cons, List.not_mem_nil, or_false] at hsign
  rcases hsign with rfl | rfl
  · exact ⟨d, _, rfl, .inr (hds.2 d List.mem_cons_self)⟩
  · exact ⟨'-', _, rfl, .inl rfl⟩

theorem isSpace_digit {c : Char} (hc : c.isDigit = true) : isSpace c = false := by
  simp [isSpace, Text.ne_of_kind hc]

/-- No value starts with a space or a closer. -/
theorem IsValue.opens {t : Input} (h : IsValue t) : Opens t := by
  cases h with
  | null | yes | no | list | object => exact ⟨_, _, rfl, by decide⟩
  | string h =>
      obtain ⟨u, rfl⟩ := h.head
      exact ⟨_, u, rfl, by decide⟩
  | number h =>
      obtain ⟨c, u, rfl, rfl | hc⟩ := h.head
      · exact ⟨_, u, rfl, by decide⟩
      · exact ⟨c, u, rfl, isSpace_digit hc, Text.ne_of_kind hc (by decide)⟩

/-- **A number is skipped as a whole.** -/
theorem skipScalar_number {t s : Input} (h : IsNumber t) (hs : Delimited s) :
    skipScalar (t ++ s) = .ok s := by
  obtain ⟨sign, hsign, ds, f, e, hds, hzero, hf, he, rfl⟩ := h
  have hskip : skipNumber (ds ++ (f ++ (e ++ s))) = .ok s := skipNumber_unsigned hds hzero hf he hs
  simp only [List.mem_cons, List.not_mem_nil, or_false] at hsign
  simp only [List.append_assoc]
  rcases hsign with rfl | rfl
  · obtain ⟨d, ds, rfl⟩ := List.exists_cons_of_ne_nil hds.1
    have hd : d.isDigit = true := hds.2 d List.mem_cons_self
    rw [List.nil_append, List.cons_append] at *
    rw [skipScalar.eq_def]
    split
    case h_6 hc =>
      obtain ⟨rfl, rfl⟩ := List.cons.inj hc
      rw [if_pos hd, hskip]
    all_goals rename_i hc
    case h_7 => cases hc
    all_goals
      obtain ⟨rfl, -⟩ := List.cons.inj hc
      exact absurd hd (by decide)
  · exact hskip

theorem skipScalar_string {t : Input} (h : IsString t) (s : Input) :
    skipScalar (t ++ s) = .ok s := by
  obtain ⟨ps, hps, rfl⟩ := h
  rw [List.cons_append, List.append_assoc, List.singleton_append]
  exact skipString_pieces hps s

/-- The walk passes over the value, in so many steps, whatever is open and whatever follows. -/
def Passed (v : Input) : Prop :=
  ∃ n, n + 1 ≤ 2 * v.length ∧ ∀ fuel stack s rest, Delimited rest → skipSpace s = v ++ rest →
    skipFrames (n + fuel) .value stack s = skipFrames fuel .closed stack rest

/-- What is skipped as a scalar is passed. -/
theorem passed_scalar {c : Char} {t : Input} (hlist : c ≠ '[') (hobject : c ≠ '\x7b')
    (h : ∀ s, Delimited s → skipScalar (c :: t ++ s) = .ok s) : Passed (c :: t) := by
  refine ⟨1, by simp only [List.length_cons]; omega, ?_⟩
  intro fuel stack s rest hd hs
  rw [Nat.add_comm, skipFrames, hs]
  split
  case h_1 hc => exact absurd (List.cons.inj hc).1 hlist
  case h_2 hc => exact absurd (List.cons.inj hc).1 hobject
  case h_3 => rw [h rest hd]; rfl

/-- The walk stands in a list or object, before its first element or behind another. -/
def Phase.inside (first : Bool) : Phase := if first then .opened else .closed

/-- The walk passes over what is left of a list or object, in so many steps. -/
def Held (f : Frame) (first : Bool) (u : Input) : Prop :=
  ∃ n, n ≤ 2 * u.length + 2 ∧ ∀ fuel stack rest,
    skipFrames (n + fuel) (.inside first) (f :: stack) (u ++ f.closer :: rest) =
      skipFrames fuel .closed stack rest

theorem Frame.isSpace_closer (f : Frame) : isSpace f.closer = false := by
  cases f <;> rfl

/-- A frame with nothing but spaces in it ends with its closer. -/
theorem held_nil {f : Frame} {first : Bool} {w : Input} (hw : Spaces w) : Held f first w := by
  refine ⟨1, by omega, ?_⟩
  intro fuel stack rest
  have hs : skipSpace (w ++ f.closer :: rest) = f.closer :: rest := by
    rw [skipSpace_append hw, skipSpace_cons f.isSpace_closer]
  have hcomma : f.closer ≠ ',' := by cases f <;> decide
  cases first with
  | true => rw [Nat.add_comm, Phase.inside, if_pos rfl, skipFrames, hs]; simp
  | false =>
      rw [Nat.add_comm, Phase.inside, if_neg Bool.false_ne_true, skipFrames, hs]
      simp [hcomma]

/-- One step leads to the value of the next element: `pre` is what stands before it, the key in an
object. -/
theorem skipFrames_element {f : Frame} {first : Bool} {w pre t : Input} (hg : Gap first w)
    (hhead : ∃ c v, pre ++ t = c :: v ∧ isSpace c = false ∧ c ≠ f.closer)
    (hpre : ∀ w' rest, Spaces w' →
      ∃ s, f.element (w' ++ (pre ++ (t ++ rest))) = .ok s ∧ skipSpace s = t ++ rest)
    (fuel : Nat) (stack : List Frame) (rest : Input) :
    ∃ s, skipSpace s = t ++ rest ∧
      skipFrames (fuel + 1) (.inside first) (f :: stack) (w ++ (pre ++ (t ++ rest))) =
        skipFrames fuel .value (f :: stack) s := by
  obtain ⟨c, v, hcv, hc, hend⟩ := hhead
  have htext : pre ++ (t ++ rest) = c :: (v ++ rest) := by
    rw [← List.append_assoc, hcv, List.cons_append]
  cases hg with
  | first hw =>
      obtain ⟨s, hs, hskip⟩ := hpre [] rest .nil
      rw [List.nil_append, htext] at hs
      refine ⟨s, hskip, ?_⟩
      rw [Phase.inside, if_pos rfl, skipFrames, htext, skipSpace_append hw, skipSpace_cons hc]
      simp [hend, hs, bind, Except.bind]
  | @next w w' hw hw' =>
      -- the blanks behind the comma are not passed over yet
      obtain ⟨s, hs, hskip⟩ := hpre w' rest hw'
      refine ⟨s, hskip, ?_⟩
      rw [Phase.inside, if_neg Bool.false_ne_true, skipFrames, List.append_assoc,
        skipSpace_append hw, List.cons_append, skipSpace_cons (by decide)]
      simp [hs, bind, Except.bind]

/-- One more element. -/
theorem Held.cons {f : Frame} {first : Bool} {w pre t u : Input} (hg : Gap first w)
    (hhead : ∃ c v, pre ++ t = c :: v ∧ isSpace c = false ∧ c ≠ f.closer)
    (hpre : ∀ w' rest, Spaces w' →
      ∃ s, f.element (w' ++ (pre ++ (t ++ rest))) = .ok s ∧ skipSpace s = t ++ rest)
    (ht : Passed t) (hd : ∀ rest, Delimited (u ++ f.closer :: rest)) (hu : Held f false u) :
    Held f first (w ++ (pre ++ (t ++ u))) := by
  obtain ⟨n, hn, hwalk⟩ := ht
  obtain ⟨n', hn', hwalk'⟩ := hu
  -- the step to the value, those over it and those over what is left
  refine ⟨n' + n + 1, ?_, ?_⟩
  · simp only [List.length_append]
    omega
  · intro fuel stack rest
    obtain ⟨s, hs, hfirst⟩ :=
      skipFrames_element hg hhead hpre (n + (n' + fuel)) stack (u ++ f.closer :: rest)
    simp only [List.append_assoc]
    rw [show n' + n + 1 + fuel = n + (n' + fuel) + 1 by omega, hfirst,
      hwalk _ _ _ _ (hd rest) hs, ← hwalk' fuel stack rest]
    rfl

/-- Items that are passed one by one are held by a list. -/
theorem skipFrames_items {first : Bool} {ts : List Input} {u : Input} (h : Items first ts u)
    (hv : ∀ t ∈ ts, IsValue t) (hp : ∀ t ∈ ts, Passed t) : Held .list first u := by
  induction h with
  | nil hw => exact held_nil hw
  | @cons first w t u ts hg hrest ih =>
      have hu : Held .list false u := ih (fun t' ht' => hv t' (List.mem_cons_of_mem t ht'))
        fun t' ht' => hp t' (List.mem_cons_of_mem t ht')
      have hd : ∀ rest, Delimited (u ++ Frame.list.closer :: rest) := fun rest =>
        hrest.delimited (Frame.delimited_closer .list rest)
      obtain ⟨c, v, htc, hc, hend⟩ := (hv t List.mem_cons_self).opens
      have hheld : Held .list first (w ++ ([] ++ (t ++ u))) := by
        refine Held.cons hg ⟨c, v, htc, hc, hend⟩ ?_ (hp t List.mem_cons_self) hd hu
        intro w' rest hw'
        refine ⟨_, rfl, ?_⟩
        rw [skipSpace_append hw', List.nil_append, htc, List.cons_append, skipSpace_cons hc]
      exact hheld

/-- A key is skipped with its colon. -/
theorem skipKey_isString {k w' w₁ : Input} (hk : IsString k) (hw' : Spaces w') (hw₁ : Spaces w₁)
    (s : Input) : skipKey (w' ++ (k ++ (w₁ ++ ':' :: s))) = .ok s := by
  obtain ⟨ps, hps, rfl⟩ := hk
  have hstring : skipString (ps.flatten ++ '"' :: (w₁ ++ ':' :: s)) = .ok (w₁ ++ ':' :: s) :=
    skipString_pieces hps _
  rw [skipKey, skipSpace_append hw', List.cons_append, skipSpace_cons (by decide),
    List.append_assoc, List.singleton_append]
  simp only [hstring, bind, Except.bind, skipSpace_append hw₁]
  rfl

/-- Members that are passed one by one are held by an object. -/
theorem skipFrames_members {first : Bool} {ms : List (Input × Input)} {u : Input}
    (h : Members Eq first ms u) (hk : ∀ m ∈ ms, IsString m.1) (hv : ∀ m ∈ ms, IsValue m.2)
    (hp : ∀ m ∈ ms, Passed m.2) : Held .object first u := by
  induction h with
  | nil hw => exact held_nil hw
  | @cons first w k w₁ w₂ t u key ms hg hkey hw₁ hw₂ hrest ih =>
      obtain rfl : key = k := hkey
      have hu : Held .object false u := ih (fun m hm => hk m (List.mem_cons_of_mem _ hm))
        (fun m hm => hv m (List.mem_cons_of_mem _ hm))
        fun m hm => hp m (List.mem_cons_of_mem _ hm)
      have hd : ∀ rest, Delimited (u ++ Frame.object.closer :: rest) := fun rest =>
        hrest.delimited (Frame.delimited_closer .object rest)
      have hks : IsString key := hk _ List.mem_cons_self
      obtain ⟨c, v, htc, hc, -⟩ := (hv _ List.mem_cons_self).opens
      have hheld : Held .object first (w ++ ((key ++ (w₁ ++ ':' :: w₂)) ++ (t ++ u))) := by
        refine Held.cons hg ?_ ?_ (hp _ List.mem_cons_self) hd hu
        · obtain ⟨k', rfl⟩ := hks.head
          exact ⟨'"', _, rfl, by decide, by decide⟩
        · intro w' rest hw'
          refine ⟨w₂ ++ (t ++ rest), ?_, ?_⟩
          · simpa only [Frame.element, List.append_assoc, List.cons_append] using
              skipKey_isString hks hw' hw₁ (w₂ ++ (t ++ rest))
          · simp only at htc
            rw [skipSpace_append hw₂, htc, List.cons_append, skipSpace_cons hc]
      simpa only [List.append_assoc, List.cons_append] using hheld

/-- A list or object of which the walk passes over the contents. -/
theorem Held.passed {f : Frame} {c : Char} {u : Input} (h : Held f true u)
    (hopen : ∀ fuel stack s rest, skipSpace s = c :: rest →
      skipFrames (fuel + 1) .value stack s = skipFrames fuel .opened (f :: stack) rest) :
    Passed (c :: (u ++ [f.closer])) := by
  obtain ⟨n, hn, hwalk⟩ := h
  refine ⟨n + 1, ?_, ?_⟩
  · simp only [List.length_cons, List.length_append, List.length_nil]
    omega
  · intro fuel stack s rest _ hs
    rw [List.cons_append, List.append_assoc, List.singleton_append] at hs
    rw [Nat.add_right_comm, hopen _ _ _ _ hs, ← hwalk fuel stack rest]
    rfl

/-- **Every value is passed as a whole,** however deep it is nested. -/
theorem IsValue.passed {t : Input} (h : IsValue t) : Passed t := by
  -- along the grammar, and not along the walk, which comes back to a list after each element
  induction h with
  | null | yes | no => exact passed_scalar (by decide) (by decide) fun _ _ => rfl
  | number h =>
      obtain ⟨c, u, rfl, hc⟩ := h.head
      have hopen : c ≠ '[' ∧ c ≠ '\x7b' := by
        rcases hc with rfl | hc
        · decide
        · exact ⟨Text.ne_of_kind hc (by decide), Text.ne_of_kind hc (by decide)⟩
      exact passed_scalar hopen.1 hopen.2 fun s hs => skipScalar_number h hs
  | string h =>
      obtain ⟨u, rfl⟩ := h.head
      exact passed_scalar (by decide) (by decide) fun s _ => skipScalar_string h s
  | list hv hts ih =>
      refine (skipFrames_items hts hv ih).passed ?_
      intro fuel stack s rest hs
      rw [skipFrames, hs]
      rfl
  | object hk hv hms ih =>
      refine (skipFrames_members hms hk hv ih).passed ?_
      intro fuel stack s rest hs
      rw [skipFrames, hs]
      rfl

/-- **A value is passed over**, of any kind and depth. -/
theorem skipValue_isValue {t s rest : Input} (h : IsValue t) (hrest : Delimited rest)
    (hs : skipSpace s = t ++ rest) : skipValue s = .ok rest := by
  obtain ⟨n, hn, hwalk⟩ := h.passed
  have hlen : t.length ≤ s.length := by
    have hdrop : (skipSpace s).length ≤ s.length := (List.dropWhile_suffix _).length_le
    rw [hs, List.length_append] at hdrop
    omega
  -- one step is left to find the stack empty
  obtain ⟨fuel, hfuel⟩ : ∃ fuel, 2 * s.length + 2 = n + (fuel + 1) :=
    ⟨2 * s.length + 2 - n - 1, by omega⟩
  rw [skipValue, hfuel, hwalk (fuel + 1) [] s rest hrest hs, skipFrames]

end ModuleDocs.Json
