import ModuleDocs.Proofs.Spans

/-!
# Proofs — Running text

How the lines of a description are read.

* `Reading.Leads`: reading gets from one place to another in no more steps than there are characters
  between them.  The steps are the lemmas `step_…`, one for each construct.
* `Reading.leads_chars`, `Reading.leads_span`: characters, and a span of any other kind.
* `Reading.Shows`: a text is read as pieces that give some HTML.  Texts that do so are put together
  (`Shows.append`), which gives lines (`shows_spans`) and texts of lines (`shows_lines`).
* `htmlOf_readRunning`: the HTML of lines is that of their spans.
-/

namespace ModuleDocs.Markdown

namespace Reading

/-! ### Steps -/

variable {references : References} {pieces : List Piece} {behind t : List Char}
  {linkClosed inBrackets : Bool}

/-- Reading gets from one place to another in no more steps than there are characters between
them. -/
def Leads (references : References) (r r' : Reading) : Prop :=
  ∃ n, n + r'.rest.length ≤ r.rest.length ∧ ∀ m, run references (n + m) r = run references m r'

theorem Leads.refl (r : Reading) : Leads references r r :=
  ⟨0, by rw [Nat.zero_add], fun m => by rw [Nat.zero_add]⟩

theorem Leads.trans {r r' r'' : Reading} (h : Leads references r r')
    (h' : Leads references r' r'') : Leads references r r'' := by
  obtain ⟨n, hn, hrun⟩ := h
  obtain ⟨n', hn', hrun'⟩ := h'
  refine ⟨n + n', by omega, fun m => ?_⟩
  rw [Nat.add_assoc, hrun, hrun']

/-- One step that gets on. -/
theorem Leads.of_step {r r' : Reading} (h : r.step references = r')
    (hlt : r'.rest.length < r.rest.length) : Leads references r r' := by
  have hrest : r.rest.isEmpty = false := by
    cases hr : r.rest with
    | nil => rw [hr] at hlt; exact absurd hlt (Nat.not_lt_zero _)
    | cons c cs => rfl
  refine ⟨1, by omega, fun m => ?_⟩
  rw [Nat.add_comm, run, hrest, h]
  rfl

/-- Reading that gets to the end of the text has ended. -/
theorem Leads.run_eq {r r' : Reading} (h : Leads references r r') (hr : r'.rest = []) :
    run references r.rest.length r = r' := by
  obtain ⟨n, hn, hrun⟩ := h
  obtain ⟨m, hm⟩ := Nat.exists_eq_add_of_le (Nat.le_of_add_right_le hn)
  rw [hm, hrun]
  cases m with
  | zero => rfl
  | succ m => rw [run, hr]; rfl

theorem passTo_append (w : List Char) :
    (⟨pieces, behind, w ++ t, linkClosed, inBrackets⟩ : Reading).passTo t =
      ⟨pieces, w.reverse ++ behind, t, linkClosed, inBrackets⟩ := by
  simp [passTo, pass]

/-- What reading stops at: a line feed, the start of a bare address, or punctuation. -/
theorem isSpecial_cases {c : Char} (h : isSpecial c = true) :
    c = '\n' ∨ c = 'w' ∨ isAsciiPunctuation c = true := by
  have hall : ∀ d ∈ "\n_*\"\x60'\\&<[]!:w~.-".toList,
      d = '\n' ∨ d = 'w' ∨ isAsciiPunctuation d = true := by decide
  exact hall c (List.contains_iff_mem.mp h)

/-- A character that is read as it stands. -/
def isPlain (c : Char) : Bool := !isAsciiPunctuation c && c != 'w'

/-- Reading does not stop at plain characters. -/
theorem isSpecial_of_isPlain {c : Char} (h : isPlain c = true) (hline : InLine c) :
    isSpecial c = false := by
  rw [isPlain, Bool.and_eq_true, Bool.not_eq_true', bne_iff_ne] at h
  rw [← Bool.not_eq_true]
  intro hc
  rcases isSpecial_cases hc with hc | hc | hc
  · exact hline.1 hc
  · exact h.2 hc
  · exact Bool.false_ne_true (h.1.symm.trans hc)

theorem step_of_not_special {c : Char} (hc : isSpecial c = false) :
    (⟨pieces, behind, c :: t, linkClosed, inBrackets⟩ : Reading).step references =
      plainText ⟨pieces, behind, c :: t, linkClosed, inBrackets⟩ := by
  have hne : ∀ d, isSpecial d = true → c ≠ d := fun d hd => (Text.ne_of_kind hd hc).symm
  simp [step, isQuote, hne '\n' (by decide), hne '\x60' (by decide), hne '\\' (by decide),
    hne '&' (by decide), hne '<' (by decide), hne ':' (by decide), hne 'w' (by decide),
    hne '*' (by decide), hne '_' (by decide), hne '~' (by decide), hne '"' (by decide),
    hne '\'' (by decide), hne '-' (by decide), hne '.' (by decide), hne '[' (by decide),
    hne ']' (by decide), hne '!' (by decide)]

/-- A backslash before punctuation. -/
theorem step_backslash {c : Char} (hc : isAsciiPunctuation c = true) :
    (⟨pieces, behind, '\\' :: c :: t, linkClosed, inBrackets⟩ : Reading).step references =
      ⟨.ready (.text [c]) :: pieces, c :: '\\' :: behind, t, linkClosed, inBrackets⟩ := by
  -- a backslash before a line feed would be a hard break
  have hline : c ≠ '\n' := Text.ne_of_kind hc (by decide)
  simp [step, backslash, hc, pass, addText, addInline, add]

/-- Plain characters, up to one that is not. -/
theorem step_plain {run : List Char} (hne : run ≠ []) (hrun : ∀ c ∈ run, isSpecial c = false)
    (ht : ∀ c ∈ t.head?, isSpecial c = true)
    (hlast : t.head? = some '\n' → ∀ c ∈ run.getLast?, isSpace c = false) :
    (⟨pieces, behind, run ++ t, linkClosed, inBrackets⟩ : Reading).step references =
      ⟨.ready (.text run) :: pieces, run.reverse ++ behind, t, linkClosed, inBrackets⟩ := by
  have htake : (run ++ t).takeWhile (!isSpecial ·) = run :=
    Text.takeWhile_run (fun c hc => by simp [hrun c hc]) (fun c hc => by simp [ht c hc])
  have htext : (if t.head? == some '\n' then trimEnd run else run) = run := by
    split
    next h => exact trimEnd_eq_self (hlast (by simpa using h))
    next => rfl
  cases run with
  | nil => exact absurd rfl hne
  | cons c run =>
      rw [List.cons_append, step_of_not_special (hrun c List.mem_cons_self), ← List.cons_append,
        plainText]
      simp only [htake, pass, List.take_left, List.drop_left, htext]
      rfl

/-! ### Characters -/

/-- Nothing stands there that would go on with a run of characters: the end of the text, of the line
or of a bracket, or another span. -/
def Stops (t : List Char) : Prop := ∀ c ∈ t.head?, c ∈ ['\n', '\x60', '<', '[', '!', ']']

theorem Stops.special (h : Stops t) : ∀ c ∈ t.head?, isSpecial c = true := by
  have hall : ∀ c ∈ ['\n', '\x60', '<', '[', '!', ']'], isSpecial c = true := by decide
  exact fun c hc => hall c (h c hc)

/-- No address can start there, since every full stop stands behind a backslash. -/
theorem not_host_prefix (ht : Stops t) (n : Nat) (cs : List Char) :
    ¬ (List.replicate n 'w' ++ ['.'] <+: guarded cs ++ t) := by
  have hstop : ∀ d, d ∉ ['\n', '\x60', '<', '[', '!', ']'] → ∀ ds, ¬ (d :: ds <+: t) := by
    rintro d hd ds ⟨rest, rfl⟩
    exact hd (ht d rfl)
  induction cs generalizing n with
  | nil =>
      cases n with
      | zero => exact hstop '.' (by decide) []
      | succ n => exact hstop 'w' (by decide) _
  | cons c cs ih =>
      rw [guarded_cons, List.append_assoc]
      cases hp : isAsciiPunctuation c with
      | true =>
          rw [guardChar_of_punctuation hp]
          cases n with
          | zero => simp
          | succ n => simp [List.replicate_succ]
      | false =>
          have hdot : '.' ≠ c := Text.ne_of_kind (p := isAsciiPunctuation) (by decide) hp
          rw [guardChar_of_not_punctuation hp, List.singleton_append]
          cases n with
          | zero => simp [hdot]
          | succ n =>
              rw [List.replicate_succ, List.cons_append, List.cons_prefix_cons]
              exact fun h => ih n h.2

/-- The letter with which an address might start. -/
theorem step_letterW {cs : List Char} (ht : Stops t) :
    (⟨pieces, behind, 'w' :: (guarded cs ++ t), linkClosed, inBrackets⟩ : Reading).step references =
      ⟨.ready (.text ['w']) :: pieces, 'w' :: behind, guarded cs ++ t, linkClosed, inBrackets⟩ := by
  have hnone : wwwAddress? behind ('w' :: (guarded cs ++ t)) = none := by
    have hprefix : "www.".toList.isPrefixOf ('w' :: (guarded cs ++ t)) = false := by
      rw [← Bool.not_eq_true, List.isPrefixOf_iff_prefix]
      intro h
      exact not_host_prefix ht 2 cs (List.cons_prefix_cons.mp h).2
    rw [wwwAddress?, hprefix, Bool.and_false, Bool.false_and]
    rfl
  simp [step, letterW, hnone, passText, pass, addText, addInline, add]

/-- What stands behind plain characters stops them. -/
theorem head_guarded_dropWhile (cs : List Char) (ht : Stops t) :
    ∀ c ∈ (guarded (cs.dropWhile isPlain) ++ t).head?, isSpecial c = true ∧
      (c = '\n' → cs.dropWhile isPlain = []) := by
  cases hrest : cs.dropWhile isPlain with
  | nil => exact fun c hc => ⟨ht.special c hc, fun _ => rfl⟩
  | cons d ds =>
      have hd : isPlain d = false := by
        have hne : cs.dropWhile isPlain ≠ [] := by simp [hrest]
        have hhead := List.head_dropWhile_not isPlain hne
        simpa [hrest] using hhead
      rw [guarded_cons, List.append_assoc]
      cases hp : isAsciiPunctuation d with
      | true =>
          rw [guardChar_of_punctuation hp]
          exact Text.forall_head_cons ⟨by decide, fun hc => absurd hc (by decide)⟩
      | false =>
          have hw : d = 'w' := by simpa [isPlain, hp] using hd
          rw [guardChar_of_not_punctuation hp, hw]
          exact Text.forall_head_cons ⟨by decide, fun hc => absurd hc (by decide)⟩

/-- The first piece of a run of characters. -/
theorem step_chars {c : Char} {cs : List Char} (h : ∀ d ∈ c :: cs, InLine d) (ht : Stops t)
    (hlast : t.head? = some '\n' → ∀ d ∈ (c :: cs).getLast?, isSpace d = false) :
    ∃ text later, c :: cs = text ++ later ∧ text ≠ [] ∧
      (⟨pieces, behind, guarded (c :: cs) ++ t, linkClosed, inBrackets⟩ : Reading).step references =
        ⟨.ready (.text text) :: pieces, (guarded text).reverse ++ behind, guarded later ++ t,
          linkClosed, inBrackets⟩ := by
  cases hp : isAsciiPunctuation c with
  | true =>
      refine ⟨[c], cs, rfl, List.cons_ne_nil c [], ?_⟩
      rw [guarded_cons, guarded_cons c [], guardChar_of_punctuation hp]
      exact step_backslash hp
  | false =>
      by_cases hw : c = 'w'
      · refine ⟨[c], cs, rfl, List.cons_ne_nil c [], ?_⟩
        rw [guarded_cons, guarded_cons c [], guardChar_of_not_punctuation hp, hw]
        exact step_letterW ht
      have hc : isPlain c = true := by simp [isPlain, hp, hw]
      have hsplit := List.takeWhile_append_dropWhile (p := isPlain) (l := c :: cs)
      have hplain : ∀ d ∈ (c :: cs).takeWhile isPlain, isPlain d = true := fun d hd =>
        List.mem_takeWhile_imp hd
      have hself : guarded ((c :: cs).takeWhile isPlain) = (c :: cs).takeWhile isPlain := by
        refine (List.flatMap_congr fun d hd => ?_).trans (List.flatMap_singleton' _)
        have hd := hplain d hd
        rw [isPlain, Bool.and_eq_true, Bool.not_eq_true'] at hd
        exact guardChar_of_not_punctuation hd.1
      have hwrite : guarded (c :: cs) =
          (c :: cs).takeWhile isPlain ++ guarded ((c :: cs).dropWhile isPlain) := by
        rw [← hself, ← guarded_append, hsplit]
      refine ⟨_, _, hsplit.symm, by simp [hc], ?_⟩
      rw [hwrite, hself, List.append_assoc]
      refine step_plain (by simp [hc]) (fun d hd => ?_)
        (fun d hd => (head_guarded_dropWhile (c :: cs) ht d hd).1) (fun hhead => ?_)
      · exact isSpecial_of_isPlain (hplain d hd) (h d ((List.takeWhile_prefix isPlain).subset hd))
      · have hnil := (head_guarded_dropWhile (c :: cs) ht '\n' hhead).2 rfl
        rw [hnil] at hhead hsplit
        rw [List.append_nil] at hsplit
        rw [hsplit]
        exact hlast hhead

/-- **Characters that stand for themselves are read as text,** perhaps in several pieces. -/
theorem leads_chars {cs : List Char} (h : ∀ c ∈ cs, InLine c) (ht : Stops t)
    (hlast : t.head? = some '\n' → ∀ c ∈ cs.getLast?, isSpace c = false) :
    ∃ texts : List (List Char), texts.flatten = cs ∧
      Leads references ⟨pieces, behind, guarded cs ++ t, linkClosed, inBrackets⟩
        ⟨(texts.map fun text => .ready (.text text)).reverse ++ pieces,
          (guarded cs).reverse ++ behind, t, linkClosed, inBrackets⟩ := by
  induction hn : cs.length using Nat.strong_induction_on generalizing cs pieces behind with
  | _ n ih =>
    cases cs with
    | nil => exact ⟨[], rfl, .refl _⟩
    | cons c cs =>
        obtain ⟨text, later, hcs, hne, hstep⟩ := @step_chars references pieces behind t linkClosed
          inBrackets c cs h ht hlast
        rw [hcs] at h hlast hn hstep ⊢
        have hpos : 0 < text.length := List.length_pos_iff.mpr hne
        have hlater : later.length < n := by
          rw [← hn, List.length_append]
          omega
        have hlast' : t.head? = some '\n' → ∀ c ∈ later.getLast?, isSpace c = false := by
          intro hhead c hc
          refine hlast hhead c ?_
          rw [List.getLast?_append, hc]
          rfl
        obtain ⟨texts, hflat, hleads⟩ := ih later.length hlater
          (fun c hc => h c (List.mem_append_right text hc)) hlast' rfl
        refine ⟨text :: texts, by rw [List.flatten_cons, hflat], ?_⟩
        refine (Leads.of_step hstep ?_).trans ?_
        · have := length_le_guarded text
          simp only [guarded_append, List.length_append]
          omega
        · simpa [guarded_append] using hleads

/-! ### Spans -/

/-- Code is read up to the next backtick. -/
theorem codeSpan?_append {cs : List Char} (h : '\x60' ∉ cs) (ht : t.head? ≠ some '\x60')
    {n : Nat} (hn : cs.length < n) (taken : List Char) :
    codeSpan? 1 n taken (cs ++ '\x60' :: t) = some (taken.reverse ++ cs, t) := by
  induction cs generalizing n taken with
  | nil =>
      obtain ⟨n, rfl⟩ : ∃ m, n = m + 1 := ⟨n - 1, by omega⟩
      have hrun : ('\x60' :: t).takeWhile (· == '\x60') = ['\x60'] := by
        rw [List.takeWhile_cons_of_pos (by decide), ← List.append_nil t]
        cases t with
        | nil => rfl
        | cons c t => simpa using ht
      rw [List.nil_append, codeSpan?, if_pos rfl, hrun]
      simp
  | cons c cs ih =>
      obtain ⟨n, rfl⟩ : ∃ m, n = m + 1 := ⟨n - 1, by omega⟩
      rw [List.mem_cons, not_or] at h
      rw [List.cons_append, codeSpan?, if_neg (Ne.symm h.1), ih h.2 (by simpa using hn)]
      simp

/-- Code between backticks. -/
theorem step_code {cs : List Char} (h : (Span.code cs).Writable) (ht : t.head? ≠ some '\x60') :
    (⟨pieces, behind, (Span.code cs).write ++ t, linkClosed, inBrackets⟩ : Reading).step references =
      ⟨.ready (.code cs) :: pieces, (Span.code cs).write.reverse ++ behind, t, linkClosed,
        inBrackets⟩ := by
  obtain ⟨hne, hhead, hcs⟩ := h
  have htick : '\x60' ∉ cs := fun hmem => (hcs _ hmem).2 rfl
  have hrun : ((Span.code cs).write ++ t).takeWhile (· == '\x60') = ['\x60'] := by
    cases cs with
    | nil => exact absurd rfl hne
    | cons c cs => 
      rw [List.mem_cons, not_or] at htick
      simp [Span.write, Ne.symm htick.1]
  have hspan : codeSpan? 1 (cs ++ '\x60' :: t).length [] (cs ++ '\x60' :: t) = some (cs, t) :=
    codeSpan?_append htick ht (by simp) []
  have htext : codeText cs = cs := by
    have hmap : cs.map (fun c => if c = '\n' then ' ' else c) = cs := by
      refine (List.map_congr_left fun c hc => ?_).trans (List.map_id cs)
      exact if_neg (hcs c hc).1.1
    rw [codeText, hmap]
    simp [hhead]
  have hstep : (⟨pieces, behind, (Span.code cs).write ++ t, linkClosed, inBrackets⟩ : Reading).step
      references = backticks ⟨pieces, behind, (Span.code cs).write ++ t, linkClosed, inBrackets⟩ := rfl
  have hinside : ((Span.code cs).write ++ t).drop 1 = cs ++ '\x60' :: t := by simp [Span.write]
  rw [hstep, backticks]
  simp only [hrun, List.length_singleton, hinside, hspan]
  rw [if_neg (by decide)]
  simp only [passTo_append, htext]
  rfl

theorem step_pointed :
    (⟨pieces, behind, '<' :: t, linkClosed, inBrackets⟩ : Reading).step references =
    pointedBracket ⟨pieces, behind, '<' :: t, linkClosed, inBrackets⟩ := rfl

/-- A tag. -/
theorem step_raw {tag : RawTag} (h : tag.WellFormed) :
    ∃ raw, (⟨pieces, behind, (Span.raw tag).write ++ t, linkClosed, inBrackets⟩ : Reading).step
        references =
      ⟨.ready (.rawHtml raw) :: pieces, (Span.raw tag).write.reverse ++ behind, t, linkClosed,
        inBrackets⟩ := by
  obtain ⟨haddress, hmail⟩ := tag.not_address h t
  have hend := tag.behindMarkup?_inside h t
  rw [Span.write, List.cons_append, step_pointed, pointedBracket]
  simp only [List.drop_succ_cons, List.drop_zero, haddress, hmail, hend]
  rw [← List.cons_append, passTo_append]
  exact ⟨_, rfl⟩

/-- An address between pointed brackets. -/
theorem step_address {scheme path : List Char} (h : IsAddress scheme path) :
    (⟨pieces, behind, (Span.address scheme path).write ++ t, linkClosed, inBrackets⟩ :
        Reading).step references =
      ⟨.ready (.link ⟨scheme ++ ':' :: path, []⟩ [.text (scheme ++ ':' :: path)]) :: pieces,
        (Span.address scheme path).write.reverse ++ behind, t, linkClosed, inBrackets⟩ := by
  have hread := h.pointedAddress?_append t
  have hwrite : (Span.address scheme path).write ++ t =
      '<' :: (scheme ++ ':' :: (path ++ '>' :: t)) := by
    simp [Span.write]
  have hpass := @passTo_append pieces behind t linkClosed inBrackets
    (Span.address scheme path).write
  rw [hwrite] at hpass ⊢
  rw [step_pointed, pointedBracket]
  simp only [List.drop_succ_cons, List.drop_zero, hread, hpass, h.addressLink_eq]
  rfl

theorem noteNested_ready (is : List Inline) : noteNested (is.map .ready) = is.map .ready := by
  induction is with
  | nil => rfl
  | cons i is ih =>
      rw [List.map_cons, noteNested, ih]
      intro b hb
      cases hb

/-- The nearest bracket is found behind what is ready. -/
theorem nearestBracket?_ready (is : List Inline) (b : Bracket) (below : List Piece) :
    nearestBracket? (is.map .ready ++ .bracket b :: below) = some (is.map .ready, b, below) := by
  induction is with
  | nil => rfl
  | cons i is ih =>
      rw [List.map_cons, List.cons_append, nearestBracket?, ih]
      · rfl
      · intro b hb
        cases hb

/-- Where there are no runs nothing is matched. -/
theorem matchRuns_ready (is : List Inline) (left : List Piece) :
    matchRuns left (is.map .ready) = left.reverse.map Piece.settle ++ is := by
  induction is generalizing left with
  | nil => simp [matchRuns]
  | cons i is ih =>
      rw [List.map_cons, matchRuns, ih]
      · simp [Piece.settle]
      · intro r hr
        cases hr

/-- There are no runs of emphasis among what is ready. -/
theorem matchRuns_reverse (is : List Inline) :
    matchRuns [] (is.reverse.map Piece.ready).reverse = is := by
  rw [← List.map_reverse, List.reverse_reverse, matchRuns_ready]
  rfl

/-- A bracket that opens the text of a link or of an image. -/
theorem step_open {is : List Inline} :
    (⟨is.map .ready, behind, '[' :: t, linkClosed, inBrackets⟩ : Reading).step references =
      ⟨.bracket ⟨false, t, false⟩ :: is.map .ready, '[' :: behind, t, false, true⟩ := by
  have hstep : (⟨is.map .ready, behind, '[' :: t, linkClosed, inBrackets⟩ : Reading).step references
      = openBracket ⟨is.map .ready, behind, '[' :: t, linkClosed, inBrackets⟩ false 1 := rfl
  rw [hstep, openBracket, pass]
  simp only [noteNested_ready]
  rfl

theorem step_openImage {is : List Inline} (ht : t.head? ≠ some '^') :
    (⟨is.map .ready, behind, '!' :: '[' :: t, linkClosed, inBrackets⟩ : Reading).step references =
      ⟨.bracket ⟨true, t, false⟩ :: is.map .ready, '[' :: '!' :: behind, t, linkClosed, true⟩ := by
  have hstep : (⟨is.map .ready, behind, '!' :: '[' :: t, linkClosed, inBrackets⟩ : Reading).step
      references =
        openBracket ⟨is.map .ready, behind, '!' :: '[' :: t, linkClosed, inBrackets⟩ true 2 := by
    cases t with
    | nil => rfl
    | cons c t =>
        have hc : c ≠ '^' := fun hc => ht (by rw [hc]; rfl)
        simp [step, isQuote, hc]
  rw [hstep, openBracket, pass]
  simp only [noteNested_ready]
  rfl

/-- The bracket that closes the text of a link or of an image, with the target behind it. -/
theorem step_close {target : Target} (h : target.Writable) {is inner : List Inline} {b : Bracket}
    (hb : (!b.isImage && linkClosed) = false) :
    (⟨inner.reverse.map .ready ++ .bracket b :: is.map .ready, behind, ']' :: (target.write ++ t),
        linkClosed, inBrackets⟩ : Reading).step references =
      ⟨.ready (if b.isImage then .image target inner else .link target inner) :: is.map .ready,
        target.write.reverse ++ ']' :: behind, t, if b.isImage then linkClosed else true, false⟩ := by
  have hstep : (⟨inner.reverse.map .ready ++ .bracket b :: is.map .ready, behind,
      ']' :: (target.write ++ t), linkClosed, inBrackets⟩ : Reading).step references =
        closeBracket references ⟨inner.reverse.map .ready ++ .bracket b :: is.map .ready, behind,
          ']' :: (target.write ++ t), linkClosed, inBrackets⟩ := rfl
  rw [hstep, closeBracket]
  simp only [nearestBracket?_ready, hb, Bool.false_eq_true, if_false, pass, List.take_succ_cons,
    List.take_zero, List.drop_succ_cons, List.drop_zero, inlineTarget?_write h, Option.some_or,
    matchRuns_reverse, passTo_append]
  rfl

theorem map_text_ready (texts : List (List Char)) :
    (texts.map fun text => Piece.ready (.text text)).reverse =
      (texts.map Inline.text).reverse.map .ready := by
  rw [← List.map_reverse, ← List.map_reverse, List.map_map]
  rfl

/-- The text and the target behind an open bracket. -/
theorem leads_bracket {target : Target} {text : List Char} (htarget : target.Writable)
    (htext : ∀ c ∈ text, InLine c) (is : List Inline) {b : Bracket}
    (hb : (!b.isImage && linkClosed) = false) :
    ∃ texts : List (List Char), texts.flatten = text ∧
      Leads references
        ⟨.bracket b :: is.map .ready, behind, guarded text ++ ']' :: (target.write ++ t), linkClosed,
          inBrackets⟩
        ⟨.ready (if b.isImage then .image target (texts.map .text)
            else .link target (texts.map .text)) :: is.map .ready,
          target.write.reverse ++ ']' :: ((guarded text).reverse ++ behind), t,
          if b.isImage then linkClosed else true, false⟩ := by
  have hstops : Stops (']' :: (target.write ++ t)) := Text.forall_head_cons (by decide)
  obtain ⟨texts, hflat, hleads⟩ := @leads_chars references (.bracket b :: is.map .ready) behind
    (']' :: (target.write ++ t)) linkClosed inBrackets text htext hstops (by simp)
  rw [map_text_ready] at hleads
  refine ⟨texts, hflat, hleads.trans (.of_step (step_close htarget hb) ?_)⟩
  simp only [List.length_cons, List.length_append]
  omega

/-- **A link.** -/
theorem leads_link {target : Target} {text : List Char} (h : (Span.link target text).Writable)
    (is : List Inline) :
    ∃ texts : List (List Char), texts.flatten = text ∧
      Leads references
        ⟨is.map .ready, behind, (Span.link target text).write ++ t, linkClosed, inBrackets⟩
        ⟨.ready (.link target (texts.map .text)) :: is.map .ready,
          (Span.link target text).write.reverse ++ behind, t, true, false⟩ := by
  obtain ⟨texts, hflat, hleads⟩ := @leads_bracket references ('[' :: behind) t false true target text
    h.1 h.2 is ⟨false, guarded text ++ ']' :: (target.write ++ t), false⟩ rfl
  refine ⟨texts, hflat, ?_⟩
  have hopen := @step_open references behind (guarded text ++ ']' :: (target.write ++ t)) linkClosed
    inBrackets is
  simpa [Span.write] using (Leads.of_step hopen (by simp)).trans hleads

/-- **An image.** -/
theorem leads_image {target : Target} {text : List Char} (h : (Span.image target text).Writable)
    (is : List Inline) :
    ∃ texts : List (List Char), texts.flatten = text ∧
      Leads references
        ⟨is.map .ready, behind, (Span.image target text).write ++ t, linkClosed, inBrackets⟩
        ⟨.ready (.image target (texts.map .text)) :: is.map .ready,
          (Span.image target text).write.reverse ++ behind, t, linkClosed, false⟩ := by
  obtain ⟨texts, hflat, hleads⟩ := @leads_bracket references ('[' :: '!' :: behind) t linkClosed true
    target text h.1 h.2 is ⟨true, guarded text ++ ']' :: (target.write ++ t), false⟩ rfl
  refine ⟨texts, hflat, ?_⟩
  have hhead : (guarded text ++ ']' :: (target.write ++ t)).head? ≠ some '^' := by
    intro hcaret
    exact head_guarded_ne (by decide) (by decide) text (Text.forall_head_cons (by decide)) '^'
      hcaret rfl
  have hopen := @step_openImage references behind (guarded text ++ ']' :: (target.write ++ t))
    linkClosed inBrackets is hhead
  have hshorter : (guarded text ++ ']' :: (target.write ++ t)).length <
      ('!' :: '[' :: (guarded text ++ ']' :: (target.write ++ t))).length := by
    simp only [List.length_cons]
    omega
  simpa [Span.write] using (Leads.of_step hopen hshorter).trans hleads

/-- **A span that is no character.** -/
theorem leads_span {s : Span} (h : s.Writable) (hs : ∀ c, s ≠ .char c)
    (ht : s.isCode = true → t.head? ≠ some '\x60') (is : List Inline) :
    ∃ i : Inline, i.Final ∧ htmlOf [i] = s.html ∧ ∃ linkClosed' inBrackets',
      Leads references ⟨is.map .ready, behind, s.write ++ t, linkClosed, inBrackets⟩
        ⟨.ready i :: is.map .ready, s.write.reverse ++ behind, t, linkClosed', inBrackets'⟩ := by
  have hlt : ∀ {w : List Char}, w ≠ [] → t.length < (w ++ t).length := fun hw => by
    have := List.length_pos_iff.mpr hw
    rw [List.length_append]
    omega
  cases s with
  | char c => exact absurd rfl (hs c)
  | code cs =>
      exact ⟨.code cs, trivial, htmlOf_code cs, _, _,
        .of_step (step_code h (ht rfl)) (hlt (List.cons_ne_nil _ _))⟩
  | raw tag =>
      obtain ⟨raw, hstep⟩ := step_raw h
      exact ⟨.rawHtml raw, trivial, rfl, _, _, .of_step hstep (hlt (List.cons_ne_nil _ _))⟩
  | address scheme path =>
      refine ⟨.link ⟨scheme ++ ':' :: path, []⟩ [.text (scheme ++ ':' :: path)], trivial, ?_, _, _,
        .of_step (step_address h) (hlt (List.cons_ne_nil _ _))⟩
      rw [htmlOf_link, htmlOf_text]
      rfl
  | link target text =>
      obtain ⟨texts, hflat, hleads⟩ := leads_link h is
      refine ⟨.link target (texts.map .text), trivial, ?_, _, _, hleads⟩
      rw [htmlOf_link, htmlOf_texts, hflat]
      rfl
  | image target text =>
      obtain ⟨texts, hflat, hleads⟩ := leads_image h is
      refine ⟨.image target (texts.map .text), trivial, ?_, _, _, hleads⟩
      rw [htmlOf_image, plainAll_texts, hflat]
      rfl

/-! ### Lines -/

/-- The text is read as pieces that give the HTML, where the other text follows. -/
def Shows (references : References) (w t html : List Char) : Prop :=
  ∀ (is : List Inline) (behind : List Char) (linkClosed inBrackets : Bool),
    ∃ js : List Inline, (∀ j ∈ js, j.Final) ∧ htmlOf js = html ∧ ∃ linkClosed' inBrackets',
      Leads references ⟨is.map .ready, behind, w ++ t, linkClosed, inBrackets⟩
        ⟨(js.reverse ++ is).map .ready, w.reverse ++ behind, t, linkClosed', inBrackets'⟩

/-- **Texts that follow one another** show their HTML one after the other. -/
theorem Shows.append {w w' t html html' : List Char} (h : Shows references w (w' ++ t) html)
    (h' : Shows references w' t html') : Shows references (w ++ w') t (html ++ html') := by
  intro is behind linkClosed inBrackets
  obtain ⟨js, hjs, hhtml, linkClosed₁, inBrackets₁, hleads⟩ := h is behind linkClosed inBrackets
  obtain ⟨js', hjs', hhtml', linkClosed₂, inBrackets₂, hleads'⟩ :=
    h' (js.reverse ++ is) (w.reverse ++ behind) linkClosed₁ inBrackets₁
  refine ⟨js ++ js', fun j hj => (List.mem_append.mp hj).elim (hjs j) (hjs' j), ?_, linkClosed₂,
    inBrackets₂, ?_⟩
  · rw [htmlOf_append, hhtml, hhtml']
  · rw [List.append_assoc, List.reverse_append, List.reverse_append, List.append_assoc,
      List.append_assoc]
    exact hleads.trans hleads'

/-- Guarded characters show as themselves, escaped. -/
theorem shows_chars {cs : List Char} (h : ∀ c ∈ cs, InLine c ∧ c ≠ '@') (ht : Stops t)
    (hlast : t.head? = some '\n' → ∀ c ∈ cs.getLast?, isSpace c = false) :
    Shows references (guarded cs) t (escape cs) := by
  intro is behind linkClosed inBrackets
  obtain ⟨texts, hflat, hleads⟩ := @leads_chars references (is.map .ready) behind t linkClosed
    inBrackets cs (fun c hc => (h c hc).1) ht hlast
  have hfinal : ∀ j ∈ texts.map Inline.text, j.Final := by
    intro j hj
    obtain ⟨text, htext, rfl⟩ := List.mem_map.mp hj
    exact fun hmem => (h '@' (hflat ▸ List.mem_flatten.mpr ⟨text, htext, hmem⟩)).2 rfl
  rw [map_text_ready, ← List.map_append] at hleads
  exact ⟨texts.map .text, hfinal, by rw [htmlOf_texts, hflat], linkClosed, inBrackets, hleads⟩

/-- A span that is no character shows its HTML. -/
theorem shows_span {s : Span} (h : s.Writable) (hs : ∀ c, s ≠ .char c)
    (ht : s.isCode = true → t.head? ≠ some '\x60') : Shows references s.write t s.html := by
  intro is behind linkClosed inBrackets
  obtain ⟨i, hi, hhtml, hleads⟩ := @leads_span references behind t linkClosed inBrackets s h hs ht is
  exact ⟨[i], List.forall_mem_singleton.mpr hi, hhtml, hleads⟩

/-- What follows a line. -/
def EndsLine (t : List Char) : Prop := ∀ c ∈ t.head?, c = '\n'

theorem EndsLine.stops (h : EndsLine t) : Stops t := fun c hc => h c hc ▸ List.mem_cons_self

/-- Behind code no other backtick stands, which would make the code go on. -/
theorem head_behind_code {s : Span} (hs : s.isCode = true) {spans : List Span}
    (hcodes : ∀ s' ∈ spans.head?, (s.isCode && s'.isCode) = false) (ht : EndsLine t) :
    (writeLine spans ++ t).head? ≠ some '\x60' := by
  intro htick
  cases spans with
  | nil => exact absurd (ht _ htick) (by decide)
  | cons s' spans =>
      rw [writeLine, List.flatMap_cons, List.append_assoc,
        List.head?_append_of_ne_nil _ s'.write_ne_nil] at htick
      have hapart := hcodes s' rfl
      rw [hs, Span.isCode_of_head_write htick] at hapart
      cases hapart

/-- **The spans of a line,** with characters before them that are still to be read. -/
theorem shows_spans {spans : List Span} (h : ∀ s ∈ spans, s.Writable)
    (hcodes : spans.IsChain fun s s' => (s.isCode && s'.isCode) = false)
    (ht : EndsLine t) {cs : List Char} (hcs : ∀ c ∈ cs, InLine c ∧ c ≠ '@')
    (hlast : ∀ s ∈ (cs.map Span.char ++ spans).getLast?, s.isBlank = false) :
    Shows references (guarded cs ++ writeLine spans) t (escape cs ++ spans.flatMap Span.html) := by
  induction spans generalizing cs with
  | nil =>
      have hspace : t.head? = some '\n' → ∀ c ∈ cs.getLast?, isSpace c = false := by
        intro _ c hc
        refine Span.isSpace_eq_false_of_not_isBlank (hlast (.char c) ?_)
        rw [List.append_nil, List.getLast?_map, hc]
        rfl
      have hchars := @shows_chars references t cs hcs ht.stops hspace
      rwa [writeLine, List.flatMap_nil, List.flatMap_nil, List.append_nil, List.append_nil]
  | cons s spans ih =>
      rw [List.forall_mem_cons] at h
      rw [List.isChain_cons] at hcodes
      by_cases hs : ∃ c, s = .char c
      · -- one character more before the rest of the line
        obtain ⟨c, rfl⟩ := hs
        have hcs' : ∀ d ∈ cs ++ [c], InLine d ∧ d ≠ '@' := by
          intro d hd
          rcases List.mem_append.mp hd with hd | hd
          · exact hcs d hd
          · rw [List.mem_singleton.mp hd]
            exact ⟨h.1.1, h.1.2.1⟩
        have hrest := ih h.2 hcodes.2 hcs' (by simpa using hlast)
        rwa [guarded_append, escape_append, guarded_singleton, escape_singleton, List.append_assoc,
          List.append_assoc] at hrest
      · have hs : ∀ c, s ≠ .char c := fun c hc => hs ⟨c, hc⟩
        have hhead : ∀ c ∈ (s.write ++ (writeLine spans ++ t)).head?,
            c ∈ ['\x60', '<', '[', '!'] := by
          rw [List.head?_append_of_ne_nil _ s.write_ne_nil]
          exact Span.head_write hs
        have hstops : Stops (s.write ++ (writeLine spans ++ t)) := by
          have hall : ∀ c ∈ ['\x60', '<', '[', '!'], c ∈ ['\n', '\x60', '<', '[', '!', ']'] := by
            decide
          exact fun c hc => hall c (hhead c hc)
        have hcode : s.isCode = true → (writeLine spans ++ t).head? ≠ some '\x60' :=
          fun hcode => head_behind_code hcode hcodes.1 ht
        have hlast' : ∀ s' ∈ (([] : List Char).map Span.char ++ spans).getLast?,
            s'.isBlank = false := by
          intro s' hs'
          refine hlast s' ?_
          rw [List.map_nil, List.nil_append] at hs'
          rw [List.getLast?_append, List.getLast?_cons, hs']
          rfl
        have hchars := @shows_chars references _ cs hcs hstops
          (fun hline => absurd (hhead '\n' hline) (by decide))
        have hrest := ih h.2 hcodes.2 (List.forall_mem_nil _) hlast'
        rw [← List.append_assoc] at hchars
        exact hchars.append ((shows_span h.1 hs hcode).append hrest)

/-- A line shows the HTML of its spans. -/
theorem shows_line {line : List Span} (h : LineWritable line) (ht : EndsLine t) :
    Shows references (writeLine line) t (lineHtml line) :=
  shows_spans h.spans h.codes ht (List.forall_mem_nil _) h.last

/-- The end of a line that ends with no blank, before one that starts with none. -/
theorem step_lineEnd (hbehind : behind.head? ≠ some ' ')
    (ht : ∀ c ∈ t.head?, isSpaceOrTab c = false) :
    (⟨pieces, behind, '\n' :: t, linkClosed, inBrackets⟩ : Reading).step references =
      ⟨.ready .softBreak :: pieces, '\n' :: behind, t, linkClosed, inBrackets⟩ := by
  have hstep : (⟨pieces, behind, '\n' :: t, linkClosed, inBrackets⟩ : Reading).step references =
      lineEnd ⟨pieces, behind, '\n' :: t, linkClosed, inBrackets⟩ := rfl
  have hdrop : t.dropWhile isSpaceOrTab = t := dropWhile_eq_self ht
  rw [hstep]
  cases behind with
  | nil => simp [lineEnd, pass, passTo, addInline, add, hdrop]
  | cons c behind =>
      have hc : c ≠ ' ' := fun hc => hbehind (by rw [hc]; rfl)
      simp [lineEnd, pass, passTo, addInline, add, hdrop, hc]

/-- The end of a line shows as a line feed. -/
theorem Shows.lineEnd {w t html : List Char} (h : Shows references w ('\n' :: t) html)
    (hw : w ≠ []) (hlast : ∀ c ∈ w.getLast?, isSpace c = false)
    (ht : ∀ c ∈ t.head?, isSpace c = false) :
    Shows references (w ++ ['\n']) t (html ++ ['\n']) := by
  intro is behind linkClosed inBrackets
  obtain ⟨js, hjs, hhtml, linkClosed', inBrackets', hleads⟩ := h is behind linkClosed inBrackets
  have hbehind : (w.reverse ++ behind).head? ≠ some ' ' := by
    rw [List.head?_append_of_ne_nil _ (by simpa using hw), List.head?_reverse]
    intro hspace
    exact absurd (hlast ' ' hspace) (by decide)
  have hnext : ∀ c ∈ t.head?, isSpaceOrTab c = false := by
    intro c hc
    have hspace := ht c hc
    rw [← Bool.not_eq_true] at hspace ⊢
    refine fun htab => hspace ?_
    rw [isSpaceOrTab, Bool.or_eq_true, beq_iff_eq, beq_iff_eq] at htab
    rcases htab with rfl | rfl <;> decide
  refine ⟨js ++ [.softBreak], fun j hj => ?_, ?_, linkClosed', inBrackets', ?_⟩
  · rcases List.mem_append.mp hj with hj | hj
    · exact hjs j hj
    · rw [List.mem_singleton.mp hj]
      trivial
  · rw [htmlOf_append, hhtml]
    rfl
  · rw [List.append_assoc, List.singleton_append, List.reverse_append, List.reverse_append]
    exact hleads.trans (.of_step (step_lineEnd hbehind hnext) (Nat.lt_succ_self _))

/-- **The lines of a text.** -/
theorem shows_lines {lines : List (List Span)} (hne : lines ≠ [])
    (h : ∀ line ∈ lines, LineWritable line) :
    Shows references (lined (lines.map writeLine)) [] (lined (lines.map lineHtml)) := by
  induction lines with
  | nil => exact absurd rfl hne
  | cons line lines ih =>
      rw [List.forall_mem_cons] at h
      cases lines with
      | nil =>
          have hline := @shows_line references [] line h.1 (fun c hc => absurd hc (by simp))
          simpa [lined] using hline
      | cons line' lines =>
          have hline' := h.2 line' List.mem_cons_self
          have hrest := ih (List.cons_ne_nil _ _) h.2
          rw [List.map_cons, List.map_cons, lined_cons_cons, List.map_cons, List.map_cons,
            lined_cons_cons]
          refine Shows.append (Shows.lineEnd (shows_line h.1 ?_) h.1.write_ne_nil
            h.1.isSpace_getLast ?_) hrest
          · exact Text.forall_head_cons rfl
          · rw [List.append_nil, lined, List.head?_append_of_ne_nil _ hline'.write_ne_nil]
            exact hline'.isSpace_head

end Reading

/-- **The HTML of lines.** -/
theorem htmlOf_readRunning {lines : List (List Span)} (hne : lines ≠ [])
    (h : ∀ line ∈ lines, LineWritable line) (references : References) :
    htmlOf (linkMailInAll (readRunning references (unlined (lines.map writeLine)))) =
      lined (lines.map lineHtml) := by
  have htrim : trimEnd (unlined (lines.map writeLine)) = lined (lines.map writeLine) := by
    rw [unlined_eq _ (by simpa using hne)]
    exact trimEnd_append (isSpace_getLast_lined h) (by simp [isSpace])
  obtain ⟨js, hjs, hhtml, linkClosed, inBrackets, hleads⟩ :=
    @Reading.shows_lines references lines hne h [] [] true false
  rw [List.append_nil, List.append_nil] at hleads
  have hpieces : (Reading.run references (lined (lines.map writeLine)).length
      ⟨[], [], lined (lines.map writeLine), true, false⟩).pieces = js.reverse.map .ready :=
    congrArg Reading.pieces (hleads.run_eq rfl)
  rw [readRunning, htrim, hpieces, Reading.matchRuns_reverse, htmlOf_linkMailInAll_joined hjs,
    hhtml]

end ModuleDocs.Markdown
