import ModuleDocs.Markdown.Structure
import ModuleDocs.Proofs.Spans

/-!
# Proofs — Lines of blocks

The lines of a document, read one after the other.

* `PlainLine`: a line that starts no block.  Every line of spans is one (`LineWritable.plainLine`).
* `Between`, `Within`: what is open between two blocks, and inside one.
* `Between.plainLine`, `Within.plainLine`, `Within.endParagraph`, and their like for fenced code and
  for raw HTML: what a line does to the open blocks.
-/

namespace ModuleDocs.Markdown

/-! ### Lines that start no block -/

/-- The marks with which a line may start a block, or may change the paragraph it stands in. -/
def blockMarks : List Char := ['>', '#', '~', '<', '=', '-', '*', '_', '+', '|', ':']

/-- The line starts no block, so that it goes into a paragraph. -/
structure PlainLine (l : List Char) : Prop where
  head : ∃ c ∈ l.head?, isSpace c = false ∧ c ∉ blockMarks
  fence : fence? l = none
  marker : ∀ inParagraph, marker? inParagraph l = none

/-- How a span starts: with a mark that starts no block, with a character that is no punctuation, or
with a pointed bracket. -/
theorem Span.head_cases (s : Span) : ∀ c ∈ s.write.head?,
    c ∈ ['\\', '\x60', '[', '!'] ∨ (s = .char c ∧ isAsciiPunctuation c = false) ∨
      (s.isPointed = true ∧ c = '<') := by
  cases s with
  | char d =>
      intro c hc
      rcases head_guardChar d c hc with rfl | ⟨rfl, hp⟩
      · exact .inl (by decide)
      · exact .inr (.inl ⟨rfl, hp⟩)
  | raw | address => exact Text.forall_head_cons (.inr (.inr ⟨rfl, rfl⟩))
  | _ => exact Text.forall_head_cons (.inl (by decide))

/-- Behind digits at the start of a line no point or parenthesis stands, since those are written
behind backslashes. -/
theorem digits_stop {line : List Span} {digits rest : List Char} {c : Char}
    (h : writeLine line = digits ++ c :: rest) (hdigits : ∀ d ∈ digits, d.isDigit = true) :
    c ≠ '.' ∧ c ≠ ')' := by
  induction line generalizing digits with
  | nil => simp [writeLine] at h
  | cons s line ih =>
      rw [writeLine, List.flatMap_cons] at h
      have hhead := congrArg List.head? h
      rw [List.head?_append_of_ne_nil _ s.write_ne_nil] at hhead
      cases digits with
      | nil =>
          rcases s.head_cases c hhead with hc | ⟨-, hc⟩ | ⟨-, rfl⟩
          · have hall : ∀ c ∈ ['\\', '\x60', '[', '!'], c ≠ '.' ∧ c ≠ ')' := by decide
            exact hall c hc
          · have hne : ∀ d, isAsciiPunctuation d = true → c ≠ d := fun d hd =>
              (Text.ne_of_kind hd hc).symm
            exact ⟨hne '.' (by decide), hne ')' (by decide)⟩
          · decide
      | cons d digits =>
          rw [List.forall_mem_cons] at hdigits
          rcases s.head_cases d hhead with hd | ⟨rfl, hp⟩ | ⟨-, rfl⟩
          · have hall : ∀ c ∈ ['\\', '\x60', '[', '!'], c.isDigit = false := by decide
            exact absurd ((hall d hd).symm.trans hdigits.1) Bool.false_ne_true
          · rw [Span.write, guardChar_of_not_punctuation hp, List.singleton_append,
              List.cons_append] at h
            exact ih (List.cons.inj h).2 hdigits.2
          · exact absurd hdigits.1 (by decide)

namespace LineWritable

variable {line : List Span}

/-- A line of spans starts with no white space, and with no mark of a block. -/
theorem exists_head (h : LineWritable line) :
    ∃ c rest, writeLine line = c :: rest ∧ isSpace c = false ∧
      (c ∈ ['\\', '\x60', '[', '!'] ∨ isAsciiPunctuation c = false) := by
  obtain ⟨s, -, hblank, hpointed, hhead⟩ := h.head_write
  cases hw : writeLine line with
  | nil => exact absurd hw h.write_ne_nil
  | cons c rest =>
      rw [hw, List.head?_cons, eq_comm] at hhead
      refine ⟨c, rest, rfl, Span.isSpace_head_write hblank c hhead, ?_⟩
      rcases s.head_cases c hhead with hc | ⟨-, hc⟩ | ⟨hc, -⟩
      · exact .inl hc
      · exact .inr hc
      · exact absurd (hpointed.symm.trans hc) Bool.false_ne_true

end LineWritable

theorem headingMark?_eq_none {c : Char} (h : c ≠ '#') (cs : List Char) :
    headingMark? (c :: cs) = none := by
  have htake : (c :: cs).takeWhile (· == '#') = [] := List.takeWhile_cons_of_neg (by simp [h])
  simp [headingMark?, htake]

theorem fence?_eq_none {c : Char} (h : c ≠ '\x60' ∧ c ≠ '~') (cs : List Char) :
    fence? (c :: cs) = none := by
  simp [fence?, h]

theorem htmlBlock?_eq_none {c : Char} (h : c ≠ '<') (cs : List Char) (inParagraph : Bool) :
    htmlBlock? inParagraph (c :: cs) = none := by
  unfold htmlBlock?
  split
  next heq => exact absurd (List.cons.inj heq).1 h
  next => rfl

theorem underline?_eq_none {c : Char} (h : c ≠ '=' ∧ c ≠ '-') (cs : List Char) :
    underline? (c :: cs) = none := by
  simp [underline?, h]

/-- A rule is made of one of its three marks. -/
theorem isRule_eq_false {c : Char} (h : c ≠ '*' ∧ c ≠ '-' ∧ c ≠ '_') (cs : List Char) :
    isRule (c :: cs) = false := by
  simp [isRule, h]

/-- The columns of a table are given by bars, colons and hyphens only. -/
theorem columns?_eq_none {c : Char} (h : isLineSpace c = false) (hc : c ∉ ['|', ':', '-'])
    (cs : List Char) : columns? (c :: cs) = none := by
  have hall : (c :: cs).all (fun c => isLineSpace c || "|:-".toList.contains c) = false := by
    have hmark : "|:-".toList.contains c = false := by
      rw [← Bool.not_eq_true, List.contains_iff_mem]
      exact hc
    rw [List.all_cons, h, hmark]
    rfl
  rw [columns?, hall]
  split <;> rfl

/-- Without a bullet, and without a point or parenthesis behind its digits, a line starts no
item. -/
theorem marker?_eq_none {c : Char} (h : c ≠ '*' ∧ c ≠ '-' ∧ c ≠ '+') {cs : List Char}
    (hdigits : ∀ digits d rest, c :: cs = digits ++ d :: rest → (∀ e ∈ digits, e.isDigit = true) →
      d ≠ '.' ∧ d ≠ ')') (inParagraph : Bool) : marker? inParagraph (c :: cs) = none := by
  unfold marker?
  have hprefix : ((c :: cs).takeWhile Char.isDigit).take 9 <+: c :: cs :=
    (List.take_prefix 9 _).trans (List.takeWhile_prefix _)
  have hall : ∀ e ∈ ((c :: cs).takeWhile Char.isDigit).take 9, e.isDigit = true := fun e he =>
    List.mem_takeWhile_imp (List.mem_of_mem_take he)
  generalize ((c :: cs).takeWhile Char.isDigit).take 9 = digits at hprefix hall
  obtain ⟨rest, hrest⟩ := hprefix
  cases digits with
  | nil => simp [h]
  | cons d digits =>
      have hdrop : cs.drop digits.length = rest := by
        show (c :: cs).drop (d :: digits).length = rest
        rw [← hrest, List.drop_left]
      cases rest with
      | nil => simp [hdrop]
      | cons e rest =>
          have he := hdigits _ e rest hrest.symm hall
          simp [hdrop, he]

/-- A line that starts with code starts no fence, since code is written between single backticks. -/
theorem LineWritable.fence?_of_tick {line : List Span} (h : LineWritable line)
    (htick : (writeLine line).head? = some '\x60') : fence? (writeLine line) = none := by
  cases line with
  | nil => cases htick
  | cons s line =>
      have hs : s.isCode = true := by
        rw [writeLine, List.flatMap_cons, List.head?_append_of_ne_nil _ s.write_ne_nil] at htick
        exact Span.isCode_of_head_write htick
      cases s with
      | code cs =>
          obtain ⟨hne, -, hcs⟩ : (Span.code cs).Writable := h.spans _ List.mem_cons_self
          cases cs with
          | nil => exact absurd rfl hne
          | cons c cs =>
              have hc : c ≠ '\x60' := (hcs c List.mem_cons_self).2
              simp [writeLine, Span.write, fence?, hc]
      | _ => cases hs

/-- **A written line starts no block.** -/
theorem LineWritable.plainLine {line : List Span} (h : LineWritable line) :
    PlainLine (writeLine line) := by
  obtain ⟨c, rest, hw, hspace, hc⟩ := h.exists_head
  have hmarks : c ∉ blockMarks := by
    intro hmem
    have hall : ∀ d ∈ blockMarks, isAsciiPunctuation d = true ∧ d ∉ ['\\', '\x60', '[', '!'] := by
      decide
    rcases hc with hc | hc
    · exact (hall c hmem).2 hc
    · exact Bool.false_ne_true (hc.symm.trans (hall c hmem).1)
  have hne : ∀ d ∈ blockMarks, c ≠ d := fun d hd hcd => hmarks (hcd ▸ hd)
  refine ⟨⟨c, by rw [hw]; rfl, hspace, hmarks⟩, ?_, fun inParagraph => ?_⟩
  · by_cases htick : c = '\x60'
    · exact h.fence?_of_tick (by rw [hw, htick]; rfl)
    · rw [hw]
      exact fence?_eq_none ⟨htick, hne _ (by decide)⟩ rest
  · rw [hw]
    refine marker?_eq_none ⟨hne _ (by decide), hne _ (by decide), hne _ (by decide)⟩
      (fun digits d rest' heq hdigits => ?_) inParagraph
    rw [← hw] at heq
    exact digits_stop heq hdigits

/-! ### Reading a line -/

/-- The start of a line. -/
def lineStart (l : List Char) : Cursor := ⟨l, 0, false⟩

/-- The line starts with no white space. -/
def Unindented (l : List Char) : Prop := ∃ c ∈ l.head?, isSpace c = false

namespace Unindented

variable {l : List Char}

/-- There is no indentation to skip. -/
theorem skipIndent_eq (h : Unindented l) (column : Nat) : skipIndent column l = (column, l) := by
  obtain ⟨c, hc, hspace⟩ := h
  have hne : ∀ d, isSpace d = true → c ≠ d := fun d hd => (Text.ne_of_kind hd hspace).symm
  have hhead (d : Char) (hd : isSpace d = true) (cs : List Char) : l ≠ d :: cs := by
    rintro rfl
    exact hne d hd (Option.some.inj hc).symm
  rw [skipIndent]
  · exact hhead ' ' (by decide)
  · exact hhead '\t' (by decide)

theorem ahead_eq (h : Unindented l) : (lineStart l).ahead = l := by
  rw [lineStart, Cursor.ahead, h.skipIndent_eq]

theorem indent_eq (h : Unindented l) : (lineStart l).indent = 0 := by
  simp only [lineStart, Cursor.indent, h.skipIndent_eq, Nat.sub_self]

theorem skip_eq (h : Unindented l) : (lineStart l).skip = lineStart l := by
  simp only [lineStart, Cursor.skip, h.skipIndent_eq, if_true]

/-- A line that starts with no white space is not blank. -/
theorem isBlank_eq (h : Unindented l) : (lineStart l).isBlank = false := by
  rw [Cursor.isBlank, h.ahead_eq]
  obtain ⟨c, hc, -⟩ := h
  cases l with
  | nil => cases hc
  | cons => rfl

end Unindented

namespace PlainLine

variable {l : List Char}

theorem unindented (h : PlainLine l) : Unindented l := by
  obtain ⟨c, hc, hspace, -⟩ := h.head
  exact ⟨c, hc, hspace⟩

/-- The first character of a plain line. -/
theorem exists_cons (h : PlainLine l) :
    ∃ c rest, l = c :: rest ∧ isSpace c = false ∧ ∀ d ∈ blockMarks, c ≠ d := by
  obtain ⟨c, hc, hspace, hmarks⟩ := h.head
  cases l with
  | nil => cases hc
  | cons d rest =>
      obtain rfl : d = c := Option.some.inj hc
      exact ⟨d, rest, rfl, hspace, fun e he hde => hmarks (hde ▸ he)⟩

/-- A plain line makes no table of the paragraph it stands in. -/
theorem columns?_eq (h : PlainLine l) : columns? l = none := by
  obtain ⟨c, rest, rfl, hspace, hne⟩ := h.exists_cons
  have hc : ∀ d, isSpace d = true → (c == d) = false := fun d hd => by
    simpa using (Text.ne_of_kind hd hspace).symm
  refine columns?_eq_none ?_ (fun hmem => ?_) rest
  · simp only [isLineSpace, isSpaceOrTab, hc ' ' (by decide), hc '\t' (by decide),
      hc '\x0b' (by decide), hc '\x0c' (by decide), Bool.or_self]
  · have hall : ∀ d ∈ ['|', ':', '-'], d ∈ blockMarks := by decide
    exact hne c (hall c hmem) rfl

/-- A line that starts no block opens none. -/
theorem openBlocks_eq (hl : PlainLine l) {p : Progress} (hp : p.cursor = lineStart l)
    (hv : p.container.isVerbatim = false) (line : Nat) (lazy : Bool) (depth n : Nat) :
    p.openBlocks line lazy depth (n + 1) = p.tableLine line := by
  have hahead : p.cursor.ahead = l := hp ▸ hl.unindented.ahead_eq
  have hindent : p.cursor.indent = 0 := hp ▸ hl.unindented.indent_eq
  obtain ⟨c, rest, rfl, -, hne⟩ := hl.exists_cons
  have hquote : ((c :: rest).head? == some '>') = false := by
    simpa using hne '>' (by decide)
  rw [Progress.openBlocks]
  simp only [hahead, hindent, hv, hquote, headingMark?_eq_none (hne '#' (by decide)), hl.fence,
    htmlBlock?_eq_none (hne '<' (by decide)), hl.marker,
    underline?_eq_none ⟨hne '=' (by decide), hne '-' (by decide)⟩,
    isRule_eq_false ⟨hne '*' (by decide), hne '-' (by decide), hne '_' (by decide)⟩,
    Bool.and_false, Bool.false_eq_true, if_false, ite_self]
  simp

end PlainLine

/-! ### Open blocks -/

/-- The document with its closed blocks, newest first. -/
def documentFrame (done : List Closed) (blank : Bool) : Frame :=
  { kind := .document, line := 0, children := done, beforeBlank := blank }

/-- Between two blocks nothing is open but the document. -/
def Between (blocks : List (Block (List Char))) (o : Open) : Prop :=
  ∃ done blank, done.reverse.map Closed.block = blocks ∧ o = ⟨[documentFrame done blank], []⟩

/-- A block is open in the document, with its lines, newest first. -/
def Within (blocks : List (Block (List Char))) (kind : Kind) (lines : List (List Char)) (o : Open) :
    Prop :=
  ∃ done blank line inner, done.reverse.map Closed.block = blocks ∧
    o = ⟨[{ kind, line, lines, beforeBlank := inner }, documentFrame done blank], []⟩

section

variable {blocks : List (Block (List Char))} {kind : Kind} {lines : List (List Char)} {o : Open}
  {l : List Char}

/-- What is left of a line, once it has been matched and has opened its blocks, is text. -/
theorem Open.readLine_eq {n unmatched : Nat} {c : Cursor} {p : Progress}
    (hmatch : matchFrames (lineStart l) o.frames.reverse = .upTo unmatched c)
    (hopen : ∀ lazy, Progress.openBlocks n lazy 0 (l.length + 2) ⟨o, unmatched, c, false, false⟩ =
      p) (hp : p.finished = false) : o.readLine n l = p.addText n := by
  rw [lineStart] at hmatch
  simp only [Open.readLine, hmatch, hopen, hp, Bool.false_eq_true, if_false]

/-- A line that closes the innermost block is used up by that. -/
theorem Open.readLine_of_closes {n : Nat}
    (h : matchFrames (lineStart l) o.frames.reverse = .closesInner) :
    o.readLine n l = o.closeOne := by
  rw [lineStart] at h
  simp only [Open.readLine, h]

/-- Text goes into the innermost block, if the line has matched all open blocks. -/
theorem Progress.addText_eq {p : Progress} (hmatched : p.unmatched = 0)
    (hblank : p.cursor.isBlank = false) (n : Nat) :
    p.addText n =
      let blocks := (p.setBlank false).blocks
      match p.container.kind with
      | .fenced .. | .indented => blocks.onInner (·.addLine p.cursor.text)
      | .html stop =>
        let added := blocks.onInner (·.addLine p.cursor.text)
        if stop.isMet p.cursor.ahead then added.closeOne else added
      | .paragraph _ => blocks.onInner (·.addLine p.cursor.skip.text)
      | _ =>
        (blocks.makeRoom.push n (.paragraph false)).onInner (·.addLine p.cursor.skip.text) := by
  obtain ⟨⟨frames, references⟩, unmatched, cursor, opened, finished⟩ := p
  obtain rfl : unmatched = 0 := hmatched
  simp only [Progress.addText, Progress.containerBlank, hblank, Bool.false_and, Bool.false_eq_true,
    if_false]
  cases frames with
  | nil | cons => rfl

/-- A blank line opens no block in a document. -/
theorem openBlocks_blank {p : Progress} (hp : p.cursor = lineStart [])
    (hdocument : p.container.kind = .document) (line : Nat) (lazy : Bool) (depth n : Nat) :
    p.openBlocks line lazy depth (n + 1) = p := by
  have hahead : (lineStart []).ahead = [] := rfl
  have hindent : (lineStart []).indent = 0 := rfl
  have hblank : (lineStart []).isBlank = true := rfl
  have hverbatim : p.container.isVerbatim = false := by rw [Frame.isVerbatim, hdocument]
  have hparagraph : p.container.isParagraph = false := by rw [Frame.isParagraph, hdocument]
  have htable : p.tableLine line = p := by rw [Progress.tableLine, hdocument]
  have hheading : headingMark? [] = none := rfl
  have hfence : fence? [] = none := rfl
  have hhtml : htmlBlock? false [] = none := rfl
  have hrule : isRule [] = false := rfl
  have hmarker : marker? false [] = none := rfl
  have hquote : (([] : List Char).head? == some '>') = false := rfl
  rw [Progress.openBlocks]
  simp only [hp, hahead, hindent, hverbatim, hparagraph, hquote, hheading, hfence, hhtml, hrule,
    hmarker, hblank, htable, Bool.and_false, Bool.false_eq_true, Bool.not_true, if_false, ite_self]

/-- A blank line between two blocks changes none of them. -/
theorem Between.blankLine (h : Between blocks o) (n : Nat) : Between blocks (o.readLine n []) := by
  obtain ⟨done, blank, hdone, rfl⟩ := h
  rw [Open.readLine_eq rfl
    (fun lazy => openBlocks_blank rfl rfl n lazy 0 (([] : List Char).length + 1)) rfl]
  cases done with
  | nil => exact ⟨[], true, hdone, rfl⟩
  | cons child older =>
      refine ⟨{ child with beforeBlank := true } :: older, true, ?_, rfl⟩
      simpa using hdone

/-- A blank line behind a block that it does not match closes the block. -/
theorem Within.readLine_blank (h : Within blocks kind lines o)
    (hmatch : ∀ f : Frame, f.kind = kind → ∀ hasParts, f.matchLine hasParts (lineStart []) = .fails)
    (n : Nat) :
    ∃ done line, done.reverse.map Closed.block = blocks ∧
      o.readLine n [] = Open.closeOne
        ⟨[{ kind, line, lines, beforeBlank := true }, documentFrame done true], []⟩ := by
  obtain ⟨done, blank, line, inner, hdone, rfl⟩ := h
  refine ⟨done, line, hdone, ?_⟩
  have hup (f : Frame) (hf : f.kind = kind) :
      matchFrames (lineStart []) [documentFrame done blank, f] = .upTo 1 (lineStart []) := by
    rw [matchFrames]
    show matchFrames (lineStart []) [f] = _
    rw [matchFrames, hmatch f hf]
    rfl
  rw [Open.readLine_eq (hup _ rfl)
    (fun lazy => openBlocks_blank rfl rfl n lazy 0 (([] : List Char).length + 1)) rfl]
  rfl

/-! ### Paragraphs -/

/-- A plain line starts a paragraph. -/
theorem Between.plainLine (h : Between blocks o) (hl : PlainLine l) (n : Nat) :
    Within blocks (.paragraph false) [l ++ ['\n']] (o.readLine n l) := by
  obtain ⟨done, blank, hdone, rfl⟩ := h
  refine ⟨done, false, n, false, hdone, ?_⟩
  rw [Open.readLine_eq rfl (fun lazy => hl.openBlocks_eq rfl rfl n lazy 0 (l.length + 1)) rfl,
    Progress.addText_eq rfl hl.unindented.isBlank_eq]
  show (⟨[{ kind := .paragraph false, line := n, lines := [(lineStart l).skip.text] },
    documentFrame done false], []⟩ : Open) = _
  rw [hl.unindented.skip_eq]
  rfl

/-- A plain line goes on with a paragraph. -/
theorem Within.plainLine (h : Within blocks (.paragraph false) lines o) (hl : PlainLine l)
    (n : Nat) :
    Within blocks (.paragraph false) ((l ++ ['\n']) :: lines) (o.readLine n l) := by
  obtain ⟨done, blank, line, inner, hdone, rfl⟩ := h
  refine ⟨done, false, line, false, hdone, ?_⟩
  have hmatch (f : Frame) (hf : f.kind = .paragraph false) :
      matchFrames (lineStart l) [documentFrame done blank, f] = .upTo 0 (lineStart l) := by
    simp [matchFrames, Frame.matchLine, documentFrame, hf, hl.unindented.isBlank_eq]
  have htable {p : Progress} (hp : p.container.kind = .paragraph false)
      (hc : p.cursor = lineStart l) : p.tableLine n = p := by
    have hcolumns : columns? p.cursor.ahead = none := by
      rw [hc, hl.unindented.ahead_eq, hl.columns?_eq]
    have hheaded : p.headed? n = none := by rw [Progress.headed?, hcolumns]; rfl
    simp [Progress.tableLine, hp, hheaded, hcolumns]
  rw [Open.readLine_eq (hmatch _ rfl)
    (fun lazy => (hl.openBlocks_eq rfl rfl n lazy 0 (l.length + 1)).trans (htable rfl rfl)) rfl,
    Progress.addText_eq rfl hl.unindented.isBlank_eq]
  show (⟨[{ kind := .paragraph false, line, lines := (lineStart l).skip.text :: lines },
    documentFrame done false], []⟩ : Open) = _
  rw [hl.unindented.skip_eq]
  rfl

/-- A blank line closes a paragraph, which holds its lines if they define no labels. -/
theorem Within.endParagraph (h : Within blocks (.paragraph false) lines o)
    (hdefinition : definition? lines.reverse.flatten = none)
    (htext : lines.reverse.flatten.all isSpace = false) (n : Nat) :
    Between (blocks ++ [.paragraph lines.reverse.flatten]) (o.readLine n []) := by
  have hfails (f : Frame) (hf : f.kind = .paragraph false) (hasParts : Bool) :
      f.matchLine hasParts (lineStart []) = .fails := by
    rw [Frame.matchLine, hf]
    rfl
  obtain ⟨done, line, rfl, hread⟩ := h.readLine_blank hfails n
  have htake : ∀ k, takeDefinitions k [] lines.reverse.flatten = ([], lines.reverse.flatten) := by
    intro k
    cases k with
    | zero => rfl
    | succ k => rw [takeDefinitions, hdefinition]
  have hclose : Frame.close { kind := .paragraph false, line, lines, beforeBlank := true } [] =
      (some { block := .paragraph lines.reverse.flatten, beforeBlank := true }, []) := by
    simp only [Frame.close, Frame.text, htake, htext, Bool.false_eq_true, if_false]
  rw [hread, Open.closeOne]
  simp only [hclose]
  exact ⟨{ block := .paragraph _, beforeBlank := true } :: done, true, by simp, rfl⟩

/-! ### Fenced code -/

/-- A text that fences may stand around: the fence is longer than the marks in it. -/
theorem closesFence_eq_false {mark : Char} {size : Nat} (h : l.count mark < size) :
    closesFence mark size l = false := by
  have hown : (l.takeWhile (· == mark)).length ≤ l.count mark := by
    have hall : ∀ c ∈ l.takeWhile (· == mark), mark = c := by
      intro c hc
      have hbeq : (c == mark) = true := List.mem_takeWhile_imp (p := (· == mark)) hc
      exact (beq_iff_eq.mp hbeq).symm
    rw [← List.count_eq_length.mpr hall]
    exact (List.takeWhile_prefix _).sublist.count_le mark
  have hsize : decide (size ≤ (l.takeWhile (· == mark)).length) = false :=
    decide_eq_false (by omega)
  simp only [closesFence, hsize, Bool.and_false, Bool.false_and]

/-- Skipping white space takes nothing else. -/
theorem skipIndent_suffix (column : Nat) (cs : List Char) : (skipIndent column cs).2 <:+ cs := by
  fun_induction skipIndent column cs with
  | case1 column cs ih | case2 column cs ih => exact ih.trans (List.suffix_cons _ _)
  | case3 column cs => exact List.suffix_refl cs

theorem ahead_suffix (l : List Char) : (lineStart l).ahead <:+ l := skipIndent_suffix 0 l

/-- The text behind a fence, and every line up to the next one, goes into the fenced block. -/
theorem addText_fenced {mark : Char} {size indent line : Nat}
    {inner blank opened finished : Bool} {done : List Closed} (c : Cursor) (n : Nat) :
    Progress.addText ⟨⟨[{ kind := .fenced mark size indent, line, lines, beforeBlank := inner },
      documentFrame done blank], []⟩, 0, c, opened, finished⟩ n =
    ⟨[{ kind := .fenced mark size indent, line, lines := c.text :: lines },
      documentFrame done false], []⟩ := by
  generalize hp : Progress.mk _ _ _ _ _ = p
  have hnote : p.noteBlank = p := by rw [← hp]; rfl
  have hcontainer : p.containerBlank n = false := by
    rw [← hp]
    exact Bool.and_false _
  simp only [Progress.addText, hnote, ite_self, hcontainer]
  rw [← hp]
  rfl

/-- Tildes are a fence, whatever text but tildes follows them. -/
theorem fence?_replicate {size : Nat} (hsize : 3 ≤ size) {info : List Char}
    (hinfo : ∀ c ∈ info.head?, c ≠ '~') :
    ∃ cs, List.replicate size '~' ++ info = '~' :: cs ∧ fence? ('~' :: cs) = some ('~', size) := by
  obtain ⟨k, rfl⟩ := Nat.exists_eq_add_of_le' hsize
  refine ⟨List.replicate (k + 2) '~' ++ info, rfl, ?_⟩
  have hrun : ('~' :: (List.replicate (k + 2) '~' ++ info)).takeWhile (· == '~') =
      List.replicate (k + 3) '~' :=
    @Text.takeWhile_run (· == '~') (List.replicate (k + 3) '~') info (by simp)
      (fun c hc => by simpa using hinfo c hc)
  simp [fence?, hrun]

/-- A fence opens a block, with the text behind it still to be read. -/
theorem openBlocks_fence {p : Progress} {cs : List Char} (hp : p.cursor = lineStart ('~' :: cs))
    (hv : p.container.isVerbatim = false) {size : Nat}
    (hfence : fence? ('~' :: cs) = some ('~', size)) (line : Nat) (lazy : Bool) (depth n : Nat) :
    p.openBlocks line lazy depth (n + 1) =
      p.enter line (.fenced '~' size 0) ((lineStart ('~' :: cs)).drop size) := by
  have hl : Unindented ('~' :: cs) := ⟨'~', rfl, by decide⟩
  have hquote : (('~' :: cs).head? == some '>') = false := rfl
  have hrest : (lineStart ('~' :: cs)).rest = '~' :: cs := rfl
  rw [Progress.openBlocks]
  simp only [hp, hl.ahead_eq, hl.indent_eq, hl.skip_eq, hv, hquote, hfence, hrest,
    headingMark?_eq_none (c := '~') (by decide), Nat.zero_lt_succ, Nat.sub_self, decide_true,
    Bool.and_false, Bool.false_eq_true, if_true, if_false]

/-- A fence starts a block of code, and the text behind it is the first line of the block. -/
theorem Between.fence (h : Between blocks o) {size : Nat} (hsize : 3 ≤ size) {info : List Char}
    (hinfo : ∀ c ∈ info.head?, c ≠ '~') (n : Nat) :
    Within blocks (.fenced '~' size 0) [info ++ ['\n']]
      (o.readLine n (List.replicate size '~' ++ info)) := by
  obtain ⟨done, blank, hdone, rfl⟩ := h
  refine ⟨done, false, n, false, hdone, ?_⟩
  obtain ⟨cs, hl, hfence⟩ := fence?_replicate hsize hinfo
  have hdrop : (lineStart ('~' :: cs)).drop size = ⟨info, size, false⟩ := by
    rw [← hl, lineStart, Cursor.drop, List.drop_left' List.length_replicate, Nat.zero_add]
  have hopen (lazy : Bool) := (@openBlocks_fence
    ⟨⟨[documentFrame done blank], []⟩, 0, lineStart ('~' :: cs), false, false⟩ cs
    rfl rfl size hfence n lazy 0 (('~' :: cs).length + 1)).trans (by rw [hdrop])
  rw [hl, Open.readLine_eq rfl hopen rfl]
  exact addText_fenced _ n

/-- A line with fewer tildes than the fence is a line of the code. -/
theorem Within.fencedLine {size : Nat} (h : Within blocks (.fenced '~' size 0) lines o)
    (hl : l.count '~' < size) (n : Nat) :
    Within blocks (.fenced '~' size 0) ((l ++ ['\n']) :: lines) (o.readLine n l) := by
  obtain ⟨done, blank, line, inner, hdone, rfl⟩ := h
  refine ⟨done, false, line, false, hdone, ?_⟩
  have hcloses : closesFence '~' size (lineStart l).ahead = false :=
    closesFence_eq_false (((ahead_suffix l).sublist.count_le '~').trans_lt hl)
  have hmatch (f : Frame) (hf : f.kind = .fenced '~' size 0) :
      matchFrames (lineStart l) [documentFrame done blank, f] = .upTo 0 (lineStart l) := by
    simp [matchFrames, Frame.matchLine, documentFrame, hf, hcloses, Cursor.advance]
  rw [Open.readLine_eq (hmatch _ rfl) (fun lazy => rfl) rfl, addText_fenced]
  rfl

/-- A fence of the same length ends the code. -/
theorem Within.endFence {size : Nat} (hsize : 3 ≤ size) {info : List Char}
    (h : Within blocks (.fenced '~' size 0) (lines ++ [info ++ ['\n']]) o) (n : Nat) :
    Between (blocks ++ [.code (unescape (trimBoth (decodeReferences info))) lines.reverse.flatten])
      (o.readLine n (List.replicate size '~')) := by
  obtain ⟨done, blank, line, inner, rfl, ho⟩ := h
  have hl : Unindented (List.replicate size '~') := by
    obtain ⟨k, rfl⟩ := Nat.exists_eq_add_of_le' hsize
    exact ⟨'~', rfl, by decide⟩
  have hcloses : closesFence '~' size (List.replicate size '~') = true := by
    simp [closesFence, hsize]
  have hmatch : matchFrames (lineStart (List.replicate size '~')) o.frames.reverse =
      .closesInner := by
    simp [ho, matchFrames, Frame.matchLine, documentFrame, hl.ahead_eq, hl.indent_eq, hcloses]
  rw [Open.readLine_of_closes hmatch, ho, Open.closeOne]
  simp only [Frame.close, List.reverse_append, List.reverse_singleton, List.singleton_append,
    List.headD_cons, List.dropLast_concat, List.drop_one, List.tail_cons]
  exact ⟨{ block := .code _ _, beforeBlank := inner } :: done, blank, by simp, rfl⟩

/-! ### Raw HTML -/

/-- The characters end the name of a tag. -/
def EndsName (after : List Char) : Prop := ∀ c ∈ after.head?, c = ' ' ∨ c = '>'

instance (after : List Char) : Decidable (EndsName after) :=
  inferInstanceAs (Decidable (∀ c ∈ after.head?, c = ' ' ∨ c = '>'))

theorem EndsName.not_alphanum {after : List Char} (h : EndsName after) :
    ∀ c ∈ after.head?, c.isAlphanum = false := by
  intro c hc
  rcases h c hc with rfl | rfl <;> rfl

/-- What is known of the names of the elements that start a block of HTML. -/
theorem blockTag_name : ∀ tag ∈ blockTags, tag.toList ≠ [] ∧
    tag.toList.all Char.isAlphanum = true ∧ tag.toList ∉ rawTextTags := by
  decide

/-- The tag of such an element is not that of an element whose text is no markup. -/
theorem rawTextTags_any {name after : List Char} (hname : String.ofList name ∈ blockTags)
    (hafter : EndsName after) :
    (rawTextTags.any fun tag => (dropPrefix? tag (name ++ after)).any fun rest =>
      rest.head?.all fun c => isSpace c || c == '>') = false := by
  obtain ⟨-, halnum, hraw⟩ := blockTag_name _ hname
  rw [String.toList_ofList, List.all_eq_true] at halnum
  rw [String.toList_ofList] at hraw
  have htags : ∀ tag ∈ rawTextTags, tag.all Char.isAlphanum = true := by decide
  have hspaces : ∀ c ∈ spaces, c.isAlphanum = false := by decide
  rw [List.any_eq_false]
  intro tag htag hends
  rw [dropPrefix?] at hends
  split at hends
  next hstart =>
    obtain ⟨rest, hrest⟩ := List.isPrefixOf_iff_prefix.mp hstart
    rw [← hrest, List.drop_left, Option.any_some, Option.all_eq_true] at hends
    have hstop : ∀ c ∈ rest.head?, c.isAlphanum = false := by
      intro c hc
      rcases Bool.or_eq_true_iff.mp (hends c hc) with hc | hc
      · exact hspaces c (mem_spaces hc)
      · rw [beq_iff_eq.mp hc]
        rfl
    -- both names are the letters and digits that the line starts with
    have heq : tag = name := by
      rw [← Text.takeWhile_run (List.all_eq_true.mp (htags tag htag)) hstop, hrest,
        Text.takeWhile_run halnum hafter.not_alphanum]
    exact hraw (heq ▸ htag)
  next => cases hends

/-- **A line may start a block of HTML** with the opening tag of an element that does. -/
theorem htmlBlock?_opening {name after : List Char}
    (hname : String.ofList (name.map Char.toLower) ∈ blockTags) (hafter : EndsName after)
    (inParagraph : Bool) : htmlBlock? inParagraph ('<' :: (name ++ after)) = some .blankLine := by
  have hlow : EndsName (after.map Char.toLower) := by
    intro c hc
    rw [List.head?_map] at hc
    obtain ⟨d, hd, rfl⟩ := Option.map_eq_some_iff.mp hc
    rcases hafter d hd with rfl | rfl
    · exact .inl rfl
    · exact .inr rfl
  obtain ⟨hne, halnum, -⟩ := blockTag_name _ hname
  rw [String.toList_ofList] at hne
  rw [String.toList_ofList, List.all_eq_true] at halnum
  have htag : (blockTags.contains (String.ofList (name.map Char.toLower)) && (
      (after.map Char.toLower).head?.all (fun c => isSpace c || c == '>') ||
        "/>".toList.isPrefixOf (after.map Char.toLower))) = true := by
    have hends : (after.map Char.toLower).head?.all (fun c => isSpace c || c == '>') = true := by
      rw [Option.all_eq_true]
      intro c hc
      rcases hlow c hc with rfl | rfl <;> rfl
    rw [hends, List.contains_iff_mem.mpr hname]
    rfl
  have htake := Text.takeWhile_run halnum hlow.not_alphanum
  cases name with
  | nil => exact absurd rfl hne
  | cons c name =>
      have hc : c.toLower.isAlphanum = true := halnum _ List.mem_cons_self
      have hmark : ∀ d ∈ ['!', '?'], c ≠ d := by
        have hall : ∀ d ∈ ['!', '?'], d.toLower.isAlphanum = false := by decide
        rintro d hd rfl
        exact Bool.false_ne_true ((hall c hd).symm.trans hc)
      simp only [htmlBlock?]
      rw [List.map_append, rawTextTags_any hname hlow, if_neg Bool.false_ne_true]
      split
      next heq => exact absurd (List.cons.inj heq).1 (hmark '!' (by decide))
      next heq => exact absurd (List.cons.inj heq).1 (hmark '?' (by decide))
      next heq => exact absurd (List.cons.inj heq).1 (hmark '!' (by decide))
      next =>
        split
        next heq => exact absurd (List.cons.inj heq).1 (Text.ne_of_kind hc (by decide))
        next =>
          rw [htake, List.drop_left, if_pos htag]
          rfl

/-- A line of HTML opens a block and stays to be read as its text. -/
theorem openBlocks_html {p : Progress} {cs : List Char} (hp : p.cursor = lineStart ('<' :: cs))
    (hv : p.container.isVerbatim = false) {stop : HtmlEnd}
    (hhtml : ∀ inParagraph, htmlBlock? inParagraph ('<' :: cs) = some stop) (line : Nat)
    (lazy : Bool) (depth n : Nat) :
    p.openBlocks line lazy depth (n + 1) = p.enter line (.html stop) (lineStart ('<' :: cs)) := by
  have hl : Unindented ('<' :: cs) := ⟨'<', rfl, by decide⟩
  have hquote : (('<' :: cs).head? == some '>') = false := rfl
  rw [Progress.openBlocks]
  simp only [hp, hl.ahead_eq, hl.indent_eq, hv, hquote, hhtml,
    headingMark?_eq_none (c := '<') (by decide), fence?_eq_none (c := '<') (by decide),
    Nat.zero_lt_succ, decide_true, Bool.and_false, Bool.false_eq_true, if_true, if_false]

/-- A line of HTML starts a block that goes on up to a blank line. -/
theorem Between.html (h : Between blocks o) {cs : List Char}
    (hhtml : ∀ inParagraph, htmlBlock? inParagraph ('<' :: cs) = some .blankLine) (n : Nat) :
    Within blocks (.html .blankLine) ['<' :: cs ++ ['\n']] (o.readLine n ('<' :: cs)) := by
  obtain ⟨done, blank, hdone, rfl⟩ := h
  have hl : Unindented ('<' :: cs) := ⟨'<', rfl, by decide⟩
  refine ⟨done, false, n, false, hdone, ?_⟩
  rw [Open.readLine_eq rfl
    (fun lazy => openBlocks_html rfl rfl hhtml n lazy 0 (('<' :: cs).length + 1)) rfl,
    Progress.addText_eq rfl hl.isBlank_eq]
  rfl

/-- A line that is not blank goes on with the HTML, whatever it says. -/
theorem Within.htmlLine (h : Within blocks (.html .blankLine) lines o)
    (hl : (lineStart l).isBlank = false) (n : Nat) :
    Within blocks (.html .blankLine) ((l ++ ['\n']) :: lines) (o.readLine n l) := by
  obtain ⟨done, blank, line, inner, hdone, rfl⟩ := h
  refine ⟨done, false, line, false, hdone, ?_⟩
  have hmatch (f : Frame) (hf : f.kind = .html .blankLine) :
      matchFrames (lineStart l) [documentFrame done blank, f] = .upTo 0 (lineStart l) := by
    simp [matchFrames, Frame.matchLine, documentFrame, hf, hl]
  rw [Open.readLine_eq (hmatch _ rfl) (fun lazy => rfl) rfl, Progress.addText_eq rfl hl]
  rfl

/-- A blank line ends the HTML, and none of it is kept. -/
theorem Within.endHtml (h : Within blocks (.html .blankLine) lines o) (n : Nat) :
    Between (blocks ++ [.rawHtml]) (o.readLine n []) := by
  have hfails (f : Frame) (hf : f.kind = .html .blankLine) (hasParts : Bool) :
      f.matchLine hasParts (lineStart []) = .fails := by
    rw [Frame.matchLine, hf]
    rfl
  obtain ⟨done, line, rfl, hread⟩ := h.readLine_blank hfails n
  rw [hread]
  exact ⟨{ block := .rawHtml, beforeBlank := true } :: done, true, by simp, rfl⟩

/-- A line is not blank if something other than spaces and tabs stands in it. -/
theorem isBlank_eq_false (h : ∃ c ∈ l, isSpaceOrTab c = false) :
    (lineStart l).isBlank = false := by
  have hskip : ∀ column cs, (∃ c ∈ cs, isSpaceOrTab c = false) → (skipIndent column cs).2 ≠ [] := by
    intro column cs
    fun_induction skipIndent column cs with
    | case1 column cs ih | case2 column cs ih =>
        rintro ⟨c, hc, hother⟩
        rcases List.mem_cons.mp hc with rfl | hc
        · exact absurd hother (by decide)
        · exact ih ⟨c, hc, hother⟩
    | case3 column cs =>
        rintro ⟨c, hc, -⟩
        exact List.ne_nil_of_mem hc
  exact List.isEmpty_eq_false_iff.mpr (hskip 0 l h)

/-! ### Several lines -/

/-- Reading lines is reading the first of them, and then the others. -/
theorem readLines_append (o : Open) (n : Nat) (lines lines' : List (List Char)) :
    o.readLines n (lines ++ lines') =
      (o.readLines n lines).readLines (n + lines.length) lines' := by
  induction lines generalizing o n with
  | nil => rfl
  | cons l lines ih =>
      rw [List.cons_append, Open.readLines, Open.readLines, ih, List.length_cons,
        Nat.add_right_comm, Nat.add_assoc]

/-- A block takes lines as long as it takes each of them. -/
theorem Within.readLines {P : List Char → Prop}
    (hstep : ∀ {lines o l}, Within blocks kind lines o → P l →
      ∀ n, Within blocks kind ((l ++ ['\n']) :: lines) (o.readLine n l))
    {ls : List (List Char)} (hls : ∀ l ∈ ls, P l)
    (h : Within blocks kind lines o) (n : Nat) :
    Within blocks kind ((ls.map (· ++ ['\n'])).reverse ++ lines) (o.readLines n ls) := by
  induction ls generalizing lines o n with
  | nil => exact h
  | cons l ls ih =>
      rw [List.forall_mem_cons] at hls
      rw [List.map_cons, List.reverse_cons, List.append_assoc, List.singleton_append]
      exact ih hls.2 (hstep h hls.1 n) (n + 1)

end

end ModuleDocs.Markdown
