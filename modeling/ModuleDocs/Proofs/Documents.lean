import ModuleDocs.Markdown
import ModuleDocs.Proofs.BlockLines
import ModuleDocs.Proofs.RunningText

/-!
# Proofs — Documents

A document of an author, and the HTML that it gives.  The author's side is a list of passages: each
is written down in lines, and has its HTML said without the reader.

* `Passage`, `Passage.lines`, `Passage.html`: paragraphs, fenced code and raw HTML, how they are
  written, and what they give.
* `Passage.read`: what a passage does to the open blocks, one case for each kind; `readPassages` is
  the run over a document, and `readStructure_writeDocument` its block structure.
* `Passage.layout_readBlock`: the HTML of one passage, from which follows that of a document.
* `render_writeDocument`: **the HTML of a document is that of its passages.**
-/

namespace ModuleDocs.Markdown

/-! ### Paragraphs define no labels -/

/-- A guarded text is read as a label up to the bracket behind it, unless it is too long for one. -/
theorem labelBody?_guarded (cs w : List Char) (read : Nat) (taken : List Char) :
    labelBody? read taken (guarded cs ++ ']' :: w) = none ∨
      ∃ label, labelBody? read taken (guarded cs ++ ']' :: w) = some (label, w) := by
  induction cs generalizing read taken with
  | nil => exact .inr ⟨_, by rw [guarded, List.flatMap_nil, List.nil_append, labelBody?]⟩
  | cons c cs ih =>
      rw [guarded_cons, List.append_assoc]
      cases hp : isAsciiPunctuation c with
      | true =>
          rw [guardChar_of_punctuation hp, List.cons_append, List.singleton_append, labelBody?,
            if_pos hp]
          split
          · exact .inl rfl
          · exact ih _ _
      | false =>
          have hne : ∀ d, isAsciiPunctuation d = true → c ≠ d := fun d hd =>
            (Text.ne_of_kind hd hp).symm
          rw [guardChar_of_not_punctuation hp, List.singleton_append, labelBody?]
          · split
            · exact .inl rfl
            · exact ih _ _
          · exact hne ']' (by decide)
          · exact hne '[' (by decide)
          · exact fun _ _ hc _ => hne '\\' (by decide) hc

/-- A label starts with its bracket. -/
theorem label?_eq_none {cs : List Char} (h : ∀ c ∈ cs.head?, c ≠ '[') : label? cs = none := by
  unfold label?
  split
  next => exact absurd rfl (h '[' rfl)
  next => rfl

/-- A line of spans starts no definition: the label of a link is followed by its target. -/
theorem definition?_eq_none {line : List Span} (h : LineWritable line) (rest : List Char) :
    definition? (writeLine line ++ rest) = none := by
  cases line with
  | nil => exact absurd rfl h.write_ne_nil
  | cons s line =>
      rw [writeLine, List.flatMap_cons, List.append_assoc]
      generalize line.flatMap Span.write ++ rest = rest
      have hother (h : ∀ c ∈ s.write.head?, c ≠ '[') : definition? (s.write ++ rest) = none := by
        rw [definition?, label?_eq_none]
        · rfl
        · rwa [List.head?_append_of_ne_nil _ s.write_ne_nil]
      cases s with
      | link target text =>
          have hwrite : (Span.link target text).write ++ rest = '[' :: (guarded text ++ ']' ::
              '(' :: ((target.write ++ rest).drop 1)) := by
            simp [Span.write, Target.write]
          rw [hwrite, definition?, label?]
          rcases labelBody?_guarded text ('(' :: ((target.write ++ rest).drop 1)) 0 [] with
            h | ⟨label, h⟩
          · rw [h]
            rfl
          · rw [h]
            show (if label.isEmpty then failure else _) = none
            split <;> rfl
      | char d =>
          exact hother (head_guardChar_ne (by decide) (by decide) d)
      | code | raw | address | image => exact hother (Text.forall_head_cons (by decide))

/-! ### Cutting lines -/

/-- A line is cut off at its line feed. -/
theorem splitLines_append {l : List Char} (h : ∀ c ∈ l, InLine c) (taken rest : List Char) :
    splitLines taken (l ++ '\n' :: rest) = (taken.reverse ++ l) :: splitLines [] rest := by
  induction l generalizing taken with
  | nil =>
      rw [List.nil_append, splitLines, if_pos (by decide), List.append_nil]
      intro _ h
      cases h
  | cons c l ih =>
      rw [List.forall_mem_cons] at h
      obtain ⟨⟨hfeed, hreturn, hnul⟩, hl⟩ := h
      rw [List.cons_append, splitLines, if_neg (by simp [hfeed, hreturn]), if_neg hnul, ih hl]
      · simp
      · exact fun _ hc => absurd hc hreturn

/-- Lines that were put together are cut apart again. -/
theorem splitLines_lines {lines : List (List Char)} (h : ∀ l ∈ lines, ∀ c ∈ l, InLine c) :
    splitLines [] (unlined lines) = lines := by
  rw [unlined]
  induction lines with
  | nil => rfl
  | cons l lines ih =>
      rw [List.forall_mem_cons] at h
      rw [List.flatMap_cons, List.append_assoc, List.singleton_append, splitLines_append h.1,
        ih h.2]
      rfl

/-! ### Passages -/

/-- A part of a document between blank lines, as its author means it. -/
inductive Passage where
  | paragraph (lines : List (List Span))
  /-- Code between fences, with the language and what else stands behind the first of them. -/
  | code (info : List Char) (lines : List (List Char))
  /-- HTML, from the tag of a block element on. -/
  | raw (name after : List Char) (lines : List (List Char))
deriving DecidableEq, Repr

/-- The fence around code: it is longer than any that may stand in the code. -/
def fenceAround (lines : List (List Char)) : List Char :=
  List.replicate (3 + lines.flatten.count '~') '~'

namespace Passage

/-- The lines as they are written. -/
def lines : Passage → List (List Char)
  | paragraph lines => lines.map writeLine
  | code info lines => (fenceAround lines ++ guarded info) :: (lines ++ [fenceAround lines])
  | raw name after lines => ('<' :: (name ++ after)) :: lines

/-- The HTML of the passage. -/
def html : Passage → List Char
  | paragraph lines => "<p>".toList ++ (lined (lines.map lineHtml) ++ "</p>\n".toList)
  | code info lines =>
    let language := if info.isEmpty then [] else
      " class=\"language-".toList ++ (escape (info.takeWhile (!isSpace ·)) ++ ['"'])
    "<pre><code".toList ++ (language ++ '>' :: (escape (unlined lines) ++ "</code></pre>\n".toList))
  | raw .. => "<!-- raw HTML omitted -->\n".toList

/-- The passage can be written.  A block of HTML ends at a blank line, so that none stands in it. -/
def Writable : Passage → Prop
  | paragraph lines => lines ≠ [] ∧ ∀ line ∈ lines, LineWritable line
  | code info lines =>
    Trimmed info ∧ Unreferred info ∧ (∀ c ∈ info, InLine c) ∧ ∀ l ∈ lines, ∀ c ∈ l, InLine c
  | raw name after lines =>
    String.ofList (name.map Char.toLower) ∈ blockTags ∧ EndsName after ∧ (∀ c ∈ after, InLine c) ∧
      ∀ l ∈ lines, (∀ c ∈ l, InLine c) ∧ ∃ c ∈ l, isSpaceOrTab c = false

instance (p : Passage) : Decidable p.Writable :=
  match p with
  | paragraph _ => inferInstanceAs (Decidable (_ ∧ _))
  | code _ _ => inferInstanceAs (Decidable (_ ∧ _ ∧ _ ∧ _))
  | raw _ _ _ => inferInstanceAs (Decidable (_ ∧ _ ∧ _ ∧ _))

/-- The block that the passage is read as. -/
def block : Passage → Block (List Char)
  | paragraph lines => .paragraph (unlined (lines.map writeLine))
  | code info lines => .code info (unlined lines)
  | raw .. => .rawHtml

end Passage

section

variable {blocks : List (Block (List Char))} {o : Open}

/-- The first line starts a paragraph, the others go on with it, and the blank line ends it. -/
theorem Passage.read_paragraph {lines : List (List Span)} (h : (Passage.paragraph lines).Writable)
    (ho : Between blocks o) (n : Nat) :
    Between (blocks ++ [(Passage.paragraph lines).block])
      (o.readLines n ((Passage.paragraph lines).lines ++ [[]])) := by
  obtain ⟨hne, hlines⟩ := h
  cases lines with
  | nil => exact absurd rfl hne
  | cons line lines =>
      have hplain : ∀ l ∈ (line :: lines).map writeLine, PlainLine l := by
        intro l hl
        obtain ⟨line', hline', rfl⟩ := List.mem_map.mp hl
        exact (hlines line' hline').plainLine
      rw [List.map_cons, List.forall_mem_cons] at hplain
      have hend := (Within.readLines (fun hw hl n => hw.plainLine hl n) hplain.2
        (ho.plainLine hplain.1 n) (n + 1)).endParagraph
      have hflat : ((((lines.map writeLine).map (· ++ ['\n'])).reverse ++
          [writeLine line ++ ['\n']]).reverse).flatten =
            unlined ((line :: lines).map writeLine) := by
        simp [unlined, List.flatMap_def]
      have htext : unlined ((line :: lines).map writeLine) =
          writeLine line ++ ('\n' :: unlined (lines.map writeLine)) := by
        simp [unlined]
      have hline := hlines line List.mem_cons_self
      rw [hflat] at hend
      rw [Passage.lines, readLines_append]
      refine hend ?_ ?_ _
      · rw [htext]
        exact definition?_eq_none hline _
      · obtain ⟨c, rest, hw, hspace, -⟩ := hline.exists_head
        rw [htext, hw, List.cons_append, List.all_cons, hspace, Bool.false_and]

/-- No line of the code is long enough a fence to end it. -/
theorem Passage.read_code {info : List Char} {lines : List (List Char)}
    (h : (Passage.code info lines).Writable) (ho : Between blocks o) (n : Nat) :
    Between (blocks ++ [(Passage.code info lines).block])
      (o.readLines n ((Passage.code info lines).lines ++ [[]])) := by
  obtain ⟨htrimmed, hunreferred, -⟩ := h
  have hhead : ∀ c ∈ (guarded info).head?, c ≠ '~' := by
    have hnone : ∀ c ∈ ([] : List Char).head?, c ≠ '~' := fun c hc => absurd hc (by simp)
    rw [← List.append_nil (guarded info)]
    exact head_guarded_ne (by decide) (by decide) info hnone
  have hcount : ∀ l ∈ lines, l.count '~' < 3 + lines.flatten.count '~' := by
    intro l hl
    have hle := (List.sublist_flatten_of_mem hl).count_le '~'
    omega
  have hsize : 3 ≤ 3 + lines.flatten.count '~' := Nat.le_add_right 3 _
  have hwithin := Within.readLines (fun hw hl n => hw.fencedLine hl n) hcount
    (ho.fence hsize hhead n) (n + 1)
  have hinfo : unescape (trimBoth (decodeReferences (guarded info))) = info := by
    rw [decodeReferences_eq_self hunreferred.guarded, htrimmed.guarded.trimBoth_eq,
      unescape_guarded]
  have hend := (hwithin.endFence hsize (n + 1 + lines.length)).blankLine
  rw [hinfo, List.reverse_reverse] at hend
  rw [Passage.lines, List.cons_append, List.append_assoc, Open.readLines, readLines_append]
  exact hend _

/-- All lines up to the blank one belong to the HTML. -/
theorem Passage.read_raw {name after : List Char} {lines : List (List Char)}
    (h : (Passage.raw name after lines).Writable) (ho : Between blocks o) (n : Nat) :
    Between (blocks ++ [(Passage.raw name after lines).block])
      (o.readLines n ((Passage.raw name after lines).lines ++ [[]])) := by
  obtain ⟨hname, hafter, -, hlines⟩ := h
  have hwithin := Within.readLines (fun hw hl n => hw.htmlLine (isBlank_eq_false hl) n)
    (fun l hl => (hlines l hl).2) (ho.html (htmlBlock?_opening hname hafter) n) (n + 1)
  rw [Passage.lines, readLines_append]
  exact hwithin.endHtml _

/-- **A passage is read as one block.** -/
theorem Passage.read {p : Passage} (h : p.Writable) (ho : Between blocks o) (n : Nat) :
    Between (blocks ++ [p.block]) (o.readLines n (p.lines ++ [[]])) := by
  cases p with
  | paragraph => exact Passage.read_paragraph h ho n
  | code => exact Passage.read_code h ho n
  | raw => exact Passage.read_raw h ho n

end

/-! ### Lines of a document -/

theorem inLine_blockTag {name : List Char} (h : String.ofList (name.map Char.toLower) ∈ blockTags) :
    ∀ c ∈ name, InLine c := by
  obtain ⟨-, halnum, -⟩ := blockTag_name _ h
  rw [String.toList_ofList, List.all_eq_true] at halnum
  intro c hc
  exact inLine_of_kind (p := fun c => c.toLower.isAlphanum)
    (halnum _ (List.mem_map_of_mem hc)) (by decide)

/-- No line of a passage holds a line feed. -/
theorem Passage.Writable.inLine {p : Passage} (h : p.Writable) :
    ∀ l ∈ p.lines, ∀ c ∈ l, InLine c := by
  cases p with
  | paragraph lines =>
      simp only [Passage.lines, List.forall_mem_map]
      exact fun line hline => (h.2 line hline).inLine
  | code info lines =>
      have hfence : ∀ c ∈ fenceAround lines, InLine c := by
        intro c hc
        rw [List.eq_of_mem_replicate hc]
        decide
      obtain ⟨-, -, hinfo, hlines⟩ := h
      simp only [Passage.lines, List.forall_mem_cons, List.forall_mem_append]
      exact ⟨⟨hfence, inLine_guarded hinfo⟩, hlines, hfence, fun l hl => absurd hl List.not_mem_nil⟩
  | raw name after lines =>
      obtain ⟨hname, -, hafter, hlines⟩ := h
      simp only [Passage.lines, List.forall_mem_cons, List.forall_mem_append]
      exact ⟨⟨by decide, inLine_blockTag hname, hafter⟩, fun l hl => (hlines l hl).1⟩

/-! ### Documents -/

/-- The document as it is written: each passage with a blank line behind it. -/
def writeDocument (passages : List Passage) : List Char :=
  unlined (passages.flatMap fun p => p.lines ++ [[]])

/-- **Passage after passage** is added to the document as one block. -/
theorem Between.readPassages {passages : List Passage} (h : ∀ p ∈ passages, p.Writable)
    {blocks : List (Block (List Char))} {o : Open} (ho : Between blocks o) (n : Nat) :
    Between (blocks ++ passages.map Passage.block)
      (o.readLines n (passages.flatMap fun p => p.lines ++ [[]])) := by
  induction passages generalizing blocks o n with
  | nil => rwa [List.map_nil, List.append_nil]
  | cons p passages ih =>
      rw [List.forall_mem_cons] at h
      rw [List.flatMap_cons, readLines_append, List.map_cons, ← List.singleton_append,
        ← List.append_assoc]
      exact ih h.2 (Passage.read h.1 ho n) _

/-- A passage starts with no blank, and with no byte order mark. -/
theorem Passage.Writable.head {p : Passage} (h : p.Writable) :
    ∃ c cs lines, p.lines = (c :: cs) :: lines ∧ Text.isBlank c = false ∧ c ≠ '\ufeff' := by
  cases p with
  | paragraph lines =>
      obtain ⟨hne, hlines⟩ := h
      cases lines with
      | nil => exact absurd rfl hne
      | cons line lines =>
          have hline := hlines line List.mem_cons_self
          obtain ⟨s, hs, hblank, hpointed, hhead⟩ := hline.head_write
          obtain ⟨c, rest, hw, -⟩ := hline.exists_head
          refine ⟨c, rest, lines.map writeLine, by rw [Passage.lines, List.map_cons, hw], ?_⟩
          rw [hw, List.head?_cons, eq_comm] at hhead
          rcases s.head_cases c hhead with hc | ⟨rfl, -⟩ | ⟨hc, -⟩
          · have hall : ∀ c ∈ ['\\', '\x60', '[', '!'], Text.isBlank c = false ∧ c ≠ '\ufeff' := by
              decide
            exact hall c hc
          · exact ⟨hblank, (hline.spans _ hs).2.2⟩
          · exact absurd (hpointed.symm.trans hc) Bool.false_ne_true
  | code info lines =>
      have hfence : fenceAround lines =
          '~' :: List.replicate (2 + lines.flatten.count '~') '~' := by
        rw [fenceAround, ← List.replicate_succ]
        congr 1
        omega
      exact ⟨'~', _, _, by rw [Passage.lines, hfence, List.cons_append], by decide⟩
  | raw name after lines => exact ⟨'<', _, _, rfl, by decide⟩

/-- So does a document that is not empty. -/
theorem exists_writeDocument {p : Passage} (h : p.Writable) (passages : List Passage) :
    ∃ c cs, writeDocument (p :: passages) = c :: cs ∧ Text.isBlank c = false ∧ c ≠ '\ufeff' := by
  obtain ⟨c, cs, lines, hlines, hc⟩ := h.head
  have hdocument : writeDocument (p :: passages) = unlined ((c :: cs) :: (lines ++ [[]] ++
      passages.flatMap fun p => p.lines ++ [[]])) := by
    rw [writeDocument, List.flatMap_cons, hlines]
    rfl
  exact ⟨c, _, hdocument, hc⟩

theorem dropByteOrderMark_cons {c : Char} (h : c ≠ '\ufeff') (cs : List Char) :
    dropByteOrderMark (c :: cs) = c :: cs := by
  unfold dropByteOrderMark
  split
  next heq => exact absurd (List.cons.inj heq).1 h
  next => rfl

/-- **A document is read as the blocks of its passages.** -/
theorem readStructure_writeDocument {passages : List Passage} (h : ∀ p ∈ passages, p.Writable) :
    readStructure (writeDocument passages) = (passages.map Passage.block, []) := by
  have hmark : dropByteOrderMark (writeDocument passages) = writeDocument passages := by
    cases passages with
    | nil => rfl
    | cons p passages =>
        obtain ⟨c, cs, hw, -, hc⟩ := exists_writeDocument (h p List.mem_cons_self) passages
        rw [hw, dropByteOrderMark_cons hc]
  have hlines : ∀ l ∈ passages.flatMap (fun p => p.lines ++ [[]]), ∀ c ∈ l, InLine c := by
    rw [List.forall_mem_flatMap]
    intro p hp
    rw [List.forall_mem_append]
    exact ⟨(h p hp).inLine, by simp⟩
  have hstart : Between [] ⟨[{ kind := .document, line := 0 }], []⟩ := ⟨[], false, rfl, rfl⟩
  obtain ⟨done, blank, hdone, hread⟩ := hstart.readPassages h 1
  rw [readStructure, hmark, writeDocument, splitLines_lines hlines, hread]
  exact congrArg (·, []) hdone

/-! ### The HTML of a document -/

theorem mapAll_eq {α β : Type} (f : α → β) (bs : List (Block α)) :
    Block.mapAll f bs = bs.map (Block.map f) := by
  induction bs with
  | nil => rfl
  | cons b bs ih => rw [Block.mapAll, ih, List.map_cons]

/-- Tasks are marked block by block. -/
theorem markTasksAll_eq (bs : List (Block (List Inline))) : markTasksAll bs = bs.map markTasks := by
  induction bs with
  | nil => rfl
  | cons b bs ih => rw [markTasksAll, ih, List.map_cons]

/-- The block of a passage with its running text read. -/
def Passage.readBlock (p : Passage) : Block (List Inline) :=
  (markTasks (p.block.map (readRunning []))).map linkMailInAll

/-- The HTML of a paragraph. -/
theorem print_layout_paragraph {out : Layout} (hfresh : out.freshLine = out) (text : List Inline) :
    (Block.layout false out (.paragraph text)).print =
      out.print ++ ("<p>".toList ++ (htmlOf text ++ "</p>\n".toList)) := by
  rw [Block.layout, if_neg Bool.false_ne_true, hfresh, Layout.lineFeed, Layout.closing,
    Layout.opening, print_cons, print_cons, print_layoutAll, print_cons]
  simp only [List.append_assoc]
  rfl

/-- The HTML of a block of code. -/
theorem print_layout_code {out : Layout} (hfresh : out.freshLine = out) (info literal : List Char) :
    (Block.layout false out (.code info literal)).print = out.print ++ ("<pre><code".toList ++
      ((languageAttribute info).flatMap Attribute.print ++ '>' ::
        (escape literal ++ "</code></pre>\n".toList))) := by
  have hopening : (Token.opening .code (languageAttribute info)).print =
      "<code".toList ++ ((languageAttribute info).flatMap Attribute.print ++ ['>']) := by
    rw [Token.print, List.append_assoc]
    rfl
  have htext : (Token.text literal).print = escape literal := rfl
  rw [Block.layout, hfresh, Layout.lineFeed, Layout.closing, Layout.closing, Layout.opening,
    Layout.opening, print_cons, print_cons, print_cons, print_cons, print_cons, print_cons,
    hopening, htext]
  simp only [List.append_assoc]
  rfl

/-- Of a block of HTML nothing is kept but the comment. -/
theorem print_layout_rawHtml {out : Layout} (hfresh : out.freshLine = out) :
    (Block.layout false out .rawHtml).print =
      out.print ++ "<!-- raw HTML omitted -->\n".toList := by
  have hlayout : Block.layout false out .rawHtml = .lineFeed :: .omitted :: out := by
    rw [Block.layout, hfresh]
    rfl
  rw [hlayout, print_cons, print_cons, List.append_assoc]
  rfl

/-- The language is the first word behind the fence. -/
theorem print_languageAttribute (info : List Char) :
    (languageAttribute info).flatMap Attribute.print = if info.isEmpty then [] else
      " class=\"language-".toList ++ (escape (info.takeWhile (!isSpace ·)) ++ ['"']) := by
  rw [languageAttribute]
  split
  · rfl
  · rw [List.flatMap_singleton]
    rfl

/-- A passage is laid out as its HTML, and ends its last line. -/
theorem Passage.layout_readBlock {p : Passage} (h : p.Writable) {out : Layout}
    (hout : out.atLineStart = true) :
    (p.readBlock.layout false out).print = out.print ++ p.html ∧
      (p.readBlock.layout false out).atLineStart = true := by
  have hfresh : out.freshLine = out := if_pos hout
  cases p with
  | paragraph lines =>
      have hblock : (paragraph lines).readBlock =
          .paragraph (linkMailInAll (readRunning [] (unlined (lines.map writeLine)))) := rfl
      refine ⟨?_, rfl⟩
      rw [hblock, print_layout_paragraph hfresh, htmlOf_readRunning h.1 h.2]
      rfl
  | code info lines =>
      have hblock : (code info lines).readBlock = .code info (unlined lines) := rfl
      refine ⟨?_, rfl⟩
      rw [hblock, print_layout_code hfresh, print_languageAttribute]
      rfl
  | raw name after lines =>
      have hblock : (raw name after lines).readBlock = .rawHtml := rfl
      refine ⟨?_, rfl⟩
      rw [hblock, print_layout_rawHtml hfresh]
      rfl

/-- Each passage starts on a line of its own, so that their HTML is simply put together. -/
theorem print_layout_passages {passages : List Passage} (h : ∀ p ∈ passages, p.Writable)
    {out : Layout} (hout : out.atLineStart = true) :
    (Block.layoutAll false out (passages.map Passage.readBlock)).print =
      out.print ++ passages.flatMap Passage.html := by
  induction passages generalizing out with
  | nil => rw [List.map_nil, Block.layoutAll, List.flatMap_nil, List.append_nil]
  | cons p passages ih =>
      rw [List.forall_mem_cons] at h
      obtain ⟨hprint, hstart⟩ := Passage.layout_readBlock h.1 hout
      rw [List.map_cons, Block.layoutAll, ih h.2 hstart, hprint, List.flatMap_cons,
        List.append_assoc]

/-- **The HTML of a written document is that of its passages.** -/
theorem render_writeDocument {passages : List Passage} (h : ∀ p ∈ passages, p.Writable) :
    render (String.ofList (writeDocument passages)) =
      String.ofList (passages.flatMap Passage.html) := by
  have hread : read (writeDocument passages) = passages.map Passage.readBlock := by
    rw [read, readStructure_writeDocument h]
    simp only [mapAll_eq, markTasksAll_eq, List.map_map]
    rfl
  cases passages with
  | nil => rfl
  | cons p passages =>
      have hblank : Text.allBlank (String.ofList (writeDocument (p :: passages))) = false := by
        obtain ⟨c, cs, hw, hc, -⟩ := exists_writeDocument (h p List.mem_cons_self) passages
        rw [Text.allBlank, String.toList_ofList, hw, List.all_cons, hc, Bool.false_and]
      rw [render, hblank, if_neg Bool.false_ne_true, String.toList_ofList, hread, toHtml,
        print_layout_passages h rfl]
      rfl

end ModuleDocs.Markdown
