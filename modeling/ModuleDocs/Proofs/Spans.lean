import ModuleDocs.Markdown.Html
import ModuleDocs.Proofs.Guarded
import Mathlib.Data.List.Chain

/-!
# Proofs — Spans

The parts of a line of a description, as its author means them: characters, code, tags, addresses,
links and images.

* `Span`, `Span.write`, `Span.html`: the parts, how they are written, and the HTML that they give.
* `LineWritable`, `writeLine`, `lineHtml`: lines of such parts; `lined` and `unlined` put lines
  together.
* `htmlOf`: the HTML of running text, part by part.  Joining texts and looking for mail addresses
  leave it (`htmlOf_linkMailInAll_joined`).
-/

namespace ModuleDocs.Markdown

/-! ### Spans -/

/-- A part of a line, as its author means it. -/
inductive Span where
  /-- A character that stands for itself. -/
  | char (c : Char)
  | code (chars : List Char)
  | raw (tag : RawTag)
  | address (scheme path : List Char)
  | link (target : Target) (text : List Char)
  | image (target : Target) (text : List Char)
deriving DecidableEq, Repr

/-- The attribute for the title of a target, where it has one. -/
def Target.titleHtml (t : Target) : List Char :=
  if t.title.isEmpty then [] else " title=\"".toList ++ (escape t.title ++ ['"'])

namespace Span

/-- The span as it is written. -/
def write : Span → List Char
  | char c => guardChar c
  | code chars => '\x60' :: (chars ++ ['\x60'])
  | raw tag => '<' :: tag.inside
  | address scheme path => '<' :: (scheme ++ ':' :: (path ++ ['>']))
  | link target text => '[' :: (guarded text ++ ']' :: target.write)
  | image target text => '!' :: '[' :: (guarded text ++ ']' :: target.write)

/-- The HTML of the span. -/
def html : Span → List Char
  | char c => escapeChar c
  | code chars => "<code>".toList ++ (escape chars ++ "</code>".toList)
  | raw _ => "<!-- raw HTML omitted -->".toList
  | address scheme path =>
    "<a href=\"".toList ++ (escapeAddress (scheme ++ ':' :: path) ++ '"' :: '>' ::
      (escape (scheme ++ ':' :: path) ++ "</a>".toList))
  | link target text =>
    "<a href=\"".toList ++ (escapeAddress target.url ++ '"' :: (target.titleHtml ++ '>' ::
      (escape text ++ "</a>".toList)))
  | image target text =>
    "<img src=\"".toList ++ (escapeAddress target.url ++ "\" alt=\"".toList ++ (escape text ++ '"' ::
      (target.titleHtml ++ " />".toList)))

/-- The span can be written.  Mail addresses in plain text are linked, so no `@` may stand there. -/
def Writable : Span → Prop
  | char c => InLine c ∧ c ≠ '@' ∧ c ≠ '\ufeff'
  | code chars => chars ≠ [] ∧ chars.head? ≠ some ' ' ∧ ∀ c ∈ chars, InLine c ∧ c ≠ '\x60'
  | raw tag => tag.WellFormed
  | address scheme path => IsAddress scheme path
  | link target text | image target text => target.Writable ∧ ∀ c ∈ text, InLine c

instance (s : Span) : Decidable s.Writable :=
  match s with
  | char _ => inferInstanceAs (Decidable (_ ∧ _ ∧ _))
  | code _ => inferInstanceAs (Decidable (_ ∧ _ ∧ _))
  | raw tag => inferInstanceAs (Decidable tag.WellFormed)
  | address scheme path => inferInstanceAs (Decidable (IsAddress scheme path))
  | link _ _ => inferInstanceAs (Decidable (_ ∧ _))
  | image _ _ => inferInstanceAs (Decidable (_ ∧ _))

/-- The span is code. -/
def isCode : Span → Bool
  | code _ => true
  | _ => false

/-- The span is a blank. -/
def isBlank : Span → Bool
  | char c => Text.isBlank c
  | _ => false

/-- The span starts with a pointed bracket. -/
def isPointed : Span → Bool
  | raw _ | address _ _ => true
  | _ => false

theorem write_ne_nil (s : Span) : s.write ≠ [] := by
  cases s with
  | char c => exact guardChar_ne_nil c
  | _ => exact List.cons_ne_nil _ _

/-- A span that is no character starts with a mark of its own, and a backtick starts code only. -/
theorem head_write {s : Span} (hs : ∀ c, s ≠ .char c) :
    ∀ c ∈ s.write.head?, c ∈ ['\x60', '<', '[', '!'] := by
  cases s with
  | char c => exact absurd rfl (hs c)
  | _ => exact Text.forall_head_cons (by decide)

/-- Only code starts with a backtick. -/
theorem isCode_of_head_write {s : Span} (h : s.write.head? = some '\x60') : s.isCode = true := by
  cases s with
  | code => rfl
  | char c => exact absurd rfl (head_guardChar_ne (by decide) (by decide) c '\x60' h)
  | raw | address | link | image =>
      exact absurd (Option.some.inj h) (by decide)

theorem isSpace_eq_false_of_not_isBlank {c : Char} (h : Text.isBlank c = false) :
    isSpace c = false := by
  have hall : ∀ d ∈ spaces, Text.isBlank d = true := by decide
  rw [← Bool.not_eq_true]
  intro hc
  exact Bool.false_ne_true (h.symm.trans (hall c (mem_spaces hc)))

/-- A span that is no blank starts with no white space. -/
theorem isSpace_head_write {s : Span} (h : s.isBlank = false) :
    ∀ c ∈ s.write.head?, isSpace c = false := by
  cases s with
  | char d =>
      intro c hc
      exact isSpace_of_guardChar (isSpace_eq_false_of_not_isBlank h) (List.mem_of_mem_head? hc)
  | _ => exact Text.forall_head_cons (by decide)

/-- A span that is no blank ends with no white space. -/
theorem isSpace_getLast_write {s : Span} (h : s.isBlank = false) :
    ∀ c ∈ s.write.getLast?, isSpace c = false := by
  have hend {w : List Char} (front : List Char) (d : Char) (hw : w = front ++ [d])
      (hd : isSpace d = false) : ∀ c ∈ w.getLast?, isSpace c = false := by
    rw [hw, List.getLast?_concat]
    rintro _ ⟨⟩
    exact hd
  have htarget (t : Target) : ∃ front, t.write = front ++ [')'] :=
    ⟨'(' :: '<' :: (guarded t.url ++ '>' :: ' ' :: '"' :: (guarded t.title ++ ['"'])),
      by simp [Target.write]⟩
  cases s with
  | char d =>
      intro c hc
      exact isSpace_of_guardChar (isSpace_eq_false_of_not_isBlank h) (List.mem_of_getLast? hc)
  | code chars => exact hend ('\x60' :: chars) '\x60' rfl (by decide)
  | raw tag =>
      cases tag with
      | opening name attributes =>
          exact hend ('<' :: (name ++ attributes.flatMap writeAttribute)) '>' rfl (by decide)
      | closing name => exact hend ('<' :: '/' :: name) '>' rfl (by decide)
  | address scheme path =>
      exact hend ('<' :: (scheme ++ ':' :: path)) '>' (by simp [write]) (by decide)
  | link target text =>
      obtain ⟨front, hfront⟩ := htarget target
      exact hend ('[' :: (guarded text ++ ']' :: front)) ')' (by simp [write, hfront]) (by decide)
  | image target text =>
      obtain ⟨front, hfront⟩ := htarget target
      exact hend ('!' :: '[' :: (guarded text ++ ']' :: front)) ')' (by simp [write, hfront])
        (by decide)

/-- A span stays on its line. -/
theorem Writable.inLine {s : Span} (h : s.Writable) : ∀ c ∈ s.write, InLine c := by
  cases s with
  | char c =>
      have hc : ∀ d ∈ [c], InLine d := List.forall_mem_singleton.mpr h.1
      rw [write, ← guarded_singleton]
      exact inLine_guarded hc
  | code chars =>
      simp only [write, List.forall_mem_cons, List.forall_mem_append]
      exact ⟨by decide, fun c hc => (h.2.2 c hc).1, by decide⟩
  | raw tag => exact List.forall_mem_cons.mpr ⟨by decide, RawTag.WellFormed.inLine h⟩
  | address scheme path =>
      have hwrite : (address scheme path).write = '<' :: (scheme ++ ':' :: path ++ ['>']) := by
        simp [write]
      rw [hwrite, List.forall_mem_cons, List.forall_mem_append]
      exact ⟨by decide, IsAddress.inLine h, by decide⟩
  | link target text =>
      simp only [write, List.forall_mem_cons, List.forall_mem_append]
      exact ⟨by decide, inLine_guarded h.2, by decide, h.1.inLine⟩
  | image target text =>
      simp only [write, List.forall_mem_cons, List.forall_mem_append]
      exact ⟨by decide, by decide, inLine_guarded h.2, by decide, h.1.inLine⟩

end Span

/-- The line can be written.  It starts and ends with no blank, and it does not start with a pointed
bracket, which might make it a line of HTML.  Something stands between two pieces of code. -/
structure LineWritable (line : List Span) : Prop where
  spans : ∀ s ∈ line, s.Writable
  codes : line.IsChain fun s s' => (s.isCode && s'.isCode) = false
  first : ∃ s ∈ line.head?, s.isBlank = false ∧ s.isPointed = false
  last : ∀ s ∈ line.getLast?, s.isBlank = false

instance (line : List Span) : Decidable (LineWritable line) :=
  decidable_of_iff ((∀ s ∈ line, s.Writable) ∧
      (line.IsChain fun s s' => (s.isCode && s'.isCode) = false) ∧
      (∃ s ∈ line.head?, s.isBlank = false ∧ s.isPointed = false) ∧
      ∀ s ∈ line.getLast?, s.isBlank = false)
    ⟨fun h => ⟨h.1, h.2.1, h.2.2.1, h.2.2.2⟩, fun h => ⟨h.spans, h.codes, h.first, h.last⟩⟩

/-- The line as it is written. -/
def writeLine (line : List Span) : List Char := line.flatMap Span.write

/-- The HTML of the line. -/
def lineHtml (line : List Span) : List Char := line.flatMap Span.html

namespace LineWritable

variable {line : List Span}

/-- A line starts as its first span does, which is no blank and no pointed bracket. -/
theorem head_write (h : LineWritable line) :
    ∃ s ∈ line, s.isBlank = false ∧ s.isPointed = false ∧
      (writeLine line).head? = s.write.head? := by
  obtain ⟨s, hs, hblank, hpointed⟩ := h.first
  refine ⟨s, List.mem_of_mem_head? hs, hblank, hpointed, ?_⟩
  cases line with
  | nil => cases hs
  | cons s' line =>
      obtain rfl : s' = s := Option.some.inj hs
      rw [writeLine, List.flatMap_cons, List.head?_append_of_ne_nil _ s'.write_ne_nil]

theorem write_ne_nil (h : LineWritable line) : writeLine line ≠ [] := by
  obtain ⟨s, -, -, -, hhead⟩ := h.head_write
  intro hnil
  rw [hnil, List.head?_nil, eq_comm, List.head?_eq_none_iff] at hhead
  exact s.write_ne_nil hhead

theorem isSpace_head (h : LineWritable line) : ∀ c ∈ (writeLine line).head?, isSpace c = false := by
  obtain ⟨s, -, hblank, -, hhead⟩ := h.head_write
  rw [hhead]
  exact Span.isSpace_head_write hblank

theorem isSpace_getLast (h : LineWritable line) :
    ∀ c ∈ (writeLine line).getLast?, isSpace c = false := by
  obtain rfl | ⟨front, s, rfl⟩ := List.eq_nil_or_concat' line
  · exact absurd rfl h.write_ne_nil
  · rw [writeLine, List.flatMap_append, List.flatMap_singleton,
      List.getLast?_append_of_ne_nil _ s.write_ne_nil]
    exact Span.isSpace_getLast_write (h.last s (by rw [List.getLast?_concat]; rfl))

/-- A line stays one line. -/
theorem inLine (h : LineWritable line) : ∀ c ∈ writeLine line, InLine c :=
  List.forall_mem_flatMap.mpr fun s hs => (h.spans s hs).inLine

end LineWritable

/-- Lines with line feeds between them. -/
def lined : List (List Char) → List Char
  | [] => []
  | line :: lines => line ++ lines.flatMap ('\n' :: ·)

/-- Lines, each with its line feed. -/
def unlined (lines : List (List Char)) : List Char := lines.flatMap (· ++ ['\n'])

theorem lined_cons_cons (line line' : List Char) (lines : List (List Char)) :
    lined (line :: line' :: lines) = line ++ ['\n'] ++ lined (line' :: lines) := by
  simp [lined]

/-- Lines with line feeds behind them are lines with line feeds between them, and one more. -/
theorem unlined_eq (lines : List (List Char)) (h : lines ≠ []) :
    unlined lines = lined lines ++ ['\n'] := by
  rw [unlined]
  induction lines with
  | nil => exact absurd rfl h
  | cons line lines ih =>
      cases lines with
      | nil => simp [lined]
      | cons line' lines =>
          rw [List.flatMap_cons, ih (List.cons_ne_nil _ _), lined_cons_cons, List.append_assoc,
            List.append_assoc, List.append_assoc]

/-- Lines of spans end with no white space. -/
theorem isSpace_getLast_lined {lines : List (List Span)} (h : ∀ line ∈ lines, LineWritable line) :
    ∀ c ∈ (lined (lines.map writeLine)).getLast?, isSpace c = false := by
  induction lines with
  | nil => exact fun c hc => absurd hc (by simp [lined])
  | cons line lines ih =>
      rw [List.forall_mem_cons] at h
      cases lines with
      | nil =>
          rw [List.map_singleton, lined, List.flatMap_nil, List.append_nil]
          exact h.1.isSpace_getLast
      | cons line' lines =>
          have hne : lined ((line' :: lines).map writeLine) ≠ [] := by
            rw [List.map_cons, lined, ne_eq, List.append_eq_nil_iff]
            exact fun hnil => (h.2 line' List.mem_cons_self).write_ne_nil hnil.1
          rw [List.map_cons, List.map_cons, lined_cons_cons, ← List.map_cons,
            List.getLast?_append_of_ne_nil _ hne]
          exact ih h.2

/-! ### The HTML of running text -/

mutual

/-- Running text is laid out the same, whatever stands before it. -/
theorem layout_eq_append (out : Layout) : ∀ i : Inline, i.layout out = i.layout [] ++ out
  | .text _ | .softBreak | .hardBreak | .code _ | .rawHtml _ | .image _ _ => rfl
  | .emphasis inner | .strong inner | .struck inner | .link _ inner => by
    simp only [Inline.layout, Layout.closing, Layout.opening]
    rw [layoutAll_eq_append, layoutAll_eq_append [_]]
    simp

theorem layoutAll_eq_append (out : Layout) :
    ∀ is : List Inline, Inline.layoutAll out is = Inline.layoutAll [] is ++ out
  | [] => rfl
  | i :: is => by
    rw [Inline.layoutAll, Inline.layoutAll, layoutAll_eq_append, layoutAll_eq_append (i.layout []),
      layout_eq_append out i, List.append_assoc]

end

theorem print_append (out out' : Layout) :
    Layout.print (out ++ out') = out'.print ++ out.print := by
  rw [Layout.print, List.reverse_append, List.flatMap_append]
  rfl

theorem print_cons (t : Token) (out : Layout) : Layout.print (t :: out) = out.print ++ t.print := by
  rw [← List.singleton_append, print_append]
  exact congrArg _ (List.flatMap_singleton ..)

/-- The HTML of running text. -/
def htmlOf (is : List Inline) : List Char := Layout.print (Inline.layoutAll [] is)

/-- The HTML of running text stands behind what was there. -/
theorem print_layoutAll (out : Layout) (is : List Inline) :
    (Inline.layoutAll out is).print = out.print ++ htmlOf is := by
  rw [layoutAll_eq_append, print_append, htmlOf]

theorem htmlOf_cons (i : Inline) (is : List Inline) : htmlOf (i :: is) = htmlOf [i] ++ htmlOf is :=
  print_layoutAll (i.layout []) is

theorem htmlOf_append (is js : List Inline) : htmlOf (is ++ js) = htmlOf is ++ htmlOf js := by
  induction is with
  | nil => rfl
  | cons i is ih => rw [List.cons_append, htmlOf_cons, ih, htmlOf_cons i is, List.append_assoc]

theorem htmlOf_text (cs : List Char) : htmlOf [.text cs] = escape cs := by
  simp [htmlOf, Inline.layoutAll, Inline.layout, Layout.print, Token.print]

theorem escape_append (cs ds : List Char) : escape (cs ++ ds) = escape cs ++ escape ds :=
  List.flatMap_append

theorem escape_singleton (c : Char) : escape [c] = escapeChar c := List.flatMap_singleton ..

/-- Texts that follow one another are escaped as one. -/
theorem htmlOf_texts (texts : List (List Char)) :
    htmlOf (texts.map .text) = escape texts.flatten := by
  induction texts with
  | nil => rfl
  | cons cs texts ih =>
      rw [List.map_cons, htmlOf_cons, htmlOf_text, ih, List.flatten_cons, escape_append]

/-- The attribute for a title is printed as it is meant. -/
theorem print_titleAttribute (t : Target) :
    t.titleAttribute.flatMap Attribute.print = t.titleHtml := by
  unfold Target.titleAttribute Target.titleHtml
  split
  · rfl
  · rw [List.flatMap_singleton]
    rfl

theorem htmlOf_code (cs : List Char) :
    htmlOf [.code cs] = "<code>".toList ++ (escape cs ++ "</code>".toList) := rfl

/-- A link shows its text between the tags, and its target in the attributes. -/
theorem htmlOf_link (t : Target) (is : List Inline) : htmlOf [.link t is] =
    "<a href=\"".toList ++ (escapeAddress t.url ++ '"' :: (t.titleHtml ++ '>' ::
      (htmlOf is ++ "</a>".toList))) := by
  rw [htmlOf, Inline.layoutAll, Inline.layoutAll, Inline.layout, Layout.closing, Layout.opening,
    ← List.singleton_append, print_append, print_layoutAll, ← print_titleAttribute]
  have hhref : (Attribute.href t.url).print =
      " href=\"".toList ++ (escapeAddress t.url ++ ['"']) := rfl
  show Token.print _ ++ [] ++ htmlOf is ++ (Token.print _ ++ []) = _
  rw [Token.print, List.flatMap_cons, hhref]
  simp only [List.append_nil, List.append_assoc, List.cons_append, List.nil_append]
  rfl

/-- An image shows the text of its description as an attribute. -/
theorem htmlOf_image (t : Target) (is : List Inline) : htmlOf [.image t is] =
    "<img src=\"".toList ++ (escapeAddress t.url ++ "\" alt=\"".toList ++
      (escape (Inline.plainAll is) ++ '"' :: (t.titleHtml ++ " />".toList))) := by
  have hsrc : (Attribute.src t.url).print =
      " src=\"".toList ++ (escapeAddress t.url ++ ['"']) := rfl
  have halt : (Attribute.alt (Inline.plainAll is)).print =
      " alt=\"".toList ++ (escape (Inline.plainAll is) ++ ['"']) := rfl
  show Token.print _ ++ [] = _
  rw [Token.print, List.flatMap_cons, List.flatMap_cons, hsrc, halt, print_titleAttribute]
  simp only [List.append_nil, List.append_assoc, List.cons_append, List.nil_append]
  rfl

theorem plainAll_texts (texts : List (List Char)) :
    Inline.plainAll (texts.map .text) = texts.flatten := by
  induction texts with
  | nil => rfl
  | cons cs texts ih => rw [List.map_cons, Inline.plainAll, ih, Inline.plain, List.flatten_cons]

/-! ### Joining texts and linking mail addresses -/

/-- The piece is as it will be shown: there is no emphasis in it, and no `@` in its text. -/
def Inline.Final : Inline → Prop
  | .text cs => '@' ∉ cs
  | .emphasis _ | .strong _ | .struck _ => False
  | _ => True

/-- A piece is left alone, or it is a text that is joined with the next one. -/
theorem joinTexts_cons (i : Inline) (is : List Inline) : joinTexts (i :: is) = i :: joinTexts is ∨
    ∃ cs ds more, i = .text cs ∧ joinTexts is = .text ds :: more ∧
      joinTexts (i :: is) = .text (cs ++ ds) :: more := by
  rw [joinTexts.eq_def]
  split
  next h => cases h
  next cs rest h =>
    obtain ⟨rfl, rfl⟩ := List.cons.inj h
    split
    next ds more hmore => exact .inr ⟨cs, ds, more, rfl, hmore, rfl⟩
    next => exact .inl rfl
  next h =>
    obtain ⟨rfl, rfl⟩ := List.cons.inj h
    exact .inl rfl

/-- Joining texts leaves the HTML. -/
theorem htmlOf_joinTexts (is : List Inline) : htmlOf (joinTexts is) = htmlOf is := by
  induction is with
  | nil => rfl
  | cons i is ih =>
      rw [htmlOf_cons i is, ← ih]
      rcases joinTexts_cons i is with h | ⟨cs, ds, more, rfl, hmore, h⟩
      · rw [h, htmlOf_cons]
      · rw [h, hmore, htmlOf_cons, htmlOf_cons (.text ds), htmlOf_text, htmlOf_text, htmlOf_text,
          escape_append, List.append_assoc]

/-- Joining texts brings in no `@`, and no emphasis. -/
theorem final_joinTexts {is : List Inline} (h : ∀ i ∈ is, i.Final) :
    ∀ i ∈ joinTexts is, i.Final := by
  induction is with
  | nil => exact h
  | cons i is ih =>
      rw [List.forall_mem_cons] at h
      have hjoined := ih h.2
      rcases joinTexts_cons i is with heq | ⟨cs, ds, more, rfl, hmore, heq⟩
      · rw [heq]
        exact List.forall_mem_cons.mpr ⟨h.1, hjoined⟩
      · rw [hmore, List.forall_mem_cons] at hjoined
        rw [heq]
        refine List.forall_mem_cons.mpr ⟨fun hmem => ?_, hjoined.2⟩
        exact (List.mem_append.mp hmem).elim h.1 hjoined.1

/-- There are no inner texts to join. -/
theorem joinTextsInAll_eq_self {is : List Inline} (h : ∀ i ∈ is, i.Final) :
    joinTextsInAll is = is := by
  induction is with
  | nil => rfl
  | cons i is ih =>
      rw [List.forall_mem_cons] at h
      have hi : joinTextsIn i = i := by
        cases i with
        | emphasis | strong | struck => exact h.1.elim
        | _ => rfl
      rw [joinTextsInAll, hi, ih h.2]

/-- Without an `@` there is no mail address to link. -/
theorem linkMailFrom_eq {rest : List Char} (h : '@' ∉ rest) (n : Nat) (depth : Int)
    (behind : List Char) : linkMailFrom n depth behind rest = [.text (behind.reverse ++ rest)] := by
  induction rest generalizing n depth behind with
  | nil => cases n <;> simp [linkMailFrom]
  | cons c rest ih =>
      rw [List.mem_cons, not_or] at h
      cases n with
      | zero => rfl
      | succ n =>
          have hc : (decide (c = '@')) = false := decide_eq_false fun hc => h.1 hc.symm
          rw [linkMailFrom]
          simp only [hc, Bool.false_and, Bool.false_eq_true, if_false]
          rw [ih h.2, List.reverse_cons, List.append_assoc, List.singleton_append]

/-- Final pieces hold no mail address to link. -/
theorem linkMailInAll_eq_self {is : List Inline} (h : ∀ i ∈ is, i.Final) :
    linkMailInAll is = is := by
  induction is with
  | nil => rfl
  | cons i is ih =>
      rw [List.forall_mem_cons] at h
      have hi : linkMailIn i = [i] := by
        cases i with
        | emphasis | strong | struck => exact h.1.elim
        | text cs => exact linkMailFrom_eq h.1 cs.length 0 []
        | _ => rfl
      rw [linkMailInAll, hi, ih h.2, List.singleton_append]

/-- **Running text without mail addresses is shown as it was read.** -/
theorem htmlOf_linkMailInAll_joined {is : List Inline} (h : ∀ i ∈ is, i.Final) :
    htmlOf (linkMailInAll (joined is)) = htmlOf is := by
  rw [joined, joinTextsInAll_eq_self h, linkMailInAll_eq_self (final_joinTexts h), htmlOf_joinTexts]

end ModuleDocs.Markdown
