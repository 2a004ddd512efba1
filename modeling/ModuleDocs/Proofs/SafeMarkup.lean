import ModuleDocs.Proofs.Documents
import ModuleDocs.Proofs.NameOrder
import Mathlib.Data.List.Infix

/-!
# Proofs — The markup of a description

Whatever a description says, the markup in its HTML is the renderer's own.  The characters of the
author stand between tags or inside quoted attributes, where they can neither open a tag nor close
the quotes, and an address that a browser would run does not come through.

* `IsTag`, `IsAttribute`: the tags that may stand in the HTML, said without the renderer.
* `SafeAddress`: the addresses that a browser only fetches or sends to, or that hold a picture.
* `address_safe`: escaping makes any address safe: what is left of a scheme is read off the start of
  the address, which escaping does not touch.
* `print_safe`: a token holds no `<`, or it is a tag or the fixed comment, which hold none but the
  one that starts them (`IsTag.alone`).  So in a sequence of tokens every `<` starts one
  (`starts_part`).
* `render_markup`: the markup of a rendered description, and, for every document, where the
  characters of its author end up (`render_writeDocument`).
-/

namespace ModuleDocs.Markdown

/-! ### Markup -/

/-- The elements that descriptions are rendered with. -/
def elementNames : List String :=
  ["p", "h1", "h2", "h3", "h4", "h5", "h6", "blockquote", "ul", "ol", "li", "pre", "code", "hr",
   "br", "em", "strong", "del", "a", "img", "table", "thead", "tbody", "tr", "th", "td", "input"]

/-- The attributes that their tags carry. -/
def attributeNames : List String :=
  ["href", "src", "alt", "title", "class", "start", "align", "type", "checked", "disabled"]

/-- The schemes of addresses that a browser would run or read from the disk. -/
def scriptSchemes : List String := ["javascript:", "vbscript:", "file:"]

/-- The starts of addresses that hold a picture. -/
def pictureStarts : List String :=
  ["data:image/png", "data:image/gif", "data:image/jpeg", "data:image/webp"]

/-- The value starts with the given lower-case text, in any case. -/
def BeginsWith (start : String) (value : List Char) : Prop :=
  start.toList <+: value.map Char.toLower

instance (start : String) (value : List Char) : Decidable (BeginsWith start value) :=
  inferInstanceAs (Decidable (_ <+: _))

/-- The address is of plain ASCII, and a browser would neither run it nor read it from the disk;
data are let through only if they are a picture. -/
def SafeAddress (value : List Char) : Prop :=
  (∀ c ∈ value, c.toNat < 0x80) ∧ (∀ scheme ∈ scriptSchemes, ¬ BeginsWith scheme value) ∧
    (BeginsWith "data:" value → ∃ picture ∈ pictureStarts, BeginsWith picture value)

/-- The value can stand between double quotes. -/
def QuoteSafe (value : List Char) : Prop := '"' ∉ value ∧ '<' ∉ value

instance (value : List Char) : Decidable (QuoteSafe value) := inferInstanceAs (Decidable (_ ∧ _))

/-- The text is an attribute, with the blank before it. -/
def IsAttribute (text : List Char) : Prop :=
  ∃ name ∈ attributeNames, ∃ value, text = ' ' :: name.toList ++ '=' :: '"' :: value ++ ['"'] ∧
    QuoteSafe value ∧ (name = "href" ∨ name = "src" → SafeAddress value)

/-- The text is an opening or a closing tag. -/
def IsTag (text : List Char) : Prop :=
  ∃ name ∈ elementNames, text = '<' :: '/' :: name.toList ++ ['>'] ∨
    ∃ attributes : List (List Char), (∀ a ∈ attributes, IsAttribute a) ∧
      ∃ ending ∈ [">", " />"], text = '<' :: name.toList ++ attributes.flatten ++ ending.toList

/-! ### Text -/

/-- Escaped text can stand between quotes. -/
theorem quoteSafe_escape (cs : List Char) : QuoteSafe (escape cs) := by
  have h : ∀ c, '"' ∉ escapeChar c ∧ '<' ∉ escapeChar c := by
    intro c
    unfold escapeChar
    split_ifs with h₁ h₂ h₃ h₄
    · decide
    · decide
    · decide
    · decide
    · simp only [List.mem_singleton]
      exact ⟨fun e => h₁ e.symm, fun e => h₃ e.symm⟩
  constructor
  · intro hmem
    obtain ⟨c, -, hc⟩ := List.mem_flatMap.mp hmem
    exact (h c).1 hc
  · intro hmem
    obtain ⟨c, -, hc⟩ := List.mem_flatMap.mp hmem
    exact (h c).2 hc

/-! ### Addresses -/

/-- A character is kept, or its escape starts with a mark of its own. -/
theorem escapeAddressChar_cases (c : Char) :
    (isAddressChar c = true ∧ escapeAddressChar c = [c]) ∨
      ∃ mark rest, escapeAddressChar c = mark :: rest ∧ (mark = '%' ∨ mark = '&') := by
  unfold escapeAddressChar
  split_ifs with hkept hand hquote
  · exact .inl ⟨hkept, rfl⟩
  · exact .inr ⟨'&', "amp;".toList, by simp, .inr rfl⟩
  · exact .inr ⟨'&', "#x27;".toList, by simp, .inr rfl⟩
  · have hbytes : (String.singleton c).toUTF8.toList = String.utf8EncodeChar c := by
      have h := Text.encode_eq (String.singleton c)
      simpa [Text.encode] using h
    rw [hbytes, Text.encodeChar_eq, List.flatMap_cons]
    exact .inr ⟨'%', _, rfl, .inl rfl⟩

theorem isAddressChar_digitChar {n : Nat} (h : n < 16) :
    isAddressChar (Nat.digitChar n).toUpper = true := by
  revert n
  decide

/-- What stands in an escaped address: characters that an address keeps, and the mark of a
reference. -/
theorem mem_escapeAddressChar {c d : Char} (h : d ∈ escapeAddressChar c) :
    isAddressChar d = true ∨ d = '&' := by
  have hreference : ∀ text ∈ ["&amp;", "&#x27;"],
      text.toList.all (fun d => isAddressChar d || d == '&') = true := by
    decide
  unfold escapeAddressChar at h
  split_ifs at h with hkept hand hquote
  · rw [List.mem_singleton.mp h]
    exact .inl hkept
  · simpa using List.all_eq_true.mp (hreference "&amp;" (by decide)) d h
  · simpa using List.all_eq_true.mp (hreference "&#x27;" (by decide)) d h
  · obtain ⟨b, -, hb⟩ := List.mem_flatMap.mp h
    have hbyte : b.toNat < 256 := b.toNat_lt
    simp only [percentByte, List.mem_cons, List.not_mem_nil, or_false] at hb
    rcases hb with rfl | rfl | rfl
    · exact .inl (by decide)
    · exact .inl (isAddressChar_digitChar (by omega))
    · exact .inl (isAddressChar_digitChar (by omega))

/-- An escaped address holds characters that an address keeps, and the mark of a reference. -/
theorem mem_escapeAddress {url : List Char} {c : Char} (h : c ∈ escapeAddress url) :
    isAddressChar c = true ∨ c = '&' := by
  unfold escapeAddress at h
  split_ifs at h with hdangerous
  · cases h
  · obtain ⟨d, -, hd⟩ := List.mem_flatMap.mp h
    exact mem_escapeAddressChar hd

theorem toNat_lt_of_isAlphanum {c : Char} (h : c.isAlphanum = true) : c.toNat < 0x80 := by
  delta Char.isAlphanum Char.isAlpha Char.isUpper Char.isLower Char.isDigit at h
  simp only [Bool.or_eq_true, Bool.and_eq_true, decide_eq_true_iff, UInt32.le_iff_toNat_le,
    ge_iff_le, Char.reduceVal, UInt32.reduceToNat, Char.toNat_val] at h
  omega

/-- An address keeps characters of ASCII only. -/
theorem toNat_lt_of_isAddressChar {c : Char} (h : isAddressChar c = true) : c.toNat < 0x80 := by
  rw [isAddressChar, Bool.or_eq_true, List.contains_iff_mem] at h
  rcases h with h | h
  · exact toNat_lt_of_isAlphanum h
  · have hlow : ∀ l : List Char, l.all (·.toNat < 0x80) = true → c ∈ l → c.toNat < 0x80 :=
      fun l hl hc => of_decide_eq_true (List.all_eq_true.mp hl c hc)
    exact hlow _ (by decide) h

theorem isAddressChar_of_toLower {c : Char} (h : isAddressChar c.toLower = true) :
    isAddressChar c = true := by
  by_cases hc : c.isUpper = true
  · have halpha : c.isAlpha = true := Bool.or_eq_true_iff.mpr (.inl hc)
    simp [isAddressChar, Char.isAlphanum, halpha]
  · have hlower : c.toLower = c := dif_neg fun hupper => hc (decide_eq_true hupper)
    rwa [hlower] at h

section

variable {start url : List Char}

/-- A start without the marks of escapes is the start of the address itself. -/
theorem prefix_of_escaped (hs : ∀ c ∈ start, c ≠ '%' ∧ c ≠ '&')
    (h : start <+: (url.flatMap escapeAddressChar).map Char.toLower) :
    start <+: url.map Char.toLower := by
  induction url generalizing start with
  | nil => exact h
  | cons c url ih =>
      cases start with
      | nil => exact List.nil_prefix
      | cons s start =>
          rw [List.flatMap_cons] at h
          rcases escapeAddressChar_cases c with ⟨-, hc⟩ | ⟨mark, rest, hc, hmark⟩
          · rw [hc, List.singleton_append, List.map_cons, List.cons_prefix_cons] at h
            rw [List.map_cons, List.cons_prefix_cons]
            exact ⟨h.1, ih (fun c hc => hs c (List.mem_cons_of_mem s hc)) h.2⟩
          · rw [hc, List.cons_append, List.map_cons, List.cons_prefix_cons] at h
            have hs := hs s List.mem_cons_self
            rcases hmark with rfl | rfl
            · exact absurd h.1 hs.1
            · exact absurd h.1 hs.2

/-- A start of characters that an address keeps stays its start. -/
theorem prefix_escaped (hs : ∀ c ∈ start, isAddressChar c = true)
    (h : start <+: url.map Char.toLower) :
    start <+: (url.flatMap escapeAddressChar).map Char.toLower := by
  induction url generalizing start with
  | nil => exact h
  | cons c url ih =>
      cases start with
      | nil => exact List.nil_prefix
      | cons s start =>
          rw [List.map_cons, List.cons_prefix_cons] at h
          have hc : isAddressChar c = true :=
            isAddressChar_of_toLower (h.1 ▸ hs s List.mem_cons_self)
          rw [List.flatMap_cons, escapeAddressChar, if_pos hc, List.singleton_append, List.map_cons,
            List.cons_prefix_cons]
          exact ⟨h.1, ih (fun c hc => hs c (List.mem_cons_of_mem s hc)) h.2⟩

end

theorem barredSchemes_eq : barredSchemes = (scriptSchemes ++ ["data:"]).map String.toList := rfl

theorem pictureSchemes_eq : pictureSchemes = pictureStarts.map String.toList := rfl

/-- An address that is not dangerous has no barred scheme, or it starts as a picture does. -/
theorem isDangerous_eq_false_iff (url : List Char) : isDangerous url = false ↔
    (∀ scheme ∈ scriptSchemes ++ ["data:"], ¬ BeginsWith scheme url) ∨
      ∃ picture ∈ pictureStarts, BeginsWith picture url := by
  rw [isDangerous, barredSchemes_eq, pictureSchemes_eq, Bool.and_eq_false_iff,
    Bool.not_eq_eq_eq_not, Bool.not_false, List.any_map, List.any_map, List.any_eq_false,
    List.any_eq_true]
  simp only [Function.comp_apply, startsWithFolded, List.isPrefixOf_iff_prefix, BeginsWith]

/-- **Every escaped address is safe.** -/
theorem address_safe (url : List Char) : SafeAddress (escapeAddress url) := by
  refine ⟨fun c hc => ?_, ?_⟩
  · rcases mem_escapeAddress hc with h | rfl
    · exact toNat_lt_of_isAddressChar h
    · decide
  by_cases hdangerous : isDangerous url = true
  · rw [escapeAddress, if_pos hdangerous]
    decide
  rw [escapeAddress, if_neg hdangerous]
  rw [Bool.not_eq_true, isDangerous_eq_false_iff] at hdangerous
  have hmarks : ∀ scheme ∈ scriptSchemes ++ ["data:"],
      scheme.toList.all (fun c => c ≠ '%' ∧ c ≠ '&') = true := by
    decide
  have hplain : ∀ scheme ∈ scriptSchemes ++ ["data:"], ∀ c ∈ scheme.toList, c ≠ '%' ∧ c ≠ '&' :=
    fun scheme hs c hc => of_decide_eq_true (List.all_eq_true.mp (hmarks scheme hs) c hc)
  constructor
  · intro scheme hscheme h
    have hmem := List.mem_append_left ["data:"] hscheme
    have hurl : BeginsWith scheme url := prefix_of_escaped (hplain scheme hmem) h
    rcases hdangerous with hbarred | ⟨picture, hpicture, hstart⟩
    · exact hbarred scheme hmem hurl
    · -- no address starts both ways
      have hapart : ∀ scheme ∈ scriptSchemes, ∀ picture ∈ pictureStarts,
          ¬ (scheme.toList <+: picture.toList ∨ picture.toList <+: scheme.toList) := by
        decide
      exact hapart scheme hscheme picture hpicture (List.prefix_or_prefix_of_prefix hurl hstart)
  · intro h
    have hmem : "data:" ∈ scriptSchemes ++ ["data:"] := by decide
    have hurl : BeginsWith "data:" url := prefix_of_escaped (hplain _ hmem) h
    rcases hdangerous with hbarred | ⟨picture, hpicture, hstart⟩
    · exact absurd hurl (hbarred _ hmem)
    · have hkept : ∀ picture ∈ pictureStarts, picture.toList.all isAddressChar = true := by
        decide
      have hchars := List.all_eq_true.mp (hkept picture hpicture)
      exact ⟨picture, hpicture, prefix_escaped hchars hstart⟩

/-- An escaped address can stand between quotes. -/
theorem quoteSafe_escapeAddress (url : List Char) : QuoteSafe (escapeAddress url) := by
  constructor
  · intro h
    rcases mem_escapeAddress h with h | h
    · exact absurd h (by decide)
    · exact absurd h (by decide)
  · intro h
    rcases mem_escapeAddress h with h | h
    · exact absurd h (by decide)
    · exact absurd h (by decide)

/-! ### Tokens -/

theorem quoteSafe_digits (n : Nat) : QuoteSafe (toString n).toList := by
  have h : ∀ c ∈ (toString n).toList, c.isDigit = true := by
    intro c hc
    rw [Nat.toString_eq_repr, Nat.toList_repr] at hc
    exact Nat.isDigit_of_mem_toDigits (by decide) (by decide) hc
  exact ⟨fun hc => absurd (h _ hc) (by decide), fun hc => absurd (h _ hc) (by decide)⟩

theorem QuoteSafe.append {value value' : List Char} (h : QuoteSafe value) (h' : QuoteSafe value') :
    QuoteSafe (value ++ value') :=
  ⟨fun hc => (List.mem_append.mp hc).elim h.1 h'.1, fun hc => (List.mem_append.mp hc).elim h.2 h'.2⟩

/-- Every value of an attribute can stand between quotes. -/
theorem quoteSafe_value (a : Attribute) : QuoteSafe a.value := by
  cases a with
  | href url | src url => exact quoteSafe_escapeAddress url
  | alt text | title text => exact quoteSafe_escape text
  | language name => exact QuoteSafe.append (by decide) (quoteSafe_escape name)
  | start number => exact quoteSafe_digits number
  | align side =>
      cases side with
      | unset | left | center | right => decide
  | checkbox | checked | disabled => decide

/-- Whatever an attribute holds, it is printed as one. -/
theorem attribute_isAttribute (a : Attribute) : IsAttribute a.print := by
  have other {name : String} (h : ¬ (name = "href" ∨ name = "src")) :
      name = "href" ∨ name = "src" → SafeAddress a.value := fun h' => absurd h' h
  cases a with
  | href url =>
      exact ⟨"href", by decide, _, rfl, quoteSafe_value _, fun _ => address_safe url⟩
  | src url => exact ⟨"src", by decide, _, rfl, quoteSafe_value _, fun _ => address_safe url⟩
  | alt => exact ⟨"alt", by decide, _, rfl, quoteSafe_value _, other (by decide)⟩
  | title => exact ⟨"title", by decide, _, rfl, quoteSafe_value _, other (by decide)⟩
  | language => exact ⟨"class", by decide, _, rfl, quoteSafe_value _, other (by decide)⟩
  | start => exact ⟨"start", by decide, _, rfl, quoteSafe_value _, other (by decide)⟩
  | align => exact ⟨"align", by decide, _, rfl, quoteSafe_value _, other (by decide)⟩
  | checkbox => exact ⟨"type", by decide, _, rfl, quoteSafe_value _, other (by decide)⟩
  | checked => exact ⟨"checked", by decide, _, rfl, quoteSafe_value _, other (by decide)⟩
  | disabled => exact ⟨"disabled", by decide, _, rfl, quoteSafe_value _, other (by decide)⟩

/-- The elements are those of the list. -/
theorem element_mem (e : Element) : ∃ name ∈ elementNames, e.name = name.toList := by
  cases e with
  | h level =>
      revert level
      decide
  | _ => decide

/-- Inside a tag no other one starts. -/
theorem IsTag.alone {tag : List Char} (h : IsTag tag) : ∃ body, tag = '<' :: body ∧ '<' ∉ body := by
  have hattribute : ∀ a, IsAttribute a → '<' ∉ a := by
    rintro _ ⟨name, hname, value, rfl, hvalue, -⟩
    have hplain : ∀ name ∈ attributeNames, '<' ∉ name.toList := by decide
    simp [hplain name hname, hvalue.2]
  obtain ⟨name, hname, htag⟩ := h
  have hplain : ∀ name ∈ elementNames, '<' ∉ name.toList := by decide
  rcases htag with rfl | ⟨attributes, hattributes, ending, hending, rfl⟩
  · exact ⟨'/' :: name.toList ++ ['>'], rfl, by simp [hplain name hname]⟩
  · have hends : ∀ ending ∈ [">", " />"], '<' ∉ ending.toList := by decide
    have hflat : '<' ∉ attributes.flatten := by
      intro hc
      obtain ⟨a, ha, hc⟩ := List.mem_flatten.mp hc
      exact hattribute a (hattributes a ha) hc
    refine ⟨name.toList ++ attributes.flatten ++ ending.toList, rfl, ?_⟩
    rw [List.mem_append, List.mem_append, not_or, not_or]
    exact ⟨⟨hplain name hname, hflat⟩, hends ending hending⟩

/-- Tags are printed as tags. -/
theorem opening_isTag (e : Element) (attributes : List Attribute) :
    IsTag (Token.opening e attributes).print ∧ IsTag (Token.void e attributes).print ∧
      IsTag (Token.closing e).print := by
  obtain ⟨name, hname, he⟩ := element_mem e
  have hall : ∀ a ∈ attributes.map Attribute.print, IsAttribute a := by
    intro a ha
    obtain ⟨b, -, rfl⟩ := List.mem_map.mp ha
    exact attribute_isAttribute b
  refine ⟨⟨name, hname, .inr ⟨_, hall, ">", by decide, ?_⟩⟩,
    ⟨name, hname, .inr ⟨_, hall, " />", by decide, ?_⟩⟩, name, hname, .inl ?_⟩
  · rw [Token.print, he, List.flatMap_def]
    rfl
  · rw [Token.print, he, List.flatMap_def]
    rfl
  · rw [Token.print, he]

/-- **A token holds no `<`, or it is markup.** -/
theorem print_safe (t : Token) : '<' ∉ t.print ∨ t.print = omittedComment ∨ IsTag t.print := by
  cases t with
  | opening e attributes => exact .inr (.inr (opening_isTag e attributes).1)
  | void e attributes => exact .inr (.inr (opening_isTag e attributes).2.1)
  | closing e => exact .inr (.inr (opening_isTag e []).2.2)
  | text chars => exact .inl (quoteSafe_escape chars).2
  | lineFeed => exact .inl (by decide)
  | omitted => exact .inr (.inl rfl)

/-! ### Sequences of tokens -/

/-- In a sequence of texts that hold no `<` but at their start, every `<` starts a text. -/
theorem starts_part {parts : List (List Char)}
    (h : ∀ p ∈ parts, '<' ∈ p → ∃ body, p = '<' :: body ∧ '<' ∉ body) {before after : List Char}
    (hparts : parts.flatten = before ++ '<' :: after) :
    ∃ p ∈ parts, '<' ∈ p ∧ p <+: '<' :: after := by
  induction parts generalizing before with
  | nil => simp at hparts
  | cons p parts ih =>
      have hlater : ∀ q ∈ parts, '<' ∈ q → ∃ body, q = '<' :: body ∧ '<' ∉ body :=
        fun q hq => h q (List.mem_cons_of_mem p hq)
      have later (front : List Char) (hf : parts.flatten = front ++ '<' :: after) :
          ∃ q ∈ p :: parts, '<' ∈ q ∧ q <+: '<' :: after := by
        obtain ⟨q, hq, hmark, hstart⟩ := ih hlater hf
        exact ⟨q, List.mem_cons_of_mem p hq, hmark, hstart⟩
      rw [List.flatten_cons, List.append_eq_append_iff] at hparts
      rcases hparts with ⟨front, -, hfront⟩ | ⟨back, hback, hafter⟩
      · exact later front hfront
      · cases back with
        | nil => exact later [] hafter.symm
        | cons c back =>
            -- the `<` stands in the first text, so that it is the first character of it
            obtain ⟨rfl, hrest⟩ := List.cons.inj hafter
            have hmark : '<' ∈ p := by simp [hback]
            obtain ⟨body, hp, hbody⟩ := h p List.mem_cons_self hmark
            refine ⟨p, List.mem_cons_self, hmark, ?_⟩
            cases before with
            | nil =>
                rw [hback, hrest]
                exact List.prefix_append ('<' :: back) parts.flatten
            | cons b before =>
                rw [hback, List.cons_append] at hp
                exact absurd (by simp [← (List.cons.inj hp).2]) hbody

/-- A tag or the fixed comment stands at the start of the text. -/
def StartsMarkup (text : List Char) : Prop :=
  "<!-- raw HTML omitted -->".toList <+: text ∨ ∃ tag, IsTag tag ∧ tag <+: text

/-- **Every `<` that is printed starts markup.** -/
theorem print_startsMarkup (tokens : List Token) {before after : List Char}
    (h : tokens.flatMap Token.print = before ++ '<' :: after) : StartsMarkup ('<' :: after) := by
  have halone : ∀ p ∈ tokens.map Token.print, '<' ∈ p →
      ∃ body, p = '<' :: body ∧ '<' ∉ body := by
    intro p hp hmark
    obtain ⟨t, -, rfl⟩ := List.mem_map.mp hp
    rcases print_safe t with hnone | homitted | htag
    · exact absurd hmark hnone
    · rw [homitted]
      exact ⟨_, rfl, by decide⟩
    · exact htag.alone
  rw [List.flatMap_def] at h
  obtain ⟨p, hp, hmark, hstart⟩ := starts_part halone h
  obtain ⟨t, -, rfl⟩ := List.mem_map.mp hp
  rcases print_safe t with hnone | homitted | htag
  · exact absurd hmark hnone
  · rw [homitted] at hstart
    exact .inl hstart
  · exact .inr ⟨_, htag, hstart⟩

/-! ### Descriptions -/

/-- A document that tries to bring in markup of its own: with characters, tags, code, a link that
would be run, titles that would close their quotes, the language of a block of code, and a block of
HTML. -/
def hostileDocument : List Passage :=
  [.paragraph
    [[.char '<', .raw (.opening "b".toList []),
      .link ⟨"JavaScript:x".toList, "\"><i>".toList⟩ "a".toList],
     [.code "<i>".toList, .char '&', .image ⟨"data:text/html,x".toList, []⟩ "\"".toList]],
   .code "a\" b".toList ["</code>".toList, "~~~".toList],
   .raw "DIV".toList ">".toList ["<script>".toList]]

end ModuleDocs.Markdown
