import ModuleDocs.Text.Punctuation
import ModuleDocs.Markdown.Lexeme

/-!
# Markdown — Autolink

Addresses that become links without any markup: `http://…`, `https://…`, `ftp://…`, `www.…` and mail
addresses.  An address runs to the next blank and gives back the punctuation it ends with.
-/

namespace ModuleDocs.Markdown

/-- A character of a host name. -/
def isHostChar (c : Char) : Bool := !Text.isBlank c && !Text.isPunctuation c

/-- The points of a host name, and the underscores in its last part and in the one before. -/
structure HostShape where
  points : Nat := 0
  before : Nat := 0
  last : Nat := 0

/-- An underscore may not stand in the last two parts of a host name of up to ten points. -/
def HostShape.isSound (h : HostShape) : Bool := (h.before == 0 && h.last == 0) || h.points > 10

/-- The shape of the host name at the start of a text. -/
def hostShape (h : HostShape) : List Char → HostShape
  | [] => h
  | c :: cs =>
    if c = '\\' && !cs.isEmpty then hostShape h cs
    else if c = '_' then hostShape { h with last := h.last + 1 } cs
    else if c = '.' then hostShape ⟨h.points + 1, h.last, 0⟩ cs
    else if isHostChar c || c = '-' then hostShape h cs
    else h

/-- A text starts with a host name; only a short one may have no point. -/
def startsWithHost (allowShort : Bool) (cs : List Char) : Bool :=
  let h := hostShape {} cs
  h.isSound && (allowShort || h.points > 0)

/-- Gives back what an address should not end with; the address is in reverse.  A parenthesis stays
if it closes one inside the address, and a character reference is given back whole. -/
def trimTailReversed : Nat → List Char → List Char
  | 0, cs => cs
  | _, [] => []
  | n + 1, c :: cs =>
    if "?!.,:*_~'\"".toList.contains c then trimTailReversed n cs
    else if c = ';' then
      let name := cs.takeWhile Char.isAlpha
      match cs.drop name.length with
      | '&' :: before => trimTailReversed n (if name.isEmpty then cs else before)
      | _ => trimTailReversed n cs
    else if c = ')' then
      if (c :: cs).count ')' ≤ cs.count '(' then c :: cs else trimTailReversed n cs
    else c :: cs

/-- The address at the start of a text that runs to its end. -/
def trimTail (cs : List Char) : List Char :=
  let cs := cs.takeWhile (· != '<')
  (trimTailReversed cs.length cs.reverse).reverse

/-- The text up to its first blank. -/
def untilSpace (cs : List Char) : List Char := cs.takeWhile (!isSpace ·)

/-- The schemes of addresses that become links. -/
def linkedSchemes : List (List Char) := ["http".toList, "https".toList, "ftp".toList]

/-- An address whose colon starts the text: the scheme before it, and the address from the colon. -/
def schemeAddress? (behind rest : List Char) : Option (List Char × List Char) :=
  match rest with
  | ':' :: '/' :: '/' :: host =>
    let scheme := (behind.takeWhile Char.isAlpha).reverse
    if !host.isEmpty && linkedSchemes.contains scheme && startsWithHost true host then
      some (scheme, trimTail (untilSpace rest))
    else none
  | _ => none

/-- An address that starts with `www.`, behind a blank or a mark that may precede it. -/
def wwwAddress? (behind rest : List Char) : Option (List Char) :=
  if behind.head?.all ("\t\n\r *_~([".toList.contains ·) && "www.".toList.isPrefixOf rest &&
      startsWithHost false rest then
    some (trimTail (untilSpace rest))
  else none

/-! ### Mail addresses -/

/-- A character of the part of a mail address before its `@`. -/
def isMailChar (c : Char) : Bool := c.isAlphanum || ".+-_".toList.contains c

/-- What a mail address is written behind. -/
inductive MailScheme where
  | unwritten
  | mailto
  | xmpp
  deriving DecidableEq

/-- The part before an `@`, in reverse, and the scheme it is written with. -/
def mailUser (scheme : MailScheme) (taken : List Char) : List Char → List Char × MailScheme
  | [] => (taken, scheme)
  | c :: cs =>
    if isMailChar c then mailUser scheme (c :: taken) cs
    else if c = ':' then
      let word := (cs.takeWhile Char.isAlpha).reverse
      if word = "mailto".toList then mailUser .mailto (c :: taken) cs
      else if word = "xmpp".toList then mailUser .xmpp (c :: taken) cs
      else (taken, scheme)
    else (taken, scheme)

/-- The host behind an `@`, and whether a point stands in it; nothing if another `@` follows. -/
def mailHost? (withSlash hasPoint : Bool) (taken : List Char) :
    List Char → Option (List Char × Bool)
  | [] => some (taken.reverse, hasPoint)
  | c :: cs =>
    if c.isAlphanum || c = '-' || c = '_' || (c = '/' && withSlash) then
      mailHost? withSlash hasPoint (c :: taken) cs
    else if c = '@' then none
    else if c = '.' && cs.head?.any Char.isAlphanum then
      mailHost? withSlash true (c :: taken) cs
    else some (taken.reverse, hasPoint)

/-- The mail address around an `@`: what stands before it in the text (in reverse), the address, and
its link's target. -/
def mailAround? (behind rest : List Char) : Option (List Char × List Char × Target) := do
  let (user, scheme) := mailUser .unwritten [] behind
  if user.isEmpty then failure
  let (host, hasPoint) ← mailHost? (scheme = .xmpp) false [] rest
  if !hasPoint || !host.getLast?.any Char.isAlpha then failure
  let address := user ++ trimTail ('@' :: host)
  let url := if scheme = .unwritten then "mailto:".toList ++ address else address
  some (behind.drop user.length, address, ⟨url, []⟩)

/-- The pieces of a text with its mail addresses linked.  Inside square brackets none is looked
for; `depth` is how many are open. -/
def linkMailFrom : Nat → Int → List Char → List Char → List Inline
  | 0, _, behind, rest => [.text (behind.reverse ++ rest)]
  | _, _, behind, [] => [.text behind.reverse]
  | n + 1, depth, behind, c :: cs =>
    let depth := if c = '[' then depth + 1 else if c = ']' then depth - 1 else depth
    if c = '@' && depth ≤ 0 then
      match mailAround? behind cs with
      | some (before, address, target) =>
        let used := address.length - (behind.length - before.length)
        let rest := (c :: cs).drop used
        .text before.reverse :: .link target [.text address] ::
          (if rest.isEmpty then [] else linkMailFrom n 0 [] rest)
      | none => linkMailFrom n depth (c :: behind) cs
    else linkMailFrom n depth (c :: behind) cs

/-- The pieces of a text with its mail addresses linked. -/
def linkMail (cs : List Char) : List Inline := linkMailFrom cs.length 0 [] cs

/-- Adjacent texts joined. -/
def joinTexts : List Inline → List Inline
  | [] => []
  | .text a :: rest =>
    match joinTexts rest with
    | .text b :: more => .text (a ++ b) :: more
    | more => .text a :: more
  | i :: rest => i :: joinTexts rest

mutual

/-- Links the mail addresses inside a piece of running text that is no link itself. -/
def linkMailIn : Inline → List Inline
  | .text chars => linkMail chars
  | .emphasis inner => [.emphasis (linkMailInAll inner)]
  | .strong inner => [.strong (linkMailInAll inner)]
  | .struck inner => [.struck (linkMailInAll inner)]
  | i => [i]

/-- Links the mail addresses inside several pieces of running text. -/
def linkMailInAll : List Inline → List Inline
  | [] => []
  | i :: is => linkMailIn i ++ linkMailInAll is

end

mutual

/-- Joins adjacent texts at every depth. -/
def joinTextsIn : Inline → Inline
  | .emphasis inner => .emphasis (joinTexts (joinTextsInAll inner))
  | .strong inner => .strong (joinTexts (joinTextsInAll inner))
  | .struck inner => .struck (joinTexts (joinTextsInAll inner))
  | i => i

/-- Joins adjacent texts at every depth of several pieces. -/
def joinTextsInAll : List Inline → List Inline
  | [] => []
  | i :: is => joinTextsIn i :: joinTextsInAll is

end

/-- Running text with its texts joined. -/
def joined (is : List Inline) : List Inline := joinTexts (joinTextsInAll is)

end ModuleDocs.Markdown
