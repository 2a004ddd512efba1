import ModuleDocs.Text.Blank
import ModuleDocs.Text.Case
import ModuleDocs.Markdown.Document
import ModuleDocs.Markdown.Entity

/-!
# Markdown — Lexeme

The smallest parts of the notation: blanks, backslash escapes, HTML tags, and the labels,
destinations and titles of links.  A reader of a part takes the text from where the part starts and
gives the text behind it, or nothing where the part does not stand there.
-/

namespace ModuleDocs.Markdown

/-! ### Characters -/

/-- A blank of the notation: space, tab, line feed, vertical tab, form feed, carriage return. -/
def isSpace (c : Char) : Bool := c == ' ' || ('\t' ≤ c && c ≤ '\r')

/-- A space or a tab. -/
def isSpaceOrTab (c : Char) : Bool := c == ' ' || c == '\t'

/-- A punctuation character of ASCII, the only characters that a backslash escapes. -/
def isAsciiPunctuation (c : Char) : Bool :=
  ('!' ≤ c && c ≤ '/') || (':' ≤ c && c ≤ '@') || ('[' ≤ c && c ≤ '\x60') ||
    ('\x7b' ≤ c && c ≤ '~')

/-- The characters without the blanks they end with. -/
def trimEnd (cs : List Char) : List Char := (cs.reverse.dropWhile isSpace).reverse

/-- The characters without the blanks at either end. -/
def trimBoth (cs : List Char) : List Char := trimEnd (cs.dropWhile isSpace)

/-- The characters without the backslash of each escape. -/
def unescape : List Char → List Char
  | '\\' :: c :: cs => if isAsciiPunctuation c then c :: unescape cs else '\\' :: unescape (c :: cs)
  | c :: cs => c :: unescape cs
  | [] => []

/-- Text with its references replaced and its escapes undone. -/
def unquote (cs : List Char) : List Char := unescape (decodeReferences cs)

/-- The text behind a given start. -/
def dropPrefix? (start cs : List Char) : Option (List Char) :=
  if start.isPrefixOf cs then some (cs.drop start.length) else none

/-- The text behind the first place where a given text stands. -/
def behindFirst? (mark : List Char) : List Char → Option (List Char)
  | [] => if mark.isEmpty then some [] else none
  | c :: cs => if mark.isPrefixOf (c :: cs) then some ((c :: cs).drop mark.length)
    else behindFirst? mark cs

/-! ### HTML -/

/-- A letter, a digit or a hyphen. -/
def isTagChar (c : Char) : Bool := c.isAlphanum || c == '-'

/-- The name of a tag. -/
def behindTagName? : List Char → Option (List Char)
  | c :: cs => if c.isAlpha then some (cs.dropWhile isTagChar) else none
  | [] => none

/-- The start of an attribute's name. -/
def isAttributeStart (c : Char) : Bool := c.isAlpha || c == '_' || c == ':'

/-- The rest of an attribute's name. -/
def isAttributeChar (c : Char) : Bool := c.isAlphanum || "_:.-".toList.contains c

/-- A character of a value without quotes. -/
def isBareValueChar (c : Char) : Bool := !isSpace c && !"\"'=<>\x60".toList.contains c

/-- The value of an attribute. -/
def behindAttributeValue? : List Char → Option (List Char)
  | [] => none
  | c :: cs =>
    if c = '"' || c = '\'' then behindFirst? [c] cs
    else if isBareValueChar c then some (cs.dropWhile isBareValueChar)
    else none

/-- The attributes and the end of an opening tag, behind its name, with a bound on their number. -/
def behindAttributes? : Nat → List Char → Option (List Char)
  | 0, _ => none
  | n + 1, cs =>
    let inner := cs.dropWhile isSpace
    match inner with
    | '>' :: rest => some rest
    | '/' :: '>' :: rest => some rest
    | c :: more =>
      if isAttributeStart c && inner.length < cs.length then
        let named := more.dropWhile isAttributeChar
        match named.dropWhile isSpace with
        | '=' :: value =>
          (behindAttributeValue? (value.dropWhile isSpace)).bind (behindAttributes? n)
        | _ => behindAttributes? n named
      else none
    | [] => none

/-- An opening or a closing tag, behind its `<`. -/
def behindTag? (cs : List Char) : Option (List Char) :=
  match cs with
  | '/' :: closing =>
    (behindTagName? closing).bind fun rest =>
      match rest.dropWhile isSpace with
      | '>' :: rest => some rest
      | _ => none
  | _ => (behindTagName? cs).bind fun rest => behindAttributes? (rest.length + 1) rest

/-- A comment, a declaration, an instruction, a marked section or a tag, behind its `<`. -/
def behindMarkup? (cs : List Char) : Option (List Char) :=
  match cs with
  | '!' :: '-' :: '-' :: '>' :: rest => some rest
  | '!' :: '-' :: '-' :: '-' :: '>' :: rest => some rest
  | '!' :: '-' :: '-' :: comment => behindFirst? "-->".toList comment
  | '!' :: '[' :: section_ =>
    (dropPrefix? "CDATA[".toList section_).bind (behindFirst? "]]>".toList)
  | '!' :: c :: rest => if c.isAlpha then behindFirst? ['>'] rest else none
  | '?' :: instruction => behindFirst? "?>".toList instruction
  | _ => behindTag? cs

/-! ### Addresses between pointed brackets -/

/-- An absolute address and its `>`, behind the `<`: the address and the text behind. -/
def pointedAddress? (cs : List Char) : Option (List Char × List Char) :=
  let scheme := cs.takeWhile fun c => c.isAlphanum || "+.-".toList.contains c
  if scheme.head?.all (·.isAlpha) && 2 ≤ scheme.length && scheme.length ≤ 32 then
    match cs.drop scheme.length with
    | ':' :: path =>
      let inside := path.takeWhile fun c => ' ' < c && c != '<' && c != '>'
      match path.drop inside.length with
      | '>' :: rest => some (scheme ++ ':' :: inside, rest)
      | _ => none
    | _ => none
  else none

/-- A part of a host name: up to 63 letters, digits and hyphens, no hyphen at either end. -/
def isHostLabel (cs : List Char) : Bool :=
  1 ≤ cs.length && cs.length ≤ 63 && cs.all isTagChar && cs.head? != some '-' &&
    cs.getLast? != some '-'

/-- The parts between the points of a text. -/
def splitPoints (cs : List Char) : List (List Char) :=
  cs.foldr (fun c parts =>
    match c, parts with
    | '.', parts => [] :: parts
    | c, part :: parts => (c :: part) :: parts
    | c, [] => [[c]]) [[]]

/-- A mail address and its `>`, behind the `<`. -/
def pointedMail? (cs : List Char) : Option (List Char × List Char) :=
  let isUserChar := fun c : Char =>
    c.isAlphanum || ".!#$%&'*+/=?^_\x60\x7b|\x7d~-".toList.contains c
  let user := cs.takeWhile isUserChar
  match cs.drop user.length with
  | '@' :: path =>
    let host := path.takeWhile fun c => isTagChar c || c == '.'
    match path.drop host.length with
    | '>' :: rest =>
      if !user.isEmpty && (splitPoints host).all isHostLabel then some (user ++ '@' :: host, rest)
      else none
    | _ => none
  | _ => none

/-! ### Labels, destinations and titles -/

/-- The longest label, in bytes. -/
def longestLabel : Nat := 1000

/-- The characters of a label up to its `]`, the bytes read so far given. -/
def labelBody? (read : Nat) (taken : List Char) : List Char → Option (List Char × List Char)
  | [] => none
  | ']' :: rest => some (trimBoth taken.reverse, rest)
  | '[' :: _ => none
  | '\\' :: c :: cs =>
    if isAsciiPunctuation c then
      if read + 2 > longestLabel then none else labelBody? (read + 2) (c :: '\\' :: taken) cs
    else
      if read + 1 > longestLabel then none else labelBody? (read + 1) ('\\' :: taken) (c :: cs)
  | c :: cs =>
    if read + c.utf8Size > longestLabel then none
    else labelBody? (read + c.utf8Size) (c :: taken) cs
termination_by cs => cs.length

/-- A label between square brackets, trimmed. -/
def label? : List Char → Option (List Char × List Char)
  | '[' :: cs => labelBody? 0 [] cs
  | _ => none

/-- Runs of blanks become one space. -/
def collapse (afterBlank : Bool) : List Char → List Char
  | [] => []
  | c :: cs =>
    if Text.isBlank c then
      if afterBlank then collapse true cs else ' ' :: collapse true cs
    else c :: collapse false cs

/-- The form in which labels are compared: trimmed, blanks collapsed, case folded. -/
def labelKey (label : List Char) : List Char :=
  (collapse false (trimBoth label)).flatMap Text.foldChar

/-- The inside of a destination in pointed brackets. -/
def pointedDestination? (taken : List Char) : List Char → Option (List Char × List Char)
  | [] => none
  | '>' :: rest => if rest.isEmpty then none else some (taken.reverse, rest)
  | '\\' :: c :: cs => pointedDestination? (c :: '\\' :: taken) cs
  | c :: cs => if c = '\n' || c = '<' || c = '\\' then none else pointedDestination? (c :: taken) cs

/-- A destination without brackets ends at a blank, a control character or a parenthesis that
closes none of its own; `depth` counts the open ones. -/
def bareDestination? (depth : Nat) (taken : List Char) : List Char → Option (List Char × List Char)
  | [] => none
  | c :: cs =>
    if c = '\\' && cs.head?.any isAsciiPunctuation then
      match cs with
      | d :: ds => bareDestination? depth (d :: c :: taken) ds
      | [] => none
    else if c = '(' then
      if depth ≥ 32 then none else bareDestination? (depth + 1) (c :: taken) cs
    else if c = ')' then
      match depth with
      | 0 => some (taken.reverse, c :: cs)
      | depth + 1 => bareDestination? depth (c :: taken) cs
    else if isSpace c || c < ' ' || c = '\x7f' then
      if taken.isEmpty || depth ≠ 0 then none else some (taken.reverse, c :: cs)
    else bareDestination? depth (c :: taken) cs
termination_by cs => cs.length

/-- The destination of a link.  Some text has to stand behind it. -/
def destination? : List Char → Option (List Char × List Char)
  | '<' :: cs => pointedDestination? [] cs
  | cs => bareDestination? 0 [] cs

/-- The inside of a title up to its closing mark.  A closing mark behind a backslash ends the title
only if no other one follows: `last` is the latest such place. -/
def titleBody? (isOpen : Char → Bool) (close : Char) (last : Option (List Char × List Char))
    (taken : List Char) : List Char → Option (List Char × List Char)
  | [] => last
  | c :: cs =>
    let escaped := taken.head? == some '\\'
    if c = close then
      if escaped then
        titleBody? isOpen close (some (taken.reverse, cs)) (c :: taken) cs
      else some (taken.reverse, cs)
    else if isOpen c && !escaped then last
    else titleBody? isOpen close last (c :: taken) cs

/-- A title in quotes or parentheses: its inside, and the text behind. -/
def title? : List Char → Option (List Char × List Char)
  | '"' :: cs => titleBody? (fun _ => false) '"' none [] cs
  | '\'' :: cs => titleBody? (fun _ => false) '\'' none [] cs
  | '(' :: cs => titleBody? (· == '(') ')' none [] cs
  | _ => none

/-- The target that a destination and a title's inside give. -/
def Target.ofParts (destination title : List Char) : Target :=
  ⟨unquote (trimBoth destination), unquote title⟩

/-- The text behind spaces and tabs, at most one line feed, and spaces and tabs. -/
def behindLineBreak (cs : List Char) : List Char :=
  match cs.dropWhile isSpaceOrTab with
  | '\n' :: rest => rest.dropWhile isSpaceOrTab
  | rest => rest

/-- The text behind spaces and tabs and the end of the line, if nothing else stands there. -/
def behindLine? (cs : List Char) : Option (List Char) :=
  match cs.dropWhile isSpaceOrTab with
  | '\n' :: rest => some rest
  | [] => some []
  | _ => none

/-- A definition of a label at the start of a text: the label's key, its target, and the text behind
the definition's last line. -/
def definition? (cs : List Char) : Option (List Char × Target × List Char) := do
  let (label, rest) ← label? cs
  if label.isEmpty then failure
  let ':' :: rest := rest | failure
  let (destination, behind) ← destination? (behindLineBreak rest)
  let beforeTitle := behindLineBreak behind
  let titled := if beforeTitle.length = behind.length then none else title? beforeTitle
  let key := labelKey label
  let plain := (behindLine? behind).map fun rest => (key, Target.ofParts destination [], rest)
  match titled with
  | some (title, rest) =>
    match behindLine? rest with
    | some rest => some (key, Target.ofParts destination title, rest)
    | none => plain
  | none => plain

/-- The definitions at the start of a text, added to those known, and the text behind them. -/
def takeDefinitions : Nat → References → List Char → References × List Char
  | 0, known, cs => (known, cs)
  | n + 1, known, cs =>
    match definition? cs with
    | some (key, target, rest) =>
      let known :=
        if key.isEmpty || (known.lookup key).isSome then known else known ++ [(key, target)]
      takeDefinitions n known rest
    | none => (known, cs)

end ModuleDocs.Markdown
