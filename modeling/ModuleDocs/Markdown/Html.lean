import ModuleDocs.Markdown.Document

/-!
# Markdown — Html

The HTML of a document.  A document is first laid out as a sequence of tokens: tags of a fixed set
of elements, escaped text, line feeds, and a fixed comment in the place of raw HTML.  The author's
characters reach the output only as text, which is escaped, or inside an attribute, which is
escaped or percent-encoded.  A link or an image keeps its address only if the address has no scheme
that a browser would run or read from the disk.
-/

namespace ModuleDocs.Markdown

/-- The elements that a document is written with. -/
inductive Element where
  | p | h (level : Fin 6) | blockquote | ul | ol | li | pre | code | hr | br
  | em | strong | del | a | img | table | thead | tbody | tr | th | td | input
  deriving DecidableEq, Repr

/-- The name of an element. -/
def Element.name : Element → List Char
  | .p => ['p']
  | .h level => ['h', Nat.digitChar (level.val + 1)]
  | .blockquote => "blockquote".toList
  | .ul => ['u', 'l']
  | .ol => ['o', 'l']
  | .li => ['l', 'i']
  | .pre => ['p', 'r', 'e']
  | .code => ['c', 'o', 'd', 'e']
  | .hr => ['h', 'r']
  | .br => ['b', 'r']
  | .em => ['e', 'm']
  | .strong => "strong".toList
  | .del => ['d', 'e', 'l']
  | .a => ['a']
  | .img => ['i', 'm', 'g']
  | .table => "table".toList
  | .thead => "thead".toList
  | .tbody => "tbody".toList
  | .tr => ['t', 'r']
  | .th => ['t', 'h']
  | .td => ['t', 'd']
  | .input => "input".toList

/-- The attributes that a tag may carry. -/
inductive Attribute where
  | href (url : List Char)
  | src (url : List Char)
  | alt (text : List Char)
  | title (text : List Char)
  | language (name : List Char)
  | start (number : Nat)
  | align (side : Alignment)
  | checkbox
  | checked
  | disabled
  deriving DecidableEq, Repr

/-- One part of the written document. -/
inductive Token where
  | opening (element : Element) (attributes : List Attribute)
  | void (element : Element) (attributes : List Attribute)
  | closing (element : Element)
  | text (chars : List Char)
  | lineFeed
  | omitted
  deriving DecidableEq, Repr

/-! ### Text and addresses -/

/-- A character of text, with a reference for each one that markup gives a meaning. -/
def escapeChar (c : Char) : List Char :=
  if c = '"' then "&quot;".toList
  else if c = '&' then "&amp;".toList
  else if c = '<' then "&lt;".toList
  else if c = '>' then "&gt;".toList
  else [c]

/-- The characters with markup escaped. -/
def escape (cs : List Char) : List Char := cs.flatMap escapeChar

/-- The characters that an address keeps. -/
def isAddressChar (c : Char) : Bool :=
  c.isAlphanum || "-_.+!*(),%#@?=;:/$~".toList.contains c

/-- A byte as `%` and two hexadecimal digits. -/
def percentByte (b : UInt8) : List Char :=
  ['%', (Nat.digitChar (b.toNat / 16)).toUpper, (Nat.digitChar (b.toNat % 16)).toUpper]

/-- A character of an address. -/
def escapeAddressChar (c : Char) : List Char :=
  if isAddressChar c then [c]
  else if c = '&' then "&amp;".toList
  else if c = '\'' then "&#x27;".toList
  else (String.singleton c).toUTF8.toList.flatMap percentByte

/-- The start of a text is the given lower-case text, in either case. -/
def startsWithFolded (start cs : List Char) : Bool :=
  start.isPrefixOf (cs.map Char.toLower)

/-- The schemes that no address may have. -/
def barredSchemes : List (List Char) :=
  ["javascript:".toList, "vbscript:".toList, "file:".toList, "data:".toList]

/-- The starts of an address that holds its picture, which are let through. -/
def pictureSchemes : List (List Char) :=
  ["data:image/png".toList, "data:image/gif".toList, "data:image/jpeg".toList,
   "data:image/webp".toList]

/-- An address that a browser would run or read from the disk. -/
def isDangerous (url : List Char) : Bool :=
  barredSchemes.any (startsWithFolded · url) && !pictureSchemes.any (startsWithFolded · url)

/-- An address as it stands in an attribute; a dangerous one is left empty. -/
def escapeAddress (url : List Char) : List Char :=
  if isDangerous url then [] else url.flatMap escapeAddressChar

/-! ### Tokens as characters -/

/-- The word for a side. -/
def Alignment.word : Alignment → List Char
  | .unset => []
  | .left => "left".toList
  | .center => "center".toList
  | .right => "right".toList

/-- The name of an attribute. -/
def Attribute.name : Attribute → List Char
  | .href _ => "href".toList
  | .src _ => "src".toList
  | .alt _ => "alt".toList
  | .title _ => "title".toList
  | .language _ => "class".toList
  | .start _ => "start".toList
  | .align _ => "align".toList
  | .checkbox => "type".toList
  | .checked => "checked".toList
  | .disabled => "disabled".toList

/-- The value of an attribute, as it stands between the quotes. -/
def Attribute.value : Attribute → List Char
  | .href url => escapeAddress url
  | .src url => escapeAddress url
  | .alt text => escape text
  | .title text => escape text
  | .language name => "language-".toList ++ escape name
  | .start number => (toString number).toList
  | .align side => side.word
  | .checkbox => "checkbox".toList
  | .checked | .disabled => []

/-- An attribute with the blank before it. -/
def Attribute.print (a : Attribute) : List Char :=
  ' ' :: a.name ++ '=' :: '"' :: a.value ++ ['"']

/-- The comment that stands in the place of raw HTML. -/
def omittedComment : List Char := "<!-- raw HTML omitted -->".toList

/-- A token as characters. -/
def Token.print : Token → List Char
  | .opening e attributes => '<' :: e.name ++ attributes.flatMap Attribute.print ++ ['>']
  | .void e attributes => '<' :: e.name ++ attributes.flatMap Attribute.print ++ [' ', '/', '>']
  | .closing e => '<' :: '/' :: e.name ++ ['>']
  | .text chars => escape chars
  | .lineFeed => ['\n']
  | .omitted => omittedComment

/-! ### Layout -/

/-- The output so far, newest token first. -/
abbrev Layout := List Token

namespace Layout

/-- Nothing stands on the current line. -/
def atLineStart : Layout → Bool
  | [] => true
  | .lineFeed :: _ => true
  | .text chars :: before =>
    match chars.getLast? with
    | some c => c == '\n'
    | none => atLineStart before
  | _ :: _ => false

/-- Starts a line unless one has just started. -/
def freshLine (out : Layout) : Layout := if out.atLineStart then out else .lineFeed :: out

/-- Adds an opening tag. -/
def opening (out : Layout) (e : Element) (attributes : List Attribute := []) : Layout :=
  .opening e attributes :: out

/-- Adds a closing tag. -/
def closing (out : Layout) (e : Element) : Layout := .closing e :: out

/-- Ends the line. -/
def lineFeed (out : Layout) : Layout := .lineFeed :: out

/-- The characters of the output. -/
def print (out : Layout) : List Char := out.reverse.flatMap Token.print

end Layout

mutual

/-- The characters of running text without its markup. -/
def Inline.plain : Inline → List Char
  | .text chars | .code chars | .rawHtml chars => chars
  | .softBreak | .hardBreak => [' ']
  | .emphasis inner | .strong inner | .struck inner => Inline.plainAll inner
  | .link _ inner | .image _ inner => Inline.plainAll inner

/-- The characters of several pieces of running text without their markup. -/
def Inline.plainAll : List Inline → List Char
  | [] => []
  | i :: is => i.plain ++ Inline.plainAll is

end

/-- The title of a target, where it has one. -/
def Target.titleAttribute (t : Target) : List Attribute :=
  if t.title.isEmpty then [] else [.title t.title]

mutual

/-- Lays out a piece of running text. -/
def Inline.layout (out : Layout) : Inline → Layout
  | .text chars => .text chars :: out
  | .softBreak => out.lineFeed
  | .hardBreak => Layout.lineFeed (.void .br [] :: out)
  | .code chars => Layout.closing (.text chars :: out.opening .code) .code
  | .rawHtml _ => .omitted :: out
  | .emphasis inner => (Inline.layoutAll (out.opening .em) inner).closing .em
  | .strong inner => (Inline.layoutAll (out.opening .strong) inner).closing .strong
  | .struck inner => (Inline.layoutAll (out.opening .del) inner).closing .del
  | .link target inner =>
    (Inline.layoutAll (out.opening .a (.href target.url :: target.titleAttribute)) inner).closing .a
  | .image target inner =>
    .void .img (.src target.url :: .alt (Inline.plainAll inner) :: target.titleAttribute) :: out

/-- Lays out several pieces of running text. -/
def Inline.layoutAll (out : Layout) : List Inline → Layout
  | [] => out
  | i :: is => Inline.layoutAll (i.layout out) is

end

/-- Lays out the cells of a row, each under its column. -/
def layoutCells (e : Element) (out : Layout) : List Alignment → List (List Inline) → Layout
  | side :: sides, cell :: cells =>
    let attributes := if side = .unset then [] else [.align side]
    let inside := Inline.layoutAll (out.freshLine.opening e attributes) cell
    layoutCells e (inside.closing e) sides cells
  | _, _ => out

/-- Lays out a row. -/
def layoutRow (e : Element) (columns : List Alignment) (out : Layout) (cells : List (List Inline)) :
    Layout :=
  (layoutCells e (out.freshLine.opening .tr) columns cells).freshLine.closing .tr

/-- Lays out a table: its header, and a body where there are rows. -/
def layoutTable (out : Layout) (columns : List Alignment) (header : List (List Inline))
    (rows : List (List (List Inline))) : Layout :=
  let head := (out.freshLine.opening .table).lineFeed.opening .thead |>.lineFeed
  let head := (layoutRow .th columns head header).freshLine.closing .thead
  let body :=
    if rows.isEmpty then head
    else
      let start := (head.freshLine.opening .tbody).lineFeed
      ((rows.foldl (layoutRow .td columns) start).freshLine.closing .tbody).lineFeed
  (body.freshLine.closing .table).lineFeed

/-- The attributes of a code block: the first word behind its fence names the language. -/
def languageAttribute (info : List Char) : List Attribute :=
  if info.isEmpty then []
  else [.language (info.takeWhile fun c => !(c == ' ' || ('\t' ≤ c && c ≤ '\r')))]

mutual

/-- Lays out a block.  In a tight list the paragraphs of an item carry no tags. -/
def Block.layout (tight : Bool) (out : Layout) : Block (List Inline) → Layout
  | .quote children =>
    let inside := Block.layoutAll false (out.freshLine.opening .blockquote).lineFeed children
    (inside.freshLine.closing .blockquote).lineFeed
  | .list start isTight items =>
    let (e, attributes) : Element × List Attribute :=
      match start with
      | none => (.ul, [])
      | some 1 => (.ol, [])
      | some n => (.ol, [.start n])
    let inside := Block.layoutAll isTight (out.freshLine.opening e attributes).lineFeed items
    (inside.closing e).lineFeed
  | .item task children =>
    let start := out.freshLine.opening .li
    let marked : Layout :=
      match task with
      | none => start
      | some done =>
        .text [' '] ::
          .void .input (.checkbox :: (if done then [.checked] else []) ++ [.disabled]) :: start
    ((Block.layoutAll tight marked children).closing .li).lineFeed
  | .paragraph text =>
    if tight then Inline.layoutAll out text
    else ((Inline.layoutAll (out.freshLine.opening .p) text).closing .p).lineFeed
  | .heading level text =>
    ((Inline.layoutAll (out.freshLine.opening (.h level)) text).closing (.h level)).lineFeed
  | .code info literal =>
    let start := (out.freshLine.opening .pre).opening .code (languageAttribute info)
    ((Layout.closing (.text literal :: start) .code).closing .pre).lineFeed
  | .rawHtml => Layout.freshLine (.omitted :: out.freshLine)
  | .rule => Layout.lineFeed (.void .hr [] :: out.freshLine)
  | .table columns header rows => layoutTable out columns header rows

/-- Lays out several blocks. -/
def Block.layoutAll (tight : Bool) (out : Layout) : List (Block (List Inline)) → Layout
  | [] => out
  | b :: bs => Block.layoutAll tight (b.layout tight out) bs

end

/-- A document as HTML. -/
def toHtml (document : List (Block (List Inline))) : String :=
  String.ofList (Block.layoutAll false [] document).print

end ModuleDocs.Markdown
