/-!
# Markdown — Document

A document is a list of blocks.  A block is built over the texts it holds, `Block α`: block
structure is read with raw lines for `α`, and the inline structure of each text replaces them.
-/

namespace ModuleDocs.Markdown

/-- Where a link or an image points, with the title shown beside it. -/
structure Target where
  url : List Char
  title : List Char
  deriving DecidableEq, Repr, Inhabited

/-- A piece of running text. -/
inductive Inline where
  | text (chars : List Char)
  | softBreak
  | hardBreak
  | code (chars : List Char)
  | rawHtml (chars : List Char)
  | emphasis (inner : List Inline)
  | strong (inner : List Inline)
  | struck (inner : List Inline)
  | link (target : Target) (inner : List Inline)
  | image (target : Target) (inner : List Inline)
  deriving Repr, Inhabited

/-- How the cells of a table column are set. -/
inductive Alignment where
  | unset
  | left
  | center
  | right
  deriving DecidableEq, Repr, Inhabited

/-- A block of a document, with texts of type `α`.  A list holds items and nothing else; an item
that is a task says whether it is done. -/
inductive Block (α : Type) where
  | quote (children : List (Block α))
  | list (start : Option Nat) (tight : Bool) (items : List (Block α))
  | item (task : Option Bool) (children : List (Block α))
  | paragraph (text : α)
  | heading (level : Fin 6) (text : α)
  | code (info literal : List Char)
  | rawHtml
  | rule
  | table (columns : List Alignment) (header : List α) (rows : List (List α))
  deriving Repr, Inhabited

mutual

/-- The block with every text replaced. -/
def Block.map {α β : Type} (f : α → β) : Block α → Block β
  | .quote children => .quote (Block.mapAll f children)
  | .list start tight items => .list start tight (Block.mapAll f items)
  | .item task children => .item task (Block.mapAll f children)
  | .paragraph text => .paragraph (f text)
  | .heading level text => .heading level (f text)
  | .code info literal => .code info literal
  | .rawHtml => .rawHtml
  | .rule => .rule
  | .table columns header rows => .table columns (header.map f) (rows.map (·.map f))

/-- The blocks with every text replaced. -/
def Block.mapAll {α β : Type} (f : α → β) : List (Block α) → List (Block β)
  | [] => []
  | b :: bs => b.map f :: Block.mapAll f bs

end

/-- The targets of a document's link labels, the first definition of a label before later ones. -/
abbrev References := List (List Char × Target)

end ModuleDocs.Markdown
