import ModuleDocs.Markdown.Html
import ModuleDocs.Markdown.Running
import ModuleDocs.Markdown.Structure

/-!
# Markdown

Descriptions written in Markdown with tables, struck text, task lists, bare addresses and curved
punctuation, rendered as HTML that carries no markup of the author's own.
-/

namespace ModuleDocs.Markdown

/-! ### Task lists -/

/-- The mark of a task at the start of a text: whether the task is done, and the text behind. -/
def taskMark? (cs : List Char) : Option (Bool × List Char) :=
  match cs.dropWhile isSpace with
  | '[' :: c :: ']' :: rest =>
    let isMark := c = ' ' || c = 'x' || c = 'X'
    if isMark && rest.head?.all isSpace then some (c != ' ', rest.drop 1) else none
  | _ => none

/-- An item whose first paragraph starts with the mark of a task is a task. -/
def taskItem (children : List (Block (List Inline))) : Block (List Inline) :=
  match children with
  | .paragraph (.text cs :: text) :: later =>
    match taskMark? cs with
    | some (isDone, rest) => .item (some isDone) (.paragraph (.text rest :: text) :: later)
    | none => .item none children
  | _ => .item none children

mutual

/-- The block with its tasks marked. -/
def markTasks : Block (List Inline) → Block (List Inline)
  | .quote children => .quote (markTasksAll children)
  | .list start tight items => .list start tight (markTasksAll items)
  | .item _ children => taskItem (markTasksAll children)
  | b => b

/-- The blocks with their tasks marked. -/
def markTasksAll : List (Block (List Inline)) → List (Block (List Inline))
  | [] => []
  | b :: bs => markTasks b :: markTasksAll bs

end

/-! ### Whole texts -/

/-- The document that a text writes. -/
def read (cs : List Char) : List (Block (List Inline)) :=
  let (blocks, references) := readStructure cs
  Block.mapAll linkMailInAll (markTasksAll (Block.mapAll (readRunning references) blocks))

/-- A description as HTML; nothing for one that is blank. -/
def render (s : String) : String :=
  if Text.allBlank s then "" else toHtml (read s.toList)

end ModuleDocs.Markdown
