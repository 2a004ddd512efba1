import ModuleDocs.Markdown

/-!
# Description

How descriptions are shown: as HTML from Markdown, or as they are without the blanks around them.
-/

namespace ModuleDocs

/-- Shows a description; `markdown` says whether it is written in Markdown. -/
def describe (markdown : Bool) (s : String) : String :=
  if markdown then Markdown.render s else Text.trim s

end ModuleDocs
