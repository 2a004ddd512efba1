import ModuleDocs.Comment

/-!
# Comment — Resolve

Tags that say where an entity belongs: `memberof` names its owner and `mixes` what it mixes in.
Of several tags with a text the last one counts.
-/

namespace ModuleDocs

/-- The context with the given owner. -/
def Context.withOwner (c : Context) (owner : String) : Context :=
  { c with scope := some { c.scope.getD {} with owner := some owner } }

namespace Comment

/-- What one tag says about the entity's place. -/
def applyTag (c : Comment) (t : Tag) : Comment :=
  if t.text.isEmpty then c
  else if t.is "memberof" then { c with context := c.context.map (·.withOwner t.text) }
  else if t.is "mixes" then { c with mixesInto := some t.text }
  else c

/-- The comment with what its tags say about its place. -/
def resolve (c : Comment) : Comment := c.tags.foldl applyTag c

end Comment

end ModuleDocs
