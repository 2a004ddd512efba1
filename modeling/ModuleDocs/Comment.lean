import ModuleDocs.Text.Blank

/-!
# Comment

A documentation comment of a module's source, with what the comment parser found out about the
entity that it documents.
-/

namespace ModuleDocs

/-- The kind of syntax a comment stands before. -/
inductive ContextKind where
  | declaration | function | method | property | unknown
deriving DecidableEq, Repr

/-- Where an entity is defined. -/
structure Scope where
  /-- The class or mixin that owns the entity. -/
  owner : Option String := none
deriving DecidableEq, Repr

/-- The entity a comment documents. -/
structure Context where
  kind : ContextKind
  name : String := ""
  scope : Option Scope := none
deriving DecidableEq, Repr

/-- A tag with its text. -/
structure Tag where
  key : String
  value : String := ""
deriving DecidableEq, Repr

/-- The tags that the comment parser reads itself. -/
structure NativeTags where
  /-- Set when the entity is deprecated, with a message that may be empty. -/
  deprecated : Option String := none
deriving DecidableEq, Repr

/-- What sort of comment it is. -/
inductive CommentKind where
  /-- A free-standing description of the module. -/
  | description
  /-- A block before some piece of code. -/
  | block
  /-- Anything else. -/
  | other
deriving DecidableEq, Repr

/-- A documentation comment. -/
structure Comment where
  context : Option Context := none
  tags : List Tag := []
  nativeTags : NativeTags := {}
  /-- Unset while it is not known whether the entity is private. -/
  isPrivate : Option Bool := none
  isConstructor : Bool := false
  description : String := ""
  code : String := ""
  kind : CommentKind := .block
  /-- The entity that a `mixes` tag names. -/
  mixesInto : Option String := none
deriving DecidableEq, Repr

instance : Inhabited Comment := ⟨{}⟩

/-- The owner that a context names. -/
def Context.owner (c : Context) : Option String := c.scope.bind (·.owner)

/-- The tag's key, without blanks around it and without the `@` signs it starts with. -/
def Tag.bareKey (t : Tag) : List Char := (Text.trimChars t.key.toList).dropWhile (· = '@')

/-- The tag has the given key. -/
def Tag.is (t : Tag) (key : String) : Bool := t.bareKey = key.toList

/-- The tag's text, without blanks around it. -/
def Tag.text (t : Tag) : String := Text.trim t.value

namespace Comment

/-- The name of the entity, empty where there is none. -/
def name (c : Comment) : String := (c.context.map (·.name)).getD ""

/-- The kind of the entity. -/
def contextKind (c : Comment) : Option ContextKind := c.context.map (·.kind)

/-- The owner of the entity. -/
def owner (c : Comment) : Option String := c.context.bind (·.owner)

/-- The texts of the tags of the given key. -/
def tagValues (c : Comment) (key : String) : List String := (c.tags.filter (·.is key)).map (·.text)

/-- The text of the first tag of the given key. -/
def tagValue? (c : Comment) (key : String) : Option String := (c.tags.find? (·.is key)).map (·.text)

/-- Some tag has the given key. -/
def hasTag (c : Comment) (key : String) : Bool := c.tags.any (·.is key)

/-- The entity is known not to be private. -/
def isPublic (c : Comment) : Bool := c.isPrivate = some false

end Comment

end ModuleDocs
