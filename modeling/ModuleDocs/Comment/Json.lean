import ModuleDocs.Comment
import ModuleDocs.Json.Reader
import ModuleDocs.Value

/-!
# Comment — Json

Comments as JSON: how they are read, in any of the forms that a comment parser may use, and the
one form in which they are written.
-/

namespace ModuleDocs

open Json (Field Reader Schema readText readFlag readOptional readList readRecord readChoice)

/-- The field whose value `read` reads and `put` puts into the record. -/
def Json.field {σ α : Type} (name : String) (read : Reader α) (put : α → σ → σ)
    (aliases : List String := []) (required : Bool := false) : Field σ where
  name := name
  aliases := aliases
  required := required
  read := fun s => do
    let (a, s) ← read s
    .ok (put a, s)

/-! ### Reading -/

/-- The kind of the given name; every other name is an unknown kind. -/
def ContextKind.ofName : String → ContextKind
  | "declaration" => .declaration
  | "function" => .function
  | "method" => .method
  | "property" => .property
  | _ => .unknown

/-- The kind of the given name; every other name is another kind. -/
def CommentKind.ofName : String → CommentKind
  | "description" => .description
  | "block" => .block
  | _ => .other

/-- How a scope is read. -/
def Scope.schema : Schema Scope where
  name := "Scope"
  blank := {}
  fields := [Json.field "owner" (readOptional readText) fun owner r => { r with owner }]

/-- How a context is read. -/
def Context.schema : Schema Context where
  name := "SyntaxContext"
  blank := { kind := .unknown }
  fields :=
    [Json.field "type" (readChoice ContextKind.ofName) (fun kind r => { r with kind }) [] true,
     Json.field "name" readText fun name r => { r with name },
     Json.field "scope" (readOptional (readRecord Scope.schema)) fun scope r => { r with scope }]

/-- How a tag is read. -/
def Tag.schema : Schema Tag where
  name := "Tag"
  blank := { key := "" }
  fields :=
    [Json.field "key" readText (fun key r => { r with key }) ["type"] true,
     Json.field "value" readText (fun value r => { r with value }) ["string"]]

/-- How native tags are read. -/
def NativeTags.schema : Schema NativeTags where
  name := "NativeTags"
  blank := {}
  fields :=
    [Json.field "deprecated" (readOptional readText) fun deprecated r => { r with deprecated }]

/-- How a comment is read. -/
def Comment.schema : Schema Comment where
  name := "CommentRecord"
  blank := {}
  fields :=
    [Json.field "ctx" (readOptional (readRecord Context.schema)) fun context r =>
       { r with context },
     Json.field "tags" (readList (readRecord Tag.schema)) fun tags r => { r with tags },
     Json.field "nativeTags" (readRecord NativeTags.schema) fun nativeTags r =>
       { r with nativeTags },
     Json.field "isPrivate" (readOptional readFlag) fun isPrivate r => { r with isPrivate },
     Json.field "isConstructor" readFlag fun isConstructor r => { r with isConstructor },
     Json.field "description" readText fun description r => { r with description },
     Json.field "code" readText fun code r => { r with code },
     Json.field "kind" (readChoice CommentKind.ofName) fun kind r => { r with kind },
     Json.field "mixesInto" (readOptional readText) fun mixesInto r => { r with mixesInto }]

/-- Reads a comment. -/
def Comment.read : Reader Comment := readRecord Comment.schema

/-- The comments of a text that holds a list of them; a blank text holds none. -/
def Comment.parseAll (text : String) : Except Json.Fault (List Comment) :=
  if Text.allBlank text then .ok [] else Json.readWhole (readList Comment.read) text

/-! ### Writing -/

/-- The name of a kind. -/
def ContextKind.name : ContextKind → String
  | .declaration => "declaration"
  | .function => "function"
  | .method => "method"
  | .property => "property"
  | .unknown => "unknown"

/-- The name of a kind. -/
def CommentKind.name : CommentKind → String
  | .description => "description"
  | .block => "block"
  | .other => "other"

/-- A scope as data. -/
def Scope.toValue (s : Scope) : Value := .object (Value.member? "owner" (s.owner.map .text))

/-- A context as data. -/
def Context.toValue (c : Context) : Value :=
  .object ([("type", .text c.kind.name), ("name", .text c.name)] ++
    Value.member? "scope" (c.scope.map (·.toValue)))

/-- A tag as data. -/
def Tag.toValue (t : Tag) : Value := .object [("key", .text t.key), ("value", .text t.value)]

/-- Native tags as data. -/
def NativeTags.toValue (t : NativeTags) : Value :=
  .object (Value.member? "deprecated" (t.deprecated.map .text))

/-- A comment as data. -/
def Comment.toValue (c : Comment) : Value :=
  .object (Value.member? "ctx" (c.context.map (·.toValue)) ++
    [("tags", .list (c.tags.map (·.toValue))), ("nativeTags", c.nativeTags.toValue)] ++
    Value.member? "isPrivate" (c.isPrivate.map .bool) ++
    [("isConstructor", .bool c.isConstructor), ("description", .text c.description),
     ("code", .text c.code), ("kind", .text c.kind.name)] ++
    Value.member? "mixesInto" (c.mixesInto.map .text))

end ModuleDocs
