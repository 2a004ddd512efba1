import ModuleDocs.Comment.Json
import ModuleDocs.Record

/-!
# Record — Json

Module documentation as JSON.
-/

namespace ModuleDocs

open Json (Reader Schema readText readFlag readOptional readList readRecord)

/-! ### Reading -/

/-- How a dependency is read. -/
def Dependency.schema : Schema Dependency where
  name := "Dependency"
  blank := { name := "" }
  fields :=
    [Json.field "name" readText (fun name r => { r with name }) [] true,
     Json.field "description" readText fun description r => { r with description }]

/-- How a class is read. -/
def ClassDoc.schema : Schema ClassDoc where
  name := "ClassRecord"
  blank := { constructor := {} }
  fields :=
    [Json.field "constructor" Comment.read (fun constructor r => { r with constructor }) [] true,
     Json.field "properties" (readList Comment.read)
       (fun properties r => { r with properties }) [] true,
     Json.field "methods" (readList Comment.read) (fun methods r => { r with methods }) [] true]

/-- How a mixin is read. -/
def MixinDoc.schema : Schema MixinDoc where
  name := "MixinRecord"
  blank := { declaration := {} }
  fields :=
    [Json.field "declaration" Comment.read (fun declaration r => { r with declaration }) [] true,
     Json.field "properties" (readList Comment.read)
       (fun properties r => { r with properties }) [] true,
     Json.field "methods" (readList Comment.read) (fun methods r => { r with methods }) [] true]

/-- How module documentation is read. -/
def ModuleDoc.schema : Schema ModuleDoc where
  name := "ModuleRecord"
  blank := {}
  fields :=
    [Json.field "name" readText (fun name r => { r with name }) [] true,
     Json.field "path" readText (fun path r => { r with path }) [] true,
     Json.field "description" readText (fun description r => { r with description }) [] true,
     Json.field "isDeprecated" readFlag (fun isDeprecated r => { r with isDeprecated }) [] true,
     Json.field "deprecationMessage" (readOptional readText)
      fun deprecationMessage r => { r with deprecationMessage },
     Json.field "variables" (readList Comment.read) (fun vars r => { r with vars }) [] true,
     Json.field "functions" (readList Comment.read)
       (fun functions r => { r with functions }) [] true,
     Json.field "classes" (readList (readRecord ClassDoc.schema))
      (fun classes r => { r with classes }) [] true,
     Json.field "mixins" (readList (readRecord MixinDoc.schema))
      (fun mixins r => { r with mixins }) [] true,
     Json.field "dependencies" (readList (readRecord Dependency.schema))
      (fun dependencies r => { r with dependencies }) [] true]

/-- Reads module documentation. -/
def ModuleDoc.read : Reader ModuleDoc := readRecord ModuleDoc.schema

/-- The module documentation that a text holds. -/
def ModuleDoc.parse (text : String) : Except Json.Fault ModuleDoc :=
  Json.readWhole ModuleDoc.read text

/-! ### Writing -/

/-- Comments as data. -/
def Comment.listValue (cs : List Comment) : Value := .list (cs.map (·.toValue))

/-- A dependency as data. -/
def Dependency.toValue (d : Dependency) : Value :=
  .object (("name", .text d.name) ::
    (if d.description.isEmpty then [] else [("description", .text d.description)]))

/-- A class as data. -/
def ClassDoc.toValue (c : ClassDoc) : Value :=
  .object
    [("constructor", c.constructor.toValue), ("properties", Comment.listValue c.properties),
     ("methods", Comment.listValue c.methods)]

/-- A mixin as data. -/
def MixinDoc.toValue (m : MixinDoc) : Value :=
  .object
    [("declaration", m.declaration.toValue), ("properties", Comment.listValue m.properties),
     ("methods", Comment.listValue m.methods)]

/-- Module documentation as data. -/
def ModuleDoc.toValue (r : ModuleDoc) : Value :=
  .object ([("name", .text r.name), ("path", .text r.path), ("description", .text r.description),
      ("isDeprecated", .bool r.isDeprecated)] ++
    Value.member? "deprecationMessage" (r.deprecationMessage.map .text) ++
    [("variables", Comment.listValue r.vars), ("functions", Comment.listValue r.functions),
     ("classes", .list (r.classes.map (·.toValue))), ("mixins", .list (r.mixins.map (·.toValue))),
     ("dependencies", .list (r.dependencies.map (·.toValue)))])

end ModuleDocs
