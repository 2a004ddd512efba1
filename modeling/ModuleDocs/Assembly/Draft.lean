import ModuleDocs.Assembly.Role
import ModuleDocs.Text.Case

/-!
# Assembly — Draft

A module's documentation while its comments are read one by one, and the finishing of it: members
are sorted by name, and of the variables and functions only the public ones stay.
-/

namespace ModuleDocs

/-- Unfinished documentation. -/
structure Draft where
  /-- All but the classes and mixins. -/
  header : ModuleDoc
  registry : Registry
  /-- The module has its description. -/
  described : Bool

/-- How comments are taken into a draft. -/
structure Rules where
  /-- Renders the description of the module. -/
  render : String → String
  /-- The start of the code before which a comment describes the module; empty for none. -/
  marker : String
  /-- Comments that declare a class or mixin add it to the draft. -/
  registers : Bool := true

/-- A comment that describes the module: it says so, or it stands before the marker. -/
def Rules.describesModule (rules : Rules) (c : Comment) : Bool :=
  c.context.isNone &&
    (c.kind = .description ||
      (!rules.marker.isEmpty &&
        rules.marker.toList.isPrefixOf (Text.trimLeft c.code.toList)))

/-- The deprecation message of a comment, if it deprecates its entity. -/
def Comment.deprecation? (c : Comment) : Option String :=
  (c.nativeTags.deprecated <|> c.tagValue? "deprecated").map Text.trim

/-- The dependencies with one more, unless its name is among them. -/
def Dependency.addNew (ds : List Dependency) (d : Dependency) : List Dependency :=
  if ds.any (·.name = d.name) then ds else ds ++ [d]

/-- The dependencies that a comment's tags name. -/
def Comment.dependencies (c : Comment) : List Dependency :=
  (c.tagValues "requires").filterMap Dependency.ofTagValue

namespace ModuleDoc

/-- The documentation with the given deprecation, where there is one. -/
def withDeprecation (r : ModuleDoc) : Option String → ModuleDoc
  | none => r
  | some message =>
    { r with
      isDeprecated := true
      deprecationMessage := if message.isEmpty then none else some message }

/-- The documentation with the header that a describing comment gives it. -/
def describe (r : ModuleDoc) (render : String → String) (c : Comment) : ModuleDoc :=
  { r.withDeprecation c.deprecation? with
    description := render c.description
    dependencies := c.dependencies.foldl Dependency.addNew r.dependencies }

end ModuleDoc

namespace Draft

/-- The draft of documentation that exists already. -/
def ofDoc (r : ModuleDoc) : Draft where
  header := { r with classes := [], mixins := [] }
  registry := .ofDocs r.classes r.mixins
  described := !r.description.isEmpty

/-- The description of the module is taken from the comment. -/
def takesDescription (d : Draft) (rules : Rules) (c : Comment) : Bool :=
  !d.described && rules.describesModule c

/-- The draft with a member attached to its owner; without a known owner the member is dropped. -/
def attach (d : Draft) (kind : MemberKind) (c : Comment) : Draft :=
  match c.owner.bind fun owner => d.registry.attach? owner kind c with
  | some registry => { d with registry }
  | none => d

/-- The draft with one more comment. -/
def add (rules : Rules) (d : Draft) (c : Comment) : Draft :=
  match c.role with
  | .contextless =>
    if d.takesDescription rules c then
      { d with header := d.header.describe rules.render c, described := true }
    else d
  | .classOwner => if rules.registers then { d with registry := d.registry.registerClass c } else d
  | .mixinOwner => if rules.registers then { d with registry := d.registry.registerMixin c } else d
  | .topVariable => { d with header.vars := d.header.vars ++ [c] }
  | .topFunction => { d with header.functions := d.header.functions ++ [c] }
  | .member kind => d.attach kind c
  | .unknown => d

/-- What is reported about a member. -/
def attachEvents (d : Draft) (kind : MemberKind) (c : Comment) : List Event :=
  let dropping (member : Comment) := "Dropping " ++ kind.text ++ " '" ++ member.name ++ "': "
  match c.owner with
  | none => [.debug (dropping c ++ "no owner")]
  | some owner =>
    match (d.registry.attach owner kind c).1 with
    | .ok () => []
    | .error member => [.debug (dropping member ++ "owner '" ++ owner ++ "' is not registered")]

/-- What is reported about one more comment. -/
def addEvents (rules : Rules) (d : Draft) (c : Comment) : List Event :=
  match c.role with
  | .contextless =>
    if d.takesDescription rules c then [] else [.debug "Ignoring context-less comment"]
  | .classOwner =>
    if rules.registers then
      .debug ("Registering class '" ++ c.name ++ "'") :: d.registry.classEvents c.name
    else []
  | .mixinOwner =>
    if rules.registers then
      .debug ("Registering mixin '" ++ c.name ++ "'") :: d.registry.mixinEvents c.name
    else []
  | .topVariable | .topFunction => []
  | .member kind => d.attachEvents kind c
  | .unknown => [.debug ("Dropping '" ++ c.name ++ "': unrecognized context")]

/-- The draft with the comments of a stream. -/
def addAll (rules : Rules) (d : Draft) (cs : List Comment) : Draft := cs.foldl (add rules) d

/-- What is reported about the comments of a stream. -/
def addAllEvents (rules : Rules) (d : Draft) : List Comment → List Event
  | [] => []
  | c :: cs => d.addEvents rules c ++ addAllEvents rules (d.add rules c) cs

/-- The draft with every class and mixin that the comments declare. -/
def registerOwners (d : Draft) (cs : List Comment) : Draft :=
  { d with registry := cs.foldl Registry.registerOwner d.registry }

/-- What is reported about the classes and mixins that the comments declare. -/
def registerOwnersEvents (r : Registry) : List Comment → List Event
  | [] => []
  | c :: cs => r.ownerEvents c ++ registerOwnersEvents (r.registerOwner c) cs

end Draft

/-! ### Finishing -/

/-- Comments in the order of their names; those of one name keep their order. -/
def sortByName (cs : List Comment) : List Comment := cs.mergeSort fun a b => a.name ≤ b.name

/-- Dependencies in the order of their names in lower case. -/
def sortDependencies (ds : List Dependency) : List Dependency :=
  ds.mergeSort fun a b => Text.lower a.name ≤ Text.lower b.name

/-- The class with its members sorted. -/
def ClassDoc.sorted (c : ClassDoc) : ClassDoc :=
  { c with properties := sortByName c.properties, methods := sortByName c.methods }

/-- The mixin with its members sorted. -/
def MixinDoc.sorted (m : MixinDoc) : MixinDoc :=
  { m with properties := sortByName m.properties, methods := sortByName m.methods }

/-- The finished documentation. -/
def Draft.finish (d : Draft) : ModuleDoc :=
  { d.header with
    dependencies := sortDependencies d.header.dependencies
    vars := (sortByName d.header.vars).filter (·.isPublic)
    functions := (sortByName d.header.functions).filter (·.isPublic)
    classes := d.registry.classes.toList.map (·.sorted)
    mixins := d.registry.mixins.toList.map (·.sorted) }

end ModuleDocs
