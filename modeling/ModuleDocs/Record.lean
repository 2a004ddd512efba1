import ModuleDocs.Comment
import ModuleDocs.Dependency

/-!
# Record

The documentation of one module: what its comments say, sorted into the entities that they
document.
-/

namespace ModuleDocs

/-- A class with its members. -/
structure ClassDoc where
  constructor : Comment
  properties : List Comment := []
  methods : List Comment := []
deriving DecidableEq, Repr

/-- A mixin with its members. -/
structure MixinDoc where
  declaration : Comment
  properties : List Comment := []
  methods : List Comment := []
deriving DecidableEq, Repr

/-- The documentation of a module. -/
structure ModuleDoc where
  name : String := ""
  path : String := ""
  description : String := ""
  isDeprecated : Bool := false
  deprecationMessage : Option String := none
  vars : List Comment := []
  functions : List Comment := []
  classes : List ClassDoc := []
  mixins : List MixinDoc := []
  dependencies : List Dependency := []
deriving DecidableEq, Repr

/-- A class has the name of its constructor. -/
def ClassDoc.name (c : ClassDoc) : String := c.constructor.name

/-- A mixin has the name of its declaration. -/
def MixinDoc.name (m : MixinDoc) : String := m.declaration.name

namespace ModuleDoc

/-- The first class of the given name. -/
def class? (r : ModuleDoc) (name : String) : Option ClassDoc := r.classes.find? (·.name = name)

/-- The first mixin of the given name. -/
def mixin? (r : ModuleDoc) (name : String) : Option MixinDoc := r.mixins.find? (·.name = name)

/-- Nothing is documented. -/
def isEmpty (r : ModuleDoc) : Bool :=
  r.description.isEmpty && r.vars.isEmpty && r.functions.isEmpty && r.classes.isEmpty &&
    r.mixins.isEmpty && r.dependencies.isEmpty

/-- The numbers of classes, mixins, functions and variables, in words. -/
def tally (r : ModuleDoc) : String :=
  toString r.classes.length ++ " classes, " ++ toString r.mixins.length ++ " mixins, " ++
    toString r.functions.length ++ " functions, " ++ toString r.vars.length ++ " variables"

end ModuleDoc

end ModuleDocs
