import ModuleDocs.Assembly.Table
import ModuleDocs.Event
import ModuleDocs.Record

/-!
# Assembly — Registry

The classes and mixins of one module while its comments are read.  A member goes to the class of
its owner's name, or to the mixin of that name if there is no such class.
-/

namespace ModuleDocs

/-- What a member of a class or mixin is. -/
inductive MemberKind where
  | method | property
deriving DecidableEq, Repr

/-- The kind in words. -/
def MemberKind.text : MemberKind → String
  | .method => "method"
  | .property => "property"

/-- The class with one more member. -/
def ClassDoc.attach (c : ClassDoc) (kind : MemberKind) (member : Comment) : ClassDoc :=
  match kind with
  | .method => { c with methods := c.methods ++ [member] }
  | .property => { c with properties := c.properties ++ [member] }

/-- The mixin with one more member. -/
def MixinDoc.attach (m : MixinDoc) (kind : MemberKind) (member : Comment) : MixinDoc :=
  match kind with
  | .method => { m with methods := m.methods ++ [member] }
  | .property => { m with properties := m.properties ++ [member] }

/-- The classes and mixins known so far. -/
structure Registry where
  classes : Table ClassDoc := {}
  mixins : Table MixinDoc := {}

namespace Registry

/-- There is a class of the given name. -/
def hasClass (r : Registry) (name : String) : Bool := r.classes.contains name

/-- There is a mixin of the given name. -/
def hasMixin (r : Registry) (name : String) : Bool := r.mixins.contains name

/-- Adds a class, in the place of an earlier one of its name. -/
def insertClass (r : Registry) (c : ClassDoc) : Registry :=
  { r with classes := r.classes.upsert c.name c }

/-- Adds a mixin, in the place of an earlier one of its name. -/
def insertMixin (r : Registry) (m : MixinDoc) : Registry :=
  { r with mixins := r.mixins.upsert m.name m }

/-- The registry of classes and mixins that exist already. -/
def ofDocs (classes : List ClassDoc) (mixins : List MixinDoc) : Registry :=
  mixins.foldl insertMixin (classes.foldl insertClass {})

/-- Adds the class of a constructor, without members. -/
def registerClass (r : Registry) (constructor : Comment) : Registry := r.insertClass { constructor }

/-- Adds the mixin of a declaration, without members. -/
def registerMixin (r : Registry) (declaration : Comment) : Registry := r.insertMixin { declaration }

/-- Adds a member to its owner; where the owner is not known the member is handed back. -/
def attach (r : Registry) (owner : String) (kind : MemberKind) (member : Comment) :
    Except Comment Unit × Registry :=
  if r.hasClass owner then
    (.ok (), { r with classes := r.classes.modify owner (·.attach kind member) })
  else if r.hasMixin owner then
    (.ok (), { r with mixins := r.mixins.modify owner (·.attach kind member) })
  else (.error member, r)

/-- The registry with a member at its owner, if the owner is known. -/
def attach? (r : Registry) (owner : String) (kind : MemberKind) (member : Comment) :
    Option Registry :=
  match r.attach owner kind member with
  | (.ok (), r') => some r'
  | (.error _, _) => none

/-- What is reported when a class comes again. -/
def classEvents (r : Registry) (name : String) : List Event :=
  if r.hasClass name then
    [.debug ("Class '" ++ name ++ "' registered again, replacing earlier record")]
  else []

/-- What is reported when a mixin comes again. -/
def mixinEvents (r : Registry) (name : String) : List Event :=
  if r.hasMixin name then
    [.debug ("Mixin '" ++ name ++ "' registered again, replacing earlier record")]
  else []

/-- Adds the class or mixin that the comment declares, if it declares one. -/
def registerOwner (r : Registry) (c : Comment) : Registry :=
  match c.contextKind with
  | some .function => if c.isConstructor then r.registerClass c else r
  | some .declaration => if c.hasTag "mixin" then r.registerMixin c else r
  | _ => r

/-- What is reported when the class or mixin that a comment declares comes again. -/
def ownerEvents (r : Registry) (c : Comment) : List Event :=
  match c.contextKind with
  | some .function => if c.isConstructor then r.classEvents c.name else []
  | some .declaration => if c.hasTag "mixin" then r.mixinEvents c.name else []
  | _ => []

/-- What is reported while classes and then mixins that exist already are added. -/
def seedEvents (classes : List ClassDoc) (mixins : List MixinDoc) : List Event :=
  let ofClasses := classes.foldl
    (fun (r, es) c => (insertClass r c, es ++ classEvents r c.name)) (({} : Registry), [])
  (mixins.foldl (fun (r, es) m => (insertMixin r m, es ++ mixinEvents r m.name)) ofClasses).2

end Registry

end ModuleDocs
