import ModuleDocs.Assembly.Registry

/-!
# Assembly — Role

The part that a comment plays in its module's documentation, which follows from the comment alone.
-/

namespace ModuleDocs

/-- The part a comment plays. -/
inductive Role where
  /-- It stands before no code and may describe the module. -/
  | contextless
  /-- It declares a mixin. -/
  | mixinOwner
  | topVariable
  /-- It documents a constructor and so declares a class. -/
  | classOwner
  | topFunction
  | member (kind : MemberKind)
  | unknown
deriving DecidableEq, Repr

/-- The part of a comment. -/
def Comment.role (c : Comment) : Role :=
  match c.contextKind with
  | none => .contextless
  | some .declaration => if c.hasTag "mixin" then .mixinOwner else .topVariable
  | some .function => if c.isConstructor then .classOwner else .topFunction
  | some .method => .member .method
  | some .property => .member .property
  | some .unknown => .unknown

end ModuleDocs
