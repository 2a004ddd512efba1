import ModuleDocs.Assembly.Draft
import ModuleDocs.Assembly.Extension
import ModuleDocs.Comment.Resolve

/-!
# Assembly

Folding a module's comments into its documentation.  Owners may have to be declared before their
members (one pass over the comments), or all owners are registered before any member is attached
(two passes).
-/

namespace ModuleDocs

/-- How members find their owners. -/
inductive Resolution where
  /-- An owner is declared before its members. -/
  | singlePass
  /-- All owners are known before any member is looked at. -/
  | twoPhase
deriving DecidableEq, Repr

/-- A module that is to be documented. -/
structure Identity where
  name : String
  path : String
deriving DecidableEq, Repr

/-- How modules are documented. -/
structure Assembler where
  render : String → String
  marker : String := "(function"
  resolution : Resolution := .singlePass
  extensions : List Extension := []

namespace Assembler

/-- The documentation of a module before any of its comments is read. -/
def seed (a : Assembler) (module : Identity) : ModuleDoc :=
  Extension.applyModule a.extensions { name := module.name, path := module.path }

/-- A comment as it is read: after the extensions and its own tags. -/
def prepare (a : Assembler) (c : Comment) : Comment :=
  (Extension.applyComment a.extensions c).resolve

/-- How comments are taken into the draft. -/
def rules (a : Assembler) : Rules where
  render := a.render
  marker := a.marker
  registers := a.resolution = .singlePass

/-- The draft in which the first comment is read. -/
def start (a : Assembler) (module : Identity) (prepared : List Comment) : Draft :=
  let draft := Draft.ofDoc (a.seed module)
  match a.resolution with
  | .singlePass => draft
  | .twoPhase => draft.registerOwners prepared

/-- The draft after the last comment. -/
def draft (a : Assembler) (module : Identity) (comments : List Comment) : Draft :=
  let prepared := comments.map a.prepare
  (a.start module prepared).addAll a.rules prepared

/-- The documentation of a module with the given comments. -/
def assemble (a : Assembler) (module : Identity) (comments : List Comment) : ModuleDoc :=
  (a.draft module comments).finish

/-- What is reported while a module is documented. -/
def events (a : Assembler) (module : Identity) (comments : List Comment) : List Event :=
  let prepared := comments.map a.prepare
  let seed := a.seed module
  let registry := (a.draft module comments).registry
  Registry.seedEvents seed.classes seed.mixins ++
    (match a.resolution with
      | .singlePass => []
      | .twoPhase => Draft.registerOwnersEvents (Draft.ofDoc seed).registry prepared) ++
    (a.start module prepared).addAllEvents a.rules prepared ++
    [.debug (module.path ++ ": " ++ toString registry.classes.size ++ " classes, " ++
      toString registry.mixins.size ++ " mixins registered")]

end Assembler

end ModuleDocs
