/-!
# Value

Plain data as it is written out: the same tree is printed as JSON, as YAML and as TOML.  The
members of an object keep the order in which they are given.
-/

namespace ModuleDocs

/-- Plain data. -/
inductive Value where
  | bool (b : Bool)
  | number (n : Nat)
  | text (s : String)
  | list (items : List Value)
  | object (members : List (String × Value))
deriving Repr

namespace Value

/-- The list of texts. -/
def texts (ss : List String) : Value := .list (ss.map .text)

/-- The member, if there is a value for it. -/
def member? (key : String) (v : Option Value) : List (String × Value) :=
  match v with
  | some v => [(key, v)]
  | none => []

end Value

end ModuleDocs
