/-!
# Datum

Data as it is read from a settings file or the environment.  Every part knows where it comes from:
`Datum ω` carries an origin of type `ω` at each node.  The members of a table are sorted by key, and
`Datum.merge` lays one datum over another, table by table.
-/

namespace ModuleDocs

/-- A datum without parts.  Whole numbers remember whether they could be negative where they were
written. -/
inductive Scalar where
  | text (s : String)
  | bool (b : Bool)
  | signed (n : Int)
  | unsigned (n : Nat)
  | float (x : Float)
  | char (c : Char)
deriving Repr, Inhabited

/-- Data with origins of type `ω`. -/
inductive Datum (ω : Type) where
  | scalar (origin : ω) (s : Scalar)
  | list (origin : ω) (items : List (Datum ω))
  | table (origin : ω) (members : List (String × Datum ω))
deriving Repr, Inhabited

namespace Datum

variable {ω ψ : Type}

/-- Where the datum comes from. -/
def origin : Datum ω → ω
  | .scalar o _ | .list o _ | .table o _ => o

mutual

/-- The datum with one origin at every node. -/
def withOrigin (o : ψ) : Datum ω → Datum ψ
  | .scalar _ s => .scalar o s
  | .list _ items => .list o (itemsWithOrigin o items)
  | .table _ members => .table o (membersWithOrigin o members)

/-- Items with one origin at every node. -/
def itemsWithOrigin (o : ψ) : List (Datum ω) → List (Datum ψ)
  | [] => []
  | d :: ds => d.withOrigin o :: itemsWithOrigin o ds

/-- Members with one origin at every node. -/
def membersWithOrigin (o : ψ) : List (String × Datum ω) → List (String × Datum ψ)
  | [] => []
  | (k, d) :: ms => (k, d.withOrigin o) :: membersWithOrigin o ms

end

/-- Puts a member in its place among sorted members, over an earlier one of its key. -/
def insertMember (k : String) (d : Datum ω) : List (String × Datum ω) → List (String × Datum ω)
  | [] => [(k, d)]
  | (k', d') :: ms =>
    if k < k' then (k, d) :: (k', d') :: ms
    else if k = k' then (k, d) :: ms
    else (k', d') :: insertMember k d ms

mutual

/-- The first datum with the second one laid over it. -/
def merge (lower : Datum ω) : Datum ω → Datum ω
  | .table o upper =>
    match lower with
    | .table _ members => .table o (mergeMembers members upper)
    | _ => .table o upper
  | upper => upper

/-- Members with others laid over them. -/
def mergeMembers (lower : List (String × Datum ω)) :
    List (String × Datum ω) → List (String × Datum ω)
  | [] => lower
  | (k, d) :: ms =>
    let merged := match lower.lookup k with
      | some old => old.merge d
      | none => d
    mergeMembers (insertMember k merged lower) ms

end

end Datum

end ModuleDocs
