import Std.Data.HashMap

/-!
# Assembly — Table

Entries in the order in which their names first came, with an index from each name to the slot of
its entry.  A name keeps its slot: an entry that comes again replaces the earlier one in place.
-/

namespace ModuleDocs

/-- Named entries in the order of their first insertion. -/
structure Table (α : Type) where
  entries : Array α := #[]
  slots : Std.HashMap String Nat := {}

namespace Table

variable {α : Type}

/-- There is an entry of the given name. -/
def contains (t : Table α) (name : String) : Bool := t.slots.contains name

/-- The entry of the given name. -/
def get? (t : Table α) (name : String) : Option α := t.slots[name]? >>= fun i => t.entries[i]?

/-- Puts an entry in the slot of its name, which is a new one at the end if the name has none. -/
def upsert (t : Table α) (name : String) (a : α) : Table α :=
  match t.slots[name]? with
  | some i => { t with entries := t.entries.setIfInBounds i a }
  | none => { entries := t.entries.push a, slots := t.slots.insert name t.entries.size }

/-- Changes the entry of the given name, if there is one. -/
def modify (t : Table α) (name : String) (f : α → α) : Table α :=
  match t.slots[name]? with
  | some i => { t with entries := t.entries.modify i f }
  | none => t

/-- The number of entries. -/
def size (t : Table α) : Nat := t.entries.size

/-- The entries in slot order. -/
def toList (t : Table α) : List α := t.entries.toList

end Table

end ModuleDocs
