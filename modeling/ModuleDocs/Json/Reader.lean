import ModuleDocs.Json.Skip

/-!
# Json — Reader

Reading a JSON text straight into values, from left to right and in one pass: the first fault on
the way is the one that is reported.  A record is read from an object with its fields in any order
or from a list with its fields in their own order.
-/

namespace ModuleDocs.Json

/-- The fault of a value that is not of the expected shape.  A word, number or string is read
first, so that its own fault comes before that of the shape. -/
def mismatch (expected : String) (s : Input) : Fault :=
  let after {α : Type} (found : α → Found) : Except Fault α → Fault
    | .ok a => .invalidType (found a) expected
    | .error e => e
  match s with
  | 'n' :: s => after (fun _ => .null) (readWord ['u', 'l', 'l'] s)
  | 't' :: s => after (fun _ => .boolean true) (readWord ['r', 'u', 'e'] s)
  | 'f' :: s => after (fun _ => .boolean false) (readWord ['a', 'l', 's', 'e'] s)
  | '-' :: s => after (·.1.found) (readNumber true s)
  | '"' :: s => after (.string ·.1) (readString s)
  | '[' :: _ => .invalidType .sequence expected
  | '\x7b' :: _ => .invalidType .map expected
  | c :: _ => if c.isDigit then after (·.1.found) (readNumber false s) else .expectedValue
  | [] => .eof .value

/-- Reads a string. -/
def readText : Reader String := fun s =>
  match skipSpace s with
  | '"' :: s => readString s
  | s => .error (mismatch "a string" s)

/-- Reads `true` or `false`. -/
def readFlag : Reader Bool := fun s =>
  match skipSpace s with
  | 't' :: s => do .ok (true, ← readWord ['r', 'u', 'e'] s)
  | 'f' :: s => do .ok (false, ← readWord ['a', 'l', 's', 'e'] s)
  | s => .error (mismatch "a boolean" s)

/-- Reads `null` or a value. -/
def readOptional {α : Type} (read : Reader α) : Reader (Option α) := fun s =>
  match skipSpace s with
  | 'n' :: s => do .ok (none, ← readWord ['u', 'l', 'l'] s)
  | s => do
    let (a, s) ← read s
    .ok (some a, s)

/-! ### Lists -/

/-- Where the next element of a list starts, or `none` at its end. -/
def itemStart (first : Bool) (s : Input) : Except Fault (Option Input) :=
  match skipSpace s with
  | [] => .error (.eof .list)
  | ']' :: _ => .ok none
  | c :: s =>
    if first then .ok (some (c :: s))
    else if c = ',' then
      match skipSpace s with
      | [] => .error (.eof .value)
      | ']' :: _ => .error .trailingComma
      | s => .ok (some s)
    else .error .expectedListCommaOrEnd

/-- Passes over the end of a list of which no further element is wanted. -/
def listEnd (s : Input) : Except Fault Input :=
  match skipSpace s with
  | [] => .error (.eof .list)
  | ']' :: s => .ok s
  | ',' :: s =>
    match skipSpace s with
    | ']' :: _ => .error .trailingComma
    | _ => .error .trailingCharacters
  | _ :: _ => .error .trailingCharacters

/-- Reads the elements of a list up to its end.  Each takes a character, so the length of the text
is fuel enough. -/
def readItems {α : Type} (read : Reader α) : Nat → Bool → Reader (List α)
  | 0, _, _ => .error (.eof .list)
  | fuel + 1, first, s => do
    match ← itemStart first s with
    | none => .ok ([], s)
    | some s =>
      let (a, s) ← read s
      let (as, s) ← readItems read fuel false s
      .ok (a :: as, s)

/-- Reads a list. -/
def readList {α : Type} (read : Reader α) : Reader (List α) := fun s =>
  match skipSpace s with
  | '[' :: s => do
    let (as, s) ← readItems read (s.length + 1) true s
    .ok (as, ← listEnd s)
  | s => .error (mismatch "a sequence" s)

/-! ### Objects and records -/

/-- Where the next key of an object starts, behind its quote, or `none` at the object's end. -/
def memberStart (first : Bool) (s : Input) : Except Fault (Option Input) :=
  match skipSpace s with
  | [] => .error (.eof .object)
  | '\x7d' :: _ => .ok none
  | c :: s =>
    if first then
      if c = '"' then .ok (some s) else .error .keyMustBeString
    else if c = ',' then
      match skipSpace s with
      | [] => .error (.eof .value)
      | '"' :: s => .ok (some s)
      | '\x7d' :: _ => .error .trailingComma
      | _ :: _ => .error .keyMustBeString
    else .error .expectedObjectCommaOrEnd

/-- Passes over the colon behind a key. -/
def colon (s : Input) : Except Fault Input :=
  match skipSpace s with
  | [] => .error (.eof .object)
  | ':' :: s => .ok s
  | _ :: _ => .error .expectedColon

/-- A field of a record: its name and further spellings, whether it may be left out, and the
reader of its value, which says how to put the value into the record. -/
structure Field (σ : Type) where
  name : String
  aliases : List String := []
  required : Bool := false
  read : Reader (σ → σ)

/-- A record as it is read: its name, the record with every field left out, and its fields. -/
structure Schema (σ : Type) where
  name : String
  blank : σ
  fields : List (Field σ)

variable {σ : Type}

/-- The field of the given name or alias. -/
def Schema.field? (schema : Schema σ) (key : String) : Option (Field σ) :=
  schema.fields.find? fun f => f.name = key || f.aliases.contains key

/-- The record as faults name it. -/
def Schema.expected (schema : Schema σ) : String := "struct " ++ schema.name

/-- The record in its list form as faults name it. -/
def Schema.expectedLength (schema : Schema σ) : String :=
  "struct " ++ schema.name ++ " with " ++ toString schema.fields.length ++ " elements"

/-- The first required field that is not among those read. -/
def Schema.missing? (schema : Schema σ) (read : List String) : Option (Field σ) :=
  schema.fields.find? fun f => f.required && !read.contains f.name

/-- Reads the members of an object into a record of which the fields `read` have been read.  Each
member takes a character, so the length of the text is fuel enough. -/
def readMembers (schema : Schema σ) : Nat → Bool → σ → List String → Reader σ
  | 0, _, _, _, _ => .error (.eof .object)
  | fuel + 1, first, record, read, s => do
    match ← memberStart first s with
    | none =>
      match schema.missing? read with
      | some f => .error (.missingField f.name)
      | none => .ok (record, s)
    | some s =>
      let (key, s) ← readString s
      match schema.field? key with
      | some f =>
        if read.contains f.name then .error (.duplicateField f.name)
        else
          let (put, s) ← f.read (← colon s)
          readMembers schema fuel false (put record) (f.name :: read) s
      | none => readMembers schema fuel false record read (← skipValue (← colon s))

/-- Passes over the end of an object. -/
def objectEnd (s : Input) : Except Fault Input :=
  match skipSpace s with
  | '\x7d' :: s => .ok s
  | [] => .error (.eof .object)
  | _ :: _ => .error .trailingCharacters

/-- Reads the elements of a list into the fields of a record, of which `index` have been read.  A
list may end before fields that may be left out. -/
def readPositions (schema : Schema σ) : List (Field σ) → Nat → Bool → σ → Reader σ
  | [], _, _, record, s => .ok (record, s)
  | f :: fs, index, first, record, s => do
    match ← itemStart first s with
    | some s =>
      let (put, s) ← f.read s
      readPositions schema fs (index + 1) false (put record) s
    | none =>
      if f.required then .error (.invalidLength index schema.expectedLength)
      else readPositions schema fs (index + 1) first record s

/-- Reads a record from an object or a list. -/
def readRecord (schema : Schema σ) : Reader σ := fun s =>
  match skipSpace s with
  | '\x7b' :: s => do
    let (record, s) ← readMembers schema (s.length + 1) true schema.blank [] s
    .ok (record, ← objectEnd s)
  | '[' :: s => do
    let (record, s) ← readPositions schema schema.fields 0 true schema.blank s
    .ok (record, ← listEnd s)
  | s => .error (mismatch schema.expected s)

/-- Reads a choice, given by its name alone or by an object with its name as the only key and
`null` as its value. -/
def readChoice {α : Type} (choose : String → α) : Reader α := fun s =>
  match skipSpace s with
  | [] => .error (.eof .value)
  | '"' :: s => do
    let (name, s) ← readString s
    .ok (choose name, s)
  | '\x7b' :: s =>
    match skipSpace s with
    | '"' :: s => do
      let (name, s) ← readString s
      match skipSpace (← colon s) with
      | 'n' :: s =>
        match skipSpace (← readWord ['u', 'l', 'l'] s) with
        | '\x7d' :: s => .ok (choose name, s)
        | [] => .error (.eof .object)
        | _ :: _ => .error .expectedValue
      | s => .error (mismatch "unit" s)
    | [] => .error (.eof .value)
    | '\x7d' :: _ => .error .expectedValue
    | _ :: _ => .error .keyMustBeString
  | _ :: _ => .error .expectedValue

/-- Reads a whole text as one value. -/
def readWhole {α : Type} (read : Reader α) (text : String) : Except Fault α := do
  let (a, s) ← read text.toList
  if (skipSpace s).isEmpty then .ok a else .error .trailingCharacters

end ModuleDocs.Json
