import ModuleDocs.Toml.Scalar

/-!
# Toml — Reader

Documents in TOML.  A document is a sequence of lines: headers, which open a table or add one to a
list of tables, and assignments into the table that is open.  A table is defined once; dotted keys
and headers may go through tables that have only been mentioned.
-/

namespace ModuleDocs.Toml

/-! ### Keys and values -/

/-- A character of a key without quotes. -/
def isKeyChar (c : Char) : Bool := c.isAlphanum || c == '_' || c == '-'

/-- One part of a key. -/
def keyPart? (cs : List Char) : Option (String × List Char) :=
  match lineText? cs with
  | some (key, rest) => some (String.ofList key, rest)
  | none =>
    let key := cs.takeWhile isKeyChar
    if key.isEmpty then none else some (String.ofList key, cs.drop key.length)

/-- A key: parts with points between them. -/
def key? : Nat → List Char → Option (List String × List Char)
  | 0, _ => none
  | n + 1, cs => do
    let (part, rest) ← keyPart? (skipSpace cs)
    match skipSpace rest with
    | '.' :: more => (key? n more).map fun (parts, rest) => (part :: parts, rest)
    | rest => some ([part], rest)

/-- How a table has come to be. -/
inductive Standing where
  /-- Mentioned on the way to another table. -/
  | mentioned
  /-- Made by a dotted key. -/
  | dotted
  /-- Defined by a header. -/
  | defined
deriving DecidableEq, Repr

/-- A part of a document under reading.  A list of tables has its newest first. -/
inductive Node where
  | value (d : Datum Unit)
  | table (standing : Standing) (members : List (String × Node))
  | tables (newest : List (String × Node)) (older : List (List (String × Node)))

/-- The members of a table. -/
abbrev Members := List (String × Node)

/-- Replaces a member. -/
def Members.replace (ms : Members) (k : String) (node : Node) : Members :=
  ms.map fun (k', old) => if k' = k then (k', node) else (k', old)

mutual

/-- The datum of a part of a document. -/
def Node.datum : Node → Datum Unit
  | .value d => d
  | .table _ members => .table () (Node.sorted members)
  | .tables newest older => .list () (Node.lists older ++ [.table () (Node.sorted newest)])

/-- Members as data, sorted. -/
def Node.sorted : List (String × Node) → List (String × Datum Unit)
  | [] => []
  | (k, node) :: ms => Datum.insertMember k node.datum (Node.sorted ms)

/-- The older tables of a list as data, the oldest first. -/
def Node.lists : List (List (String × Node)) → List (Datum Unit)
  | [] => []
  | ms :: older => Node.lists older ++ [.table () (Node.sorted ms)]

end

/-- Assigns to a dotted key in a table.  `dotted` says that a dotted key has led to the table and
that the table was made by one; a dotted key may end in no other table. -/
def assign (d : Datum Unit) (dotted : Option Bool) (ms : Members) : List String → Option Members
  | [] => none
  | [k] =>
    if dotted = some false || (ms.lookup k).isSome then none else some (ms ++ [(k, .value d)])
  | k :: path =>
    match ms.lookup k with
    | none => (assign d (some true) [] path).map fun inner => ms ++ [(k, .table .dotted inner)]
    | some (.table .dotted inner) =>
      (assign d (some true) inner path).map fun inner => ms.replace k (.table .dotted inner)
    | some (.table .mentioned inner) =>
      (assign d (some false) inner path).map fun inner => ms.replace k (.table .mentioned inner)
    | some (.tables newest older) =>
      (assign d (some false) newest path).map fun newest => ms.replace k (.tables newest older)
    | some _ => none

/-- A key, its sign and its value. -/
def assignment? (value : List Char → Option (Datum Unit × List Char)) (cs : List Char) :
    Option (List String × Datum Unit × List Char) := do
  let (path, rest) ← key? (cs.length + 1) cs
  let '=' :: rest := rest | failure
  let (d, rest) ← value (skipSpace rest)
  some (path, d, rest)

/-- The assignments of a table in braces, behind the opening one or a comma. -/
def inlineMembers? (value : List Char → Option (Datum Unit × List Char)) :
    Nat → Members → List Char → Option (Members × List Char)
  | 0, _, _ => none
  | n + 1, ms, cs => do
    let (path, d, rest) ← assignment? value cs
    let ms ← assign d none ms path
    match skipSpace rest with
    | ',' :: rest => inlineMembers? value n ms rest
    | '\x7d' :: rest => some (ms, rest)
    | _ => none

/-- The text behind a comment, if one stands here; its line's end stays. -/
def behindComment? (cs : List Char) : Option (List Char) :=
  match cs with
  | '#' :: rest =>
    let after := rest.dropWhile (!isControl ·)
    if after.isEmpty || (behindNewline? after).isSome then some after else none
  | cs => some cs

/-- The text behind white space, comments and line ends. -/
def skipFiller : Nat → List Char → Option (List Char)
  | 0, cs => some cs
  | n + 1, cs => do
    let rest ← behindComment? (skipSpace cs)
    match behindNewline? rest with
    | some rest => skipFiller n rest
    | none => some rest

/-- The elements of a list, behind the opening bracket or a comma. -/
def items? (value : List Char → Option (Datum Unit × List Char)) :
    Nat → List (Datum Unit) → List Char → Option (List (Datum Unit) × List Char)
  | 0, _, _ => none
  | n + 1, taken, cs => do
    match ← skipFiller cs.length cs with
    | ']' :: rest => some (taken.reverse, rest)
    | cs =>
      let (d, rest) ← value cs
      match ← skipFiller rest.length rest with
      | ',' :: rest => items? value n (d :: taken) rest
      | ']' :: rest => some ((d :: taken).reverse, rest)
      | _ => none

/-- The deepest nesting of values. -/
def deepest : Nat := 80

/-- A value of a bounded depth. -/
def value? : Nat → List Char → Option (Datum Unit × List Char)
  | 0, _ => none
  | depth + 1, cs =>
    match cs with
    | '[' :: rest =>
      if depth = 0 then none
      else
        (items? (value? depth) (rest.length + 1) [] rest).map fun (ds, rest) => (.list () ds, rest)
    | '\x7b' :: rest =>
      if depth = 0 then none
      else
        match skipSpace rest with
        | '\x7d' :: rest => some (.table () [], rest)
        | rest =>
          (inlineMembers? (value? depth) (rest.length + 1) [] rest).map fun (ms, rest) =>
            (.table () (Node.sorted ms), rest)
    | cs => scalar? cs

/-! ### Documents -/

/-- Defines the table of a header. -/
def define (ms : Members) : List String → Option Members
  | [] => none
  | [k] =>
    match ms.lookup k with
    | none => some (ms ++ [(k, .table .defined [])])
    | some (.table .mentioned inner) => some (ms.replace k (.table .defined inner))
    | some _ => none
  | k :: path =>
    match ms.lookup k with
    | none => (define [] path).map fun inner => ms ++ [(k, .table .mentioned inner)]
    | some (.table standing inner) =>
      (define inner path).map fun inner => ms.replace k (.table standing inner)
    | some (.tables newest older) =>
      (define newest path).map fun newest => ms.replace k (.tables newest older)
    | some (.value _) => none

/-- Adds the table of a header to a list of tables. -/
def extend (ms : Members) : List String → Option Members
  | [] => none
  | [k] =>
    match ms.lookup k with
    | none => some (ms ++ [(k, .tables [] [])])
    | some (.tables newest older) => some (ms.replace k (.tables [] (newest :: older)))
    | some _ => none
  | k :: path =>
    match ms.lookup k with
    | none => (extend [] path).map fun inner => ms ++ [(k, .table .mentioned inner)]
    | some (.table standing inner) =>
      (extend inner path).map fun inner => ms.replace k (.table standing inner)
    | some (.tables newest older) =>
      (extend newest path).map fun newest => ms.replace k (.tables newest older)
    | some (.value _) => none

/-- Changes the open table, which the path of its header leads to. -/
def inOpen (change : Members → Option Members) (ms : Members) : List String → Option Members
  | [] => change ms
  | k :: path =>
    match ms.lookup k with
    | some (.table standing inner) =>
      (inOpen change inner path).map fun inner => ms.replace k (.table standing inner)
    | some (.tables newest older) =>
      (inOpen change newest path).map fun newest => ms.replace k (.tables newest older)
    | _ => none

/-- The text behind the end of a line, on which nothing but a comment may be left. -/
def behindLine? (cs : List Char) : Option (List Char) := do
  let rest ← behindComment? (skipSpace cs)
  if rest.isEmpty then some [] else behindNewline? rest

/-- Reads lines into a document; `header` leads to the open table. -/
def lines? : Nat → Members → List String → List Char → Option Members
  | 0, ms, _, _ => some ms
  | n + 1, ms, header, cs =>
    match skipSpace cs with
    | [] => some ms
    | '[' :: '[' :: rest => do
      let (path, rest) ← key? (rest.length + 1) rest
      let ']' :: ']' :: rest := rest | failure
      lines? n (← extend ms path) path (← behindLine? rest)
    | '[' :: rest => do
      let (path, rest) ← key? (rest.length + 1) rest
      let ']' :: rest := rest | failure
      lines? n (← define ms path) path (← behindLine? rest)
    | c :: rest =>
      if c = '#' || c = '\n' || c = '\r' then
        (behindLine? (c :: rest)).bind fun rest => lines? n ms header rest
      else do
        let (path, d, rest) ← assignment? (value? deepest) (c :: rest)
        lines? n (← inOpen (fun inner => assign d none inner path) ms header) header
          (← behindLine? rest)

/-- The table that a document writes; nothing if it is not TOML. -/
def read? (s : String) : Option (Datum Unit) :=
  let cs := match s.toList with
    | '\ufeff' :: cs => cs
    | cs => cs
  (lines? (cs.length + 1) [] [] cs).map fun ms => .table () (Node.sorted ms)

end ModuleDocs.Toml
