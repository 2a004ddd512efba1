/-!
# Ignore — Pattern

The patterns of ignore files.  `?`, `*` and `[…]` stay within a file name, `**` goes across
directories where it is a component by itself, `{a,b}` stands for either of its branches and a
backslash takes the next character as it is.  Patterns and paths are compared byte by byte.
-/

namespace ModuleDocs.Ignore

/-- One step of a pattern. -/
inductive Token where
  | byte (b : UInt8)
  /-- Any byte but a slash. -/
  | any
  /-- Any bytes but slashes. -/
  | run
  /-- Any directories in front of the path. -/
  | leading
  /-- Anything below the directory so far. -/
  | inside
  /-- The directory so far, and any directories below it. -/
  | between
  | oneOf (negated : Bool) (ranges : List (UInt8 × UInt8))
  /-- One of the branches; without branches, nothing. -/
  | either (branches : List (List Token))
deriving Repr

/-- A pattern. -/
abbrev Pattern := List Token

/-! ### Reading patterns -/

/-- The bytes of a character. -/
def bytes (c : Char) : List UInt8 := (String.singleton c).toUTF8.toList

/-- The bytes of a character as tokens. -/
def literal (c : Char) : List Token := (bytes c).map .byte

/-- The byte of the slash. -/
def slash : UInt8 := 47

/-- The ranges of bytes for a range of characters.  The range lies between the last byte of its
first character and the first byte of its last one; the other bytes stand by themselves. -/
def byteRanges (a b : Char) : List (UInt8 × UInt8) :=
  if a = b then (bytes a).map fun x => (x, x)
  else
    let front := (bytes a).dropLast.map fun x => (x, x)
    let back := (bytes b).tail.map fun x => (x, x)
    match (bytes a).getLast?, (bytes b).head? with
    | some x, some y => front ++ (x, y) :: back
    | _, _ => front ++ back

/-- How reading a class ends. -/
inductive ClassEnd where
  | closed (ranges : List (Char × Char)) (rest : List Char)
  | unclosed
  | disordered

/-- Reads a class up to its closing bracket.  `dash` says that a range is open. -/
def classRanges (ranges : List (Char × Char)) (first dash : Bool) : List Char → ClassEnd
  | [] => .unclosed
  | c :: cs =>
    if c = ']' && !first then
      .closed (if dash then ('-', '-') :: ranges else ranges) cs
    else if c = '-' && !first && !dash then classRanges ranges false true cs
    else
      match dash, ranges with
      | true, (a, _) :: before =>
        if c < a then .disordered else classRanges ((a, c) :: before) false false cs
      | _, ranges => classRanges ((c, c) :: ranges) false false cs

/-- A class, behind its opening bracket. -/
def classOf (cs : List Char) : Bool × ClassEnd :=
  match cs with
  | '!' :: cs | '^' :: cs => (true, classRanges [] true false cs)
  | cs => (false, classRanges [] true false cs)

/-- The branch holds nothing. -/
def isVacuous (branch : List Token) : Bool :=
  branch.all fun t => match t with
    | .either [] => true
    | _ => false

/-- What two stars become, and the text behind them.  `taken` holds the tokens before, the latest
first, and `previous` is the character before. -/
def stars (grouped : Bool) (previous : Option Char) (taken : List Token) (cs : List Char) :
    List Token × List Char :=
  let plain := (.run :: .run :: taken, cs)
  match taken with
  | [] =>
    match cs with
    | [] => ([.leading], [])
    | '/' :: rest => ([.leading], rest)
    | _ => plain
  | last :: before =>
    let opens := previous = some '/' ||
      (grouped && (previous = some ',' || previous = some '\x7b'))
    let replace (t : Token) : List Token :=
      match last with
      | .leading => taken
      | .inside => taken
      | _ => t :: before
    if !opens then plain
    else
      match cs with
      | [] => (replace .inside, [])
      | '/' :: rest => (replace .between, rest)
      | c :: _ => if grouped && (c = ',' || c = '\x7d') then (replace .inside, cs) else plain

/-- Reads the branches of a pattern or of a group.  `done` holds the finished branches and `taken`
the tokens of the current one, both the latest first. -/
def branches? :
    Nat → Bool → Option Char → List (List Token) → List Token → List Char →
      Option (List (List Token) × List Char)
  | 0, _, _, _, _, _ => none
  | n + 1, grouped, previous, done, taken, cs =>
    let finish (rest : List Char) := some ((taken.reverse :: done).reverse, rest)
    let next (c : Char) (more : List Token) (rest : List Char) :=
      branches? n grouped (some c) done (more.reverse ++ taken) rest
    match cs with
    | [] => if grouped then none else finish []
    | '?' :: cs => next '?' [.any] cs
    | '*' :: '*' :: cs =>
      let (taken, rest) := stars grouped previous taken cs
      branches? n grouped (some (if rest.length < cs.length then '/' else '*')) done taken rest
    | '*' :: cs => next '*' [.run] cs
    | '[' :: cs =>
      match classOf cs with
      | (negated, .closed ranges rest) =>
        next ']' [.oneOf negated (ranges.flatMap fun (a, b) => byteRanges a b)] rest
      | (_, .unclosed) => next '[' (literal '[') cs
      | (_, .disordered) => none
    | '\x7b' :: cs => do
      let (branches, rest) ← branches? n true (some '\x7b') [] [] cs
      next '\x7d' [.either (branches.filter (!isVacuous ·))] rest
    | '\x7d' :: cs => if grouped then finish cs else none
    | ',' :: cs =>
      if grouped then branches? n true (some ',') (taken.reverse :: done) [] cs
      else next ',' (literal ',') cs
    | '\\' :: c :: cs => next c (literal c) cs
    | ['\\'] => none
    | c :: cs => next c (literal c) cs

/-- The pattern that a text writes, if it is one. -/
def Pattern.read? (cs : List Char) : Option Pattern :=
  (branches? (cs.length + 1) false none [] [] cs).bind fun (branches, _) => branches.head?

/-! ### Matching -/

/-- All ends of a path, from the whole to the empty one. -/
def ends : List UInt8 → List (List UInt8)
  | [] => [[]]
  | b :: bs => (b :: bs) :: ends bs

/-- The ends of a path that a slash comes before. -/
def pastSlashes : List UInt8 → List (List UInt8)
  | [] => []
  | b :: bs => if b = slash then bs :: pastSlashes bs else pastSlashes bs

/-- The ends of a path that no slash comes before. -/
def pastRun : List UInt8 → List (List UInt8)
  | [] => [[]]
  | b :: bs => if b = slash then [b :: bs] else (b :: bs) :: pastRun bs

mutual

/-- What a token may leave of a path. -/
def Token.rests : Token → List UInt8 → List (List UInt8)
  | .byte a, b :: bs => if a = b then [bs] else []
  | .any, b :: bs => if b = slash then [] else [bs]
  | .run, bs => pastRun bs
  | .leading, bs => bs :: pastSlashes bs
  | .inside, b :: bs => if b = slash then ends bs else []
  | .between, b :: bs => if b = slash then bs :: pastSlashes bs else []
  | .oneOf negated ranges, b :: bs =>
    if ranges.any (fun (x, y) => x ≤ b && b ≤ y) ≠ negated then [bs] else []
  | .either [], bs => [bs]
  | .either (branch :: branches), bs => restsOfAll branch bs ++ restsOfAny branches bs
  | _, [] => []

/-- What tokens in a row may leave of a path. -/
def restsOfAll : List Token → List UInt8 → List (List UInt8)
  | [], bs => [bs]
  | t :: ts, bs => (t.rests bs).flatMap fun rest => restsOfAll ts rest

/-- What one of several branches may leave of a path. -/
def restsOfAny : List (List Token) → List UInt8 → List (List UInt8)
  | [], _ => []
  | branch :: branches, bs => restsOfAll branch bs ++ restsOfAny branches bs

end

/-- The pattern fits the whole path; two stars alone fit every path. -/
def Pattern.fits (p : Pattern) (path : List UInt8) : Bool :=
  match p with
  | [.leading] => true
  | p => (restsOfAll p path).any (·.isEmpty)

end ModuleDocs.Ignore
