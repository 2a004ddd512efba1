import ModuleDocs.Json.Token

/-!
# Json — Skip

Passing over a value of any shape and depth.  Open lists and objects stand on a stack, so that
depth costs no recursion; only the syntax of what is passed over is looked at.
-/

namespace ModuleDocs.Json

/-- A list or an object that has been opened. -/
inductive Frame where
  | list | object
deriving DecidableEq, Repr

/-- What may come next. -/
inductive Phase where
  /-- A value must come. -/
  | value
  /-- A list or object has just been opened. -/
  | opened
  /-- An element of the innermost frame has ended. -/
  | closed
deriving DecidableEq, Repr

/-- Passes over the key of an object's next member and its colon. -/
def skipKey (s : Input) : Except Fault Input :=
  match skipSpace s with
  | [] => .error (.eof .object)
  | '"' :: s => do
    match skipSpace (← skipString s) with
    | [] => .error (.eof .object)
    | ':' :: s => .ok s
    | _ :: _ => .error .expectedColon
  | _ :: _ => .error .keyMustBeString

/-- Passes over a value that is neither a list nor an object. -/
def skipScalar (s : Input) : Except Fault Input :=
  match s with
  | 'n' :: s => readWord ['u', 'l', 'l'] s
  | 't' :: s => readWord ['r', 'u', 'e'] s
  | 'f' :: s => readWord ['a', 'l', 's', 'e'] s
  | '-' :: s => skipNumber s
  | '"' :: s => skipString s
  | c :: _ => if c.isDigit then skipNumber s else .error .expectedValue
  | [] => .error (.eof .value)

/-- The fault of a text that ends inside a frame. -/
def Frame.eof : Frame → Fault
  | .list => .eof .list
  | .object => .eof .object

/-- The character that closes a frame. -/
def Frame.closer : Frame → Char
  | .list => ']'
  | .object => '\x7d'

/-- The fault of an element that neither a comma nor the end of its frame follows. -/
def Frame.noComma : Frame → Fault
  | .list => .expectedListCommaOrEnd
  | .object => .expectedObjectCommaOrEnd

/-- Where the next element of a frame starts: after its key in an object. -/
def Frame.element (f : Frame) (s : Input) : Except Fault Input :=
  match f with
  | .list => .ok s
  | .object => skipKey s

/-- Passes over values until the stack is empty.  Every step reads a character or ends an element,
so twice the length of the text is fuel enough. -/
def skipFrames : Nat → Phase → List Frame → Input → Except Fault Input
  | 0, _, _, _ => .error (.eof .value)
  | fuel + 1, .value, stack, s =>
    match skipSpace s with
    | '[' :: s => skipFrames fuel .opened (.list :: stack) s
    | '\x7b' :: s => skipFrames fuel .opened (.object :: stack) s
    | s => do skipFrames fuel .closed stack (← skipScalar s)
  | _ + 1, .opened, [], s => .ok s
  | fuel + 1, .opened, f :: stack, s =>
    match skipSpace s with
    | [] => .error f.eof
    | c :: s =>
      if c = f.closer then skipFrames fuel .closed stack s
      else do skipFrames fuel .value (f :: stack) (← f.element (c :: s))
  | _ + 1, .closed, [], s => .ok s
  | fuel + 1, .closed, f :: stack, s =>
    match skipSpace s with
    | [] => .error f.eof
    | c :: s =>
      if c = ',' then do skipFrames fuel .value (f :: stack) (← f.element s)
      else if c = f.closer then skipFrames fuel .closed stack s
      else .error f.noComma

/-- Passes over one value. -/
def skipValue (s : Input) : Except Fault Input := skipFrames (2 * s.length + 2) .value [] s

end ModuleDocs.Json
