import ModuleDocs.Value
import ModuleDocs.Yaml.Scalar

/-!
# Yaml — Printer

Data as a YAML text in block style.  The elements of a list stand under the key of the list without
more indentation; empty lists and objects are written in brackets.
-/

namespace ModuleDocs.Yaml

mutual

/-- A value behind the sign or key it belongs to, from the blank on, with the end of its line.
`indent` is the indentation of what it belongs to. -/
def printAfter (indent : Nat) : Value → List Char
  | .bool true => " true\n".toList
  | .bool false => " false\n".toList
  | .number n => ' ' :: Nat.toDigits 10 n ++ ['\n']
  | .text s => ' ' :: textLine (indent + 2) s
  | .list [] => [' ', '[', ']', '\n']
  | .list (v :: vs) => '\n' :: printItems indent (v :: vs)
  | .object [] => [' ', '\x7b', '\x7d', '\n']
  | .object (m :: ms) => '\n' :: printMembers (indent + 2) (m :: ms)

/-- An element behind its dash; a list or an object starts on the line of the dash. -/
def printItem (indent : Nat) : Value → List Char
  | .list (v :: vs) => ' ' :: (printItems (indent + 2) (v :: vs)).drop (indent + 2)
  | .object (m :: ms) => ' ' :: (printMembers (indent + 2) (m :: ms)).drop (indent + 2)
  | .bool true => " true\n".toList
  | .bool false => " false\n".toList
  | .number n => ' ' :: Nat.toDigits 10 n ++ ['\n']
  | .text s => ' ' :: textLine (indent + 2) s
  | .list [] => [' ', '[', ']', '\n']
  | .object [] => [' ', '\x7b', '\x7d', '\n']

/-- The elements of a list, each behind a dash. -/
def printItems (indent : Nat) : List Value → List Char
  | [] => []
  | v :: vs => indentation indent ++ '-' :: printItem indent v ++ printItems indent vs

/-- The members of an object, each behind its key. -/
def printMembers (indent : Nat) : List (String × Value) → List Char
  | [] => []
  | (k, v) :: ms =>
    indentation indent ++ k.toList ++ ':' :: printAfter indent v ++ printMembers indent ms

end

/-- Data as a YAML text. -/
def print (v : Value) : String :=
  String.ofList <|
    match v with
    | .list (v :: vs) => printItems 0 (v :: vs)
    | .object (m :: ms) => printMembers 0 (m :: ms)
    | v => (printAfter 0 v).drop 1

end ModuleDocs.Yaml
