import Paydesk.Json.Basic
import Paydesk.Text.Split

/-!
# Pointers

A pointer names a place inside a value: a slash before each name or index on the way to it. In a
name, `~1` stands for a slash and `~0` for a tilde. The empty pointer names the whole.
-/

namespace Paydesk.Json

/-- Puts a character in the place of a tilde and a given digit. -/
def replaceEscape (digit char : Char) : List Char → List Char
  | [] => []
  | [c] => [c]
  | a :: b :: rest =>
    if a = '~' ∧ b = digit then char :: replaceEscape digit char rest
    else a :: replaceEscape digit char (b :: rest)

/-- The name that a step of a pointer means. -/
def stepName (step : List Char) : List Char :=
  replaceEscape '0' '~' (replaceEscape '1' '/' step)

/-- The index that a step of a pointer means: digits without a leading zero. -/
def stepIndex? (step : List Char) : Option Nat :=
  match step with
  | ['0'] => some 0
  | '0' :: _ => none
  | [] => none
  | ds => if ds.all Char.isDigit then some (Text.digitsValue 0 ds) else none

/-- One step into a value. -/
def child? (step : List Char) : Json → Option Json
  | .object fields => Fields.get? (String.ofList step) fields
  | .array items => (stepIndex? step).bind fun i => items[i]?
  | _ => none

/-- The value at the end of a way. -/
def follow? : List (List Char) → Json → Option Json
  | [], j => some j
  | step :: steps, j => (child? step j).bind (follow? steps)

/-- The value at the place that a pointer names. -/
def at? (pointer : String) (j : Json) : Option Json :=
  match pointer.toList with
  | [] => some j
  | '/' :: rest => follow? ((Text.splitOn '/' rest).map stepName) j
  | _ => none

/-- The names of the fields in order, if the value is an object. -/
def names? : Json → Option (List String)
  | .object fields => some (fields.map fun field => field.1)
  | _ => none

end Paydesk.Json
