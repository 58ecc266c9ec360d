import Paydesk.Json.Basic
import Paydesk.Text.Hex

/-!
# Printed values

The compact text of a value: no blanks, and escapes only where the format demands them.
-/

namespace Paydesk.Json

/-- How a character is written in a text. -/
def escaped (c : Char) : List Char :=
  if c = '\x22' then ['\\', '\x22']
  else if c = '\\' then ['\\', '\\']
  else if c = '\x08' then ['\\', 'b']
  else if c = '\x0c' then ['\\', 'f']
  else if c = '\n' then ['\\', 'n']
  else if c = '\r' then ['\\', 'r']
  else if c = '\t' then ['\\', 't']
  else if c.toNat < 0x20 then ['\\', 'u'] ++ Text.Hex.padded 4 c.toNat
  else [c]

/-- A text in quotes. -/
def quotedChars (s : String) : List Char :=
  '\x22' :: s.toList.flatMap escaped ++ ['\x22']

mutual

/-- The characters of a value, in front of what follows it. -/
def printOnto : Json → List Char → List Char
  | .null, rest => 'n' :: 'u' :: 'l' :: 'l' :: rest
  | .bool true, rest => 't' :: 'r' :: 'u' :: 'e' :: rest
  | .bool false, rest => 'f' :: 'a' :: 'l' :: 's' :: 'e' :: rest
  | .number n, rest => n.toText.toList ++ rest
  | .string s, rest => quotedChars s ++ rest
  | .array items, rest => '[' :: printItems items (']' :: rest)
  | .object fields, rest => '\x7b' :: printFields fields ('\x7d' :: rest)

/-- The items of an array with commas between them. -/
def printItems : List Json → List Char → List Char
  | [], rest => rest
  | [item], rest => printOnto item rest
  | item :: items, rest => printOnto item (',' :: printItems items rest)

/-- The fields of an object with commas between them. -/
def printFields : List (String × Json) → List Char → List Char
  | [], rest => rest
  | [(name, value)], rest => quotedChars name ++ ':' :: printOnto value rest
  | (name, value) :: fields, rest =>
    quotedChars name ++ ':' :: printOnto value (',' :: printFields fields rest)

end

def print (j : Json) : String :=
  String.ofList (printOnto j [])

end Paydesk.Json
