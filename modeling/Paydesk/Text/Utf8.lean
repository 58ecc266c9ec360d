/-!
# UTF-8

Bytes read as text. A sequence of bytes that no character is written as is found as the longest run
that could have begun a character, so that a reader may refuse it or put one replacement character
in its place.
-/

namespace Paydesk.Text.Utf8

/-- A byte that may follow the second one of a character. -/
def isTail (b : UInt8) : Bool :=
  0x80 ≤ b && b ≤ 0xBF

/-- A byte that may come second after the given first one. -/
def mayFollow (first second : UInt8) : Bool :=
  if first == 0xE0 then 0xA0 ≤ second && second ≤ 0xBF
  else if first == 0xED then 0x80 ≤ second && second ≤ 0x9F
  else if first == 0xF0 then 0x90 ≤ second && second ≤ 0xBF
  else if first == 0xF4 then 0x80 ≤ second && second ≤ 0x8F
  else isTail second

/-- How many bytes a character has that begins with this one; zero if none does. -/
def width (first : UInt8) : Nat :=
  if first < 0x80 then 1
  else if first < 0xC2 then 0
  else if first < 0xE0 then 2
  else if first < 0xF0 then 3
  else if first < 0xF5 then 4
  else 0

/-- The six bits of a byte after the first. -/
def tailBits (b : UInt8) : Nat :=
  b.toNat % 64

/-- The character at the head of the bytes, and how many bytes after the first belong to it. -/
def head (first : UInt8) (rest : List UInt8) : Option Char × Nat :=
  match width first, rest with
  | 1, _ => (some (Char.ofNat first.toNat), 0)
  | 2, b :: _ =>
    if isTail b then (some (Char.ofNat (first.toNat % 32 * 64 + tailBits b)), 1) else (none, 0)
  | 3, b :: more =>
    if mayFollow first b then
      match more with
      | c :: _ =>
        if isTail c then
          (some (Char.ofNat ((first.toNat % 16 * 64 + tailBits b) * 64 + tailBits c)), 2)
        else (none, 1)
      | [] => (none, 1)
    else (none, 0)
  | 4, b :: more =>
    if mayFollow first b then
      match more with
      | c :: d :: _ =>
        if isTail c then
          if isTail d then
            (some (Char.ofNat (((first.toNat % 8 * 64 + tailBits b) * 64 + tailBits c) * 64 +
              tailBits d)), 3)
          else (none, 2)
        else (none, 1)
      | [c] => if isTail c then (none, 2) else (none, 1)
      | [] => (none, 1)
    else (none, 0)
  | _, _ => (none, 0)

/-- The characters of the bytes in order, `none` for each run that is no character. -/
def pieces : List UInt8 → List (Option Char)
  | [] => []
  | first :: rest =>
    let step := head first rest
    step.1 :: pieces (rest.drop step.2)
termination_by bytes => bytes.length
decreasing_by simp only [List.length_drop, List.length_cons]; omega

/-- The text that the bytes are, if they are one. -/
def decode? (bytes : List UInt8) : Option String :=
  ((pieces bytes).mapM id).map String.ofList

/-- The text of the bytes with a replacement character for each run that is no character. -/
def decodeReplacing (bytes : List UInt8) : String :=
  String.ofList ((pieces bytes).map fun c => c.getD '\uFFFD')

def encode (s : String) : List UInt8 :=
  s.toUTF8.data.toList

end Paydesk.Text.Utf8
