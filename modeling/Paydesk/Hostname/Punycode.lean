/-!
# Names in basic characters

A label of a host name with characters beyond ASCII is carried in ASCII: its basic characters come
first, then the others in the order of their code points. Each of those is a number in digits of
base 36, which counts the steps from the character before it over all code points and places; where
a number ends follows from a threshold for each of its digits, which adapts to the numbers before.
-/

namespace Paydesk.Hostname.Punycode

/-! ## Digits and thresholds -/

/-- The digit of a number below 36: the letters, then the decimal digits. -/
def digit (n : Nat) : Char :=
  if n < 26 then Char.ofNat (97 + n) else Char.ofNat (22 + n)

def value? (c : Char) : Option Nat :=
  if 'a' ≤ c ∧ c ≤ 'z' then some (c.toNat - 97)
  else if '0' ≤ c ∧ c ≤ '9' then some (c.toNat - 22)
  else none

/-- A digit at a place is the last of its number if it is below the threshold. -/
def threshold (bias place : Nat) : Nat :=
  min 26 (max 1 (place - bias))

theorem threshold_pos (bias place : Nat) : 1 ≤ threshold bias place := by
  simp only [threshold]
  omega

/-- The distance between the places of two digits, and the base. -/
def base : Nat := 36

/-- The bias before the first number. -/
def firstBias : Nat := 72

/-- How often a number is divided by 35 until it is at most 455, and what is left. -/
def damped (n : Nat) : Nat × Nat :=
  if 455 < n then
    let more := damped (n / 35)
    (more.1 + 1, more.2)
  else (0, n)
termination_by n

/-- The bias after a number; `count` is the number of characters that are placed by then. -/
def adapted (number count : Nat) (isFirst : Bool) : Nat :=
  let half := if isFirst then number / 700 else number / 2
  let d := damped (half + half / count)
  base * d.1 + base * d.2 / (d.2 + 38)

/-! ## Writing -/

/-- The digits of a number, the lowest first. -/
def numberDigits (bias place n : Nat) : List Char :=
  let t := threshold bias place
  if n < t then [digit n]
  else
    digit (t + (n - t) % (base - t)) :: numberDigits bias (place + base) ((n - t) / (base - t))
termination_by n
decreasing_by
  have := threshold_pos bias place
  have := Nat.div_le_self (n - threshold bias place) (base - threshold bias place)
  omega

/-- What is written so far, the steps since the last number, and how many characters it places. -/
structure Writing where
  output : List Char
  steps : Nat
  bias : Nat
  count : Nat

/-- Passes over one character of the label, when the characters of code point `n` are placed. -/
def Writing.pass (basics n : Nat) (w : Writing) (c : Char) : Writing :=
  if c.toNat < n then { w with steps := w.steps + 1 }
  else if c.toNat = n then
    { output := w.output ++ numberDigits w.bias base w.steps
      steps := 0
      bias := adapted w.steps (w.count + 1) (w.count == basics)
      count := w.count + 1 }
  else w

/-- Places the characters of the given code points, which increase; `next` is the least code point
that is not passed yet. -/
def Writing.place (label : List Char) (basics : Nat) : Writing → Nat → List Nat → Writing
  | w, _, [] => w
  | w, next, n :: rest =>
    let start := { w with steps := w.steps + (n - next) * (w.count + 1) }
    let done := label.foldl (Writing.pass basics n) start
    place label basics { done with steps := done.steps + 1 } (n + 1) rest

/-- The code points in increasing order, each once. -/
def insertOnce (n : Nat) : List Nat → List Nat
  | [] => [n]
  | m :: rest =>
    if n < m then n :: m :: rest
    else if n = m then m :: rest
    else m :: insertOnce n rest

/-- A label in basic characters. -/
def encode (label : List Char) : List Char :=
  let basics := label.filter fun c => c.toNat < 0x80
  let others := (label.filter fun c => 0x80 ≤ c.toNat).map Char.toNat
  let codes := others.foldr insertOnce []
  let front := if basics.isEmpty then [] else basics ++ ['-']
  (Writing.place label basics.length ⟨front, 0, firstBias, basics.length⟩ 0x80 codes).output

/-! ## Reading -/

/-- The number at the head of the digits, added to `sum`, and how many digits follow it. -/
def readNumber? (bias : Nat) : List Char → Nat → Nat → Nat → Option (Nat × List Char)
  | [], _, _, _ => none
  | c :: rest, place, weight, sum => do
    let d ← value? c
    let t := threshold bias place
    if d < t then some (sum + d * weight, rest)
    else readNumber? bias rest (place + base) (weight * (base - t)) (sum + d * weight)

theorem readNumber?_shorter {bias place weight sum n : Nat} {digits rest : List Char}
    (h : readNumber? bias digits place weight sum = some (n, rest)) :
    rest.length < digits.length := by
  induction digits generalizing place weight sum with
  | nil => simp [readNumber?] at h
  | cons c more ih =>
    simp only [readNumber?, Option.bind_eq_bind, Option.bind_eq_some_iff] at h
    obtain ⟨d, -, hd⟩ := h
    split at hd
    · simp only [Option.some.injEq, Prod.mk.injEq] at hd
      simp [← hd.2]
    · have := ih hd
      simp only [List.length_cons]
      omega

/-- The largest sum of steps that a label may reach. -/
def maxSteps : Nat := 0xFFFFFFFF

/-- Places one character for each number. The steps of a number count from the code point `next` and
the place `start`. -/
def readOthers? (bias next start : Nat) (placed : List Char) (digits : List Char) :
    Option (List Char) :=
  match digits with
  | [] => some placed
  | c :: rest =>
    match h : readNumber? bias (c :: rest) base 1 start with
    | none => none
    | some (sum, more) =>
      let count := placed.length + 1
      let code := next + sum / count
      let place := sum % count
      if sum ≤ maxSteps ∧ code.isValidChar then
        readOthers? (adapted (sum - start) count (start == 0)) code (place + 1)
          (placed.insertIdx place (Char.ofNat code)) more
      else none
termination_by digits.length
decreasing_by
  have := readNumber?_shorter h
  simpa using this

/-- The label that basic characters carry. A minus sign that nothing stands before divides nothing,
and it is no digit. -/
def decode? (cs : List Char) : Option (List Char) :=
  let digits := (cs.reverse.takeWhile fun c => c != '-').reverse
  match cs.take (cs.length - digits.length) with
  | ['-'] => none
  | front => readOthers? firstBias 0x80 0 front.dropLast digits

end Paydesk.Hostname.Punycode
