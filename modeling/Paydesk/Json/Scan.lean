import Paydesk.Json.Basic
import Paydesk.Text.Hex
import Paydesk.Text.Utf8

/-!
# Scanned documents

What the text of a document says, before anyone asks whether it is what was wanted. A fault in the
text does not end the scan with a refusal: it leaves a container that is not closed, or a place
where no value could be read, and the parts before it stay. A reader that looks for fields in order
thus finds the first fault of either kind, of the text or of its meaning, where it stands.

A document may come as bytes. Bytes that are no character are a fault like half a surrogate pair: in
a text, and only for a reader of that text.
-/

namespace Paydesk.Json

/-- A document as it was scanned. A number is missing if no double is that large, a text if it holds
half a surrogate pair or bytes that are no character; the rest of the document is still well formed
then. -/
inductive Doc where
  | null
  | bool (b : Bool)
  | number (n : Option Number)
  | string (s : Option String)
  | array (items : List Doc) (closed : Bool)
  | object (entries : List (Option String × Doc)) (closed : Bool)
  | broken

namespace Doc

instance : Inhabited Doc := ⟨.broken⟩

/-- White space between the parts of a document. -/
def isSpace (c : Char) : Bool :=
  c = ' ' || c = '\n' || c = '\t' || c = '\r'

def skipSpace (cs : List Char) : List Char :=
  cs.dropWhile isSpace

/-- Stands for bytes that are no character. -/
def gap : Char := '\x00'

/-- A character as it is scanned. No document may hold the character of the gap, nor the one that
comes in its place. -/
def barred (c : Char) : Char :=
  if c = gap then '\x01' else c

/-! ## Texts -/

/-- The code unit of four hexadecimal digits. -/
def codeUnit? : List Char → Option (Nat × List Char)
  | a :: b :: c :: d :: rest => do
    let a ← Text.Hex.value? a
    let b ← Text.Hex.value? b
    let c ← Text.Hex.value? c
    let d ← Text.Hex.value? d
    some (((a * 16 + b) * 16 + c) * 16 + d, rest)
  | _ => none

/-- The first half of a surrogate pair. -/
def isHighHalf (n : Nat) : Bool :=
  0xD800 ≤ n && n < 0xDC00

/-- The second half of a surrogate pair. -/
def isLowHalf (n : Nat) : Bool :=
  0xDC00 ≤ n && n < 0xE000

/-- The character of the escape after a backslash, other than one by code unit. -/
def plainEscape? (c : Char) : Option Char :=
  if c = '\x22' ∨ c = '\\' ∨ c = '/' then some c
  else if c = 'b' then some '\x08'
  else if c = 'f' then some '\x0c'
  else if c = 'n' then some '\n'
  else if c = 'r' then some '\r'
  else if c = 't' then some '\t'
  else none

/-- The character of an escape by code unit, `none` for half a surrogate pair, and what follows. -/
def unitEscape? (cs : List Char) : Option (Option Char × List Char) := do
  let (n, rest) ← codeUnit? cs
  if isHighHalf n then
    match rest with
    | '\\' :: 'u' :: more =>
      let (m, after) ← codeUnit? more
      if isLowHalf m then
        some (some (Char.ofNat (0x10000 + (n - 0xD800) * 0x400 + (m - 0xDC00))), after)
      else some (none, rest)
    | _ => some (none, rest)
  else if isLowHalf n then some (none, rest)
  else some (some (Char.ofNat n), rest)

/-- The characters up to the closing quote, in reverse, and whether all of them exist. -/
def scanText : Nat → List Char → List Char → Bool → Option (Option String × List Char)
  | 0, _, _, _ => none
  | _, [], _, _ => none
  | fuel + 1, c :: rest, done, whole =>
    if c = '\x22' then
      some (if whole then some (String.ofList done.reverse) else none, rest)
    else if c = '\\' then
      match rest with
      | [] => none
      | e :: more =>
        if e = 'u' then
          match unitEscape? more with
          | none => none
          | some (some ch, after) => scanText fuel after (ch :: done) whole
          | some (none, after) => scanText fuel after done false
        else
          match plainEscape? e with
          | none => none
          | some ch => scanText fuel more (ch :: done) whole
    else if c = gap then scanText fuel rest done false
    else if c.toNat < 0x20 then none
    else scanText fuel rest (c :: done) whole

/-! ## Numbers -/

/-- The digits of a whole number: a single zero, or digits that do not begin with one. -/
def wholeDigits? (cs : List Char) : Option (List Char × List Char) :=
  let digits := cs.takeWhile Char.isDigit
  match digits with
  | [] => none
  | '0' :: _ :: _ => none
  | _ => some (digits, cs.drop digits.length)

/-- At least one digit. -/
def someDigits? (cs : List Char) : Option (List Char × List Char) :=
  let digits := cs.takeWhile Char.isDigit
  if digits.isEmpty then none else some (digits, cs.drop digits.length)

/-- The fraction, if a point follows. -/
def fraction? : List Char → Option (Option (List Char) × List Char)
  | '.' :: rest => (someDigits? rest).map fun r => (some r.1, r.2)
  | cs => some (none, cs)

/-- The exponent, if its mark follows. -/
def exponent? : List Char → Option (Option (Bool × List Char) × List Char)
  | [] => some (none, [])
  | c :: rest =>
    if c = 'e' ∨ c = 'E' then
      match rest with
      | '-' :: more => (someDigits? more).map fun r => (some (true, r.1), r.2)
      | '+' :: more => (someDigits? more).map fun r => (some (false, r.1), r.2)
      | more => (someDigits? more).map fun r => (some (false, r.1), r.2)
    else some (none, c :: rest)

/-- The number after its sign, if the text goes on with one. -/
def scanNumber? (negative : Bool) (cs : List Char) : Option (Option Number × List Char) := do
  let (whole, cs) ← wholeDigits? cs
  let (fraction, cs) ← fraction? cs
  let (exponent, cs) ← exponent? cs
  some (Number.Parts.toNumber? ⟨negative, whole, fraction, exponent⟩, cs)

/-- A number after its sign, or the place where none can be read. -/
def scanNumber (negative : Bool) (cs : List Char) : Doc × List Char :=
  match scanNumber? negative cs with
  | none => (.broken, [])
  | some (n, rest) => (.number n, rest)

/-! ## Values -/

/-- A value without parts or the place where none can be read. -/
def scanLeaf : List Char → Doc × List Char
  | 'n' :: 'u' :: 'l' :: 'l' :: rest => (.null, rest)
  | 't' :: 'r' :: 'u' :: 'e' :: rest => (.bool true, rest)
  | 'f' :: 'a' :: 'l' :: 's' :: 'e' :: rest => (.bool false, rest)
  | '-' :: rest => scanNumber true rest
  | '\x22' :: rest =>
    match scanText (rest.length + 1) rest [] true with
    | none => (.broken, [])
    | some (s, rest) => (.string s, rest)
  | c :: rest => if c.isDigit then scanNumber false (c :: rest) else (.broken, [])
  | [] => (.broken, [])

/-- The text went wrong somewhere inside. -/
def isOpen : Doc → Bool
  | .array _ closed => !closed
  | .object _ closed => !closed
  | .broken => true
  | _ => false

mutual

/-- The value at the head of a text without white space in front. -/
def scanValue : Nat → List Char → Doc × List Char
  | 0, _ => (.broken, [])
  | fuel + 1, '[' :: rest =>
    match skipSpace rest with
    | ']' :: after => (.array [] true, after)
    | cs =>
      let (items, closed, after) := scanItems fuel cs
      (.array items closed, after)
  | fuel + 1, '\x7b' :: rest =>
    match skipSpace rest with
    | '\x7d' :: after => (.object [] true, after)
    | cs =>
      let (entries, closed, after) := scanEntries fuel cs
      (.object entries closed, after)
  | _ + 1, cs => scanLeaf cs

/-- The items of an array up to the closing bracket, and whether it was reached. -/
def scanItems : Nat → List Char → List Doc × Bool × List Char
  | 0, _ => ([], false, [])
  | fuel + 1, cs =>
    let (item, rest) := scanValue fuel cs
    if item.isOpen then ([item], false, [])
    else
      match skipSpace rest with
      | ']' :: after => ([item], true, after)
      | ',' :: more =>
        match skipSpace more with
        | ']' :: _ => ([item], false, [])
        | next =>
          let (items, closed, after) := scanItems fuel next
          (item :: items, closed, after)
      | _ => ([item], false, [])

/-- The entries of an object up to the closing brace, and whether it was reached. -/
def scanEntries : Nat → List Char → List (Option String × Doc) × Bool × List Char
  | 0, _ => ([], false, [])
  | fuel + 1, cs =>
    match cs with
    | '\x22' :: rest =>
      match scanText (rest.length + 1) rest [] true with
      | none => ([], false, [])
      | some (name, rest) =>
        match skipSpace rest with
        | ':' :: rest =>
          let (value, rest) := scanValue fuel (skipSpace rest)
          if value.isOpen then ([(name, value)], false, [])
          else
            match skipSpace rest with
            | '\x7d' :: after => ([(name, value)], true, after)
            | ',' :: more =>
              let (entries, closed, after) := scanEntries fuel (skipSpace more)
              ((name, value) :: entries, closed, after)
            | _ => ([(name, value)], false, [])
        | _ => ([(name, .broken)], false, [])
    | _ => ([], false, [])

end

/-- The document at the head of a text, and whether nothing but white space follows it. -/
def scanChars (cs : List Char) : Doc × Bool :=
  let cs := skipSpace cs
  let (doc, rest) := scanValue (2 * cs.length + 2) cs
  (doc, (skipSpace rest).isEmpty)

/-- The document that a text holds. -/
def scan (s : String) : Doc × Bool :=
  scanChars (s.toList.map barred)

/-- The document that bytes hold, whether or not they are a text. -/
def scanBytes (bytes : List UInt8) : Doc × Bool :=
  scanChars ((Text.Utf8.pieces bytes).map fun c => (c.map barred).getD gap)

/-! ## Documents and values -/

mutual

/-- The document of a value. -/
def ofJson : Json → Doc
  | .null => .null
  | .bool b => .bool b
  | .number n => .number (some n)
  | .string s => .string (some s)
  | .array items => .array (ofItems items) true
  | .object fields => .object (ofFields fields) true

def ofItems : List Json → List Doc
  | [] => []
  | item :: items => ofJson item :: ofItems items

def ofFields : List (String × Json) → List (Option String × Doc)
  | [] => []
  | (name, value) :: fields => (some name, ofJson value) :: ofFields fields

end

mutual

/-- The value of a whole document, with at most `depth` containers inside one another. -/
def toJson? : Nat → Doc → Option Json
  | _, .null => some .null
  | _, .bool b => some (.bool b)
  | _, .number n => n.map .number
  | _, .string s => s.map .string
  | depth + 1, .array items true => (toItems? depth items).map .array
  | depth + 1, .object entries true => (toFields? depth entries []).map .object
  | _, _ => none

def toItems? : Nat → List Doc → Option (List Json)
  | _, [] => some []
  | depth, item :: items => do
    let value ← toJson? depth item
    let values ← toItems? depth items
    some (value :: values)

/-- The values of all entries; a name that is given twice keeps its last value. -/
def toFields? : Nat → List (Option String × Doc) → Fields Json → Option (Fields Json)
  | _, [], fields => some fields
  | depth, (name, doc) :: entries, fields => do
    let name ← name
    let value ← toJson? depth doc
    toFields? depth entries (Fields.insert name value fields)

end

/-! ### The order of what is read -/

section

variable {depth : Nat}

theorem itemsOrdered_of_toItems? (hitem : ∀ {d j}, toJson? depth d = some j → j.IsOrdered)
    {items : List Doc} {values : List Json} (h : toItems? depth items = some values) :
    ItemsOrdered values := by
  induction items generalizing values with
  | nil =>
    rw [toItems?] at h
    cases h
    trivial
  | cons item items ih =>
    rw [toItems?] at h
    obtain ⟨value, hvalue, h⟩ := Option.bind_eq_some_iff.1 h
    obtain ⟨rest, hrest, h⟩ := Option.bind_eq_some_iff.1 h
    cases h
    exact ⟨hitem hvalue, ih hrest⟩

theorem isOrdered_of_toFields? (hitem : ∀ {d j}, toJson? depth d = some j → j.IsOrdered)
    {entries : List (Option String × Doc)} {fields fields' : Fields Json}
    (hfields : IsOrdered (.object fields)) (h : toFields? depth entries fields = some fields') :
    IsOrdered (.object fields') := by
  induction entries generalizing fields with
  | nil =>
    rw [toFields?] at h
    cases h
    exact hfields
  | cons entry entries ih =>
    obtain ⟨key, doc⟩ := entry
    rw [toFields?] at h
    obtain ⟨name, -, h⟩ := Option.bind_eq_some_iff.1 h
    obtain ⟨value, hvalue, h⟩ := Option.bind_eq_some_iff.1 h
    exact ih (isOrdered_insert hfields name (hitem hvalue)) h

theorem exists_items {d : Doc} {values : List Json} (h : d.toJson? depth = some (.array values)) :
    ∃ items inner, d = .array items true ∧ depth = inner + 1 ∧
      toItems? inner items = some values := by
  cases d with
  | array items closed =>
    cases depth with
    | zero => cases closed <;> simp [toJson?] at h
    | succ depth =>
      cases closed with
      | false => simp [toJson?] at h
      | true =>
        simp only [toJson?, Option.map_eq_some_iff, Json.array.injEq] at h
        obtain ⟨values', hvalues, rfl⟩ := h
        exact ⟨items, depth, rfl, rfl, hvalues⟩
  | object entries closed => cases depth <;> cases closed <;> simp [toJson?] at h
  | number n => cases n <;> simp [toJson?] at h
  | string s => cases s <;> simp [toJson?] at h
  | null => simp [toJson?] at h
  | bool b => simp [toJson?] at h
  | broken => cases depth <;> simp [toJson?] at h

theorem exists_entries {d : Doc} {fields : Fields Json}
    (h : d.toJson? depth = some (.object fields)) :
    ∃ entries inner, d = .object entries true ∧ depth = inner + 1 ∧
      toFields? inner entries [] = some fields := by
  cases d with
  | object entries closed =>
    cases depth with
    | zero => cases closed <;> simp [toJson?] at h
    | succ depth =>
      cases closed with
      | false => simp [toJson?] at h
      | true =>
        simp only [toJson?, Option.map_eq_some_iff, Json.object.injEq] at h
        obtain ⟨fields', hfields, rfl⟩ := h
        exact ⟨entries, depth, rfl, rfl, hfields⟩
  | array items closed => cases depth <;> cases closed <;> simp [toJson?] at h
  | number n => cases n <;> simp [toJson?] at h
  | string s => cases s <;> simp [toJson?] at h
  | null => simp [toJson?] at h
  | bool b => simp [toJson?] at h
  | broken => cases depth <;> simp [toJson?] at h

/-- What is read of a document is ordered, since its fields are written one by one. -/
theorem isOrdered_of_toJson? {d : Doc} {j : Json} (h : d.toJson? depth = some j) : j.IsOrdered := by
  induction depth using Nat.strongRecOn generalizing d j with
  | _ depth ih =>
    cases j with
    | array values =>
      obtain ⟨items, inner, -, rfl, hvalues⟩ := exists_items h
      exact itemsOrdered_of_toItems? (ih inner (Nat.lt_succ_self inner)) hvalues
    | object fields =>
      obtain ⟨entries, inner, -, rfl, hfields⟩ := exists_entries h
      exact isOrdered_of_toFields? (ih inner (Nat.lt_succ_self inner)) isOrdered_nil hfields
    | _ => trivial

end

end Doc

/-- The most containers inside one another. -/
def maxDepth : Nat := 127

/-- The value that a text is, if it is one value and nothing else. -/
def parse? (s : String) : Option Json :=
  match Doc.scan s with
  | (doc, true) => doc.toJson? maxDepth
  | (_, false) => none

end Paydesk.Json
