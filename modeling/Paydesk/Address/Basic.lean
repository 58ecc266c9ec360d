import Paydesk.Address.Host
import Paydesk.Address.Path
import Paydesk.Text.Numeral

/-!
# Addresses of servers

An address is read as its parts and written in one normal form: scheme and host in lower case, no
port that the scheme implies, no dots as steps of the path, and characters that may not stand in a
part as percent-encoded bytes. The schemes of the web name a host, after any number of slashes, and
take a backslash for a slash; a file may name one; after any other scheme a host is named behind two
slashes, and a text that does not begin with a slash is no path of steps.
-/

namespace Paydesk

namespace Address

/-- Who asks a host: the name of a user and a password, either of them possibly empty. -/
structure Credentials where
  user : List Char
  password : List Char
  deriving DecidableEq

/-- What an address names behind two slashes. -/
structure Authority where
  credentials : Credentials
  host : Option Host
  port : Option Nat
  deriving DecidableEq

end Address

/-- The parts of an address in normal form. -/
structure Address where
  scheme : List Char
  authority : Option Address.Authority
  path : List Char
  query : Option (List Char)
  fragment : Option (List Char)
  deriving DecidableEq

namespace Address

/-! ## Writing -/

/-- The text of credentials, with the sign that divides them from the host. -/
def Credentials.toText (c : Credentials) : List Char :=
  let password := if c.password.isEmpty then [] else ':' :: c.password
  if c.user.isEmpty && c.password.isEmpty then [] else c.user ++ password ++ ['@']

def Authority.toText (a : Authority) : List Char :=
  a.credentials.toText ++ (a.host.map Host.toText).getD [] ++
    (a.port.map fun port => ':' :: Text.natDigits port).getD []

/-- The authority with its slashes. Without one, a path that begins with two slashes takes a step
that stays in front, so that no host is read from it. -/
def frontText (a : Address) : List Char :=
  match a.authority with
  | some authority => "//".toList ++ authority.toText
  | none => if "//".toList.isPrefixOf a.path then "/.".toList else []

/-- A part with its mark. -/
def markedText (mark : Char) (part : Option (List Char)) : List Char :=
  (part.map fun cs => mark :: cs).getD []

/-- The normal form. -/
def toText (a : Address) : String :=
  String.ofList (a.scheme ++ ':' :: a.frontText ++ a.path ++ markedText '?' a.query ++
    markedText '#' a.fragment)

/-! ## Scheme -/

/-- How the rest of an address is read. -/
inductive Manner where
  | web (impliedPort : Nat)
  | file
  | plain
  deriving DecidableEq

/-- The ports that the schemes of the web imply. -/
def webPorts : List (List Char × Nat) :=
  [("http".toList, 80), ("https".toList, 443), ("ws".toList, 80), ("wss".toList, 443),
    ("ftp".toList, 21)]

/-- How addresses of a scheme are read. -/
def mannerOf (scheme : List Char) : Manner :=
  match webPorts.lookup scheme with
  | some port => .web port
  | none => if scheme = "file".toList then .file else .plain

/-- The scheme in lower case, and what stands after the colon. -/
def cutScheme? (cs : List Char) : Option (List Char × List Char) :=
  match Text.cut? ':' cs with
  | some (front, rest) =>
    match withoutBreaks front with
    | first :: more =>
      if first.isAlpha && more.all isSchemeChar then some ((first :: more).map Char.toLower, rest)
      else none
    | [] => none
  | none => none

/-! ## Authority -/

/-- A slash in either direction. -/
def isSlash (c : Char) : Bool :=
  c = '/' || c = '\\'

/-- A character that ends an authority. -/
def endsAuthority (isWeb : Bool) (c : Char) : Bool :=
  c = '/' || c = '?' || c = '#' || (isWeb && c = '\\')

/-- What stands in front of the sign that divides a user from a host, if there is one, and what
follows it. -/
def cutUser (ends : Char → Bool) (cs : List Char) : Option (List Char) × List Char :=
  let authority := cs.takeWhile fun c => !ends c
  let host := (authority.reverse.takeWhile fun c => c != '@').reverse
  let count := authority.length - host.length
  if count = 0 then (none, cs) else (some (authority.take (count - 1)), cs.drop count)

/-- The credentials that a text names. -/
def Credentials.ofChars (cs : List Char) : Credentials :=
  let user := cs.takeWhile fun c => c != ':'
  ⟨escape isUserChar user, escape isUserChar (cs.drop (user.length + 1))⟩

/-- The text of a host, and what follows it. A colon ends it unless it stands in brackets. -/
def cutHost (ends : Char → Bool) (isInside : Bool) : List Char → List Char × List Char
  | [] => ([], [])
  | c :: rest =>
    if ends c || (c = ':' && !isInside) then ([], c :: rest)
    else
      let (host, after) := cutHost ends (c = '[' || (isInside && c != ']')) rest
      (c :: host, after)

/-- The port behind a host, unless it is the implied one, and what follows it. -/
def cutPort? (implied : Option Nat) : List Char → Option (Option Nat × List Char)
  | ':' :: cs =>
    let digits := cs.takeWhile Char.isDigit
    let rest := cs.drop digits.length
    let port := Text.digitsValue 0 digits
    if 65535 < port || rest.head?.any (fun c => !endsAuthority true c) then none
    else some (if digits.isEmpty || implied = some port then none else some port, rest)
  | cs => some (none, cs)

/-- Whether an authority may name no host: it names no credentials and no port either, and the sign
that divides them from the host does not stand alone in front of what follows. -/
def mayLackHost (user : Option (List Char)) (after : List Char) : Bool :=
  match user with
  | none => after.head? != some ':'
  | some [] => after.isEmpty
  | some cs => (Credentials.ofChars cs).toText.isEmpty && after.head? != some ':'

/-- The authority behind two slashes, and what follows it. An address of the web names a host. -/
def cutAuthority? (implied : Option Nat) (cs : List Char) :
    Option (Authority × List Char) := do
  let ends := endsAuthority implied.isSome
  let (user, rest) := cutUser ends cs
  let credentials := Credentials.ofChars (user.getD [])
  let (name, after) := cutHost ends false rest
  if name.isEmpty then
    if implied.isNone && mayLackHost user after then some (⟨credentials, none, none⟩, after)
    else none
  else
    let (port, after) ← cutPort? implied after
    let host ← if implied.isSome then Host.ofWebText? name else Host.ofText? name
    some (⟨credentials, some host, port⟩, after)

/-! ## Reading -/

/-- Path, query and fragment as they are written; the path may hold breaks. -/
structure Tail where
  path : List Char
  query : Option (List Char)
  fragment : Option (List Char)

/-- The parts behind the authority. -/
def Tail.ofChars (cs : List Char) : Tail :=
  let front := cs.takeWhile fun c => c != '#'
  { path := front.takeWhile fun c => c != '?'
    query := (Text.cut? '?' front).map fun (_, query) => withoutBreaks query
    fragment := (Text.cut? '#' cs).map fun (_, fragment) => withoutBreaks fragment }

/-- The path with slashes for backslashes. -/
def Tail.forwardPath (t : Tail) : List Char :=
  t.path.map fun c => if isSlash c then '/' else c

/-- The address of an authority, a path in normal form and the other parts. -/
def Tail.address (t : Tail) (scheme : List Char) (authority : Option Authority)
    (path : List Char) : Address where
  scheme := scheme
  authority := authority
  path := path
  query := t.query.map (escape (if mannerOf scheme = .plain then isQueryChar else isWebQueryChar))
  fragment := t.fragment.map (escape isFragmentChar)

def readWeb? (scheme : List Char) (implied : Nat) (cs : List Char) : Option Address := do
  let (authority, rest) ← cutAuthority? (some implied) (cs.dropWhile isSlash)
  let tail := Tail.ofChars rest
  some (tail.address scheme (some authority) (stepsText (stepsOf (tail.forwardPath.drop 1))))

/-- What follows a slash. -/
def cutSlash? (cs : List Char) : Option (List Char) :=
  match cs.dropWhile isBreak with
  | c :: rest => if isSlash c then some rest else none
  | [] => none

/-- The host that is named in front of the path of a file, and the path from behind its first slash.
The local host is not named, and a drive is no host; without a host the slash is a step of its
own. -/
def cutFileHost? (cs : List Char) : Option (Option Host × List Char) := do
  let text := cs.takeWhile fun c => !endsAuthority true c
  let name := withoutBreaks text
  if name.isEmpty || isDrive name then some (none, cs)
  else
    let rest := cs.drop text.length
    let host ← Host.ofWebText? name
    if host = .name "localhost".toList then some (none, rest)
    else some (some host, (cutSlash? rest).getD rest)

/-- The host of a file, and the path from behind its first slash. A host is named behind two
slashes. -/
def cutFile? (cs : List Char) : Option (Option Host × List Char) :=
  match cutSlash? cs with
  | none => some (none, cs)
  | some rest =>
    match cutSlash? rest with
    | none => some (none, rest)
    | some rest => cutFileHost? rest

/-- The address of a file. A file on a drive is on no other host. -/
def readFile? (scheme : List Char) (cs : List Char) : Option Address := do
  let (host, rest) ← cutFile? cs
  let tail := Tail.ofChars rest
  let path := FilePath.ofChars tail.forwardPath
  let host := if path.onDrive then none else host
  some (tail.address scheme (some ⟨⟨[], []⟩, host, none⟩) path.toText)

/-- An address of any other scheme. -/
def readPlain? (scheme : List Char) : List Char → Option Address
  | '/' :: '/' :: cs => do
    let (authority, rest) ← cutAuthority? none cs
    let tail := Tail.ofChars rest
    let path := match tail.path with
      | [] => []
      | '/' :: more => stepsText (stepsOf more)
      | more => stepsText (stepsOf more)
    some (tail.address scheme (some authority) path)
  | '/' :: cs =>
    let tail := Tail.ofChars cs
    some (tail.address scheme none (stepsText (stepsOf tail.path)))
  | cs =>
    let tail := Tail.ofChars cs
    some (tail.address scheme none (escape isPrintable tail.path))

/-- A control character or a blank. -/
def isMargin (c : Char) : Bool :=
  c.toNat ≤ 0x20

/-- The text without its margins. -/
def withoutMargins (cs : List Char) : List Char :=
  ((cs.dropWhile isMargin).reverse.dropWhile isMargin).reverse

/-- Reads an address. A text without a scheme is none. -/
def read? (s : String) : Option Address := do
  let (scheme, cs) ← cutScheme? (withoutMargins s.toList)
  match mannerOf scheme with
  | .web implied => readWeb? scheme implied (withoutBreaks cs)
  | .file => readFile? scheme cs
  | .plain => readPlain? scheme (withoutBreaks cs)

end Address

end Paydesk
