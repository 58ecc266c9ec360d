import Paydesk.Address.Basic

/-!
# Addresses of requests

What a request makes of an address: it needs a host, it takes the credentials out of the address,
and it can be sent over HTTP only, to an address that is not too long.
-/

namespace Paydesk.Address

def hasHost (a : Address) : Bool :=
  (a.authority.bind Authority.host).isSome

/-- The server is asked over HTTP. -/
def isHttp (a : Address) : Bool :=
  a.scheme = "http".toList || a.scheme = "https".toList

/-- Whether the bytes behind percent signs are a text. -/
def isReadable (cs : List Char) : Bool :=
  (Web.percentDecode? cs).isSome

/-- Whether credentials can be taken out: the user is a text, and one of the two is there and is
one. -/
def Credentials.canMove (c : Credentials) : Bool :=
  isReadable c.user && (!c.user.isEmpty || isReadable c.password)

/-- The address as a request is sent to it, without the credentials that are taken out. -/
def requested (a : Address) : Address :=
  match a.authority with
  | some authority =>
    if authority.credentials.canMove then
      { a with authority := some { authority with credentials := ⟨[], []⟩ } }
    else a
  | none => a

/-- A character that stands in the name of a host but in no request. -/
def isUnsent (c : Char) : Bool :=
  "\x22\x60\x7b\x7d".toList.contains c

/-- The most characters of an address that a request is sent to. -/
def maxLength : Nat := 65534

/-- Whether a request can be sent to the address. -/
def isAskable (a : Address) : Bool :=
  a.isHttp && a.requested.toText.length ≤ maxLength &&
    match a.authority.bind Authority.host with
    | some (.name carried) => !carried.any isUnsent
    | some _ => true
    | none => false

end Paydesk.Address
