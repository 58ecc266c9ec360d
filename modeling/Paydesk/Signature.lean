import Paydesk.Digest.Hmac
import Paydesk.Text.Hex
import Paydesk.Text.Numeral
import Paydesk.Text.Split
import Paydesk.Text.Utf8

/-!
# Signatures of deliveries

A delivery is signed with a secret that its receiver shares. The signature covers the time of
sending and the body, and a receiver refuses one whose time is too far from its own clock, so that a
captured delivery can be repeated only within that window. The header reads `t=<seconds>,v1=<code>`.
-/

namespace Paydesk.Signature

/-- The largest distance in seconds between the time of a signature and the receiver's clock. -/
def tolerance : Nat := 300

/-- The bytes that a signature covers: time, a point, body. -/
def signedBytes (timestamp : Int) (payload : List UInt8) : List UInt8 :=
  Text.Utf8.encode (Text.intText timestamp) ++ 0x2E :: payload

/-- The code over time and body, in hexadecimal digits. -/
def code (secret : String) (timestamp : Int) (payload : List UInt8) : String :=
  Text.Hex.encode (Hmac.code (Text.Utf8.encode secret) (signedBytes timestamp payload))

/-- The header of a delivery that is sent at a time. -/
def sign (secret : String) (timestamp : Int) (payload : List UInt8) : String :=
  "t=" ++ Text.intText timestamp ++ ",v1=" ++ code secret timestamp payload

/-- What a header says. -/
structure Claim where
  timestamp : Option Int := none
  code : Option String := none

/-- Takes one part of a header in. A part overrides an earlier one of its kind; a time that is no
number overrides it with nothing. -/
def Claim.take (claim : Claim) (part : List Char) : Claim :=
  match Text.cut? '=' part with
  | none => claim
  | some (key, value) =>
    if key = ['t'] then { claim with timestamp := Text.readInt64? (String.ofList value) }
    else if key = ['v', '1'] then { claim with code := some (String.ofList value) }
    else claim

/-- What a header says; unknown parts are passed over. -/
def Claim.ofHeader (header : String) : Claim :=
  (Text.splitOn ',' header.toList).foldl Claim.take {}

/-- A header is the signature of a body, as seen at a time. -/
def verify (secret : String) (payload : List UInt8) (header : String) (now : Int) : Bool :=
  match Claim.ofHeader header with
  | ⟨some timestamp, some given⟩ =>
    (now - timestamp).natAbs ≤ tolerance && code secret timestamp payload == given
  | _ => false

/-- What is shown of a signer, whose secret is not. -/
def signerText : String := "WebhookSigner \x7b .. \x7d"

end Paydesk.Signature
