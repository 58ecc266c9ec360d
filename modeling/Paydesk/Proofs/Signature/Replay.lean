import Paydesk.Proofs.Signature.Header

/-!
# What a captured signature is good for

`Signature.signature_covers`: a code that has been seen with one delivery is accepted for that time
and that body only, unless the code itself collides, and one header is accepted for 600 seconds at
most.

1. Time and body are read back from the bytes that a signature covers (`signedBytes_injective`): the
   point after the time is the first one, whatever the body starts with.
2. So a code for another time or another body is that of other bytes (`eq_or_collides`).
3. How the time is spelled in the header does not matter, since the code is computed from the number
   that it denotes.
-/

namespace Paydesk.Signature

open Text

/-- Two different messages have the same code under the secret. -/
def Collides (secret : String) (message message' : List UInt8) : Prop :=
  message ≠ message' ∧
    Hmac.code (Utf8.encode secret) message = Hmac.code (Utf8.encode secret) message'

/-! ## The bytes that are covered -/

theorem toUInt8_ne_point {c : Char} (h : c.isDigit = true) : c.toUInt8 ≠ 0x2E := by
  have hdigit := Char.isDigit_iff_toNat.1 h
  intro hpoint
  have hbyte : c.toNat % 256 = 0x2E := congrArg UInt8.toNat hpoint
  change 48 ≤ c.toNat ∧ c.toNat ≤ 57 at hdigit
  omega

theorem point_not_mem_encode_intText (time : Int) : 0x2E ∉ Utf8.encode (intText time) := by
  have hascii : ∀ c ∈ (intText time).toList, c.toNat < 128 := by
    intro c hc
    rcases mem_intText hc with rfl | hdigit
    · decide
    · exact lt_of_le_of_lt (Char.isDigit_iff_toNat.1 hdigit).2 (by decide)
  rw [Utf8.encode_of_lt hascii]
  intro h
  obtain ⟨c, hc, hpoint⟩ := List.mem_map.1 h
  rcases mem_intText hc with rfl | hdigit
  · cases hpoint
  · exact toUInt8_ne_point hdigit hpoint

/-- Time and body are read back from the bytes: what stands before the first point is the time. -/
theorem signedBytes_injective {time time' : Int} {payload payload' : List UInt8}
    (h : signedBytes time payload = signedBytes time' payload') :
    time = time' ∧ payload = payload' := by
  obtain ⟨htime, hpayload⟩ := eq_of_append_cons_eq (point_not_mem_encode_intText time)
    (point_not_mem_encode_intText time') h
  exact ⟨intText_injective (Utf8.encode_injective htime), hpayload⟩

theorem eq_or_collides {secret : String} {time time' : Int} {payload payload' : List UInt8}
    (h : code secret time payload = code secret time' payload') :
    (time = time' ∧ payload = payload') ∨
      Collides secret (signedBytes time payload) (signedBytes time' payload') := by
  by_cases hbytes : signedBytes time payload = signedBytes time' payload'
  · exact .inl (signedBytes_injective hbytes)
  · exact .inr ⟨hbytes, Hex.encode_injective h⟩

/-- A header that is accepted with a code that was sent: what its time denotes and the body are what
was sent, or the code collides. -/
theorem accepted_with_code {secret header given spelling : String} {time time' now : Int}
    {payload payload' : List UInt8} (hsent : Says (sign secret time payload) "v1" given)
    (hgiven : Says header "v1" given) (hspelling : Says header "t" spelling)
    (hdenotes : Denotes spelling.toList time')
    (haccepted : verify secret payload' header now = true) :
    (time' = time ∧ payload' = payload) ∨
      Collides secret (signedBytes time' payload') (signedBytes time payload) := by
  obtain ⟨read, spelling', hsays, hread, hcode, -⟩ := verify_eq_true.1 haccepted
  obtain rfl := hspelling.unique hsays
  obtain rfl := hdenotes.unique (readInt64?_eq_some.1 hread).1
  have hsame := (says_sign secret time payload).2.unique hsent
  exact eq_or_collides ((hcode.unique hgiven).trans hsame.symm)

/-! ## The window -/

/-- A header is near one time only, so the clocks at which it is accepted are near each other. -/
theorem accepted_twice {secret header : String} {payload : List UInt8} {now later : Int}
    (hnow : verify secret payload header now = true)
    (hlater : verify secret payload header later = true) :
    (now - later).natAbs ≤ 2 * tolerance := by
  obtain ⟨time, spelling, hsays, hread, -, hnear⟩ := verify_eq_true.1 hnow
  obtain ⟨time', spelling', hsays', hread', -, hnear'⟩ := verify_eq_true.1 hlater
  obtain rfl := hsays.unique hsays'
  obtain rfl := Option.some.inj (hread.symm.trans hread')
  omega

/-! ## Main result -/

/-- **One time and one body.** Time and body are determined by the bytes that the code is computed
from. So whoever sends another body or another time with a code that was captured is refused, unless
the code collides on these very bytes; and what is sent again unchanged is accepted for 600 seconds at
most. -/
theorem signature_covers (secret : String) :
    (Function.Injective fun delivery : Int64 × List UInt8 =>
      signedBytes delivery.1.toInt delivery.2) ∧
    (∀ (time time' now : Int64) (payload payload' : List UInt8) (header given spelling : String),
      Says (sign secret time.toInt payload) "v1" given →
      Says header "v1" given →
      Says header "t" spelling → Denotes spelling.toList time'.toInt →
      verify secret payload' header now.toInt = true →
      (time' = time ∧ payload' = payload) ∨
        Collides secret (signedBytes time'.toInt payload') (signedBytes time.toInt payload)) ∧
    ∀ (now later : Int64) (payload : List UInt8) (header : String),
      verify secret payload header now.toInt = true →
      verify secret payload header later.toInt = true →
      (now.toInt - later.toInt).natAbs ≤ 600 := by
  refine ⟨?_, ?_, fun now later payload header => accepted_twice⟩
  · rintro ⟨time, payload⟩ ⟨time', payload'⟩ h
    obtain ⟨htime, rfl⟩ := signedBytes_injective h
    exact congrArg (·, payload) (Int64.toInt_inj.1 htime)
  · intro time time' now payload payload' header given spelling hsent hgiven hspelling hdenotes
      haccepted
    refine (accepted_with_code hsent hgiven hspelling hdenotes haccepted).imp_left ?_
    exact fun h => ⟨Int64.toInt_inj.1 h.1, h.2⟩

/-- An empty object. -/
def emptyObject : List UInt8 := [0x7B, 0x7D]

/-- A captured code behind a part that it overrides, with the time spelled in another way. -/
def repeated (given : String) : String :=
  "v1=00,t=+0100,v1=" ++ given

theorem says_repeated {given : String} (h : ',' ∉ given.toList) :
    Says (repeated given) "t" "+0100" ∧ Says (repeated given) "v1" given := by
  have hfree : ∀ p ∈ ["v1=00".toList, "t=+0100".toList, "v1=".toList ++ given.toList],
      ',' ∉ p := by
    simp [h]
  have hjoined : (repeated given).toList = [','].intercalate
      ["v1=00".toList, "t=+0100".toList, "v1=".toList ++ given.toList] := by
    show ("v1=00,t=+0100,v1=" ++ given).toList = _
    simp [List.intercalate]
  exact ⟨says_of_parts hfree hjoined rfl, says_of_parts hfree hjoined rfl⟩

/-- What is spelled in another way is accepted as what was sent, from 300 seconds before its time to
300 seconds after it. -/
theorem signature_covers_repeated :
    let given := code "secret" 100 emptyObject
    verify "secret" emptyObject (repeated given) (400 : Int64).toInt = true ∧
      verify "secret" emptyObject (repeated given) (-200 : Int64).toInt = true ∧
      (((100 : Int64) = 100 ∧ emptyObject = emptyObject) ∨
        Collides "secret" (signedBytes (100 : Int64).toInt emptyObject)
          (signedBytes (100 : Int64).toInt emptyObject)) ∧
      ((400 : Int64).toInt - (-200 : Int64).toInt).natAbs ≤ 600 := by
  intro given
  obtain ⟨htime, hgiven⟩ := says_repeated (comma_not_mem_code "secret" 100 emptyObject)
  have hread : readInt64? "+0100" = some (100 : Int64).toInt := by decide
  have hverify : ∀ now : Int, (now - 100).natAbs ≤ tolerance →
      verify "secret" emptyObject (repeated given) now = true := fun now hnear =>
    verify_eq_true.2 ⟨100, "+0100", htime, hread, hgiven, hnear⟩
  have hlate := hverify (400 : Int64).toInt (by decide)
  have hearly := hverify (-200 : Int64).toInt (by decide)
  have hcovers := signature_covers "secret"
  exact ⟨hlate, hearly,
    hcovers.2.1 100 100 400 emptyObject emptyObject (repeated given) given "+0100"
      (says_sign "secret" 100 emptyObject).2 hgiven htime (readInt64?_eq_some.1 hread).1 hlate,
    hcovers.2.2 400 (-200) emptyObject (repeated given) hlate hearly⟩

end Paydesk.Signature
