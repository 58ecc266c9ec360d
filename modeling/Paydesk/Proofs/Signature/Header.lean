import Paydesk.Proofs.Text.Bytes
import Paydesk.Proofs.Text.Integer
import Paydesk.Proofs.Text.Split
import Paydesk.Signature
import Mathlib.Data.List.Induction

/-!
# What a signature's header says

`Signature.verified_iff`: a header is accepted exactly if the last of its times is near enough to the
receiver's clock and the last of its codes is the code over that time and the body.

A header is read part by part, and a later part overrides an earlier one of its kind. So what has
been read in the end is what the last part with a key says (`Claim.foldl_take`); which part that is,
is told apart from the reader (`Says`). The header that is sent has one part of each kind
(`says_sign`), and is accepted as long as the clock is near its time (`verify_sign`).
-/

namespace Paydesk.Signature

open Text

/-! ## Parts -/

/-- The part of a header is a key and a value, divided by its first equals sign. -/
def IsEntry (part key value : List Char) : Prop :=
  part = key ++ '=' :: value ∧ '=' ∉ key

/-- Among the parts of a header, which are divided by commas, the last one with the key has the
value. -/
def Says (header key value : String) : Prop :=
  ∃ before part after, header.toList.splitOn ',' = before ++ part :: after ∧
    IsEntry part key.toList value.toList ∧
    ∀ later ∈ after, ∀ other, ¬ IsEntry later key.toList other

/-- The value of a part that has the key. -/
def valueOf? (key part : List Char) : Option (List Char) :=
  (cut? '=' part).bind fun entry => if entry.1 = key then some entry.2 else none

/-- The value of the last part that has the key. -/
def lastValue? (key : List Char) (parts : List (List Char)) : Option (List Char) :=
  parts.reverse.findSome? (valueOf? key)

theorem valueOf?_eq_some {key part value : List Char} :
    valueOf? key part = some value ↔ IsEntry part key value := by
  unfold valueOf? IsEntry
  rw [Option.bind_eq_some_iff, ← cut?_eq_some]
  constructor
  · rintro ⟨⟨key', value'⟩, hcut, h⟩
    split at h
    · next hkey =>
      obtain rfl := Option.some.inj h
      exact hkey ▸ hcut
    · cases h
  · exact fun hcut => ⟨_, hcut, if_pos rfl⟩

theorem lastValue?_append_singleton (key : List Char) (parts : List (List Char))
    (part : List Char) :
    lastValue? key (parts ++ [part]) = (valueOf? key part).or (lastValue? key parts) := by
  unfold lastValue?
  rw [List.reverse_append, List.reverse_singleton, List.singleton_append, List.findSome?_cons]
  cases valueOf? key part <;> rfl

theorem lastValue?_eq_some {header key value : String} :
    lastValue? key.toList (splitOn ',' header.toList) = some value.toList ↔
      Says header key value := by
  unfold lastValue? Says
  rw [splitOn_eq, List.findSome?_eq_some_iff]
  simp only [valueOf?_eq_some]
  constructor
  · rintro ⟨after, part, before, hparts, hentry, hnone⟩
    refine ⟨before.reverse, part, after.reverse, ?_, hentry, fun later hlater other hother => ?_⟩
    · rw [← List.reverse_reverse (header.toList.splitOn ','), hparts]
      simp
    · have hlast := hnone later (List.mem_reverse.1 hlater)
      rw [valueOf?_eq_some.2 hother] at hlast
      cases hlast
  · rintro ⟨before, part, after, hparts, hentry, hnone⟩
    refine ⟨after.reverse, part, before.reverse, ?_, hentry, fun later hlater => ?_⟩
    · rw [hparts]
      simp
    · exact Option.eq_none_iff_forall_ne_some.2 fun other hother =>
        hnone later (List.mem_reverse.1 hlater) other (valueOf?_eq_some.1 hother)

theorem says_of_parts {header key value : String} {part : List Char} {parts : List (List Char)}
    (hfree : ∀ p ∈ part :: parts, ',' ∉ p)
    (hjoined : header.toList = [','].intercalate (part :: parts))
    (hlast : lastValue? key.toList (part :: parts) = some value.toList) :
    Says header key value := by
  rw [← lastValue?_eq_some, (splitOn_eq_iff (List.cons_ne_nil _ _)).2 ⟨hfree, hjoined⟩]
  exact hlast

/-- A header says one thing only under a key. -/
theorem Says.unique {header key value value' : String} (h : Says header key value)
    (h' : Says header key value') : value = value' :=
  String.toList_inj.1 (Option.some.inj
    ((lastValue?_eq_some.2 h).symm.trans (lastValue?_eq_some.2 h')))

/-! ## The reader -/

/-- What has been read is what the last parts say. -/
theorem Claim.foldl_take (parts : List (List Char)) :
    parts.foldl Claim.take {} =
      ⟨(lastValue? "t".toList parts).bind fun value => readInt64? (String.ofList value),
        (lastValue? "v1".toList parts).map String.ofList⟩ := by
  induction parts using List.reverseRecOn with
  | nil => rfl
  | append_singleton parts part ih =>
    rw [List.foldl_append, ih, lastValue?_append_singleton, lastValue?_append_singleton]
    show Claim.take _ part = _
    unfold Claim.take valueOf?
    cases cut? '=' part with
    | none => rfl
    | some entry =>
      obtain ⟨key, value⟩ := entry
      by_cases htime : key = ['t']
      · subst htime
        rfl
      · by_cases hcode : key = ['v', '1']
        · subst hcode
          rfl
        · simp [htime, hcode]

theorem Claim.timestamp_ofHeader {header : String} {time : Int} :
    (ofHeader header).timestamp = some time ↔
      ∃ spelling, Says header "t" spelling ∧ readInt64? spelling = some time := by
  unfold ofHeader
  rw [foldl_take]
  dsimp only
  rw [Option.bind_eq_some_iff]
  constructor
  · rintro ⟨value, hvalue, hread⟩
    have hlast := hvalue.trans (congrArg some String.toList_ofList.symm)
    exact ⟨String.ofList value, lastValue?_eq_some.1 hlast, hread⟩
  · rintro ⟨spelling, hsays, hread⟩
    exact ⟨spelling.toList, lastValue?_eq_some.2 hsays, by rwa [String.ofList_toList]⟩

theorem Claim.code_ofHeader {header given : String} :
    (ofHeader header).code = some given ↔ Says header "v1" given := by
  unfold ofHeader
  rw [foldl_take]
  dsimp only
  rw [Option.map_eq_some_iff, ← lastValue?_eq_some]
  constructor
  · rintro ⟨value, hvalue, rfl⟩
    exact hvalue.trans (congrArg some String.toList_ofList.symm)
  · exact fun hsays => ⟨given.toList, hsays, String.ofList_toList⟩

/-- A header is accepted if its last time is read and near enough, and its last code is that of the
time and the body. -/
theorem verify_eq_true {secret header : String} {payload : List UInt8} {now : Int} :
    verify secret payload header now = true ↔
      ∃ time spelling, Says header "t" spelling ∧ readInt64? spelling = some time ∧
        Says header "v1" (code secret time payload) ∧ (now - time).natAbs ≤ tolerance := by
  unfold verify
  split
  · next time given hclaim =>
    obtain ⟨spelling, hsays, hread⟩ := Claim.timestamp_ofHeader.1 (congrArg Claim.timestamp hclaim)
    have hgiven := Claim.code_ofHeader.1 (congrArg Claim.code hclaim)
    rw [Bool.and_eq_true, decide_eq_true_iff, beq_iff_eq]
    constructor
    · rintro ⟨hnear, rfl⟩
      exact ⟨time, spelling, hsays, hread, hgiven, hnear⟩
    · rintro ⟨time', spelling', hsays', hread', hcode, hnear⟩
      obtain rfl := hsays.unique hsays'
      obtain rfl := Option.some.inj (hread.symm.trans hread')
      exact ⟨hnear, hcode.unique hgiven⟩
  · next hother =>
    refine ⟨nofun, fun ⟨time, spelling, hsays, hread, hcode, _⟩ => ?_⟩
    have htime := Claim.timestamp_ofHeader.2 ⟨spelling, hsays, hread⟩
    have hgiven := Claim.code_ofHeader.2 hcode
    exact absurd (by rw [← htime, ← hgiven]) (hother time (code secret time payload))

/-! ## The header that is sent -/

theorem comma_not_mem_intText (time : Int) : ',' ∉ (intText time).toList := by
  intro h
  rcases mem_intText h with h | h <;> cases h

theorem comma_not_mem_code (secret : String) (time : Int) (payload : List UInt8) :
    ',' ∉ (code secret time payload).toList := by
  intro h
  obtain ⟨d, hd, heq⟩ := Hex.exists_of_mem_encode h
  have hdigit : ∀ d < 16, ',' ≠ Hex.digit d := by decide
  exact hdigit d hd heq

theorem lastValue?_sent (time given : List Char) :
    lastValue? "t".toList ["t=".toList ++ time, "v1=".toList ++ given] = some time ∧
      lastValue? "v1".toList ["t=".toList ++ time, "v1=".toList ++ given] = some given :=
  ⟨rfl, rfl⟩

theorem says_sign (secret : String) (time : Int) (payload : List UInt8) :
    Says (sign secret time payload) "t" (intText time) ∧
      Says (sign secret time payload) "v1" (code secret time payload) := by
  have hfree : ∀ p ∈ ["t=".toList ++ (intText time).toList,
      "v1=".toList ++ (code secret time payload).toList], ',' ∉ p := by
    have htime := comma_not_mem_intText time
    have hcode := comma_not_mem_code secret time payload
    simp [htime, hcode]
  have hjoined : (sign secret time payload).toList = [','].intercalate
      ["t=".toList ++ (intText time).toList, "v1=".toList ++ (code secret time payload).toList] := by
    simp [sign, List.intercalate]
  obtain ⟨htime, hcode⟩ := lastValue?_sent (intText time).toList (code secret time payload).toList
  exact ⟨says_of_parts hfree hjoined htime, says_of_parts hfree hjoined hcode⟩

theorem verify_sign {secret : String} {payload : List UInt8} {time now : Int}
    (hlow : -2 ^ 63 ≤ time) (hhigh : time < 2 ^ 63) :
    verify secret payload (sign secret time payload) now = true ↔
      (now - time).natAbs ≤ tolerance := by
  obtain ⟨htime, hcode⟩ := says_sign secret time payload
  rw [verify_eq_true]
  constructor
  · rintro ⟨time', spelling, hsays, hread, -, hnear⟩
    obtain rfl := htime.unique hsays
    obtain rfl := (denotes_intText time).unique (readInt64?_eq_some.1 hread).1
    exact hnear
  · intro hnear
    exact ⟨time, intText time, htime,
      readInt64?_eq_some.2 ⟨denotes_intText time, hlow, hhigh⟩, hcode, hnear⟩

/-! ## The distance of two clocks -/

/-- The distance as it is computed on words: the lesser one is taken from the greater one, both read
without a sign. -/
def wordDistance (a b : Int64) : UInt64 :=
  if a < b then b.toUInt64 - a.toUInt64 else a.toUInt64 - b.toUInt64

/-- Words without a sign wrap around when they are subtracted, but the difference of the numbers is
itself such a word. -/
theorem toNat_sub_toUInt64 {a b : Int64} (h : b.toInt ≤ a.toInt) :
    ((a.toUInt64 - b.toUInt64).toNat : Int) = a.toInt - b.toInt := by
  have ha : a.toInt = _ := a.toBitVec.toInt_eq_toNat_cond
  have hb : b.toInt = _ := b.toBitVec.toInt_eq_toNat_cond
  have hlta := a.toBitVec.isLt
  have hltb := b.toBitVec.isLt
  rw [UInt64.toNat_sub]
  change (((2 ^ 64 - b.toBitVec.toNat + a.toBitVec.toNat) % 2 ^ 64 : Nat) : Int) = _
  split at ha <;> split at hb <;> omega

theorem toNat_wordDistance (a b : Int64) :
    (wordDistance a b).toNat = (a.toInt - b.toInt).natAbs := by
  unfold wordDistance
  split
  · next hlt =>
    have hlt' := Int64.lt_iff_toInt_lt.1 hlt
    have hword := toNat_sub_toUInt64 hlt'.le
    omega
  · next hge =>
    have hge' := not_lt.1 (mt Int64.lt_iff_toInt_lt.2 hge)
    have hword := toNat_sub_toUInt64 hge'
    omega

/-! ## Main result -/

/-- **What is accepted.** A header is accepted exactly if the last of its times denotes a number of 64
bits that is at most 300 seconds from the clock, and the last of its codes is the one over that number
and the body. For no two clocks does the distance of words overflow. What is signed for a time, be it
negative or the last there is, is accepted exactly within 300 seconds of it. -/
theorem verified_iff (secret : String) (payload : List UInt8) (now : Int64) :
    (∀ header, verify secret payload header now.toInt = true ↔
      ∃ (time : Int64) (spelling : String),
        Says header "t" spelling ∧ Denotes spelling.toList time.toInt ∧
        Says header "v1" (Hex.encode (Hmac.code (Utf8.encode secret)
          (Utf8.encode (intText time.toInt) ++ Utf8.encode "." ++ payload))) ∧
        (now.toInt - time.toInt).natAbs ≤ 300) ∧
    (∀ time : Int64, (wordDistance now time).toNat = (now.toInt - time.toInt).natAbs) ∧
    ∀ time : Int64, verify secret payload (sign secret time.toInt payload) now.toInt = true ↔
      (now.toInt - time.toInt).natAbs ≤ 300 := by
  have hpoint : ∀ time : Int, code secret time payload = Hex.encode (Hmac.code (Utf8.encode secret)
      (Utf8.encode (intText time) ++ Utf8.encode "." ++ payload)) := by
    intro time
    rw [List.append_assoc]
    rfl
  refine ⟨fun header => ?_, toNat_wordDistance now, fun time => ?_⟩
  · rw [verify_eq_true]
    constructor
    · rintro ⟨time, spelling, hsays, hread, hcode, hnear⟩
      obtain ⟨hdenotes, hlow, hhigh⟩ := readInt64?_eq_some.1 hread
      have htime : (Int64.ofInt time).toInt = time := Int64.toInt_ofInt_of_le hlow hhigh
      refine ⟨Int64.ofInt time, spelling, hsays, ?_, ?_, ?_⟩
      · rwa [htime]
      · rwa [htime, ← hpoint]
      · rwa [htime]
    · rintro ⟨time, spelling, hsays, hdenotes, hcode, hnear⟩
      have hread := readInt64?_eq_some.2 ⟨hdenotes, time.le_toInt, time.toInt_lt⟩
      exact ⟨time.toInt, spelling, hsays, hread, (hpoint _).symm ▸ hcode, hnear⟩
  · exact verify_sign time.le_toInt time.toInt_lt

end Paydesk.Signature
