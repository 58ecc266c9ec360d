import Paydesk.Proofs.Text.Codes
import Paydesk.Text.Utf8
import Mathlib.Data.List.Basic

/-!
# Texts and bytes

Different texts are different bytes (`Utf8.encode_injective`), and where all characters are ASCII,
the bytes are their numbers. Bytes that are a text fall into its characters
(`Utf8.pieces_of_decode?`). Different bytes are written with different hexadecimal digits, since the
bytes are read back from these (`Hex.decode?_encode`).
-/

namespace Paydesk.Text

/-! ## Texts as bytes -/

namespace Utf8

theorem encode_injective : Function.Injective encode := by
  intro s t h
  exact String.toByteArray_inj.1 (ByteArray.ext (Array.toList_inj.1 h))

theorem utf8EncodeChar_of_lt {c : Char} (h : c.toNat < 128) :
    String.utf8EncodeChar c = [c.toUInt8] := by
  have hle : c.val ≤ 127 := UInt32.le_iff_toNat_le.2 (Nat.le_of_lt_succ h)
  exact String.utf8EncodeChar_eq_singleton (Char.utf8Size_eq_one_iff.2 hle)

theorem encode_of_lt {s : String} (h : ∀ c ∈ s.toList, c.toNat < 128) :
    encode s = s.toList.map Char.toUInt8 := by
  obtain ⟨cs, rfl⟩ := s.exists_eq_ofList
  rw [String.toList_ofList] at h ⊢
  rw [encode, String.toUTF8_eq_toByteArray, String.toByteArray_ofList, List.utf8Encode,
    List.toList_data_toByteArray, List.map_eq_flatMap]
  exact List.flatMap_congr fun c hc => utf8EncodeChar_of_lt (h c hc)

theorem eq_map_some_of_mapM {cs : List Char} {parts : List (Option Char)}
    (h : parts.mapM id = some cs) : parts = cs.map some := by
  induction parts generalizing cs with
  | nil =>
    cases h
    rfl
  | cons part parts ih =>
    rw [List.mapM_cons] at h
    obtain ⟨c, hpart, h⟩ := Option.bind_eq_some_iff.1 h
    obtain ⟨rest, hparts, h⟩ := Option.bind_eq_some_iff.1 h
    cases h
    rw [show part = some c from hpart, ih hparts, List.map_cons]

/-- The bytes of a text fall into its characters, with nothing between them. -/
theorem pieces_of_decode? {bytes : List UInt8} {s : String} (h : decode? bytes = some s) :
    pieces bytes = s.toList.map some := by
  obtain ⟨cs, hcs, rfl⟩ := Option.map_eq_some_iff.1 h
  rw [String.toList_ofList]
  exact eq_map_some_of_mapM hcs

end Utf8

/-! ## Bytes as hexadecimal digits -/

namespace Hex

theorem decodeChars_flatMap (bytes : List UInt8) :
    decodeChars (bytes.flatMap byteDigits) = some bytes := by
  induction bytes with
  | nil => rfl
  | cons b rest ih =>
    have hlt := b.toNat_lt
    have hhigh : value? (digit (b.toNat / 16)) = some (b.toNat / 16) := value?_digit (by omega)
    have hlow : value? (digit (b.toNat % 16)) = some (b.toNat % 16) := value?_digit (by omega)
    have hbyte : UInt8.ofNat (16 * (b.toNat / 16) + b.toNat % 16) = b := by
      rw [Nat.div_add_mod, UInt8.ofNat_toNat]
    rw [List.flatMap_cons, byteDigits]
    show (do
      let h ← value? (digit (b.toNat / 16))
      let l ← value? (digit (b.toNat % 16))
      let bytes ← decodeChars (rest.flatMap byteDigits)
      return UInt8.ofNat (16 * h + l) :: bytes) = _
    rw [hhigh, hlow, ih]
    exact congrArg some (congrArg (· :: rest) hbyte)

theorem decode?_encode (bytes : List UInt8) : decode? (encode bytes) = some bytes := by
  rw [decode?, encode, String.toList_ofList, decodeChars_flatMap]

theorem encode_injective : Function.Injective encode := by
  intro bytes bytes' h
  have hread := decode?_encode bytes
  rw [h, decode?_encode] at hread
  exact (Option.some.inj hread).symm

theorem exists_of_mem_encode {bytes : List UInt8} {c : Char} (h : c ∈ (encode bytes).toList) :
    ∃ d, d < 16 ∧ c = digit d := by
  rw [encode, String.toList_ofList] at h
  obtain ⟨b, -, hc⟩ := List.mem_flatMap.1 h
  have hlt := b.toNat_lt
  rcases List.mem_cons.1 hc with rfl | hc
  · exact ⟨b.toNat / 16, by omega, rfl⟩
  · exact ⟨b.toNat % 16, by omega, List.mem_singleton.1 hc⟩

end Hex

end Paydesk.Text
