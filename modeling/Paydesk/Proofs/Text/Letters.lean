import Paydesk.Proofs.Text.Codes
import Paydesk.Text.Ascii
import Mathlib.Data.List.Forall2

/-!
# Letters of either case

`Recased` says of two texts that they agree but for the case of ASCII letters: character by character,
without folding either of them. Folding both to small letters decides it (`recased_iff`), and so does
raising one to capitals where the other is in capitals already (`upper_eq_iff`). Since no letter is a
blank, what trimming leaves of two such texts agrees in the same way (`Recased.trim`).
-/

namespace Paydesk.Text

/-- The same character, or an ASCII letter in its two cases: the small letters stand 32 places behind
the capitals. -/
def SameLetter (c d : Char) : Prop :=
  c = d ∨ (c.isUpper = true ∧ d.toNat = c.toNat + 32) ∨ (d.isUpper = true ∧ c.toNat = d.toNat + 32)

/-- The texts agree but for the case of ASCII letters. -/
def Recased (s t : String) : Prop :=
  List.Forall₂ SameLetter s.toList t.toList

/-! ## Characters -/

theorem isUpper_iff {c : Char} : c.isUpper = true ↔ 65 ≤ c.toNat ∧ c.toNat ≤ 90 := by
  refine ⟨toNat_of_isUpper, fun h => decide_eq_true ?_⟩
  exact ⟨UInt32.le_iff_toNat_le.2 h.1, UInt32.le_iff_toNat_le.2 h.2⟩

theorem isLower_iff {c : Char} : c.isLower = true ↔ 97 ≤ c.toNat ∧ c.toNat ≤ 122 := by
  unfold Char.isLower
  rw [Bool.and_eq_true, decide_eq_true_eq, decide_eq_true_eq]
  exact and_congr UInt32.le_iff_toNat_le UInt32.le_iff_toNat_le

theorem isAlpha_iff {c : Char} :
    c.isAlpha = true ↔ (65 ≤ c.toNat ∧ c.toNat ≤ 90) ∨ (97 ≤ c.toNat ∧ c.toNat ≤ 122) := by
  unfold Char.isAlpha
  rw [Bool.or_eq_true, isUpper_iff, isLower_iff]

theorem toNat_toLower (c : Char) :
    c.toLower.toNat = if c.isUpper = true then c.toNat + 32 else c.toNat := by
  split
  · next hupper =>
    have hbounds := toNat_of_isUpper hupper
    have hlower : c.toLower.val = c.val + 32 := by
      unfold Char.toLower
      rw [dif_pos (of_decide_eq_true hupper)]
      rfl
    rw [← Char.toNat_val, hlower, UInt32.toNat_add, Char.toNat_val]
    exact Nat.mod_eq_of_lt (show c.toNat + 32 < 2 ^ 32 by omega)
  · next hupper => rw [toLower_of_not_isUpper hupper]

theorem toNat_toUpper (c : Char) :
    c.toUpper.toNat = if c.isLower = true then c.toNat - 32 else c.toNat := by
  unfold Char.toUpper
  split
  · next hlower =>
    have hbounds : 97 ≤ c.toNat ∧ c.toNat ≤ 122 :=
      ⟨UInt32.le_iff_toNat_le.1 hlower.1, UInt32.le_iff_toNat_le.1 hlower.2⟩
    rw [if_pos (isLower_iff.2 hbounds)]
    -- the capitals stand in front of the small letters, so the sum wraps around
    have hback : ('A'.val - 'a'.val).toNat = 4294967264 := by decide
    rw [← Char.toNat_val, UInt32.toNat_add, hback, Char.toNat_val]
    omega
  · next hlower =>
    rw [if_neg]
    intro h
    have hbounds := isLower_iff.1 h
    exact hlower ⟨UInt32.le_iff_toNat_le.2 hbounds.1, UInt32.le_iff_toNat_le.2 hbounds.2⟩

/-- Folding to small letters tells no more than the case of a letter apart. -/
theorem toLower_eq_iff {c d : Char} : c.toLower = d.toLower ↔ SameLetter c d := by
  unfold SameLetter
  rw [← Char.toNat_inj, ← Char.toNat_inj, toNat_toLower, toNat_toLower]
  simp only [isUpper_iff]
  split <;> split <;> omega

theorem toUpper_eq_iff {c d : Char} (h : c.isUpper = true) : d.toUpper = c ↔ SameLetter c d := by
  have hbounds := toNat_of_isUpper h
  unfold SameLetter
  rw [← Char.toNat_inj, ← Char.toNat_inj, toNat_toUpper]
  simp only [isUpper_iff, isLower_iff]
  split <;> omega

theorem SameLetter.isAlpha {c d : Char} (h : SameLetter c d) (hc : c.isUpper = true) :
    d.isAlpha = true := by
  have hbounds := toNat_of_isUpper hc
  rw [isAlpha_iff]
  rcases h with rfl | ⟨-, hd⟩ | ⟨hd, -⟩
  · exact .inl hbounds
  · omega
  · exact .inl (toNat_of_isUpper hd)

theorem SameLetter.eq {c d : Char} (h : SameLetter c d) (hc : ¬ c.isAlpha = true) : d = c := by
  rw [isAlpha_iff] at hc
  rcases h with heq | ⟨hupper, -⟩ | ⟨hupper, hd⟩
  · exact heq.symm
  · exact absurd (.inl (toNat_of_isUpper hupper)) hc
  · have hbounds := toNat_of_isUpper hupper
    omega

theorem isUpper_toUpper (c : Char) : c.toUpper.isUpper = c.isAlpha := by
  rw [Bool.eq_iff_iff, isUpper_iff, isAlpha_iff, toNat_toUpper]
  simp only [isLower_iff]
  split <;> omega

theorem isBlank_toLower (c : Char) : isBlank c.toLower = isBlank c := by
  by_cases hupper : c.isUpper = true
  · have hbounds := toNat_of_isUpper hupper
    rw [isBlank_of_isUpper hupper]
    simp only [isBlank, toNat_toLower, if_pos hupper, Bool.or_eq_false_iff, Bool.and_eq_false_iff,
      decide_eq_false_iff_not, beq_eq_false_iff_ne]
    omega
  · rw [toLower_of_not_isUpper hupper]

/-! ## Texts -/

theorem trimChars_map_toLower (cs : List Char) :
    trimChars (cs.map Char.toLower) = (trimChars cs).map Char.toLower := by
  have hblank : isBlank ∘ Char.toLower = isBlank := funext isBlank_toLower
  rw [trimChars, trimChars, List.dropWhile_map, hblank, ← List.map_reverse, List.dropWhile_map,
    hblank, List.map_reverse]

theorem map_toUpper_eq_iff {cs ds : List Char} (h : ∀ c ∈ cs, c.isUpper = true) :
    ds.map Char.toUpper = cs ↔ List.Forall₂ SameLetter cs ds := by
  induction cs generalizing ds with
  | nil => simp
  | cons c cs ih =>
    obtain ⟨hfirst, hrest⟩ := List.forall_mem_cons.1 h
    cases ds with
    | nil => simp
    | cons d ds =>
      rw [List.map_cons, List.cons.injEq, List.forall₂_cons, toUpper_eq_iff hfirst, ih hrest]

section

variable {s t u : String}

theorem recased_iff : Recased s t ↔ s.toList.map Char.toLower = t.toList.map Char.toLower := by
  rw [← List.forall₂_eq_eq_eq, List.forall₂_map_left_iff, List.forall₂_map_right_iff]
  simp only [toLower_eq_iff]
  rfl

theorem sameLetters_eq_true : sameLetters s t = true ↔ Recased s t :=
  beq_iff_eq.trans recased_iff.symm

theorem Recased.refl (s : String) : Recased s s :=
  recased_iff.2 rfl

theorem Recased.symm (h : Recased s t) : Recased t s :=
  recased_iff.2 (recased_iff.1 h).symm

theorem Recased.trans (h : Recased s t) (h' : Recased t u) : Recased s u :=
  recased_iff.2 ((recased_iff.1 h).trans (recased_iff.1 h'))

theorem Recased.trim (h : Recased s t) : Recased (trim s) (trim t) := by
  rw [recased_iff] at h ⊢
  rw [Text.trim, Text.trim, String.toList_ofList, String.toList_ofList, ← trimChars_map_toLower, h,
    trimChars_map_toLower]

theorem Recased.exists_mem (h : Recased s t) {d : Char} (hd : d ∈ t.toList) :
    ∃ c ∈ s.toList, SameLetter c d := by
  have hmem : d.toLower ∈ s.toList.map Char.toLower := by
    rw [recased_iff.1 h]
    exact List.mem_map_of_mem hd
  obtain ⟨c, hc, hsame⟩ := List.mem_map.1 hmem
  exact ⟨c, hc, toLower_eq_iff.1 hsame⟩

/-- Raising a text to capitals gives a text in capitals if they agree but for case. -/
theorem upper_eq_iff (h : ∀ c ∈ s.toList, c.isUpper = true) : upper t = s ↔ Recased s t := by
  rw [Recased, ← map_toUpper_eq_iff h, upper, ← String.toList_inj, String.toList_ofList]

end

end Paydesk.Text
