import Paydesk.Text.Blank
import Mathlib.Data.List.TakeWhile

/-!
# Trimmed texts

A text is what trimming leaves of it between blanks (`exists_trimChars`), and blanks that are put
around a text are trimmed away again (`trimChars_around`). Of a text without blanks nothing is
trimmed, so such a text is what trimming leaves of another one exactly if this other one is the text
between blanks (`trim_eq_iff`).
-/

namespace Paydesk.Text

def AllBlank (cs : List Char) : Prop :=
  ∀ c ∈ cs, isBlank c = true

theorem dropWhile_allBlank {cs : List Char} (h : AllBlank cs) : cs.dropWhile isBlank = [] :=
  List.dropWhile_eq_nil_iff.2 h

theorem AllBlank.reverse {cs : List Char} (h : AllBlank cs) : AllBlank cs.reverse :=
  fun c hc => h c (List.mem_reverse.1 hc)

theorem trimChars_around {front back : List Char} (cs : List Char) (hfront : AllBlank front)
    (hback : AllBlank back) : trimChars (front ++ cs ++ back) = trimChars cs := by
  have hskip : (front ++ cs ++ back).dropWhile isBlank = (cs ++ back).dropWhile isBlank := by
    rw [List.append_assoc, List.dropWhile_append_of_pos hfront]
  unfold trimChars
  rw [hskip, List.dropWhile_append]
  split
  · -- the text holds nothing but blanks
    next hnone =>
      rw [dropWhile_allBlank hback, List.isEmpty_iff.1 hnone]
  · rw [List.reverse_append, List.dropWhile_append_of_pos hback.reverse]

theorem exists_trimChars (cs : List Char) :
    ∃ front back, cs = front ++ trimChars cs ++ back ∧ AllBlank front ∧ AllBlank back := by
  have hblank : ∀ ds : List Char, AllBlank (ds.takeWhile isBlank) :=
    fun ds c hc => List.mem_takeWhile_imp hc
  refine ⟨cs.takeWhile isBlank, ((cs.dropWhile isBlank).reverse.takeWhile isBlank).reverse, ?_,
    hblank cs, (hblank _).reverse⟩
  rw [trimChars, List.append_assoc, ← List.reverse_append, List.takeWhile_append_dropWhile,
    List.reverse_reverse, List.takeWhile_append_dropWhile]

theorem trimChars_eq_self {cs : List Char} (h : ∀ c ∈ cs, isBlank c = false) :
    trimChars cs = cs := by
  obtain ⟨front, back, hcs, hfront, hback⟩ := exists_trimChars cs
  have hnil : ∀ ds : List Char, AllBlank ds → (∀ c ∈ ds, c ∈ cs) → ds = [] := by
    intro ds hds hmem
    cases ds with
    | nil => rfl
    | cons c rest =>
      have hc := List.mem_cons_self (a := c) (l := rest)
      exact absurd ((hds c hc).symm.trans (h c (hmem c hc))) nofun
  have hfront_nil := hnil front hfront fun c hc => by
    rw [hcs]
    exact List.mem_append_left _ (List.mem_append_left _ hc)
  have hback_nil := hnil back hback fun c hc => by
    rw [hcs]
    exact List.mem_append_right _ hc
  rw [hfront_nil, hback_nil, List.nil_append, List.append_nil] at hcs
  exact hcs.symm

/-- Trimming leaves a text without blanks as it is. -/
theorem trim_eq_self {s : String} (h : ∀ c ∈ s.toList, isBlank c = false) : trim s = s := by
  rw [trim, trimChars_eq_self h, String.ofList_toList]

/-- What trimming leaves is a given text without blanks if this text stands between blanks. -/
theorem trim_eq_iff {s t : String} (h : ∀ c ∈ t.toList, isBlank c = false) :
    trim s = t ↔
      ∃ front back, s.toList = front ++ t.toList ++ back ∧ AllBlank front ∧ AllBlank back := by
  constructor
  · rintro rfl
    rw [trim, String.toList_ofList]
    exact exists_trimChars s.toList
  · rintro ⟨front, back, hs, hfront, hback⟩
    rw [trim, hs, trimChars_around _ hfront hback, trimChars_eq_self h, String.ofList_toList]

end Paydesk.Text
