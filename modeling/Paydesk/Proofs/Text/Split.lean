import Paydesk.Text.Split
import Mathlib.Data.List.Basic
import Mathlib.Data.List.TakeWhile

/-!
# Texts taken apart

The parts between separators are those without separators that a text is put together from
(`splitOn_eq_iff`). A text is cut at its first separator: what stands in front of the cut holds none
(`cut?_eq_some`).
-/

namespace Paydesk.Text

/-! ## All separators -/

theorem splitOn_eq (separator : Char) (cs : List Char) :
    splitOn separator cs = cs.splitOn separator := by
  unfold List.splitOn
  induction cs with
  | nil => rfl
  | cons c rest ih =>
    rw [List.splitOnP_cons_eq_if_modifyHead, splitOn, ih]
    by_cases hc : c = separator
    · simp [hc]
    · rw [if_neg hc, if_neg (by simpa using hc)]
      cases hparts : rest.splitOnP fun x => x == separator with
      | nil => exact absurd (ih.trans hparts) (splitOn_ne_nil separator rest)
      | cons part parts => rfl

theorem not_mem_of_mem_splitOn {separator : Char} {cs part : List Char}
    (h : part ∈ splitOn separator cs) : separator ∉ part := by
  induction cs generalizing part with
  | nil =>
    rw [List.mem_singleton.1 h]
    exact List.not_mem_nil
  | cons c rest ih =>
    unfold splitOn at h
    split at h
    · rcases List.mem_cons.1 h with rfl | h
      · exact List.not_mem_nil
      · exact ih h
    · rename_i hc
      split at h
      · rename_i first parts hparts
        rcases List.mem_cons.1 h with rfl | h
        · have hfirst : separator ∉ first := ih (by rw [hparts]; exact List.mem_cons_self)
          simpa [Ne.symm hc] using hfirst
        · exact ih (by rw [hparts]; exact List.mem_cons_of_mem first h)
      · rw [List.mem_singleton.1 h]
        simpa using Ne.symm hc

/-- The parts of a text are those without separators that it is put together from. -/
theorem splitOn_eq_iff {separator : Char} {cs : List Char} {parts : List (List Char)}
    (hparts : parts ≠ []) :
    splitOn separator cs = parts ↔
      (∀ part ∈ parts, separator ∉ part) ∧ cs = [separator].intercalate parts := by
  constructor
  · rintro rfl
    refine ⟨fun part => not_mem_of_mem_splitOn, ?_⟩
    rw [splitOn_eq, List.intercalate_splitOn]
  · rintro ⟨hfree, rfl⟩
    rw [splitOn_eq, List.splitOn_intercalate separator hfree hparts]

/-! ## The first separator -/

/-- There is one first separator: what stands before and after it is determined. -/
theorem eq_of_append_cons_eq {α : Type} {a : α} {front rest front' rest' : List α}
    (hfront : a ∉ front) (hfront' : a ∉ front')
    (h : front ++ a :: rest = front' ++ a :: rest') : front = front' ∧ rest = rest' := by
  induction front generalizing front' with
  | nil =>
    cases front' with
    | nil => exact ⟨rfl, (List.cons.inj h).2⟩
    | cons b more =>
      obtain ⟨rfl, -⟩ := List.cons.inj h
      exact absurd List.mem_cons_self hfront'
  | cons c front ih =>
    cases front' with
    | nil =>
      obtain ⟨rfl, -⟩ := List.cons.inj h
      exact absurd List.mem_cons_self hfront
    | cons b more =>
      obtain ⟨rfl, htail⟩ := List.cons.inj h
      obtain ⟨rfl, rfl⟩ := ih (fun hmem => hfront (List.mem_cons_of_mem c hmem))
        (fun hmem => hfront' (List.mem_cons_of_mem c hmem)) htail
      exact ⟨rfl, rfl⟩

theorem cut?_append {separator : Char} {front : List Char} (hfront : separator ∉ front)
    (rest : List Char) : cut? separator (front ++ separator :: rest) = some (front, rest) := by
  have hpass : ∀ c ∈ front, (c != separator) = true := fun c hc =>
    bne_iff_ne.2 (ne_of_mem_of_not_mem hc hfront)
  unfold cut?
  rw [List.dropWhile_append_of_pos hpass, List.takeWhile_append_of_pos hpass]
  simp

theorem cut?_eq_some {separator : Char} {cs front rest : List Char} :
    cut? separator cs = some (front, rest) ↔
      cs = front ++ separator :: rest ∧ separator ∉ front := by
  constructor
  · intro h
    have hsplit := List.takeWhile_append_dropWhile (p := fun c => c != separator) (l := cs)
    unfold cut? at h
    split at h
    · cases h
    · next c back hback =>
      obtain ⟨rfl, rfl⟩ := Prod.mk.inj (Option.some.inj h)
      have hc : c = separator := by
        have hhead := List.head?_dropWhile_not (fun c => c != separator) cs
        rw [hback] at hhead
        simpa using hhead
      subst hc
      rw [hback] at hsplit
      exact ⟨hsplit.symm, fun hmem => by simpa using List.mem_takeWhile_imp hmem⟩
  · rintro ⟨rfl, hfront⟩
    exact cut?_append hfront rest

end Paydesk.Text
