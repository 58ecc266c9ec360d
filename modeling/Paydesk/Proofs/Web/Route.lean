import Paydesk.Proofs.Text.Split
import Paydesk.Web.Route

/-!
# Routes and their paths

Every route has exactly one path: what a path names is the route whose path it is
(`Route.ofPath?_eq_some`). A path falls into the parts between its strokes, none of which holds a
stroke, and is put together from them again.
-/

namespace Paydesk

namespace Web

/-! ## Paths -/

def Command.name : Command → List Char
  | .process => "process".toList
  | .complete => "complete".toList
  | .fail => "fail".toList
  | .cancel => "cancel".toList
  | .refund => "refund".toList

namespace Route

def paymentsPath : List Char := "/api/payments".toList

def path : Route → List Char
  | .health => healthPath
  | .document => documentPath
  | .payments => paymentsPath
  | .payment segment => paymentsPath ++ '/' :: segment
  | .command segment c => paymentsPath ++ '/' :: (segment ++ '/' :: c.name)

/-- The name of a payment is one segment of a path that is not empty. -/
def IsProper : Route → Prop
  | .payment segment | .command segment _ => segment ≠ [] ∧ '/' ∉ segment
  | _ => True

instance : DecidablePred IsProper
  | .health | .document | .payments => inferInstanceAs (Decidable True)
  | .payment segment | .command segment _ =>
    inferInstanceAs (Decidable (segment ≠ [] ∧ '/' ∉ segment))

theorem command?_eq_some {name : List Char} {c : Command} :
    command? name = some c ↔ name = c.name := by
  constructor
  · intro h
    unfold command? at h
    repeat' split at h
    all_goals cases h
    all_goals assumption
  · rintro rfl
    cases c <;> rfl

@[simp] theorem command?_name (c : Command) : command? c.name = some c :=
  command?_eq_some.2 rfl

theorem slash_not_mem_name (c : Command) : '/' ∉ c.name := by
  cases c <;> decide

theorem splitOn_eq_below {path : List Char} {rest : List (List Char)} :
    Text.splitOn '/' path = [] :: "api".toList :: "payments".toList :: rest ↔
      (∀ part ∈ rest, '/' ∉ part) ∧ path = paymentsPath ++ rest.flatMap ('/' :: ·) := by
  have hrest : ∀ rest : List (List Char), ['/'].intercalate ([] :: "api".toList ::
      "payments".toList :: rest) = paymentsPath ++ rest.flatMap ('/' :: ·) := by
    intro rest
    have htail : ∀ (first : List Char) (rest : List (List Char)),
        ['/'].intercalate (first :: rest) = first ++ rest.flatMap ('/' :: ·) := by
      intro first rest
      induction rest generalizing first with
      | nil => simp
      | cons second rest ih => rw [List.intercalate_cons_cons, ih]; simp
    rw [htail]
    rfl
  rw [Text.splitOn_eq_iff (List.cons_ne_nil _ _), hrest]
  simp

theorem below?_eq_some {rest : List (List Char)} {route : Route} :
    below? rest = some route ↔
      (∃ segment, segment ≠ [] ∧ rest = [segment] ∧ route = .payment segment) ∨
      ∃ segment c, segment ≠ [] ∧ rest = [segment, c.name] ∧ route = .command segment c := by
  constructor
  · intro h
    unfold below? at h
    split at h
    · rename_i id
      split at h
      · cases h
      · rename_i hid
        cases h
        exact .inl ⟨id, by simpa using hid, rfl, rfl⟩
    · rename_i id name
      split at h
      · cases h
      · rename_i hid
        obtain ⟨c, hname, rfl⟩ := Option.map_eq_some_iff.1 h
        rw [command?_eq_some.1 hname]
        exact .inr ⟨id, c, by simpa using hid, rfl, rfl⟩
    · cases h
  · rintro (⟨segment, hsegment, rfl, rfl⟩ | ⟨segment, c, hsegment, rfl, rfl⟩)
    · simp [below?, hsegment]
    · simp [below?, hsegment]

theorem not_isPublic_below (rest : List Char) : isPublic (paymentsPath ++ rest) = false := by
  have hstart : (paymentsPath ++ rest).take 5 = "/api/".toList :=
    List.take_append_of_le_length (by decide)
  have hhealth : paymentsPath ++ rest ≠ healthPath := by
    intro h
    rw [h] at hstart
    exact absurd hstart (by decide)
  have hdocument : paymentsPath ++ rest ≠ documentPath := by
    intro h
    rw [h] at hstart
    exact absurd hstart (by decide)
  simp [isPublic, hhealth, hdocument]

theorem ofPath?_of_not_isPublic {path : List Char} (h : isPublic path = false) :
    ofPath? path =
      match Text.splitOn '/' path with
      | root :: first :: second :: rest =>
        if root.isEmpty ∧ first = "api".toList ∧ second = "payments".toList then
          if rest.isEmpty then some .payments else below? rest
        else none
      | _ => none := by
  obtain ⟨hhealth, hdocument⟩ : path ≠ healthPath ∧ path ≠ documentPath := by
    simpa [isPublic] using h
  unfold ofPath?
  rw [if_neg hhealth]
  exact if_neg hdocument

theorem ofPath?_below (rest : List (List Char)) (hrest : ∀ part ∈ rest, '/' ∉ part) :
    ofPath? (paymentsPath ++ rest.flatMap ('/' :: ·)) =
      if rest.isEmpty then some .payments else below? rest := by
  rw [ofPath?_of_not_isPublic (not_isPublic_below _), splitOn_eq_below.2 ⟨hrest, rfl⟩]
  simp

/-- The route of every path is the proper one that it is the path of. -/
theorem ofPath?_eq_some {path : List Char} {route : Route} :
    ofPath? path = some route ↔ route.IsProper ∧ path = route.path := by
  constructor
  · intro h
    cases hpublic : isPublic path with
    | true =>
      unfold ofPath? at h
      split at h
      · cases h
        exact ⟨trivial, ‹_›⟩
      · split at h
        · cases h
          exact ⟨trivial, ‹_›⟩
        · simp_all [isPublic]
    | false =>
      rw [ofPath?_of_not_isPublic hpublic] at h
      split at h
      · rename_i root first second rest hsplit
        split at h
        · rename_i hprefix
          obtain ⟨hroot, rfl, rfl⟩ := hprefix
          rw [List.isEmpty_iff.1 hroot] at hsplit
          obtain ⟨hfree, rfl⟩ := splitOn_eq_below.1 hsplit
          split at h
          · rename_i hempty
            cases h
            exact ⟨trivial, by simp [List.isEmpty_iff.1 hempty, Route.path]⟩
          · rcases below?_eq_some.1 h with
              ⟨segment, hsegment, rfl, rfl⟩ | ⟨segment, c, hsegment, rfl, rfl⟩
            · exact ⟨⟨hsegment, hfree segment (by simp)⟩, by simp [Route.path]⟩
            · exact ⟨⟨hsegment, hfree segment (by simp)⟩, by simp [Route.path]⟩
        · cases h
      · cases h
  · rintro ⟨hproper, rfl⟩
    cases route with
    | health => rfl
    | document => rfl
    | payments => simpa [Route.path] using ofPath?_below [] (by simp)
    | payment segment =>
      have hroute := ofPath?_below [segment] (by simpa using hproper.2)
      simpa [Route.path, below?, hproper.1] using hroute
    | command segment c =>
      have hroute := ofPath?_below [segment, c.name] (by simp [hproper.2, slash_not_mem_name])
      simpa [Route.path, below?, hproper.1] using hroute

end Route

end Web

end Paydesk
