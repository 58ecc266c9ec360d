/-!
# Instants

A point in time as whole seconds since the start of 1970 in universal time and nanoseconds after
them. A leap second is the last second of a minute with a thousand million nanoseconds and more.
-/

namespace Paydesk

/-- A point in universal time. -/
structure Instant where
  seconds : Int
  nanos : Nat
  deriving DecidableEq, Inhabited

namespace Instant

/-- The first instant lies strictly before the second. -/
def before (a b : Instant) : Bool :=
  a.seconds < b.seconds || (a.seconds == b.seconds && a.nanos < b.nanos)

theorem before_iff {a b : Instant} :
    a.before b = true ↔ a.seconds < b.seconds ∨ a.seconds = b.seconds ∧ a.nanos < b.nanos := by
  simp [before]

/-- An instant is not later than another. -/
instance : LE Instant := ⟨fun a b => b.before a = false⟩

instance : LT Instant := ⟨fun a b => a.before b = true⟩

instance : DecidableLE Instant := fun a b =>
  inferInstanceAs (Decidable (b.before a = false))

@[simp] theorem le_refl (a : Instant) : a ≤ a := by
  show a.before a = false
  simp [before]

theorem le_trans {a b c : Instant} (h : a ≤ b) (h' : b ≤ c) : a ≤ c := by
  have hab : ¬ b.before a = true := Bool.not_eq_true _ ▸ h
  have hbc : ¬ c.before b = true := Bool.not_eq_true _ ▸ h'
  show c.before a = false
  rw [← Bool.not_eq_true, before_iff]
  rw [before_iff] at hab hbc
  omega

/-- The instant a number of seconds later. -/
def later (a : Instant) (seconds : Int) : Instant :=
  { a with seconds := a.seconds + seconds }

end Instant

end Paydesk
