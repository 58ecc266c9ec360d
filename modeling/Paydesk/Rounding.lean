/-!
# Rounding quotients

A quotient of natural numbers is rounded to the nearest whole number; the rules here differ in where
a half goes.
-/

namespace Paydesk

/-- The nearest whole number, a half to the even neighbour. -/
def divHalfEven (n d : Nat) : Nat :=
  let q := n / d
  let r := n % d
  if 2 * r < d then q
  else if d < 2 * r then q + 1
  else if q % 2 = 0 then q
  else q + 1

/-- The nearest whole number, a half upwards. -/
def divHalfUp (n d : Nat) : Nat :=
  (2 * n + d) / (2 * d)

theorem divHalfEven_of_dvd {n d : Nat} (hd : 0 < d) (h : d ∣ n) : divHalfEven n d = n / d := by
  have hr : n % d = 0 := Nat.mod_eq_zero_of_dvd h
  simp [divHalfEven, hr, hd]

end Paydesk
