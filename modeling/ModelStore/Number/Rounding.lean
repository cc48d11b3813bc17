/-!
Rounding of a quotient to the nearest natural number, a half going to the even neighbour, and the
number of decimal digits of a natural number. A quotient may be cut short before it is rounded, as
long as one bit below it says whether anything was cut off.
-/
namespace ModelStore.Number

def roundHalfEven (n d : Nat) : Nat :=
  let q := n / d
  let r := n % d
  if 2 * r < d then q
  else if d < 2 * r then q + 1
  else if q % 2 = 0 then q else q + 1

/-- A quotient and, as the lowest bit, whether there is a remainder. -/
def jam (n d : Nat) : Nat := 2 * (n / d) + if n % d = 0 then 0 else 1

/-- Zero counts as one digit. -/
def digitCount (n : Nat) : Nat :=
  if n < 10 then 1 else digitCount (n / 10) + 1

theorem lt_pow_digitCount (n : Nat) : n < Nat.pow 10 (digitCount n) := by
  simp only [Nat.pow_eq]
  induction n using digitCount.induct with
  | case1 n h =>
    rw [digitCount, if_pos h]
    omega
  | case2 n h ih =>
    rw [digitCount, if_neg h, Nat.pow_succ]
    omega

theorem pow_digitCount_le {n : Nat} (h : 0 < n) : Nat.pow 10 (digitCount n - 1) ≤ n := by
  simp only [Nat.pow_eq]
  induction n using digitCount.induct with
  | case1 n hn =>
    rw [digitCount, if_pos hn]
    exact h
  | case2 n hn ih =>
    have hdiv : 0 < n / 10 := by omega
    have hle := ih hdiv
    have hpos : 0 < digitCount (n / 10) := by
      rw [digitCount]
      split <;> omega
    rw [digitCount, if_neg hn, Nat.add_sub_cancel]
    calc 10 ^ digitCount (n / 10)
        = 10 ^ (digitCount (n / 10) - 1) * 10 := by
          rw [← Nat.pow_succ]; congr 1; omega
      _ ≤ n / 10 * 10 := Nat.mul_le_mul_right 10 hle
      _ ≤ n := Nat.div_mul_le_self n 10

end ModelStore.Number
