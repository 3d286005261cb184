/-!
# Rounding a quotient

`roundDiv` rounds a quotient of natural numbers to the nearest integer, a half to the even
neighbour.  Every rounding of the library, binary or decimal, goes through it.
-/

namespace ComponentCensus.Number

/-- The natural number nearest to `num / den`; of two equally near ones the even one. -/
def roundDiv (num den : Nat) : Nat :=
  let quotient := num / den
  let remainder := num % den
  if 2 * remainder < den then quotient
  else if den < 2 * remainder then quotient + 1
  else if quotient % 2 = 0 then quotient
  else quotient + 1

/-- The rounded quotient is within half a unit of the exact one. -/
theorem roundDiv_near (num den : Nat) (hden : 0 < den) :
    2 * (roundDiv num den * den) ≤ 2 * num + den ∧
      2 * num ≤ 2 * (roundDiv num den * den) + den := by
  have hsplit : den * (num / den) + num % den = num := Nat.div_add_mod num den
  have hlt : num % den < den := Nat.mod_lt _ hden
  unfold roundDiv
  generalize num / den = q at *
  generalize num % den = r at *
  have hnext : (q + 1) * den = den * q + den := by rw [Nat.add_mul, Nat.mul_comm]; simp
  have hcomm : q * den = den * q := Nat.mul_comm ..
  simp only
  split
  · omega
  · split
    · omega
    · split <;> omega

end ComponentCensus.Number
