/-!
# Powers of two and ten

The two powers that place values are made of, as functions of their own, with the laws that
rounding and scaling need.
-/

namespace ListingAttributes.Numeric

/-- Two to a power. -/
def powTwo (k : Nat) : Nat := Nat.pow 2 k

/-- Ten to a power. -/
def powTen (k : Nat) : Nat := Nat.pow 10 k

theorem powTwo_pos (k : Nat) : 0 < powTwo k := Nat.two_pow_pos k

theorem powTwo_ne_zero (k : Nat) : powTwo k ≠ 0 := Nat.ne_of_gt (powTwo_pos k)

theorem powTwo_add (m n : Nat) : powTwo (m + n) = powTwo m * powTwo n := Nat.pow_add 2 m n

theorem powTwo_le_powTwo {m n : Nat} (h : m ≤ n) : powTwo m ≤ powTwo n :=
  Nat.pow_le_pow_right (by decide) h

theorem powTwo_dvd_powTwo {m n : Nat} (h : m ≤ n) : powTwo m ∣ powTwo n :=
  Nat.pow_dvd_pow 2 h

theorem lt_powTwo_iff_log2_lt {n : Nat} (hne : n ≠ 0) (k : Nat) : n < powTwo k ↔ n.log2 < k :=
  (Nat.log2_lt hne).symm

theorem log2_powTwo (k : Nat) : (powTwo k).log2 = k := Nat.log2_two_pow

end ListingAttributes.Numeric
