import Mathlib.Algebra.Order.Floor.Semifield
import Mathlib.Data.Rat.Floor
import Mathlib.Tactic.Linarith
import Mathlib.Tactic.Ring

namespace MakerSdk.Base.Rounding

variable {x y : ℚ}

def rounded (up : Bool) (x : ℚ) : ℕ := if up then ⌈x⌉₊ else ⌊x⌋₊

theorem rounded_mono (up : Bool) (h : x ≤ y) : rounded up x ≤ rounded up y := by
  cases up with
  | true => exact Nat.ceil_mono h
  | false => exact Nat.floor_mono h

@[simp] theorem rounded_natCast (up : Bool) (n : ℕ) : rounded up (n : ℚ) = n := by
  cases up with
  | true => exact Nat.ceil_natCast n
  | false => exact Nat.floor_natCast n

theorem ceil_div (n : ℕ) {d : ℕ} (hd : 0 < d) :
    ⌈(n : ℚ) / d⌉₊ = n / d + (decide (n % d ≠ 0)).toNat := by
  have hd' : (0 : ℚ) < d := by exact_mod_cast hd
  have hsplit := Nat.div_add_mod n d
  by_cases hr : n % d = 0
  · have hn : (n : ℚ) / d = (n / d : ℕ) := by
      rw [div_eq_iff hd'.ne', mul_comm]
      exact_mod_cast (by omega : n = d * (n / d))
    rw [hn, Nat.ceil_natCast, hr]
    rfl
  · have hlt := Nat.mod_lt n hd
    simp only [ne_eq, hr, not_false_eq_true, decide_true, Bool.toNat_true]
    rw [Nat.ceil_eq_iff (Nat.succ_ne_zero _), lt_div_iff₀ hd', div_le_iff₀ hd']
    constructor
    · exact_mod_cast (by rw [Nat.add_sub_cancel, mul_comm]; omega : (n / d + 1 - 1) * d < n)
    · exact_mod_cast (by rw [Nat.add_mul, mul_comm]; omega : n ≤ (n / d + 1) * d)

theorem rounded_div (up : Bool) (n : ℕ) {d : ℕ} (hd : 0 < d) :
    rounded up ((n : ℚ) / d) = n / d + (up && decide (n % d ≠ 0)).toNat := by
  cases up with
  | true => exact ceil_div n hd
  | false => exact Nat.floor_div_eq_div n d

/-- Of two powers of one base the smaller divides the larger, so scaling by their quotient is exact
on one side and a single division on the other. -/
theorem rounded_scale (up : Bool) (n : ℕ) {base : ℕ} (hbase : 0 < base) (a b : ℕ) :
    rounded up ((n : ℚ) * base ^ a / base ^ b) =
      if a ≤ b then n / base ^ (b - a) + (up && decide (n % base ^ (b - a) ≠ 0)).toNat
      else n * base ^ (a - b) := by
  have hbase' : (base : ℚ) ≠ 0 := by exact_mod_cast hbase.ne'
  split
  next hab =>
    have hvalue : (n : ℚ) * base ^ a / base ^ b = n / (base ^ (b - a) : ℕ) := by
      rw [Nat.cast_pow, ← Nat.add_sub_of_le hab, pow_add, Nat.add_sub_cancel_left,
        mul_comm (n : ℚ), mul_div_mul_left _ _ (pow_ne_zero a hbase')]
    rw [hvalue, rounded_div up n (Nat.pow_pos hbase)]
  next hab =>
    have hvalue : (n : ℚ) * base ^ a / base ^ b = (n * base ^ (a - b) : ℕ) := by
      have hsplit : a = b + (a - b) := by omega
      rw [div_eq_iff (pow_ne_zero b hbase')]
      nth_rewrite 1 [hsplit]
      push_cast
      ring
    rw [hvalue, rounded_natCast]

theorem ceil_add_ceil (hx : 0 ≤ x) (hy : 0 ≤ y) :
    ⌈x⌉₊ + ⌈y⌉₊ = ⌈x + y⌉₊ ∨ ⌈x⌉₊ + ⌈y⌉₊ = ⌈x + y⌉₊ + 1 := by
  have hle := Nat.ceil_add_le x y
  have hlt : ((⌈x⌉₊ + ⌈y⌉₊ : ℕ) : ℚ) < (⌈x + y⌉₊ + 2 : ℕ) := by
    have h₁ := Nat.ceil_lt_add_one hx
    have h₂ := Nat.ceil_lt_add_one hy
    have h₃ := Nat.le_ceil (x + y)
    push_cast
    linarith
  have hlt' : ⌈x⌉₊ + ⌈y⌉₊ < ⌈x + y⌉₊ + 2 := by exact_mod_cast hlt
  omega

section Inverse

variable {n d : ℕ}

theorem galois_scale (hn : 0 < n) (hd : 0 < d) :
    GaloisConnection (fun a : ℕ ↦ a * d / n) (fun b ↦ ((b + 1) * n - 1) / d) := by
  intro a b
  have hpos : 0 < (b + 1) * n := Nat.mul_pos (Nat.succ_pos b) hn
  rw [← Nat.lt_succ_iff, Nat.div_lt_iff_lt_mul hn, Nat.le_div_iff_mul_le hd]
  exact Nat.lt_iff_le_pred hpos

theorem scale_inverse (hn : 0 < n) (hd : 0 < d) (h : d ≤ n) (b : ℕ) :
    ((b + 1) * n - 1) / d * d / n = b := by
  refine le_antisymm ((galois_scale hn hd).l_u_le b) ?_
  rw [Nat.le_div_iff_mul_le hn]
  have hsplit := Nat.div_add_mod ((b + 1) * n - 1) d
  have hlt := Nat.mod_lt ((b + 1) * n - 1) hd
  rw [mul_comm d] at hsplit
  rw [Nat.succ_mul] at hsplit hlt ⊢
  omega

theorem isGreatest_scale (hn : 0 < n) (hd : 0 < d) {a b : ℕ}
    (h : IsGreatest {a : ℕ | a * d / n = b} a) : a = ((b + 1) * n - 1) / d := by
  have hgc := galois_scale hn hd
  have hle : a ≤ ((b + 1) * n - 1) / d := hgc.le_u (le_of_eq h.1)
  have hmem : ((b + 1) * n - 1) / d * d / n = b :=
    le_antisymm (hgc.l_u_le b) (h.1.symm.trans_le (hgc.monotone_l hle))
  exact le_antisymm hle (h.2 hmem)

end Inverse

end MakerSdk.Base.Rounding
