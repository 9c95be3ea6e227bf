import MakerSdk.Base.Rounding
import MakerSdk.Base.Words
import MakerSdk.Orders.Preimage
import Mathlib.Tactic.GCongr

namespace MakerSdk.Amounts

open Base.Words Base.Rounding Orders

def priceScale : ℕ := 1000000000

section Model

variable (price quantity : UInt64) (quoteDecimals underlyingDecimals : UInt8)

def quoteAmount (ceil : Bool) : Checked SpreadError UInt64 := do
  if quoteDecimals > 18 ∨ underlyingDecimals > 18 then raise .overflow
  else
    let quoteScale ← word 128 (10 ^ quoteDecimals.toNat)
    let denominator ← word 128 (1000000000 * (← word 128 (10 ^ underlyingDecimals.toNat)))
    let numerator ← word 128 (price.toNat * quantity.toNat)
    let result ←
      if quoteScale ≤ denominator then do
        let divisor ← quotient denominator quoteScale
        word 128 ((← quotient numerator divisor) +
          (ceil && decide ((← remainder numerator divisor) ≠ 0)).toNat)
      else do
        fits 128 .overflow (numerator * (← quotient quoteScale denominator))
    narrow .overflow result

/-- The contract's `scaled_quote_amount`: `price` (1e9-scaled quote per underlying token) times
`quantity` (underlying atoms), in quote atoms. -/
def scaledQuoteAmount : Checked Unit UInt64 := do
  if quoteDecimals > 18 ∨ underlyingDecimals > 18 then raise ()
  else
    let quoteScale ← word 128 (10 ^ quoteDecimals.toNat)
    let denominator ← word 128 (priceScale * (← word 128 (10 ^ underlyingDecimals.toNat)))
    let numerator ← word 128 (price.toNat * quantity.toNat)
    let amount ←
      if quoteScale ≤ denominator then do
        quotient numerator (← quotient denominator quoteScale)
      else do
        fits 128 () (numerator * (← quotient quoteScale denominator))
    narrow () amount

end Model

def totalPremiumQuoteAtoms (price quantity : UInt64) (underlyingDecimals quoteDecimals : UInt8) :
    Checked Unit UInt64 :=
  scaledQuoteAmount price quantity quoteDecimals underlyingDecimals

def quoteValue (price quantity : UInt64) (quoteDecimals underlyingDecimals : UInt8) : ℚ :=
  (price.toNat * quantity.toNat : ℕ) * 10 ^ quoteDecimals.toNat /
    10 ^ (9 + underlyingDecimals.toNat)

section Exact

variable (price quantity : UInt64) {quoteDecimals underlyingDecimals : UInt8}

theorem product_lt : price.toNat * quantity.toNat + 1 < 2 ^ 128 := by
  have hp : price.toNat ≤ 2 ^ 64 - 1 := Nat.le_pred_of_lt price.toNat_lt
  have hq : quantity.toNat ≤ 2 ^ 64 - 1 := Nat.le_pred_of_lt quantity.toNat_lt
  have h := Nat.mul_le_mul hp hq
  omega

theorem pow_scale_lt {k : ℕ} (h : k ≤ 27) : 10 ^ k < 2 ^ 128 :=
  (Nat.pow_le_pow_right (by decide) h).trans_lt (by decide)

theorem decimals_le {d : UInt8} (h : ¬d > 18) : d.toNat ≤ 18 := by
  exact UInt8.le_iff_toNat_le.mp (UInt8.not_lt.mp h)

theorem rounded_quoteValue (up : Bool) :
    rounded up (quoteValue price quantity quoteDecimals underlyingDecimals) =
      let n := price.toNat * quantity.toNat
      let q := quoteDecimals.toNat
      let u := 9 + underlyingDecimals.toNat
      if q ≤ u then n / 10 ^ (u - q) + (up && decide (n % 10 ^ (u - q) ≠ 0)).toNat
      else n * 10 ^ (q - u) :=
  rounded_scale up _ (by decide) _ _

theorem quotient_scale {ε : Type} {a b : ℕ} (h : b ≤ a) :
    (quotient (10 ^ a) (10 ^ b) : Checked ε ℕ) = .ok (10 ^ (a - b)) := by
  rw [quotient_of_pos (Nat.pow_pos (by decide)), Nat.pow_div h (by decide)]

theorem fits_narrow {ε : Type} (e : ε) (n : ℕ) : (fits 128 e n >>= narrow e) = narrow e n := by
  by_cases h : n < 2 ^ 128
  · rw [fits, if_pos h, ok_bind]
  · have h' : ¬n < 2 ^ 64 := fun h' ↦ h (h'.trans (by decide))
    rw [fits, if_neg h, narrow, if_neg h']
    rfl

theorem words_scale {ε β : Type} (h : ¬(quoteDecimals > 18 ∨ underlyingDecimals > 18))
    (f : ℕ → ℕ → ℕ → Checked ε β) :
    (do
      let quoteScale ← word 128 (10 ^ quoteDecimals.toNat)
      let denominator ← word 128 (1000000000 * (← word 128 (10 ^ underlyingDecimals.toNat)))
      let numerator ← word 128 (price.toNat * quantity.toNat)
      f quoteScale denominator numerator) =
    f (10 ^ quoteDecimals.toNat) (10 ^ (9 + underlyingDecimals.toNat))
      (price.toNat * quantity.toNat) := by
  have hq := decimals_le (not_or.mp h).1
  have hu := decimals_le (not_or.mp h).2
  have hn := product_lt price quantity
  have hscale : 1000000000 * 10 ^ underlyingDecimals.toNat =
      10 ^ (9 + underlyingDecimals.toNat) := by rw [Nat.pow_add]
  rw [word_of_lt (pow_scale_lt (by omega)), ok_bind, word_of_lt (pow_scale_lt (by omega)), ok_bind,
    hscale, word_of_lt (pow_scale_lt (by omega)), ok_bind, word_of_lt (by omega), ok_bind]

theorem quoteAmount_eq (up : Bool) :
    quoteAmount price quantity quoteDecimals underlyingDecimals up =
      if quoteDecimals > 18 ∨ underlyingDecimals > 18 then raise .overflow
      else narrow .overflow
        (rounded up (quoteValue price quantity quoteDecimals underlyingDecimals)) := by
  unfold quoteAmount
  split
  · rfl
  · rename_i h
    rw [words_scale price quantity h, rounded_quoteValue]
    dsimp only
    by_cases hle : quoteDecimals.toNat ≤ 9 + underlyingDecimals.toNat
    · have hpos : 0 < 10 ^ (9 + underlyingDecimals.toNat - quoteDecimals.toNat) :=
        Nat.pow_pos (by decide)
      rw [if_pos (Nat.pow_le_pow_right (by decide) hle), if_pos hle, quotient_scale hle, ok_bind,
        quotient_of_pos hpos, ok_bind, remainder_of_pos hpos, ok_bind, word_of_lt, ok_bind]
      have hdiv := Nat.div_le_self (price.toNat * quantity.toNat)
        (10 ^ (9 + underlyingDecimals.toNat - quoteDecimals.toNat))
      exact (Nat.add_le_add hdiv (Bool.toNat_le _)).trans_lt (product_lt price quantity)
    · have hlt := Nat.pow_lt_pow_right (show 1 < 10 by decide) (not_le.mp hle)
      rw [if_neg hlt.not_ge, if_neg hle, quotient_scale (not_le.mp hle).le, ok_bind, fits_narrow]

theorem scaledQuoteAmount_eq :
    scaledQuoteAmount price quantity quoteDecimals underlyingDecimals =
      if quoteDecimals > 18 ∨ underlyingDecimals > 18 then raise ()
      else narrow ()
        (rounded false (quoteValue price quantity quoteDecimals underlyingDecimals)) := by
  unfold scaledQuoteAmount priceScale
  split
  · rfl
  · rename_i h
    rw [words_scale price quantity h, rounded_quoteValue]
    dsimp only
    by_cases hle : quoteDecimals.toNat ≤ 9 + underlyingDecimals.toNat
    · rw [if_pos (Nat.pow_le_pow_right (by decide) hle), if_pos hle, quotient_scale hle, ok_bind,
        quotient_of_pos (Nat.pow_pos (by decide)), ok_bind]
      rfl
    · have hlt := Nat.pow_lt_pow_right (show 1 < 10 by decide) (not_le.mp hle)
      rw [if_neg hlt.not_ge, if_neg hle, quotient_scale (not_le.mp hle).le, ok_bind, fits_narrow]

variable {price quantity} {other : UInt64} {up : Bool} {r r' : UInt64}

theorem quoteAmount_ok :
    quoteAmount price quantity quoteDecimals underlyingDecimals up = .ok r ↔
      ¬(quoteDecimals > 18 ∨ underlyingDecimals > 18) ∧
        r.toNat = rounded up (quoteValue price quantity quoteDecimals underlyingDecimals) := by
  rw [quoteAmount_eq]
  split
  · rename_i h
    exact ⟨(fun h' ↦ by cases h'), fun h' ↦ absurd h h'.1⟩
  · rename_i h
    rw [narrow_ok]
    exact ⟨fun h' ↦ ⟨h, h'⟩, fun h' ↦ h'.2⟩

theorem quoteValue_mono (h : price ≤ other) :
    quoteValue price quantity quoteDecimals underlyingDecimals ≤
      quoteValue other quantity quoteDecimals underlyingDecimals := by
  have hprod := Nat.mul_le_mul_right quantity.toNat (UInt64.le_iff_toNat_le.mp h)
  unfold quoteValue
  gcongr

theorem quoteAmount_of_le (h : other ≤ price)
    (hr : quoteAmount price quantity quoteDecimals underlyingDecimals up = .ok r) :
    ∃ r', quoteAmount other quantity quoteDecimals underlyingDecimals up = .ok r' ∧ r' ≤ r := by
  obtain ⟨hd, hr⟩ := quoteAmount_ok.mp hr
  have hle := rounded_mono up (@quoteValue_mono other quantity quoteDecimals underlyingDecimals _ h)
  have hlt : rounded up (quoteValue other quantity quoteDecimals underlyingDecimals) < 2 ^ 64 :=
    (hr ▸ hle).trans_lt r.toNat_lt
  have hnarrow := UInt64.toNat_ofNat_of_lt' hlt
  refine ⟨_, quoteAmount_ok.mpr ⟨hd, hnarrow⟩, ?_⟩
  rw [UInt64.le_iff_toNat_le, hnarrow, hr]
  exact hle

end Exact

theorem scaledQuoteAmount_ok {price quantity r : UInt64}
    {quoteDecimals underlyingDecimals : UInt8} :
    scaledQuoteAmount price quantity quoteDecimals underlyingDecimals = .ok r ↔
      quoteAmount price quantity quoteDecimals underlyingDecimals false = .ok r := by
  rw [scaledQuoteAmount_eq, quoteAmount_eq]
  split
  · exact ⟨(fun h ↦ by cases h), fun h ↦ by cases h⟩
  · rw [narrow_ok, narrow_ok]

theorem mapError_narrow {ε γ : Type} (e : ε) (f : ε → γ) (n : ℕ) :
    (narrow e n).mapError (Fault.map f) = narrow (f e) n := by
  unfold narrow
  split <;> rfl

/-- A quote amount is the exact worth, rounded as asked; rounded down it is what the two unrounded
spellings of the contract's formula compute, refusals included. -/
theorem quoteAmount_exact (price quantity : UInt64) (quoteDecimals underlyingDecimals : UInt8) :
    (∀ ceil, quoteAmount price quantity quoteDecimals underlyingDecimals ceil =
      let exact := rounded ceil (quoteValue price quantity quoteDecimals underlyingDecimals)
      if quoteDecimals > 18 ∨ underlyingDecimals > 18 ∨ 2 ^ 64 ≤ exact then
        .error (.raised .overflow)
      else .ok (.ofNat exact)) ∧
    scaledQuoteAmount price quantity quoteDecimals underlyingDecimals =
      (quoteAmount price quantity quoteDecimals underlyingDecimals false).mapError
        (Fault.map fun _ ↦ ()) ∧
    totalPremiumQuoteAtoms price quantity underlyingDecimals quoteDecimals =
      (quoteAmount price quantity quoteDecimals underlyingDecimals false).mapError
        (Fault.map fun _ ↦ ()) := by
  have hfloor : scaledQuoteAmount price quantity quoteDecimals underlyingDecimals =
      (quoteAmount price quantity quoteDecimals underlyingDecimals false).mapError
        (Fault.map fun _ ↦ ()) := by
    rw [scaledQuoteAmount_eq, quoteAmount_eq]
    split
    · rfl
    · rw [mapError_narrow]
  refine ⟨fun ceil ↦ ?_, hfloor, hfloor⟩
  rw [quoteAmount_eq]
  by_cases hd : quoteDecimals > 18 ∨ underlyingDecimals > 18
  · rw [if_pos hd]
    dsimp only
    rw [if_pos (hd.elim .inl fun h ↦ .inr (.inl h))]
    rfl
  · obtain ⟨hq, hu⟩ := not_or.mp hd
    rw [if_neg hd, narrow]
    dsimp only
    by_cases hlt :
      rounded ceil (quoteValue price quantity quoteDecimals underlyingDecimals) < 2 ^ 64
    · rw [if_pos hlt, if_neg (by simp only [hq, hu, not_le.mpr hlt, or_self, not_false_eq_true])]
    · rw [if_neg hlt, if_pos (.inr (.inr (not_lt.mp hlt)))]
      rfl

end MakerSdk.Amounts
