import MakerSdk.Amounts.Quote

namespace MakerSdk.Amounts

open Base.Words Base.Rounding Orders

def collateral (lower upper quantity : UInt64) (quoteDecimals underlyingDecimals : UInt8) :
    Checked SpreadError UInt64 := do
  quoteAmount (← lift (width lower upper)) quantity quoteDecimals underlyingDecimals true

structure SpreadTerms where
  kind : SpreadType
  lowerStrike : UInt64
  upperStrike : UInt64
  quantity : UInt64
  quoteDecimals : UInt8
  underlyingDecimals : UInt8

structure SpreadSettlement where
  holderPayoff : UInt64
  writerReturn : UInt64
deriving DecidableEq

namespace SpreadTerms

variable (t : SpreadTerms)

def collateral : Checked SpreadError UInt64 :=
  Amounts.collateral t.lowerStrike t.upperStrike t.quantity t.quoteDecimals t.underlyingDecimals

def quote (price : UInt64) (ceil : Bool) : Checked SpreadError UInt64 :=
  quoteAmount price t.quantity t.quoteDecimals t.underlyingDecimals ceil

def intrinsic (settlementPrice : UInt64) : UInt64 :=
  match t.kind with
  | .callSpread => saturatingSub settlementPrice t.lowerStrike
  | .putSpread => saturatingSub t.upperStrike settlementPrice

def payoff (settlementPrice : UInt64) : Checked SpreadError UInt64 := do
  let width ← lift (width t.lowerStrike t.upperStrike)
  t.quote (min (t.intrinsic settlementPrice) width) true

def settle (settlementPrice actualCollateral : UInt64) : Checked SpreadError SpreadSettlement := do
  if actualCollateral < (← t.collateral) then raise .insufficientCollateral
  else
    let holderPayoff ← t.payoff settlementPrice
    let writerReturn ←
      if holderPayoff ≤ actualCollateral then .ok (actualCollateral - holderPayoff)
      else raise .insufficientCollateral
    pure ⟨holderPayoff, writerReturn⟩

end SpreadTerms

theorem width_ok {lower upper w : UInt64} (h : width lower upper = .ok w) :
    w.toNat = upper.toNat - lower.toNat ∧ lower.toNat < upper.toNat := by
  unfold width at h
  split at h
  · rename_i hle
    cases h
    have hsub := UInt64.toNat_sub_of_le _ _ hle.1
    have hpos := UInt64.lt_iff_toNat_lt.mp hle.2
    rw [hsub] at hpos ⊢
    exact ⟨rfl, Nat.lt_of_sub_pos hpos⟩
  · cases h

section Settle

variable {t : SpreadTerms} {w c : UInt64}

theorem collateral_ok :
    t.collateral = .ok c ↔
      ∃ w, width t.lowerStrike t.upperStrike = .ok w ∧ t.quote w true = .ok c := by
  simp only [SpreadTerms.collateral, Amounts.collateral, SpreadTerms.quote, lift,
    Base.Checks.bind_ok, Base.Checks.mapError_ok]

def due (t : SpreadTerms) (w price : UInt64) : UInt64 := min (t.intrinsic price) w

theorem payoff_eq (hw : width t.lowerStrike t.upperStrike = .ok w) (price : UInt64) :
    t.payoff price = t.quote (due t w price) true := by
  simp only [SpreadTerms.payoff, due, hw, lift, Except.mapError, ok_bind]

theorem toNat_due (price : UInt64) :
    (due t w price).toNat =
      match t.kind with
      | .callSpread => min (price.toNat - t.lowerStrike.toNat) w.toNat
      | .putSpread => min (t.upperStrike.toNat - price.toNat) w.toNat := by
  rw [due, UInt64.toNat_min, SpreadTerms.intrinsic]
  cases t.kind with
  | callSpread => simp only [toNat_saturatingSub]
  | putSpread => simp only [toNat_saturatingSub]

theorem due_le (price : UInt64) : due t w price ≤ w := Std.min_le_right

theorem exists_payoff (hw : width t.lowerStrike t.upperStrike = .ok w)
    (hc : t.quote w true = .ok c) (kind : SpreadType) (price : UInt64) :
    ∃ paid, { t with kind }.payoff price = .ok paid ∧ paid ≤ c := by
  obtain ⟨paid, hpaid, hle⟩ := quoteAmount_of_le (due_le (t := { t with kind }) price) hc
  exact ⟨paid, (payoff_eq (t := { t with kind }) hw price).trans hpaid, hle⟩

theorem quote_mono {a b x y : UInt64} {up : Bool} (h : a ≤ b) (hx : t.quote a up = .ok x)
    (hy : t.quote b up = .ok y) : x ≤ y := by
  rw [UInt64.le_iff_toNat_le, (quoteAmount_ok.mp hx).2, (quoteAmount_ok.mp hy).2]
  exact rounded_mono up (quoteValue_mono h)

theorem quote_zero {x : UInt64} {up : Bool} (hx : t.quote 0 up = .ok x) : x = 0 := by
  have h := (quoteAmount_ok.mp hx).2
  have hvalue : quoteValue 0 t.quantity t.quoteDecimals t.underlyingDecimals = (0 : ℕ) := by
    simp [quoteValue]
  rw [hvalue, rounded_natCast] at h
  exact UInt64.toNat_inj.mp h

theorem quote_add {a b x y : UInt64} (h : a.toNat + b.toNat = w.toNat)
    (hx : t.quote a true = .ok x) (hy : t.quote b true = .ok y) (hc : t.quote w true = .ok c) :
    x.toNat + y.toNat = c.toNat ∨ x.toNat + y.toNat = c.toNat + 1 := by
  have hvalue : quoteValue a t.quantity t.quoteDecimals t.underlyingDecimals +
      quoteValue b t.quantity t.quoteDecimals t.underlyingDecimals =
        quoteValue w t.quantity t.quoteDecimals t.underlyingDecimals := by
    simp only [quoteValue, ← h]
    push_cast
    ring
  have hnonneg : ∀ p, 0 ≤ quoteValue p t.quantity t.quoteDecimals t.underlyingDecimals := by
    intro p
    unfold quoteValue
    positivity
  rw [(quoteAmount_ok.mp hx).2, (quoteAmount_ok.mp hy).2, (quoteAmount_ok.mp hc).2, ← hvalue]
  exact ceil_add_ceil (hnonneg a) (hnonneg b)

theorem settle_eq (hc : t.collateral = .ok c) {price paid : UInt64} (actual : UInt64)
    (hpaid : t.payoff price = .ok paid) (hle : paid ≤ c) :
    t.settle price actual =
      if actual < c then raise .insufficientCollateral else .ok ⟨paid, actual - paid⟩ := by
  unfold SpreadTerms.settle
  rw [hc, ok_bind, hpaid, ok_bind]
  split
  · rfl
  · rename_i h
    rw [if_pos (UInt64.le_trans hle (UInt64.not_lt.mp h))]
    rfl

theorem settle_splits (hc : t.collateral = .ok c) {price paid : UInt64} (actual : UInt64)
    (hpaid : t.payoff price = .ok paid) (hle : paid ≤ c) :
    ((∃ s, t.settle price actual = .ok s) ↔ c ≤ actual) ∧
      ∀ s, t.settle price actual = .ok s →
        s.holderPayoff = paid ∧ s.holderPayoff ≤ c ∧
          s.holderPayoff.toNat + s.writerReturn.toNat = actual.toNat := by
  rw [settle_eq hc actual hpaid hle]
  by_cases hactual : actual < c
  · rw [if_pos hactual]
    refine ⟨⟨?_, fun h ↦ absurd h (UInt64.not_le.mpr hactual)⟩, fun s h ↦ by cases h⟩
    rintro ⟨s, h⟩
    cases h
  · have hge : c ≤ actual := UInt64.not_lt.mp hactual
    rw [if_neg hactual]
    refine ⟨⟨fun _ ↦ hge, fun _ ↦ ⟨_, rfl⟩⟩, fun s h ↦ ?_⟩
    cases h
    have hsub := UInt64.toNat_sub_of_le actual paid (UInt64.le_trans hle hge)
    have hsum := UInt64.le_iff_toNat_le.mp (UInt64.le_trans hle hge)
    refine ⟨rfl, hle, ?_⟩
    dsimp only
    omega

end Settle

/-- Cash settlement divides the collateral between the holder's payoff and what returns to the
writer. A call and a put together are worth the collateral, or one atom more. -/
theorem settle_conserves (t : SpreadTerms) (c : UInt64) (hc : t.collateral = .ok c) :
    ∃ pay : SpreadType → UInt64 → UInt64,
      (∀ kind price, { t with kind }.payoff price = .ok (pay kind price)) ∧
      (∀ price actual,
        ((∃ s, t.settle price actual = .ok s) ↔ c ≤ actual) ∧
        ∀ s, t.settle price actual = .ok s →
          s.holderPayoff = pay t.kind price ∧ s.holderPayoff ≤ c ∧
            s.holderPayoff.toNat + s.writerReturn.toNat = actual.toNat) ∧
      (∀ price price', price ≤ price' →
        pay .callSpread price ≤ pay .callSpread price' ∧
          pay .putSpread price' ≤ pay .putSpread price) ∧
      (∀ price ≤ t.lowerStrike, pay .callSpread price = 0 ∧ pay .putSpread price = c) ∧
      (∀ price, t.upperStrike ≤ price → pay .callSpread price = c ∧ pay .putSpread price = 0) ∧
      ∀ price, (pay .callSpread price).toNat + (pay .putSpread price).toNat = c.toNat ∨
        (pay .callSpread price).toNat + (pay .putSpread price).toNat = c.toNat + 1 := by
  obtain ⟨w, hw, hquote⟩ := collateral_ok.mp hc
  choose pay hpay hle using exists_payoff hw hquote
  have hdue : ∀ kind price, t.quote (due { t with kind } w price) true = .ok (pay kind price) :=
    fun kind price ↦ (payoff_eq (t := { t with kind }) hw price).symm.trans (hpay kind price)
  obtain ⟨hwidth, hlt⟩ := width_ok hw
  have hfull : ∀ kind price, (due { t with kind } w price).toNat = w.toNat →
      pay kind price = c := by
    intro kind price h
    have hq := hdue kind price
    rw [UInt64.toNat_inj.mp h, hquote, Except.ok.injEq] at hq
    exact hq.symm
  have hnone : ∀ kind price, (due { t with kind } w price).toNat = 0 → pay kind price = 0 := by
    intro kind price h
    have hq := hdue kind price
    have hzero : due { t with kind } w price = 0 := UInt64.toNat_inj.mp h
    rw [hzero] at hq
    exact quote_zero hq
  have hcall : ∀ price, (due { t with kind := .callSpread } w price).toNat =
      min (price.toNat - t.lowerStrike.toNat) w.toNat := fun price ↦ toNat_due price
  have hput : ∀ price, (due { t with kind := .putSpread } w price).toNat =
      min (t.upperStrike.toNat - price.toNat) w.toNat := fun price ↦ toNat_due price
  refine ⟨pay, hpay, fun price actual ↦ ?_, fun price price' hprice ↦ ?_, fun price hprice ↦ ?_,
    fun price hprice ↦ ?_, fun price ↦ ?_⟩
  · exact settle_splits hc actual (hpay t.kind price) (hle t.kind price)
  · rw [UInt64.le_iff_toNat_le] at hprice
    refine ⟨quote_mono ?_ (hdue .callSpread price) (hdue .callSpread price'),
      quote_mono ?_ (hdue .putSpread price') (hdue .putSpread price)⟩
    · rw [UInt64.le_iff_toNat_le, hcall, hcall]
      omega
    · rw [UInt64.le_iff_toNat_le, hput, hput]
      omega
  · rw [UInt64.le_iff_toNat_le] at hprice
    have hworthless : (due { t with kind := .callSpread } w price).toNat = 0 := by
      rw [hcall]
      omega
    have hwhole : (due { t with kind := .putSpread } w price).toNat = w.toNat := by
      rw [hput]
      omega
    exact ⟨hnone _ _ hworthless, hfull _ _ hwhole⟩
  · rw [UInt64.le_iff_toNat_le] at hprice
    have hwhole : (due { t with kind := .callSpread } w price).toNat = w.toNat := by
      rw [hcall]
      omega
    have hworthless : (due { t with kind := .putSpread } w price).toNat = 0 := by
      rw [hput]
      omega
    exact ⟨hfull _ _ hwhole, hnone _ _ hworthless⟩
  · refine quote_add ?_ (hdue .callSpread price) (hdue .putSpread price) hquote
    rw [hcall, hput]
    omega

theorem settle_conserves_call :
    ∃ s, SpreadTerms.settle ⟨.callSpread, 2, 4, 1000000001, 0, 0⟩ 3 5 = .ok s ∧
      s.holderPayoff ≤ 3 ∧ s.holderPayoff.toNat + s.writerReturn.toNat = 5 := by
  obtain ⟨pay, -, hsettle, -⟩ :=
    settle_conserves ⟨.callSpread, 2, 4, 1000000001, 0, 0⟩ 3 (by decide +kernel)
  obtain ⟨s, hs⟩ := (hsettle 3 5).1.mpr (by decide)
  obtain ⟨-, hle, hsum⟩ := (hsettle 3 5).2 s hs
  exact ⟨s, hs, hle, hsum⟩

end MakerSdk.Amounts
