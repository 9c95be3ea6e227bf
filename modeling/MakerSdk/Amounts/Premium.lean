import MakerSdk.Amounts.Spread

namespace MakerSdk.Amounts

open Base.Words Base.Rounding Orders

variable {ε : Type}

section Model

def feeOf (e : ε) (amount : UInt64) (bps : UInt16) : Checked ε UInt64 := do
  narrow e (← quotient (← word 128 (amount.toNat * bps.toNat)) 10000)

def afterFeeBps (price : UInt64) (bps : UInt16) : Checked Unit UInt64 := do
  let fee ← quotient (← word 128 (price.toNat * bps.toNat)) 10000
  pure (saturatingSub price (if fee < 2 ^ 64 then .ofNat fee else 0xffffffffffffffff))

def protocolFeeOf (e : ε) (quote : UInt64 → Checked ε UInt64) (exposure : Checked ε UInt64)
    (price grossPremium : UInt64) (premiumBps volumeBps : UInt16) : Checked ε UInt64 := do
  let premiumFee ← difference64 grossPremium
    (← quote (← difference64 price (← feeOf e price premiumBps)))
  pure (min premiumFee (← feeOf e (← exposure) volumeBps))

structure SpreadPremium where
  collateral : UInt64
  grossPremium : UInt64
  protocolFee : UInt64
  netPremium : UInt64
  prefundedQuote : UInt64
deriving DecidableEq

def SpreadTerms.premium (t : SpreadTerms) (price : UInt64) (premiumBps volumeBps : UInt16) :
    Checked SpreadError SpreadPremium := do
  lift (validatePremium t.kind t.lowerStrike t.upperStrike t.quantity price)
  if premiumBps > 10000 ∨ volumeBps > 10000 then raise .invalidFee
  else
    let collateral ← t.collateral
    let grossPremium ← t.quote price false
    let exposure ← t.quote (← lift (width t.lowerStrike t.upperStrike)) false
    if grossPremium = 0 ∨ grossPremium ≥ collateral ∨ exposure = 0 then raise .invalidPremium
    else
      let protocolFee ← protocolFeeOf .overflow (t.quote · false) (pure exposure) price
        grossPremium premiumBps volumeBps
      let netPremium ← difference64 grossPremium protocolFee
      let prefundedQuote ← difference64 collateral netPremium
      pure { collateral, grossPremium, protocolFee, netPremium, prefundedQuote }

structure PhysicalPremium where
  grossPremium : UInt64
  protocolFee : UInt64
  netPremium : UInt64
deriving DecidableEq

def physicalPremium (price strike quantity : UInt64) (underlyingDecimals quoteDecimals : UInt8)
    (premiumBps volumeBps : UInt16) : Checked Unit PhysicalPremium := do
  if premiumBps > 10000 ∨ volumeBps > 10000 then raise ()
  else
    let quote := fun perUnit ↦ scaledQuoteAmount perUnit quantity quoteDecimals underlyingDecimals
    let grossPremium ← quote price
    let protocolFee ← protocolFeeOf () quote (quote strike) price grossPremium premiumBps volumeBps
    let netPremium ← difference64 grossPremium protocolFee
    pure { grossPremium, protocolFee, netPremium }

end Model

/-- A quote defined below every amount it is defined for, and no larger there. -/
structure Quotes (quote : UInt64 → Checked ε UInt64) : Prop where
  meets : ∀ price, Meets (quote price = .ok ·) (quote price)
  of_le : ∀ {price other r}, other ≤ price → quote price = .ok r →
    ∃ r', quote other = .ok r' ∧ r' ≤ r

/-- A gross premium divided into a fee and a net: the net is the quote of the price after the
premium fee, or the gross premium less the volume fee where that is more. -/
structure Splits (quote : UInt64 → Checked ε UInt64) (price exposure : UInt64)
    (premiumBps volumeBps : UInt16) (gross fee net : UInt64) : Prop where
  quoted : quote price = .ok gross
  balance : gross.toNat = fee.toNat + net.toNat
  larger : ∃ kept after stake, afterFeeBps price premiumBps = .ok kept ∧ quote kept = .ok after ∧
    quote exposure = .ok stake ∧
      net.toNat = max after.toNat (gross.toNat - stake.toNat * volumeBps.toNat / 10000)

section Fees

variable {bps : UInt16}

theorem bps_le (h : ¬bps > 10000) : bps.toNat ≤ 10000 := by
  exact UInt16.le_iff_toNat_le.mp (UInt16.not_lt.mp h)

theorem fee_le (amount : ℕ) {rate : ℕ} (h : rate ≤ 10000) : amount * rate / 10000 ≤ amount :=
  Nat.div_le_of_le_mul (by rw [Nat.mul_comm 10000]; exact Nat.mul_le_mul_left _ h)

theorem quotient_fee (amount : UInt64) (bps : UInt16) :
    (do quotient (← word 128 (amount.toNat * bps.toNat)) 10000 : Checked ε ℕ) =
      .ok (amount.toNat * bps.toNat / 10000) := by
  have hlt : amount.toNat * bps.toNat < 2 ^ 64 * 2 ^ 16 :=
    Nat.mul_lt_mul_of_lt_of_le amount.toNat_lt bps.toNat_lt.le (by decide)
  rw [word_of_lt (hlt.trans (by decide)), ok_bind, quotient_of_pos (by decide)]

theorem feeOf_eq (e : ε) (amount : UInt64) (h : ¬bps > 10000) :
    ∃ fee, feeOf e amount bps = .ok fee ∧ fee.toNat = amount.toNat * bps.toNat / 10000 := by
  have hlt := (fee_le amount.toNat (bps_le h)).trans_lt amount.toNat_lt
  have hnat := UInt64.toNat_ofNat_of_lt' hlt
  refine ⟨_, ?_, hnat⟩
  rw [feeOf, ← bind_assoc, quotient_fee, ok_bind, narrow_ok]
  exact hnat

theorem afterFeeBps_eq (price : UInt64) (h : ¬bps > 10000) :
    ∃ kept, afterFeeBps price bps = .ok kept ∧
      kept.toNat = price.toNat - price.toNat * bps.toNat / 10000 := by
  have hlt := (fee_le price.toNat (bps_le h)).trans_lt price.toNat_lt
  refine ⟨saturatingSub price (.ofNat (price.toNat * bps.toNat / 10000)), ?_, ?_⟩
  · rw [afterFeeBps, ← bind_assoc, quotient_fee, ok_bind, if_pos hlt]
    rfl
  · rw [toNat_saturatingSub, UInt64.toNat_ofNat_of_lt' hlt]

theorem kept_mono {a b k l : ℕ} (hab : a ≤ b) (hlk : l ≤ k) (hk : k ≤ 10000) :
    a - a * k / 10000 ≤ b - b * l / 10000 := by
  have hrate : b * l / 10000 ≤ b * k / 10000 := Nat.div_le_div_right (Nat.mul_le_mul_left _ hlk)
  have hgain : b * k ≤ a * k + (b - a) * 10000 := by
    have hsplit : b * k = a * k + (b - a) * k := by rw [← Nat.add_mul]; congr; omega
    have hle := Nat.mul_le_mul_left (b - a) hk
    omega
  have hstep : b * k / 10000 ≤ a * k / 10000 + (b - a) := by
    rw [← Nat.add_mul_div_right _ _ (by decide)]
    exact Nat.div_le_div_right hgain
  have hself := fee_le a hk
  omega

end Fees

section Split

variable {quote : UInt64 → Checked ε UInt64} {e : ε} {exposure : Checked ε UInt64}
  {price gross fee : UInt64} {premiumBps volumeBps : UInt16}

/-- Within the rates the premium fee never exceeds the gross premium, so what is left to fail is
the quote of the exposure. -/
theorem protocolFeeOf_eq (hquote : Quotes quote) (hp : ¬premiumBps > 10000)
    (hgross : quote price = .ok gross) :
    ∃ kept after, afterFeeBps price premiumBps = .ok kept ∧ quote kept = .ok after ∧
      after ≤ gross ∧
      protocolFeeOf e quote exposure price gross premiumBps volumeBps =
        (do
          let stake ← exposure
          let volumeFee ← feeOf e stake volumeBps
          pure (min (gross - after) volumeFee)) := by
  obtain ⟨premiumFee, hfee, hfeeNat⟩ := feeOf_eq e price hp
  obtain ⟨kept, hkept, hkeptNat⟩ := afterFeeBps_eq price hp
  have hle : premiumFee ≤ price := by
    rw [UInt64.le_iff_toNat_le, hfeeNat]
    exact fee_le _ (bps_le hp)
  have hsub : price - premiumFee = kept := by
    rw [← UInt64.toNat_inj, UInt64.toNat_sub_of_le _ _ hle, hfeeNat, hkeptNat]
  have hkeptLe : kept ≤ price := by
    rw [UInt64.le_iff_toNat_le, hkeptNat]
    exact Nat.sub_le _ _
  obtain ⟨after, hafter, hafterLe⟩ := hquote.of_le hkeptLe hgross
  refine ⟨kept, after, hkept, hafter, hafterLe, ?_⟩
  rw [protocolFeeOf, hfee, ok_bind, difference64_of_le hle, ok_bind, hsub, hafter, ok_bind,
    difference64_of_le hafterLe, ok_bind]

theorem protocolFeeOf_meets (hquote : Quotes quote) (hp : ¬premiumBps > 10000)
    (hv : ¬volumeBps > 10000) (hgross : quote price = .ok gross) {unit : UInt64}
    (hexposure : Meets (quote unit = .ok ·) exposure) :
    Meets (fun fee ↦ fee ≤ gross ∧
        Splits quote price unit premiumBps volumeBps gross fee (gross - fee))
      (protocolFeeOf e quote exposure price gross premiumBps volumeBps) := by
  obtain ⟨kept, after, hkept, hafter, hle, hfee⟩ := protocolFeeOf_eq hquote hp hgross
  rw [hfee]
  refine hexposure.bind fun stake hstake ↦ ?_
  obtain ⟨volumeFee, hvolume, hvolumeNat⟩ := feeOf_eq e stake hv
  rw [hvolume, ok_bind]
  have hafterSub := UInt64.toNat_sub_of_le _ _ hle
  have hfeeNat : (min (gross - after) volumeFee).toNat =
      min (gross.toNat - after.toNat) volumeFee.toNat := by
    rw [UInt64.toNat_min, hafterSub]
  have hfeeLe : min (gross - after) volumeFee ≤ gross := by
    rw [UInt64.le_iff_toNat_le, hfeeNat]
    omega
  have hnet := UInt64.toNat_sub_of_le _ _ hfeeLe
  rw [UInt64.le_iff_toNat_le] at hle hfeeLe
  refine ⟨UInt64.le_iff_toNat_le.mpr hfeeLe, hgross, ?_,
    kept, after, stake, hkept, hafter, hstake, ?_⟩
  · omega
  · rw [hnet, hfeeNat, ← hvolumeNat]
    omega

variable {price' : UInt64} {premiumBps' volumeBps' : UInt16} {unit gross' fee' net net' : UInt64}

theorem Quotes.mono (hquote : Quotes quote) {a b x y : UInt64} (h : a ≤ b)
    (hx : quote a = .ok x) (hy : quote b = .ok y) : x.toNat ≤ y.toNat := by
  obtain ⟨x', hx', hle⟩ := hquote.of_le h hy
  rw [hx, Except.ok.injEq] at hx'
  rw [hx']
  exact UInt64.le_iff_toNat_le.mp hle

theorem kept_le (hp : ¬premiumBps > 10000) (hprice : price ≤ price')
    (hpremium : premiumBps' ≤ premiumBps) {kept kept' : UInt64}
    (hkept : afterFeeBps price premiumBps = .ok kept)
    (hkept' : afterFeeBps price' premiumBps' = .ok kept') : kept ≤ kept' := by
  have hp' : ¬premiumBps' > 10000 := by
    simp only [gt_iff_lt, UInt16.lt_iff_toNat_lt, UInt16.le_iff_toNat_le] at hp hpremium ⊢
    omega
  obtain ⟨k, hk, hkNat⟩ := afterFeeBps_eq price hp
  obtain ⟨k', hk', hkNat'⟩ := afterFeeBps_eq price' hp'
  rw [hk, Except.ok.injEq] at hkept
  rw [hk', Except.ok.injEq] at hkept'
  rw [← hkept, ← hkept', UInt64.le_iff_toNat_le, hkNat, hkNat']
  exact kept_mono (UInt64.le_iff_toNat_le.mp hprice) (UInt16.le_iff_toNat_le.mp hpremium)
    (bps_le hp)

theorem Splits.mono (hquote : Quotes quote) (hp : ¬premiumBps > 10000)
    (hs : Splits quote price unit premiumBps volumeBps gross fee net)
    (hs' : Splits quote price' unit premiumBps' volumeBps' gross' fee' net')
    (hprice : price ≤ price') (hpremium : premiumBps' ≤ premiumBps)
    (hvolume : volumeBps' ≤ volumeBps) : net ≤ net' := by
  obtain ⟨kept, after, stake, hkept, hafter, hstake, hnet⟩ := hs.larger
  obtain ⟨kept', after', stake', hkept', hafter', hstake', hnet'⟩ := hs'.larger
  have hgross := hquote.mono hprice hs.quoted hs'.quoted
  have hafterLe := hquote.mono (kept_le hp hprice hpremium hkept hkept') hafter hafter'
  rw [hstake, Except.ok.injEq] at hstake'
  subst hstake'
  have hfee : stake.toNat * volumeBps'.toNat / 10000 ≤ stake.toNat * volumeBps.toNat / 10000 :=
    Nat.div_le_div_right (Nat.mul_le_mul_left _ (UInt16.le_iff_toNat_le.mp hvolume))
  rw [UInt64.le_iff_toNat_le, hnet, hnet']
  omega

end Split

theorem meets_quoteAmount {price quantity : UInt64} {quoteDecimals underlyingDecimals : UInt8}
    {up : Bool} :
    Meets (quoteAmount price quantity quoteDecimals underlyingDecimals up = .ok ·)
      (quoteAmount price quantity quoteDecimals underlyingDecimals up) := by
  rw [quoteAmount_eq]
  split
  · exact meets_raise _
  · exact meets_narrow fun _ h ↦ narrow_ok.mpr h

theorem quotes_spread (t : SpreadTerms) : Quotes (t.quote · false) :=
  ⟨fun _ ↦ meets_quoteAmount, fun h hr ↦ quoteAmount_of_le h hr⟩

theorem quotes_scaled (quantity : UInt64) (quoteDecimals underlyingDecimals : UInt8) :
    Quotes (scaledQuoteAmount · quantity quoteDecimals underlyingDecimals) where
  meets price := by
    rw [scaledQuoteAmount_eq]
    split
    · exact meets_raise _
    · exact meets_narrow fun _ h ↦ narrow_ok.mpr h
  of_le h hr := by
    obtain ⟨r', hr', hle⟩ := quoteAmount_of_le h (scaledQuoteAmount_ok.mp hr)
    exact ⟨r', scaledQuoteAmount_ok.mpr hr', hle⟩

structure SpreadPremium.Valid (t : SpreadTerms) (price : UInt64) (premiumBps volumeBps : UInt16)
    (r : SpreadPremium) : Prop where
  rate : ¬premiumBps > 10000
  split : ∃ w, width t.lowerStrike t.upperStrike = .ok w ∧
    Splits (t.quote · false) price w premiumBps volumeBps r.grossPremium r.protocolFee r.netPremium
  collateral : t.collateral = .ok r.collateral
  balance : r.collateral.toNat = r.prefundedQuote.toNat + r.netPremium.toNat
  prefunded : 0 < r.prefundedQuote

theorem meets_collateral (t : SpreadTerms) : Meets (t.collateral = .ok ·) t.collateral := by
  unfold SpreadTerms.collateral Amounts.collateral
  have h : Meets (fun _ ↦ True) (lift (width t.lowerStrike t.upperStrike) >>= fun w ↦
      quoteAmount w t.quantity t.quoteDecimals t.underlyingDecimals true) :=
    (meets_lift fun _ h ↦ h).bind fun _ _ ↦ meets_quoteAmount.mono fun _ _ _ ↦ trivial
  exact h.mono fun _ hc _ ↦ hc

theorem premium_meets (t : SpreadTerms) (price : UInt64) (premiumBps volumeBps : UInt16) :
    Meets (SpreadPremium.Valid t price premiumBps volumeBps)
      (t.premium price premiumBps volumeBps) := by
  unfold SpreadTerms.premium
  refine (meets_lift fun _ h ↦ h).bind fun _ _ ↦ ?_
  split
  · exact meets_raise _
  rename_i hbps
  obtain ⟨hp, hv⟩ := not_or.mp hbps
  refine (meets_collateral t).bind fun collateral hcollateral ↦ ?_
  refine ((quotes_spread t).meets price).bind fun gross hgross ↦ ?_
  refine (meets_lift fun _ h ↦ h).bind fun w hw ↦ ?_
  refine ((quotes_spread t).meets w).bind fun stake hstake ↦ ?_
  split
  · exact meets_raise _
  rename_i hvalid
  refine (protocolFeeOf_meets (quotes_spread t) hp hv hgross (meets_pure hstake)).bind
    fun fee hfee ↦ ?_
  obtain ⟨hle, hsplits⟩ := hfee
  have hlt : (gross - fee).toNat < collateral.toNat := by
    have hsub := UInt64.toNat_sub_of_le _ _ hle
    have hgross' : ¬collateral.toNat ≤ gross.toNat :=
      fun h ↦ hvalid (.inr (.inl (UInt64.le_iff_toNat_le.mpr h)))
    omega
  have hle' : gross - fee ≤ collateral := UInt64.le_iff_toNat_le.mpr hlt.le
  have hprefunded := UInt64.toNat_sub_of_le _ _ hle'
  rw [difference64_of_le hle, ok_bind, difference64_of_le hle', ok_bind]
  refine ⟨hp, ⟨w, hw, hsplits⟩, hcollateral, ?_, ?_⟩
  · dsimp only
    omega
  · rw [UInt64.lt_iff_toNat_lt]
    dsimp only
    rw [hprefunded]
    exact Nat.sub_pos_of_lt hlt

structure PhysicalPremium.Valid (price strike quantity : UInt64)
    (underlyingDecimals quoteDecimals : UInt8) (premiumBps volumeBps : UInt16)
    (r : PhysicalPremium) : Prop where
  rate : ¬premiumBps > 10000
  split : Splits (scaledQuoteAmount · quantity quoteDecimals underlyingDecimals) price strike
    premiumBps volumeBps r.grossPremium r.protocolFee r.netPremium

theorem physicalPremium_meets (price strike quantity : UInt64)
    (underlyingDecimals quoteDecimals : UInt8) (premiumBps volumeBps : UInt16) :
    Meets (PhysicalPremium.Valid price strike quantity underlyingDecimals quoteDecimals premiumBps
        volumeBps)
      (physicalPremium price strike quantity underlyingDecimals quoteDecimals premiumBps
        volumeBps) := by
  have hquote := quotes_scaled quantity quoteDecimals underlyingDecimals
  unfold physicalPremium
  split
  · exact meets_raise _
  rename_i hbps
  obtain ⟨hp, hv⟩ := not_or.mp hbps
  refine (hquote.meets price).bind fun gross hgross ↦ ?_
  refine (protocolFeeOf_meets hquote hp hv hgross (hquote.meets strike)).bind fun fee hfee ↦ ?_
  obtain ⟨hle, hsplits⟩ := hfee
  rw [difference64_of_le hle, ok_bind]
  exact ⟨hp, hsplits⟩

/-- Premium splits balance: the gross premium is the fee and the net, a spread's collateral the
net and a prefunded part. The net never falls with a higher price or a lower rate. -/
theorem premium_balances :
    (∀ (t : SpreadTerms) (price : UInt64) (premiumBps volumeBps : UInt16),
      t.premium price premiumBps volumeBps ≠ .error .panicked ∧
      ∀ r, t.premium price premiumBps volumeBps = .ok r →
        (∃ w, width t.lowerStrike t.upperStrike = .ok w ∧
          Splits (t.quote · false) price w premiumBps volumeBps r.grossPremium r.protocolFee
            r.netPremium) ∧
        t.collateral = .ok r.collateral ∧
        r.collateral.toNat = r.prefundedQuote.toNat + r.netPremium.toNat ∧
        0 < r.prefundedQuote ∧
        ∀ price' premiumBps' volumeBps' r',
          t.premium price' premiumBps' volumeBps' = .ok r' →
          price ≤ price' → premiumBps' ≤ premiumBps → volumeBps' ≤ volumeBps →
          r.netPremium ≤ r'.netPremium) ∧
    ∀ (price strike quantity : UInt64) (underlyingDecimals quoteDecimals : UInt8)
      (premiumBps volumeBps : UInt16),
      physicalPremium price strike quantity underlyingDecimals quoteDecimals premiumBps volumeBps ≠
        .error .panicked ∧
      ∀ r, physicalPremium price strike quantity underlyingDecimals quoteDecimals premiumBps
          volumeBps = .ok r →
        Splits (scaledQuoteAmount · quantity quoteDecimals underlyingDecimals) price strike
          premiumBps volumeBps r.grossPremium r.protocolFee r.netPremium ∧
        ∀ price' premiumBps' volumeBps' r',
          physicalPremium price' strike quantity underlyingDecimals quoteDecimals premiumBps'
            volumeBps' = .ok r' →
          price ≤ price' → premiumBps' ≤ premiumBps → volumeBps' ≤ volumeBps →
          r.netPremium ≤ r'.netPremium := by
  refine ⟨fun t price premiumBps volumeBps ↦ ?_, fun price strike quantity underlyingDecimals
    quoteDecimals premiumBps volumeBps ↦ ?_⟩
  · have hmeets := premium_meets t
    refine ⟨(hmeets price premiumBps volumeBps).ne_panicked, fun r hr ↦ ?_⟩
    have hvalid := (hmeets price premiumBps volumeBps).of_ok hr
    obtain ⟨w, hw, hsplits⟩ := hvalid.split
    refine ⟨⟨w, hw, hsplits⟩, hvalid.collateral, hvalid.balance, hvalid.prefunded, ?_⟩
    intro price' premiumBps' volumeBps' r' hr' hprice hpremium hvolume
    obtain ⟨w', hw', hsplits'⟩ := ((hmeets price' premiumBps' volumeBps').of_ok hr').split
    rw [hw, Except.ok.injEq] at hw'
    subst hw'
    exact hsplits.mono (quotes_spread t) hvalid.rate hsplits' hprice hpremium hvolume
  · have hmeets := fun price premiumBps volumeBps ↦ physicalPremium_meets price strike quantity
      underlyingDecimals quoteDecimals premiumBps volumeBps
    refine ⟨(hmeets price premiumBps volumeBps).ne_panicked, fun r hr ↦ ?_⟩
    have hvalid := (hmeets price premiumBps volumeBps).of_ok hr
    refine ⟨hvalid.split, ?_⟩
    intro price' premiumBps' volumeBps' r' hr' hprice hpremium hvolume
    have hvalid' := (hmeets price' premiumBps' volumeBps').of_ok hr'
    exact hvalid.split.mono (quotes_scaled _ _ _) hvalid.rate hvalid'.split hprice hpremium hvolume

theorem premium_balances_call :
    ∃ r, SpreadTerms.premium ⟨.callSpread, 2000000000, 4000000000, 300, 2, 2⟩ 700000001 100 50 =
      .ok r ∧ r.grossPremium.toNat = r.protocolFee.toNat + r.netPremium.toNat ∧
        r.collateral.toNat = r.prefundedQuote.toNat + r.netPremium.toNat := by
  have hrun : ∃ r, SpreadTerms.premium ⟨.callSpread, 2000000000, 4000000000, 300, 2, 2⟩ 700000001
      100 50 = .ok r := ⟨⟨600, 210, 3, 207, 393⟩, by decide +kernel⟩
  obtain ⟨r, hr⟩ := hrun
  obtain ⟨⟨w, hw, hsplits⟩, -, hbalance, -⟩ := (premium_balances.1 _ _ _ _).2 r hr
  exact ⟨r, hr, hsplits.balance, hbalance⟩

end MakerSdk.Amounts
