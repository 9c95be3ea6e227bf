import MakerSdk.Amounts.Quote
import MakerSdk.Holdings.Discovery

namespace MakerSdk.Holdings

open Base.Words Base.Rounding Base.Checks Solana Orders Quote Settle Vault Amounts

@[ext] structure FundingNeeds where
  main : UInt64
  second : UInt64
  cycleExpiry : UInt64
  canAcquireSecond : Bool
deriving DecidableEq

structure FundingMarket where
  address : Pubkey
  market : MarketInfo
  price : UInt64

section Model

variable (vault : VaultAccount) (vaultAddress : Pubkey) (markets : List FundingMarket)

def settlement (item : FundingMarket) (position : PositionInfo) (put : Bool) :
    Checked VaultChainError (Pubkey × UInt64) := do
  if put then pure (item.market.underlyingMint, position.quantity)
  else
    let amount ← (scaledQuoteAmount position.terms.strike position.quantity
      item.market.quoteDecimals item.market.underlyingDecimals).mapError
        (Fault.map fun _ ↦ .invalidInput "funding amount overflow")
    pure (item.market.quoteMint, amount)

def addTo (needs : FundingNeeds) (mint : Pubkey) (amount : UInt64) :
    Checked VaultChainError FundingNeeds := do
  let sum := fun total : UInt64 ↦
    narrow (.invalidInput "funding sum overflow") (total.toNat + amount.toNat)
  if mint = vault.mainMint then
    pure { needs with main := ← sum needs.main }
  else if mint = vault.secondMint then
    pure { needs with second := ← sum needs.second }
  else raise (.invalidInput "funding mint outside vault pair")

def fundItem (needs : FundingNeeds) (position : PositionInfo) (item : FundingMarket) :
    Checked VaultChainError FundingNeeds := do
  if item.market.expiryTs ≠ vault.activeExpiry then pure needs
  else if item.price = 0 then raise (.invalidInput "funding requires a nonzero price")
  else
    let put : Bool := position.terms.positionType = .cashSecuredPut
    let itm : Bool :=
      if put then item.price < position.terms.strike else item.price > position.terms.strike
    if ¬itm then pure needs
    else
      let (mint, amount) ← settlement item position put
      addTo vault needs mint amount

def fundingRound (needs : FundingNeeds) (position : PositionInfo) :
    Checked VaultChainError FundingNeeds := do
  if position.holder ≠ vaultAddress ∨ position.status ≠ .opened then pure needs
  else if position.terms.isSpread then raise (.invalidInput "vaults cannot hold spreads")
  else
    let item ← lift (okOr (markets.find? (·.address = position.marketPda))
      (.invalidInput "held position market missing"))
    fundItem vault needs position item

def fundingNeeds (positions : List PositionInfo) (now : UInt64) :
    Checked VaultChainError FundingNeeds :=
  positions.foldlM (fundingRound vault vaultAddress markets) {
    main := 0
    second := 0
    cycleExpiry := vault.activeExpiry
    canAcquireSecond := now < vault.activeExpiry ∧ vault.phase = .active }

end Model

section Liabilities

variable (vault : VaultAccount) (vaultAddress : Pubkey) (markets : List FundingMarket)

def Held (position : PositionInfo) : Prop :=
  position.holder = vaultAddress ∧ position.status = .opened

instance (position : PositionInfo) : Decidable (Held vaultAddress position) :=
  inferInstanceAs (Decidable (_ ∧ _))

def marketOf (position : PositionInfo) : Option FundingMarket :=
  markets.find? (·.address = position.marketPda)

def IsPut (position : PositionInfo) : Prop := position.terms.positionType = .cashSecuredPut

instance (position : PositionInfo) : Decidable (IsPut position) :=
  inferInstanceAs (Decidable (_ = _))

def Itm (item : FundingMarket) (position : PositionInfo) : Prop :=
  if IsPut position then item.price < position.terms.strike else item.price > position.terms.strike

instance (item : FundingMarket) (position : PositionInfo) : Decidable (Itm item position) :=
  inferInstanceAs (Decidable (if IsPut position then item.price < position.terms.strike
    else item.price > position.terms.strike))

def settlementMint (item : FundingMarket) (position : PositionInfo) : Pubkey :=
  if IsPut position then item.market.underlyingMint else item.market.quoteMint

/-- Quantity of a put; of a call its strike's worth, rounded down. -/
def settlementAmount (item : FundingMarket) (position : PositionInfo) : ℕ :=
  if IsPut position then position.quantity.toNat
  else ⌊quoteValue position.terms.strike position.quantity item.market.quoteDecimals
    item.market.underlyingDecimals⌋₊

def Representable (item : FundingMarket) (position : PositionInfo) : Prop :=
  IsPut position ∨ (¬(item.market.quoteDecimals > 18 ∨ item.market.underlyingDecimals > 18) ∧
    settlementAmount item position < 2 ^ 64)

theorem Representable.lt {item : FundingMarket} {position : PositionInfo}
    (h : Representable item position) : settlementAmount item position < 2 ^ 64 := by
  rcases h with hput | h
  · rw [settlementAmount, if_pos hput]
    exact position.quantity.toNat_lt
  · exact h.2

def legOf (mint : Pubkey) : Option VaultLeg :=
  if mint = vault.mainMint then some .main
  else if mint = vault.secondMint then some .second
  else none

/-- Where a position is of the vault's active expiry its market has a price, and where it is in the
money it settles in a leg of the vault by an amount that can be represented. -/
def Priced (item : FundingMarket) (position : PositionInfo) : Prop :=
  item.market.expiryTs = vault.activeExpiry → item.price ≠ 0 ∧
    (Itm item position → (legOf vault (settlementMint item position)).isSome = true ∧
      Representable item position)

def Fundable (position : PositionInfo) : Prop :=
  ∃ item, marketOf markets position = some item ∧ Priced vault item position

def owedAt (item : FundingMarket) (position : PositionInfo) (leg : VaultLeg) : ℕ :=
  if item.market.expiryTs = vault.activeExpiry ∧ Itm item position ∧
      legOf vault (settlementMint item position) = some leg then
    settlementAmount item position
  else 0

def owed (leg : VaultLeg) (position : PositionInfo) : ℕ :=
  if Held vaultAddress position then
    ((marketOf markets position).map fun item ↦ owedAt vault item position leg).getD 0
  else 0

def total (leg : VaultLeg) (positions : List PositionInfo) : ℕ :=
  (positions.map (owed vault vaultAddress markets leg)).sum

end Liabilities

structure Grows (needs needs' : FundingNeeds) (owed : VaultLeg → ℕ) : Prop where
  main : needs'.main.toNat = needs.main.toNat + owed .main
  second : needs'.second.toNat = needs.second.toNat + owed .second
  cycleExpiry : needs'.cycleExpiry = needs.cycleExpiry
  canAcquireSecond : needs'.canAcquireSecond = needs.canAcquireSecond

section Round

variable {vault : VaultAccount} {vaultAddress : Pubkey} {markets : List FundingMarket}
  {needs needs' : FundingNeeds} {position : PositionInfo} {item : FundingMarket}

theorem Grows.unique {grown : FundingNeeds} {f : VaultLeg → ℕ} (h : Grows needs needs' f)
    (h' : Grows needs grown f) : needs' = grown :=
  FundingNeeds.ext (UInt64.toNat_inj.mp (h.main.trans h'.main.symm))
    (UInt64.toNat_inj.mp (h.second.trans h'.second.symm))
    (h.cycleExpiry.trans h'.cycleExpiry.symm) (h.canAcquireSecond.trans h'.canAcquireSecond.symm)

theorem grows_zero : Grows needs needs' (fun _ ↦ 0) ↔ needs = needs' := by
  have hrefl : Grows needs needs (fun _ ↦ 0) := ⟨rfl, rfl, rfl, rfl⟩
  constructor
  · exact hrefl.unique
  · rintro rfl
    exact hrefl

theorem settlement_ok {mint : Pubkey} {amount : UInt64} :
    settlement item position (decide (IsPut position)) = .ok (mint, amount) ↔
      Representable item position ∧ mint = settlementMint item position ∧
        amount.toNat = settlementAmount item position := by
  unfold settlement Representable settlementMint settlementAmount
  by_cases hput : IsPut position
  · simp only [hput, decide_true, if_true, pure_ok, Prod.mk.injEq, true_or, true_and]
    constructor
    · rintro ⟨rfl, rfl⟩
      exact ⟨rfl, rfl⟩
    · rintro ⟨rfl, hamount⟩
      exact ⟨rfl, (UInt64.toNat_inj.mp hamount).symm⟩
  · have hlt := amount.toNat_lt
    simp only [hput, decide_false, Bool.false_eq_true, if_false, bind_ok, mapError_ok, pure_ok,
      scaledQuoteAmount_ok, quoteAmount_ok, Prod.mk.injEq, false_or]
    constructor
    · rintro ⟨found, ⟨hdecimals, hfound⟩, rfl, rfl⟩
      exact ⟨⟨hdecimals, hfound.symm.trans_lt hlt⟩, rfl, hfound⟩
    · rintro ⟨⟨hdecimals, -⟩, rfl, hamount⟩
      exact ⟨amount, ⟨hdecimals, hamount⟩, rfl, rfl⟩

theorem addTo_ok {mint : Pubkey} {amount : UInt64} :
    addTo vault needs mint amount = .ok needs' ↔
      ∃ leg, legOf vault mint = some leg ∧
        Grows needs needs' (fun l ↦ if leg = l then amount.toNat else 0) := by
  have hgrow : ∀ total sum : UInt64, narrow (VaultChainError.invalidInput "funding sum overflow")
      (total.toNat + amount.toNat) = .ok sum ↔ sum.toNat = total.toNat + amount.toNat :=
    fun _ _ ↦ narrow_ok
  unfold addTo legOf
  by_cases hmain : mint = vault.mainMint
  · have hbuilt : ∀ sum : UInt64, sum.toNat = needs.main.toNat + amount.toNat →
        Grows needs { needs with main := sum }
          (fun l ↦ if VaultLeg.main = l then amount.toNat else 0) :=
      fun _ hsum ↦ ⟨hsum, rfl, rfl, rfl⟩
    simp only [hmain, if_true, bind_ok, pure_ok, hgrow, Option.some.injEq, exists_eq_left']
    constructor
    · rintro ⟨sum, hsum, rfl⟩
      exact hbuilt sum hsum
    · intro hgrows
      exact ⟨needs'.main, hgrows.main, (hbuilt _ hgrows.main).unique hgrows⟩
  · by_cases hsecond : mint = vault.secondMint
    · have hbuilt : ∀ sum : UInt64, sum.toNat = needs.second.toNat + amount.toNat →
          Grows needs { needs with second := sum }
            (fun l ↦ if VaultLeg.second = l then amount.toNat else 0) :=
        fun _ hsum ↦ ⟨rfl, hsum, rfl, rfl⟩
      simp only [if_neg hmain, if_pos hsecond, bind_ok, pure_ok, hgrow, Option.some.injEq,
        exists_eq_left']
      constructor
      · rintro ⟨sum, hsum, rfl⟩
        exact hbuilt sum hsum
      · intro hgrows
        exact ⟨needs'.second, hgrows.second, (hbuilt _ hgrows.second).unique hgrows⟩
    · simp only [hmain, hsecond, if_false, reduceCtorEq, false_and, exists_false, iff_false]
      exact fun h ↦ by cases h

theorem owedAt_eq_zero
    (h : ¬(item.market.expiryTs = vault.activeExpiry ∧ Itm item position)) :
    owedAt vault item position = fun _ ↦ 0 := by
  funext leg
  exact if_neg fun h' ↦ h ⟨h'.1, h'.2.1⟩

theorem owedAt_eq (hexpiry : item.market.expiryTs = vault.activeExpiry) (hitm : Itm item position)
    {leg : VaultLeg} (hleg : legOf vault (settlementMint item position) = some leg) :
    owedAt vault item position = fun l ↦ if leg = l then settlementAmount item position else 0 := by
  funext l
  simp only [owedAt, hexpiry, hitm, hleg, Option.some.injEq, true_and]

theorem fundItem_ok :
    fundItem vault needs position item = .ok needs' ↔
      Priced vault item position ∧ Grows needs needs' (owedAt vault item position) := by
  unfold fundItem
  by_cases hexpiry : item.market.expiryTs = vault.activeExpiry
  · rw [if_neg (not_not.mpr hexpiry)]
    by_cases hprice : item.price = 0
    · rw [if_pos hprice]
      exact ⟨(fun h ↦ by cases h), fun h ↦ absurd hprice (h.1 hexpiry).1⟩
    · rw [if_neg hprice]
      have hbool : (if decide (position.terms.positionType = .cashSecuredPut) = true then
          decide (item.price < position.terms.strike)
          else decide (item.price > position.terms.strike)) = true ↔ Itm item position := by
        unfold Itm IsPut
        by_cases hput : position.terms.positionType = .cashSecuredPut <;> simp [hput]
      by_cases hitm : Itm item position
      · have hset : ∀ mint amount, settlement item position
            (decide (position.terms.positionType = .cashSecuredPut)) = .ok (mint, amount) ↔
              Representable item position ∧ mint = settlementMint item position ∧
                amount.toNat = settlementAmount item position := fun _ _ ↦ settlement_ok
        dsimp only
        rw [if_neg (not_not.mpr (hbool.mpr hitm))]
        simp only [bind_ok, Prod.exists, hset, addTo_ok]
        constructor
        · rintro ⟨mint, amount, ⟨hrepresentable, rfl, hamount⟩, leg, hleg, hgrows⟩
          refine ⟨fun _ ↦ ⟨hprice, fun _ ↦ ⟨by rw [hleg]; rfl, hrepresentable⟩⟩, ?_⟩
          rwa [owedAt_eq hexpiry hitm hleg, ← hamount]
        · rintro ⟨hpriced, hgrows⟩
          obtain ⟨hleg, hrepresentable⟩ := (hpriced hexpiry).2 hitm
          obtain ⟨leg, hleg⟩ := Option.isSome_iff_exists.mp hleg
          have hamount := UInt64.toNat_ofNat_of_lt' hrepresentable.lt
          refine ⟨_, _, ⟨hrepresentable, rfl, hamount⟩, leg, hleg, ?_⟩
          rwa [hamount, ← owedAt_eq hexpiry hitm hleg]
      · dsimp only
        rw [if_pos fun h ↦ hitm (hbool.mp h), pure_ok, owedAt_eq_zero fun h ↦ hitm h.2, grows_zero]
        exact (and_iff_right fun _ ↦ ⟨hprice, fun h ↦ absurd h hitm⟩).symm
  · rw [if_pos hexpiry, pure_ok, owedAt_eq_zero fun h ↦ hexpiry h.1, grows_zero]
    exact (and_iff_right fun h ↦ absurd h hexpiry).symm

theorem fundingRound_ok :
    fundingRound vault vaultAddress markets needs position = .ok needs' ↔
      (Held vaultAddress position → position.terms.isSpread = false ∧
        Fundable vault markets position) ∧
      Grows needs needs' (owed vault vaultAddress markets · position) := by
  unfold fundingRound
  by_cases hheld : Held vaultAddress position
  · rw [if_neg (not_or.mpr ⟨not_not.mpr hheld.1, not_not.mpr hheld.2⟩)]
    cases hspread : position.terms.isSpread with
    | true =>
      exact ⟨(fun h ↦ by cases h), fun h ↦ by cases (h.1 hheld).1⟩
    | false =>
      simp only [Bool.false_eq_true, if_false, bind_ok, lift, mapError_ok, okOr_ok, fundItem_ok,
        owed, hheld, if_true, forall_const, true_and, Fundable]
      constructor
      · rintro ⟨item, hmarket, hpriced, hgrows⟩
        have hitem : marketOf markets position = some item := hmarket
        refine ⟨⟨item, hitem, hpriced⟩, ?_⟩
        simpa only [hitem, Option.map_some, Option.getD_some] using hgrows
      · rintro ⟨⟨item, hitem, hpriced⟩, hgrows⟩
        simp only [hitem, Option.map_some, Option.getD_some] at hgrows
        exact ⟨item, hitem, hpriced, hgrows⟩
  · have hskip : position.holder ≠ vaultAddress ∨ position.status ≠ .opened := not_and_or.mp hheld
    have howed : (owed vault vaultAddress markets · position) = fun _ ↦ 0 :=
      funext fun _ ↦ if_neg hheld
    rw [if_pos hskip, pure_ok, howed, grows_zero]
    exact (and_iff_right fun h ↦ absurd h hheld).symm

end Round

section Loop

variable {vault : VaultAccount} {vaultAddress : Pubkey} {markets : List FundingMarket}
  {needs mid needs' : FundingNeeds} {positions positions' : List PositionInfo} {now : UInt64}
  {f g : VaultLeg → ℕ}

theorem Grows.trans (h : Grows needs mid f) (h' : Grows mid needs' g) :
    Grows needs needs' (fun leg ↦ f leg + g leg) where
  main := by rw [h'.main, h.main, Nat.add_assoc]
  second := by rw [h'.second, h.second, Nat.add_assoc]
  cycleExpiry := h'.cycleExpiry.trans h.cycleExpiry
  canAcquireSecond := h'.canAcquireSecond.trans h.canAcquireSecond

theorem Grows.split (h : Grows needs needs' (fun leg ↦ f leg + g leg)) :
    ∃ mid, Grows needs mid f ∧ Grows mid needs' g := by
  have hmainLt := needs'.main.toNat_lt
  have hsecondLt := needs'.second.toNat_lt
  have hmain := h.main
  have hsecond := h.second
  have hmid : ∀ n : ℕ, n < 2 ^ 64 → (UInt64.ofNat n).toNat = n :=
    fun n hn ↦ UInt64.toNat_ofNat_of_lt' hn
  refine ⟨⟨.ofNat (needs.main.toNat + f .main), .ofNat (needs.second.toNat + f .second),
    needs.cycleExpiry, needs.canAcquireSecond⟩, ⟨hmid _ (by omega), hmid _ (by omega), rfl, rfl⟩,
    ⟨?_, ?_, h.cycleExpiry, h.canAcquireSecond⟩⟩
  · rw [hmid _ (by omega), hmain, Nat.add_assoc]
  · rw [hmid _ (by omega), hsecond, Nat.add_assoc]

theorem fundingFold_ok :
    positions.foldlM (fundingRound vault vaultAddress markets) needs = .ok needs' ↔
      (∀ position ∈ positions, Held vaultAddress position →
        position.terms.isSpread = false ∧ Fundable vault markets position) ∧
      Grows needs needs' (total vault vaultAddress markets · positions) := by
  induction positions generalizing needs with
  | nil =>
    rw [List.foldlM_nil, pure_ok]
    exact ⟨fun h ↦ ⟨by simp, grows_zero.mpr h⟩, fun h ↦ grows_zero.mp h.2⟩
  | cons position positions ih =>
    have htotal : (total vault vaultAddress markets · (position :: positions)) = fun leg ↦
        owed vault vaultAddress markets leg position +
          total vault vaultAddress markets leg positions :=
      funext fun leg ↦ by rw [total, List.map_cons, List.sum_cons, total]
    rw [List.foldlM_cons, bind_ok, htotal, List.forall_mem_cons]
    constructor
    · rintro ⟨mid, hround, hrest⟩
      obtain ⟨hfirst, hgrows⟩ := fundingRound_ok.mp hround
      obtain ⟨hothers, hgrows'⟩ := ih.mp hrest
      exact ⟨⟨hfirst, hothers⟩, hgrows.trans hgrows'⟩
    · rintro ⟨⟨hfirst, hothers⟩, hgrows⟩
      obtain ⟨mid, hgrows, hgrows'⟩ := hgrows.split
      exact ⟨mid, fundingRound_ok.mpr ⟨hfirst, hgrows⟩, ih.mpr ⟨hothers, hgrows'⟩⟩

theorem fundingNeeds_perm (h : positions'.Perm positions) :
    fundingNeeds vault vaultAddress markets positions' now = .ok needs ↔
      fundingNeeds vault vaultAddress markets positions now = .ok needs := by
  have htotal : (total vault vaultAddress markets · positions') =
      (total vault vaultAddress markets · positions) :=
    funext fun leg ↦ (h.map _).sum_eq
  unfold fundingNeeds
  rw [fundingFold_ok, fundingFold_ok, htotal]
  simp only [h.mem_iff]

end Loop

/-- Funding needs are the liabilities of each leg. They exist exactly when every held position can
be funded and both totals fit, in whatever order the positions come. -/
theorem fundingNeeds_exact (vault : VaultAccount) (vaultAddress : Pubkey)
    (markets : List FundingMarket) (positions : List PositionInfo) (now : UInt64)
    (hspreads : ∀ position ∈ positions, Held vaultAddress position →
      position.terms.isSpread = false) :
    ((∃ needs, fundingNeeds vault vaultAddress markets positions now = .ok needs) ↔
      (∀ position ∈ positions, Held vaultAddress position → Fundable vault markets position) ∧
      total vault vaultAddress markets .main positions < 2 ^ 64 ∧
      total vault vaultAddress markets .second positions < 2 ^ 64) ∧
    (∀ needs, fundingNeeds vault vaultAddress markets positions now = .ok needs →
      needs.main.toNat = total vault vaultAddress markets .main positions ∧
      needs.second.toNat = total vault vaultAddress markets .second positions) ∧
    ∀ positions', positions'.Perm positions → ∀ needs,
      fundingNeeds vault vaultAddress markets positions' now = .ok needs ↔
        fundingNeeds vault vaultAddress markets positions now = .ok needs := by
  have hexact : ∀ needs, fundingNeeds vault vaultAddress markets positions now = .ok needs →
      needs.main.toNat = total vault vaultAddress markets .main positions ∧
      needs.second.toNat = total vault vaultAddress markets .second positions := by
    intro needs h
    have hgrows := (fundingFold_ok.mp h).2
    exact ⟨hgrows.main.trans (Nat.zero_add _), hgrows.second.trans (Nat.zero_add _)⟩
  refine ⟨⟨?_, ?_⟩, hexact, fun positions' hperm needs ↦ fundingNeeds_perm hperm⟩
  · rintro ⟨needs, h⟩
    obtain ⟨hmain, hsecond⟩ := hexact needs h
    refine ⟨fun position hmem hheld ↦ ((fundingFold_ok.mp h).1 position hmem hheld).2, ?_, ?_⟩
    · exact hmain ▸ needs.main.toNat_lt
    · exact hsecond ▸ needs.second.toNat_lt
  · rintro ⟨hfundable, hmain, hsecond⟩
    refine ⟨⟨.ofNat (total vault vaultAddress markets .main positions),
      .ofNat (total vault vaultAddress markets .second positions), _, _⟩, fundingFold_ok.mpr
      ⟨fun position hmem hheld ↦ ⟨hspreads position hmem hheld, hfundable position hmem hheld⟩,
        ?_, ?_, rfl, rfl⟩⟩
    · exact (UInt64.toNat_ofNat_of_lt' hmain).trans (Nat.zero_add _).symm
    · exact (UInt64.toNat_ofNat_of_lt' hsecond).trans (Nat.zero_add _).symm

section Sample

def sampleVault : VaultAccount :=
  ⟨.ofList 32 [7], .active, .normal, 1900000000, keyOfNat 21, keyOfNat 22, tokenProgramId,
    ⟨0, none⟩, 0⟩

def sampleFundingMarket : FundingMarket where
  address := .ofList 32 []
  market := ⟨⟨1900000000, false, keyOfNat 21, keyOfNat 22⟩, false, 0, tokenProgramId,
    tokenProgramId, 9, 6⟩
  price := 100

def sampleCall : PositionInfo :=
  { sampleInfo 0 .sell sampleOther sampleOwner with
    terms := .coveredCall 50, quantity := 1000000000000 }

def samplePutMarket : FundingMarket where
  address := keyOfNat 31
  market := ⟨⟨1900000000, true, keyOfNat 21, keyOfNat 22⟩, false, 0, tokenProgramId,
    tokenProgramId, 9, 6⟩
  price := 40

def samplePut : PositionInfo :=
  { sampleInfo 0 .sell sampleOther sampleOwner with
    terms := .cashSecuredPut 50, quantity := 3000000000, marketPda := keyOfNat 31 }

/-- A call that owes the second leg, a put that owes the main leg, one that is out of the money
and one that another wallet holds. -/
def samplePortfolio : List PositionInfo :=
  [sampleCall, samplePut, { samplePut with terms := .cashSecuredPut 30 },
    { sampleCall with holder := sampleOther }, sampleCall]

theorem fundingNeeds_exact_call :
    let markets := [sampleFundingMarket, samplePutMarket]
    ∃ needs, fundingNeeds sampleVault sampleOwner markets samplePortfolio 1800000000 =
      .ok needs ∧ needs.main.toNat = 3000000000 ∧ needs.second.toNat = 100 ∧
      needs.main.toNat = total sampleVault sampleOwner markets .main samplePortfolio ∧
      needs.second.toNat = total sampleVault sampleOwner markets .second samplePortfolio := by
  have hrun : fundingNeeds sampleVault sampleOwner [sampleFundingMarket, samplePutMarket]
      samplePortfolio 1800000000 = .ok ⟨3000000000, 100, 1900000000, true⟩ := by decide +kernel
  have hspreads : ∀ position ∈ samplePortfolio, Held sampleOwner position →
      position.terms.isSpread = false := by decide +kernel
  obtain ⟨-, hexact, -⟩ := fundingNeeds_exact sampleVault sampleOwner
    [sampleFundingMarket, samplePutMarket] samplePortfolio 1800000000 hspreads
  obtain ⟨hmain, hsecond⟩ := hexact _ hrun
  exact ⟨_, hrun, rfl, rfl, hmain, hsecond⟩

end Sample

section Spreads

variable {vault : VaultAccount} {vaultAddress programId : Pubkey} {markets : List FundingMarket}
  {positions added : List PositionInfo} {now : UInt64} {needs : FundingNeeds}

end Spreads

section HeldSpreads

end HeldSpreads

end MakerSdk.Holdings
