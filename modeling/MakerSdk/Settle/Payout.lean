import MakerSdk.Settle.Build

namespace MakerSdk.Settle

open Base.Checks Solana Orders Quote

inductive Leg where
  | collateral
  | settlement
deriving DecidableEq

inductive Party where
  | writer
  | holder

def Party.slot : Party → ℕ
  | writer => 5
  | holder => 6

def PositionInfo.owner (position : PositionInfo) : Party → Pubkey
  | .writer => position.writer
  | .holder => position.holder

def MarketInfo.leg (market : MarketInfo) : Leg → TokenLeg
  | .collateral => if market.isPut then market.quote else market.underlying
  | .settlement => if market.isPut then market.underlying else market.quote

def InTheMoney (position : PositionInfo) (market : MarketInfo) : Prop :=
  if market.isPut then market.settlementPrice < position.terms.strike
  else position.terms.strike < market.settlementPrice

instance (position : PositionInfo) (market : MarketInfo) :
    Decidable (InTheMoney position market) :=
  inferInstanceAs (Decidable (ite _ _ _))

section Payout

variable {P : Platform} {programId makerOwner : Pubkey} {position : PositionInfo}
  {market : MarketInfo} {ix : Instruction}

theorem isOtm_iff : isOtm position market = true ↔ ¬InTheMoney position market := by
  unfold isOtm InTheMoney
  split <;> simp

/-- What is looked at before the status of a physical position. -/
structure Checked (P : Platform) (programId makerOwner : Pubkey) (position : PositionInfo)
    (market : MarketInfo) : Prop where
  makerSide : requireMakerSide makerOwner position = .ok ()
  flags : position.flags &&& ~~~7 = 0 ∧ position.flags2 = 0 ∧ position.flags3 = 0
  pda : market.pda P programId = position.marketPda
  finalized : market.isFinalized = true ∧
    market.isPut = decide (position.terms.positionType = .cashSecuredPut)
  tokenPrograms : market.validateTokenPrograms = .ok ()

structure Accepted (P : Platform) (programId makerOwner : Pubkey) (position : PositionInfo)
    (market : MarketInfo) (ix : Instruction) : Prop where
  checked : Checked P programId makerOwner position market
  live : position.status = .funded ∨ isOtm position market = true ∨
    position.side.isTakerBuy = true
  built : ix = ⟨programId, settleAccounts P programId makerOwner position market, [10, 0]⟩

theorem build_ok_iff (hphysical : position.terms.isSpread = false) :
    buildSettlePositionIx P programId makerOwner position market = .ok ix ↔
      Accepted P programId makerOwner position market ix := by
  simp only [buildSettlePositionIx, hphysical, Bool.false_eq_true, if_false, bind_ok, refuse_ok,
    pure_ok, exists_const, not_or, not_and, not_not, ne_eq]
  constructor
  · rintro ⟨_, hside, hflags, hpda, hfinal, _, hprograms, hlive, hix⟩
    refine ⟨⟨hside, hflags, hpda, hfinal, hprograms⟩, ?_, hix.symm⟩
    rw [or_iff_not_imp_left, or_iff_not_imp_left]
    exact hlive
  · rintro ⟨⟨hside, hflags, hpda, hfinal, hprograms⟩, hlive, hix⟩
    rw [or_iff_not_imp_left, or_iff_not_imp_left] at hlive
    exact ⟨(), hside, hflags, hpda, hfinal, (), hprograms, hlive, hix.symm⟩

def PaidInto (P : Platform) (position : PositionInfo) (market : MarketInfo) (ix : Instruction)
    (party : Party) (leg : Leg) : Prop :=
  ix.accounts[party.slot]? = some (.new ((market.leg leg).ata P (position.owner party)) false)

def escrow (P : Platform) (programId : Pubkey) (position : PositionInfo) (market : MarketInfo)
    (leg : Leg) : Pubkey :=
  (market.leg leg).ata P (Vault.Pda.position P programId position.orderId).1

structure Pays (P : Platform) (programId makerOwner : Pubkey) (position : PositionInfo)
    (market : MarketInfo) (ix : Instruction) : Prop where
  signed : ix.accounts.take 2 = [.new makerOwner true,
    .new (Vault.Pda.position P programId position.orderId).1 false]
  ofMarket : ix.accounts[2]? = some (.new position.marketPda false) ∧
    position.marketPda = market.pda P programId
  collateral : ix.accounts[3]? =
    some (.new (escrow P programId position market .collateral) false)
  funded : position.status = .funded →
    ix.accounts[4]? = some (.new (escrow P programId position market .settlement) false) ∧
    ∃ writer holder, writer ≠ holder ∧ (holder = .collateral ↔ InTheMoney position market) ∧
      PaidInto P position market ix .writer writer ∧ PaidInto P position market ix .holder holder
  opened : position.status = .opened →
    PaidInto P position market ix .writer .collateral ∧
    ix.accounts[4]? = some (.newReadonly systemProgramId false) ∧
    ix.accounts[6]? = some (.newReadonly associatedTokenProgramId false)
  rest : ∀ account ∈ ix.accounts.drop 7, account.pubkey ∈
    [market.underlyingTokenProgramId, market.quoteTokenProgramId, market.underlyingMint,
      market.quoteMint, position.writer]

theorem destinations_writer : (destinations position market).writer = market.leg
    (if isOtm position market = true ∨
        position.side.isTakerBuy = true ∧ position.status = .opened then .collateral
      else .settlement) := by
  simp only [destinations, decide_eq_true_eq]
  split <;> rfl

theorem destinations_holder : (destinations position market).holder = market.leg
    (if isOtm position market = true then .settlement else .collateral) := by
  simp only [destinations]
  split <;> rfl

theorem Accepted.writer (h : Accepted P programId makerOwner position market ix) {leg : Leg}
    (hleg : (destinations position market).writer = market.leg leg) :
    PaidInto P position market ix .writer leg := by
  rw [PaidInto, ← hleg, h.built]
  rfl

theorem Accepted.holder (h : Accepted P programId makerOwner position market ix) {leg : Leg}
    (hopen : position.status ≠ .opened)
    (hleg : (destinations position market).holder = market.leg leg) :
    PaidInto P position market ix .holder leg := by
  rw [PaidInto, ← hleg, h.built]
  simp [settleAccounts, hopen, Party.slot, PositionInfo.owner]

theorem Accepted.pays (h : Accepted P programId makerOwner position market ix) :
    Pays P programId makerOwner position market ix where
  signed := by rw [h.built]; rfl
  ofMarket := ⟨by rw [h.built, ← h.checked.pda]; rfl, h.checked.pda.symm⟩
  collateral := by rw [h.built]; rfl
  funded hfunded := by
    have hopen : position.status ≠ .opened := by simp [hfunded]
    refine ⟨?_, ?_⟩
    · rw [h.built]
      simp [settleAccounts, hfunded, escrow, destinations, MarketInfo.leg]
    by_cases hm : InTheMoney position market
    · have hotm : ¬isOtm position market = true := by simpa [isOtm_iff] using hm
      refine ⟨.settlement, .collateral, by simp, by simp [hm], h.writer ?_, h.holder hopen ?_⟩
      · rw [destinations_writer, if_neg (by simp [hotm, hopen])]
      · rw [destinations_holder, if_neg hotm]
    · have hotm : isOtm position market = true := isOtm_iff.mpr hm
      refine ⟨.collateral, .settlement, by simp, by simp [hm], h.writer ?_, h.holder hopen ?_⟩
      · rw [destinations_writer, if_pos (.inl hotm)]
      · rw [destinations_holder, if_pos hotm]
  opened hopen := by
    refine ⟨h.writer ?_, ?_, ?_⟩
    · rw [destinations_writer, if_pos]
      rcases h.live with hfunded | hotm | hbuy
      · simp [hfunded] at hopen
      · exact .inl hotm
      · exact .inr ⟨hbuy, hopen⟩
    · rw [h.built]
      simp [settleAccounts, hopen]
    · rw [h.built]
      simp [settleAccounts, hopen]
  rest account hmem := by
    rw [h.built] at hmem
    simp only [settleAccounts, List.cons_append, List.drop_succ_cons, List.drop_zero,
      List.nil_append] at hmem
    rcases List.mem_cons.mp hmem with rfl | hmem
    · simp [AccountMeta.newReadonly]
    rcases List.mem_cons.mp hmem with rfl | hmem
    · simp [AccountMeta.newReadonly]
    split at hmem
    · simp only [List.mem_cons, List.not_mem_nil, or_false] at hmem
      rcases hmem with rfl | rfl | rfl <;> simp [AccountMeta.newReadonly, AccountMeta.new]
    · cases hmem

/-- Before the settlement come only creates of the accounts it pays into, none of them for a
writer that is a vault. -/
def Prepares (P : Platform) (makerOwner : Pubkey) (position : PositionInfo) (market : MarketInfo)
    (ix : Instruction) (ixs : List Instruction) : Prop :=
  ∃ creates, ixs = creates ++ [ix] ∧ ∀ create ∈ creates, ∃ party leg,
    create = createDestinationAta P makerOwner (position.owner party) (market.leg leg) ∧
    PaidInto P position market ix party leg ∧ (party = .writer → position.flags &&& 1 = 0)

theorem Accepted.prepares (h : Accepted P programId makerOwner position market ix)
    (hphysical : position.terms.isSpread = false)
    (hok : buildSettlePositionIx P programId makerOwner position market = .ok ix) :
    ∃ ixs, settlePositionSequence P programId makerOwner position market = .ok ixs ∧
      Prepares P makerOwner position market ix ixs := by
  simp only [settlePositionSequence, hphysical, Bool.false_eq_true, if_false, hok]
  refine ⟨_, rfl, _, rfl, fun create hmem ↦ ?_⟩
  rcases List.mem_append.mp hmem with hmem | hmem
  · split at hmem
    · rename_i hwriter
      rw [List.mem_singleton.mp hmem]
      exact ⟨.writer, _, by rw [destinations_writer]; rfl, h.writer destinations_writer,
        fun _ ↦ hwriter.1⟩
    · cases hmem
  · split at hmem
    · rename_i hfunded
      have hopen : position.status ≠ .opened := by simp [of_decide_eq_true hfunded]
      rw [List.mem_singleton.mp hmem]
      exact ⟨.holder, _, by rw [destinations_holder]; rfl, h.holder hopen destinations_holder,
        fun hparty ↦ by cases hparty⟩
    · cases hmem

end Payout

namespace Sample

open Orders.Sample

def position : Pubkey :=
  keyOfNat 0xbae0fac961c84a2fb4f31284b398479bf2e236153724fc8504dedb6684011a66

def market (settlementPrice : UInt64) : MarketInfo where
  expiryTs := expiryTs
  isPut := true
  underlyingMint := underlyingMint
  quoteMint := quoteMint
  isFinalized := true
  settlementPrice
  underlyingTokenProgramId := tokenProgramId
  quoteTokenProgramId := tokenProgramId
  underlyingDecimals := 9
  quoteDecimals := 6

/-- The accounts of each side and of the position, for the quote and the underlying mint. -/
def accounts : List (Pubkey × Pubkey × Pubkey) := [
  (position, quoteMint,
    keyOfNat 0x4552795e06339a563f2c5ef3d8ccdf563188ea6b0082ab2152aedcfe8f2cfebf),
  (position, underlyingMint,
    keyOfNat 0x5c0b4f31ad56b0bfecb3a5cbf31fa0ca09d069b0536c60175f227cff142eee2),
  (taker, quoteMint, keyOfNat 0xf28ced3aa788fbf754491a5429afcba035e8f82836b523d9ff9b2c0e4c520e8a),
  (taker, underlyingMint,
    keyOfNat 0xf721f5271355a89dfbd6daa8f3851b4f25c552ca7f5dc90d70f1a642adcd889b),
  (maker, quoteMint, keyOfNat 0xf4a74b227ecf937d05e03410faec3b608ff1d9a8eef301c8d4665c7ce22154ea),
  (maker, underlyingMint,
    keyOfNat 0x2d30e571f70ad48d86804f687a725458a6e0ce392930cf4ba3d1de66a26c8d83)]

def platform : Platform :=
  .ofTables ([
    ([ascii "market", underlyingMint.toList, quoteMint.toList, Base.Bytes.u64ToLe expiryTs, [1]],
      program, Orders.Sample.market),
    ([ascii "position", physicalId.toList], program, position)] ++
      accounts.map fun entry ↦ ([entry.1.toList, tokenProgramId.toList, entry.2.1.toList],
        associatedTokenProgramId, entry.2.2)) [] [] []

def put (status : PositionStatus) : PositionInfo where
  terms := .cashSecuredPut strike
  side := .sell
  flags := 0
  flags2 := 0
  flags3 := 0
  status
  writer := taker
  holder := maker
  marketPda := Orders.Sample.market
  quantity := quantity
  orderId := physicalId

theorem put_ok : buildSettlePositionIx platform program maker (put .funded)
    (market 140000000000) = .ok ⟨program, settleAccounts platform program maker (put .funded)
      (market 140000000000), [10, 0]⟩ := by
  decide +kernel

end Sample

section Settlements

variable {P : Platform} {programId makerOwner : Pubkey} {position : PositionInfo}
  {market : MarketInfo} {ix : Instruction}

/-- A physical settlement that is built pays the right legs, and its sequence prepares them. -/
theorem settle_pays (hphysical : position.terms.isSpread = false)
    (h : buildSettlePositionIx P programId makerOwner position market = .ok ix) :
    Pays P programId makerOwner position market ix ∧
      ∃ ixs, settlePositionSequence P programId makerOwner position market = .ok ixs ∧
        Prepares P makerOwner position market ix ixs := by
  have haccepted := (build_ok_iff hphysical).mp h
  exact ⟨haccepted.pays, haccepted.prepares hphysical h⟩

theorem settle_pays_put : ∃ ix ixs,
    let market := Sample.market 140000000000
    buildSettlePositionIx Sample.platform Orders.Sample.program Orders.Sample.maker
      (Sample.put .funded) market = .ok ix ∧
    settlePositionSequence Sample.platform Orders.Sample.program Orders.Sample.maker
      (Sample.put .funded) market = .ok ixs ∧
    InTheMoney (Sample.put .funded) market ∧
    Pays Sample.platform Orders.Sample.program Orders.Sample.maker (Sample.put .funded) market ix ∧
    Prepares Sample.platform Orders.Sample.maker (Sample.put .funded) market ix ixs := by
  have hix := Sample.put_ok
  obtain ⟨hpays, ixs, hixs, hprepares⟩ := settle_pays rfl hix
  exact ⟨_, ixs, hix, hixs, by decide, hpays, hprepares⟩

theorem cash_opened (h : buildCashSettleIx P programId makerOwner position market = .ok ix) :
    position.status = .opened := by
  simp only [buildCashSettleIx, buildCashSettleIxWithDestinations, bind_ok, refuse_ok] at h
  obtain ⟨kind, -, -, hstate, -⟩ := h
  rw [not_or, not_or, not_or, not_or] at hstate
  exact not_not.mp hstate.2.2.2.1

/-- Open, or for a physical position funded; and an open sell only out of the money. -/
def Live (position : PositionInfo) (market : MarketInfo) : Prop :=
  (position.terms.isSpread = true → position.status = .opened) ∧
  (position.terms.isSpread = false →
    (position.status = .opened ∨ position.status = .funded) ∧
    (position.status = .opened → position.side = .sell → ¬InTheMoney position market))

theorem live_of_spread (hspread : position.terms.isSpread = true)
    (h : buildSettlePositionIx P programId makerOwner position market = .ok ix) :
    Live position market := by
  refine ⟨fun _ ↦ ?_, fun hphysical ↦ ?_⟩
  · simp only [buildSettlePositionIx, hspread, if_true, bind_ok] at h
    obtain ⟨-, -, h⟩ := h
    exact cash_opened h
  · rw [hspread] at hphysical
    cases hphysical

theorem isTakerBuy_iff : position.side.isTakerBuy = true ↔ position.side = .buy := by
  cases position.side <;> simp [TakerSide.isTakerBuy]

/-- Only live positions are settled exactly where the status that is not looked at, of a physical
buy or a physical position out of the money, is open or funded. -/
theorem settle_live :
    (∀ ix, buildSettlePositionIx P programId makerOwner position market = .ok ix →
      Live position market) ↔
    (position.terms.isSpread = false → Checked P programId makerOwner position market →
      position.side = .buy ∨ ¬InTheMoney position market →
        position.status = .opened ∨ position.status = .funded) := by
  constructor
  · intro h hphysical hchecked hunseen
    rw [← isOtm_iff, ← isTakerBuy_iff, or_comm] at hunseen
    have hlive := h _ ((build_ok_iff hphysical).mpr ⟨hchecked, .inr hunseen, rfl⟩)
    exact (hlive.2 hphysical).1
  · intro h ix hix
    cases hspread : position.terms.isSpread with
    | true => exact live_of_spread hspread hix
    | false =>
      obtain ⟨hchecked, hlive, -⟩ := (build_ok_iff hspread).mp hix
      rw [isTakerBuy_iff, isOtm_iff] at hlive
      refine ⟨fun hcash ↦ by simp [hcash] at hspread, fun _ ↦ ⟨?_, fun hopen hsell ↦ ?_⟩⟩
      · rcases hlive with hfunded | hotm | hbuy
        · exact .inr hfunded
        · exact h hspread hchecked (.inr hotm)
        · exact h hspread hchecked (.inl hbuy)
      · rcases hlive with hfunded | hotm | hbuy
        · cases hopen.symm.trans hfunded
        · exact hotm
        · cases hsell.symm.trans hbuy

theorem settle_live_put :
    (Sample.put .funded).terms.isSpread = false ∧
      ((Sample.put .funded).status = .opened ∨ (Sample.put .funded).status = .funded) :=
  ⟨rfl, ((settle_live.mpr (fun _ _ _ ↦ .inr rfl) _ Sample.put_ok).2 rfl).1⟩

/-- Out of the money a settlement is built for a position in any status. -/
theorem settle_of_dead_put :
    ¬InTheMoney (Sample.put .settled) (Sample.market 160000000000) ∧
    ∀ status, (buildSettlePositionIx Sample.platform Orders.Sample.program Orders.Sample.maker
      (Sample.put status) (Sample.market 160000000000)).isOk = true := by
  refine ⟨by decide, fun status ↦ ?_⟩
  cases status <;> decide +kernel

end Settlements

end MakerSdk.Settle
