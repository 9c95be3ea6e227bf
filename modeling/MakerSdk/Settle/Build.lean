import MakerSdk.Sale.Errors

namespace MakerSdk.Settle

open Base.Bytes Base.Checks Solana Orders Quote Served
open Sale (ChainError)

inductive PositionStatus where
  | none
  | opened
  | funded
  | liquidated
  | settled
  | closed
deriving DecidableEq

/-- On a buy the wallet buyer is the `holder` and the maker the `writer`. Bits 0 and 1 of `flags`
say that the writer and the holder are vaults. -/
structure PositionInfo where
  terms : OptionTerms
  side : TakerSide
  flags : UInt8
  flags2 : UInt8
  flags3 : UInt8
  status : PositionStatus
  writer : Pubkey
  holder : Pubkey
  marketPda : Pubkey
  quantity : UInt64
  orderId : FixedBytes 32
deriving DecidableEq

structure MarketInfo extends Sale.MarketInfo where
  isFinalized : Bool
  settlementPrice : UInt64
  underlyingTokenProgramId : Pubkey
  quoteTokenProgramId : Pubkey
  underlyingDecimals : UInt8
  quoteDecimals : UInt8

structure TokenLeg where
  mint : Pubkey
  program : Pubkey

def TokenLeg.ata (P : Platform) (leg : TokenLeg) (owner : Pubkey) : Pubkey :=
  deriveAssociatedTokenAddress P owner leg.mint leg.program

namespace MarketInfo

variable (market : MarketInfo)

def pda (P : Platform) (programId : Pubkey) : Pubkey :=
  Vault.marketPda P programId market.underlyingMint market.quoteMint market.expiryTs market.isPut

def underlying : TokenLeg := ⟨market.underlyingMint, market.underlyingTokenProgramId⟩

def quote : TokenLeg := ⟨market.quoteMint, market.quoteTokenProgramId⟩

def validateTokenPrograms : Except ChainError Unit :=
  [market.underlyingTokenProgramId, market.quoteTokenProgramId].forM fun program ↦
    refuse (program ≠ tokenProgramId ∧ program ≠ token2022ProgramId) .invalidAccountData

end MarketInfo

structure CashSettleDestinations where
  writer : Pubkey
  holder : Pubkey

section Cash

variable (P : Platform) (programId settler : Pubkey) (position : PositionInfo)
  (market : MarketInfo)

def repeats (accounts : List Pubkey) : Bool :=
  accounts.zipIdx.any fun entry ↦ (accounts.take entry.2).contains entry.1

/-- The vaults among the two sides; each is paid into its own quote account. -/
def settledVaults (destinations : CashSettleDestinations) : Except ChainError (List Pubkey) :=
  ([(1, position.writer, destinations.writer), (2, position.holder, destinations.holder)].filter
    fun side ↦ position.flags &&& side.1 ≠ 0).mapM fun side ↦
      if side.2.2 = market.quote.ata P side.2.1 then .ok side.2.1
      else .error (.identity "vault spread destination must be the vault quote ATA")

def cashSettleAccounts (destinations : CashSettleDestinations) (vaults : List Pubkey) :
    List AccountMeta :=
  let positionPda := (Vault.Pda.position P programId position.orderId).1
  let tail :=
    if vaults.isEmpty then []
    else [.newReadonly market.underlyingMint false, .newReadonly market.quoteMint false] ++
      vaults.map (.new · false)
  [.new settler true,
    .new positionPda false,
    .new (market.pda P programId) false,
    .new (market.quote.ata P positionPda) false,
    .newReadonly systemProgramId false,
    .new destinations.writer false,
    .new destinations.holder false,
    .newReadonly market.underlyingTokenProgramId false,
    .newReadonly market.quoteTokenProgramId false] ++ tail

def buildCashSettleIxWithDestinations (destinations : CashSettleDestinations) :
    Except ChainError Instruction := do
  let kind ← (SpreadType.tryFrom position.terms.toChain.positionType.toByte).mapError .spread
  refuse (position.flags &&& ~~~7 ≠ 0 ∨ position.flags2 ≠ 0 ∨ position.flags3 ≠ 0 ∨
    position.status ≠ .opened ∨ ¬market.isFinalized ∨
    market.isPut ≠ decide (kind = .putSpread)) .invalidSettlementState
  let upper ← okOr position.terms.upperStrike .invalidAccountData
  let _ ← (width position.terms.toChain.strike upper).mapError .spread
  market.validateTokenPrograms
  refuse (market.pda P programId ≠ position.marketPda) (.identity "position market")
  let positionPda := (Vault.Pda.position P programId position.orderId).1
  -- one owner on both sides may receive both amounts into one account
  let shared : Bool :=
    position.writer = position.holder ∧ destinations.writer = destinations.holder
  let unique := [positionPda, market.pda P programId, market.quote.ata P positionPda,
    systemProgramId, destinations.writer, destinations.holder].take (6 - shared.toNat)
  refuse (repeats unique) (.identity "distinct cash settlement accounts")
  let vaults ← settledVaults P position market destinations
  pure ⟨programId, cashSettleAccounts P programId settler position market destinations vaults,
    [10, 0]⟩

def buildCashSettleIx : Except ChainError Instruction :=
  buildCashSettleIxWithDestinations P programId settler position market
    ⟨market.quote.ata P position.writer, market.quote.ata P position.holder⟩

end Cash

section Physical

variable (P : Platform) (programId makerOwner : Pubkey) (position : PositionInfo)
  (market : MarketInfo)

/-- The maker side: the holder on a sell, the writer on a buy. A vault writer may be settled by
any signer; a vault holder settles through the vault route instead. -/
def requireMakerSide : Except ChainError Unit :=
  let ok : Bool :=
    if position.side.isTakerBuy then position.flags &&& 1 ≠ 0 ∨ position.writer = makerOwner
    else position.flags &&& 2 = 0 ∧ position.holder = makerOwner
  refuse (¬ok) (.identity "wallet maker owner")

def isOtm : Bool :=
  if market.isPut then market.settlementPrice ≥ position.terms.strike
  else market.settlementPrice ≤ position.terms.strike

structure Destinations where
  collateral : TokenLeg
  settlement : TokenLeg
  writer : TokenLeg
  holder : TokenLeg

/-- Mirrors settle: the writer gets collateral back when OTM or when a buy was never funded. -/
def destinations : Destinations :=
  let collateral := if market.isPut then market.quote else market.underlying
  let settlement := if market.isPut then market.underlying else market.quote
  let otm := isOtm position market
  let unfundedBuy : Bool := position.side.isTakerBuy ∧ position.status = .opened
  { collateral
    settlement
    writer := if otm ∨ unfundedBuy then collateral else settlement
    holder := if otm then settlement else collateral }

def settleAccounts : List AccountMeta :=
  let paid := destinations position market
  let positionPda := (Vault.Pda.position P programId position.orderId).1
  let tail :=
    if position.flags &&& 1 ≠ 0 then
      [.newReadonly market.underlyingMint false, .newReadonly market.quoteMint false,
        .new position.writer false]
    else []
  [.new makerOwner true,
    .new positionPda false,
    .new (market.pda P programId) false,
    .new (paid.collateral.ata P positionPda) false,
    if position.status = .opened then .newReadonly systemProgramId false
    else .new (paid.settlement.ata P positionPda) false,
    .new (paid.writer.ata P position.writer) false,
    if position.status = .opened then .newReadonly associatedTokenProgramId false
    else .new (paid.holder.ata P position.holder) false,
    .newReadonly market.underlyingTokenProgramId false,
    .newReadonly market.quoteTokenProgramId false] ++ tail

/-- Settles a position the maker is a side of; `makerOwner` signs and pays rent. -/
def buildSettlePositionIx : Except ChainError Instruction := do
  requireMakerSide makerOwner position
  if position.terms.isSpread then
    buildCashSettleIx P programId makerOwner position market
  else
    refuse (position.flags &&& ~~~7 ≠ 0 ∨ position.flags2 ≠ 0 ∨ position.flags3 ≠ 0)
      .invalidAccountData
    refuse (market.pda P programId ≠ position.marketPda) (.identity "position market")
    refuse (¬market.isFinalized ∨
      market.isPut ≠ decide (position.terms.positionType = .cashSecuredPut))
      .invalidSettlementState
    market.validateTokenPrograms
    -- an open sell that finishes in the money is liquidated, not settled
    refuse (position.status ≠ .funded ∧ ¬(isOtm position market ∨ position.side.isTakerBuy))
      .invalidSettlementState
    pure ⟨programId, settleAccounts P programId makerOwner position market, [10, 0]⟩

end Physical

section Sequences

variable (P : Platform) (programId makerOwner : Pubkey) (position : PositionInfo)
  (market : MarketInfo)

def rentSysvarId : Pubkey := pubkey "SysvarRent111111111111111111111111111111111"

def createAssociatedTokenAccountIdempotentIx (payer ata owner mint tokenProgram : Pubkey) :
    Instruction :=
  ⟨associatedTokenProgramId, [
    .new payer true,
    .new ata false,
    .newReadonly owner false,
    .newReadonly mint false,
    .newReadonly systemProgramId false,
    .newReadonly tokenProgram false,
    .newReadonly rentSysvarId false], [1]⟩

def cashSettleSequence : Except ChainError (List Instruction) := do
  let settle ← buildCashSettleIx P programId makerOwner position market
  let creates := [position.writer, position.holder].map fun owner ↦
    createAssociatedTokenAccountIdempotentIx makerOwner (market.quote.ata P owner) owner
      market.quoteMint market.quoteTokenProgramId
  pure (creates ++ [settle])

def createDestinationAta (payer owner : Pubkey) (leg : TokenLeg) : Instruction :=
  createAtaIdempotent P payer owner leg.mint leg.program

def settlePositionSequence : Except ChainError (List Instruction) := do
  if position.terms.isSpread then
    requireMakerSide makerOwner position
    cashSettleSequence P programId makerOwner position market
  else
    let settle ← buildSettlePositionIx P programId makerOwner position market
    let paid := destinations position market
    -- a vault side pays into its own legs
    let funded : Bool := position.status = .funded
    let writer :=
      if position.flags &&& 1 = 0 ∧ (funded ∨ position.side.isTakerBuy) then
        [createDestinationAta P makerOwner position.writer paid.writer]
      else []
    let holder :=
      if funded then [createDestinationAta P makerOwner position.holder paid.holder] else []
    pure (writer ++ holder ++ [settle])

end Sequences

end MakerSdk.Settle
