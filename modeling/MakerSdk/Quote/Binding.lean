import MakerSdk.Quote.Terms
import MakerSdk.Session.Messages
import MakerSdk.Vault.Manager

namespace MakerSdk.Quote

open Base.Bytes Base.Checks Solana Orders Vault
open Session (Uuid)

/-- An instant of the system clock, in nanoseconds from the Unix epoch. -/
structure SystemTime where
  nanos : ℤ
deriving DecidableEq

namespace SystemTime

def sinceEpoch (time : SystemTime) : Option ℕ :=
  if 0 ≤ time.nanos then some time.nanos.toNat else none

def checkedAdd (time : SystemTime) (nanos : ℕ) : Option SystemTime :=
  let later := time.nanos + nanos
  if later / 1000000000 ≤ 2 ^ 63 - 1 then some ⟨later⟩ else none

end SystemTime

abbrev QuoteExpiry := UInt64

def QuoteExpiry.fromSystemTime (time : SystemTime) : Option QuoteExpiry := do
  let duration ← time.sinceEpoch
  pure (.ofNat (duration / 1000000000))

def QuoteExpiry.after (now : SystemTime) (seconds : UInt32) : Option QuoteExpiry := do
  let later ← now.checkedAdd (seconds.toNat * 1000000000)
  QuoteExpiry.fromSystemTime later

inductive QuoteBuildError where
  | order (error : OrderError)
  | spread (error : SpreadError)
  | marketBinding (field : String)
  | termsNotOffered (requested : OptionTerms) (offered : List OptionTerms)
  | missing (field : String)
  | validUntilAfterMarketExpiry (validUntil marketExpiry : QuoteExpiry)
  | validUntilTooSoon (validUntil minValidUntil : QuoteExpiry)
  | validUntilWithinSettlementBuffer (validUntil bufferEnd : QuoteExpiry)
  | signing (message : String)
deriving DecidableEq

structure MarketDescriptor where
  chainId : UInt64
  programId : FixedBytes 32
  marketPda : FixedBytes 32
  underlyingMint : FixedBytes 32
  quoteMint : FixedBytes 32
  expiryTs : SystemTime
  isPut : Bool
  collateralMint : FixedBytes 32
  settlementMint : FixedBytes 32
deriving DecidableEq

structure RfqBroadcastMessage where
  rfqId : Uuid
  market : MarketDescriptor
  terms : OptionTerms
  side : TakerSide
  quantity : UInt64
  taker : FixedBytes 32
  orderOptions : List OptionTerms
deriving DecidableEq

structure RfqBinding where
  rfqId : Uuid
  chainId : UInt64
  programId : FixedBytes 32
  market : FixedBytes 32
  marketExpiry : QuoteExpiry
  taker : FixedBytes 32
  terms : OptionTerms
  quantity : UInt64
  offeredTerms : List OptionTerms
  side : TakerSide
deriving DecidableEq

namespace RfqBroadcastMessage

variable (rfq : RfqBroadcastMessage)

def collateralAndSettlement : FixedBytes 32 × FixedBytes 32 :=
  let underlying := rfq.market.underlyingMint
  let quote := rfq.market.quoteMint
  if rfq.terms.isSpread then (quote, quote)
  else if rfq.market.isPut then (quote, underlying)
  else (underlying, quote)

def validateMarketBinding (P : Platform) (expectedProgram : FixedBytes 32) :
    Except QuoteBuildError (FixedBytes 32 × QuoteExpiry) := do
  let descriptor := rfq.market
  refuse (descriptor.chainId ≠ 0) (.marketBinding "chain_id")
  refuse (descriptor.programId ≠ expectedProgram) (.marketBinding "program_id")
  refuse (descriptor.isPut ≠ rfq.terms.positionType.isPut) (.marketBinding "terms")
  refuse (descriptor.collateralMint ≠ rfq.collateralAndSettlement.1 ∨
    descriptor.settlementMint ≠ rfq.collateralAndSettlement.2)
    (.marketBinding "collateral/settlement mint")
  let expiry ← okOr descriptor.expiryTs.sinceEpoch (.marketBinding "expiry_ts")
  refuse (expiry % 1000000000 ≠ 0 ∨ expiry / 1000000000 > 2 ^ 63 - 1)
    (.marketBinding "expiry_ts")
  let seconds : UInt64 := .ofNat (expiry / 1000000000)
  let expectedMarket := marketPda P expectedProgram descriptor.underlyingMint
    descriptor.quoteMint seconds descriptor.isPut
  refuse (descriptor.marketPda ≠ expectedMarket) (.marketBinding "market_pda")
  pure (descriptor.marketPda, seconds)

def validateTerms : Except QuoteBuildError Unit :=
  let terms := rfq.terms
  if terms.isSpread then do
    let upper ← okOr terms.upperStrike (.marketBinding "spread terms")
    refuse (terms.positionType ≠ .cashPut ∧ terms.strike = 0) (.spread .invalidStrikes)
    let kind ← (SpreadType.tryFrom terms.toChain.positionType.toByte).mapError .spread
    let _ ← (validateStrikes kind terms.toChain.strike upper).mapError .spread
    refuse (rfq.quantity = 0 ∨ rfq.orderOptions.length ≠ 1 ∨
      rfq.orderOptions.head? ≠ some terms) (.marketBinding "spread pair")
  else
    refuse (∃ option ∈ rfq.orderOptions,
      option.isSpread ∨ option.positionType ≠ terms.positionType)
      (.marketBinding "physical order_options")

end RfqBroadcastMessage

def RfqBinding.fromBroadcastForProgram (P : Platform) (rfq : RfqBroadcastMessage)
    (expectedProgram : FixedBytes 32) : Except QuoteBuildError RfqBinding := do
  rfq.validateTerms
  let (market, marketExpiry) ← rfq.validateMarketBinding P expectedProgram
  pure {
    rfqId := rfq.rfqId
    chainId := rfq.market.chainId
    programId := expectedProgram
    market := market
    marketExpiry := marketExpiry
    taker := rfq.taker
    terms := rfq.terms
    quantity := rfq.quantity
    offeredTerms := rfq.terms :: rfq.orderOptions.filter (fun option ↦ option ≠ rfq.terms)
    side := rfq.side }

def RfqBroadcastMessage.Offers (rfq : RfqBroadcastMessage) (terms : OptionTerms) : Prop :=
  terms = rfq.terms ∨ terms ∈ rfq.orderOptions

theorem mem_offered {rfq : RfqBroadcastMessage} {terms : OptionTerms} :
    terms ∈ rfq.terms :: rfq.orderOptions.filter (fun option ↦ option ≠ rfq.terms) ↔
      rfq.Offers terms := by
  simp only [List.mem_cons, List.mem_filter, decide_eq_true_eq, RfqBroadcastMessage.Offers]
  by_cases h : terms = rfq.terms
  · simp [h]
  · simp [h]

theorem offers_normal {rfq : RfqBroadcastMessage} (h : rfq.validateTerms = .ok ())
    {terms : OptionTerms} (hoffer : rfq.Offers terms) : terms.Normal := by
  intro hput hzero
  have hspread : terms.isSpread = true := by
    rw [OptionTerms.isSpread, hput]
    rfl
  rw [RfqBroadcastMessage.validateTerms] at h
  by_cases hs : rfq.terms.isSpread = true
  · simp only [hs, ↓reduceIte, bind_ok, okOr_ok, refuse_ok, mapError_ok] at h
    obtain ⟨upper, -, _, hstrike, kind, -, _, -, hpair⟩ := h
    have heq : terms = rfq.terms := by
      rcases hoffer with heq | hmem
      · exact heq
      · push Not at hpair
        obtain ⟨-, hlen, hhead⟩ := hpair
        obtain ⟨option, hoption⟩ := List.length_eq_one_iff.mp hlen
        rw [hoption] at hhead hmem
        rw [List.mem_singleton.mp hmem]
        exact Option.some.inj hhead
    rw [heq] at hput hzero
    exact hstrike ⟨by rw [hput]; decide, hzero⟩
  · simp only [hs, Bool.false_eq_true, ↓reduceIte, refuse_ok] at h
    rcases hoffer with heq | hmem
    · exact hs (heq ▸ hspread)
    · exact h ⟨terms, hmem, .inl hspread⟩

structure RfqBinding.Binds (P : Platform) (binding : RfqBinding) (rfq : RfqBroadcastMessage)
    (program : FixedBytes 32) : Prop where
  rfqId : binding.rfqId = rfq.rfqId
  chainId : binding.chainId = 0 ∧ rfq.market.chainId = 0
  programId : binding.programId = program ∧ rfq.market.programId = program
  market : binding.market = rfq.market.marketPda
  address : rfq.market.marketPda = marketPda P program rfq.market.underlyingMint
    rfq.market.quoteMint binding.marketExpiry rfq.market.isPut
  marketExpiry : rfq.market.expiryTs = ⟨binding.marketExpiry.toNat * 1000000000⟩
  isPut : rfq.market.isPut = rfq.terms.positionType.isPut
  taker : binding.taker = rfq.taker
  quantity : binding.quantity = rfq.quantity
  side : binding.side = rfq.side
  offered : ∀ terms, terms ∈ binding.offeredTerms ↔ rfq.Offers terms
  normal : ∀ terms, rfq.Offers terms → terms.Normal

theorem expiryTs_eq {time : SystemTime} {duration : ℕ} (h : time.sinceEpoch = some duration)
    (hwhole : ¬ (duration % 1000000000 ≠ 0 ∨ duration / 1000000000 > 2 ^ 63 - 1)) :
    time = ⟨(UInt64.ofNat (duration / 1000000000)).toNat * 1000000000⟩ := by
  have hfits : (UInt64.ofNat (duration / 1000000000)).toNat = duration / 1000000000 := by
    rw [UInt64.toNat_ofNat']
    omega
  obtain ⟨nanos⟩ := time
  rw [hfits, SystemTime.mk.injEq]
  simp only [SystemTime.sinceEpoch] at h
  split at h
  · have hnanos := Option.some.inj h
    omega
  · cases h

theorem fromBroadcastForProgram_binds {P : Platform} {rfq : RfqBroadcastMessage}
    {program : FixedBytes 32} {binding : RfqBinding}
    (h : RfqBinding.fromBroadcastForProgram P rfq program = .ok binding) :
    binding.Binds P rfq program := by
  simp only [RfqBinding.fromBroadcastForProgram, RfqBroadcastMessage.validateMarketBinding,
    bind_ok, pure_ok, refuse_ok, okOr_ok] at h
  obtain ⟨_, hterms, ⟨market, expiry⟩, ⟨_, hchain, _, hprogram, _, hput, _, hmints, duration,
    hduration, _, hexpiry, _, hmarket, heq⟩, rfl⟩ := h
  obtain ⟨rfl, rfl⟩ := Prod.mk.inj heq
  simp only [ne_eq, not_not] at hchain hprogram hput hmarket
  exact ⟨rfl, ⟨hchain, hchain⟩, ⟨rfl, hprogram⟩, rfl, hmarket, expiryTs_eq hduration hexpiry, hput,
    rfl, rfl, rfl, fun terms ↦ mem_offered, fun terms ↦ offers_normal hterms⟩

end MakerSdk.Quote
