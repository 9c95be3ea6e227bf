import MakerSdk.Quote.Builder
import MakerSdk.Served.Budget
import MakerSdk.Vault.Open

namespace MakerSdk.Sale

open Base.Bytes Base.Checks Solana Orders Vault Quote Served
open Session (Uuid)

structure MarketInfo where
  expiryTs : UInt64
  isPut : Bool
  underlyingMint : Pubkey
  quoteMint : Pubkey
deriving DecidableEq

structure VaultSale where
  marketPda : Pubkey
  market : MarketInfo
  terms : OptionTerms
  quantity : UInt64
  rfqTimeout : UInt32
  window : ℕ
  bounds : ComputeBudgetBounds

structure QuoteReceivedMessage where
  rfqId : Uuid
  terms : OptionTerms
  side : TakerSide
  maker : Pubkey
  price : UInt64
  validUntil : QuoteExpiry
  nonce : UInt64
  orderId : FixedBytes 32
  netPrice : Option UInt64
deriving DecidableEq

inductive SaleTermsError where
  | market
  | spread (error : SpreadError)
deriving DecidableEq

def orderIdOf (P : Platform) (programId maker taker : Pubkey) :
    VaultSaleTerms → Except VaultChainError (FixedBytes 32)
  | .physical terms => .ok (terms.orderId P programId maker taker)
  | .spread terms => terms.orderId P programId maker taker

structure Fill where
  side : TakerSide
  price : UInt64
  validUntil : QuoteExpiry
  nonce : UInt64

def fillOf : VaultSaleTerms → Fill
  | .physical terms => ⟨terms.side, terms.price, terms.validUntil, terms.nonce⟩
  | .spread terms => ⟨terms.side, terms.price, terms.validUntil, terms.nonce⟩

namespace VaultSale

variable (sale : VaultSale)

/-- The checks of `sell_rfq` on its own argument. -/
def check (P : Platform) (programId : Pubkey) : Except SaleTermsError Unit := do
  let market := sale.market
  let canonical := Vault.marketPda P programId market.underlyingMint market.quoteMint
    market.expiryTs market.isPut
  refuse (canonical ≠ sale.marketPda ∨ sale.terms.positionType.isPut ≠ market.isPut) .market
  match sale.terms.upperStrike with
  | none => pure ()
  | some upper => do
    refuse (sale.terms.positionType ≠ .cashPut ∧ sale.terms.strike = 0) (.spread .invalidStrikes)
    let kind ← (SpreadType.tryFrom sale.terms.toChain.positionType.toByte).mapError .spread
    let _ ← (validateStrikes kind sale.terms.toChain.strike upper).mapError .spread

def spreadTerms (quote : QuoteReceivedMessage) (kind : SpreadType)
    (lowerStrike upperStrike : UInt64) : VaultSpreadTerms where
  underlyingMint := sale.market.underlyingMint
  quoteMint := sale.market.quoteMint
  expiryTs := sale.market.expiryTs
  kind := kind
  side := quote.side
  lowerStrike := lowerStrike
  upperStrike := upperStrike
  quantity := sale.quantity
  price := quote.price
  validUntil := quote.validUntil
  nonce := quote.nonce

def physicalTerms (quote : QuoteReceivedMessage) (strike : UInt64) : VaultTradeTerms where
  underlyingMint := sale.market.underlyingMint
  quoteMint := sale.market.quoteMint
  expiryTs := sale.market.expiryTs
  isPut := sale.market.isPut
  side := quote.side
  strike := strike
  quantity := sale.quantity
  price := quote.price
  validUntil := quote.validUntil
  nonce := quote.nonce

/-- The terms the writer signs to fill a quote; the source wraps them in an `Ok`. -/
def signedTerms (quote : QuoteReceivedMessage) : VaultSaleTerms :=
  match sale.terms with
  | .cashPut strike => .spread (sale.spreadTerms quote .putSpread 0 strike)
  | .coveredCall strike | .cashSecuredPut strike => .physical (sale.physicalTerms quote strike)
  | .callSpread lower upper => .spread (sale.spreadTerms quote .callSpread lower upper)
  | .putSpread lower upper => .spread (sale.spreadTerms quote .putSpread lower upper)

theorem fillOf_signedTerms (quote : QuoteReceivedMessage) :
    fillOf (sale.signedTerms quote) = ⟨quote.side, quote.price, quote.validUntil, quote.nonce⟩ := by
  unfold signedTerms
  cases sale.terms with
  | cashPut | coveredCall | cashSecuredPut | callSpread | putSpread => rfl

def Matches (quote : QuoteReceivedMessage) : Prop :=
  quote.terms = sale.terms ∧ quote.side = .sell

theorem check_ok {P : Platform} {programId : Pubkey} (h : sale.check P programId = .ok ()) :
    sale.marketPda = Vault.marketPda P programId sale.market.underlyingMint sale.market.quoteMint
      sale.market.expiryTs sale.market.isPut ∧
    sale.terms.positionType.isPut = sale.market.isPut := by
  simp only [check, bind_ok, refuse_ok, not_or, not_not, ne_eq] at h
  obtain ⟨_, ⟨hmarket, hput⟩, -⟩ := h
  exact ⟨hmarket.symm, hput⟩

end VaultSale

/-- The broadcast that answers the RFQ request of a sale: it is for the requested market and
quantity, and the vault is its taker. -/
structure Announces (rfq : RfqBroadcastMessage) (sale : VaultSale) (vault : Pubkey) : Prop where
  market : rfq.market.marketPda = sale.marketPda
  quantity : rfq.quantity = sale.quantity
  taker : rfq.taker = vault

structure Relays (sent : QuoteMessage) (maker : Pubkey) (received : QuoteReceivedMessage) :
    Prop where
  terms : received.terms = sent.terms
  side : received.side = sent.side
  maker : received.maker = maker
  price : received.price = sent.price
  validUntil : received.validUntil = sent.validUntil
  nonce : received.nonce = sent.nonce

section Agreement

variable {P : Platform} {program maker vault : Pubkey} {rfq : RfqBroadcastMessage}
  {sale : VaultSale} {sent : QuoteMessage} {received : QuoteReceivedMessage}

theorem market_eq (hcheck : sale.check P program = .ok ()) (hrfq : Announces rfq sale vault) :
    rfq.market.marketPda = Vault.marketPda P program sale.market.underlyingMint
      sale.market.quoteMint sale.market.expiryTs sale.terms.positionType.isPut := by
  obtain ⟨hmarket, hput⟩ := sale.check_ok hcheck
  rw [hrfq.market, hmarket, hput]

theorem physicalTerms_orderId (hcheck : sale.check P program = .ok ())
    (hrfq : Announces rfq sale vault) (hquote : Relays sent maker received)
    (hchain : rfq.market.chainId = 0) (hprogram : rfq.market.programId = program)
    {strike : UInt64} {kind : PositionType} (hkind : sale.terms.positionType = kind)
    (hphysical : kind = .coveredCall ∨ kind = .cashSecuredPut) {orderId : FixedBytes 32}
    (hid : computeOrderId P (rfq.physicalArgs maker sent kind strike) = .ok orderId) :
    (sale.physicalTerms received strike).orderId P program maker vault = orderId := by
  have hmarket := market_eq hcheck hrfq
  have hput := (sale.check_ok hcheck).2
  simp only [computeOrderId, bind_ok, pure_ok] at hid
  obtain ⟨preimage, hpre, rfl⟩ := hid
  obtain ⟨-, rfl⟩ := buildOrderPreimage_ok.mp hpre
  rw [hkind] at hmarket hput
  simp only [VaultTradeTerms.orderId, VaultTradeTerms.market, VaultSale.physicalTerms,
    RfqBroadcastMessage.physicalArgs, hchain, hprogram, hmarket, hrfq.quantity, hrfq.taker,
    hquote.side, hquote.price, hquote.validUntil, hquote.nonce, ← hput]
  rcases hphysical with rfl | rfl <;> rfl

theorem spreadTerms_orderId (hcheck : sale.check P program = .ok ())
    (hrfq : Announces rfq sale vault) (hquote : Relays sent maker received)
    (hchain : rfq.market.chainId = 0) (hprogram : rfq.market.programId = program)
    {kind : SpreadType} {lower upper : UInt64}
    (hkind : sale.terms.positionType.isPut = decide (kind = .putSpread)) {orderId : FixedBytes 32}
    (hid : computeSpreadOrderId P (rfq.spreadArgs maker sent kind lower upper) = .ok orderId) :
    (sale.spreadTerms received kind lower upper).orderId P program maker vault = .ok orderId := by
  have hmarket := market_eq hcheck hrfq
  rw [hkind] at hmarket
  simp only [RfqBroadcastMessage.spreadArgs, hchain, hprogram, hmarket, hrfq.quantity,
    hrfq.taker] at hid
  simp only [VaultSpreadTerms.orderId, VaultSpreadTerms.market, VaultSale.spreadTerms, hquote.side,
    hquote.price, hquote.validUntil, hquote.nonce, mapError_ok]
  exact hid

/-- The maker of a signed quote and the vault that sells to it derive one order id. -/
theorem sale_order_id_agrees {E : Encodings} {verifyStrict : VerifyStrict}
    (s : SignedQuote P E verifyStrict) (hcheck : sale.check P s.program = .ok ())
    (hrfq : Announces s.rfq sale vault) (hmaker : s.builder.maker = some maker)
    (hquote : Relays s.quote maker received) (hmatch : sale.Matches received) :
    orderIdOf P s.program received.maker vault (sale.signedTerms received) =
      .ok s.quote.orderId := by
  obtain ⟨owner, hbound, -⟩ := s.bound
  have howner : owner = maker := Option.some.inj (hbound.owner.symm.trans hmaker)
  subst howner
  have hchain := s.binds.chainId.2
  have hprogram := s.binds.programId.2
  have hid := hbound.orderId
  have hterms : s.quote.terms = sale.terms := hquote.terms.symm.trans hmatch.1
  rw [RfqBroadcastMessage.orderTerms, hterms] at hid
  rw [VaultSale.signedTerms, hquote.maker]
  cases hsale : sale.terms with
  | cashPut strike =>
    rw [hsale] at hid
    exact spreadTerms_orderId hcheck hrfq hquote hchain hprogram (by rw [hsale]; rfl) hid
  | coveredCall strike =>
    rw [hsale] at hid
    exact congrArg Except.ok (physicalTerms_orderId hcheck hrfq hquote hchain hprogram
      (by rw [hsale]; rfl) (.inl rfl) hid)
  | cashSecuredPut strike =>
    rw [hsale] at hid
    exact congrArg Except.ok (physicalTerms_orderId hcheck hrfq hquote hchain hprogram
      (by rw [hsale]; rfl) (.inr rfl) hid)
  | callSpread lower upper =>
    rw [hsale] at hid
    exact spreadTerms_orderId hcheck hrfq hquote hchain hprogram (by rw [hsale]; rfl) hid
  | putSpread lower upper =>
    rw [hsale] at hid
    exact spreadTerms_orderId hcheck hrfq hquote hchain hprogram (by rw [hsale]; rfl) hid

end Agreement

section Sample

open Orders.Sample

def sampleSale : VaultSale where
  marketPda := market
  market := ⟨expiryTs, true, underlyingMint, quoteMint⟩
  terms := .cashPut strike
  quantity := quantity
  rfqTimeout := 30
  window := 30000000000
  bounds := ⟨0, 0⟩

def sampleReceived : QuoteReceivedMessage where
  rfqId := 1
  terms := .cashPut strike
  side := .sell
  maker := maker
  price := price
  validUntil := validUntil
  nonce := 77
  orderId := spreadId
  netPrice := none

theorem sale_order_id_agrees_cash_put :
    orderIdOf platform program maker taker
      (.spread (sampleSale.spreadTerms sampleReceived .putSpread 0 strike)) =
        .ok sampleQuote.orderId :=
  @sale_order_id_agrees _ _ _ sampleSale sampleReceived _ _ sampleSignedQuote
    (by decide +kernel) ⟨rfl, rfl, rfl⟩ rfl ⟨rfl, rfl, rfl, rfl, rfl, rfl⟩ ⟨rfl, rfl⟩

end Sample

end MakerSdk.Sale
