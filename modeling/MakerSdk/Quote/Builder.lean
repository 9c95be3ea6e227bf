import MakerSdk.Orders.Joint
import MakerSdk.Quote.Binding

namespace MakerSdk.Quote

open Base.Bytes Base.Checks Solana Orders Vault
open Session (Uuid)

structure AsyncSignerLike where
  pubkeyBytes : FixedBytes 32
  signMessage : List UInt8 → Except String (FixedBytes 64)

/-- `VerifyingKey::verify_strict` of the signature crate. -/
abbrev VerifyStrict := FixedBytes 32 → List UInt8 → FixedBytes 64 → Bool

def signVerified (P : Platform) (verifyStrict : VerifyStrict) (signer : AsyncSignerLike)
    (message : List UInt8) : Except String (FixedBytes 64) := do
  let signature ← signer.signMessage message
  (P.verifyingKey signer.pubkeyBytes).mapError
    (fun _ ↦ "async signer returned an invalid Ed25519 public key")
  refuse (¬ verifyStrict signer.pubkeyBytes message signature)
    "async signer returned a signature for a different key or message"
  pure signature

structure QuoteMessage where
  rfqId : Uuid
  terms : OptionTerms
  side : TakerSide
  price : UInt64
  validUntil : QuoteExpiry
  nonce : UInt64
  orderId : FixedBytes 32
  signature : String
deriving DecidableEq

structure Resolved where
  price : UInt64
  validUntil : QuoteExpiry
  nonce : UInt64
  maker : FixedBytes 32

structure QuoteBuilder where
  binding : RfqBinding
  terms : OptionTerms
  price : Option UInt64
  validUntil : Option QuoteExpiry
  minValidUntil : Option QuoteExpiry
  bufferEnd : Option QuoteExpiry
  nonce : Option UInt64
  maker : Option (FixedBytes 32)

def RfqBinding.quote (binding : RfqBinding) : QuoteBuilder where
  binding := binding
  terms := binding.terms
  price := none
  validUntil := none
  minValidUntil := none
  bufferEnd := none
  nonce := none
  maker := none

/-- What a caller may set; the window reads the clock once for each of its ends. -/
inductive Setting where
  | terms (terms : OptionTerms)
  | price (price : UInt64)
  | validUntil (validUntil : QuoteExpiry)
  | minValidUntil (minValidUntil : QuoteExpiry)
  | quoteWindow (minNow bufferNow : SystemTime)
      (minQuoteValiditySeconds settlementBufferSeconds : UInt32)
  | nonce (nonce : UInt64)
  | makerOwner (owner : FixedBytes 32)

def checkSettlementBuffer (validUntil : QuoteExpiry) :
    Option QuoteExpiry → Except QuoteBuildError Unit
  | some bufferEnd =>
    refuse (validUntil ≤ bufferEnd) (.validUntilWithinSettlementBuffer validUntil bufferEnd)
  | none => .ok ()

namespace QuoteBuilder

variable (b : QuoteBuilder)

def set : Setting → QuoteBuilder
  | .terms terms => { b with terms := terms }
  | .price price => { b with price := some price }
  | .validUntil validUntil => { b with validUntil := some validUntil }
  | .minValidUntil minValidUntil => { b with minValidUntil := some minValidUntil }
  | .quoteWindow minNow bufferNow minQuoteValiditySeconds settlementBufferSeconds =>
    { b with
      minValidUntil := QuoteExpiry.after minNow minQuoteValiditySeconds
      bufferEnd := QuoteExpiry.after bufferNow settlementBufferSeconds }
  | .nonce nonce => { b with nonce := some nonce }
  | .makerOwner owner => { b with maker := some owner }

def resolve : Except QuoteBuildError Resolved := do
  refuse (b.terms ∉ b.binding.offeredTerms)
    (.termsNotOffered b.terms b.binding.offeredTerms)
  let validUntil ← okOr b.validUntil (.missing "valid_until")
  let minValidUntil ← okOr b.minValidUntil (.missing "min_valid_until")
  refuse (validUntil > b.binding.marketExpiry)
    (.validUntilAfterMarketExpiry validUntil b.binding.marketExpiry)
  refuse (validUntil < minValidUntil) (.validUntilTooSoon validUntil minValidUntil)
  checkSettlementBuffer validUntil b.bufferEnd
  let price ← okOr b.price (.missing "price")
  let nonce ← okOr b.nonce (.missing "nonce")
  let maker ← okOr b.maker (.missing "maker_owner")
  pure ⟨price, validUntil, nonce, maker⟩

def argsFor (resolved : Resolved) : OrderPreimageArgs where
  chainId := b.binding.chainId
  programId := b.binding.programId
  side := b.binding.side
  positionType := b.terms.positionType
  market := b.binding.market
  strike := b.terms.strike
  quantity := b.binding.quantity
  grossPrice := resolved.price
  validUntil := resolved.validUntil
  maker := resolved.maker
  taker := b.binding.taker
  nonce := resolved.nonce

def spreadArgsFor (resolved : Resolved) : Except QuoteBuildError SpreadOrderPreimageArgs := do
  let args := b.argsFor resolved
  let positionType ← (SpreadType.tryFrom b.terms.toChain.positionType.toByte).mapError .spread
  let upperStrike ← okOr b.terms.upperStrike (.marketBinding "spread terms")
  pure {
    chainId := args.chainId
    programId := args.programId
    side := args.side
    positionType := positionType
    market := args.market
    lowerStrike := b.terms.toChain.strike
    upperStrike := upperStrike
    quantity := args.quantity
    grossPrice := args.grossPrice
    validUntil := args.validUntil
    maker := args.maker
    taker := args.taker
    nonce := args.nonce }

def orderId (P : Platform) (resolved : Resolved) : Except QuoteBuildError (FixedBytes 32) :=
  if b.terms.isSpread then do
    let args ← b.spreadArgsFor resolved
    (computeSpreadOrderId P args).mapError .spread
  else (computeOrderId P (b.argsFor resolved)).mapError .order

def assemble (E : Encodings) (resolved : Resolved) (orderId : FixedBytes 32)
    (signature : FixedBytes 64) : QuoteMessage where
  rfqId := b.binding.rfqId
  terms := b.terms
  side := b.binding.side
  price := resolved.price
  validUntil := resolved.validUntil
  nonce := resolved.nonce
  orderId := orderId
  signature := E.base58Encode signature.toList

def sign (P : Platform) (E : Encodings) (signer : SignerLike) :
    Except QuoteBuildError QuoteMessage := do
  let resolved ← b.resolve
  let orderId ← b.orderId P resolved
  let signature := signer.signMessage orderId.toList
  pure (b.assemble E resolved orderId signature)

def signWithAsyncSigner (P : Platform) (E : Encodings) (verifyStrict : VerifyStrict)
    (signer : AsyncSignerLike) : Except QuoteBuildError QuoteMessage := do
  let resolved ← b.resolve
  let orderId ← b.orderId P resolved
  let signature ← (signVerified P verifyStrict signer orderId.toList).mapError .signing
  pure (b.assemble E resolved orderId signature)

theorem foldl_set_binding (settings : List Setting) :
    (settings.foldl set b).binding = b.binding := by
  induction settings generalizing b with
  | nil => rfl
  | cons setting settings ih =>
    rw [List.foldl_cons, ih]
    cases setting <;> rfl

structure Valid (resolved : Resolved) : Prop where
  terms : b.terms ∈ b.binding.offeredTerms
  validUntil : b.validUntil = some resolved.validUntil
  minValidUntil : ∃ minValidUntil, b.minValidUntil = some minValidUntil ∧
    minValidUntil ≤ resolved.validUntil
  marketExpiry : resolved.validUntil ≤ b.binding.marketExpiry
  bufferEnd : ∀ bufferEnd, b.bufferEnd = some bufferEnd → bufferEnd < resolved.validUntil
  price : b.price = some resolved.price
  nonce : b.nonce = some resolved.nonce
  maker : b.maker = some resolved.maker

theorem resolve_valid {resolved : Resolved} (h : b.resolve = .ok resolved) : b.Valid resolved := by
  simp only [resolve, bind_ok, refuse_ok, okOr_ok, pure_ok, not_not] at h
  obtain ⟨_, hterms, validUntil, hvalid, minValidUntil, hmin, _, hexpiry, _, hsoon, _, hbuffer,
    price, hprice, nonce, hnonce, maker, hmaker, rfl⟩ := h
  refine ⟨hterms, hvalid, ⟨minValidUntil, hmin, UInt64.not_lt.mp hsoon⟩,
    UInt64.not_lt.mp hexpiry, ?_, hprice, hnonce, hmaker⟩
  intro bufferEnd hend
  rw [hend] at hbuffer
  exact UInt64.not_le.mp (refuse_ok.mp hbuffer)

end QuoteBuilder

inductive QuoteSigner where
  | sync (signer : SignerLike)
  | async (signer : AsyncSignerLike)

namespace QuoteSigner

variable (P : Platform) (E : Encodings) (verifyStrict : VerifyStrict)

def sign (b : QuoteBuilder) : QuoteSigner → Except QuoteBuildError QuoteMessage
  | .sync signer => b.sign P E signer
  | .async signer => b.signWithAsyncSigner P E verifyStrict signer

def SignedOver (message : List UInt8) (text : String) : QuoteSigner → Prop
  | .sync signer => text = E.base58Encode (signer.signMessage message).toList
  | .async signer => ∃ signature, signer.signMessage message = .ok signature ∧
      verifyStrict signer.pubkeyBytes message signature = true ∧
        text = E.base58Encode signature.toList

theorem sign_ok {b : QuoteBuilder} {signer : QuoteSigner} {quote : QuoteMessage}
    (h : signer.sign P E verifyStrict b = .ok quote) :
    ∃ resolved orderId signature, b.Valid resolved ∧ b.orderId P resolved = .ok orderId ∧
      quote = b.assemble E resolved orderId signature ∧
        signer.SignedOver E verifyStrict orderId.toList quote.signature := by
  cases signer with
  | sync signer =>
    simp only [sign, QuoteBuilder.sign, bind_ok, pure_ok] at h
    obtain ⟨resolved, hresolved, orderId, hid, rfl⟩ := h
    exact ⟨resolved, orderId, _, b.resolve_valid hresolved, hid, rfl, rfl⟩
  | async signer =>
    simp only [sign, QuoteBuilder.signWithAsyncSigner, signVerified, bind_ok, pure_ok,
      mapError_ok, refuse_ok, not_not] at h
    obtain ⟨resolved, hresolved, orderId, hid, signature, ⟨_, hsigned, _, -, _, hverified, rfl⟩,
      rfl⟩ := h
    exact ⟨resolved, orderId, _, b.resolve_valid hresolved, hid, rfl, _, hsigned, hverified, rfl⟩

end QuoteSigner

section Rebuilt

variable (rfq : RfqBroadcastMessage) (maker : FixedBytes 32) (quote : QuoteMessage)

def RfqBroadcastMessage.physicalArgs (positionType : PositionType) (strike : UInt64) :
    OrderPreimageArgs where
  chainId := rfq.market.chainId
  programId := rfq.market.programId
  side := quote.side
  positionType := positionType
  market := rfq.market.marketPda
  strike := strike
  quantity := rfq.quantity
  grossPrice := quote.price
  validUntil := quote.validUntil
  maker := maker
  taker := rfq.taker
  nonce := quote.nonce

def RfqBroadcastMessage.spreadArgs (positionType : SpreadType) (lowerStrike upperStrike : UInt64) :
    SpreadOrderPreimageArgs where
  chainId := rfq.market.chainId
  programId := rfq.market.programId
  side := quote.side
  positionType := positionType
  market := rfq.market.marketPda
  lowerStrike := lowerStrike
  upperStrike := upperStrike
  quantity := rfq.quantity
  grossPrice := quote.price
  validUntil := quote.validUntil
  maker := maker
  taker := rfq.taker
  nonce := quote.nonce

/-- The order that everyone rebuilds from the RFQ, the quote that answers it and the maker. -/
def RfqBroadcastMessage.orderTerms : OrderTerms :=
  match quote.terms with
  | .coveredCall strike => .physical (rfq.physicalArgs maker quote .coveredCall strike)
  | .cashSecuredPut strike => .physical (rfq.physicalArgs maker quote .cashSecuredPut strike)
  | .callSpread lower upper => .spread (rfq.spreadArgs maker quote .callSpread lower upper)
  | .putSpread lower upper => .spread (rfq.spreadArgs maker quote .putSpread lower upper)
  | .cashPut strike => .spread (rfq.spreadArgs maker quote .putSpread 0 strike)

end Rebuilt

theorem toChain_eq_of_orderTerms {rfq rfq' : RfqBroadcastMessage} {maker maker' : FixedBytes 32}
    {quote quote' : QuoteMessage} (h : rfq.orderTerms maker quote = rfq'.orderTerms maker' quote') :
    quote.terms.toChain = quote'.terms.toChain := by
  unfold RfqBroadcastMessage.orderTerms at h
  cases hterms : quote.terms <;> cases hterms' : quote'.terms <;>
    simp_all [RfqBroadcastMessage.physicalArgs, RfqBroadcastMessage.spreadArgs,
      OptionTerms.toChain]

section Bound

variable {P : Platform} (E : Encodings) {b : QuoteBuilder} {rfq : RfqBroadcastMessage}
  {program : FixedBytes 32} (hbinds : b.binding.Binds P rfq program) (resolved : Resolved)
  (orderId : FixedBytes 32) (signature : FixedBytes 64)

include hbinds

theorem argsFor_eq : b.argsFor resolved =
    rfq.physicalArgs resolved.maker (b.assemble E resolved orderId signature)
      b.terms.positionType b.terms.strike := by
  simp only [QuoteBuilder.argsFor, RfqBroadcastMessage.physicalArgs, QuoteBuilder.assemble,
    hbinds.chainId.1, hbinds.chainId.2, hbinds.programId.1, hbinds.programId.2, hbinds.market,
    hbinds.quantity, hbinds.taker]

theorem spreadArgsFor_eq {kind : SpreadType} {upper : UInt64}
    (hkind : b.terms.toChain.positionType.toByte = kind.toByte)
    (hupper : b.terms.upperStrike = some upper) : b.spreadArgsFor resolved =
      .ok (rfq.spreadArgs resolved.maker (b.assemble E resolved orderId signature) kind
        b.terms.toChain.strike upper) := by
  rw [QuoteBuilder.spreadArgsFor, hkind, hupper, SpreadType.tryFrom_toByte,
    argsFor_eq E hbinds resolved orderId signature]
  rfl

theorem orderId_orderTerms (h : b.orderId P resolved = .ok orderId) :
    (rfq.orderTerms resolved.maker (b.assemble E resolved orderId signature)).OrderId P
      orderId := by
  have hargs := argsFor_eq E hbinds resolved orderId signature
  have hspread := @spreadArgsFor_eq _ E _ _ _ hbinds resolved orderId signature
  have hquote : (b.assemble E resolved orderId signature).terms = b.terms := rfl
  simp only [RfqBroadcastMessage.orderTerms, hquote]
  cases hterms : b.terms with
  | cashPut strike =>
    rw [hterms] at hspread
    rw [QuoteBuilder.orderId, hterms, @hspread .putSpread strike rfl rfl] at h
    exact mapError_ok.mp h
  | coveredCall strike =>
    rw [hterms] at hargs
    rw [QuoteBuilder.orderId, hterms, hargs] at h
    exact (mapError_ok (f := QuoteBuildError.order)).mp h
  | cashSecuredPut strike =>
    rw [hterms] at hargs
    rw [QuoteBuilder.orderId, hterms, hargs] at h
    exact (mapError_ok (f := QuoteBuildError.order)).mp h
  | callSpread lower upper =>
    rw [hterms] at hspread
    rw [QuoteBuilder.orderId, hterms, @hspread .callSpread upper rfl rfl] at h
    exact mapError_ok.mp h
  | putSpread lower upper =>
    rw [hterms] at hspread
    rw [QuoteBuilder.orderId, hterms, @hspread .putSpread upper rfl rfl] at h
    exact mapError_ok.mp h

end Bound

section Signed

/-- A quote that some caller gets signed: an RFQ is accepted for a program, the builder is set
in some way, and one of the two paths signs. -/
structure SignedQuote (P : Platform) (E : Encodings) (verifyStrict : VerifyStrict) where
  rfq : RfqBroadcastMessage
  program : FixedBytes 32
  binding : RfqBinding
  accepted : RfqBinding.fromBroadcastForProgram P rfq program = .ok binding
  settings : List Setting
  signer : QuoteSigner
  quote : QuoteMessage
  signed : signer.sign P E verifyStrict (settings.foldl QuoteBuilder.set binding.quote) = .ok quote

structure BoundTo (P : Platform) (rfq : RfqBroadcastMessage) (program : FixedBytes 32)
    (b : QuoteBuilder) (maker : FixedBytes 32) (quote : QuoteMessage) : Prop where
  rfqId : quote.rfqId = rfq.rfqId
  side : quote.side = rfq.side
  terms : quote.terms = b.terms
  price : b.price = some quote.price
  validUntil : b.validUntil = some quote.validUntil
  nonce : b.nonce = some quote.nonce
  owner : b.maker = some maker
  orderId : (rfq.orderTerms maker quote).OrderId P quote.orderId
  offered : rfq.Offers quote.terms
  minValidUntil : ∃ minValidUntil, b.minValidUntil = some minValidUntil ∧
    minValidUntil ≤ quote.validUntil
  marketExpiry : ∃ marketExpiry : QuoteExpiry, quote.validUntil ≤ marketExpiry ∧
    rfq.market.expiryTs = ⟨marketExpiry.toNat * 1000000000⟩ ∧
      rfq.market.marketPda = marketPda P program rfq.market.underlyingMint rfq.market.quoteMint
        marketExpiry rfq.market.isPut
  programId : rfq.market.programId = program
  bufferEnd : ∀ bufferEnd, b.bufferEnd = some bufferEnd → bufferEnd < quote.validUntil

variable {P : Platform} {E : Encodings} {verifyStrict : VerifyStrict}

namespace SignedQuote

variable (s : SignedQuote P E verifyStrict)

def builder : QuoteBuilder := s.settings.foldl QuoteBuilder.set s.binding.quote

theorem binds : s.builder.binding.Binds P s.rfq s.program := by
  rw [builder, QuoteBuilder.foldl_set_binding]
  exact fromBroadcastForProgram_binds s.accepted

theorem bound : ∃ maker, BoundTo P s.rfq s.program s.builder maker s.quote ∧
    s.signer.SignedOver E verifyStrict s.quote.orderId.toList s.quote.signature := by
  obtain ⟨resolved, orderId, signature, hvalid, hid, hquote, hover⟩ :=
    QuoteSigner.sign_ok P E verifyStrict s.signed
  have hbinds := s.binds
  rw [hquote] at hover ⊢
  refine ⟨resolved.maker, ?_, hover⟩
  exact {
    rfqId := hbinds.rfqId
    side := hbinds.side
    terms := rfl
    price := hvalid.price
    validUntil := hvalid.validUntil
    nonce := hvalid.nonce
    owner := hvalid.maker
    orderId := orderId_orderTerms E hbinds resolved orderId signature hid
    offered := (hbinds.offered _).mp hvalid.terms
    minValidUntil := hvalid.minValidUntil
    marketExpiry := ⟨_, hvalid.marketExpiry, hbinds.marketExpiry, hbinds.address⟩
    programId := hbinds.programId.2
    bufferEnd := hvalid.bufferEnd }

end SignedQuote

/-- A signed quote is bound to the RFQ it answers; and on accepted RFQs, quotes on different
terms have different preimages, whatever else they contain. -/
theorem signed_quote_bound :
    (∀ s : SignedQuote P E verifyStrict,
      ∃ maker, BoundTo P s.rfq s.program s.builder maker s.quote ∧
        s.signer.SignedOver E verifyStrict s.quote.orderId.toList s.quote.signature) ∧
    ∀ rfq rfq' program program' binding binding',
      RfqBinding.fromBroadcastForProgram P rfq program = .ok binding →
      RfqBinding.fromBroadcastForProgram P rfq' program' = .ok binding' →
        ∀ quote quote' maker maker' preimage, rfq.Offers quote.terms → rfq'.Offers quote'.terms →
          (rfq.orderTerms maker quote).Preimage preimage →
            (rfq'.orderTerms maker' quote').Preimage preimage → quote.terms = quote'.terms := by
  refine ⟨fun s ↦ s.bound, ?_⟩
  intro rfq rfq' program program' binding binding' h h' quote quote' maker maker' preimage hoffer
    hoffer' hpre hpre'
  have hnormal := (fromBroadcastForProgram_binds h).normal _ hoffer
  have hnormal' := (fromBroadcastForProgram_binds h').normal _ hoffer'
  have hsame := OrderTerms.preimage_injective hpre hpre'
  exact OptionTerms.toChain_injective hnormal hnormal' (toChain_eq_of_orderTerms hsame)

end Signed

section Sample

open Orders.Sample

def sampleRfq : RfqBroadcastMessage where
  rfqId := 1
  market := {
    chainId := 0
    programId := program
    marketPda := market
    underlyingMint := underlyingMint
    quoteMint := quoteMint
    expiryTs := ⟨1799395200000000000⟩
    isPut := true
    collateralMint := quoteMint
    settlementMint := quoteMint }
  terms := .cashPut strike
  side := .sell
  quantity := quantity
  taker := taker
  orderOptions := [.cashPut strike]

def sampleBinding : RfqBinding where
  rfqId := 1
  chainId := 0
  programId := program
  market := market
  marketExpiry := expiryTs
  taker := taker
  terms := .cashPut strike
  quantity := quantity
  offeredTerms := [.cashPut strike]
  side := .sell

theorem sampleRfq_accepted :
    RfqBinding.fromBroadcastForProgram platform sampleRfq program = .ok sampleBinding := by
  decide +kernel

def sampleSettings : List Setting :=
  [.price price, .validUntil validUntil,
    .quoteWindow ⟨1798185570000000000⟩ ⟨1798185570000000000⟩ 10 20, .nonce 77, .makerOwner maker]

def sampleSignature : String :=
  "559FYz3VCC7YdsQvQvuKZiHkk2xtt7RWXtb2cZGbCcES4V1oX14kyE2CJzUPHBb37rKfaEB5NRn1Zi6kkRbFhMi7"

def sampleEncodings : Encodings := .ofTables [] [(sampleSignature, spreadSignature.toList)]

def sampleQuote : QuoteMessage where
  rfqId := 1
  terms := .cashPut strike
  side := .sell
  price := price
  validUntil := validUntil
  nonce := 77
  orderId := spreadId
  signature := sampleSignature

def sampleSignedQuote : SignedQuote platform sampleEncodings platform.verify where
  rfq := sampleRfq
  program := program
  binding := sampleBinding
  accepted := sampleRfq_accepted
  settings := sampleSettings
  signer := .async ⟨maker, fun _ ↦ .ok spreadSignature⟩
  quote := sampleQuote
  signed := by decide +kernel

theorem signed_quote_bound_sample :
    (∃ maker, BoundTo platform sampleRfq program sampleSignedQuote.builder maker sampleQuote) ∧
    ∃ preimage, (sampleRfq.orderTerms maker sampleQuote).Preimage preimage ∧
      sampleQuote.terms = { sampleQuote with signature := "other" }.terms := by
  obtain ⟨hbound, hterms⟩ := @signed_quote_bound platform sampleEncodings platform.verify
  obtain ⟨maker', hsample, -⟩ := hbound sampleSignedQuote
  obtain ⟨preimage, hpre⟩ : ∃ preimage,
      (sampleRfq.orderTerms maker sampleQuote).Preimage preimage := ⟨_, rfl⟩
  refine ⟨⟨maker', hsample⟩, preimage, hpre, ?_⟩
  exact hterms _ _ _ _ _ _ sampleRfq_accepted sampleRfq_accepted sampleQuote _ maker maker
    preimage (.inl rfl) (.inl rfl) hpre hpre

end Sample

end MakerSdk.Quote
