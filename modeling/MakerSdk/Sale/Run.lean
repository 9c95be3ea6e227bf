import MakerSdk.Base.Runs
import MakerSdk.Sale.Errors
import MakerSdk.Served.Open
import MakerSdk.Served.Sign

namespace MakerSdk.Sale

open Base Base.Bytes Base.Checks Solana Orders Vault Quote Served
open Session (Uuid ClientMessage)

structure ServedSale extends SponsoredTxToSignData where
  lastValidBlockHeight : UInt64
  signatureDeadline : SystemTime

inductive SaleMessage where
  | rfqCreated (requestId : Option Uuid) (rfqId : Uuid)
  | quoteReceived (quote : QuoteReceivedMessage)
  | sponsoredTxToSign (served : ServedSale)
  | other

structure Inbound where
  connectionEpoch : ℕ
  message : SaleMessage

inductive Frame where
  | rfqRequest (requestId : Uuid) (market : Pubkey) (terms : OptionTerms) (side : TakerSide)
      (quantity : UInt64) (timeoutSeconds : UInt32)
  | acceptQuote (requestId rfqId : Uuid) (maker : Pubkey) (orderId : FixedBytes 32)
  | submitSignedSponsoredTx (requestId : Uuid) (orderId : FixedBytes 32) (txBase64 : String)

namespace Frame

def message : Frame → ClientMessage
  | .rfqRequest requestId _ _ side _ _ => .rfqRequest ⟨requestId, side⟩
  | .acceptQuote requestId _ _ _ => .acceptQuote requestId
  | .submitSignedSponsoredTx requestId _ _ => .submitSignedSponsoredTx requestId

def isAccept : Frame → Bool
  | .acceptQuote .. => true
  | _ => false

def isSubmit : Frame → Bool
  | .submitSignedSponsoredTx .. => true
  | _ => false

end Frame

structure Sent where
  epoch : ℕ
  frame : Frame

structure MakerInfo where
  owner : Pubkey
  quoteSigner : Pubkey

inductive Counterparty where
  | maker (owner quoteSigner : Pubkey)
  | vault (holder : VaultManager)

namespace Counterparty

/-- `vaultAt` is what the chain has at the owner's address, where that is an account of the
program with a vault's discriminator; `makerAt` is its maker account. -/
def load (owner : Pubkey) (vaultAt : Except ChainError (Option (Except ChainError VaultManager)))
    (makerAt : Except ChainError MakerInfo) : Except ChainError Counterparty := do
  match ← vaultAt with
  | some decoded => do
    let holder ← decoded
    refuse (holder.addresses.vault ≠ owner) (.identity "holder vault PDA")
    pure (.vault holder)
  | none => do
    let maker ← makerAt
    refuse (maker.owner ≠ owner) (.identity "maker owner")
    pure (.maker owner maker.quoteSigner)

def sale (counterparty : Counterparty) (writer : VaultManager) (keeper : Pubkey)
    (terms : VaultSaleTerms) : VaultOpenIntent :=
  match counterparty with
  | .maker owner quoteSigner => .sale keeper writer owner quoteSigner terms
  | .vault holder => .betweenVaults keeper writer holder terms

def owner : Counterparty → Pubkey
  | .maker owner _ => owner
  | .vault holder => holder.addresses.vault

end Counterparty

/-- What one call of `sell_rfq` works with; `requestId` is the id it draws for its RFQ. -/
structure Context where
  P : Platform
  E : Encodings
  programId : Pubkey
  operator : SignerLike
  sale : VaultSale
  connectionEpoch : ℕ
  requestId : Uuid

def ensureSystemTimeAhead (deadline now : SystemTime) : Except VaultTxError Unit := do
  let deadline ← okOr deadline.sinceEpoch .clockBeforeEpoch
  let now ← okOr now.sinceEpoch .clockBeforeEpoch
  refuse (now / 1000000000 ≥ deadline / 1000000000)
    (.expired "signature_deadline" (deadline / 1000000000) (now / 1000000000))

/-- `verify_and_sign_sponsored_tx_with_participant_signature`, up to the id of its request. -/
def verifyAndSign (c : Context) (toSign : ServedSale) (intent : VaultOpenIntent)
    (tables : List AddressLookupTableAccount) (now : SystemTime) :
    Except VaultTxError (String × String) := do
  let signer := c.operator.pubkeyBytes
  refuse (signer ≠ intent.participant) (.intent (.participantSigner intent.participant signer))
  let transaction ← (verifyVaultOpen c.P toSign.toSponsoredTxToSignData intent tables
    c.sale.bounds).mapError .intent
  ensureSystemTimeAhead toSign.signatureDeadline now
  (transaction.signWithParticipantSignature c.operator c.E).mapError .intent

/-- Where a sale stands: each phase waits for one answer of the desk, the gate, the session or
the chain. -/
inductive Phase (ε : Type) where
  | requesting
  | requested
  | collecting
  | taking (quote : QuoteReceivedMessage)
  | deciding (quote : QuoteReceivedMessage)
  | accepting (quote : QuoteReceivedMessage)
  | accepted (quote : QuoteReceivedMessage)
  | writing (quote : QuoteReceivedMessage) (served : ServedSale)
  | loading (quote : QuoteReceivedMessage) (served : ServedSale) (writer : VaultManager)
  | keeping (quote : QuoteReceivedMessage) (served : ServedSale) (writer : VaultManager)
      (counterparty : Counterparty)
  | resolving (quote : QuoteReceivedMessage) (served : ServedSale) (writer : VaultManager)
      (counterparty : Counterparty) (keeper : Pubkey)
  | signed (sale : SignedSale) (txBase64 : String)
  | submitting (sale : SignedSale) (txBase64 : String)
  | submitted (sale : SignedSale)
  | done (result : Except (SaleError ε) SaleOutcome)

/-- The locals of a sale, the messages its loop has read and the frames it has sent. -/
structure State (ε : Type) where
  phase : Phase ε
  rfqId : Option Uuid
  taken : Option QuoteReceivedMessage
  deadline : ℕ
  now : ℕ
  inbox : List SaleMessage
  sent : List Sent

inductive Input (ε : Type) where
  | tick (elapsed : ℕ)
  | gate (admits : Bool) (requestId : Uuid)
  | answer (result : Except VaultRequestError Unit)
  | recv (inbound : Except ManagedReceiveError Inbound)
  | timeout
  | take (result : Except ε Bool)
  | acceptingResult (result : Except ε Unit)
  | writer (result : Except ε VaultManager)
  | counterparty (vaultAt : Except ChainError (Option (Except ChainError VaultManager)))
      (makerAt : Except ChainError MakerInfo)
  | keeper (result : Except ChainError Pubkey)
  | tables (result : Except ChainError (List AddressLookupTableAccount)) (now : SystemTime)
  | signedResult (result : Except ε Unit)

namespace State

variable {ε : Type}

def finish (s : State ε) (result : Except (SaleError ε) SaleOutcome) : State ε :=
  { s with phase := .done result }

def fail (s : State ε) (error : SaleError ε) : State ε := s.finish (.error error)

def send (c : Context) (s : State ε) (frame : Frame) (phase : Phase ε) : State ε :=
  { s with sent := s.sent ++ [⟨c.connectionEpoch, frame⟩], phase }

def collect (s : State ε) : State ε := { s with phase := .collecting }

def start (c : Context) (now : ℕ) : State ε :=
  let fresh : State ε := ⟨.requesting, none, none, 0, now, [], []⟩
  match c.sale.check c.P c.programId with
  | .error error => fresh.fail error.toSaleError
  | .ok () => fresh

def receive (c : Context) (s : State ε) (message : SaleMessage) : State ε :=
  match message with
  | .rfqCreated requestId rfqId =>
    if requestId = some c.requestId then { s with rfqId := some rfqId }.collect else s.collect
  | .quoteReceived quote =>
    if s.taken = none ∧ some quote.rfqId = s.rfqId ∧ quote.terms = c.sale.terms ∧
        quote.side = .sell then
      { s with phase := .taking quote }
    else s.collect
  | .sponsoredTxToSign served =>
    match s.taken with
    | some quote =>
      if quote.orderId = served.orderId then { s with phase := .writing quote served }
      else s.collect
    | none => s.collect
  | .other => s.collect

/-- The end of `sign_sale`, once everything is read from the chain. -/
def signSale (c : Context) (s : State ε) (quote : QuoteReceivedMessage) (served : ServedSale)
    (writer : VaultManager) (counterparty : Counterparty) (keeper : Pubkey)
    (tables : List AddressLookupTableAccount) (now : SystemTime) : State ε :=
  let intent := counterparty.sale writer keeper (c.sale.signedTerms quote)
  match verifyAndSign c served intent tables now with
  | .error error => s.fail (.sign error)
  | .ok (txBase64, participantSignature) =>
    let sale : SignedSale :=
      ⟨served.orderId, participantSignature, served.lastValidBlockHeight⟩
    { s with phase := .signed sale txBase64 }

def expire (s : State ε) : Option (State ε) :=
  if s.deadline ≤ s.now then
    match s.phase with
    | .collecting =>
      match s.taken with
      | none => some (s.finish (.ok .unfilled))
      | some _ => some (s.fail .unserved)
    | .taking _ => some (s.fail (.timedOut .take))
    | .writing .. | .loading .. | .keeping .. | .resolving .. => some (s.fail (.timedOut .sign))
    | _ => none
  else none

def step (c : Context) (s : State ε) (input : Input ε) : Option (State ε) :=
  match s.phase, input with
  | _, .tick elapsed => some { s with now := s.now + elapsed }
  | _, .timeout => s.expire
  | .requesting, .gate false _ => some (s.fail (.rejected .request .gated))
  | .requesting, .gate true _ => some (s.send c (.rfqRequest c.requestId c.sale.marketPda
      c.sale.terms .sell c.sale.quantity c.sale.rfqTimeout) .requested)
  | .requested, .answer (.error error) => some (s.fail (.rejected .request error))
  | .requested, .answer (.ok ()) =>
    some { s with phase := .collecting, deadline := s.now + c.sale.window }
  | .collecting, .recv (.error error) => some (s.fail (.stream error))
  | .collecting, .recv (.ok inbound) =>
    some (if inbound.connectionEpoch ≠ c.connectionEpoch then s.fail .sessionChanged
      else { s with inbox := s.inbox ++ [inbound.message] }.receive c inbound.message)
  | .taking _, .take (.error error) => some (s.fail (.desk error))
  | .taking quote, .take (.ok take) =>
    some (if take then { s with phase := .deciding quote } else s.collect)
  | .deciding _, .acceptingResult (.error error) => some (s.fail (.desk error))
  | .deciding quote, .acceptingResult (.ok ()) => some { s with phase := .accepting quote }
  | .accepting _, .gate false _ => some (s.fail (.rejected .accept .gated))
  | .accepting quote, .gate true requestId => some (s.send c
      (.acceptQuote requestId quote.rfqId quote.maker quote.orderId) (.accepted quote))
  | .accepted _, .answer (.error error) => some (s.fail (.rejected .accept error))
  | .accepted quote, .answer (.ok ()) =>
    some { s with
      phase := .collecting
      taken := some quote
      deadline := s.now + c.sale.window }
  | .writing _ _, .writer (.error error) => some (s.fail (.desk error))
  | .writing quote served, .writer (.ok writer) =>
    some { s with phase := .loading quote served writer }
  | .loading quote served writer, .counterparty vaultAt makerAt =>
    match Counterparty.load quote.maker vaultAt makerAt with
    | .error error => some (s.fail (.chain error))
    | .ok counterparty => some { s with phase := .keeping quote served writer counterparty }
  | .keeping .., .keeper (.error error) => some (s.fail (.chain error))
  | .keeping quote served writer counterparty, .keeper (.ok keeper) =>
    match servedLookupTableKeys c.P served.txBase64 with
    | .error error => some (s.fail (.sign (.intent error)))
    | .ok _ => some { s with phase := .resolving quote served writer counterparty keeper }
  | .resolving .., .tables (.error error) _ => some (s.fail (.chain error))
  | .resolving quote served writer counterparty keeper, .tables (.ok tables) now =>
    some (s.signSale c quote served writer counterparty keeper tables now)
  | .signed _ _, .signedResult (.error error) => some (s.fail (.desk error))
  | .signed sale txBase64, .signedResult (.ok ()) =>
    some { s with phase := .submitting sale txBase64 }
  | .submitting sale _, .gate false _ => some (s.fail (.submit sale .gated))
  | .submitting sale txBase64, .gate true requestId => some (s.send c
      (.submitSignedSponsoredTx requestId sale.orderId txBase64) (.submitted sale))
  | .submitted sale, .answer (.error error) => some (s.fail (.submit sale error))
  | .submitted sale, .answer (.ok ()) => some (s.finish (.ok (.submitted sale)))
  | _, _ => none

end State

namespace Context

variable (c : Context)

def request : Sent :=
  ⟨c.connectionEpoch, .rfqRequest c.requestId c.sale.marketPda c.sale.terms .sell c.sale.quantity
    c.sale.rfqTimeout⟩

def accept (requestId : Uuid) (quote : QuoteReceivedMessage) : Sent :=
  ⟨c.connectionEpoch, .acceptQuote requestId quote.rfqId quote.maker quote.orderId⟩

def submit (requestId : Uuid) (orderId : FixedBytes 32) (txBase64 : String) : Sent :=
  ⟨c.connectionEpoch, .submitSignedSponsoredTx requestId orderId txBase64⟩

section Progress

variable (inbox : List SaleMessage)

/-- A transaction was served for the order of the quote, it opens the sale's terms at the
quote's price, validity and nonce with the quote's maker, and the operator has signed it. -/
def Verified (quote : QuoteReceivedMessage) (orderId : FixedBytes 32) (txBase64 : String) : Prop :=
  ∃ (served : ServedSale) (writer : VaultManager) (counterparty : Counterparty) (keeper : Pubkey)
      (tables : List AddressLookupTableAccount) (transaction : VerifiedTransaction)
      (signature : String),
    .sponsoredTxToSign served ∈ inbox ∧ orderId = quote.orderId ∧
      served.orderId = quote.orderId ∧ counterparty.owner = quote.maker ∧
      verifyVaultOpen c.P served.toSponsoredTxToSignData
        (counterparty.sale writer keeper (c.sale.signedTerms quote)) tables c.sale.bounds =
          .ok transaction ∧
      transaction.signWithParticipantSignature c.operator c.E = .ok (txBase64, signature)

/-- The quote answers the RFQ that was created for the sale's own request. -/
def Quoted (quote : QuoteReceivedMessage) : Prop :=
  c.sale.Matches quote ∧ .quoteReceived quote ∈ inbox ∧
    .rfqCreated (some c.requestId) quote.rfqId ∈ inbox

def Accepted (quote : QuoteReceivedMessage) (sent : List Sent) : Prop :=
  c.Quoted inbox quote ∧ ∃ requestId, sent = [c.request, c.accept requestId quote]

def Unsubmitted (sent : List Sent) : Prop :=
  sent = [] ∨ sent = [c.request] ∨ ∃ quote, c.Accepted inbox quote sent

def Submitted (sent : List Sent) : Prop :=
  ∃ quote before requestId orderId txBase64, c.Accepted inbox quote before ∧
    sent = before ++ [c.submit requestId orderId txBase64] ∧
      c.Verified inbox quote orderId txBase64

def Collecting (taken : Option QuoteReceivedMessage) (sent : List Sent) : Prop :=
  match taken with
  | none => sent = [c.request]
  | some quote => c.Accepted inbox quote sent

end Progress

end Context

namespace State

variable {ε : Type}

def AfterSubmit (result : Except (SaleError ε) SaleOutcome) : Prop :=
  (∃ sale, result = .ok (.submitted sale)) ∨ ∃ sale error, result = .error (.submit sale error)

def Named (c : Context) (s : State ε) : Prop :=
  ∀ rfqId, s.rfqId = some rfqId → .rfqCreated (some c.requestId) rfqId ∈ s.inbox

def InPhase (c : Context) (s : State ε) : Prop :=
  match s.phase with
  | .requesting => s.taken = none ∧ s.sent = []
  | .requested => s.taken = none ∧ s.sent = [c.request]
  | .collecting => c.Collecting s.inbox s.taken s.sent
  | .taking quote | .deciding quote | .accepting quote =>
    s.taken = none ∧ s.sent = [c.request] ∧ c.Quoted s.inbox quote
  | .accepted quote => c.Accepted s.inbox quote s.sent
  | .writing quote served | .loading quote served _ =>
    c.Accepted s.inbox quote s.sent ∧ .sponsoredTxToSign served ∈ s.inbox ∧
      served.orderId = quote.orderId
  | .keeping quote served _ counterparty | .resolving quote served _ counterparty _ =>
    c.Accepted s.inbox quote s.sent ∧ .sponsoredTxToSign served ∈ s.inbox ∧
      served.orderId = quote.orderId ∧ counterparty.owner = quote.maker
  | .signed sale txBase64 | .submitting sale txBase64 =>
    ∃ quote, c.Accepted s.inbox quote s.sent ∧ c.Verified s.inbox quote sale.orderId txBase64
  | .submitted _ => c.Submitted s.inbox s.sent
  | .done result =>
    c.Unsubmitted s.inbox s.sent ∨ c.Submitted s.inbox s.sent ∧ AfterSubmit result

structure Sound (c : Context) (s : State ε) : Prop where
  named : s.Named c
  inPhase : s.InPhase c

end State

theorem Counterparty.load_owner {owner : Pubkey}
    {vaultAt : Except ChainError (Option (Except ChainError VaultManager))}
    {makerAt : Except ChainError MakerInfo} {counterparty : Counterparty}
    (h : Counterparty.load owner vaultAt makerAt = .ok counterparty) :
    counterparty.owner = owner := by
  simp only [Counterparty.load, bind_ok] at h
  obtain ⟨holderAt, -, h⟩ := h
  cases holderAt with
  | some decoded =>
    simp only [bind_ok, refuse_ok, pure_ok, not_not, ne_eq] at h
    obtain ⟨holder, -, _, hvault, rfl⟩ := h
    exact hvault
  | none =>
    simp only [bind_ok, refuse_ok, pure_ok] at h
    obtain ⟨maker, -, _, -, rfl⟩ := h
    rfl

theorem verifyAndSign_ok {c : Context} {toSign : ServedSale} {intent : VaultOpenIntent}
    {tables : List AddressLookupTableAccount} {now : SystemTime} {txBase64 signature : String}
    (h : verifyAndSign c toSign intent tables now = .ok (txBase64, signature)) :
    ∃ transaction, verifyVaultOpen c.P toSign.toSponsoredTxToSignData intent tables
        c.sale.bounds = .ok transaction ∧
      transaction.signWithParticipantSignature c.operator c.E = .ok (txBase64, signature) := by
  simp only [verifyAndSign, bind_ok, mapError_ok, refuse_ok] at h
  obtain ⟨_, -, transaction, hverify, _, -, hsign⟩ := h
  exact ⟨transaction, hverify, hsign⟩

section Steps

variable {ε : Type} {c : Context} {s t : State ε}

theorem Context.Collecting.unsubmitted {inbox : List SaleMessage}
    {taken : Option QuoteReceivedMessage} {sent : List Sent}
    (h : c.Collecting inbox taken sent) : c.Unsubmitted inbox sent := by
  cases taken with
  | none => exact .inr (.inl h)
  | some quote => exact .inr (.inr ⟨quote, h⟩)

theorem Context.Collecting.read {inbox : List SaleMessage}
    {taken : Option QuoteReceivedMessage} {sent : List Sent}
    (h : c.Collecting inbox taken sent) (message : SaleMessage) :
    c.Collecting (inbox ++ [message]) taken sent := by
  cases taken with
  | none => exact h
  | some quote =>
    obtain ⟨⟨hmatches, hquote, hcreated⟩, haccept⟩ := h
    exact ⟨⟨hmatches, List.mem_append_left _ hquote, List.mem_append_left _ hcreated⟩, haccept⟩

def Phase.early : Phase ε → Bool
  | .submitted _ | .done _ => false
  | _ => true

inductive State.Leads (c : Context) (s : State ε) : Input ε → State ε → Prop
  | tick {elapsed : ℕ} : Leads c s (.tick elapsed) { s with now := s.now + elapsed }
  | request {input : Input ε} (h : s.phase = .requesting) :
      Leads c s input (s.send c (.rfqRequest c.requestId c.sale.marketPda c.sale.terms .sell
        c.sale.quantity c.sale.rfqTimeout) .requested)
  | requested {input : Input ε} (h : s.phase = .requested) :
      Leads c s input { s with phase := .collecting, deadline := s.now + c.sale.window }
  | receive {input : Input ε} {message : SaleMessage} (h : s.phase = .collecting) :
      Leads c s input ({ s with inbox := s.inbox ++ [message] }.receive c message)
  | take {input : Input ε} {quote : QuoteReceivedMessage} (h : s.phase = .taking quote) :
      Leads c s input { s with phase := .deciding quote }
  | decline {input : Input ε} {quote : QuoteReceivedMessage} (h : s.phase = .taking quote) :
      Leads c s input s.collect
  | decide {input : Input ε} {quote : QuoteReceivedMessage} (h : s.phase = .deciding quote) :
      Leads c s input { s with phase := .accepting quote }
  | accept {input : Input ε} {requestId : Uuid} {quote : QuoteReceivedMessage}
      (h : s.phase = .accepting quote) :
      Leads c s input (s.send c (.acceptQuote requestId quote.rfqId quote.maker quote.orderId)
        (.accepted quote))
  | accepted {input : Input ε} {quote : QuoteReceivedMessage} (h : s.phase = .accepted quote) :
      Leads c s input { s with
        phase := .collecting
        taken := some quote
        deadline := s.now + c.sale.window }
  | write {input : Input ε} {quote : QuoteReceivedMessage} {served : ServedSale}
      {writer : VaultManager} (h : s.phase = .writing quote served) :
      Leads c s input { s with phase := .loading quote served writer }
  | load {input : Input ε} {quote : QuoteReceivedMessage} {served : ServedSale}
      {writer : VaultManager} {counterparty : Counterparty}
      (h : s.phase = .loading quote served writer) (howner : counterparty.owner = quote.maker) :
      Leads c s input { s with phase := .keeping quote served writer counterparty }
  | keep {input : Input ε} {quote : QuoteReceivedMessage} {served : ServedSale}
      {writer : VaultManager} {counterparty : Counterparty} {keeper : Pubkey}
      (h : s.phase = .keeping quote served writer counterparty) :
      Leads c s input { s with phase := .resolving quote served writer counterparty keeper }
  | sign {input : Input ε} {quote : QuoteReceivedMessage} {served : ServedSale}
      {writer : VaultManager} {counterparty : Counterparty} {keeper : Pubkey}
      {tables : List AddressLookupTableAccount} {now : SystemTime}
      (h : s.phase = .resolving quote served writer counterparty keeper) :
      Leads c s input (s.signSale c quote served writer counterparty keeper tables now)
  | signed {input : Input ε} {sale : SignedSale} {txBase64 : String}
      (h : s.phase = .signed sale txBase64) :
      Leads c s input { s with phase := .submitting sale txBase64 }
  | submit {input : Input ε} {requestId : Uuid} {sale : SignedSale} {txBase64 : String}
      (h : s.phase = .submitting sale txBase64) :
      Leads c s input (s.send c (.submitSignedSponsoredTx requestId sale.orderId txBase64)
        (.submitted sale))
  | refused {sale : SignedSale} {error : VaultRequestError} (h : s.phase = .submitted sale) :
      Leads c s (.answer (.error error)) (s.fail (.submit sale error))
  | submitted {input : Input ε} {sale : SignedSale} (h : s.phase = .submitted sale) :
      Leads c s input (s.finish (.ok (.submitted sale)))

def State.EndsEarly (s t : State ε) : Prop :=
  s.phase.early = true ∧ ∃ result, t = s.finish result

theorem State.endsEarly_finish {phase : Phase ε} {result : Except (SaleError ε) SaleOutcome}
    (h : s.phase = phase) (hearly : phase.early = true) : s.EndsEarly (s.finish result) :=
  ⟨h ▸ hearly, result, rfl⟩

theorem State.expire_endsEarly (ht : s.expire = some t) : s.EndsEarly t := by
  unfold State.expire at ht
  split at ht
  · split at ht <;> rename_i h
    · split at ht <;> cases ht <;> exact State.endsEarly_finish h rfl
    all_goals cases ht
    all_goals exact State.endsEarly_finish h rfl
  · cases ht

theorem State.step_cases {input : Input ε} (ht : s.step c input = some t) :
    s.EndsEarly t ∨ State.Leads c s input t := by
  unfold State.step at ht
  split at ht <;> rename_i h
  · cases ht
    exact .inr .tick
  · exact .inl (State.expire_endsEarly ht)
  -- The request, and its receipt.
  · cases ht
    exact .inl (State.endsEarly_finish h rfl)
  · cases ht
    exact .inr (.request h)
  · cases ht
    exact .inl (State.endsEarly_finish h rfl)
  · cases ht
    exact .inr (.requested h)
  -- The loop, and the desk's decision on a quote.
  · cases ht
    exact .inl (State.endsEarly_finish h rfl)
  · cases ht
    split
    · exact .inl (State.endsEarly_finish h rfl)
    · exact .inr (.receive h)
  · cases ht
    exact .inl (State.endsEarly_finish h rfl)
  · cases ht
    split
    · exact .inr (.take h)
    · exact .inr (.decline h)
  · cases ht
    exact .inl (State.endsEarly_finish h rfl)
  · cases ht
    exact .inr (.decide h)
  -- The acceptance, and its receipt.
  · cases ht
    exact .inl (State.endsEarly_finish h rfl)
  · cases ht
    exact .inr (.accept h)
  · cases ht
    exact .inl (State.endsEarly_finish h rfl)
  · cases ht
    exact .inr (.accepted h)
  -- What the signature needs of the desk and the chain.
  · cases ht
    exact .inl (State.endsEarly_finish h rfl)
  · cases ht
    exact .inr (.write h)
  · split at ht
    · cases ht
      exact .inl (State.endsEarly_finish h rfl)
    · rename_i hload
      cases ht
      exact .inr (.load h (Counterparty.load_owner hload))
  · cases ht
    exact .inl (State.endsEarly_finish h rfl)
  · split at ht
    · cases ht
      exact .inl (State.endsEarly_finish h rfl)
    · cases ht
      exact .inr (.keep h)
  · cases ht
    exact .inl (State.endsEarly_finish h rfl)
  · cases ht
    exact .inr (.sign h)
  -- The submission, and its receipt.
  · cases ht
    exact .inl (State.endsEarly_finish h rfl)
  · cases ht
    exact .inr (.signed h)
  · cases ht
    exact .inl (State.endsEarly_finish h rfl)
  · cases ht
    exact .inr (.submit h)
  · cases ht
    exact .inr (.refused h)
  · cases ht
    exact .inr (.submitted h)
  · cases ht

theorem State.InPhase.unsubmitted (h : s.InPhase c) (hearly : s.phase.early = true) :
    c.Unsubmitted s.inbox s.sent := by
  unfold State.InPhase at h
  cases hphase : s.phase <;> simp only [hphase] at h hearly
  case requesting => exact .inl h.2
  case requested => exact .inr (.inl h.2)
  case collecting => exact h.unsubmitted
  case taking | deciding | accepting => exact .inr (.inl h.2.1)
  case accepted quote => exact .inr (.inr ⟨quote, h⟩)
  case writing quote _ | loading quote _ _ => exact .inr (.inr ⟨quote, h.1⟩)
  case keeping quote _ _ _ | resolving quote _ _ _ _ => exact .inr (.inr ⟨quote, h.1⟩)
  case signed | submitting =>
    obtain ⟨quote, haccepted, -⟩ := h
    exact .inr (.inr ⟨quote, haccepted⟩)
  all_goals cases hearly

theorem State.InPhase.finish (h : s.InPhase c) (hearly : s.phase.early = true)
    (result : Except (SaleError ε) SaleOutcome) : (s.finish result).InPhase c :=
  .inl (h.unsubmitted hearly)

theorem State.Named.read (h : s.Named c) (message : SaleMessage) :
    State.Named c { s with inbox := s.inbox ++ [message] } := by
  intro rfqId hid
  exact List.mem_append_left _ (h rfqId hid)

theorem State.Named.receive (h : s.Named c) {message : SaleMessage} (hread : message ∈ s.inbox) :
    (s.receive c message).Named c := by
  cases message with
  | other => exact h
  | rfqCreated requestId rfqId =>
    unfold State.receive
    dsimp only
    split
    · rename_i hrequest
      rintro _ ⟨⟩
      rw [← hrequest]
      exact hread
    · exact h
  | quoteReceived quote =>
    unfold State.receive
    dsimp only
    split
    · exact h
    · exact h
  | sponsoredTxToSign served =>
    unfold State.receive
    dsimp only
    split
    · split
      · exact h
      · exact h
    · exact h

theorem State.Named.step {input : Input ε} (h : s.Named c) (ht : s.step c input = some t) :
    t.Named c := by
  rcases State.step_cases ht with ⟨-, result, rfl⟩ | hleads
  · exact h
  cases hleads with
  | receive => exact (h.read _).receive (List.mem_append_right _ List.mem_cons_self)
  | sign =>
    unfold State.signSale
    dsimp only
    split
    · exact h
    · exact h
  | _ => exact h

theorem State.named_start (now : ℕ) : (State.start c now : State ε).Named c := by
  unfold State.start
  dsimp only
  split
  · rintro _ ⟨⟩
  · rintro _ ⟨⟩

theorem State.InPhase.receive (h : c.Collecting s.inbox s.taken s.sent) (hnamed : s.Named c)
    {message : SaleMessage} (hread : message ∈ s.inbox) : (s.receive c message).InPhase c := by
  cases message with
  | other => exact h
  | rfqCreated requestId rfqId =>
    unfold State.receive
    dsimp only
    split
    · exact h
    · exact h
  | quoteReceived quote =>
    unfold State.receive
    dsimp only
    split
    · rename_i hmatch
      obtain ⟨hnone, hid, hterms, hside⟩ := hmatch
      rw [hnone] at h
      exact ⟨hnone, h, ⟨hterms, hside⟩, hread, hnamed _ hid.symm⟩
    · exact h
  | sponsoredTxToSign served =>
    unfold State.receive
    cases htaken : s.taken with
    | none =>
      rw [htaken] at h
      simp only [State.InPhase, State.collect, htaken]
      exact h
    | some quote =>
      rw [htaken] at h
      dsimp only
      split
      · rename_i hid
        exact ⟨h, hread, hid.symm⟩
      · simp only [State.InPhase, State.collect, htaken]
        exact h

theorem State.InPhase.signSale {quote : QuoteReceivedMessage} {served : ServedSale}
    {writer : VaultManager} {counterparty : Counterparty} {keeper : Pubkey}
    (haccepted : c.Accepted s.inbox quote s.sent) (hread : .sponsoredTxToSign served ∈ s.inbox)
    (hid : served.orderId = quote.orderId)
    (howner : counterparty.owner = quote.maker) (tables : List AddressLookupTableAccount)
    (now : SystemTime) :
    (s.signSale c quote served writer counterparty keeper tables now).InPhase c := by
  unfold State.signSale
  dsimp only
  split
  · exact .inl (.inr (.inr ⟨quote, haccepted⟩))
  · rename_i hsigned
    obtain ⟨transaction, hverify, hsign⟩ := verifyAndSign_ok hsigned
    exact ⟨quote, haccepted, served, writer, counterparty, keeper, tables, transaction, _, hread,
      hid, hid, howner, hverify, hsign⟩

theorem State.InPhase.step {input : Input ε} (h : s.InPhase c) (hnamed : s.Named c)
    (ht : s.step c input = some t) : t.InPhase c := by
  rcases State.step_cases ht with ⟨hearly, result, rfl⟩ | hleads
  · exact h.finish hearly result
  have hs := h
  unfold State.InPhase at hs
  cases hleads with
  | tick => exact h
  | request hphase =>
    rw [hphase] at hs
    exact ⟨hs.1, by rw [State.send, hs.2]; rfl⟩
  | requested hphase =>
    rw [hphase] at hs
    change c.Collecting s.inbox s.taken s.sent
    rw [hs.1]
    exact hs.2
  | receive hphase =>
    rw [hphase] at hs
    exact State.InPhase.receive (hs.read _) (hnamed.read _)
      (List.mem_append_right _ List.mem_cons_self)
  | decline hphase =>
    rw [hphase] at hs
    change c.Collecting s.inbox s.taken s.sent
    rw [hs.1]
    exact hs.2.1
  | accept hphase =>
    rw [hphase] at hs
    exact ⟨hs.2.2, _, by rw [State.send, hs.2.1]; rfl⟩
  | load hphase howner =>
    rw [hphase] at hs
    exact ⟨hs.1, hs.2.1, hs.2.2, howner⟩
  | sign hphase =>
    rw [hphase] at hs
    exact State.InPhase.signSale hs.1 hs.2.1 hs.2.2.1 hs.2.2.2 _ _
  | submit hphase =>
    rw [hphase] at hs
    obtain ⟨quote, haccepted, hverified⟩ := hs
    exact ⟨quote, s.sent, _, _, _, haccepted, rfl, hverified⟩
  | refused hphase =>
    rw [hphase] at hs
    exact .inr ⟨hs, .inr ⟨_, _, rfl⟩⟩
  | submitted hphase =>
    rw [hphase] at hs
    exact .inr ⟨hs, .inl ⟨_, rfl⟩⟩
  | take hphase | decide hphase | accepted hphase | write hphase | keep hphase | signed hphase =>
    rw [hphase] at hs
    exact hs

theorem State.Sound.step {input : Input ε} (h : s.Sound c) (ht : s.step c input = some t) :
    t.Sound c :=
  ⟨h.named.step ht, h.inPhase.step h.named ht⟩

theorem State.sound_start (now : ℕ) : (State.start c now : State ε).Sound c := by
  refine ⟨State.named_start now, ?_⟩
  unfold State.start
  dsimp only
  split
  · exact .inl (.inl rfl)
  · exact ⟨rfl, rfl⟩

theorem State.InPhase.sent (h : s.InPhase c) :
    c.Unsubmitted s.inbox s.sent ∨ c.Submitted s.inbox s.sent := by
  by_cases hearly : s.phase.early = true
  · exact .inl (h.unsubmitted hearly)
  · unfold State.InPhase at h
    cases hphase : s.phase <;> rw [hphase] at h hearly
    case submitted => exact .inr h
    case done => exact h.imp_right And.left
    all_goals exact absurd rfl hearly

/-- One run of a sale, however it is answered, accepts one quote and submits one transaction at the
most, which opens the accepted quote on the connection the sale started in. -/
theorem sale_signs_one_trade {now : ℕ} {inputs : List (Input ε)}
    (h : Runs.run (State.step c) (State.start c now) inputs = some s) :
    (s.sent.filter (fun x ↦ x.frame.isAccept)).length ≤ 1 ∧
      (s.sent.filter (fun x ↦ x.frame.isSubmit)).length ≤ 1 ∧
      (∀ x ∈ s.sent, x.epoch = c.connectionEpoch) ∧
      ∀ x ∈ s.sent, ∀ requestId orderId txBase64,
        x.frame = .submitSignedSponsoredTx requestId orderId txBase64 →
          ∃ quote acceptId, c.accept acceptId quote ∈ s.sent ∧ c.Quoted s.inbox quote ∧
            c.Verified s.inbox quote orderId txBase64 ∧
            fillOf (c.sale.signedTerms quote) =
              ⟨.sell, quote.price, quote.validUntil, quote.nonce⟩ := by
  have hsound := Runs.run_invariant (fun _ _ _ ↦ State.Sound.step) (State.sound_start now) h
  rcases hsound.inPhase.sent with (hsent | hsent | ⟨quote, -, acceptId, hsent⟩) |
    ⟨quote, _, requestId, orderId, txBase64, ⟨hquote, acceptId, rfl⟩, hsent, hverified⟩
  · simp [hsent]
  · simp [hsent, Context.request, Frame.isAccept, Frame.isSubmit]
  · simp [hsent, Context.request, Context.accept, Frame.isAccept, Frame.isSubmit]
  · have hfill := c.sale.fillOf_signedTerms quote
    rw [hquote.1.2] at hfill
    rw [hsent]
    refine ⟨by simp [Context.request, Context.accept, Context.submit, Frame.isAccept],
      by simp [Context.request, Context.accept, Context.submit, Frame.isSubmit],
      by simp [Context.request, Context.accept, Context.submit], fun x hx _ _ _ hframe ↦ ?_⟩
    refine ⟨quote, acceptId, by simp, hquote, ?_, hfill⟩
    simp only [List.mem_append, List.mem_cons, List.not_mem_nil, or_false] at hx
    rcases hx with (rfl | rfl) | rfl
    · cases hframe
    · cases hframe
    · cases hframe
      exact hverified

end Steps

/-- The actor of the sample vault, whose answer is its signature of the served message. -/
def sampleOperator : SignerLike where
  pubkeyBytes := Served.Sale.writer.args.actor
  signMessage _ :=
    signatureOf 0x8f76c401f7155060de61f6bfdb08b88bc5b4607772aa3d3c65a877dd3a87f850
      0x6825f2645846fe7840df74644fd6f3f06b910efaa80a948861dc9f0cb416ec05

def sampleSignedText : String :=
  "AgAAAAAAAAAAAAAAAAAAAAAAAAAAAAAAAAAAAAAAAAAAAAAAAAAAAAAAAAAAAAAAAAAAAAAAAAAAAAAAAAAAAACP" ++
    "dsQB9xVQYN5h9r/bCLiLxbRgd3KqPTxlqHfdOof4UGgl8mRYRv54QN90ZE/W8/BrkQ76qAqUiGHcnwy0FuwF" ++
    Served.Sale.messageText

def sampleContext : Context where
  P := Served.Sale.platform
  E := .ofTables
    [(sampleSignedText, { Served.Sale.served with
      signatures := [.ofList 64 [], sampleOperator.signMessage []] }.encode)]
    [("3sMyRN8G1J2kmoKmAGNbVrKNxsR5RW3pdohrYfvtHA8Y8gXS3X4b61eJHxyfLdhKySrxy8GiiFcxpk7yP8Lf47fS",
      (sampleOperator.signMessage []).toList)]
  programId := Served.Sale.writer.args.programId
  operator := sampleOperator
  sale := {
    marketPda := Served.Sale.market
    market := ⟨2000000000, false, Served.Sale.terms.underlyingMint, Served.Sale.terms.quoteMint⟩
    terms := .coveredCall Served.Sale.terms.strike
    quantity := Served.Sale.terms.quantity
    rfqTimeout := 30
    window := 60
    bounds := ⟨400000, 1000⟩ }
  connectionEpoch := 1
  requestId := 1

def sampleFill : QuoteReceivedMessage where
  rfqId := 9
  terms := .coveredCall Served.Sale.terms.strike
  side := .sell
  maker := Served.Sale.makerOwner
  price := Served.Sale.terms.price
  validUntil := Served.Sale.terms.validUntil
  nonce := Served.Sale.terms.nonce
  orderId := Served.Sale.orderId
  netPrice := none

/-- A whole sale, with a quote of another RFQ and a repeated quote on the way. -/
def sampleInputs : List (Input Empty) :=
  let inbound (message : SaleMessage) : Input Empty := .recv (.ok ⟨1, message⟩)
  [.gate true 0, .answer (.ok ()), inbound (.rfqCreated (some 1) 9),
    inbound (.quoteReceived { sampleFill with rfqId := 8 }), inbound (.quoteReceived sampleFill),
    .take (.ok true), .acceptingResult (.ok ()), .gate true 2, .answer (.ok ()), .tick 59,
    inbound (.quoteReceived sampleFill),
    inbound (.sponsoredTxToSign ⟨⟨Served.Sale.orderId, Served.Sale.text⟩, 300, ⟨2000000000⟩⟩),
    .writer (.ok Served.Sale.writer),
    .counterparty (.ok none) (.ok ⟨Served.Sale.makerOwner, Served.Sale.quoteSigner⟩),
    .keeper (.ok Served.Sale.keeper), .tables (.ok Served.Sale.tables) ⟨1000000000⟩,
    .signedResult (.ok ()), .gate true 3, .answer (.ok ())]

theorem sale_signs_one_trade_sample :
    ∃ s requestId orderId txBase64 quote acceptId,
      Runs.run (State.step sampleContext) (State.start sampleContext 0) sampleInputs = some s ∧
        sampleContext.submit requestId orderId txBase64 ∈ s.sent ∧
        sampleContext.accept acceptId quote ∈ s.sent ∧
        sampleContext.Verified s.inbox quote orderId txBase64 := by
  have hrun : (Runs.run (State.step sampleContext) (State.start sampleContext 0)
      sampleInputs).any (fun s ↦ s.sent.any (fun x ↦ x.frame.isSubmit)) = true := by
    decide +kernel
  obtain ⟨s, hs, hsubmit⟩ := Option.any_eq_true _ _ |>.mp hrun
  obtain ⟨⟨epoch, frame⟩, hx, hframe⟩ := List.any_eq_true.mp hsubmit
  obtain ⟨-, -, hepoch, htrade⟩ := sale_signs_one_trade hs
  cases frame with
  | rfqRequest | acceptQuote => cases hframe
  | submitSignedSponsoredTx requestId orderId txBase64 =>
    obtain ⟨quote, acceptId, haccept, -, hverified, -⟩ := htrade _ hx _ _ _ rfl
    obtain rfl : epoch = sampleContext.connectionEpoch := hepoch _ hx
    exact ⟨s, requestId, orderId, txBase64, quote, acceptId, hs, hx, haccept, hverified⟩

end MakerSdk.Sale
