import MakerSdk.Quote.Binding
import MakerSdk.Session.States

namespace MakerSdk.Quote

open Orders Session Solana

inductive RfqCloseReason where
  | expired | takerCancelled | filled | marketExpired | noEligibleMakers
deriving DecidableEq

inductive QuoteFinalStatus where
  | expired | outbid | cancelled | filled
deriving DecidableEq

inductive QuoteCancelReason where
  | requested | riskCheck | rfqAccepted | makerDisconnected
deriving DecidableEq

inductive CapError where
  | tokenOiCapExceeded (underlyingMint : String) (current limit : UInt64)
  | marketOiCapExceeded (marketId : String) (current limit : UInt64)
  | makerPositionCapExceeded (current limit : UInt32)
  | makerNotionalCapExceeded (underlyingMint : String) (current limit : UInt64)
  | makerInsufficientBalance (available required : UInt64)
  | quoteNotionalCapExceeded (quoteMint : String) (current limit : UInt64)
  | makerQuoteNotionalCapExceeded (quoteMint : String) (current limit : UInt64)
  | quoteLiabilityCapExceeded (quoteMint : String) (current limit : UInt64)
  | makerQuoteLiabilityCapExceeded (quoteMint : String) (current limit : UInt64)
  | capsUnavailable
deriving DecidableEq

inductive QuoteRejectReason where
  | productNotAllowed | takerBuyUnsupported | spreadInvalidStrikes | spreadTickViolation
  | spreadPremiumInvalid | quoteIdentityMismatch | unauthorized | invalidStrike | marketExpired
  | quoteExpiryTooShort | invalidSignature | makerNotRegistered | orderIdMismatch
  | capExceeded (error : CapError)
  | rfqNotFound | rfqNotActive | duplicateOrderId | rateLimited | tradingPaused | internalError
deriving DecidableEq

structure QuoteFilledMessage where
  rfqId : Uuid
  orderId : OrderId
  marketPda : Pubkey
  expiryTs : Option SystemTime
  terms : OptionTerms
  side : TakerSide
  taker : Pubkey
  price : UInt64
  quantity : UInt64
  positionPda : Pubkey
  txSignature : String
  filledAt : SystemTime
deriving DecidableEq

structure RfqClosedYourQuote where
  orderId : OrderId
  status : QuoteFinalStatus

structure RfqClosedMessage where
  rfqId : Uuid
  reason : RfqCloseReason
  yourQuote : Option RfqClosedYourQuote

/-- A server message as far as the tracker reads it; `other` is any of the remaining kinds. -/
inductive QuoteServerMessage where
  | quoteAcknowledged (rfqId : Uuid) (orderId : OrderId)
  | quoteRejected (rfqId : Uuid) (orderId : OrderId) (reason : QuoteRejectReason)
  | quoteSelected (rfqId : Uuid) (orderId : OrderId)
  | quoteFilled (message : QuoteFilledMessage)
  | quoteExpired (rfqId : Uuid) (orderId : OrderId)
  | quoteCancelled (rfqId : Uuid) (orderIds : List OrderId) (reason : QuoteCancelReason)
  | rfqAvailableAgain (rfqId : Uuid)
  | rfqClosed (message : RfqClosedMessage)
  | other

inductive QuoteLossReason where
  | rfqClosed (reason : RfqCloseReason)
  | rfqAccepted
deriving DecidableEq

inductive QuoteUnknownReason where
  | epochChanged | timedOut | streamGap | streamClosed
deriving DecidableEq

inductive QuoteOutcome where
  | pending | acked | selected
  | rejected (reason : QuoteRejectReason)
  | filled (message : QuoteFilledMessage)
  | expired | cancelled
  | lost (reason : QuoteLossReason)
  | unknown (reason : QuoteUnknownReason)
deriving DecidableEq

def QuoteOutcome.isTerminal : QuoteOutcome → Bool
  | pending | acked | selected => false
  | _ => true

structure QuoteOutcomeTracker where
  rfqId : Uuid
  orderId : OrderId
  connectionEpoch : ℕ
  deadline : Instant
  outcome : QuoteOutcome

namespace QuoteOutcomeTracker

def new (rfqId : Uuid) (orderId : OrderId) (connectionEpoch : ℕ) (deadline : Instant) :
    QuoteOutcomeTracker :=
  ⟨rfqId, orderId, connectionEpoch, deadline, .pending⟩

def markUnknown (t : QuoteOutcomeTracker) (reason : QuoteUnknownReason) : QuoteOutcomeTracker :=
  if t.outcome.isTerminal then t else { t with outcome := .unknown reason }

def check (t : QuoteOutcomeTracker) (connectionEpoch : ℕ) (now : Instant) :
    QuoteOutcomeTracker :=
  if connectionEpoch ≠ t.connectionEpoch then t.markUnknown .epochChanged
  else if t.deadline ≤ now then t.markUnknown .timedOut
  else t

def close (t : QuoteOutcomeTracker) (m : RfqClosedMessage) : Option QuoteOutcome :=
  match m.yourQuote.filter fun q ↦ q.orderId = t.orderId with
  | some q =>
    match q.status with
    | .expired => some .expired
    | .cancelled => some .cancelled
    | .outbid => some (.lost (.rfqClosed m.reason))
    | .filled => none
  | none =>
    if m.reason = .filled ∧ t.outcome = .acked then some (.lost (.rfqClosed m.reason))
    else if m.reason = .filled then none
    else some (.lost (.rfqClosed m.reason))

/-- The `match` of `apply`. -/
def next (t : QuoteOutcomeTracker) : QuoteServerMessage → Option QuoteOutcome
  | .quoteAcknowledged rfqId orderId =>
    if orderId = t.orderId ∧ rfqId = t.rfqId then
      if t.outcome = .selected then none else some .acked
    else none
  | .quoteRejected rfqId orderId reason =>
    if orderId = t.orderId ∧ rfqId = t.rfqId then some (.rejected reason) else none
  | .quoteSelected rfqId orderId =>
    if orderId = t.orderId ∧ rfqId = t.rfqId then some .selected else none
  | .quoteFilled m =>
    if m.orderId = t.orderId ∧ m.rfqId = t.rfqId then some (.filled m) else none
  | .quoteExpired rfqId orderId =>
    if orderId = t.orderId ∧ rfqId = t.rfqId then some .expired else none
  | .quoteCancelled rfqId orderIds reason =>
    if rfqId = t.rfqId ∧ t.orderId ∈ orderIds then
      if reason = .rfqAccepted then some (.lost .rfqAccepted) else some .cancelled
    else none
  | .rfqAvailableAgain rfqId =>
    if rfqId = t.rfqId ∧ t.outcome = .selected then some .acked else none
  | .rfqClosed m => if m.rfqId = t.rfqId then t.close m else none
  | .other => none

def apply (t : QuoteOutcomeTracker) (message : QuoteServerMessage) : QuoteOutcomeTracker :=
  (t.next message).elim t fun outcome ↦ { t with outcome }

def observe (t : QuoteOutcomeTracker) (inbound : ManagedInbound QuoteServerMessage) :
    QuoteOutcomeTracker :=
  if inbound.connectionEpoch < t.connectionEpoch then t
  else
    let checked := t.check inbound.connectionEpoch inbound.receivedAt
    if checked.outcome.isTerminal then checked else checked.apply inbound.message

inductive Call where
  | observe (inbound : ManagedInbound QuoteServerMessage)
  | check (connectionEpoch : ℕ) (now : Instant)
  | markUnknown (reason : QuoteUnknownReason)

def call (t : QuoteOutcomeTracker) : Call → QuoteOutcomeTracker
  | .observe inbound => t.observe inbound
  | .check connectionEpoch now => t.check connectionEpoch now
  | .markUnknown reason => t.markUnknown reason

def run (t : QuoteOutcomeTracker) (calls : List Call) : QuoteOutcomeTracker := calls.foldl call t

end QuoteOutcomeTracker

namespace QuoteServerMessage

def rfqId : QuoteServerMessage → Option Uuid
  | quoteAcknowledged rfqId _ | quoteRejected rfqId _ _ | quoteSelected rfqId _
  | quoteExpired rfqId _ | quoteCancelled rfqId _ _ | rfqAvailableAgain rfqId => some rfqId
  | quoteFilled m => some m.rfqId
  | rfqClosed m => some m.rfqId
  | other => none

def orderIds : QuoteServerMessage → List OrderId
  | quoteAcknowledged _ orderId | quoteRejected _ orderId _ | quoteSelected _ orderId
  | quoteExpired _ orderId => [orderId]
  | quoteFilled m => [m.orderId]
  | quoteCancelled _ orderIds _ => orderIds
  | rfqClosed m => (m.yourQuote.map RfqClosedYourQuote.orderId).toList
  | rfqAvailableAgain _ | other => []

/-- About an RFQ as a whole, and not about the orders it may name. -/
def isForRfq : QuoteServerMessage → Bool
  | rfqAvailableAgain _ | rfqClosed _ => true
  | _ => false

end QuoteServerMessage

namespace QuoteOutcomeTracker

variable {t : QuoteOutcomeTracker} {inbound : ManagedInbound QuoteServerMessage}
  {message : QuoteServerMessage} {outcome : QuoteOutcome}

/-- A message that is not about this quote: one about another RFQ, or one about orders, none of
them this one. -/
def Unrelated (t : QuoteOutcomeTracker) (message : QuoteServerMessage) : Prop :=
  message.rfqId ≠ some t.rfqId ∨ message.isForRfq = false ∧ t.orderId ∉ message.orderIds

inductive Refused (t : QuoteOutcomeTracker) (inbound : ManagedInbound QuoteServerMessage) :
    QuoteUnknownReason → Prop where
  | newer : t.connectionEpoch < inbound.connectionEpoch → Refused t inbound .epochChanged
  | late : inbound.connectionEpoch = t.connectionEpoch → t.deadline ≤ inbound.receivedAt →
      Refused t inbound .timedOut

structure Timely (t : QuoteOutcomeTracker) (inbound : ManagedInbound QuoteServerMessage) :
    Prop where
  epoch : inbound.connectionEpoch = t.connectionEpoch
  early : inbound.receivedAt < t.deadline

def subject (t : QuoteOutcomeTracker) := (t.rfqId, t.orderId, t.connectionEpoch, t.deadline)

variable {reason : QuoteUnknownReason}

theorem markUnknown_terminal (h : t.outcome.isTerminal = true) :
    t.markUnknown reason = t :=
  if_pos h

theorem markUnknown_open (h : t.outcome.isTerminal = false) :
    t.markUnknown reason = { t with outcome := .unknown reason } := by
  rw [markUnknown, h]
  rfl

theorem check_terminal {epoch : ℕ} {now : Instant} (h : t.outcome.isTerminal = true) :
    t.check epoch now = t := by
  unfold check
  split
  · exact markUnknown_terminal h
  split
  · exact markUnknown_terminal h
  · rfl

theorem check_timely (h : Timely t inbound) :
    t.check inbound.connectionEpoch inbound.receivedAt = t := by
  rw [check, if_neg (not_not_intro h.epoch), if_neg (Nat.not_le.mpr h.early)]

theorem check_refused (h : Refused t inbound reason) :
    t.check inbound.connectionEpoch inbound.receivedAt = t.markUnknown reason := by
  cases h with
  | newer h => rw [check, if_pos (Nat.ne_of_gt h)]
  | late hepoch hlate => rw [check, if_neg (not_not_intro hepoch), if_pos hlate]

theorem observe_timely (h : Timely t inbound) (hopen : t.outcome.isTerminal = false) :
    t.observe inbound = t.apply inbound.message := by
  rw [observe, if_neg (Nat.not_lt.mpr h.epoch.ge)]
  simp only [check_timely h, hopen, Bool.false_eq_true, if_false]

theorem observe_refused (h : Refused t inbound reason) (hopen : t.outcome.isTerminal = false) :
    t.observe inbound = { t with outcome := .unknown reason } := by
  have hepoch : t.connectionEpoch ≤ inbound.connectionEpoch := by
    cases h with
    | newer h => exact h.le
    | late h => exact h.ge
  rw [observe, if_neg (Nat.not_lt.mpr hepoch)]
  simp only [check_refused h, markUnknown_open hopen, QuoteOutcome.isTerminal, if_true]

theorem observe_terminal (h : t.outcome.isTerminal = true) : t.observe inbound = t := by
  unfold observe
  simp only [check_terminal h, h, if_true, ite_self]

theorem observe_cases (t : QuoteOutcomeTracker) (inbound : ManagedInbound QuoteServerMessage) :
    (t.observe inbound).outcome = t.outcome ∨
      (∃ reason, Refused t inbound reason ∧ (t.observe inbound).outcome = .unknown reason) ∨
      Timely t inbound ∧ t.next inbound.message = some (t.observe inbound).outcome := by
  by_cases hterminal : t.outcome.isTerminal = true
  · exact .inl (congrArg outcome (observe_terminal hterminal))
  have hopen := Bool.eq_false_iff.mpr hterminal
  have hrefused {reason : QuoteUnknownReason} (h : Refused t inbound reason) :
      (t.observe inbound).outcome = .unknown reason := by
    rw [observe_refused h hopen]
  rcases Nat.lt_trichotomy inbound.connectionEpoch t.connectionEpoch with h | h | h
  · rw [observe, if_pos h]
    exact .inl rfl
  · rcases Nat.lt_or_ge inbound.receivedAt t.deadline with hearly | hlate
    · rw [observe_timely ⟨h, hearly⟩ hopen, apply]
      cases t.next inbound.message with
      | none => exact .inl rfl
      | some => exact .inr (.inr ⟨⟨h, hearly⟩, rfl⟩)
    · exact .inr (.inl ⟨_, .late h hlate, hrefused (.late h hlate)⟩)
  · exact .inr (.inl ⟨_, .newer h, hrefused (.newer h)⟩)

theorem next_related (h : t.next message = some outcome) : ¬ t.Unrelated message := by
  have hrelated : message.rfqId = some t.rfqId ∧
      (t.orderId ∈ message.orderIds ∨ message.isForRfq = true) := by
    cases message with
    | other => cases h
    | quoteAcknowledged | quoteRejected | quoteSelected | quoteFilled | quoteExpired =>
      have hif := (Option.ite_none_right_eq_some.mp h).1
      exact ⟨congrArg some hif.2, .inl (List.mem_singleton.mpr hif.1.symm)⟩
    | quoteCancelled =>
      have hif := (Option.ite_none_right_eq_some.mp h).1
      exact ⟨congrArg some hif.1, .inl hif.2⟩
    | rfqAvailableAgain =>
      have hif := (Option.ite_none_right_eq_some.mp h).1
      exact ⟨congrArg some hif.1, .inr rfl⟩
    | rfqClosed => exact ⟨congrArg some (Option.ite_none_right_eq_some.mp h).1, .inr rfl⟩
  rintro (hrfq | ⟨hfor, horder⟩)
  · exact hrfq hrelated.1
  · rcases hrelated.2 with hmem | hwide
    · exact horder hmem
    · rw [hfor] at hwide
      cases hwide

theorem close_ne_filled {closed : RfqClosedMessage} {m : QuoteFilledMessage} :
    t.close closed ≠ some (.filled m) := by
  unfold close
  split
  · split <;> simp
  · split
    · simp
    · split <;> simp

theorem next_filled {m : QuoteFilledMessage} (h : t.next message = some (.filled m)) :
    message = .quoteFilled m ∧ m.rfqId = t.rfqId ∧ m.orderId = t.orderId := by
  cases message with
  | other => cases h
  | quoteFilled m' =>
    obtain ⟨hif, hm⟩ := Option.ite_none_right_eq_some.mp h
    cases hm
    exact ⟨rfl, hif.2, hif.1⟩
  | rfqClosed => exact absurd (Option.ite_none_right_eq_some.mp h).2 close_ne_filled
  | quoteAcknowledged | quoteCancelled =>
    have hvalue := (Option.ite_none_right_eq_some.mp h).2
    split at hvalue <;> cases hvalue
  | quoteRejected | quoteSelected | quoteExpired | rfqAvailableAgain =>
    cases (Option.ite_none_right_eq_some.mp h).2

/-- A fill of another order settles nothing here: without a status for this order, only an
acknowledged quote is known to have lost. -/
theorem next_closed_filled {m : RfqClosedMessage} (hreason : m.reason = .filled)
    (hquote : ∀ q ∈ m.yourQuote, q.orderId ≠ t.orderId)
    (h : t.next (.rfqClosed m) = some outcome) :
    t.outcome = .acked ∧ outcome = .lost (.rfqClosed .filled) := by
  have hnone : m.yourQuote.filter (fun q ↦ q.orderId = t.orderId) = none := by
    rw [Option.filter_eq_none_iff]
    intro q hq
    simpa using hquote q hq
  have hclose := (Option.ite_none_right_eq_some.mp h).2
  simp only [close, hnone, hreason, true_and, if_true] at hclose
  obtain ⟨hacked, houtcome⟩ := Option.ite_none_right_eq_some.mp hclose
  exact ⟨hacked, (Option.some.inj houtcome).symm⟩

theorem markUnknown_subject :
    (t.markUnknown reason).subject = t.subject := by
  unfold markUnknown
  split <;> rfl

theorem check_subject {epoch : ℕ} {now : Instant} : (t.check epoch now).subject = t.subject := by
  unfold check
  split
  · exact markUnknown_subject
  split
  · exact markUnknown_subject
  · rfl

theorem apply_subject : (t.apply message).subject = t.subject := by
  unfold apply
  cases t.next message <;> rfl

theorem call_subject {call : Call} : (t.call call).subject = t.subject := by
  cases call with
  | observe inbound =>
    simp only [QuoteOutcomeTracker.call, observe]
    split
    · rfl
    split
    · exact check_subject
    · rw [apply_subject, check_subject]
  | check => exact check_subject
  | markUnknown => exact markUnknown_subject

theorem call_terminal {call : Call} (h : t.outcome.isTerminal = true) : t.call call = t := by
  cases call with
  | observe => exact observe_terminal h
  | check => exact check_terminal h
  | markUnknown => exact markUnknown_terminal h

theorem call_filled {call : Call} {m : QuoteFilledMessage} (hopen : t.outcome.isTerminal = false)
    (h : (t.call call).outcome = .filled m) :
    ∃ inbound, call = .observe inbound ∧ Timely t inbound ∧ inbound.message = .quoteFilled m ∧
      m.rfqId = t.rfqId ∧ m.orderId = t.orderId := by
  have hne : t.outcome ≠ .filled m := by
    intro heq
    rw [heq] at hopen
    cases hopen
  have hunknown (reason : QuoteUnknownReason) : (t.markUnknown reason).outcome ≠ .filled m := by
    rw [markUnknown_open hopen]
    simp
  cases call with
  | markUnknown reason => exact absurd h (hunknown reason)
  | check epoch now =>
    simp only [QuoteOutcomeTracker.call, check] at h
    split at h
    · exact absurd h (hunknown _)
    split at h
    · exact absurd h (hunknown _)
    · exact absurd h hne
  | observe inbound =>
    rcases observe_cases t inbound with hsame | ⟨reason, -, hreason⟩ | ⟨htimely, hnext⟩
    · exact absurd (hsame.symm.trans h) hne
    · cases hreason.symm.trans h
    · rw [show (t.observe inbound).outcome = .filled m from h] at hnext
      exact ⟨inbound, rfl, htimely, next_filled hnext⟩

theorem run_concat {calls : List Call} {call : Call} :
    t.run (calls ++ [call]) = (t.run calls).call call :=
  List.foldl_concat ..

theorem run_subject {calls : List Call} : (t.run calls).subject = t.subject := by
  induction calls using List.reverseRecOn with
  | nil => rfl
  | append_singleton calls call ih => rw [run_concat, call_subject, ih]

theorem run_terminal {calls : List Call} (h : t.outcome.isTerminal = true) : t.run calls = t := by
  induction calls using List.reverseRecOn with
  | nil => rfl
  | append_singleton calls call ih => rw [run_concat, ih, call_terminal h]

theorem run_append {calls later : List Call} : t.run (calls ++ later) = (t.run calls).run later :=
  List.foldl_append

section Run

variable {calls : List Call}

theorem run_rfqId : (t.run calls).rfqId = t.rfqId := congrArg Prod.fst run_subject

theorem run_orderId : (t.run calls).orderId = t.orderId := congrArg (·.2.1) run_subject

theorem run_connectionEpoch : (t.run calls).connectionEpoch = t.connectionEpoch :=
  congrArg (·.2.2.1) run_subject

theorem run_deadline : (t.run calls).deadline = t.deadline := congrArg (·.2.2.2) run_subject

theorem timely_run : Timely (t.run calls) inbound ↔ Timely t inbound := by
  constructor
  · rintro ⟨hepoch, hearly⟩
    exact ⟨hepoch.trans run_connectionEpoch, run_deadline ▸ hearly⟩
  · rintro ⟨hepoch, hearly⟩
    exact ⟨hepoch.trans run_connectionEpoch.symm, run_deadline.symm ▸ hearly⟩

theorem refused_run {reason : QuoteUnknownReason} :
    Refused (t.run calls) inbound reason ↔ Refused t inbound reason := by
  constructor
  · rintro (h | ⟨hepoch, hlate⟩)
    · exact .newer (run_connectionEpoch ▸ h)
    · exact .late (hepoch.trans run_connectionEpoch) (run_deadline ▸ hlate)
  · rintro (h | ⟨hepoch, hlate⟩)
    · exact .newer (run_connectionEpoch.symm ▸ h)
    · exact .late (hepoch.trans run_connectionEpoch.symm) (run_deadline.symm ▸ hlate)

theorem unrelated_run : (t.run calls).Unrelated message ↔ t.Unrelated message := by
  rw [Unrelated, run_rfqId, run_orderId, Unrelated]

theorem run_filled {m : QuoteFilledMessage} (hstart : t.outcome.isTerminal = false)
    (h : (t.run calls).outcome = .filled m) :
    ∃ before inbound after, calls = before ++ .observe inbound :: after ∧
      (t.run before).outcome.isTerminal = false ∧ Timely t inbound ∧
      inbound.message = .quoteFilled m ∧ m.rfqId = t.rfqId ∧ m.orderId = t.orderId := by
  induction calls using List.reverseRecOn with
  | nil =>
    rw [show t.outcome = .filled m from h] at hstart
    cases hstart
  | append_singleton calls call ih =>
    rw [run_concat] at h
    by_cases hterminal : (t.run calls).outcome.isTerminal = true
    · rw [call_terminal hterminal] at h
      obtain ⟨before, inbound, after, rfl, hbefore⟩ := ih h
      exact ⟨before, inbound, after ++ [call], by simp, hbefore⟩
    · have hopen := Bool.eq_false_iff.mpr hterminal
      obtain ⟨inbound, rfl, htimely, hmessage, hrfq, horder⟩ := call_filled hopen h
      exact ⟨calls, inbound, [], rfl, hopen, timely_run.mp htimely, hmessage,
        hrfq.trans run_rfqId, horder.trans run_orderId⟩

end Run

/-- What the outcome of a tracker is worth after `calls`: each part is about one more message, or
about the calls behind the outcome. -/
structure Sound (t : QuoteOutcomeTracker) (calls : List Call) : Prop where
  stable : (t.run calls).outcome.isTerminal = true →
    ∀ later, (t.run (calls ++ later)).outcome = (t.run calls).outcome
  older : ∀ inbound, inbound.connectionEpoch < t.connectionEpoch →
    ((t.run calls).observe inbound).outcome = (t.run calls).outcome
  unrelated : ∀ inbound, t.Unrelated inbound.message →
    ((t.run calls).observe inbound).outcome = (t.run calls).outcome ∨
      ∃ reason, t.Refused inbound reason ∧
        ((t.run calls).observe inbound).outcome = .unknown reason
  filled : ∀ m, (t.run calls).outcome = .filled m →
    ∃ before inbound after, calls = before ++ .observe inbound :: after ∧
      (t.run before).outcome.isTerminal = false ∧ t.Timely inbound ∧
      inbound.message = .quoteFilled m ∧ m.rfqId = t.rfqId ∧ m.orderId = t.orderId
  closed : ∀ inbound m, inbound.message = .rfqClosed m → m.reason = .filled →
    (∀ q ∈ m.yourQuote, q.orderId ≠ t.orderId) →
      ((t.run calls).observe inbound).outcome = (t.run calls).outcome ∨
      (∃ reason, t.Refused inbound reason ∧
        ((t.run calls).observe inbound).outcome = .unknown reason) ∨
      (t.run calls).outcome = .acked ∧
        ((t.run calls).observe inbound).outcome = .lost (.rfqClosed .filled)
  refused : (t.run calls).outcome.isTerminal = false → ∀ inbound reason,
    t.Refused inbound reason → ((t.run calls).observe inbound).outcome = .unknown reason

theorem outcome_sound (rfqId : Uuid) (orderId : OrderId) (connectionEpoch : ℕ)
    (deadline : Instant) (calls : List Call) :
    Sound (new rfqId orderId connectionEpoch deadline) calls := by
  generalize hstart : new rfqId orderId connectionEpoch deadline = t
  have hopen : t.outcome.isTerminal = false := by
    rw [← hstart]
    rfl
  refine ⟨?_, ?_, ?_, fun m h ↦ run_filled hopen h, ?_, ?_⟩
  · intro h later
    rw [run_append, run_terminal h]
  · intro inbound h
    rw [observe, if_pos (run_connectionEpoch.symm ▸ h)]
  · intro inbound hunrelated
    rcases observe_cases (t.run calls) inbound with hsame | ⟨reason, hrefused, h⟩ | ⟨-, hnext⟩
    · exact .inl hsame
    · exact .inr ⟨reason, refused_run.mp hrefused, h⟩
    · exact absurd (unrelated_run.mpr hunrelated) (next_related hnext)
  · intro inbound m hmessage hreason hquote
    rcases observe_cases (t.run calls) inbound with hsame | ⟨reason, hrefused, h⟩ | ⟨-, hnext⟩
    · exact .inl hsame
    · exact .inr (.inl ⟨reason, refused_run.mp hrefused, h⟩)
    · rw [hmessage] at hnext
      exact .inr (.inr (next_closed_filled hreason (run_orderId.symm ▸ hquote) hnext))
  · intro hrun inbound reason hrefused
    rw [observe_refused (refused_run.mpr hrefused) hrun]

example (orderId : OrderId) :
    ((new 1 orderId 7 100).run
      [.observe ⟨7, 1, 20, .rfqClosed ⟨1, .filled, none⟩⟩,
        .observe ⟨7, 2, 30, .quoteAcknowledged 1 orderId⟩,
        .observe ⟨7, 3, 40, .rfqClosed ⟨1, .filled, none⟩⟩]).outcome =
      .lost (.rfqClosed .filled) := by
  simp [run, call, observe, check, apply, next, close, new, QuoteOutcome.isTerminal]

end QuoteOutcomeTracker

end MakerSdk.Quote
