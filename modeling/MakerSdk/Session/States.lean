import MakerSdk.Session.Messages

namespace MakerSdk.Session

abbrev Instant := ℕ

/-- A message as subscribers receive it: where it stands on which connection, and when it came. -/
structure ManagedInbound (μ : Type) where
  connectionEpoch : ℕ
  sequence : ℕ
  receivedAt : Instant
  message : μ

inductive ManagedWsTerminationReason where
  | requested
  | reconnectLimitReached (limit : ℕ)
  | sessionReplaced
  | protocolVersionMismatch (requestedVersion serverVersion minSupportedVersion : String)
  | authenticationRejected (reason : String) (message : Option String)
  | sessionPanicked
  | unsupportedProtocolVersion
deriving DecidableEq

inductive ManagedWsState where
  | connecting
  | connected (connectionEpoch : ℕ)
  | authenticated (connectionEpoch : ℕ)
  | reconciled (connectionEpoch : ℕ)
  | ready (connectionEpoch : ℕ)
  | reconnecting (attempt delayMs : ℕ)
  | closed (reason : ManagedWsTerminationReason)
deriving DecidableEq

inductive ManagedWsError where
  | closed | queueFull | subscriptionPending | notReady | disconnected | writeTimeout | write
  | invalidMessage (error : OutboundMessageError)

inductive SendAwaitError where
  | subscriptionPending | notReady | disconnected | timeout | unreadableResponse
  | noCorrelationKey | duplicateInFlight
  | tooManyPending (limit : ℕ)
  | queueFull
  | invalidMessage (error : OutboundMessageError)

inductive Answer where
  | sent (result : Except ManagedWsError Unit)
  | response (result : Except SendAwaitError ServerMessage)

def Answer.isError : Answer → Bool
  | sent (.error _) | response (.error _) => true
  | _ => false

def ManagedWsError.isRefusal : ManagedWsError → Bool
  | notReady | queueFull => true
  | _ => false

def SendAwaitError.isRefusal : SendAwaitError → Bool
  | subscriptionPending | notReady | noCorrelationKey | duplicateInFlight | tooManyPending _
  | queueFull | invalidMessage _ => true
  | disconnected | timeout | unreadableResponse => false

def Answer.isRefusal : Answer → Bool
  | sent (.error error) => error.isRefusal
  | response (.error error) => error.isRefusal
  | _ => false

inductive ManagedWsFailureKind where
  | network | auth | readiness | server
deriving DecidableEq

/-- The text of a failure; `terminated` is `managed websocket terminated:` with the reason, after
the context. -/
inductive FailureDetail where
  | text (text : String)
  | terminated (context : String) (reason : ManagedWsTerminationReason)
deriving DecidableEq

def FailureDetail.within (context : String) : FailureDetail → FailureDetail
  | text detail => .text (context ++ detail)
  | terminated inner reason => .terminated (context ++ inner) reason

structure ManagedWsFailure where
  kind : ManagedWsFailureKind
  detail : FailureDetail
deriving DecidableEq

inductive ManagedWsEvent where
  | connected | authenticated | reconciled | ready
  | reconnecting (attempt delayMs : ℕ)
  | disconnected
  | error (failure : ManagedWsFailure)
  | unreadableFrame
  | terminated (reason : ManagedWsTerminationReason)
deriving DecidableEq

def ManagedWsFailure.event (kind : ManagedWsFailureKind) (text : String) : ManagedWsEvent :=
  .error ⟨kind, .text text⟩

inductive SessionEnd where
  | closeRequested
  | authenticationFailed
  | terminated (reason : ManagedWsTerminationReason)
  | disconnected (authenticatedFor : Instant) (clearResume : Bool)

inductive AuthenticatedSessionEnd where
  | closeRequested | disconnected | credentialsExpired
  | terminated (reason : ManagedWsTerminationReason)

def AuthenticatedSessionEnd.finish (authenticatedFor : Instant) :
    AuthenticatedSessionEnd → SessionEnd
  | closeRequested => .closeRequested
  | disconnected => .disconnected authenticatedFor false
  | credentialsExpired => .disconnected authenticatedFor true
  | terminated reason => .terminated reason

/-- A session that is being wound up. Its age is measured when that is done: after a server's
rejection the writer is stopped and the server's close awaited first. -/
inductive Ending where
  | closeRequested
  | authenticationFailed
  | terminated (reason : ManagedWsTerminationReason)
  | authenticated (authenticatedAt : Instant) (ended : AuthenticatedSessionEnd)

def Ending.finish (now : Instant) : Ending → SessionEnd
  | closeRequested => .closeRequested
  | authenticationFailed => .authenticationFailed
  | terminated reason => .terminated reason
  | authenticated authenticatedAt ended => ended.finish (now - authenticatedAt)

inductive SessionFailure where
  | retryable (detail : String)
  | rejected (detail : String)
  | credentialsExpired (detail : String)
  | terminated (reason : ManagedWsTerminationReason)
  | shutdown

namespace SessionFailure

def intoSessionEnd : SessionFailure → AuthenticatedSessionEnd
  | credentialsExpired _ => .credentialsExpired
  | terminated reason => .terminated reason
  | retryable _ | rejected _ => .disconnected
  | shutdown => .closeRequested

def isServerRejection : SessionFailure → Bool
  | rejected _ | credentialsExpired _ | terminated _ => true
  | retryable _ | shutdown => false

def detail : SessionFailure → FailureDetail
  | retryable detail | rejected detail => .text detail
  | credentialsExpired _ => .text "session was replaced by another authenticated connection"
  | terminated reason => .terminated "" reason
  | shutdown => .text "shutdown requested"

end SessionFailure

inductive ControlFailure where
  | retry (detail : String)
  | clearCredentials (detail : String)
  | terminate (reason : ManagedWsTerminationReason)

def formatDetail (code : WsErrorCode) (message : String) : String :=
  code.asStr ++ " (" ++ message ++ ")"

def classifyCode (code : WsErrorCode) (message : String) : Option ControlFailure :=
  match code with
  | .sessionReplaced => some (.terminate .sessionReplaced)
  | .unsupportedProtocolVersion => some (.terminate .unsupportedProtocolVersion)
  | .blacklisted | .makerUnregistered | .makerNotRegistered | .invalidSignature
  | .operatorMismatch | .vaultOperatorUnauthorized =>
    some (.terminate (.authenticationRejected code.asStr (some message)))
  | .vaultSessionInvalidated => some (.retry (formatDetail code message))
  | .sessionExpired => some (.clearCredentials (formatDetail code message))
  | .other _ => none

def classifyAuthError (code : WsErrorCode) (message : String) : ControlFailure :=
  (classifyCode code message).getD (.retry (formatDetail code message))

def classify : ServerMessage → Option ControlFailure
  | .versionMismatch requested server minimum =>
    some (.terminate (.protocolVersionMismatch requested server minimum))
  | .authError reason message => some (classifyAuthError reason message)
  | .error (.generic code message) => classifyCode code message
  | .error .serverShuttingDown => some (.retry "server is shutting down")
  | _ => none

def SessionFailure.fromControl (message : ServerMessage) : Option SessionFailure :=
  (classify message).map fun
    | .retry detail => .rejected detail
    | .clearCredentials detail => .credentialsExpired detail
    | .terminate reason => .terminated reason

/-- The settings that the modelled part of the session reads. `textLen` is the length of a
message's JSON text, `none` where it cannot be serialized. -/
structure ManagedWsConfig where
  initialSubscribe : Option SubscribeData
  reconnectDelay : Instant
  maxReconnectDelay : Instant
  maxReconnectAttempts : ℕ
  -- `(base_ms as f64 * ratio).round() as u64`, and none for a ratio of zero
  reconnectJitter : Option (ℕ → ℕ)
  pingInterval : Instant
  pongTimeout : Instant
  readinessTimeout : Instant
  commandBuffer : ℕ
  maxBatchQuotes : ℕ
  maxOutboundMessageSize : ℕ
  maxPendingAwaits : ℕ
  reconnectOnGap : Bool
  textLen : ClientMessage → Option ℕ

def millis (n : ℕ) : Instant := n * 1000000

def seconds (n : ℕ) : Instant := millis (n * 1000)

/-- `ManagedWsConfig::new`, which is for the quote endpoint. -/
def ManagedWsConfig.new (textLen : ClientMessage → Option ℕ) : ManagedWsConfig where
  initialSubscribe := none
  reconnectDelay := millis 250
  maxReconnectDelay := seconds 5
  maxReconnectAttempts := 0
  reconnectJitter := some fun baseMs ↦ (baseMs + 2) / 5
  pingInterval := seconds 30
  pongTimeout := seconds 10
  readinessTimeout := seconds 15
  commandBuffer := 256
  maxBatchQuotes := 50
  maxOutboundMessageSize := 32 * 1024
  maxPendingAwaits := 1024
  reconnectOnGap := true
  textLen := textLen

/-- The lengths of the texts that `serde_json` writes for the messages of the runs below. -/
def sampleTextLen : ClientMessage → Option ℕ
  -- a challenge for makers, with a signature and a key in base58
  | .authChallenge => some 390
  -- "request_id" and "market":{"type":"all"}
  | .cancelAllQuotes _ => some 111
  -- "request_id" and "channels":["rfqs"]
  | .addChannels _ => some 103
  -- all five "products", "request_id", "channels":["trades"] and two empty lists of mints
  | .subscribe _ => some 227
  -- {"type":"Ping"}
  | .ping => some 15
  | _ => none

def sampleConfig : ManagedWsConfig := .new sampleTextLen

def PreparedClientMessage.new (config : ManagedWsConfig) (message : ClientMessage) :
    Option PreparedClientMessage :=
  (config.textLen message).map fun len ↦
    ⟨message, len, message.lane, SubscriptionChange.fromMessage message⟩

def hasUnsupportedBuy : ClientMessage → Bool
  | .rfqRequest request => request.side = .buy
  | _ => false

def prepareOutbound (config : ManagedWsConfig) (message : ClientMessage) :
    Except OutboundMessageError PreparedClientMessage :=
  if hasUnsupportedBuy message then .error .takerBuyUnsupported
  else
    match message with
    | .batchQuotes quotes =>
      if quotes.length > config.maxBatchQuotes then
        .error (.batchTooLarge quotes.length config.maxBatchQuotes)
      else checkSize
    | _ => checkSize
where
  checkSize :=
    match PreparedClientMessage.new config message with
    | none => .error .serialization
    | some prepared =>
      if prepared.len > config.maxOutboundMessageSize then
        .error (.messageTooLarge prepared.len config.maxOutboundMessageSize)
      else .ok prepared

theorem prepareOutbound_ok {config : ManagedWsConfig} {message : ClientMessage}
    {prepared : PreparedClientMessage} (h : prepareOutbound config message = .ok prepared) :
    PreparedClientMessage.new config message = some prepared := by
  have hsize : ∀ {prepared}, prepareOutbound.checkSize config message = .ok prepared →
      PreparedClientMessage.new config message = some prepared := by
    intro prepared h
    unfold prepareOutbound.checkSize at h
    split at h
    · cases h
    · rename_i hnew
      split at h <;> cases h
      exact hnew
  unfold prepareOutbound at h
  split at h
  · cases h
  split at h
  · split at h
    · cases h
    · exact hsize h
  · exact hsize h

end MakerSdk.Session
