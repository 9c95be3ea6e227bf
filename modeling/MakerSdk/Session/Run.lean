import MakerSdk.Base.Runs
import MakerSdk.Session.Loop

namespace MakerSdk.Session

open Base

inductive AuthResult where
  | shutdown
  | timedOut
  | failed (detail : String)
  | terminated (detail : String) (reason : ManagedWsTerminationReason)
  | authenticated

/-- How the readiness barrier of a connection ends; `step` names the step it was on. -/
inductive ReadyResult where
  | shutdown
  | timedOut (step : String)
  | failed (step : String) (failure : SessionFailure)
  | ready

/-- What the connection task does outside the session loop. `random` is what the jitter of a
reconnect that follows is drawn from. -/
inductive TaskOp where
  | connectShutdown
  | connect
  | connectFailed (detail : String) (random : UInt64)
  | authenticate (result : AuthResult)
  | establish (result : ReadyResult)
  | finish (random : UInt64)
  | windowShutdown
  | windowElapsed
  | windowCancel
  | windowCommand
  | return
  | panic
  | unwound

def invalidSignatureStrikeLimit : ℕ := 3

namespace System

/-- The end of one round of the loop of `run_managed_ws`: give up, or wait and reconnect. -/
def nextRound (config : ManagedWsConfig) (s : System) (random : UInt64) : System :=
  if s.backoff.limitReached config.maxReconnectAttempts then
    let reported := (s.fail .network
      ("reconnect attempt limit reached (" ++ toString config.maxReconnectAttempts ++ ")")).emit
        [.limitReached]
    { reported with pendingAuthRejection := none }.terminate
      (s.pendingAuthRejection.getD (.reconnectLimitReached config.maxReconnectAttempts))
  else
    let next := s.backoff.nextAttempt
    let delay := jitteredReconnectDelayWithRatio next.1.2 config.reconnectJitter random
    let delayMs := delay / 1000000
    { { s with backoff := next.2 }.transitionState (.reconnecting next.1.1 delayMs)
        (.reconnecting next.1.1 delayMs) with
      phase := .reconnecting (s.time + delay) }

def connect (s : System) : System :=
  let epoch := (s.connectionEpoch + 1) % 2 ^ 64
  { { s with connectionEpoch := epoch }.transitionState (.connected epoch) .connected with
    connectionOpen := true
    gaps := 0
    phase := .authenticating }

def endSession (s : System) (ended : Ending) : System := { s with phase := .ending ended }

def authenticate (s : System) : AuthResult → Option System
  | .shutdown => if s.shutdown then some (s.endSession .closeRequested) else none
  | .timedOut => some ((s.fail .auth "authentication timed out").endSession .authenticationFailed)
  | .failed detail => some ((s.fail .auth detail).endSession .authenticationFailed)
  | .terminated detail reason => some ((s.fail .auth detail).endSession (.terminated reason))
  | .authenticated =>
    some { s.transitionState (.authenticated s.connectionEpoch) .authenticated with
      phase := .establishing s.time }

/-- `Ready` is published before the writer exists and the loop starts. -/
def becomeReady (config : ManagedWsConfig) (s : System) (authenticatedAt : Instant) : System :=
  let epoch := s.connectionEpoch
  let ready := (s.transitionState (.reconciled epoch) .reconciled).transitionState (.ready epoch)
    .ready
  match PreparedClientMessage.new config .ping with
  | none =>
    (ready.fail .server "message serialization failed").endSession
      (.authenticated authenticatedAt .disconnected)
  | some _ => ready.stay (.start epoch config.commandBuffer s.time authenticatedAt)

def establish (config : ManagedWsConfig) (s : System) (authenticatedAt : Instant) :
    ReadyResult → Option System
  | .shutdown => if s.shutdown then some (s.endSession .closeRequested) else none
  | .timedOut step =>
    some ((s.fail .readiness ("readiness barrier timed out at " ++ step)).endSession
      (.authenticated authenticatedAt .disconnected))
  | .failed step failure =>
    let detail := failure.detail.within ("readiness failed at " ++ step ++ ": ")
    some ((s.sendEvent (.error ⟨.readiness, detail⟩)).endSession
      (.authenticated authenticatedAt failure.intoSessionEnd))
  | .ready => some (s.becomeReady config authenticatedAt)

def isStrike : ManagedWsTerminationReason → Bool
  | .authenticationRejected reason _ => reason = "invalid_signature"
  | _ => false

def afterSession (config : ManagedWsConfig) (s : System) (random : UInt64) : SessionEnd → System
  | .closeRequested => s.terminate .requested
  | .authenticationFailed => s.nextRound config random
  | .terminated reason =>
    let strikes := s.invalidSignatureStrikes + (if isStrike reason then 1 else 0)
    let counted := { s with invalidSignatureStrikes := strikes }
    if isStrike reason ∧ strikes < invalidSignatureStrikeLimit then
      ({ counted with pendingAuthRejection := some reason }.fail .auth
        ("authentication rejected with invalid_signature, retrying (" ++ toString strikes ++ "/" ++
          toString invalidSignatureStrikeLimit ++ ")")).nextRound config random
    else counted.terminate reason
  | .disconnected authenticatedFor _ =>
    { s with
      invalidSignatureStrikes := 0
      pendingAuthRejection := none
      backoff := s.backoff.resetAfterStableSession authenticatedFor }.nextRound config random

def finish (config : ManagedWsConfig) (s : System) (random : UInt64) (ended : SessionEnd) :
    System :=
  let returned := s.emit [.sessionEnded ended]
  let cleared := { returned.drainTracker with subscriptions := s.subscriptions.connectionLost }
  cleared.connectionEnded.afterSession config random ended

def windowCommand (s : System) : Option System :=
  match s.queue with
  | command :: queue => some ({ s with queue }.answer [(command.tx, command.disconnected)])
  | [] => if s.handlesGone then some (s.terminate .requested) else none

def windowCancel (s : System) : Option System :=
  match s.cancels with
  | _ :: cancels => some { s with cancels }
  | [] => if s.handlesGone then some (s.terminate .requested) else none

section Inversion

variable {s t : System} {config : ManagedWsConfig}

theorem authenticate_cases {result : AuthResult} (ht : s.authenticate result = some t) :
    (∃ ended, t = s.endSession ended) ∨
      (∃ text ended, t = (s.fail .auth text).endSession ended) ∨
        t = { s.transitionState (.authenticated s.connectionEpoch) .authenticated with
          phase := .establishing s.time } := by
  cases result with
  | shutdown =>
    simp only [authenticate] at ht
    split at ht <;> cases ht
    exact .inl ⟨_, rfl⟩
  | timedOut | failed | terminated =>
    cases ht
    exact .inr (.inl ⟨_, _, rfl⟩)
  | authenticated =>
    cases ht
    exact .inr (.inr rfl)

theorem becomeReady_cases {authenticatedAt : Instant} :
    (∃ (u : System) (ended : Ending),
      s.becomeReady config authenticatedAt = u.endSession ended ∧
        u.subscriptions = s.subscriptions) ∨
    ∃ u : System, s.becomeReady config authenticatedAt =
        u.stay (.start s.connectionEpoch config.commandBuffer s.time authenticatedAt) ∧
      u.subscriptions = s.subscriptions := by
  unfold becomeReady
  dsimp only
  split
  · exact .inl ⟨_, _, rfl, rfl⟩
  · exact .inr ⟨_, rfl, rfl⟩

theorem establish_cases {authenticatedAt : Instant} {result : ReadyResult}
    (ht : s.establish config authenticatedAt result = some t) :
    (∃ (u : System) (ended : Ending),
      t = u.endSession ended ∧ u.subscriptions = s.subscriptions) ∨
    ∃ u : System,
      t = u.stay (.start s.connectionEpoch config.commandBuffer s.time authenticatedAt) ∧
      u.subscriptions = s.subscriptions := by
  cases result with
  | shutdown =>
    simp only [establish] at ht
    split at ht <;> cases ht
    exact .inl ⟨_, _, rfl, rfl⟩
  | timedOut | failed =>
    cases ht
    exact .inl ⟨_, _, rfl, rfl⟩
  | ready =>
    cases ht
    exact becomeReady_cases

theorem windowCommand_cases (ht : s.windowCommand = some t) :
    (∃ command queue, s.queue = command :: queue ∧
      t = { s with queue }.answer [(command.tx, command.disconnected)]) ∨
        t = s.terminate .requested := by
  unfold windowCommand at ht
  split at ht
  · rename_i command queue hqueue
    cases ht
    exact .inl ⟨command, queue, hqueue, rfl⟩
  · split at ht <;> cases ht
    exact .inr rfl

theorem windowCancel_cases (ht : s.windowCancel = some t) :
    (∃ cancels, t = { s with cancels }) ∨ t = s.terminate .requested := by
  unfold windowCancel at ht
  split at ht
  · cases ht
    exact .inl ⟨_, rfl⟩
  · split at ht <;> cases ht
    exact .inr rfl

end Inversion

/-- A panic of the session: its locals go, its writer is left to drain the lanes. -/
def panicked (s : System) : System :=
  let loose :=
    match s.phase with
    | .live loop => { s with detached := release loop.writer none :: s.detached }
    | _ => s
  loose.dropChannels .unwinding

def unwound (s : System) : System :=
  { s.connectionEnded.transitionState (.closed .sessionPanicked) (.terminated .sessionPanicked)
    with phase := .closed }

def taskStep (config : ManagedWsConfig) (s : System) (op : TaskOp) : Option System :=
  match s.phase, op with
  | .connecting, .connectShutdown => if s.shutdown then some (s.terminate .requested) else none
  | .connecting, .connect => some s.connect
  | .connecting, .connectFailed detail random =>
    some ((s.fail .network detail).nextRound config random)
  | .authenticating, .authenticate result => s.authenticate result
  | .establishing authenticatedAt, .establish result => s.establish config authenticatedAt result
  | .ending ended, .finish random => some (s.finish config random (ended.finish s.time))
  | .reconnecting _, .windowShutdown => if s.shutdown then some (s.terminate .requested) else none
  | .reconnecting wakeup, .windowElapsed =>
    if wakeup ≤ s.time then some { s with phase := .connecting } else none
  | .reconnecting _, .windowCancel => s.windowCancel
  | .reconnecting _, .windowCommand => s.windowCommand
  | .returning, .return => some (s.dropChannels .closed)
  | .returning, .panic | .unwinding, .panic | .closed, .panic => none
  | _, .panic => some s.panicked
  | .unwinding, .unwound => some s.unwound
  | _, _ => none

end System

inductive Label where
  | handle (op : HandleOp)
  | task (op : TaskOp)
  | branch (branch : Branch)
  | writer (op : WriterOp)
  | detached (index : ℕ) (op : WriterOp)
  | tick (elapsed : Instant)

def System.step (config : ManagedWsConfig) (s : System) : Label → Option System
  | .handle op => s.handleStep config op
  | .task op => s.taskStep config op
  | .branch branch =>
    match s.phase with
    | .live loop => s.loopStep config loop branch
    | _ => none
  | .writer op =>
    match s.phase with
    | .live loop => s.writerStep loop op
    | _ => none
  | .detached index op => s.detachedStep index op
  | .tick elapsed => some { s with time := s.time + elapsed }

def System.after (config : ManagedWsConfig) (labels : List Label) : Option System :=
  Runs.run (System.step config) (.init config) labels

end MakerSdk.Session
