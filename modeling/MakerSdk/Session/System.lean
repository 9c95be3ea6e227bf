import MakerSdk.Session.Handle

namespace MakerSdk.Session

/-- What happens on a managed connection, down to the frames that enter a lane, go on the wire and
are read; the end of a session is noted as `run_managed_ws` takes it up. -/
inductive Event where
  | state (state : ManagedWsState)
  | lifecycle (event : ManagedWsEvent)
  | called (tx : Waiter) (call : Call)
  | answered (tx : Waiter) (answer : Answer)
  | abandoned (tx : Waiter)
  | enqueued (tx : Waiter) (epoch : ℕ)
  | wrote (epoch : ℕ) (command : WriterCommand)
  | read (message : ServerMessage)
  | sessionEnded (ended : SessionEnd)
  | limitReached

structure Entry where
  instant : Instant
  event : Event

structure ReconnectBackoff where
  initial : Instant
  current : Instant
  maximum : Instant
  attempts : ℕ

def nextReconnectDelay (current maximum : Instant) : Instant := min (2 * current) maximum

def jitteredReconnectDelayWithRatio (base : Instant) (ratio : Option (ℕ → ℕ)) (random : UInt64) :
    Instant :=
  let baseMs := base / 1000000 % 2 ^ 64
  match ratio with
  | none => base
  | some spread =>
    if baseMs ≤ 1 then base
    else
      let spread := max (spread baseMs) 1
      let window := min (2 * spread + 1) (2 ^ 64 - 1)
      let jitter := random.toNat % window
      millis (max (min (baseMs - spread + jitter) (2 ^ 64 - 1)) 1)

namespace ReconnectBackoff

def new (initial maximum : Instant) : ReconnectBackoff := ⟨initial, initial, maximum, 0⟩

def limitReached (backoff : ReconnectBackoff) (maximumAttempts : ℕ) : Bool :=
  maximumAttempts > 0 ∧ backoff.attempts ≥ maximumAttempts

def nextAttempt (backoff : ReconnectBackoff) : (ℕ × Instant) × ReconnectBackoff :=
  let attempts := min (backoff.attempts + 1) (2 ^ 64 - 1)
  ((attempts, backoff.current),
    { backoff with
      attempts
      current := nextReconnectDelay backoff.current backoff.maximum })

def reset (backoff : ReconnectBackoff) : ReconnectBackoff :=
  { backoff with current := backoff.initial, attempts := 0 }

def resetAfterStableSession (backoff : ReconnectBackoff) (authenticatedFor : Instant) :
    ReconnectBackoff :=
  if authenticatedFor < backoff.maximum then backoff else backoff.reset

end ReconnectBackoff

/-- The locals of the session loop. While `signing`, the loop is inside the handler of an
authentication request and polls none of its branches. -/
structure Loop where
  writer : Writer
  nextTick : Instant
  pongDeadline : Option Instant
  subscriptionDeadline : Option Instant
  subscriptionWritten : Option (Receipt Instant)
  pingWritten : Option (Receipt (Except ManagedWsError Unit))
  nextTicket : ℕ
  signing : Bool
  authenticatedAt : Instant

/-- Where the connection task stands. `returning` has published its end and not yet dropped its
channels; `unwinding` has dropped them in a panic and not yet published its end. -/
inductive Phase where
  | connecting
  | authenticating
  | establishing (authenticatedAt : Instant)
  | live (loop : Loop)
  | ending (ended : Ending)
  | reconnecting (wakeup : Instant)
  | returning
  | unwinding
  | closed

def Phase.channelClosed : Phase → Bool
  | unwinding | closed => true
  | _ => false

/-- A handle, its callers, the connection task and the writer tasks. `sending` are the commands of
callers that wait for space, `detached` the writers of ended sessions. -/
structure System where
  time : Instant
  trace : List Entry
  state : ManagedWsState
  shutdown : Bool
  handlesGone : Bool
  gaps : ℕ
  nextTx : Waiter
  nextAwaitId : ℕ
  awaitIds : List (Waiter × ℕ)
  sending : List ManagedCommand
  queue : List ManagedCommand
  cancels : List ℕ
  dropped : List Waiter
  phase : Phase
  connectionEpoch : ℕ
  connectionOpen : Bool
  tracker : AwaitTracker
  subscriptions : DesiredSubscriptions
  backoff : ReconnectBackoff
  invalidSignatureStrikes : ℕ
  pendingAuthRejection : Option ManagedWsTerminationReason
  detached : List Writer

namespace System

def init (config : ManagedWsConfig) : System where
  time := 0
  trace := []
  state := .connecting
  shutdown := false
  handlesGone := false
  gaps := 0
  nextTx := 0
  nextAwaitId := 1
  awaitIds := []
  sending := []
  queue := []
  cancels := []
  dropped := []
  phase := .connecting
  connectionEpoch := 0
  connectionOpen := false
  tracker := .new config.maxPendingAwaits
  subscriptions := .fromInitial config.initialSubscribe
  backoff := .new config.reconnectDelay config.maxReconnectDelay
  invalidSignatureStrikes := 0
  pendingAuthRejection := none
  detached := []

def emit (s : System) (events : List Event) : System :=
  { s with trace := s.trace ++ events.map (⟨s.time, ·⟩) }

def setState (s : System) (state : ManagedWsState) : System := { s with state }.emit [.state state]

def sendEvent (s : System) (event : ManagedWsEvent) : System := s.emit [.lifecycle event]

def transitionState (s : System) (state : ManagedWsState) (event : ManagedWsEvent) : System :=
  (s.setState state).sendEvent event

def answer (s : System) (answers : List (Waiter × Answer)) : System :=
  s.emit (answers.map fun entry ↦ .answered entry.1 entry.2)

def disconnectAll (s : System) (waiters : List Waiter) : System :=
  s.answer (waiters.map fun tx ↦ (tx, .response (.error .disconnected)))

def terminate (s : System) (reason : ManagedWsTerminationReason) : System :=
  { s.transitionState (.closed reason) (.terminated reason) with phase := .returning }

def connectionEnded (s : System) : System :=
  if s.connectionOpen then { s with connectionOpen := false }.sendEvent .disconnected else s

def drainTracker (s : System) : System :=
  { s with tracker := s.tracker.drainAll.2 }.disconnectAll s.tracker.drainAll.1

/-- The task's future is dropped, and with it its channels and the tracker. -/
def dropChannels (s : System) (phase : Phase) : System :=
  let commands := s.queue.map fun command ↦ (command.tx, command.disconnected)
  { s with queue := [], cancels := [], phase }.drainTracker.answer commands

end System

inductive HandleOp where
  | call (call : Call)
  | submit (index : ℕ)
  | giveUp (index : ℕ)
  | expire (index : ℕ)
  | abandon (tx : Waiter)
  | timeout (tx : Waiter)
  | close
  | dropHandles
  | reportGap

namespace System

def call (config : ManagedWsConfig) (s : System) (call : Call) : System :=
  let tx := s.nextTx
  let called := { s with nextTx := tx + 1 }.emit [.called tx call]
  match call.build config s.state s.nextAwaitId tx with
  | .error answer => called.answer [(tx, answer)]
  | .ok command =>
    let numbered :=
      if call.method.awaits then
        { called with
          nextAwaitId := (s.nextAwaitId + 1) % 2 ^ 64
          awaitIds := (tx, s.nextAwaitId) :: s.awaitIds }
      else called
    if call.method.blocks then { numbered with sending := s.sending ++ [command] }
    else if s.phase.channelClosed then numbered.answer [(tx, command.closed)]
    else if s.queue.length ≥ config.commandBuffer then numbered.answer [(tx, call.queueFull)]
    else { numbered with queue := s.queue ++ [command] }

def submit (config : ManagedWsConfig) (s : System) (index : ℕ) : Option System :=
  s.sending[index]?.bind fun command ↦
    let rest := { s with sending := s.sending.eraseIdx index }
    if s.phase.channelClosed then some (rest.answer [(command.tx, command.closed)])
    else if s.queue.length < config.commandBuffer then
      some { rest with queue := s.queue ++ [command] }
    else none

/-- The future of a blocked send is dropped, and the command with it. -/
def giveUp (s : System) (index : ℕ) : Option System :=
  s.sending[index]?.map fun command ↦
    { s with
      sending := s.sending.eraseIdx index
      dropped := command.tx :: s.dropped }.emit [.abandoned command.tx]

def expire (s : System) (index : ℕ) : Option System :=
  s.sending[index]?.bind fun command ↦
    match command with
    | .send .. => none
    | .sendAwait .. =>
      some ({ s with sending := s.sending.eraseIdx index }.answer
        [(command.tx, .response (.error .timeout))])

/-- A caller is past the queue: its command was not refused at the call and is not blocked. -/
def isWaiting (s : System) (tx : Waiter) : Bool :=
  tx < s.nextTx ∧ tx ∉ s.dropped ∧ tx ∉ s.sending.map ManagedCommand.tx

/-- A ticket or a response future is dropped. -/
def abandon (s : System) (tx : Waiter) : Option System :=
  if s.isWaiting tx then some ({ s with dropped := tx :: s.dropped }.emit [.abandoned tx])
  else none

/-- A response future reaches its deadline: it drops its receiver and asks for the await to be
cancelled. -/
def timeout (s : System) (tx : Waiter) : Option System :=
  (s.awaitIds.lookup tx).bind fun awaitId ↦
    if s.isWaiting tx then
      some ({ s with dropped := tx :: s.dropped, cancels := s.cancels ++ [awaitId] }.answer
        [(tx, .response (.error .timeout))])
    else none

def handleStep (config : ManagedWsConfig) (s : System) : HandleOp → Option System
  | .call call => if s.handlesGone then none else some (s.call config call)
  | .submit index => s.submit config index
  | .giveUp index => s.giveUp index
  | .expire index => s.expire index
  | .abandon tx => s.abandon tx
  | .timeout tx => s.timeout tx
  | .close => some { s with shutdown := true }
  | .dropHandles =>
    if s.sending.isEmpty then some { s with handlesGone := true, shutdown := true } else none
  | .reportGap => if config.reconnectOnGap then some { s with gaps := s.gaps + 1 } else none

end System

def Event.ofHandle : Event → Bool
  | called .. | answered .. | abandoned _ => true
  | _ => false

namespace System

def taskSide (s : System) :=
  (s.phase, s.subscriptions, s.time, s.connectionOpen, s.connectionEpoch,
    s.invalidSignatureStrikes, s.state)

structure FromHandle (s t : System) : Prop where
  side : t.taskSide = s.taskSide
  trace : ∃ entries, t.trace = s.trace ++ entries ∧ ∀ entry ∈ entries, entry.event.ofHandle = true

section Frame

variable {s t : System} {config : ManagedWsConfig}

theorem fromHandle_of_eq (hside : t.taskSide = s.taskSide) (htrace : t.trace = s.trace) :
    FromHandle s t :=
  ⟨hside, [], by rw [htrace, List.append_nil], List.forall_mem_nil _⟩

theorem FromHandle.emit {event : Event} (h : FromHandle s t) (hevent : event.ofHandle = true) :
    FromHandle s (t.emit [event]) := by
  obtain ⟨entries, htrace, hentries⟩ := h.trace
  refine ⟨h.side, entries ++ [⟨t.time, event⟩], ?_, ?_⟩
  · rw [← List.append_assoc, ← htrace]
    rfl
  · intro entry he
    rcases List.mem_append.mp he with he | he
    · exact hentries entry he
    · rw [List.mem_singleton.mp he]
      exact hevent

theorem FromHandle.answer {tx : Waiter} {answer : Answer} (h : FromHandle s t) :
    FromHandle s (t.answer [(tx, answer)]) :=
  h.emit rfl

theorem fromHandle_call {call : Call} : FromHandle s (s.call config call) := by
  unfold System.call
  extract_lets tx called numbered
  have hcalled : FromHandle s called := by
    have hnext : FromHandle s { s with nextTx := tx + 1 } := fromHandle_of_eq rfl rfl
    exact hnext.emit rfl
  have hnumbered : FromHandle s numbered := by
    unfold numbered
    split
    · exact ⟨hcalled.side, hcalled.trace⟩
    · exact hcalled
  split
  · exact hcalled.answer
  split
  · exact ⟨hnumbered.side, hnumbered.trace⟩
  split
  · exact hnumbered.answer
  split
  · exact hnumbered.answer
  · exact ⟨hnumbered.side, hnumbered.trace⟩

theorem fromHandle_handleStep {op : HandleOp} (ht : s.handleStep config op = some t) :
    FromHandle s t := by
  cases op with
  | call call =>
    simp only [handleStep] at ht
    split at ht <;> cases ht
    exact fromHandle_call
  | submit index =>
    obtain ⟨command, -, ht⟩ := Option.bind_eq_some_iff.mp ht
    dsimp only at ht
    split at ht
    · cases ht
      exact .answer (fromHandle_of_eq rfl rfl)
    · split at ht <;> cases ht
      exact fromHandle_of_eq rfl rfl
  | giveUp index =>
    obtain ⟨command, -, rfl⟩ := Option.map_eq_some_iff.mp ht
    exact .emit (fromHandle_of_eq rfl rfl) rfl
  | expire index =>
    obtain ⟨command, -, ht⟩ := Option.bind_eq_some_iff.mp ht
    cases command with
    | send => cases ht
    | sendAwait =>
      cases ht
      exact .answer (fromHandle_of_eq rfl rfl)
  | abandon tx =>
    simp only [handleStep, abandon] at ht
    split at ht <;> cases ht
    exact .emit (fromHandle_of_eq rfl rfl) rfl
  | timeout tx =>
    obtain ⟨awaitId, -, ht⟩ := Option.bind_eq_some_iff.mp ht
    split at ht <;> cases ht
    exact .answer (fromHandle_of_eq rfl rfl)
  | close =>
    cases ht
    exact fromHandle_of_eq rfl rfl
  | dropHandles | reportGap =>
    simp only [handleStep] at ht
    split at ht <;> cases ht
    exact fromHandle_of_eq rfl rfl

end Frame

end System

end MakerSdk.Session
