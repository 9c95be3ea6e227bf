import MakerSdk.Session.System

namespace MakerSdk.Session

inductive ReadResult where
  | ping (payload : List UInt8)
  | pong
  | message (message : ServerMessage)
  | unreadable (requestId : Option Uuid)
  | error (detail : String)
  | closed

inductive SignResult where
  | shutdown
  | timedOut
  | failed (error : String)
  | signed

/-- The branches of the loop's `select!`; `signed` is the loop coming back from a signer. -/
inductive Branch where
  | shutdown
  | gap
  | writerEnded
  | command
  | subscriptionWritten
  | subscriptionDeadline
  | cancel
  | pingTick
  | pingWritten
  | pongDeadline
  | read (result : ReadResult)
  | signed (result : SignResult)

def LaneFull.isClosed : LaneFull → Bool
  | closed => true
  | full => false

def ServerMessage.isPong : ServerMessage → Bool
  | pong => true
  | _ => false

namespace Loop

def start (epoch capacity : ℕ) (now : Instant) (authenticatedAt : Instant) : Loop where
  writer := .spawn epoch capacity
  nextTick := now
  pongDeadline := none
  subscriptionDeadline := none
  subscriptionWritten := none
  pingWritten := none
  nextTicket := 0
  signing := false
  authenticatedAt := authenticatedAt

/-- `MissedTickBehavior::Skip`. -/
def tick (loop : Loop) (period now : Instant) : Loop :=
  { loop with nextTick := now + period - (now - loop.nextTick) % period }

/-- The oneshots of the writer that end in the loop. -/
def receive (now : Instant) (loop : Loop) : WriterEffect → Loop
  | .result (.ping ticket) result =>
    { loop with pingWritten := loop.pingWritten.map (.resolve ticket (some result)) }
  | .dropResult (.ping ticket) =>
    { loop with pingWritten := loop.pingWritten.map (.resolve ticket none) }
  | .receipt ticket =>
    { loop with subscriptionWritten := loop.subscriptionWritten.map (.resolve ticket (some now)) }
  | .dropReceipt ticket =>
    { loop with subscriptionWritten := loop.subscriptionWritten.map (.resolve ticket none) }
  | _ => loop

theorem receive_writer {now : Instant} {loop : Loop} {effects : List WriterEffect} :
    (effects.foldl (receive now) loop).writer = loop.writer := by
  induction effects generalizing loop with
  | nil => rfl
  | cons effect effects ih =>
    rw [List.foldl_cons, ih]
    rcases effect with _ | _ | ⟨_ | _, _⟩ | _ | ⟨_ | _⟩ | _ <;> rfl

end Loop

def WriterEffect.events (epoch : ℕ) : WriterEffect → List Event
  | wrote command => [.wrote epoch command]
  | failed .writeTimeout =>
    [.lifecycle (ManagedWsFailure.event .network "websocket write timed out")]
  | failed _ => [.lifecycle (ManagedWsFailure.event .network "websocket write failed")]
  | result (.caller tx) outcome => [.answered tx (.sent outcome)]
  | dropResult (.caller tx) => [.answered tx (.sent (.error .disconnected))]
  | _ => []

theorem WriterEffect.events_cases {epoch : ℕ} {effect : WriterEffect} {event : Event}
    (h : event ∈ effect.events epoch) :
    (∃ tx ∈ effect.callers, ∃ answer : Answer, answer.isRefusal = effect.isRefusal ∧
      event = .answered tx answer) ∨
      (∃ command, effect = .wrote command ∧ event = .wrote epoch command) ∨
      ∃ failure, event = .lifecycle (.error failure) := by
  rcases effect with command | error | ⟨tx | ticket, outcome⟩ | ticket | ⟨tx | ticket⟩ | ticket
  · exact .inr (.inl ⟨command, rfl, List.mem_singleton.mp h⟩)
  · refine .inr (.inr ?_)
    cases error <;> exact ⟨_, List.mem_singleton.mp h⟩
  · refine .inl ⟨tx, List.mem_cons_self, _, ?_, List.mem_singleton.mp h⟩
    cases outcome <;> rfl
  · cases h
  · cases h
  · exact .inl ⟨tx, List.mem_cons_self, _, rfl, List.mem_singleton.mp h⟩
  · cases h
  · cases h

namespace System

def stay (s : System) (loop : Loop) : System := { s with phase := .live loop }

def fail (s : System) (kind : ManagedWsFailureKind) (text : String) : System :=
  s.sendEvent (ManagedWsFailure.event kind text)

/-- The command that tells a writer to stop: `Stop` after a server error frame, `Close` for a
final end, none where the task is just aborted. -/
def farewell (rejected : Bool) : AuthenticatedSessionEnd → Option WriterCommand
  | .closeRequested | .terminated _ => if rejected then some .stop else some .close
  | .disconnected | .credentialsExpired => if rejected then some .stop else none

/-- The session's lanes are dropped, after the command that stops the writer if it fits. -/
def release (writer : Writer) (command : Option WriterCommand) : Writer :=
  let last := command.elim writer fun command ↦
    match writer.enqueue .control command with
    | .ok writer => writer
    | .error _ => writer
  { last with lanesOpen := false }

/-- The loop breaks: `Ready` is withdrawn and the writer is let go. -/
def endLoop (s : System) (loop : Loop) (ended : AuthenticatedSessionEnd) (rejected : Bool) :
    System :=
  { s.setState (.connected s.connectionEpoch) with
    detached := release loop.writer (farewell rejected ended) :: s.detached
    phase := .ending (.authenticated loop.authenticatedAt ended) }

def failLoop (s : System) (loop : Loop) (failure : SessionFailure) : System :=
  let rejected := failure.isServerRejection
  let kind := if rejected then ManagedWsFailureKind.server else .network
  let reported :=
    match failure with
    | .shutdown => s
    | _ => s.sendEvent (.error ⟨kind, failure.detail⟩)
  reported.endLoop loop failure.intoSessionEnd rejected

def loopIo (s : System) (loop : Loop) : SessionIo where
  lanes := loop.writer
  tracker := s.tracker
  subscriptions := s.subscriptions
  subscriptionWritten := loop.subscriptionWritten
  nextTicket := loop.nextTicket

def applyHandled (s : System) (loop : Loop) (command : Option ManagedCommand)
    (handled : Handled) : System :=
  let entered :=
    match command with
    | some command => if handled.enqueued then [.enqueued command.tx loop.writer.epoch] else []
    | none => []
  let loop :=
    { loop with
      writer := handled.io.lanes
      subscriptionWritten := handled.io.subscriptionWritten
      nextTicket := handled.io.nextTicket }
  let s :=
    ({ s with
        tracker := handled.io.tracker
        subscriptions := handled.io.subscriptions }.emit entered).answer handled.answers
  match handled.ended with
  | none => s.stay loop
  | some ended => s.endLoop loop ended false

def commandBranch (s : System) (loop : Loop) : Option System :=
  let handle (s : System) (command : Option ManagedCommand) : System :=
    s.applyHandled loop command
      (handleCommand (fun tx ↦ tx ∈ s.dropped) s.connectionEpoch (s.loopIo loop) command)
  match s.queue with
  | command :: queue => some (handle { s with queue } (some command))
  | [] => if s.handlesGone then some (handle s none) else none

def cancelBranch (s : System) (loop : Loop) : Option System :=
  match s.cancels with
  | awaitId :: cancels =>
    let cancelled := s.tracker.cancel awaitId
    some ({ s with cancels, tracker := cancelled.2 }.disconnectAll cancelled.1.toList)
  | [] => if s.handlesGone then some (s.endLoop loop .closeRequested false) else none

def subscriptionWrittenBranch (config : ManagedWsConfig) (s : System) (loop : Loop) :
    Option System :=
  match loop.subscriptionWritten with
  | some ⟨_, some written⟩ =>
    let loop := { loop with subscriptionWritten := none }
    match written with
    | some writtenAt =>
      if s.subscriptions.hasPending then
        some (s.stay
          { loop with subscriptionDeadline := some (writtenAt + config.readinessTimeout) })
      else some (s.stay loop)
    | none => some (s.endLoop loop .disconnected false)
  | _ => none

def pingTickBranch (config : ManagedWsConfig) (s : System) (loop : Loop) : Option System :=
  if loop.pongDeadline.isNone ∧ loop.pingWritten.isNone ∧ loop.nextTick ≤ s.time then
    (PreparedClientMessage.new config .ping).map fun ping ↦
      let loop := loop.tick config.pingInterval s.time
      match loop.writer.frame ping (some (.ping loop.nextTicket)) with
      | .ok writer =>
        s.stay { loop with
          writer
          pingWritten := some ⟨loop.nextTicket, none⟩
          nextTicket := loop.nextTicket + 1 }
      | .error (.full, _) => s.stay loop
      | .error (.closed, _) => s.endLoop loop .disconnected false
  else none

/-- `wait_written`: only a write that succeeded arms the deadline, and it counts from the moment
the loop learns of it. -/
def pingWrittenBranch (config : ManagedWsConfig) (s : System) (loop : Loop) : Option System :=
  match loop.pingWritten with
  | some ⟨_, some written⟩ =>
    let loop := { loop with pingWritten := none }
    if written.any Except.isOk then
      some (s.stay { loop with pongDeadline := some (s.time + config.pongTimeout) })
    else some (s.stay loop)
  | _ => none

def pongDeadlineBranch (s : System) (loop : Loop) : Option System :=
  loop.pongDeadline.bind fun deadline ↦
    if deadline ≤ s.time then
      some ((s.fail .network "pong deadline exceeded").endLoop loop .disconnected false)
    else none

def subscriptionDeadlineBranch (s : System) (loop : Loop) : Option System :=
  loop.subscriptionDeadline.bind fun deadline ↦
    if deadline ≤ s.time then
      some ((s.fail .server "subscription acknowledgement timed out").endLoop loop .disconnected
        false)
    else none

/-- `handle_session_message`; signing the challenge of an `AuthRequest` is left to `signed`. -/
def handleSessionMessage (s : System) (loop : Loop) (message : ServerMessage) : System :=
  let noted :=
    match message with
    | .authSuccess _ => s.sendEvent .authenticated
    | _ => s
  match message with
  | .authRequest _ => noted.stay { loop with signing := true }
  | _ =>
    match SessionFailure.fromControl message with
    | some failure => noted.failLoop loop failure
    | none => noted.stay loop

/-- A message: subscription changes and the pong deadline first, then its waiter, then what it
means for the session. -/
def readMessage (s : System) (loop : Loop) (message : ServerMessage) : System :=
  let subscriptions := s.subscriptions.resolve message
  let loop := if subscriptions.hasPending then loop else { loop with subscriptionDeadline := none }
  let loop := if message.isPong then { loop with pongDeadline := none } else loop
  let taken := s.tracker.takeForMessage message
  let s := { s with subscriptions, tracker := taken.2 }.emit [.read message]
  (s.answer (taken.1.toList.map fun tx ↦ (tx, .response (.ok message)))).handleSessionMessage
    loop message

def readUnreadable (s : System) (requestId : Option Uuid) : System :=
  let taken := requestId.elim (none, s.tracker) s.tracker.takeForRequest
  let answers := taken.1.toList.map fun tx ↦ (tx, Answer.response (.error .unreadableResponse))
  ({ s with tracker := taken.2 }.answer answers).sendEvent .unreadableFrame

def readBranch (s : System) (loop : Loop) : ReadResult → System
  | .ping payload =>
    match loop.writer.pong payload with
    | .ok writer => s.stay { loop with writer }
    | .error reason => if reason.isClosed then s.endLoop loop .disconnected false else s.stay loop
  | .pong => s.stay loop
  | .message message => s.readMessage loop message
  | .unreadable requestId => s.readUnreadable requestId
  | .error detail => (s.fail .network detail).endLoop loop .disconnected false
  | .closed => s.endLoop loop .disconnected false

def signedBranch (config : ManagedWsConfig) (s : System) (loop : Loop) :
    SignResult → Option System
  | .shutdown => if s.shutdown then some (s.failLoop loop .shutdown) else none
  | .timedOut => some (s.failLoop loop (.retryable "challenge signing timed out"))
  | .failed error =>
    some (s.failLoop loop (.retryable ("challenge signer failed: " ++ error)))
  | .signed =>
    match PreparedClientMessage.new config .authChallenge with
    | none => some (s.failLoop loop (.retryable "message serialization failed"))
    | some frame =>
      match loop.writer.frame frame none with
      | .ok writer => some (s.stay { loop with writer, signing := false })
      | .error _ => some (s.failLoop loop (.retryable "auth response could not be queued"))

def loopStep (config : ManagedWsConfig) (s : System) (loop : Loop) (branch : Branch) :
    Option System :=
  if loop.signing then
    match branch with
    | .signed result => s.signedBranch config loop result
    | _ => none
  else
    match branch with
    | .shutdown => if s.shutdown then some (s.endLoop loop .closeRequested false) else none
    | .gap =>
      if 0 < s.gaps then
        let text := "subscriber fell behind the inbound ring; reconnecting"
        some (({ s with gaps := s.gaps - 1 }.fail .network text).endLoop loop .disconnected false)
      else none
    | .writerEnded =>
      if loop.writer.isReturned then some (s.endLoop loop .disconnected false) else none
    | .command => s.commandBranch loop
    | .subscriptionWritten => s.subscriptionWrittenBranch config loop
    | .subscriptionDeadline => s.subscriptionDeadlineBranch loop
    | .cancel => s.cancelBranch loop
    | .pingTick => s.pingTickBranch config loop
    | .pingWritten => s.pingWrittenBranch config loop
    | .pongDeadline => s.pongDeadlineBranch loop
    | .read result => some (s.readBranch loop result)
    | .signed _ => none

/-- One step of the session's writer task, which nobody aborts while the loop runs. -/
def writerStep (s : System) (loop : Loop) (op : WriterOp) : Option System :=
  if op = .abort then none
  else
    (loop.writer.step op).map fun result ↦
      (s.stay (result.2.foldl (Loop.receive s.time) { loop with writer := result.1 })).emit
        (result.2.flatMap (WriterEffect.events loop.writer.epoch))

def detachedStep (s : System) (index : ℕ) (op : WriterOp) : Option System :=
  s.detached[index]?.bind fun writer ↦
    (writer.step op).map fun result ↦
      { s with detached := s.detached.set index result.1 }.emit
        (result.2.flatMap (WriterEffect.events writer.epoch))

end System

end MakerSdk.Session
