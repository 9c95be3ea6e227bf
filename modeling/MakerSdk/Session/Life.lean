import MakerSdk.Session.Fence

namespace MakerSdk.Session

open Base Relation

inductive Signal where
  | connected | authenticated | reconciled | ready | reconnecting | disconnected | terminated
deriving DecidableEq

def ManagedWsEvent.signal : ManagedWsEvent → Option Signal
  | connected => some .connected
  | authenticated => some .authenticated
  | reconciled => some .reconciled
  | ready => some .ready
  | reconnecting .. => some .reconnecting
  | disconnected => some .disconnected
  | terminated _ => some .terminated
  | error _ | unreadableFrame => none

/-- What tells the life of a connection: the published states, the lifecycle events but the
failures, and how its sessions and its reconnects ended. -/
def Event.isMilestone : Event → Bool
  | state _ | sessionEnded _ | limitReached => true
  | lifecycle event => event.signal.isSome
  | _ => false

inductive Stage where
  | idle | opened | authenticated | live | ending | unwinding | finished
deriving DecidableEq

def Phase.stage : Phase → Stage
  | connecting | reconnecting _ => .idle
  | authenticating => .opened
  | establishing _ => .authenticated
  | live _ => .live
  | ending _ => .ending
  | unwinding => .unwinding
  | returning | closed => .finished

def Phase.sessionEnd : Phase → Option Ending
  | ending ended => some ended
  | _ => none

/-- A managed connection as `run_managed_ws` drives it. `log` holds its milestones. -/
structure Life where
  stage : Stage
  ended : Option Ending
  isOpen : Bool
  epoch : ℕ
  strikes : ℕ
  state : ManagedWsState
  log : List Event

namespace Life

def record (L : Life) (event : Event) : Life := { L with log := L.log ++ [event] }

def publish (L : Life) (state : ManagedWsState) (event : ManagedWsEvent) : Life :=
  { L with state, log := L.log ++ [.state state, .lifecycle event] }

def terminate (L : Life) (reason : ManagedWsTerminationReason) : Life :=
  { L.publish (.closed reason) (.terminated reason) with stage := .finished, ended := none }

def leave (L : Life) (ended : Ending) : Life := { L with stage := .ending, ended := some ended }

def disconnected (L : Life) : Life :=
  if L.isOpen then { L with isOpen := false }.record (.lifecycle .disconnected) else L

def returned (L : Life) (ended : SessionEnd) : Life :=
  (L.record (.sessionEnded ended)).disconnected

def nextEpoch (L : Life) : ℕ := (L.epoch + 1) % 2 ^ 64

inductive NextRound (L : Life) : Life → Prop
  | reconnect {attempt delayMs : ℕ} :
      NextRound L { L.publish (.reconnecting attempt delayMs) (.reconnecting attempt delayMs) with
        stage := .idle
        ended := none }
  | giveUp {reason : ManagedWsTerminationReason} :
      NextRound L ((L.record .limitReached).terminate reason)

inductive AfterSession (L : Life) : SessionEnd → Life → Prop
  | closeRequested : AfterSession L .closeRequested (L.terminate .requested)
  | authenticationFailed {L' : Life} (h : L.NextRound L') : AfterSession L .authenticationFailed L'
  | strike {reason : ManagedWsTerminationReason} {L' : Life}
      (hstrike : System.isStrike reason = true)
      (h : NextRound { L with strikes := L.strikes + 1 } L') :
      AfterSession L (.terminated reason) L'
  | terminated {reason : ManagedWsTerminationReason} {strikes : ℕ}
      (h : System.isStrike reason = true →
        strikes = L.strikes + 1 ∧ invalidSignatureStrikeLimit ≤ strikes) :
      AfterSession L (.terminated reason) ({ L with strikes }.terminate reason)
  | disconnected {authenticatedFor : Instant} {clearResume : Bool} {L' : Life}
      (h : NextRound { L with strikes := 0 } L') :
      AfterSession L (.disconnected authenticatedFor clearResume) L'

inductive Advance : Life → Life → Prop
  | close {L : Life} (h : L.stage = .idle) : Advance L (L.terminate .requested)
  | connectFailed {L L' : Life} (h : L.stage = .idle) (hround : L.NextRound L') : Advance L L'
  | connect {L : Life} (h : L.stage = .idle) :
      Advance L { L.publish (.connected L.nextEpoch) .connected with
        stage := .opened
        ended := none
        isOpen := true
        epoch := L.nextEpoch }
  | fail {L : Life} {ended : Ending} (h : L.stage = .opened) : Advance L (L.leave ended)
  | authenticate {L : Life} (h : L.stage = .opened) :
      Advance L { L.publish (.authenticated L.epoch) .authenticated with
        stage := .authenticated
        ended := none }
  | drop {L : Life} {ended : Ending} (h : L.stage = .authenticated)
      (hended : ended ≠ .authenticationFailed) : Advance L (L.leave ended)
  | reauthenticate {L : Life} (h : L.stage = .live) :
      Advance L (L.record (.lifecycle .authenticated))
  | exit {L : Life} {ended : Ending} (h : L.stage = .live)
      (hended : ended ≠ .authenticationFailed) :
      Advance L (({ L with state := .connected L.epoch }.record
        (.state (.connected L.epoch))).leave ended)
  | finish {L L' : Life} {ended : Ending} {now : Instant} (h : L.stage = .ending)
      (hended : L.ended = some ended)
      (hafter : (L.returned (ended.finish now)).AfterSession (ended.finish now) L') : Advance L L'
  | panic {L : Life} (h : L.stage ≠ .finished) (h' : L.stage ≠ .unwinding) :
      Advance L { L with stage := .unwinding, ended := none }
  | unwind {L : Life} (h : L.stage = .unwinding) :
      Advance L (L.disconnected.terminate .sessionPanicked)

/-- The barrier is passed: `Reconciled` and `Ready` are published together. -/
def ready (L : Life) : Life :=
  { (L.publish (.reconciled L.epoch) .reconciled).publish (.ready L.epoch) .ready with
    stage := .live
    ended := none }

end Life

namespace System

def life (s : System) : Life where
  stage := s.phase.stage
  ended := s.phase.sessionEnd
  isOpen := s.connectionOpen
  epoch := s.connectionEpoch
  strikes := s.invalidSignatureStrikes
  state := s.state
  log := s.history.filter Event.isMilestone

section Quiet

variable {s t : System} {loop : Loop} {config : ManagedWsConfig}

theorem filterMap_life {β : Type} {f : Event → Option β}
    (hf : ∀ event, ¬event.isMilestone = true → f event = none) :
    s.life.log.filterMap f = s.history.filterMap f := by
  rw [life, List.filterMap_filter]
  apply List.filterMap_congr
  intro event _
  by_cases h : event.isMilestone = true
  · rw [if_pos h]
  · rw [if_neg h, hf event h]

theorem life_emit {events : List Event} :
    (s.emit events).life =
      { s.life with log := s.life.log ++ events.filter Event.isMilestone } := by
  simp only [life, history, emit_trace, List.filter_append]
  rfl

theorem life_record {event : Event} (h : event.isMilestone = true) :
    (s.emit [event]).life = s.life.record event := by
  rw [life_emit, List.filter_cons_of_pos h]
  rfl

theorem life_emit_quiet {events : List Event} (h : ∀ event ∈ events, event.isMilestone = false) :
    (s.emit events).life = s.life := by
  have hnone : events.filter Event.isMilestone = [] := by
    rw [List.filter_eq_nil_iff]
    intro event he
    rw [h event he]
    exact Bool.false_ne_true
  rw [life_emit, hnone, List.append_nil]

theorem life_answer {answers : List (Waiter × Answer)} : (s.answer answers).life = s.life := by
  apply life_emit_quiet
  intro event he
  obtain ⟨entry, -, rfl⟩ := List.mem_map.mp he
  rfl

theorem life_fail {kind : ManagedWsFailureKind} {text : String} :
    (s.fail kind text).life = s.life :=
  life_emit_quiet (by simp [Event.isMilestone, ManagedWsFailure.event, ManagedWsEvent.signal])

theorem life_transitionState {state : ManagedWsState} {event : ManagedWsEvent}
    (h : event.signal.isSome = true) :
    (s.transitionState state event).life = s.life.publish state event := by
  rw [transitionState, sendEvent, life_emit, setState, life_emit]
  simp [Life.publish, Event.isMilestone, h, life]
  rfl

theorem life_stay {loop' : Loop} (h : s.phase = .live loop) : (s.stay loop').life = s.life := by
  simp only [life, stay, h]
  rfl

theorem not_milestone_of_ofHandle {event : Event} (h : event.ofHandle = true) :
    ¬event.isMilestone = true := by
  cases event with
  | called | answered | abandoned => exact Bool.false_ne_true
  | _ => cases h

theorem life_handleStep {op : HandleOp} (ht : s.handleStep config op = some t) :
    t.life = s.life := by
  have hframe := fromHandle_handleStep ht
  have hside := hframe.side
  simp only [taskSide, Prod.mk.injEq] at hside
  obtain ⟨hphase, -, -, hopen, hepoch, hstrikes, hstate⟩ := hside
  obtain ⟨entries, htrace, hentries⟩ := hframe.trace
  have hnone : (entries.map Entry.event).filter Event.isMilestone = [] := by
    rw [List.filter_eq_nil_iff]
    intro event he
    obtain ⟨entry, hentry, rfl⟩ := List.mem_map.mp he
    exact not_milestone_of_ofHandle (hentries entry hentry)
  simp only [life, history, hphase, hopen, hepoch, hstrikes, hstate, htrace, List.map_append,
    List.filter_append, hnone, List.append_nil]

theorem life_emit_effects {epoch : ℕ} {effects : List WriterEffect} :
    (s.emit (effects.flatMap (WriterEffect.events epoch))).life = s.life := by
  apply life_emit_quiet
  intro event he
  obtain ⟨effect, -, he⟩ := List.mem_flatMap.mp he
  rcases WriterEffect.events_cases he with ⟨tx, -, answer, -, rfl⟩ | ⟨c, -, rfl⟩ | ⟨f, rfl⟩
  all_goals rfl

theorem life_writerStep {op : WriterOp} (h : s.phase = .live loop)
    (ht : s.writerStep loop op = some t) : t.life = s.life := by
  unfold writerStep at ht
  split at ht
  · cases ht
  · obtain ⟨⟨writer, effects⟩, -, rfl⟩ := Option.map_eq_some_iff.mp ht
    exact life_emit_effects.trans (life_stay h)

theorem life_detachedStep {index : ℕ} {op : WriterOp} (ht : s.detachedStep index op = some t) :
    t.life = s.life := by
  obtain ⟨writer, -, ht⟩ := Option.bind_eq_some_iff.mp ht
  obtain ⟨⟨writer', effects⟩, -, rfl⟩ := Option.map_eq_some_iff.mp ht
  exact life_emit_effects

theorem life_drainTracker : s.drainTracker.life = s.life := life_answer

end Quiet

def Advances (s t : System) : Prop := ReflTransGen Life.Advance s.life t.life

section Public

variable {s t u : System} {loop : Loop} {config : ManagedWsConfig}

theorem advances_of_life (h : t.life = s.life) : Advances s t := by
  rw [Advances, h]

theorem Advances.trans (h : Advances s t) (h' : Advances t u) : Advances s u :=
  ReflTransGen.trans h h'

theorem advances_endLoop {loop' : Loop} {ended : AuthenticatedSessionEnd} {rejected : Bool}
    (h : s.phase = .live loop) : Advances s (s.endLoop loop' ended rejected) := by
  let ended' : Ending := .authenticated loop'.authenticatedAt ended
  have hlive : s.life.stage = .live := congrArg Phase.stage h
  have hended : Ending.authenticated loop'.authenticatedAt ended ≠ .authenticationFailed :=
    fun h ↦ by cases h
  have hlife : (s.endLoop loop' ended rejected).life =
      (({ s.life with state := .connected s.life.epoch } : Life).record
        (.state (.connected s.life.epoch))).leave ended' :=
    congrArg (fun L : Life ↦ L.leave ended') (life_record (s := { s with
      state := .connected s.connectionEpoch }) rfl)
  rw [Advances, hlife]
  exact .single (.exit hlive hended)

theorem advances_failLoop {loop' : Loop} {failure : SessionFailure} (h : s.phase = .live loop) :
    Advances s (s.failLoop loop' failure) := by
  unfold failLoop
  dsimp only
  split
  · exact advances_endLoop h
  · have hquiet : (s.sendEvent (.error ⟨if failure.isServerRejection then
        .server else .network, failure.detail⟩)).life = s.life :=
      life_emit_quiet (by simp [Event.isMilestone, ManagedWsEvent.signal])
    exact (advances_of_life hquiet).trans (advances_endLoop h)

theorem advances_stay {loop' : Loop} (h : s.phase = .live loop) : Advances s (s.stay loop') :=
  advances_of_life (life_stay h)

theorem advances_applyHandled {command : Option ManagedCommand} {handled : Handled}
    (h : s.phase = .live loop) : Advances s (s.applyHandled loop command handled) := by
  unfold applyHandled
  extract_lets entered loop' s'
  have hentered : ∀ event ∈ entered, event.isMilestone = false := by
    unfold entered
    cases command with
    | none => simp
    | some command =>
      dsimp only
      split <;> simp [Event.isMilestone]
  have hlife : Advances s s' := advances_of_life (life_answer.trans (life_emit_quiet hentered))
  split
  · exact hlife.trans (advances_stay (s := s') h)
  · exact hlife.trans (advances_endLoop (s := s') h)

theorem advances_commandBranch (h : s.phase = .live loop) (ht : s.commandBranch loop = some t) :
    Advances s t := by
  unfold commandBranch at ht
  extract_lets handle at ht
  split at ht
  · rename_i command queue hq
    cases ht
    have hqueue : Advances s { s with queue } := advances_of_life rfl
    exact hqueue.trans (advances_applyHandled h)
  · split at ht <;> cases ht
    exact advances_applyHandled h

theorem advances_cancelBranch (h : s.phase = .live loop) (ht : s.cancelBranch loop = some t) :
    Advances s t := by
  unfold cancelBranch at ht
  split at ht
  · cases ht
    exact advances_of_life life_answer
  · split at ht <;> cases ht
    exact advances_endLoop h

theorem advances_subscriptionWrittenBranch (h : s.phase = .live loop)
    (ht : s.subscriptionWrittenBranch config loop = some t) : Advances s t := by
  unfold subscriptionWrittenBranch at ht
  split at ht
  · dsimp only at ht
    split at ht
    · split at ht <;> cases ht <;> exact advances_stay h
    · cases ht
      exact advances_endLoop h
  · cases ht

theorem advances_pingTickBranch (h : s.phase = .live loop)
    (ht : s.pingTickBranch config loop = some t) : Advances s t := by
  unfold pingTickBranch at ht
  split at ht
  · obtain ⟨ping, -, rfl⟩ := Option.map_eq_some_iff.mp ht
    dsimp only
    split
    · exact advances_stay h
    · exact advances_stay h
    · exact advances_endLoop h
  · cases ht

theorem advances_pingWrittenBranch (h : s.phase = .live loop)
    (ht : s.pingWrittenBranch config loop = some t) : Advances s t := by
  unfold pingWrittenBranch at ht
  split at ht
  · dsimp only at ht
    split at ht <;> cases ht <;> exact advances_stay h
  · cases ht

theorem advances_fail {kind : ManagedWsFailureKind} {text : String} :
    Advances s (s.fail kind text) :=
  advances_of_life life_fail

theorem advances_deadline {deadline : Option Instant} {kind : ManagedWsFailureKind} {text : String}
    (h : s.phase = .live loop)
    (ht : (deadline.bind fun instant ↦ if instant ≤ s.time then
      some ((s.fail kind text).endLoop loop .disconnected false) else none) = some t) :
    Advances s t := by
  obtain ⟨instant, -, ht⟩ := Option.bind_eq_some_iff.mp ht
  split at ht <;> cases ht
  exact advances_fail.trans (advances_endLoop h)

theorem advances_handleSessionMessage {loop' : Loop} {message : ServerMessage}
    (h : s.phase = .live loop) : Advances s (s.handleSessionMessage loop' message) := by
  unfold handleSessionMessage
  extract_lets noted
  have hnoted : Advances s noted ∧ noted.phase = .live loop := by
    unfold noted
    split
    · have hagain : Life.Advance s.life _ := .reauthenticate (by rw [life, h]; rfl)
      refine ⟨?_, h⟩
      rw [Advances, sendEvent, life_record rfl]
      exact .single hagain
    · exact ⟨.refl, h⟩
  apply hnoted.1.trans
  split
  · exact advances_stay hnoted.2
  · split
    · exact advances_failLoop hnoted.2
    · exact advances_stay hnoted.2

theorem advances_readMessage {message : ServerMessage} (h : s.phase = .live loop) :
    Advances s (s.readMessage loop message) := by
  unfold readMessage
  extract_lets subscriptions loop₁ loop₂ taken read
  have hread : Advances s read :=
    advances_of_life (life_emit_quiet (s := { s with subscriptions, tracker := taken.2 })
      (by simp [Event.isMilestone]))
  have hanswer : Advances read
      (read.answer (taken.1.toList.map fun tx ↦ (tx, .response (.ok message)))) :=
    advances_of_life life_answer
  exact hread.trans (hanswer.trans (@advances_handleSessionMessage _ loop _ message h))

theorem life_readUnreadable {requestId : Option Uuid} :
    (s.readUnreadable requestId).life = s.life := by
  unfold readUnreadable
  extract_lets taken answers
  rw [sendEvent, life_emit_quiet (by simp [Event.isMilestone, ManagedWsEvent.signal]), life_answer]
  rfl

theorem advances_readBranch {result : ReadResult} (h : s.phase = .live loop) :
    Advances s (s.readBranch loop result) := by
  cases result with
  | ping payload =>
    simp only [readBranch]
    split
    · exact advances_stay h
    · split
      · exact advances_endLoop h
      · exact advances_stay h
  | pong => exact advances_stay h
  | message message => exact advances_readMessage h
  | unreadable requestId => exact advances_of_life life_readUnreadable
  | error detail => exact advances_fail.trans (advances_endLoop h)
  | closed => exact advances_endLoop h

theorem advances_signedBranch {result : SignResult} (h : s.phase = .live loop)
    (ht : s.signedBranch config loop result = some t) : Advances s t := by
  cases result with
  | shutdown =>
    simp only [signedBranch] at ht
    split at ht <;> cases ht
    exact advances_failLoop h
  | timedOut | failed =>
    cases ht
    exact advances_failLoop h
  | signed =>
    simp only [signedBranch] at ht
    split at ht
    · cases ht
      exact advances_failLoop h
    · split at ht <;> cases ht
      · exact advances_stay h
      · exact advances_failLoop h

theorem advances_loopStep {branch : Branch} (h : s.phase = .live loop)
    (ht : s.loopStep config loop branch = some t) : Advances s t := by
  unfold loopStep at ht
  split at ht
  · split at ht
    · exact advances_signedBranch h ht
    · cases ht
  · cases branch with
    | shutdown | writerEnded =>
      dsimp only at ht
      split at ht <;> cases ht
      exact advances_endLoop h
    | gap =>
      dsimp only at ht
      split at ht <;> cases ht
      have hgaps : Advances s ({ s with gaps := s.gaps - 1 } : System) := advances_of_life rfl
      exact hgaps.trans (advances_fail.trans (advances_endLoop h))
    | command => exact advances_commandBranch h ht
    | subscriptionWritten => exact advances_subscriptionWrittenBranch h ht
    | subscriptionDeadline | pongDeadline => exact advances_deadline h ht
    | cancel => exact advances_cancelBranch h ht
    | pingTick => exact advances_pingTickBranch h ht
    | pingWritten => exact advances_pingWrittenBranch h ht
    | read result =>
      cases ht
      exact advances_readBranch h
    | signed result => cases ht

theorem life_announce {state : ManagedWsState} {event : ManagedWsEvent} {phase : Phase}
    (h : event.signal.isSome = true) :
    ({ s.transitionState state event with phase } : System).life =
      { s.life.publish state event with stage := phase.stage, ended := phase.sessionEnd } :=
  congrArg (fun L : Life ↦ { L with stage := phase.stage, ended := phase.sessionEnd })
    (life_transitionState h)

theorem life_terminate {reason : ManagedWsTerminationReason} :
    (s.terminate reason).life = s.life.terminate reason :=
  life_announce rfl

theorem advances_close (h : s.phase.stage = .idle) : Advances s (s.terminate .requested) := by
  rw [Advances, life_terminate]
  exact .single (.close h)

theorem life_nextRound {random : UInt64} : s.life.NextRound (s.nextRound config random).life := by
  unfold nextRound
  split
  · extract_lets reported
    have hreported : reported.life = s.life.record .limitReached := by
      rw [life_record rfl, life_fail]
    have hpending : ({ reported with pendingAuthRejection := none } : System).life =
        s.life.record .limitReached := hreported
    rw [life_terminate, hpending]
    exact .giveUp
  · extract_lets next delay delayMs
    rw [life_announce rfl]
    exact .reconnect

theorem life_connectionEnded : s.connectionEnded.life = s.life.disconnected := by
  by_cases hopen : s.connectionOpen = true
  · have hlife : s.life.isOpen = true := hopen
    rw [connectionEnded, if_pos hopen, sendEvent, life_record rfl, Life.disconnected, if_pos hlife]
    rfl
  · have hlife : ¬s.life.isOpen = true := hopen
    rw [connectionEnded, if_neg hopen, Life.disconnected, if_neg hlife]

theorem life_afterSession {random : UInt64} {ended : SessionEnd} :
    s.life.AfterSession ended (s.afterSession config random ended).life := by
  cases ended with
  | closeRequested =>
    rw [afterSession, life_terminate]
    exact .closeRequested
  | authenticationFailed => exact .authenticationFailed life_nextRound
  | terminated reason =>
    simp only [afterSession]
    by_cases hstrike : isStrike reason = true
    · rw [if_pos hstrike]
      split
      · let pending : System := { s with
          invalidSignatureStrikes := s.invalidSignatureStrikes + 1
          pendingAuthRejection := some reason }
        have hlife : ∀ {text : String}, (pending.fail .auth text).life =
            { s.life with strikes := s.life.strikes + 1 } := life_fail
        apply Life.AfterSession.strike hstrike
        rw [← hlife]
        exact life_nextRound
      · rename_i hlimit
        rw [life_terminate]
        exact .terminated fun _ ↦ ⟨rfl, Nat.le_of_not_lt fun hlt ↦ hlimit ⟨hstrike, hlt⟩⟩
    · rw [if_neg hstrike, if_neg fun h ↦ hstrike h.1, life_terminate]
      exact .terminated fun h ↦ absurd h hstrike
  | disconnected authenticatedFor clearResume =>
    let reset : System := { s with
      invalidSignatureStrikes := 0
      pendingAuthRejection := none
      backoff := s.backoff.resetAfterStableSession authenticatedFor }
    exact .disconnected (life_nextRound (s := reset))

theorem advances_finish {random : UInt64} {ended : Ending} (h : s.phase = .ending ended) :
    Advances s (s.finish config random (ended.finish s.time)) := by
  let done := ended.finish s.time
  let cleared : System := { (s.emit [.sessionEnded done]).drainTracker with
    subscriptions := s.subscriptions.connectionLost }
  have hreturned : (s.emit [.sessionEnded done]).life = s.life.record (.sessionEnded done) :=
    life_record rfl
  have hcleared : cleared.life = (s.emit [.sessionEnded done]).life :=
    life_drainTracker (s := s.emit [.sessionEnded done])
  have hended : cleared.connectionEnded.life = s.life.returned done := by
    rw [life_connectionEnded, hcleared, hreturned, Life.returned]
  apply ReflTransGen.single
  refine @Life.Advance.finish _ _ ended s.time (congrArg Phase.stage h)
    (congrArg Phase.sessionEnd h) ?_
  rw [← hended]
  exact life_afterSession

theorem life_dropChannels {phase : Phase} :
    (s.dropChannels phase).life =
      { s.life with stage := phase.stage, ended := phase.sessionEnd } :=
  life_answer.trans life_drainTracker

theorem advances_panicked (h : s.phase.stage ≠ .finished) (h' : s.phase.stage ≠ .unwinding) :
    Advances s s.panicked := by
  unfold panicked
  extract_lets loose
  have hloose : loose.life = s.life := by
    unfold loose
    split <;> rfl
  rw [Advances, life_dropChannels, hloose]
  exact .single (.panic h h')

theorem advances_unwound (h : s.phase = .unwinding) : Advances s s.unwound := by
  rw [Advances, unwound, life_announce rfl, life_connectionEnded]
  exact .single (.unwind (congrArg Phase.stage h))

theorem advances_connect (h : s.phase = .connecting) : Advances s s.connect := by
  have hlife : s.connect.life = { s.life.publish (.connected s.life.nextEpoch) .connected with
      stage := .opened
      ended := none
      isOpen := true
      epoch := s.life.nextEpoch } :=
    congrArg (fun L : Life ↦ { L with stage := .opened, ended := none, isOpen := true })
      (life_transitionState (s := { s with connectionEpoch := s.life.nextEpoch }) rfl)
  rw [Advances, hlife]
  exact .single (.connect (congrArg Phase.stage h))

theorem advances_unauthenticated {kind : ManagedWsFailureKind} {text : String} {ended : Ending}
    (h : s.phase.stage = .opened) : Advances s ((s.fail kind text).endSession ended) := by
  have hfail : Advances s (s.fail kind text) := advances_fail
  exact hfail.trans (.single (.fail h))

theorem advances_authenticate {result : AuthResult} (h : s.phase = .authenticating)
    (ht : s.authenticate result = some t) : Advances s t := by
  have hstage : s.phase.stage = .opened := congrArg Phase.stage h
  rcases authenticate_cases ht with ⟨ended, rfl⟩ | ⟨text, ended, rfl⟩ | rfl
  · exact .single (.fail hstage)
  · exact advances_unauthenticated hstage
  · rw [Advances, life_announce rfl]
    exact .single (.authenticate hstage)

theorem advances_establish {authenticatedAt : Instant} {result : ReadyResult}
    (h : s.phase = .establishing authenticatedAt) (hresult : result ≠ .ready)
    (ht : s.establish config authenticatedAt result = some t) : Advances s t := by
  have hstage : s.phase.stage = .authenticated := congrArg Phase.stage h
  cases result with
  | shutdown =>
    simp only [establish] at ht
    split at ht <;> cases ht
    exact .single (.drop hstage (fun h ↦ by cases h))
  | timedOut step =>
    cases ht
    have hfail : Advances s (s.fail .readiness ("readiness barrier timed out at " ++ step)) :=
      advances_fail
    exact hfail.trans (.single (.drop hstage (fun h ↦ by cases h)))
  | failed step failure =>
    cases ht
    have hquiet : (s.sendEvent (.error ⟨.readiness,
        failure.detail.within ("readiness failed at " ++ step ++ ": ")⟩)).life = s.life :=
      life_emit_quiet (by simp [Event.isMilestone, ManagedWsEvent.signal])
    apply (advances_of_life hquiet).trans
    exact .single (.drop hstage (fun h ↦ by cases h))
  | ready => exact absurd rfl hresult

theorem advances_window {wakeup : Instant} (h : s.phase = .reconnecting wakeup)
    (ht : s.windowCommand = some t ∨ s.windowCancel = some t) : Advances s t := by
  have hclose : Advances s (s.terminate .requested) := advances_close (congrArg Phase.stage h)
  rcases ht with ht | ht
  · rcases windowCommand_cases ht with ⟨command, queue, -, rfl⟩ | rfl
    · exact advances_of_life life_answer
    · exact hclose
  · rcases windowCancel_cases ht with ⟨cancels, rfl⟩ | rfl
    · exact advances_of_life rfl
    · exact hclose

theorem advances_taskStep {op : TaskOp} (ht : s.taskStep config op = some t) :
    Advances s t ∨ ∃ authenticatedAt, s.phase = .establishing authenticatedAt ∧
      op = .establish .ready ∧ t = s.becomeReady config authenticatedAt := by
  unfold taskStep at ht
  split at ht <;> rename_i hphase
  · split at ht <;> cases ht
    exact .inl (advances_close (congrArg Phase.stage hphase))
  · cases ht
    exact .inl (advances_connect hphase)
  · rename_i detail random
    cases ht
    have hfail : Advances s (s.fail .network detail) := advances_fail
    exact .inl (hfail.trans (.single (.connectFailed (congrArg Phase.stage hphase) life_nextRound)))
  · exact .inl (advances_authenticate hphase ht)
  · rename_i authenticatedAt result
    by_cases hresult : result = .ready
    · subst hresult
      cases ht
      exact .inr ⟨authenticatedAt, hphase, rfl, rfl⟩
    · exact .inl (advances_establish hphase hresult ht)
  · cases ht
    exact .inl (advances_finish hphase)
  · split at ht <;> cases ht
    exact .inl (advances_close (congrArg Phase.stage hphase))
  · split at ht <;> cases ht
    apply Or.inl
    apply advances_of_life
    rw [life, life, hphase]
    rfl
  · exact .inl (advances_window hphase (.inr ht))
  · exact .inl (advances_window hphase (.inl ht))
  · cases ht
    apply Or.inl
    apply advances_of_life
    rw [life_dropChannels, life, hphase]
    rfl
  · cases ht
  · cases ht
  · cases ht
  · rename_i hreturning hunwinding
    cases ht
    apply Or.inl
    apply advances_panicked
    · cases hcase : s.phase with
      | returning => exact (hreturning hcase).elim
      | closed => exact (hphase hcase).elim
      | _ => simp [Phase.stage]
    · cases hcase : s.phase with
      | unwinding => exact (hunwinding hcase).elim
      | _ => simp [Phase.stage]
  · cases ht
    exact .inl (advances_unwound hphase)
  · cases ht

theorem step_advances {label : Label} (ht : s.step config label = some t) :
    Advances s t ∨ ∃ authenticatedAt, s.phase = .establishing authenticatedAt ∧
      label = .task (.establish .ready) ∧ t = s.becomeReady config authenticatedAt := by
  cases label with
  | handle op => exact .inl (advances_of_life (life_handleStep ht))
  | task op =>
    rcases advances_taskStep ht with h | ⟨authenticatedAt, hphase, rfl, rfl⟩
    · exact .inl h
    · exact .inr ⟨authenticatedAt, hphase, rfl, rfl⟩
  | branch branch =>
    simp only [step] at ht
    split at ht
    · exact .inl (advances_loopStep ‹_› ht)
    · cases ht
  | writer op =>
    simp only [step] at ht
    split at ht
    · exact .inl (advances_of_life (life_writerStep ‹_› ht))
    · cases ht
  | detached index op => exact .inl (advances_of_life (life_detachedStep ht))
  | tick elapsed =>
    cases ht
    exact .inl (advances_of_life rfl)

/-- Past the barrier only a ping that cannot be serialized keeps the loop from starting. -/
theorem life_becomeReady {authenticatedAt : Instant} :
    (s.becomeReady config authenticatedAt).life = s.life.ready ∨
      config.textLen .ping = none ∧ ∃ ended, ended ≠ .authenticationFailed ∧
        (s.becomeReady config authenticatedAt).life = s.life.ready.leave ended := by
  unfold becomeReady
  extract_lets epoch ready
  have hready : ready.life =
      (s.life.publish (.reconciled s.life.epoch) .reconciled).publish
        (.ready s.life.epoch) .ready :=
    (life_transitionState rfl).trans
      (congrArg (fun L : Life ↦ L.publish (.ready epoch) .ready) (life_transitionState rfl))
  split
  · rename_i hnone
    refine .inr ⟨Option.map_eq_none_iff.mp hnone, .authenticated authenticatedAt .disconnected,
      (fun h ↦ by cases h), ?_⟩
    have hfail : (ready.fail .server "message serialization failed").life = ready.life := life_fail
    exact congrArg (fun L : Life ↦ L.leave (.authenticated authenticatedAt .disconnected))
      (hfail.trans hready)
  · exact .inl (congrArg (fun L : Life ↦ { L with stage := .live, ended := none }) hready)

end Public

end System

end MakerSdk.Session
