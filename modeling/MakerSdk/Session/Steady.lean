import MakerSdk.Session.Run

namespace MakerSdk.Session

open Base

/-- The events that mark a turn in the life of a connection: it is opened or lost, or a reconnect
is announced. -/
def Event.isTurn : Event → Bool
  | state (.reconnecting ..) | lifecycle .connected | lifecycle .disconnected => true
  | _ => false

def Phase.authenticatedAt : Phase → Option Instant
  | establishing authenticatedAt => some authenticatedAt
  | live loop => some loop.authenticatedAt
  | ending (.authenticated authenticatedAt _) => some authenticatedAt
  | _ => none

namespace System

def pace (s : System) := (s.connectionEpoch, s.backoff, s.time)

/-- A step between two turns: the same connection, the same backoff, and a session that runs on
or is wound up. -/
structure Steady (s t : System) : Prop where
  pace : t.pace = s.pace
  trace : ∃ entries, t.trace = s.trace ++ entries ∧ ∀ entry ∈ entries, entry.event.isTurn = false
  runs : ∀ since, t.phase.authenticatedAt = some since → s.phase.authenticatedAt = some since

section Rules

variable {s t u : System} {loop loop' : Loop}

theorem Steady.time (h : Steady s t) : t.time = s.time := congrArg (·.2.2) h.pace

theorem steady_of_eq (hpace : t.pace = s.pace) (htrace : t.trace = s.trace)
    (hphase : t.phase = s.phase) : Steady s t :=
  ⟨hpace, ⟨[], by rw [htrace, List.append_nil], List.forall_mem_nil _⟩, fun _ h ↦ hphase ▸ h⟩

theorem Steady.refl (s : System) : Steady s s := steady_of_eq rfl rfl rfl

theorem Steady.trans (h : Steady s t) (h' : Steady t u) : Steady s u := by
  obtain ⟨entries, htrace, hentries⟩ := h.trace
  obtain ⟨entries', htrace', hentries'⟩ := h'.trace
  refine ⟨h'.pace.trans h.pace, ⟨entries ++ entries', ?_, ?_⟩,
    fun since hu ↦ h.runs since (h'.runs since hu)⟩
  · rw [htrace', htrace, List.append_assoc]
  · intro entry he
    exact (List.mem_append.mp he).elim (hentries entry) (hentries' entry)

theorem steady_emit {events : List Event} (h : ∀ event ∈ events, event.isTurn = false) :
    Steady s (s.emit events) := by
  refine ⟨rfl, ⟨_, rfl, fun entry he ↦ ?_⟩, fun _ h ↦ h⟩
  obtain ⟨event, hevent, rfl⟩ := List.mem_map.mp he
  exact h event hevent

theorem steady_answer {answers : List (Waiter × Answer)} : Steady s (s.answer answers) := by
  apply steady_emit
  intro event he
  obtain ⟨entry, -, rfl⟩ := List.mem_map.mp he
  rfl

theorem steady_fail {kind : ManagedWsFailureKind} {text : String} : Steady s (s.fail kind text) :=
  steady_emit (by simp [Event.isTurn, ManagedWsFailure.event])

theorem steady_setState {state : ManagedWsState} (h : (Event.state state).isTurn = false) :
    Steady s (s.setState state) := by
  have hstate : Steady s { s with state } := steady_of_eq rfl rfl rfl
  exact hstate.trans (steady_emit (by simpa using h))

theorem steady_transitionState {state : ManagedWsState} {event : ManagedWsEvent}
    (h : (Event.state state).isTurn = false) (h' : (Event.lifecycle event).isTurn = false) :
    Steady s (s.transitionState state event) :=
  (steady_setState h).trans (steady_emit (by simpa using h'))

theorem steady_leave {phase : Phase} (hruns : phase.authenticatedAt = none) :
    Steady s { s with phase } := by
  refine ⟨rfl, ⟨[], (List.append_nil _).symm, List.forall_mem_nil _⟩, fun since h ↦ ?_⟩
  cases hruns.symm.trans h

theorem steady_stay (h : s.phase = .live loop)
    (hloop : loop'.authenticatedAt = loop.authenticatedAt) : Steady s (s.stay loop') := by
  refine ⟨rfl, ⟨[], (List.append_nil _).symm, List.forall_mem_nil _⟩, fun since hs ↦ ?_⟩
  rw [h, ← hs]
  exact congrArg some hloop.symm

theorem steady_windUp {since : Instant} {ended : AuthenticatedSessionEnd}
    (h : s.phase.authenticatedAt = some since) :
    Steady s (s.endSession (.authenticated since ended)) :=
  ⟨rfl, ⟨[], (List.append_nil _).symm, List.forall_mem_nil _⟩, fun _ hs ↦ h.trans hs⟩

theorem steady_endLoop {ended : AuthenticatedSessionEnd} {rejected : Bool}
    (h : s.phase = .live loop) (hloop : loop'.authenticatedAt = loop.authenticatedAt) :
    Steady s (s.endLoop loop' ended rejected) := by
  have hstate : Steady s (s.setState (.connected s.connectionEpoch)) := steady_setState rfl
  have hsince : s.phase.authenticatedAt = some loop'.authenticatedAt := by
    rw [h, hloop]
    rfl
  have hended := @steady_windUp (s.setState (.connected s.connectionEpoch)) _ ended hsince
  exact (hstate.trans hended).trans (steady_of_eq rfl rfl rfl)

theorem steady_failLoop {failure : SessionFailure} (h : s.phase = .live loop)
    (hloop : loop'.authenticatedAt = loop.authenticatedAt) :
    Steady s (s.failLoop loop' failure) := by
  unfold failLoop
  dsimp only
  split
  · exact steady_endLoop h hloop
  · have hevent : Steady s (s.sendEvent (.error ⟨if failure.isServerRejection then
        .server else .network, failure.detail⟩)) := steady_emit (by simp [Event.isTurn])
    exact hevent.trans (steady_endLoop h hloop)

theorem steady_terminate {reason : ManagedWsTerminationReason} : Steady s (s.terminate reason) := by
  have hstate : Steady s (s.transitionState (.closed reason) (.terminated reason)) :=
    steady_transitionState rfl rfl
  exact hstate.trans (steady_leave rfl)

theorem steady_drainTracker : Steady s s.drainTracker := by
  have htracker : Steady s { s with tracker := s.tracker.drainAll.2 } := steady_of_eq rfl rfl rfl
  exact htracker.trans steady_answer

theorem steady_dropChannels {phase : Phase} (hruns : phase.authenticatedAt = none) :
    Steady s (s.dropChannels phase) := by
  have hleave : Steady s { s with phase } := steady_leave hruns
  have hclear : Steady ({ s with phase } : System)
      ({ s with queue := [], cancels := [], phase } : System) := steady_of_eq rfl rfl rfl
  exact (hleave.trans hclear).trans (steady_drainTracker.trans steady_answer)

end Rules

section Steps

variable {s t : System} {loop : Loop} {config : ManagedWsConfig}

theorem steady_call {call : Call} : Steady s (s.call config call) := by
  unfold System.call
  extract_lets tx called numbered
  have hcalled : Steady s called := by
    have hnext : Steady s { s with nextTx := tx + 1 } := steady_of_eq rfl rfl rfl
    exact hnext.trans (steady_emit (by simp [Event.isTurn]))
  have hnumbered : Steady s numbered := by
    unfold numbered
    split
    · exact hcalled.trans (steady_of_eq rfl rfl rfl)
    · exact hcalled
  split
  · exact hcalled.trans steady_answer
  split
  · exact hnumbered.trans (steady_of_eq rfl rfl rfl)
  split
  · exact hnumbered.trans steady_answer
  split
  · exact hnumbered.trans steady_answer
  · exact hnumbered.trans (steady_of_eq rfl rfl rfl)

theorem steady_handleStep {op : HandleOp} (ht : s.handleStep config op = some t) :
    Steady s t := by
  have hanswer {u : System} {answers : List (Waiter × Answer)} (h : Steady s u) :
      Steady s (u.answer answers) := h.trans steady_answer
  have habandon {u : System} {tx : Waiter} (h : Steady s u) : Steady s (u.emit [.abandoned tx]) :=
    h.trans (steady_emit (by simp [Event.isTurn]))
  cases op with
  | call call =>
    simp only [handleStep] at ht
    split at ht <;> cases ht
    exact steady_call
  | submit index =>
    obtain ⟨command, -, ht⟩ := Option.bind_eq_some_iff.mp ht
    dsimp only at ht
    split at ht
    · cases ht
      exact hanswer (steady_of_eq rfl rfl rfl)
    · split at ht <;> cases ht
      exact steady_of_eq rfl rfl rfl
  | giveUp index =>
    obtain ⟨command, -, rfl⟩ := Option.map_eq_some_iff.mp ht
    exact habandon (steady_of_eq rfl rfl rfl)
  | expire index =>
    obtain ⟨command, -, ht⟩ := Option.bind_eq_some_iff.mp ht
    cases command with
    | send => cases ht
    | sendAwait =>
      cases ht
      exact hanswer (steady_of_eq rfl rfl rfl)
  | abandon tx =>
    simp only [handleStep, abandon] at ht
    split at ht <;> cases ht
    exact habandon (steady_of_eq rfl rfl rfl)
  | timeout tx =>
    obtain ⟨awaitId, -, ht⟩ := Option.bind_eq_some_iff.mp ht
    split at ht <;> cases ht
    exact hanswer (steady_of_eq rfl rfl rfl)
  | close =>
    cases ht
    exact steady_of_eq rfl rfl rfl
  | dropHandles | reportGap =>
    simp only [handleStep] at ht
    split at ht <;> cases ht
    exact steady_of_eq rfl rfl rfl

theorem steady_emit_effects {epoch : ℕ} {effects : List WriterEffect} :
    Steady s (s.emit (effects.flatMap (WriterEffect.events epoch))) := by
  apply steady_emit
  intro event he
  obtain ⟨effect, -, he⟩ := List.mem_flatMap.mp he
  rcases WriterEffect.events_cases he with ⟨tx, -, answer, -, rfl⟩ | ⟨c, -, rfl⟩ | ⟨f, rfl⟩
  all_goals rfl

theorem receive_authenticatedAt {now : Instant} {effects : List WriterEffect} :
    (effects.foldl (Loop.receive now) loop).authenticatedAt = loop.authenticatedAt := by
  induction effects generalizing loop with
  | nil => rfl
  | cons effect effects ih =>
    rw [List.foldl_cons, ih]
    rcases effect with _ | _ | ⟨_ | _, _⟩ | _ | ⟨_ | _⟩ | _ <;> rfl

theorem steady_writerStep {op : WriterOp} (h : s.phase = .live loop)
    (ht : s.writerStep loop op = some t) : Steady s t := by
  unfold writerStep at ht
  split at ht
  · cases ht
  · obtain ⟨⟨writer, effects⟩, -, rfl⟩ := Option.map_eq_some_iff.mp ht
    have hloop : (effects.foldl (Loop.receive s.time) { loop with writer }).authenticatedAt =
        loop.authenticatedAt := receive_authenticatedAt
    exact (steady_stay h hloop).trans steady_emit_effects

theorem steady_detachedStep {index : ℕ} {op : WriterOp} (ht : s.detachedStep index op = some t) :
    Steady s t := by
  obtain ⟨writer, -, ht⟩ := Option.bind_eq_some_iff.mp ht
  obtain ⟨⟨writer', effects⟩, -, rfl⟩ := Option.map_eq_some_iff.mp ht
  have hdetached : Steady s { s with detached := s.detached.set index writer' } :=
    steady_of_eq rfl rfl rfl
  exact hdetached.trans steady_emit_effects

theorem steady_applyHandled {command : Option ManagedCommand} {handled : Handled}
    (h : s.phase = .live loop) : Steady s (s.applyHandled loop command handled) := by
  unfold applyHandled
  extract_lets entered loop' s'
  have hentered : ∀ event ∈ entered, event.isTurn = false := by
    unfold entered
    cases command with
    | none => simp
    | some command =>
      dsimp only
      split <;> simp [Event.isTurn]
  have hput : Steady s { s with
      tracker := handled.io.tracker
      subscriptions := handled.io.subscriptions } := steady_of_eq rfl rfl rfl
  have hs' : Steady s s' := hput.trans ((steady_emit hentered).trans steady_answer)
  split
  · exact hs'.trans (steady_stay (s := s') h rfl)
  · exact hs'.trans (steady_endLoop (s := s') h rfl)

theorem steady_commandBranch (h : s.phase = .live loop) (ht : s.commandBranch loop = some t) :
    Steady s t := by
  unfold commandBranch at ht
  extract_lets handle at ht
  split at ht
  · rename_i command queue hq
    cases ht
    have hqueue : Steady s { s with queue } := steady_of_eq rfl rfl rfl
    exact hqueue.trans (steady_applyHandled h)
  · split at ht <;> cases ht
    exact steady_applyHandled h

theorem steady_cancelBranch (h : s.phase = .live loop) (ht : s.cancelBranch loop = some t) :
    Steady s t := by
  unfold cancelBranch at ht
  split at ht
  · rename_i awaitId cancels hcancels
    cases ht
    have hput : Steady s { s with cancels, tracker := (s.tracker.cancel awaitId).2 } :=
      steady_of_eq rfl rfl rfl
    exact hput.trans steady_answer
  · split at ht <;> cases ht
    exact steady_endLoop h rfl

theorem steady_subscriptionWrittenBranch (h : s.phase = .live loop)
    (ht : s.subscriptionWrittenBranch config loop = some t) : Steady s t := by
  unfold subscriptionWrittenBranch at ht
  split at ht
  · dsimp only at ht
    split at ht
    · split at ht <;> cases ht <;> exact steady_stay h rfl
    · cases ht
      exact steady_endLoop h rfl
  · cases ht

theorem steady_pingTickBranch (h : s.phase = .live loop)
    (ht : s.pingTickBranch config loop = some t) : Steady s t := by
  unfold pingTickBranch at ht
  split at ht
  · obtain ⟨ping, -, rfl⟩ := Option.map_eq_some_iff.mp ht
    dsimp only
    split
    · exact steady_stay h rfl
    · exact steady_stay h rfl
    · exact steady_endLoop h rfl
  · cases ht

theorem steady_pingWrittenBranch (h : s.phase = .live loop)
    (ht : s.pingWrittenBranch config loop = some t) : Steady s t := by
  unfold pingWrittenBranch at ht
  split at ht
  · dsimp only at ht
    split at ht <;> cases ht <;> exact steady_stay h rfl
  · cases ht

theorem steady_deadline {deadline : Option Instant} {kind : ManagedWsFailureKind} {text : String}
    (h : s.phase = .live loop)
    (ht : (deadline.bind fun instant ↦ if instant ≤ s.time then
      some ((s.fail kind text).endLoop loop .disconnected false) else none) = some t) :
    Steady s t := by
  obtain ⟨instant, -, ht⟩ := Option.bind_eq_some_iff.mp ht
  split at ht <;> cases ht
  exact steady_fail.trans (steady_endLoop (s := s.fail kind text) h rfl)

theorem steady_handleSessionMessage {loop' : Loop} {message : ServerMessage}
    (h : s.phase = .live loop) (hloop : loop'.authenticatedAt = loop.authenticatedAt) :
    Steady s (s.handleSessionMessage loop' message) := by
  unfold handleSessionMessage
  extract_lets noted
  have hnoted : Steady s noted ∧ noted.phase = .live loop := by
    unfold noted
    split
    · exact ⟨steady_emit (by simp [Event.isTurn]), h⟩
    · exact ⟨.refl s, h⟩
  apply hnoted.1.trans
  split
  · exact steady_stay hnoted.2 hloop
  · split
    · exact steady_failLoop hnoted.2 hloop
    · exact steady_stay hnoted.2 hloop

theorem steady_readMessage {message : ServerMessage} (h : s.phase = .live loop) :
    Steady s (s.readMessage loop message) := by
  unfold readMessage
  extract_lets subscriptions loop₁ loop₂ taken read
  have hput : Steady s { s with subscriptions, tracker := taken.2 } := steady_of_eq rfl rfl rfl
  have hread : Steady s read := hput.trans (steady_emit (by simp [Event.isTurn]))
  have hloop₁ : loop₁.authenticatedAt = loop.authenticatedAt := by
    unfold loop₁
    split <;> rfl
  have hloop₂ : loop₂.authenticatedAt = loop.authenticatedAt := by
    unfold loop₂
    split <;> exact hloop₁
  have hanswer : Steady read
      (read.answer (taken.1.toList.map fun tx ↦ (tx, .response (.ok message)))) := steady_answer
  exact (hread.trans hanswer).trans (@steady_handleSessionMessage _ loop _ message h hloop₂)

theorem steady_readUnreadable {requestId : Option Uuid} :
    Steady s (s.readUnreadable requestId) := by
  unfold readUnreadable
  extract_lets taken answers
  have hput : Steady s { s with tracker := taken.2 } := steady_of_eq rfl rfl rfl
  exact (hput.trans steady_answer).trans (steady_emit (by simp [Event.isTurn]))

theorem steady_readBranch {result : ReadResult} (h : s.phase = .live loop) :
    Steady s (s.readBranch loop result) := by
  cases result with
  | ping payload =>
    simp only [readBranch]
    split
    · exact steady_stay h rfl
    · split
      · exact steady_endLoop h rfl
      · exact steady_stay h rfl
  | pong => exact steady_stay h rfl
  | message message => exact steady_readMessage h
  | unreadable requestId => exact steady_readUnreadable
  | error detail => exact steady_fail.trans (steady_endLoop (s := s.fail .network detail) h rfl)
  | closed => exact steady_endLoop h rfl

theorem steady_signedBranch {result : SignResult} (h : s.phase = .live loop)
    (ht : s.signedBranch config loop result = some t) : Steady s t := by
  cases result with
  | shutdown =>
    simp only [signedBranch] at ht
    split at ht <;> cases ht
    exact steady_failLoop h rfl
  | timedOut | failed =>
    cases ht
    exact steady_failLoop h rfl
  | signed =>
    simp only [signedBranch] at ht
    split at ht
    · cases ht
      exact steady_failLoop h rfl
    · split at ht <;> cases ht
      · exact steady_stay h rfl
      · exact steady_failLoop h rfl

theorem steady_loopStep {branch : Branch} (h : s.phase = .live loop)
    (ht : s.loopStep config loop branch = some t) : Steady s t := by
  unfold loopStep at ht
  split at ht
  · split at ht
    · exact steady_signedBranch h ht
    · cases ht
  · cases branch with
    | shutdown | writerEnded =>
      dsimp only at ht
      split at ht <;> cases ht
      exact steady_endLoop h rfl
    | gap =>
      dsimp only at ht
      split at ht <;> cases ht
      let fewer : System := { s with gaps := s.gaps - 1 }
      have hgaps : Steady s fewer := steady_of_eq rfl rfl rfl
      exact (hgaps.trans steady_fail).trans (steady_endLoop (s := fewer.fail .network _) h rfl)
    | command => exact steady_commandBranch h ht
    | subscriptionWritten => exact steady_subscriptionWrittenBranch h ht
    | subscriptionDeadline | pongDeadline => exact steady_deadline h ht
    | cancel => exact steady_cancelBranch h ht
    | pingTick => exact steady_pingTickBranch h ht
    | pingWritten => exact steady_pingWrittenBranch h ht
    | read result =>
      cases ht
      exact steady_readBranch h
    | signed result => cases ht

theorem steady_authenticate {result : AuthResult} (hresult : result ≠ .authenticated)
    (ht : s.authenticate result = some t) : Steady s t := by
  cases result with
  | shutdown =>
    simp only [authenticate] at ht
    split at ht <;> cases ht
    exact steady_leave rfl
  | timedOut | failed | terminated =>
    cases ht
    exact steady_fail.trans (steady_leave rfl)
  | authenticated => exact absurd rfl hresult

theorem steady_establish {since : Instant} {result : ReadyResult}
    (h : s.phase = .establishing since) (ht : s.establish config since result = some t) :
    Steady s t := by
  have hsince : s.phase.authenticatedAt = some since := congrArg Phase.authenticatedAt h
  cases result with
  | shutdown =>
    simp only [establish] at ht
    split at ht <;> cases ht
    exact steady_leave rfl
  | timedOut step =>
    cases ht
    exact steady_fail.trans (steady_windUp (s := s.fail _ _) hsince)
  | failed step failure =>
    cases ht
    have hevent : Steady s (s.sendEvent (.error ⟨.readiness,
        failure.detail.within ("readiness failed at " ++ step ++ ": ")⟩)) :=
      steady_emit (by simp [Event.isTurn])
    exact hevent.trans (steady_windUp (s := s.sendEvent _) hsince)
  | ready =>
    cases ht
    unfold becomeReady
    extract_lets epoch ready
    have hready : Steady s ready :=
      (steady_transitionState rfl rfl).trans (steady_transitionState rfl rfl)
    apply hready.trans
    split
    · exact steady_fail.trans (@steady_windUp (ready.fail _ _) _ .disconnected hsince)
    · exact ⟨rfl, ⟨[], (List.append_nil _).symm, List.forall_mem_nil _⟩, fun _ h ↦ hsince.trans h⟩

theorem steady_window (ht : s.windowCommand = some t ∨ s.windowCancel = some t) : Steady s t := by
  rcases ht with ht | ht
  · rcases windowCommand_cases ht with ⟨command, queue, -, rfl⟩ | rfl
    · have hqueue : Steady s { s with queue } := steady_of_eq rfl rfl rfl
      exact hqueue.trans steady_answer
    · exact steady_terminate
  · rcases windowCancel_cases ht with ⟨cancels, rfl⟩ | rfl
    · exact steady_of_eq rfl rfl rfl
    · exact steady_terminate

theorem steady_panicked : Steady s s.panicked := by
  unfold panicked
  extract_lets loose
  have hloose : Steady s loose := by
    unfold loose
    split
    · exact steady_of_eq rfl rfl rfl
    · exact .refl s
  exact hloose.trans (steady_dropChannels rfl)

def isTurn : Label → Bool
  | .tick _ | .task .connect | .task (.connectFailed ..) | .task (.authenticate .authenticated)
  | .task (.finish _) | .task .unwound => true
  | _ => false

inductive Turn (config : ManagedWsConfig) (s : System) : Label → System → Prop
  | tick {elapsed : Instant} : Turn config s (.tick elapsed) { s with time := s.time + elapsed }
  | connect (h : s.phase = .connecting) : Turn config s (.task .connect) s.connect
  | connectFailed {detail : String} {random : UInt64} (h : s.phase = .connecting) :
      Turn config s (.task (.connectFailed detail random))
        ((s.fail .network detail).nextRound config random)
  | authenticated (h : s.phase = .authenticating) :
      Turn config s (.task (.authenticate .authenticated))
        { s.transitionState (.authenticated s.connectionEpoch) .authenticated with
          phase := .establishing s.time }
  | finish {random : UInt64} {ended : Ending} (h : s.phase = .ending ended) :
      Turn config s (.task (.finish random)) (s.finish config random (ended.finish s.time))
  | unwound (h : s.phase = .unwinding) : Turn config s (.task .unwound) s.unwound

theorem taskStep_steady {op : TaskOp} (ht : s.taskStep config op = some t) :
    Steady s t ∧ isTurn (.task op) = false ∨ Turn config s (.task op) t := by
  -- the cases come in the order of the definition
  unfold taskStep at ht
  split at ht <;> rename_i hphase
  · split at ht <;> cases ht
    exact .inl ⟨steady_terminate, rfl⟩
  · cases ht
    exact .inr (.connect hphase)
  · cases ht
    exact .inr (.connectFailed hphase)
  · rename_i result
    by_cases hresult : result = .authenticated
    · subst hresult
      cases ht
      exact .inr (.authenticated hphase)
    · refine .inl ⟨steady_authenticate hresult ht, ?_⟩
      cases result with
      | authenticated => exact absurd rfl hresult
      | _ => rfl
  · exact .inl ⟨steady_establish hphase ht, rfl⟩
  · cases ht
    exact .inr (.finish hphase)
  · split at ht <;> cases ht
    exact .inl ⟨steady_terminate, rfl⟩
  · split at ht <;> cases ht
    exact .inl ⟨steady_leave rfl, rfl⟩
  · exact .inl ⟨steady_window (.inr ht), rfl⟩
  · exact .inl ⟨steady_window (.inl ht), rfl⟩
  · cases ht
    exact .inl ⟨steady_dropChannels rfl, rfl⟩
  · cases ht
  · cases ht
  · cases ht
  · cases ht
    exact .inl ⟨steady_panicked, rfl⟩
  · cases ht
    exact .inr (.unwound hphase)
  · cases ht

theorem step_steady {label : Label} (ht : s.step config label = some t) :
    Steady s t ∧ isTurn label = false ∨ Turn config s label t := by
  cases label with
  | handle op => exact .inl ⟨steady_handleStep ht, rfl⟩
  | task op => exact taskStep_steady ht
  | branch branch =>
    simp only [step] at ht
    split at ht
    · exact .inl ⟨steady_loopStep ‹_› ht, rfl⟩
    · cases ht
  | writer op =>
    simp only [step] at ht
    split at ht
    · exact .inl ⟨steady_writerStep ‹_› ht, rfl⟩
    · cases ht
  | detached index op => exact .inl ⟨steady_detachedStep ht, rfl⟩
  | tick elapsed =>
    cases ht
    exact .inr .tick

end Steps

end System

end MakerSdk.Session
