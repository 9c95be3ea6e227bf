import MakerSdk.Session.Ledger
import MakerSdk.Session.Run

namespace MakerSdk.Session

open Base Relation

def ManagedCommand.ticket (command : ManagedCommand) : Waiter × Option ℕ :=
  (command.tx, command.connectionEpoch)

namespace System

def writers (s : System) : List Writer :=
  match s.phase with
  | .live loop => loop.writer :: s.detached
  | _ => s.detached

def held (s : System) : List Waiter := s.writers.flatMap Writer.callers ++ s.tracker.waiters

def ledger (s : System) : Ledger where
  history := s.trace.map Entry.event
  state := s.state
  next := s.nextTx
  waiting := ↑((s.sending ++ s.queue).map ManagedCommand.ticket)
  held := { tx | tx ∈ s.held }
  gone := { tx | tx ∈ s.dropped }

/-- The writer of the running session is the one of the current connection, and a command
channel that is closed is empty. -/
def Kept (s : System) : Prop :=
  (∀ loop, s.phase = .live loop → loop.writer.epoch = s.connectionEpoch) ∧
    (s.phase.channelClosed = true → s.queue = [])

theorem kept_of_phase {s : System} (hlive : ∀ loop, s.phase ≠ .live loop)
    (hopen : s.phase.channelClosed = false) : s.Kept := by
  refine ⟨fun loop h ↦ absurd h (hlive loop), fun h ↦ ?_⟩
  rw [hopen] at h
  cases h

theorem Kept.dequeue {s : System} {command : ManagedCommand} {queue : List ManagedCommand}
    (hs : s.Kept) (hq : s.queue = command :: queue) : ({ s with queue } : System).Kept := by
  refine ⟨hs.1, fun h ↦ ?_⟩
  rw [hs.2 h] at hq
  cases hq

structure Aside (s t : System) : Prop where
  sending : t.sending = s.sending
  queue : t.queue = s.queue
  dropped : t.dropped = s.dropped
  nextTx : t.nextTx = s.nextTx
  held : t.held ⊆ s.held
  trace : ∃ events, t.trace.map Entry.event = s.trace.map Entry.event ++ events ∧
    (∀ event ∈ events, event.Aside { tx | tx ∈ s.held }) ∧
    t.state = events.foldl Event.publish s.state
  kept : s.Kept → t.Kept

theorem callers_subset_held {s : System} {writer : Writer} (h : writer ∈ s.writers) :
    writer.callers ⊆ s.held := by
  intro tx htx
  exact List.mem_append_left _ (List.mem_flatMap.mpr ⟨writer, h, htx⟩)

theorem waiters_subset_held {s : System} : s.tracker.waiters ⊆ s.held :=
  List.subset_append_right _ _

theorem held_subset {s t : System} (hw : ∀ writer ∈ t.writers, writer.callers ⊆ s.held)
    (ht : t.tracker.waiters ⊆ s.held) : t.held ⊆ s.held := by
  intro tx htx
  rcases List.mem_append.mp htx with htx | htx
  · obtain ⟨writer, hm, htx⟩ := List.mem_flatMap.mp htx
    exact hw writer hm htx
  · exact ht htx

theorem mem_writers {s : System} {writer : Writer} :
    writer ∈ s.writers ↔ (∃ loop, s.phase = .live loop ∧ writer = loop.writer) ∨
      writer ∈ s.detached := by
  unfold writers
  cases s.phase with
  | live loop => simp
  | connecting | authenticating | establishing | ending | reconnecting | returning | unwinding
  | closed => simp

theorem Aside.move {s t : System} (h : Aside s t) : Move s.ledger t.ledger := by
  obtain ⟨events, htrace, hevents, hstate⟩ := h.trace
  have hm := @Move.aside s.ledger events { tx | tx ∈ t.held } hevents (fun tx htx ↦ h.held htx)
  have ht : t.ledger = { s.ledger with
      history := s.ledger.history ++ events
      state := events.foldl Event.publish s.ledger.state
      held := { tx | tx ∈ t.held } } := by
    simp only [ledger, htrace, hstate, h.sending, h.queue, h.dropped, h.nextTx]
  rw [ht]
  exact hm

theorem Aside.refl (s : System) : Aside s s :=
  ⟨rfl, rfl, rfl, rfl, fun _ h ↦ h, ⟨[], by simp, by simp, rfl⟩, id⟩

theorem Aside.trans {s t u : System} (h : Aside s t) (h' : Aside t u) : Aside s u := by
  obtain ⟨events, htrace, hevents, hstate⟩ := h.trace
  obtain ⟨events', htrace', hevents', hstate'⟩ := h'.trace
  refine ⟨h'.sending.trans h.sending, h'.queue.trans h.queue, h'.dropped.trans h.dropped,
    h'.nextTx.trans h.nextTx, fun tx htx ↦ h.held (h'.held htx),
    ⟨events ++ events', ?_, ?_, ?_⟩, fun hs ↦ h'.kept (h.kept hs)⟩
  · rw [htrace', htrace, List.append_assoc]
  · intro event he
    rcases List.mem_append.mp he with he | he
    · exact hevents event he
    · have ha := hevents' event he
      cases event with
      | answered tx answer => exact ⟨h.held ha.1, ha.2⟩
      | called | abandoned | enqueued => exact ha
      | state | lifecycle | wrote | read | sessionEnded | limitReached => trivial
  · rw [hstate', hstate, List.foldl_append]

theorem Aside.of_held {s t : System} (hsending : t.sending = s.sending) (hqueue : t.queue = s.queue)
    (hdropped : t.dropped = s.dropped) (hnext : t.nextTx = s.nextTx) (hstate : t.state = s.state)
    (htrace : t.trace = s.trace) (hheld : t.held ⊆ s.held) (hkept : s.Kept → t.Kept) :
    Aside s t :=
  ⟨hsending, hqueue, hdropped, hnext, hheld, ⟨[], by simp [htrace], by simp, hstate⟩, hkept⟩

section Ops

variable {s : System} {loop : Loop}

@[simp] theorem emit_trace {events : List Event} :
    (s.emit events).trace.map Entry.event = s.trace.map Entry.event ++ events := by
  simp [emit, Function.comp_def]

theorem aside_emit {events : List Event}
    (hevents : ∀ event ∈ events, event.Aside { tx | tx ∈ s.held })
    (hpublish : events.foldl Event.publish s.state = s.state) : Aside s (s.emit events) :=
  ⟨rfl, rfl, rfl, rfl, fun _ h ↦ h, ⟨events, emit_trace, hevents, hpublish.symm⟩, id⟩

theorem aside_sendEvent {event : ManagedWsEvent} : Aside s (s.sendEvent event) :=
  aside_emit (by simp [Event.Aside]) rfl

theorem aside_setState {state : ManagedWsState} : Aside s (s.setState state) :=
  ⟨rfl, rfl, rfl, rfl, fun _ h ↦ h, ⟨[.state state], emit_trace, by simp [Event.Aside], rfl⟩, id⟩

theorem aside_transitionState {state : ManagedWsState} {event : ManagedWsEvent} :
    Aside s (s.transitionState state event) :=
  aside_setState.trans aside_sendEvent

variable {answers : List (Waiter × Answer)}

theorem foldl_publish_answers {state : ManagedWsState} :
    (answers.map fun entry ↦ Event.answered entry.1 entry.2).foldl Event.publish state = state := by
  induction answers with
  | nil => rfl
  | cons entry answers ih => exact ih

theorem aside_answer (h : ∀ entry ∈ answers, Owed s.held entry) : Aside s (s.answer answers) := by
  refine aside_emit (fun event he ↦ ?_) foldl_publish_answers
  obtain ⟨entry, ha, rfl⟩ := List.mem_map.mp he
  exact h entry ha

theorem mem_writers_live (h : s.phase = .live loop) : loop.writer ∈ s.writers :=
  mem_writers.mpr (.inl ⟨loop, h, rfl⟩)

theorem mem_writers_of_detached {writer : Writer} (h : writer ∈ s.detached) :
    writer ∈ s.writers :=
  mem_writers.mpr (.inr h)

theorem aside_parts {phase : Phase} {detached : List Writer} {tracker : AwaitTracker}
    (hw : ∀ writer ∈ ({ s with phase, detached, tracker } : System).writers,
      writer.callers ⊆ s.held) (ht : tracker.waiters ⊆ s.held)
    (hkept : s.Kept → ({ s with phase } : System).Kept) :
    Aside s { s with phase, detached, tracker } :=
  .of_held rfl rfl rfl rfl rfl rfl (held_subset hw ht) hkept

theorem aside_private {cancels : List ℕ} {gaps : ℕ} {connectionOpen : Bool}
    {subscriptions : DesiredSubscriptions} {backoff : ReconnectBackoff}
    {invalidSignatureStrikes : ℕ} {pendingAuthRejection : Option ManagedWsTerminationReason} :
    Aside s { s with
      cancels
      gaps
      connectionOpen
      subscriptions
      backoff
      invalidSignatureStrikes
      pendingAuthRejection } :=
  .of_held rfl rfl rfl rfl rfl rfl (fun _ h ↦ h) id

theorem aside_phase {phase : Phase} (h : ∀ loop, phase ≠ .live loop)
    (hclosed : s.Kept → phase.channelClosed = true → s.queue = []) :
    Aside s { s with phase } := by
  refine aside_parts (fun writer hw ↦ ?_) waiters_subset_held
    (fun hs ↦ ⟨fun loop hl ↦ absurd hl (h loop), hclosed hs⟩)
  rcases mem_writers.mp hw with ⟨loop, hl, -⟩ | hd
  · exact absurd hl (h loop)
  · exact callers_subset_held (mem_writers_of_detached hd)

theorem aside_leave {phase : Phase} (h : ∀ loop, phase ≠ .live loop)
    (hopen : phase.channelClosed = false) : Aside s { s with phase } := by
  refine aside_phase h (fun _ hc ↦ ?_)
  rw [hopen] at hc
  cases hc

theorem aside_stay {loop' : Loop} (h : s.phase = .live loop)
    (hw : loop'.writer.callers ⊆ loop.writer.callers)
    (he : loop'.writer.epoch = loop.writer.epoch) : Aside s (s.stay loop') := by
  refine aside_parts (fun writer hm ↦ ?_) waiters_subset_held
    (fun hs ↦ ⟨fun loop'' hl ↦ ?_, fun hc ↦ by cases hc⟩)
  rotate_left
  · cases hl
    exact he.trans (hs.1 loop h)
  rcases List.mem_cons.mp hm with rfl | hm
  · exact List.Subset.trans hw (callers_subset_held (mem_writers_live h))
  · exact callers_subset_held (mem_writers_of_detached hm)

theorem aside_fail {kind : ManagedWsFailureKind} {text : String} : Aside s (s.fail kind text) :=
  aside_sendEvent

theorem aside_tracker {tracker : AwaitTracker} (ht : tracker.waiters ⊆ s.tracker.waiters)
    (ha : ∀ entry ∈ answers, Owed s.tracker.waiters entry) :
    Aside s ({ s with tracker }.answer answers) := by
  have hanswer : Aside s (s.answer answers) :=
    aside_answer (fun entry h ↦ ⟨waiters_subset_held (ha entry h).1, (ha entry h).2⟩)
  apply hanswer.trans
  exact aside_parts (s := s.answer answers) (fun writer hw ↦ callers_subset_held hw)
    (fun tx htx ↦ waiters_subset_held (ht htx)) id

theorem aside_drainTracker : Aside s s.drainTracker := by
  apply aside_tracker (List.nil_subset _)
  intro entry ha
  obtain ⟨tx, htx, rfl⟩ := List.mem_map.mp ha
  exact ⟨htx, rfl⟩

theorem aside_connectionEnded : Aside s s.connectionEnded := by
  unfold connectionEnded
  split
  · have h : Aside s ({ s with connectionOpen := false } : System) := aside_private
    exact h.trans aside_sendEvent
  · exact .refl s

theorem aside_terminate {reason : ManagedWsTerminationReason} : Aside s (s.terminate reason) :=
  aside_transitionState.trans (aside_leave (fun _ h ↦ by cases h) rfl)

theorem release_callers {writer : Writer} {command : Option WriterCommand}
    (h : ∀ c ∈ command, c.callers = []) : (release writer command).callers ⊆ writer.callers := by
  cases command with
  | none => exact fun _ h ↦ h
  | some command =>
    simp only [release, Option.elim_some]
    split
    · rename_i writer' he
      have hc := Writer.enqueue_callers he
      rw [h command rfl, List.nil_append] at hc
      exact hc
    · exact fun _ h ↦ h

theorem farewell_callers {rejected : Bool} {ended : AuthenticatedSessionEnd} :
    ∀ c ∈ farewell rejected ended, c.callers = [] := by
  cases ended <;> cases rejected <;> simp [farewell, WriterCommand.callers]

theorem aside_endLoop {loop' : Loop} {ended : AuthenticatedSessionEnd} {rejected : Bool}
    (h : s.phase = .live loop) (hw : loop'.writer.callers ⊆ loop.writer.callers) :
    Aside s (s.endLoop loop' ended rejected) := by
  have hloop : loop'.writer.callers ⊆ s.held :=
    List.Subset.trans hw (callers_subset_held (mem_writers_live h))
  have hstate : Aside s (s.setState (.connected s.connectionEpoch)) := aside_setState
  apply hstate.trans
  refine aside_parts (fun writer hm ↦ ?_) waiters_subset_held
    (fun _ ↦ kept_of_phase (fun _ h ↦ by cases h) rfl)
  rcases List.mem_cons.mp hm with rfl | hm
  · exact List.Subset.trans (release_callers farewell_callers) hloop
  · exact callers_subset_held (mem_writers_of_detached hm)

theorem aside_failLoop {loop' : Loop} {failure : SessionFailure} (h : s.phase = .live loop)
    (hw : loop'.writer.callers ⊆ loop.writer.callers) : Aside s (s.failLoop loop' failure) := by
  unfold failLoop
  dsimp only
  split
  · exact aside_endLoop h hw
  · exact aside_sendEvent.trans (aside_endLoop h hw)

variable {t : System}

theorem aside_cancelBranch (h : s.phase = .live loop) (ht : s.cancelBranch loop = some t) :
    Aside s t := by
  unfold cancelBranch at ht
  split at ht
  · rename_i awaitId cancels hc
    cases ht
    have hcancels : Aside s ({ s with cancels } : System) := aside_private
    apply hcancels.trans
    apply aside_tracker AwaitTracker.cancel_waiters
    intro entry ha
    obtain ⟨tx, htx, rfl⟩ := List.mem_map.mp ha
    exact ⟨AwaitTracker.cancel_fst (Option.mem_toList.mp htx), rfl⟩
  · split at ht <;> cases ht
    exact aside_endLoop h (fun _ h ↦ h)

variable {config : ManagedWsConfig}

theorem aside_subscriptionWrittenBranch (h : s.phase = .live loop)
    (ht : s.subscriptionWrittenBranch config loop = some t) : Aside s t := by
  unfold subscriptionWrittenBranch at ht
  split at ht
  · dsimp only at ht
    split at ht
    · split at ht <;> cases ht <;> exact aside_stay h (fun _ h ↦ h) rfl
    · cases ht
      exact aside_endLoop h (fun _ h ↦ h)
  · cases ht

theorem frame_callers {writer writer' : Writer} {message : PreparedClientMessage}
    {done : Option WriteResult} (hd : ∀ tx, done ≠ some (.caller tx))
    (h : writer.frame message done = .ok writer') : writer'.callers ⊆ writer.callers := by
  rw [Writer.frame, Writer.frameWithReceipt, Checks.mapError_ok] at h
  have hc := Writer.enqueue_callers h
  have hnone : (WriterCommand.frame message done none).callers = [] := by
    rcases done with _ | ⟨tx⟩ | ⟨ticket⟩
    · rfl
    · exact absurd rfl (hd tx)
    · rfl
  rw [hnone, List.nil_append] at hc
  exact hc

theorem frame_epoch {writer writer' : Writer} {message : PreparedClientMessage}
    {done : Option WriteResult} (h : writer.frame message done = .ok writer') :
    writer'.epoch = writer.epoch := by
  rw [Writer.frame, Writer.frameWithReceipt, Checks.mapError_ok] at h
  exact (Writer.enqueue_task h).1

theorem aside_pingTickBranch (h : s.phase = .live loop)
    (ht : s.pingTickBranch config loop = some t) : Aside s t := by
  unfold pingTickBranch at ht
  split at ht
  · obtain ⟨ping, -, rfl⟩ := Option.map_eq_some_iff.mp ht
    dsimp only
    split
    · rename_i writer hframe
      exact aside_stay h (frame_callers (fun _ h ↦ by cases h) hframe) (frame_epoch hframe)
    · exact aside_stay h (fun _ h ↦ h) rfl
    · exact aside_endLoop h (fun _ h ↦ h)
  · cases ht

theorem aside_pingWrittenBranch (h : s.phase = .live loop)
    (ht : s.pingWrittenBranch config loop = some t) : Aside s t := by
  unfold pingWrittenBranch at ht
  split at ht
  · dsimp only at ht
    split at ht <;> cases ht <;> exact aside_stay h (fun _ h ↦ h) rfl
  · cases ht

theorem aside_pongDeadlineBranch (h : s.phase = .live loop)
    (ht : s.pongDeadlineBranch loop = some t) : Aside s t := by
  obtain ⟨deadline, -, ht⟩ := Option.bind_eq_some_iff.mp ht
  split at ht <;> cases ht
  exact aside_fail.trans (aside_endLoop h (fun _ h ↦ h))

theorem aside_subscriptionDeadlineBranch (h : s.phase = .live loop)
    (ht : s.subscriptionDeadlineBranch loop = some t) : Aside s t := by
  obtain ⟨deadline, -, ht⟩ := Option.bind_eq_some_iff.mp ht
  split at ht <;> cases ht
  exact aside_fail.trans (aside_endLoop h (fun _ h ↦ h))

theorem aside_handleSessionMessage {loop' : Loop} {message : ServerMessage}
    (h : s.phase = .live loop) (hw : loop'.writer = loop.writer) :
    Aside s (s.handleSessionMessage loop' message) := by
  have hcallers : loop'.writer.callers ⊆ loop.writer.callers := by
    rw [hw]
    exact fun _ h ↦ h
  unfold handleSessionMessage
  extract_lets noted
  have hnoted : Aside s noted ∧ noted.phase = .live loop := by
    unfold noted
    split
    · exact ⟨aside_sendEvent, h⟩
    · exact ⟨.refl s, h⟩
  apply hnoted.1.trans
  split
  · exact aside_stay hnoted.2 hcallers (congrArg Writer.epoch hw)
  · split
    · exact aside_failLoop hnoted.2 hcallers
    · exact aside_stay hnoted.2 hcallers (congrArg Writer.epoch hw)

theorem aside_readMessage {message : ServerMessage} (h : s.phase = .live loop) :
    Aside s (s.readMessage loop message) := by
  unfold readMessage
  extract_lets subscriptions loop₁ loop₂ taken read
  have hread : Aside s (s.emit [.read message]) := aside_emit (by simp [Event.Aside]) rfl
  have hsub : Aside (s.emit [.read message])
      ({ s with subscriptions }.emit [.read message]) := aside_private
  have htaken : Aside ({ s with subscriptions }.emit [.read message])
      (read.answer (taken.1.toList.map fun tx ↦ (tx, .response (.ok message)))) := by
    apply aside_tracker AwaitTracker.takeForMessage_waiters
    intro entry ha
    obtain ⟨tx, htx, rfl⟩ := List.mem_map.mp ha
    exact ⟨AwaitTracker.takeForMessage_fst (Option.mem_toList.mp htx), rfl⟩
  have hloop : loop₂.writer = loop.writer := by
    unfold loop₂ loop₁
    split <;> split <;> rfl
  have hphase : (read.answer (taken.1.toList.map fun tx ↦ (tx, .response (.ok message)))).phase =
      .live loop := h
  apply hread.trans (hsub.trans (htaken.trans _))
  exact aside_handleSessionMessage hphase hloop

theorem aside_readUnreadable {requestId : Option Uuid} : Aside s (s.readUnreadable requestId) := by
  unfold readUnreadable
  extract_lets taken answers
  refine Aside.trans (aside_tracker ?_ ?_) aside_sendEvent
  · cases requestId with
    | none => exact fun _ h ↦ h
    | some requestId => exact AwaitTracker.takeForKey_waiters
  · intro entry ha
    obtain ⟨tx, htx, rfl⟩ := List.mem_map.mp ha
    cases requestId with
    | none => cases htx
    | some requestId => exact ⟨AwaitTracker.takeForKey_fst (Option.mem_toList.mp htx), rfl⟩

theorem aside_readBranch {result : ReadResult} (h : s.phase = .live loop) :
    Aside s (s.readBranch loop result) := by
  cases result with
  | ping payload =>
    simp only [readBranch]
    split
    · rename_i writer hpong
      exact aside_stay h (Writer.enqueue_callers hpong) (Writer.enqueue_task hpong).1
    · split
      · exact aside_endLoop h (fun _ h ↦ h)
      · exact aside_stay h (fun _ h ↦ h) rfl
  | pong => exact aside_stay h (fun _ h ↦ h) rfl
  | message message => exact aside_readMessage h
  | unreadable requestId => exact aside_readUnreadable
  | error detail => exact aside_fail.trans (aside_endLoop h (fun _ h ↦ h))
  | closed => exact aside_endLoop h (fun _ h ↦ h)

theorem aside_signedBranch {result : SignResult} (h : s.phase = .live loop)
    (ht : s.signedBranch config loop result = some t) : Aside s t := by
  cases result with
  | shutdown =>
    simp only [signedBranch] at ht
    split at ht <;> cases ht
    exact aside_failLoop h (fun _ h ↦ h)
  | timedOut | failed =>
    cases ht
    exact aside_failLoop h (fun _ h ↦ h)
  | signed =>
    simp only [signedBranch] at ht
    split at ht
    · cases ht
      exact aside_failLoop h (fun _ h ↦ h)
    · split at ht
      · rename_i frame hf writer hframe
        cases ht
        exact aside_stay h (frame_callers (fun _ h ↦ by cases h) hframe) (frame_epoch hframe)
      · cases ht
        exact aside_failLoop h (fun _ h ↦ h)

theorem aside_loopStep {branch : Branch} (h : s.phase = .live loop) (hb : branch ≠ .command)
    (ht : s.loopStep config loop branch = some t) : Aside s t := by
  unfold loopStep at ht
  split at ht
  · split at ht
    · exact aside_signedBranch h ht
    · cases ht
  · cases branch with
    | shutdown | writerEnded =>
      dsimp only at ht
      split at ht <;> cases ht
      exact aside_endLoop h (fun _ h ↦ h)
    | gap =>
      dsimp only at ht
      split at ht <;> cases ht
      have hgaps : Aside s ({ s with gaps := s.gaps - 1 } : System) := aside_private
      exact hgaps.trans (aside_fail.trans (aside_endLoop h (fun _ h ↦ h)))
    | command => exact absurd rfl hb
    | subscriptionWritten => exact aside_subscriptionWrittenBranch h ht
    | subscriptionDeadline => exact aside_subscriptionDeadlineBranch h ht
    | cancel => exact aside_cancelBranch h ht
    | pingTick => exact aside_pingTickBranch h ht
    | pingWritten => exact aside_pingWrittenBranch h ht
    | pongDeadline => exact aside_pongDeadlineBranch h ht
    | read result =>
      cases ht
      exact aside_readBranch h
    | signed result => cases ht

theorem foldl_publish_of_forall {events : List Event} {state : ManagedWsState}
    (h : ∀ event ∈ events, ∀ state, Event.publish state event = state) :
    events.foldl Event.publish state = state := by
  induction events with
  | nil => rfl
  | cons event events ih =>
    rw [List.foldl_cons, h event List.mem_cons_self]
    exact ih (fun event he ↦ h event (List.mem_cons_of_mem _ he))

theorem aside_emit_effects {epoch : ℕ} {effects : List WriterEffect}
    (h : effects.flatMap WriterEffect.callers ⊆ s.held)
    (hrefusal : ∀ effect ∈ effects, effect.isRefusal = false) :
    Aside s (s.emit (effects.flatMap (WriterEffect.events epoch))) := by
  apply aside_emit
  · intro event he
    obtain ⟨effect, hm, he⟩ := List.mem_flatMap.mp he
    rcases WriterEffect.events_cases he with ⟨tx, htx, answer, ha, rfl⟩ | ⟨c, -, rfl⟩ | ⟨l, rfl⟩
    · exact ⟨h (List.mem_flatMap.mpr ⟨effect, hm, htx⟩), ha.trans (hrefusal effect hm)⟩
    · trivial
    · trivial
  · apply foldl_publish_of_forall
    intro event he state
    obtain ⟨effect, hm, he⟩ := List.mem_flatMap.mp he
    rcases WriterEffect.events_cases he with ⟨tx, -, answer, -, rfl⟩ | ⟨c, -, rfl⟩ | ⟨l, rfl⟩
    all_goals rfl

theorem aside_writerStep {op : WriterOp} (h : s.phase = .live loop)
    (ht : s.writerStep loop op = some t) : Aside s t := by
  unfold writerStep at ht
  split at ht
  · cases ht
  obtain ⟨⟨writer, effects⟩, hstep, rfl⟩ := Option.map_eq_some_iff.mp ht
  have hwriter := Writer.callers_subset (Writer.step_commands hstep)
  have heffects := Writer.step_effects hstep
  have hemit : Aside s (s.emit (effects.flatMap (WriterEffect.events loop.writer.epoch))) :=
    aside_emit_effects (List.Subset.trans heffects (callers_subset_held (mem_writers_live h)))
      (Writer.step_isRefusal hstep)
  apply hemit.trans
  apply aside_stay (s := s.emit _) h
  · rw [Loop.receive_writer]
    exact hwriter
  · rw [Loop.receive_writer]
    exact Writer.step_epoch hstep

theorem aside_detachedStep {index : ℕ} {op : WriterOp} (ht : s.detachedStep index op = some t) :
    Aside s t := by
  obtain ⟨writer, hw, ht⟩ := Option.bind_eq_some_iff.mp ht
  obtain ⟨⟨writer', effects⟩, hstep, rfl⟩ := Option.map_eq_some_iff.mp ht
  have hwriter := Writer.callers_subset (Writer.step_commands hstep)
  have heffects := Writer.step_effects hstep
  have hmem : writer ∈ s.writers := mem_writers_of_detached (List.mem_of_getElem? hw)
  have hemit : Aside s (s.emit (effects.flatMap (WriterEffect.events writer.epoch))) :=
    aside_emit_effects (List.Subset.trans heffects (callers_subset_held hmem))
      (Writer.step_isRefusal hstep)
  apply hemit.trans
  refine aside_parts (fun other ho ↦ ?_) (waiters_subset_held (s := s)) id
  rcases mem_writers.mp ho with ⟨loop, hl, rfl⟩ | hd
  · exact callers_subset_held (s := s) (mem_writers_live hl)
  · rcases List.mem_or_eq_of_mem_set hd with hd | rfl
    · exact callers_subset_held (s := s) (mem_writers_of_detached hd)
    · exact List.Subset.trans hwriter (callers_subset_held (s := s) hmem)

theorem aside_nextRound {random : UInt64} : Aside s (s.nextRound config random) := by
  unfold nextRound
  split
  · extract_lets reported
    have hreported : Aside s reported :=
      aside_fail.trans (aside_emit (by simp [Event.Aside]) rfl)
    have hreset : Aside reported ({ reported with pendingAuthRejection := none } : System) :=
      aside_private
    exact hreported.trans (hreset.trans aside_terminate)
  · have hbackoff : Aside s ({ s with backoff := s.backoff.nextAttempt.2 } : System) :=
      aside_private
    exact hbackoff.trans (aside_transitionState.trans (aside_leave (fun _ h ↦ by cases h) rfl))

theorem aside_endSession {ended : Ending} : Aside s (s.endSession ended) :=
  aside_leave (fun _ h ↦ by cases h) rfl

theorem aside_connect : Aside s s.connect := by
  let epoch := (s.connectionEpoch + 1) % 2 ^ 64
  have hphase : Aside s { s with phase := .authenticating } :=
    aside_leave (fun _ h ↦ by cases h) rfl
  have hopen : Aside { s with phase := .authenticating } { s with
      connectionEpoch := epoch
      connectionOpen := true
      gaps := 0
      phase := .authenticating } :=
    .of_held rfl rfl rfl rfl rfl rfl (fun _ h ↦ h)
      (fun _ ↦ kept_of_phase (fun _ h ↦ by cases h) rfl)
  have hstate := @aside_transitionState { s with
      connectionEpoch := epoch
      connectionOpen := true
      gaps := 0
      phase := .authenticating } (.connected epoch) .connected
  exact hphase.trans (hopen.trans hstate)

theorem aside_authenticate {result : AuthResult} (ht : s.authenticate result = some t) :
    Aside s t := by
  rcases authenticate_cases ht with ⟨ended, rfl⟩ | ⟨text, ended, rfl⟩ | rfl
  · exact aside_endSession
  · exact aside_fail.trans aside_endSession
  · exact aside_transitionState.trans (aside_leave (fun _ h ↦ by cases h) rfl)

theorem aside_becomeReady {authenticatedAt : Instant} :
    Aside s (s.becomeReady config authenticatedAt) := by
  unfold becomeReady
  extract_lets epoch ready
  have hready : Aside s ready := aside_transitionState.trans aside_transitionState
  apply hready.trans
  split
  · exact aside_fail.trans aside_endSession
  · refine aside_parts (fun writer hm ↦ ?_) waiters_subset_held
      (fun _ ↦ ⟨fun _ h ↦ by cases h; rfl, fun h ↦ by cases h⟩)
    rcases List.mem_cons.mp hm with rfl | hm
    · exact List.nil_subset _
    · exact callers_subset_held (mem_writers_of_detached hm)

theorem aside_establish {authenticatedAt : Instant} {result : ReadyResult}
    (ht : s.establish config authenticatedAt result = some t) : Aside s t := by
  cases result with
  | shutdown =>
    simp only [establish] at ht
    split at ht <;> cases ht
    exact aside_endSession
  | timedOut =>
    cases ht
    exact aside_fail.trans aside_endSession
  | failed =>
    cases ht
    exact aside_sendEvent.trans aside_endSession
  | ready =>
    cases ht
    exact aside_becomeReady

theorem aside_afterSession {random : UInt64} {ended : SessionEnd} :
    Aside s (s.afterSession config random ended) := by
  cases ended with
  | closeRequested => exact aside_terminate
  | authenticationFailed => exact aside_nextRound
  | terminated reason =>
    simp only [afterSession]
    generalize s.invalidSignatureStrikes + (if isStrike reason then 1 else 0) = strikes
    let counted : System := { s with invalidSignatureStrikes := strikes }
    have hcounted : Aside s counted := aside_private
    have hpending : Aside counted { counted with pendingAuthRejection := some reason } :=
      aside_private
    split
    · exact hcounted.trans (hpending.trans (aside_fail.trans aside_nextRound))
    · exact hcounted.trans aside_terminate
  | disconnected authenticatedFor clearResume =>
    have hreset : Aside s ({ s with
        invalidSignatureStrikes := 0
        pendingAuthRejection := none
        backoff := s.backoff.resetAfterStableSession authenticatedFor } : System) := aside_private
    exact hreset.trans aside_nextRound

theorem aside_finish {random : UInt64} {ended : SessionEnd} :
    Aside s (s.finish config random ended) := by
  let returned := s.emit [.sessionEnded ended]
  have hreturned : Aside s returned := aside_emit (by simp [Event.Aside]) rfl
  have hlost : Aside returned.drainTracker
      ({ returned.drainTracker with subscriptions := s.subscriptions.connectionLost } : System) :=
    aside_private
  have hcleared := hreturned.trans (aside_drainTracker.trans hlost)
  exact hcleared.trans (aside_connectionEnded.trans aside_afterSession)

end Ops

end System

end MakerSdk.Session
