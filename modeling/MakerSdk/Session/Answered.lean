import MakerSdk.Session.Custody

namespace MakerSdk.Session

open Base

namespace System

variable {s t : System} {loop loop' : Loop} {config : ManagedWsConfig}

section Loop

theorem serves_cancelBranch (h : s.phase = .live loop) (ht : s.cancelBranch loop = some t) :
    Serves s t := by
  unfold cancelBranch at ht
  split at ht
  · rename_i awaitId cancels hc
    cases ht
    have hcancels : Serves s ({ s with cancels } : System) := serves_private rfl rfl rfl rfl
    refine hcancels.trans (serves_tracker_live h fun tx htx ↦ ?_)
    exact (AwaitTracker.mem_cancel awaitId htx).imp_left mem_answers
  · split at ht <;> cases ht
    exact serves_endLoop h rfl

theorem serves_subscriptionWrittenBranch (h : s.phase = .live loop)
    (ht : s.subscriptionWrittenBranch config loop = some t) : Serves s t := by
  unfold subscriptionWrittenBranch at ht
  split at ht
  · dsimp only at ht
    split at ht
    · split at ht <;> cases ht <;> exact serves_stay_same h rfl
    · cases ht
      exact serves_endLoop h rfl
  · cases ht

theorem enqueue_of_frame {writer writer' : Writer} {message : PreparedClientMessage}
    {done : Option WriteResult} (h : writer.frame message done = .ok writer') :
    writer.enqueue message.lane (.frame message done none) = .ok writer' := by
  rwa [Writer.frame, Writer.frameWithReceipt, Checks.mapError_ok] at h

theorem serves_pingTickBranch (h : s.phase = .live loop)
    (ht : s.pingTickBranch config loop = some t) : Serves s t := by
  unfold pingTickBranch at ht
  split at ht
  · obtain ⟨ping, -, rfl⟩ := Option.map_eq_some_iff.mp ht
    dsimp only
    split
    · rename_i writer hframe
      exact serves_stay_enqueue h (enqueue_of_frame hframe)
    · exact serves_stay_same h rfl
    · exact serves_endLoop h rfl
  · cases ht

theorem serves_pingWrittenBranch (h : s.phase = .live loop)
    (ht : s.pingWrittenBranch config loop = some t) : Serves s t := by
  unfold pingWrittenBranch at ht
  split at ht
  · dsimp only at ht
    split at ht <;> cases ht <;> exact serves_stay_same h rfl
  · cases ht

theorem serves_deadline {deadline : Option Instant} {text : String} {kind : ManagedWsFailureKind}
    (h : s.phase = .live loop)
    (ht : (deadline.bind fun deadline ↦
      if deadline ≤ s.time then some ((s.fail kind text).endLoop loop .disconnected false)
      else none) = some t) : Serves s t := by
  obtain ⟨deadline, -, ht⟩ := Option.bind_eq_some_iff.mp ht
  split at ht <;> cases ht
  exact serves_fail.trans (serves_endLoop h rfl)

theorem serves_handleSessionMessage {message : ServerMessage} (h : s.phase = .live loop)
    (hw : loop'.writer = loop.writer) : Serves s (s.handleSessionMessage loop' message) := by
  unfold handleSessionMessage
  extract_lets noted
  have hnoted : Serves s noted ∧ noted.phase = .live loop := by
    unfold noted
    split
    · exact ⟨serves_sendEvent, h⟩
    · exact ⟨.refl s, h⟩
  apply hnoted.1.trans
  split
  · exact serves_stay_same hnoted.2 hw
  · split
    · exact serves_failLoop hnoted.2 hw
    · exact serves_stay_same hnoted.2 hw

theorem serves_readMessage {message : ServerMessage} (h : s.phase = .live loop) :
    Serves s (s.readMessage loop message) := by
  unfold readMessage
  extract_lets subscriptions loop₁ loop₂ taken read
  let seen := ({ s with subscriptions } : System).emit [.read message]
  have hseen : Serves s seen := by
    have hsub : Serves s ({ s with subscriptions } : System) := serves_private rfl rfl rfl rfl
    exact hsub.trans (serves_emit (by simp))
  have htaken : Serves seen
      (read.answer (taken.1.toList.map fun tx ↦ (tx, .response (.ok message)))) := by
    refine serves_tracker_live h fun tx htx ↦ ?_
    exact (AwaitTracker.mem_takeForMessage htx).imp_left mem_answers
  have hloop : loop₂.writer = loop.writer := by
    unfold loop₂ loop₁
    split <;> split <;> rfl
  refine hseen.trans (htaken.trans (serves_handleSessionMessage ?_ hloop))
  exact h

theorem serves_readUnreadable {requestId : Option Uuid} (h : s.phase = .live loop) :
    Serves s (s.readUnreadable requestId) := by
  unfold readUnreadable
  extract_lets taken answers
  refine Serves.trans (serves_tracker_live h fun tx htx ↦ ?_) serves_sendEvent
  cases requestId with
  | none => exact .inr htx
  | some requestId => exact (AwaitTracker.mem_takeForKey htx).imp_left mem_answers

theorem serves_readBranch {result : ReadResult} (h : s.phase = .live loop) :
    Serves s (s.readBranch loop result) := by
  cases result with
  | ping payload =>
    simp only [readBranch]
    split
    · rename_i writer hpong
      exact serves_stay_enqueue h hpong
    · split
      · exact serves_endLoop h rfl
      · exact serves_stay_same h rfl
  | pong => exact serves_stay_same h rfl
  | message message => exact serves_readMessage h
  | unreadable requestId => exact serves_readUnreadable h
  | error detail => exact serves_fail.trans (serves_endLoop h rfl)
  | closed => exact serves_endLoop h rfl

theorem serves_signedBranch {result : SignResult} (h : s.phase = .live loop)
    (ht : s.signedBranch config loop result = some t) : Serves s t := by
  cases result with
  | shutdown =>
    simp only [signedBranch] at ht
    split at ht <;> cases ht
    exact serves_failLoop h rfl
  | timedOut | failed =>
    cases ht
    exact serves_failLoop h rfl
  | signed =>
    simp only [signedBranch] at ht
    split at ht
    · cases ht
      exact serves_failLoop h rfl
    · split at ht
      · rename_i frame hf writer hframe
        cases ht
        exact serves_stay_enqueue h (enqueue_of_frame hframe)
      · cases ht
        exact serves_failLoop h rfl

theorem dismissed_of_dropped {tx : Waiter} (hs : s.ledger.Sound) (h : tx ∈ s.dropped) :
    Dismissed s.history tx := by
  rcases hs.gone tx h with h | ⟨answer, -, h⟩
  · exact .inr h
  · exact .inl ⟨answer, h⟩

theorem emit_emit {events more : List Event} :
    (s.emit events).emit more = s.emit (events ++ more) := by
  simp [emit]

theorem mem_held_live {tx : Waiter} (h : s.phase = .live loop) :
    tx ∈ s.held ↔ tx ∈ (s.loopIo loop).held ∨ ∃ writer ∈ s.detached, tx ∈ writer.callers := by
  simp only [held, writers, h, loopIo, SessionIo.held, List.flatMap_cons, List.mem_append,
    List.mem_flatMap]
  exact or_right_comm

theorem serves_io {io : SessionIo} {events : List Event} {queue : List ManagedCommand}
    (h : s.phase = .live loop) (hw : loop'.writer = io.lanes)
    (hnew : ∀ tx epoch, .enqueued tx epoch ∈ events → tx ∈ io.held)
    (hheld : ∀ tx ∈ (s.loopIo loop).held, Dismissed (s.history ++ events) tx ∨ tx ∈ io.held)
    (htidy : loop.writer.Tidy → io.lanes.Tidy) :
    Serves s (({ s with
      queue, tracker := io.tracker, subscriptions := io.subscriptions }.emit events).stay
        loop') := by
  set t := ({ s with
    queue, tracker := io.tracker, subscriptions := io.subscriptions }.emit events).stay loop'
  have hhistory : t.history = s.history ++ events := emit_trace
  have hio : io.held ⊆ t.held := by
    intro tx htx
    have hlive : t.phase = .live loop' := rfl
    refine (mem_held_live hlive).mpr (.inl ?_)
    rwa [SessionIo.held, loopIo, hw]
  refine serves_of hhistory (fun tx epoch he ↦ hio (hnew tx epoch he)) (fun tx htx ↦ ?_)
    fun hs ↦ ⟨fun writer hm ↦ ?_, fun hc ↦ by cases hc⟩
  · rw [hhistory]
    rcases (mem_held_live h).mp htx with htx | ⟨writer, hm, htx⟩
    · exact (hheld tx htx).symm.imp_left fun htx ↦ hio htx
    · exact .inl (callers_subset_held (s := t) (mem_writers_of_detached hm) htx)
  · rcases List.mem_cons.mp hm with rfl | hm
    · rw [hw]
      exact htidy (hs.writers _ (mem_writers_live h))
    · exact hs.writers _ (mem_writers_of_detached hm)

theorem serves_applyHandled {queue : List ManagedCommand} {command : ManagedCommand}
    {handled : Handled} (hs : s.ledger.Sound) (h : s.phase = .live loop)
    (htends : handled.Tends (fun tx ↦ tx ∈ s.dropped) (s.loopIo loop) command) :
    Serves s ({ s with queue }.applyHandled loop (some command) handled) := by
  unfold applyHandled
  extract_lets entered loop' s'
  let answers : List Event := handled.answers.map fun entry ↦ .answered entry.1 entry.2
  have hanswered : ∀ tx ∈ (s.loopIo loop).held,
      Dismissed (s.history ++ (entered ++ answers)) tx ∨ tx ∈ handled.io.held := by
    intro tx htx
    rcases htends.held tx htx with hgone | hanswer | htx
    · exact .inl ((dismissed_of_dropped hs (of_decide_eq_true hgone)).mono
        (List.subset_append_left _ _))
    · obtain ⟨entry, he, rfl⟩ := List.mem_map.mp hanswer
      refine .inl (.inl ⟨entry.2, List.mem_append_right _ (List.mem_append_right _ ?_)⟩)
      exact List.mem_map_of_mem he
    · exact .inr htx
  have htaken : ∀ tx epoch, .enqueued tx epoch ∈ entered ++ answers → tx ∈ handled.io.held := by
    intro tx epoch he
    rcases List.mem_append.mp he with he | he
    · simp only [entered] at he
      split at he
      · cases List.mem_singleton.mp he
        exact htends.taken ‹_›
      · cases he
    · simp [answers] at he
  have hemit : s' = { s with
      queue, tracker := handled.io.tracker, subscriptions := handled.io.subscriptions }.emit
        (entered ++ answers) := emit_emit
  have hstay : Serves s (s'.stay loop') := by
    rw [hemit]
    exact serves_io h rfl htaken hanswered htends.tidy
  split
  · exact hstay
  · exact hstay.trans (serves_endLoop (s := s'.stay loop') rfl rfl)

theorem serves_commandBranch (hs : s.ledger.Sound) (h : s.phase = .live loop)
    (ht : s.commandBranch loop = some t) : Serves s t := by
  unfold commandBranch at ht
  extract_lets handle at ht
  split at ht
  · rename_i command queue hq
    cases ht
    exact serves_applyHandled hs h handleCommand_tends
  · split at ht <;> cases ht
    have hnothing : Serves s ((s.emit []).answer []) :=
      (serves_emit fun _ _ ↦ List.not_mem_nil).trans serves_answer
    exact hnothing.trans (serves_endLoop h rfl)

theorem serves_loopStep {branch : Branch} (hs : s.ledger.Sound) (h : s.phase = .live loop)
    (ht : s.loopStep config loop branch = some t) : Serves s t := by
  unfold loopStep at ht
  split at ht
  · split at ht
    · exact serves_signedBranch h ht
    · cases ht
  · cases branch with
    | shutdown | writerEnded =>
      dsimp only at ht
      split at ht <;> cases ht
      exact serves_endLoop h rfl
    | gap =>
      dsimp only at ht
      split at ht <;> cases ht
      have hgaps : Serves s ({ s with gaps := s.gaps - 1 } : System) :=
        serves_private rfl rfl rfl rfl
      exact hgaps.trans (serves_fail.trans (serves_endLoop h rfl))
    | command => exact serves_commandBranch hs h ht
    | subscriptionWritten => exact serves_subscriptionWrittenBranch h ht
    | subscriptionDeadline => exact serves_deadline h ht
    | cancel => exact serves_cancelBranch h ht
    | pingTick => exact serves_pingTickBranch h ht
    | pingWritten => exact serves_pingWrittenBranch h ht
    | pongDeadline => exact serves_deadline h ht
    | read result =>
      cases ht
      exact serves_readBranch h
    | signed result => cases ht

end Loop

section Task

theorem serves_terminate {reason : ManagedWsTerminationReason} (h : ∀ loop, s.phase ≠ .live loop) :
    Serves s (s.terminate reason) :=
  serves_transitionState.trans (serves_move h (fun _ h ↦ by cases h) rfl)

theorem serves_nextRound {random : UInt64} (h : ∀ loop, s.phase ≠ .live loop) :
    Serves s (s.nextRound config random) := by
  unfold nextRound
  split
  · extract_lets reported
    have hreported : Serves s reported := serves_fail.trans (serves_emit (by simp))
    have hreset : Serves reported ({ reported with pendingAuthRejection := none } : System) :=
      serves_private rfl rfl rfl rfl
    exact hreported.trans (hreset.trans (serves_terminate h))
  · have hbackoff : Serves s ({ s with backoff := s.backoff.nextAttempt.2 } : System) :=
      serves_private rfl rfl rfl rfl
    exact hbackoff.trans
      (serves_transitionState.trans (serves_move h (fun _ h ↦ by cases h) rfl))

theorem serves_endSession {ended : Ending} (h : ∀ loop, s.phase ≠ .live loop) :
    Serves s (s.endSession ended) :=
  serves_move h (fun _ h ↦ by cases h) rfl

theorem serves_connect (h : ∀ loop, s.phase ≠ .live loop) : Serves s s.connect := by
  have hphase : Serves s ({ s with phase := .authenticating } : System) :=
    serves_move h (fun _ h ↦ by cases h) rfl
  have hopen : Serves ({ s with phase := .authenticating } : System) { s with
      connectionEpoch := (s.connectionEpoch + 1) % 2 ^ 64
      connectionOpen := true
      gaps := 0
      phase := .authenticating } := serves_private rfl rfl rfl rfl
  exact hphase.trans (hopen.trans serves_transitionState)

theorem serves_authenticate {result : AuthResult} (h : ∀ loop, s.phase ≠ .live loop)
    (ht : s.authenticate result = some t) : Serves s t := by
  rcases authenticate_cases ht with ⟨ended, rfl⟩ | ⟨text, ended, rfl⟩ | rfl
  · exact serves_endSession h
  · exact serves_fail.trans (serves_endSession h)
  · exact serves_transitionState.trans (serves_move h (fun _ h ↦ by cases h) rfl)

theorem serves_start {epoch capacity : ℕ} {now authenticatedAt : Instant}
    (h : ∀ loop, s.phase ≠ .live loop) :
    Serves s (s.stay (.start epoch capacity now authenticatedAt)) := by
  refine serves_of_held rfl (held_subset (fun writer hm ↦ ?_) (List.subset_append_right _ _))
    fun hs ↦ ⟨fun writer hm ↦ ?_, fun hc ↦ by cases hc⟩
  · rcases mem_writers.mp hm with ⟨loop, hl, -⟩ | hm
    · exact absurd hl (h loop)
    · exact callers_subset_held (mem_writers_of_detached hm)
  · rcases List.mem_cons.mp hm with rfl | hm
    · exact fun hp ↦ by cases hp
    · exact hs.writers _ (mem_writers_of_detached hm)

theorem serves_establish {authenticatedAt : Instant} {result : ReadyResult}
    (h : ∀ loop, s.phase ≠ .live loop)
    (ht : s.establish config authenticatedAt result = some t) : Serves s t := by
  cases result with
  | shutdown =>
    simp only [establish] at ht
    split at ht <;> cases ht
    exact serves_endSession h
  | timedOut =>
    cases ht
    exact serves_fail.trans (serves_endSession h)
  | failed =>
    cases ht
    exact serves_sendEvent.trans (serves_endSession h)
  | ready =>
    cases ht
    unfold becomeReady
    extract_lets epoch ready
    have hready : Serves s ready := serves_transitionState.trans serves_transitionState
    apply hready.trans
    split
    · exact serves_fail.trans (serves_endSession h)
    · exact serves_start h

theorem serves_afterSession {random : UInt64} {ended : SessionEnd}
    (h : ∀ loop, s.phase ≠ .live loop) : Serves s (s.afterSession config random ended) := by
  cases ended with
  | closeRequested => exact serves_terminate h
  | authenticationFailed => exact serves_nextRound h
  | terminated reason =>
    simp only [afterSession]
    generalize s.invalidSignatureStrikes + (if isStrike reason then 1 else 0) = strikes
    let counted : System := { s with invalidSignatureStrikes := strikes }
    have hcounted : Serves s counted := serves_private rfl rfl rfl rfl
    have hpending : Serves counted { counted with pendingAuthRejection := some reason } :=
      serves_private rfl rfl rfl rfl
    split
    · exact hcounted.trans (hpending.trans (serves_fail.trans (serves_nextRound h)))
    · exact hcounted.trans (serves_terminate h)
  | disconnected authenticatedFor clearResume =>
    have hreset : Serves s ({ s with
        invalidSignatureStrikes := 0
        pendingAuthRejection := none
        backoff := s.backoff.resetAfterStableSession authenticatedFor } : System) :=
      serves_private rfl rfl rfl rfl
    exact hreset.trans (serves_nextRound h)

theorem connectionEnded_phase : s.connectionEnded.phase = s.phase := by
  unfold connectionEnded
  split <;> rfl

theorem serves_finish {random : UInt64} {ended : SessionEnd} (h : ∀ loop, s.phase ≠ .live loop) :
    Serves s (s.finish config random ended) := by
  let returned := s.emit [.sessionEnded ended]
  let cleared := { returned.drainTracker with subscriptions := s.subscriptions.connectionLost }
  have hcleared : Serves s cleared :=
    (serves_emit (by simp)).trans (serves_drainTracker.trans (serves_private rfl rfl rfl rfl))
  refine hcleared.trans (serves_connectionEnded.trans (serves_afterSession fun loop ↦ ?_))
  rw [connectionEnded_phase]
  exact h loop

theorem serves_dropChannels {phase : Phase} (h : ∀ loop, s.phase ≠ .live loop)
    (hphase : ∀ loop, phase ≠ .live loop) : Serves s (s.dropChannels phase) := by
  have hdrained : Serves s s.drainTracker := serves_drainTracker
  have hmoved : Serves s.drainTracker { s.drainTracker with phase } :=
    serves_phase h hphase fun _ _ ↦ rfl
  have hempty : Serves { s.drainTracker with phase }
      ({ s with queue := [], cancels := [], phase } : System).drainTracker :=
    serves_private rfl rfl rfl rfl
  exact hdrained.trans (hmoved.trans (hempty.trans serves_answer))

/-- A panic drops the loop, whose writer goes on with what it holds. -/
theorem serves_panicked : Serves s s.panicked := by
  unfold panicked
  extract_lets loose
  by_cases hlive : ∃ loop, s.phase = .live loop
  · obtain ⟨loop, h⟩ := hlive
    have hloose : loose = { s with detached := release loop.writer none :: s.detached } := by
      unfold loose
      rw [h]
    rw [hloose]
    -- the phase is overwritten when the channels go
    let left : System := { s with
      phase := .connecting, detached := release loop.writer none :: s.detached }
    have hleft : Serves s left := serves_detach h rfl (fun _ h ↦ by cases h) rfl
    have hdropped : Serves left (left.dropChannels .unwinding) :=
      serves_dropChannels (fun _ h ↦ by cases h) (fun _ h ↦ by cases h)
    exact hleft.trans hdropped
  · have hnot : ∀ loop, s.phase ≠ .live loop := fun loop h ↦ hlive ⟨loop, h⟩
    have hloose : loose = s := by
      unfold loose
      split
      · rename_i loop h
        exact absurd h (hnot loop)
      · rfl
    rw [hloose]
    exact serves_dropChannels hnot (fun _ h ↦ by cases h)

theorem serves_unwound (h : s.phase = .unwinding) : Serves s s.unwound := by
  let ended := s.connectionEnded.transitionState (.closed .sessionPanicked)
    (.terminated .sessionPanicked)
  have hended : Serves s ended := serves_connectionEnded.trans serves_transitionState
  have hphase : ended.phase = .unwinding := connectionEnded_phase.trans h
  refine hended.trans (serves_phase ?_ (fun _ h ↦ by cases h) fun htidy _ ↦ htidy.closed ?_)
  · rw [hphase]
    exact fun _ h ↦ by cases h
  · rw [hphase]
    rfl

theorem serves_windowCommand (h : ∀ loop, s.phase ≠ .live loop) (ht : s.windowCommand = some t) :
    Serves s t := by
  rcases windowCommand_cases ht with ⟨command, queue, -, rfl⟩ | rfl
  · have hqueue : Serves s ({ s with queue } : System) := serves_private rfl rfl rfl rfl
    exact hqueue.trans serves_answer
  · exact serves_terminate h

theorem serves_windowCancel (h : ∀ loop, s.phase ≠ .live loop) (ht : s.windowCancel = some t) :
    Serves s t := by
  rcases windowCancel_cases ht with ⟨cancels, rfl⟩ | rfl
  · exact serves_private rfl rfl rfl rfl
  · exact serves_terminate h

theorem serves_taskStep {op : TaskOp} (ht : s.taskStep config op = some t) : Serves s t := by
  have haway : ∀ {phase : Phase}, s.phase = phase → (∀ loop, phase ≠ .live loop) →
      ∀ loop, s.phase ≠ .live loop := fun h hphase loop ↦ h ▸ hphase loop
  have hrequested : ∀ {c : Prop} [Decidable c], (∀ loop, s.phase ≠ .live loop) →
      (if c then some (s.terminate .requested) else none) = some t → Serves s t := by
    intro c _ hnot ht
    split at ht <;> cases ht
    exact serves_terminate hnot
  -- the cases come in the order of the definition
  unfold taskStep at ht
  split at ht
  · exact hrequested (haway ‹_› fun _ h ↦ by cases h) ht
  · cases ht
    exact serves_connect (haway ‹_› fun _ h ↦ by cases h)
  · cases ht
    exact serves_fail.trans (serves_nextRound (haway ‹_› fun _ h ↦ by cases h))
  · exact serves_authenticate (haway ‹_› fun _ h ↦ by cases h) ht
  · exact serves_establish (haway ‹_› fun _ h ↦ by cases h) ht
  · cases ht
    exact serves_finish (haway ‹_› fun _ h ↦ by cases h)
  · exact hrequested (haway ‹_› fun _ h ↦ by cases h) ht
  · split at ht <;> cases ht
    exact serves_move (haway ‹_› fun _ h ↦ by cases h) (fun _ h ↦ by cases h) rfl
  · exact serves_windowCancel (haway ‹_› fun _ h ↦ by cases h) ht
  · exact serves_windowCommand (haway ‹_› fun _ h ↦ by cases h) ht
  · cases ht
    exact serves_dropChannels (haway ‹_› fun _ h ↦ by cases h) (fun _ h ↦ by cases h)
  · cases ht
  · cases ht
  · cases ht
  · cases ht
    exact serves_panicked
  · cases ht
    exact serves_unwound ‹_›
  · cases ht

theorem call_parts (call : Call) :
    (s.call config call).detached = s.detached ∧ (s.call config call).tracker = s.tracker := by
  unfold System.call
  extract_lets tx called numbered
  have hnumbered : numbered.detached = s.detached ∧ numbered.tracker = s.tracker := by
    unfold numbered
    split <;> exact ⟨rfl, rfl⟩
  split
  · exact ⟨rfl, rfl⟩
  split
  · exact hnumbered
  split
  · exact hnumbered
  split
  · exact hnumbered
  · exact hnumbered

theorem handleStep_parts {op : HandleOp} (ht : s.handleStep config op = some t) :
    t.detached = s.detached ∧ t.tracker = s.tracker := by
  cases op with
  | call call =>
    simp only [handleStep] at ht
    split at ht <;> cases ht
    exact call_parts call
  | submit index =>
    obtain ⟨command, -, ht⟩ := Option.bind_eq_some_iff.mp ht
    dsimp only at ht
    split at ht
    · cases ht
      exact ⟨rfl, rfl⟩
    · split at ht <;> cases ht
      exact ⟨rfl, rfl⟩
  | giveUp index =>
    obtain ⟨command, -, rfl⟩ := Option.map_eq_some_iff.mp ht
    exact ⟨rfl, rfl⟩
  | expire index =>
    obtain ⟨command, -, ht⟩ := Option.bind_eq_some_iff.mp ht
    cases command with
    | send => cases ht
    | sendAwait =>
      cases ht
      exact ⟨rfl, rfl⟩
  | timeout tx =>
    obtain ⟨awaitId, -, ht⟩ := Option.bind_eq_some_iff.mp ht
    split at ht <;> cases ht
    exact ⟨rfl, rfl⟩
  | close =>
    cases ht
    exact ⟨rfl, rfl⟩
  | abandon | dropHandles | reportGap =>
    simp only [handleStep, abandon] at ht
    split at ht <;> cases ht
    exact ⟨rfl, rfl⟩

theorem serves_handleStep {op : HandleOp} (ht : s.handleStep config op = some t) :
    Serves s t := by
  obtain ⟨hdetached, htracker⟩ := handleStep_parts ht
  have hfrom := fromHandle_handleStep ht
  obtain ⟨entries, htrace, hentries⟩ := hfrom.trace
  have hhistory : t.history = s.history ++ entries.map Entry.event := by
    rw [System.history, System.history, htrace, List.map_append]
  refine serves_same hhistory (fun tx epoch he ↦ ?_) (congrArg Prod.fst hfrom.side) hdetached
    htracker
  · obtain ⟨entry, hm, he⟩ := List.mem_map.mp he
    have hof := hentries entry hm
    rw [he] at hof
    cases hof

end Task

section Writers

theorem answered_of_effects {effects : List WriterEffect} {tx : Waiter} (epoch : ℕ)
    (h : tx ∈ effects.flatMap WriterEffect.callers) :
    ∃ answer, .answered tx answer ∈ effects.flatMap (WriterEffect.events epoch) := by
  obtain ⟨effect, he, htx⟩ := List.mem_flatMap.mp h
  rcases effect with _ | _ | ⟨tx' | _, outcome⟩ | _ | ⟨tx' | _⟩ | _
  · cases htx
  · cases htx
  · cases List.mem_singleton.mp htx
    exact ⟨_, List.mem_flatMap.mpr ⟨_, he, List.mem_singleton.mpr rfl⟩⟩
  · cases htx
  · cases htx
  · cases List.mem_singleton.mp htx
    exact ⟨_, List.mem_flatMap.mpr ⟨_, he, List.mem_singleton.mpr rfl⟩⟩
  · cases htx
  · cases htx

theorem serves_effects {writer writer' : Writer} {op : WriterOp} {effects : List WriterEffect}
    (hstep : writer.step op = some (writer', effects)) (htrace : t.trace = s.trace)
    (hheld : ∀ tx ∈ s.held, tx ∈ writer.callers ∨ tx ∈ t.held) (hnew : writer'.callers ⊆ t.held)
    (htidy : s.Tidy → writer'.Tidy → t.Tidy) :
    Serves s (t.emit (effects.flatMap (WriterEffect.events writer.epoch))) := by
  have hhistory : (t.emit (effects.flatMap (WriterEffect.events writer.epoch))).history =
      s.history ++ effects.flatMap (WriterEffect.events writer.epoch) := by
    rw [System.history, emit_trace, htrace]
    rfl
  refine serves_of hhistory (fun tx epoch he ↦ ?_) (fun tx htx ↦ ?_) fun hs ↦ ?_
  · obtain ⟨effect, -, he⟩ := List.mem_flatMap.mp he
    rcases WriterEffect.events_cases he with ⟨_, _, _, _, h⟩ | ⟨_, _, h⟩ | ⟨_, h⟩ <;> cases h
  · rcases hheld tx htx with htx | htx
    · rcases Writer.step_answers hstep htx with htx | htx
      · exact .inl (hnew htx)
      · obtain ⟨answer, ha⟩ := answered_of_effects writer.epoch htx
        refine .inr (.inl ⟨answer, ?_⟩)
        rw [hhistory]
        exact List.mem_append_right _ ha
    · exact .inl htx
  · have ht := htidy hs (Writer.step_tidy hstep)
    exact ⟨ht.writers, ht.closed⟩

theorem serves_writerStep {op : WriterOp} (h : s.phase = .live loop)
    (ht : s.writerStep loop op = some t) : Serves s t := by
  unfold writerStep at ht
  split at ht
  · cases ht
  obtain ⟨⟨writer, effects⟩, hstep, rfl⟩ := Option.map_eq_some_iff.mp ht
  set received := effects.foldl (Loop.receive s.time) { loop with writer }
  have hwriter : received.writer = writer := Loop.receive_writer
  have hlive : (s.stay received).phase = .live received := rfl
  refine serves_effects (t := s.stay received) hstep rfl (fun tx htx ↦ ?_) ?_
    fun hs hw ↦ ⟨fun other ho ↦ ?_, fun hc ↦ by cases hc⟩
  · rw [mem_held_live hlive]
    rcases (mem_held_live h).mp htx with htx | htx
    · exact (List.mem_append.mp htx).imp_right fun htx ↦ .inl (List.mem_append_right _ htx)
    · exact .inr (.inr htx)
  · rw [← hwriter]
    exact callers_subset_held (mem_writers_live hlive)
  · rcases List.mem_cons.mp ho with rfl | ho
    · rwa [hwriter]
    · exact hs.writers _ (mem_writers_of_detached ho)

theorem mem_set_or_eq {α : Type} {l : List α} {i : ℕ} {a b c : α} (hi : l[i]? = some a)
    (hc : c ∈ l) : c ∈ l.set i b ∨ c = a := by
  obtain ⟨j, hj⟩ := List.mem_iff_getElem?.mp hc
  by_cases hij : i = j
  · subst hij
    exact .inr (Option.some.inj (hj.symm.trans hi))
  · exact .inl (List.mem_of_getElem? (by rwa [List.getElem?_set_ne hij]))

theorem serves_detachedStep {index : ℕ} {op : WriterOp}
    (ht : s.detachedStep index op = some t) : Serves s t := by
  obtain ⟨writer, hw, ht⟩ := Option.bind_eq_some_iff.mp ht
  obtain ⟨⟨writer', effects⟩, hstep, rfl⟩ := Option.map_eq_some_iff.mp ht
  let moved : System := { s with detached := s.detached.set index writer' }
  refine serves_effects (t := moved) hstep rfl (fun tx htx ↦ ?_) ?_
    fun hs htidy ↦ ⟨fun other ho ↦ ?_, hs.closed⟩
  · rcases List.mem_append.mp htx with htx | htx
    · obtain ⟨other, ho, htx⟩ := List.mem_flatMap.mp htx
      rcases mem_writers.mp ho with ⟨loop, hl, rfl⟩ | ho
      · exact .inr (callers_subset_held (s := moved) (mem_writers_live hl) htx)
      · rcases mem_set_or_eq hw ho with ho | rfl
        · exact .inr (callers_subset_held (s := moved) (mem_writers_of_detached ho) htx)
        · exact .inl htx
    · exact .inr (List.mem_append_right _ htx)
  · have hindex : index < s.detached.length := (List.getElem?_eq_some_iff.mp hw).1
    have hmem : writer' ∈ moved.detached := List.mem_set hindex writer'
    exact callers_subset_held (mem_writers_of_detached hmem)
  · rcases mem_writers.mp ho with ⟨loop, hl, rfl⟩ | ho
    · exact hs.writers _ (mem_writers_live hl)
    · rcases List.mem_or_eq_of_mem_set ho with ho | rfl
      · exact hs.writers _ (mem_writers_of_detached ho)
      · exact htidy

theorem serves_step {label : Label} (hs : s.ledger.Sound) (ht : s.step config label = some t) :
    Serves s t := by
  cases label with
  | handle op => exact serves_handleStep ht
  | task op => exact serves_taskStep ht
  | branch branch =>
    simp only [step] at ht
    split at ht
    · exact serves_loopStep hs ‹_› ht
    · cases ht
  | writer op =>
    simp only [step] at ht
    split at ht
    · exact serves_writerStep ‹_› ht
    · cases ht
  | detached index op => exact serves_detachedStep ht
  | tick elapsed =>
    cases ht
    exact serves_private rfl rfl rfl rfl

end Writers

/-- Everybody whose frame has entered a lane was answered, has left or is still held. -/
structure Tended (s : System) : Prop where
  sound : s.ledger.Sound
  kept : s.Kept
  enqueued : ∀ tx epoch, .enqueued tx epoch ∈ s.history → tx ∈ s.held ∨ Dismissed s.history tx
  tidy : s.Tidy

theorem tended_init : (init config).Tended where
  sound := init_sound
  kept := kept_of_phase (fun _ h ↦ by cases h) rfl
  enqueued _ _ h := absurd h List.not_mem_nil
  tidy := ⟨fun _ h ↦ absurd h List.not_mem_nil, fun h ↦ by cases h⟩

theorem tended_step {label : Label} (h : s.Tended) (ht : s.step config label = some t) :
    t.Tended := by
  have hmoves := step_moves h.kept h.sound ht
  have hserves := serves_step h.sound ht
  refine ⟨h.sound.moves hmoves.moves, hmoves.kept h.kept, fun tx epoch he ↦ ?_,
    hserves.tidy h.tidy⟩
  rcases hserves.enqueued tx epoch he with he | htx
  · rcases h.enqueued tx epoch he with htx | htx
    · exact hserves.held tx htx
    · exact .inr (htx.mono hserves.history)
  · exact htx

theorem Tended.called {tx : Waiter} {call : Call} (h : s.Tended)
    (hcall : .called tx call ∈ s.history) :
    Dismissed s.history tx ∨ s.InFlight tx ∨ tx ∈ s.held := by
  rcases h.sound.settled tx call hcall with ⟨ticket, hticket, rfl⟩ | hsettled
  · obtain ⟨command, hc, rfl⟩ := List.mem_map.mp (Multiset.mem_coe.mp hticket)
    exact .inr (.inl ⟨command, hc, rfl⟩)
  · rcases hsettled with ⟨epoch, he⟩ | habandoned | ⟨answer, -, ha⟩
    · exact (h.enqueued tx epoch he).symm.imp_right .inr
    · exact .inl (.inr habandoned)
    · exact .inl (.inl ⟨answer, ha⟩)

/-- No caller of a managed connection is forgotten: it is answered or has left, or somebody still
holds its command. Once the task is over and the writers have returned, nobody does. -/
theorem callers_answered {labels : List Label} (h : after config labels = some s) :
    (∀ tx call, .called tx call ∈ s.history →
      Dismissed s.history tx ∨ s.InFlight tx ∨ tx ∈ s.held) ∧
    (s.phase = .closed → s.sending = [] → (∀ writer ∈ s.detached, writer.isReturned = true) →
      ∀ tx call, .called tx call ∈ s.history → Dismissed s.history tx) := by
  have htended : s.Tended := Runs.run_invariant (fun _ _ _ ↦ tended_step) tended_init h
  refine ⟨fun tx call ↦ htended.called, fun hclosed hsending hreturned tx call hcall ↦ ?_⟩
  have hqueue : s.queue = [] := htended.kept.2 (by rw [hclosed]; rfl)
  have htracker : s.tracker.waiters = [] := htended.tidy.closed (by rw [hclosed]; rfl)
  rcases htended.called hcall with hdismissed | hwaits | hheld
  · exact hdismissed
  · obtain ⟨command, hc, -⟩ := hwaits
    rw [hsending, hqueue] at hc
    cases hc
  · rcases List.mem_append.mp hheld with hheld | hheld
    · obtain ⟨writer, hw, htx⟩ := List.mem_flatMap.mp hheld
      have hdetached : writer ∈ s.detached := by
        rcases mem_writers.mp hw with ⟨loop, hl, -⟩ | hw
        · cases hclosed.symm.trans hl
        · exact hw
      have hempty : writer.commands = [] := by
        refine htended.tidy.writers writer hw ?_
        have hr := hreturned writer hdetached
        unfold Writer.isReturned at hr
        split at hr
        · assumption
        · cases hr
      rw [Writer.callers, hempty] at htx
      cases htx
    · rw [htracker] at hheld
      cases hheld

end System

/-- One frame waits in its lane and one command in the queue when the handle closes the
connection; the writer is told to close before it gets to the frame. -/
def closingRun (call : Call) : List Label :=
  [.task .connect, .task (.authenticate .authenticated), .task (.establish .ready),
    .handle (.call call), .branch .command, .handle (.call call), .handle .close,
    .branch .shutdown, .task (.finish 0), .task .return, .detached 0 .next]

theorem callers_answered_closing :
    ∃ s, System.after sampleConfig (closingRun ⟨.trySend, .cancelAllQuotes 0⟩) = some s ∧
      s.phase = .closed ∧ ∀ tx < 2, Dismissed s.history tx := by
  let last := System.after sampleConfig (closingRun ⟨.trySend, .cancelAllQuotes 0⟩)
  have hsome : last.isSome = true := by decide +kernel
  obtain ⟨s, hs⟩ := Option.isSome_iff_exists.mp hsome
  have hphase : last.map System.phase = some .closed := rfl
  have hsending : last.map System.sending = some [] := rfl
  have hdetached : last.map (fun s ↦ s.detached.all Writer.isReturned) = some true := by
    decide +kernel
  have hcalled : ∀ tx < 2, last.map (fun s ↦ s.history.any fun event ↦
      event matches .called .. ∧ event.waiter = some tx) = some true := by
    decide +kernel
  rw [hs] at hphase hsending hdetached hcalled
  have hclosed : s.phase = .closed := Option.some.inj hphase
  refine ⟨s, hs, hclosed, fun tx htx ↦ ?_⟩
  obtain ⟨event, hmem, hevent⟩ := List.any_eq_true.mp (Option.some.inj (hcalled tx htx))
  obtain ⟨call, rfl⟩ : ∃ call, event = .called tx call := by
    cases event with
    | called tx' call =>
      refine ⟨call, ?_⟩
      simpa [Event.waiter] using hevent
    | state | lifecycle | answered | abandoned | enqueued | wrote | read | sessionEnded
    | limitReached => simp at hevent
  exact (System.callers_answered hs).2 hclosed (Option.some.inj hsending)
    (List.all_eq_true.mp (Option.some.inj hdetached)) tx call hmem

end MakerSdk.Session
