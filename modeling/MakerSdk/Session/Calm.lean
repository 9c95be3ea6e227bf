import MakerSdk.Session.Run

namespace MakerSdk.Session

open Base

def WriterCommand.isPing : WriterCommand → Bool
  | frame ⟨.ping, _, _, _⟩ _ _ => true
  | _ => false

namespace Event

def writesPing (epoch : ℕ) : Event → Bool
  | wrote writer command => writer == epoch && command.isPing
  | _ => false

def readsPong : Event → Bool
  | read message => message.isPong
  | _ => false

def Quiet : Event → Prop
  | read message => message.isPong = false
  | state (.ready _) => False
  | _ => True

end Event

namespace System

/-- A step through which the keepalive of a running session stands still. -/
structure Calm (s t : System) (loop loop' : Loop) : Prop where
  time : s.time ≤ t.time
  trace : ∃ entries, t.trace = s.trace ++ entries ∧ ∀ entry ∈ entries, entry.event.Quiet
  epoch : loop'.writer.epoch = loop.writer.epoch
  progress : loop'.writer.progress = loop.writer.progress
  commands : ∀ c ∈ loop'.writer.commands, c.isKeepalive = true → c ∈ loop.writer.commands
  pingWritten : loop'.pingWritten = loop.pingWritten
  pongDeadline : loop'.pongDeadline = loop.pongDeadline

def Calms (s t : System) : Prop :=
  ∀ loop', t.phase = .live loop' → ∃ loop, s.phase = .live loop ∧ Calm s t loop loop'

section Rules

variable {s t u : System} {loop loop' : Loop}

theorem Calms.trans (h : Calms s t) (h' : Calms t u) : Calms s u := by
  intro loop'' hu
  obtain ⟨loop', ht, hc'⟩ := h' loop'' hu
  obtain ⟨loop, hs, hc⟩ := h loop' ht
  obtain ⟨entries, he, hq⟩ := hc.trace
  obtain ⟨entries', he', hq'⟩ := hc'.trace
  refine ⟨loop, hs, hc.time.trans hc'.time, ⟨entries ++ entries', ?_, ?_⟩,
    hc'.epoch.trans hc.epoch, hc'.progress.trans hc.progress, ?_,
    hc'.pingWritten.trans hc.pingWritten, hc'.pongDeadline.trans hc.pongDeadline⟩
  · rw [he', he, List.append_assoc]
  · intro entry hm
    exact (List.mem_append.mp hm).elim (hq entry) (hq' entry)
  · intro c hm hk
    exact hc.commands c (hc'.commands c hm hk) hk

theorem calms_of_eq (hphase : t.phase = s.phase) (htrace : t.trace = s.trace)
    (htime : s.time ≤ t.time) : Calms s t := by
  intro loop h
  exact ⟨loop, hphase ▸ h, htime, ⟨[], by simp [htrace]⟩, rfl, rfl, fun _ hm _ ↦ hm, rfl, rfl⟩

theorem calms_of_phase (h : ∀ loop, t.phase ≠ .live loop) : Calms s t :=
  fun loop hl ↦ absurd hl (h loop)

theorem calms_emit {events : List Event} (h : ∀ event ∈ events, event.Quiet) :
    Calms s (s.emit events) := by
  intro loop hl
  refine ⟨loop, hl, le_rfl, ⟨events.map (⟨s.time, ·⟩), rfl, fun entry hm ↦ ?_⟩, rfl, rfl,
    fun _ hm _ ↦ hm, rfl, rfl⟩
  obtain ⟨event, he, rfl⟩ := List.mem_map.mp hm
  exact h event he

theorem calms_sendEvent {event : ManagedWsEvent} : Calms s (s.sendEvent event) :=
  calms_emit (by simp [Event.Quiet])

theorem calms_answer {answers : List (Waiter × Answer)} : Calms s (s.answer answers) := by
  apply calms_emit
  intro event he
  obtain ⟨answer, -, rfl⟩ := List.mem_map.mp he
  trivial

theorem calms_update_emit {events : List Event} (hphase : t.phase = s.phase)
    (htrace : t.trace = s.trace) (htime : s.time ≤ t.time) (h : ∀ event ∈ events, event.Quiet) :
    Calms s (t.emit events) :=
  (calms_of_eq hphase htrace htime).trans (calms_emit h)

theorem calms_update_answer {answers : List (Waiter × Answer)} (hphase : t.phase = s.phase)
    (htrace : t.trace = s.trace) (htime : s.time ≤ t.time) : Calms s (t.answer answers) :=
  (calms_of_eq hphase htrace htime).trans calms_answer

theorem calms_stay (h : s.phase = .live loop)
    (htask : loop'.writer.epoch = loop.writer.epoch ∧ loop'.writer.progress = loop.writer.progress)
    (hcommands : ∀ c ∈ loop'.writer.commands, c.isKeepalive = true → c ∈ loop.writer.commands)
    (hping : loop'.pingWritten = loop.pingWritten)
    (hpong : loop'.pongDeadline = loop.pongDeadline) : Calms s (s.stay loop') := by
  intro loop'' hl
  cases hl
  exact ⟨loop, h, le_rfl, ⟨[], by simp [stay]⟩, htask.1, htask.2, hcommands, hping, hpong⟩

theorem calms_stay_enqueue {lane : Lane} {command : WriterCommand} (h : s.phase = .live loop)
    (hw : loop.writer.enqueue lane command = .ok loop'.writer)
    (hcommand : command.isKeepalive = false) (hping : loop'.pingWritten = loop.pingWritten)
    (hpong : loop'.pongDeadline = loop.pongDeadline) : Calms s (s.stay loop') := by
  refine calms_stay h (Writer.enqueue_task hw) (fun c hc hk ↦ ?_) hping hpong
  rcases (Writer.enqueue_commands hw c).mp hc with hc | rfl
  · exact hc
  · rw [hcommand] at hk
    cases hk

theorem calms_endLoop {ended : AuthenticatedSessionEnd} {rejected : Bool} :
    Calms s (t.endLoop loop ended rejected) :=
  calms_of_phase (fun _ h ↦ by cases h)

theorem calms_failLoop {failure : SessionFailure} : Calms s (t.failLoop loop failure) :=
  calms_endLoop

end Rules

section Steps

variable {s t : System} {loop : Loop} {config : ManagedWsConfig}

theorem quiet_of_ofHandle {event : Event} (h : event.ofHandle = true) : event.Quiet := by
  cases event with
  | called | answered | abandoned => trivial
  | _ => cases h

theorem calms_handleStep {op : HandleOp} (ht : s.handleStep config op = some t) : Calms s t := by
  have hframe := fromHandle_handleStep ht
  have hside := hframe.side
  simp only [taskSide, Prod.mk.injEq] at hside
  obtain ⟨hphase, -, htime, -⟩ := hside
  obtain ⟨entries, htrace, hentries⟩ := hframe.trace
  intro loop hl
  exact ⟨loop, hphase ▸ hl, htime.ge,
    ⟨entries, htrace, fun entry he ↦ quiet_of_ofHandle (hentries entry he)⟩, rfl, rfl,
    fun _ hm _ ↦ hm, rfl, rfl⟩

theorem calms_applyHandled {command : Option ManagedCommand} {handled : Handled}
    (h : s.phase = .live loop)
    (htask : handled.io.lanes.epoch = loop.writer.epoch ∧
      handled.io.lanes.progress = loop.writer.progress)
    (hcommands : ∀ c ∈ handled.io.lanes.commands, c.isKeepalive = true → c ∈ loop.writer.commands) :
    Calms s (s.applyHandled loop command handled) := by
  unfold applyHandled
  extract_lets entered loop' s'
  have hentered : ∀ event ∈ entered, event.Quiet := by
    unfold entered
    split
    · split <;> simp [Event.Quiet]
    · simp
  have hemit : Calms s ({ s with
      tracker := handled.io.tracker
      subscriptions := handled.io.subscriptions }.emit entered) :=
    calms_update_emit rfl rfl le_rfl hentered
  have hs' : Calms s s' := hemit.trans calms_answer
  have hphase : s'.phase = .live loop := h
  split
  · exact hs'.trans (calms_stay hphase htask hcommands rfl rfl)
  · exact calms_endLoop

theorem calms_commandBranch (h : s.phase = .live loop) (ht : s.commandBranch loop = some t) :
    Calms s t := by
  unfold commandBranch at ht
  extract_lets handle at ht
  split at ht
  · rename_i command queue hq
    cases ht
    have hqueue : Calms s ({ s with queue } : System) := calms_of_eq rfl rfl le_rfl
    refine hqueue.trans ?_
    have hspec := @handleCommand_spec (fun tx ↦ tx ∈ s.dropped) s.connectionEpoch
      (({ s with queue } : System).loopIo loop) command
    unfold handle
    generalize handleCommand _ _ _ _ = handled at hspec ⊢
    cases hspec with
    | gone => exact calms_applyHandled h ⟨rfl, rfl⟩ (fun _ hc _ ↦ hc)
    | enqueued hopen hepoch hlanes hdone htask =>
      refine calms_applyHandled h htask (fun c hc hk ↦ ?_)
      rcases (hlanes c).mp hc with hc | rfl
      · exact hc
      · rw [WriterCommand.frame_isKeepalive hdone] at hk
        cases hk
    | @refused io' _ _ _ hlanes =>
      have hsame : io'.lanes = loop.writer := hlanes
      refine calms_applyHandled h ?_ (fun c hc _ ↦ ?_)
      · exact ⟨congrArg Writer.epoch hsame, congrArg Writer.progress hsame⟩
      · rw [← hsame]
        exact hc
  · split at ht <;> cases ht
    exact calms_applyHandled h ⟨rfl, rfl⟩ (fun _ hc _ ↦ hc)

theorem calms_cancelBranch (ht : s.cancelBranch loop = some t) : Calms s t := by
  unfold cancelBranch at ht
  split at ht
  · cases ht
    exact calms_update_answer rfl rfl le_rfl
  · split at ht <;> cases ht
    exact calms_endLoop

theorem calms_subscriptionWrittenBranch (h : s.phase = .live loop)
    (ht : s.subscriptionWrittenBranch config loop = some t) : Calms s t := by
  unfold subscriptionWrittenBranch at ht
  split at ht
  · dsimp only at ht
    split at ht
    · split at ht <;> cases ht <;> exact calms_stay h ⟨rfl, rfl⟩ (fun _ hc _ ↦ hc) rfl rfl
    · cases ht
      exact calms_endLoop
  · cases ht

theorem calms_subscriptionDeadlineBranch (ht : s.subscriptionDeadlineBranch loop = some t) :
    Calms s t := by
  obtain ⟨deadline, -, ht⟩ := Option.bind_eq_some_iff.mp ht
  split at ht <;> cases ht
  exact calms_endLoop

theorem calms_pongDeadlineBranch (ht : s.pongDeadlineBranch loop = some t) : Calms s t := by
  obtain ⟨deadline, -, ht⟩ := Option.bind_eq_some_iff.mp ht
  split at ht <;> cases ht
  exact calms_endLoop

theorem calms_stay_signing : Calms (s.stay loop) (s.stay { loop with signing := true }) :=
  calms_stay rfl ⟨rfl, rfl⟩ (fun _ hc _ ↦ hc) rfl rfl

theorem calms_handleSessionMessage {message : ServerMessage} :
    Calms (s.stay loop) (s.handleSessionMessage loop message) := by
  unfold handleSessionMessage
  extract_lets noted
  have hnoted : Calms (s.stay loop) (noted.stay loop) := by
    unfold noted
    split
    · exact calms_sendEvent (s := s.stay loop)
    · exact calms_of_eq rfl rfl le_rfl
  split
  · exact hnoted.trans calms_stay_signing
  · split
    · exact calms_failLoop
    · exact hnoted

theorem calms_readUnreadable {requestId : Option Uuid} : Calms s (s.readUnreadable requestId) := by
  unfold readUnreadable
  extract_lets taken answers
  have hanswer : Calms s ({ s with tracker := taken.2 }.answer answers) :=
    calms_update_answer rfl rfl le_rfl
  exact hanswer.trans calms_sendEvent

theorem calms_readPing {payload : List UInt8} (h : s.phase = .live loop) :
    Calms s (s.readBranch loop (.ping payload)) := by
  simp only [readBranch]
  split
  · rename_i writer hpong
    exact calms_stay_enqueue h hpong rfl rfl rfl
  · split
    · exact calms_endLoop
    · exact calms_stay h ⟨rfl, rfl⟩ (fun _ hc _ ↦ hc) rfl rfl

theorem calms_signedBranch {result : SignResult} (h : s.phase = .live loop)
    (ht : s.signedBranch config loop result = some t) : Calms s t := by
  cases result with
  | shutdown =>
    simp only [signedBranch] at ht
    split at ht <;> cases ht
    exact calms_failLoop
  | timedOut | failed =>
    cases ht
    exact calms_failLoop
  | signed =>
    simp only [signedBranch] at ht
    split at ht
    · cases ht
      exact calms_failLoop
    · split at ht
      · rename_i frame hf writer hframe
        cases ht
        rw [Writer.frame, Writer.frameWithReceipt, Checks.mapError_ok] at hframe
        exact calms_stay_enqueue h hframe rfl rfl rfl
      · cases ht
        exact calms_failLoop

theorem effects_quiet {epoch : ℕ} {effects : List WriterEffect} :
    ∀ event ∈ effects.flatMap (WriterEffect.events epoch), event.Quiet := by
  intro event he
  obtain ⟨effect, -, he⟩ := List.mem_flatMap.mp he
  rcases WriterEffect.events_cases he with ⟨tx, -, answer, -, rfl⟩ | ⟨c, -, rfl⟩ | ⟨l, rfl⟩
  all_goals trivial

theorem calms_detachedStep {index : ℕ} {op : WriterOp} (ht : s.detachedStep index op = some t) :
    Calms s t := by
  obtain ⟨writer, -, ht⟩ := Option.bind_eq_some_iff.mp ht
  obtain ⟨⟨writer', effects⟩, -, rfl⟩ := Option.map_eq_some_iff.mp ht
  exact calms_update_emit rfl rfl le_rfl effects_quiet

theorem calms_terminate {reason : ManagedWsTerminationReason} : Calms s (t.terminate reason) :=
  calms_of_phase (fun _ h ↦ by cases h)

theorem calms_nextRound {random : UInt64} : Calms s (t.nextRound config random) := by
  unfold nextRound
  split
  · exact calms_terminate
  · exact calms_of_phase (fun _ h ↦ by cases h)

theorem calms_afterSession {random : UInt64} {ended : SessionEnd} :
    Calms s (t.afterSession config random ended) := by
  cases ended with
  | closeRequested => exact calms_terminate
  | authenticationFailed | disconnected => exact calms_nextRound
  | terminated reason =>
    simp only [afterSession]
    generalize t.invalidSignatureStrikes + (if isStrike reason then 1 else 0) = strikes
    split
    · exact calms_nextRound
    · exact calms_terminate

theorem calms_authenticate {result : AuthResult} (ht : s.authenticate result = some t) :
    Calms s t := by
  rcases authenticate_cases ht with ⟨ended, rfl⟩ | ⟨text, ended, rfl⟩ | rfl
  all_goals exact calms_of_phase (fun _ h ↦ by cases h)

theorem calms_windowCancel (ht : s.windowCancel = some t) : Calms s t := by
  rcases windowCancel_cases ht with ⟨cancels, rfl⟩ | rfl
  · exact calms_of_eq rfl rfl le_rfl
  · exact calms_terminate

theorem calms_windowCommand (ht : s.windowCommand = some t) : Calms s t := by
  rcases windowCommand_cases ht with ⟨command, queue, -, rfl⟩ | rfl
  · exact calms_update_answer rfl rfl le_rfl
  · exact calms_terminate

theorem calms_establish {authenticatedAt : Instant} {result : ReadyResult}
    (ht : s.establish config authenticatedAt result = some t) :
    Calms s t ∨ t.phase = .live
      (.start s.connectionEpoch config.commandBuffer s.time authenticatedAt) := by
  rcases establish_cases ht with ⟨u, ended, rfl, -⟩ | ⟨u, rfl, -⟩
  · exact .inl (calms_of_phase (fun _ h ↦ by cases h))
  · exact .inr rfl

theorem taskStep_cases {op : TaskOp} (ht : s.taskStep config op = some t) :
    Calms s t ∨ ∃ authenticatedAt, t.phase = .live
      (.start s.connectionEpoch config.commandBuffer s.time authenticatedAt) := by
  -- the cases come in the order of the definition
  unfold taskStep at ht
  split at ht
  · split at ht <;> cases ht
    exact .inl calms_terminate
  · cases ht
    exact .inl (calms_of_phase (fun _ h ↦ by cases h))
  · cases ht
    exact .inl calms_nextRound
  · exact .inl (calms_authenticate ht)
  · exact (calms_establish ht).imp id (fun h ↦ ⟨_, h⟩)
  · cases ht
    exact .inl calms_afterSession
  · split at ht <;> cases ht
    exact .inl calms_terminate
  · split at ht <;> cases ht
    exact .inl (calms_of_phase (fun _ h ↦ by cases h))
  · exact .inl (calms_windowCancel ht)
  · exact .inl (calms_windowCommand ht)
  · cases ht
    exact .inl (calms_of_phase (fun _ h ↦ by cases h))
  · cases ht
  · cases ht
  · cases ht
  · cases ht
    exact .inl (calms_of_phase (fun _ h ↦ by cases h))
  · cases ht
    exact .inl (calms_of_phase (fun _ h ↦ by cases h))
  · cases ht

end Steps

end System

end MakerSdk.Session
