import MakerSdk.Session.Run

namespace MakerSdk.Session

open Base

/-- Through a step the loop's wait for a subscription change stands still: no frame with a write
receipt is added to the lanes. -/
structure Loop.Still (loop loop' : Loop) : Prop where
  written : loop'.subscriptionWritten = loop.subscriptionWritten
  deadline : loop'.subscriptionDeadline = loop.subscriptionDeadline
  ticket : loop.nextTicket ≤ loop'.nextTicket
  frames : ∀ message done ticket, .frame message done (some ticket) ∈ loop'.writer.commands →
    .frame message done (some ticket) ∈ loop.writer.commands

theorem Loop.Still.refl (loop : Loop) : loop.Still loop := ⟨rfl, rfl, le_rfl, fun _ _ _ h ↦ h⟩

theorem Loop.Still.enqueue {loop : Loop} {writer : Writer} {lane : Lane} {command : WriterCommand}
    (h : loop.writer.enqueue lane command = .ok writer)
    (hframe : ∀ message done ticket, command ≠ .frame message done (some ticket)) :
    ∀ message done ticket, .frame message done (some ticket) ∈ writer.commands →
      .frame message done (some ticket) ∈ loop.writer.commands := by
  intro message done ticket hc
  rcases (Writer.enqueue_commands h _).mp hc with hc | hc
  · exact hc
  · exact absurd hc.symm (hframe message done ticket)

namespace System

structure Still (s t : System) : Prop where
  subscriptions : t.subscriptions = s.subscriptions
  live : ∀ loop', t.phase = .live loop' → ∃ loop, s.phase = .live loop ∧ loop.Still loop'

section Rules

variable {s t u : System} {loop loop' : Loop}

theorem Still.trans (h : Still s t) (h' : Still t u) : Still s u where
  subscriptions := h'.subscriptions.trans h.subscriptions
  live loop'' hu := by
    obtain ⟨loop', ht, hl'⟩ := h'.live loop'' hu
    obtain ⟨loop, hs, hl⟩ := h.live loop' ht
    exact ⟨loop, hs, hl'.written.trans hl.written, hl'.deadline.trans hl.deadline,
      hl.ticket.trans hl'.ticket, fun m d k hc ↦ hl.frames m d k (hl'.frames m d k hc)⟩

theorem still_of_eq (hphase : t.phase = s.phase) (hsub : t.subscriptions = s.subscriptions) :
    Still s t :=
  ⟨hsub, fun loop h ↦ ⟨loop, hphase ▸ h, .refl loop⟩⟩

theorem still_idle (hlive : ∀ loop, t.phase ≠ .live loop)
    (hsub : t.subscriptions = s.subscriptions) : Still s t :=
  ⟨hsub, fun loop h ↦ absurd h (hlive loop)⟩

theorem still_stay (h : s.phase = .live loop) (hl : loop.Still loop') :
    Still s (s.stay loop') where
  subscriptions := rfl
  live loop'' hl'' := by
    cases hl''
    exact ⟨loop, h, hl⟩

theorem still_endLoop {ended : AuthenticatedSessionEnd} {rejected : Bool} :
    Still s (s.endLoop loop ended rejected) :=
  still_idle (fun _ h ↦ by cases h) rfl

theorem still_failLoop {failure : SessionFailure} (h : t.subscriptions = s.subscriptions) :
    Still s (t.failLoop loop failure) := by
  cases failure <;> exact still_idle (fun _ h ↦ by cases h) h

theorem still_terminate {reason : ManagedWsTerminationReason} : Still s (s.terminate reason) :=
  still_idle (fun _ h ↦ by cases h) rfl

end Rules

section Steps

variable {s t : System} {loop : Loop} {config : ManagedWsConfig}

theorem still_handleStep {op : HandleOp} (ht : s.handleStep config op = some t) : Still s t := by
  have hside := (fromHandle_handleStep ht).side
  simp only [taskSide, Prod.mk.injEq] at hside
  exact still_of_eq hside.1 hside.2.1

theorem still_cancelBranch (ht : s.cancelBranch loop = some t) : Still s t := by
  unfold cancelBranch at ht
  split at ht
  · cases ht
    exact still_of_eq rfl rfl
  · split at ht <;> cases ht
    exact still_endLoop

theorem still_deadline {deadline : Option Instant} {kind : ManagedWsFailureKind} {text : String}
    (ht : (deadline.bind fun deadline ↦ if deadline ≤ s.time then
      some ((s.fail kind text).endLoop loop .disconnected false) else none) = some t) :
    Still s t := by
  obtain ⟨deadline, -, ht⟩ := Option.bind_eq_some_iff.mp ht
  split at ht <;> cases ht
  exact still_idle (fun _ h ↦ by cases h) rfl

theorem still_pingTickBranch (h : s.phase = .live loop)
    (ht : s.pingTickBranch config loop = some t) : Still s t := by
  unfold pingTickBranch at ht
  split at ht
  · obtain ⟨ping, -, rfl⟩ := Option.map_eq_some_iff.mp ht
    dsimp only
    split
    · rename_i writer hframe
      rw [Writer.frame, Writer.frameWithReceipt, Checks.mapError_ok] at hframe
      exact still_stay h ⟨rfl, rfl, Nat.le_succ _,
        Loop.Still.enqueue hframe (fun _ _ _ h ↦ by cases h)⟩
    · exact still_stay h ⟨rfl, rfl, le_rfl, fun _ _ _ h ↦ h⟩
    · exact still_endLoop
  · cases ht

theorem still_pingWrittenBranch (h : s.phase = .live loop)
    (ht : s.pingWrittenBranch config loop = some t) : Still s t := by
  unfold pingWrittenBranch at ht
  split at ht
  · dsimp only at ht
    split at ht <;> cases ht <;> exact still_stay h ⟨rfl, rfl, le_rfl, fun _ _ _ h ↦ h⟩
  · cases ht

theorem still_handleSessionMessage {message : ServerMessage} :
    Still (s.stay loop) (s.handleSessionMessage loop message) := by
  unfold handleSessionMessage
  extract_lets noted
  have hnoted : noted.subscriptions = s.subscriptions := by
    unfold noted
    split <;> rfl
  have hstay : Still (s.stay loop) (noted.stay loop) := still_of_eq rfl hnoted
  split
  · exact hstay.trans (still_stay rfl ⟨rfl, rfl, le_rfl, fun _ _ _ h ↦ h⟩)
  · split
    · exact still_failLoop hnoted
    · exact hstay

theorem still_readBranch {result : ReadResult} (h : s.phase = .live loop)
    (hresult : ∀ message, result ≠ .message message) : Still s (s.readBranch loop result) := by
  cases result with
  | ping payload =>
    simp only [readBranch]
    split
    · rename_i writer hpong
      exact still_stay h ⟨rfl, rfl, le_rfl, Loop.Still.enqueue hpong (fun _ _ _ h ↦ by cases h)⟩
    · split
      · exact still_endLoop
      · exact still_stay h (.refl loop)
  | pong => exact still_stay h (.refl loop)
  | message message => exact absurd rfl (hresult message)
  | unreadable requestId => exact still_of_eq rfl rfl
  | error detail => exact still_idle (fun _ h ↦ by cases h) rfl
  | closed => exact still_endLoop

theorem still_signedBranch {result : SignResult} (h : s.phase = .live loop)
    (ht : s.signedBranch config loop result = some t) : Still s t := by
  cases result with
  | shutdown =>
    simp only [signedBranch] at ht
    split at ht <;> cases ht
    exact still_failLoop rfl
  | timedOut | failed =>
    cases ht
    exact still_failLoop rfl
  | signed =>
    simp only [signedBranch] at ht
    split at ht
    · cases ht
      exact still_failLoop rfl
    · split at ht
      · rename_i frame hf writer hframe
        cases ht
        rw [Writer.frame, Writer.frameWithReceipt, Checks.mapError_ok] at hframe
        exact still_stay h ⟨rfl, rfl, le_rfl,
          Loop.Still.enqueue hframe (fun _ _ _ h ↦ by cases h)⟩
      · cases ht
        exact still_failLoop rfl

def concernsTarget : Branch → Bool
  | .command | .subscriptionWritten | .read (.message _) => true
  | _ => false

theorem still_loopStep {branch : Branch} (h : s.phase = .live loop)
    (hbranch : concernsTarget branch = false) (ht : s.loopStep config loop branch = some t) :
    Still s t := by
  unfold loopStep at ht
  split at ht
  · split at ht
    · exact still_signedBranch h ht
    · cases ht
  · cases branch with
    | shutdown | writerEnded =>
      dsimp only at ht
      split at ht <;> cases ht
      exact still_endLoop
    | gap =>
      dsimp only at ht
      split at ht <;> cases ht
      exact still_idle (fun _ h ↦ by cases h) rfl
    | command | subscriptionWritten => cases hbranch
    | subscriptionDeadline | pongDeadline => exact still_deadline ht
    | cancel => exact still_cancelBranch ht
    | pingTick => exact still_pingTickBranch h ht
    | pingWritten => exact still_pingWrittenBranch h ht
    | read result =>
      cases ht
      refine still_readBranch h fun message hm ↦ ?_
      rw [hm] at hbranch
      cases hbranch
    | signed result => cases ht

theorem still_detachedStep {index : ℕ} {op : WriterOp} (ht : s.detachedStep index op = some t) :
    Still s t := by
  obtain ⟨writer, -, ht⟩ := Option.bind_eq_some_iff.mp ht
  obtain ⟨⟨writer', effects⟩, -, rfl⟩ := Option.map_eq_some_iff.mp ht
  exact still_of_eq rfl rfl

theorem nextRound_target {random : UInt64} :
    (s.nextRound config random).subscriptions = s.subscriptions ∧
      ∀ loop, (s.nextRound config random).phase ≠ .live loop := by
  unfold nextRound
  split <;> exact ⟨rfl, fun _ h ↦ by cases h⟩

theorem afterSession_target {random : UInt64} {ended : SessionEnd} :
    (s.afterSession config random ended).subscriptions = s.subscriptions ∧
      ∀ loop, (s.afterSession config random ended).phase ≠ .live loop := by
  cases ended with
  | closeRequested => exact ⟨rfl, fun _ h ↦ by cases h⟩
  | authenticationFailed => exact nextRound_target
  | terminated reason =>
    simp only [afterSession]
    generalize s.invalidSignatureStrikes + (if isStrike reason then 1 else 0) = strikes
    split
    · exact nextRound_target
    · exact ⟨rfl, fun _ h ↦ by cases h⟩
  | disconnected => exact nextRound_target

theorem finish_target {random : UInt64} {ended : SessionEnd} :
    (s.finish config random ended).subscriptions = s.subscriptions.connectionLost ∧
      ∀ loop, (s.finish config random ended).phase ≠ .live loop := by
  unfold finish
  extract_lets returned drained cleared
  have hcleared : cleared.connectionEnded.subscriptions = s.subscriptions.connectionLost := by
    unfold connectionEnded
    split <;> rfl
  obtain ⟨hsub, hlive⟩ := @afterSession_target cleared.connectionEnded config random ended
  exact ⟨hsub.trans hcleared, hlive⟩

theorem still_authenticate {result : AuthResult} (ht : s.authenticate result = some t) :
    Still s t := by
  rcases authenticate_cases ht with ⟨ended, rfl⟩ | ⟨text, ended, rfl⟩ | rfl
  all_goals exact still_idle (fun _ h ↦ by cases h) rfl

theorem establish_target {authenticatedAt : Instant} {result : ReadyResult}
    (ht : s.establish config authenticatedAt result = some t) :
    Still s t ∨ t.subscriptions = s.subscriptions ∧ t.phase = .live
      (.start s.connectionEpoch config.commandBuffer s.time authenticatedAt) := by
  rcases establish_cases ht with ⟨u, ended, rfl, hsub⟩ | ⟨u, rfl, hsub⟩
  · exact .inl (still_idle (fun _ h ↦ by cases h) hsub)
  · exact .inr ⟨hsub, rfl⟩

theorem still_window (ht : s.windowCommand = some t ∨ s.windowCancel = some t) : Still s t := by
  rcases ht with ht | ht
  · rcases windowCommand_cases ht with ⟨command, queue, -, rfl⟩ | rfl
    · exact still_of_eq rfl rfl
    · exact still_terminate
  · rcases windowCancel_cases ht with ⟨cancels, rfl⟩ | rfl
    · exact still_of_eq rfl rfl
    · exact still_terminate

theorem taskStep_target {op : TaskOp} (ht : s.taskStep config op = some t) :
    (Still s t ∧ ∀ random, op ≠ .finish random) ∨
    (∃ ended random, op = .finish random ∧ t = s.finish config random ended) ∨
    ∃ authenticatedAt result, op = .establish result ∧ t.subscriptions = s.subscriptions ∧
      t.phase = .live (.start s.connectionEpoch config.commandBuffer s.time authenticatedAt) := by
  -- the cases come in the order of the definition
  unfold taskStep at ht
  split at ht
  · split at ht <;> cases ht
    exact .inl ⟨still_terminate, fun _ h ↦ by cases h⟩
  · cases ht
    exact .inl ⟨still_idle (fun _ h ↦ by cases h) rfl, fun _ h ↦ by cases h⟩
  · rename_i detail random _
    cases ht
    obtain ⟨hsub, hlive⟩ := @nextRound_target (s.fail .network detail) config random
    exact .inl ⟨still_idle hlive hsub, fun _ h ↦ by cases h⟩
  · exact .inl ⟨still_authenticate ht, fun _ h ↦ by cases h⟩
  · rcases establish_target ht with hs | ⟨hsub, hlive⟩
    · exact .inl ⟨hs, fun _ h ↦ by cases h⟩
    · exact .inr (.inr ⟨_, _, rfl, hsub, hlive⟩)
  · cases ht
    exact .inr (.inl ⟨_, _, rfl, rfl⟩)
  · split at ht <;> cases ht
    exact .inl ⟨still_terminate, fun _ h ↦ by cases h⟩
  · split at ht <;> cases ht
    exact .inl ⟨still_idle (fun _ h ↦ by cases h) rfl, fun _ h ↦ by cases h⟩
  · exact .inl ⟨still_window (.inr ht), fun _ h ↦ by cases h⟩
  · exact .inl ⟨still_window (.inl ht), fun _ h ↦ by cases h⟩
  · cases ht
    exact .inl ⟨still_idle (fun _ h ↦ by cases h) rfl, fun _ h ↦ by cases h⟩
  · cases ht
  · cases ht
  · cases ht
  · cases ht
    refine .inl ⟨still_idle (fun _ h ↦ by cases h) ?_, fun _ h ↦ by cases h⟩
    unfold panicked
    cases s.phase <;> rfl
  · cases ht
    refine .inl ⟨still_idle (fun _ h ↦ by cases h) ?_, fun _ h ↦ by cases h⟩
    unfold unwound connectionEnded
    split <;> rfl
  · cases ht

end Steps

end System

end MakerSdk.Session
