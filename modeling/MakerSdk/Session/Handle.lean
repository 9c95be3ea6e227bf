import MakerSdk.Session.Command

namespace MakerSdk.Session

open Base.Checks

inductive Method where
  | send
  | trySend
  | sendAwait
  | sendAwaitReady
  | sendInEpoch (connectionEpoch : ℕ)
  | trySendInEpoch (connectionEpoch : ℕ)
  | trySendAwaitInEpoch (connectionEpoch : ℕ)

def Method.blocks : Method → Bool
  | send | sendAwait | sendAwaitReady | sendInEpoch _ => true
  | trySend | trySendInEpoch _ | trySendAwaitInEpoch _ => false

def Method.awaits : Method → Bool
  | sendAwait | sendAwaitReady | trySendAwaitInEpoch _ => true
  | send | trySend | sendInEpoch _ | trySendInEpoch _ => false

def Method.boundEpoch : Method → Option ℕ
  | sendInEpoch epoch | trySendInEpoch epoch | trySendAwaitInEpoch epoch => some epoch
  | send | trySend | sendAwait | sendAwaitReady => none

structure Call where
  method : Method
  message : ClientMessage

def commandEpoch (state : ManagedWsState) (message : ClientMessage) :
    Except ManagedWsError (Option ℕ) :=
  match state with
  | .ready connectionEpoch => .ok (some connectionEpoch)
  | _ => if message.requiresReady then .error .notReady else .ok none

def readyEpoch (state : ManagedWsState) : Except ManagedWsError ℕ :=
  match state with
  | .ready connectionEpoch => .ok connectionEpoch
  | _ => .error .notReady

/-- `if self.ready_epoch()? != connection_epoch { return Err(NotReady) }`. -/
def boundTo (state : ManagedWsState) (connectionEpoch : ℕ) :
    Except ManagedWsError (Option ℕ) := do
  let ready ← readyEpoch state
  refuse (ready ≠ connectionEpoch) .notReady
  pure (some connectionEpoch)

namespace Call

def Fenced (call : Call) : Prop :=
  call.message.requiresReady = true ∨ call.method.boundEpoch.isSome ∨
    call.method = .sendAwaitReady

def connectionEpoch (call : Call) (state : ManagedWsState) : Except ManagedWsError (Option ℕ) :=
  match call.method with
  | .send | .trySend | .sendAwait => commandEpoch state call.message
  | .sendAwaitReady => (readyEpoch state).map some
  | .sendInEpoch epoch | .trySendInEpoch epoch | .trySendAwaitInEpoch epoch =>
    boundTo state epoch

/-- `send_with_epoch` and `try_send_with_epoch` up to the channel. -/
def sendWithEpoch (config : ManagedWsConfig) (message : ClientMessage)
    (connectionEpoch : Option ℕ) (tx : Waiter) : Except Answer ManagedCommand := do
  let prepared ← (prepareOutbound config message).mapError fun error ↦
    .sent (.error (.invalidMessage error))
  pure (.send prepared connectionEpoch tx)

def awaitCommand (config : ManagedWsConfig) (message : ClientMessage)
    (connectionEpoch : Option ℕ) (awaitId : ℕ) (tx : Waiter) : Except Answer ManagedCommand := do
  let prepared ← (prepareOutbound config message).mapError fun error ↦
    .response (.error (.invalidMessage error))
  let registration ← okOr (CorrelationKey.forClient message)
    (.response (.error .noCorrelationKey))
  pure (.sendAwait awaitId prepared connectionEpoch registration tx)

def build (config : ManagedWsConfig) (call : Call) (state : ManagedWsState) (awaitId : ℕ)
    (tx : Waiter) : Except Answer ManagedCommand :=
  if call.method.awaits then do
    let connectionEpoch ← (call.connectionEpoch state).mapError fun _ ↦
      .response (.error .notReady)
    awaitCommand config call.message connectionEpoch awaitId tx
  else do
    let connectionEpoch ← (call.connectionEpoch state).mapError fun error ↦ .sent (.error error)
    sendWithEpoch config call.message connectionEpoch tx

def queueFull (call : Call) : Answer :=
  if call.method.awaits then .response (.error .queueFull) else .sent (.error .queueFull)

@[simp] theorem queueFull_isError {call : Call} : call.queueFull.isError = true := by
  unfold queueFull
  split <;> rfl

section Spec

variable {config : ManagedWsConfig} {call : Call} {state : ManagedWsState} {awaitId : ℕ}
  {tx : Waiter} {epoch : Option ℕ} {command : ManagedCommand} {answer : Answer}

theorem readyEpoch_ok {ready : ℕ} (h : readyEpoch state = .ok ready) : state = .ready ready := by
  cases state with
  | ready epoch =>
    cases h
    rfl
  | connecting | connected | authenticated | reconciled | reconnecting | closed => cases h

theorem boundTo_ok {bound : ℕ} (h : boundTo state bound = .ok epoch) :
    state = .ready bound ∧ epoch = some bound := by
  simp only [boundTo, bind_ok, refuse_ok, pure_ok, exists_const, not_not] at h
  obtain ⟨ready, hready, rfl, rfl⟩ := h
  exact ⟨readyEpoch_ok hready, rfl⟩

theorem connectionEpoch_ok (h : call.connectionEpoch state = .ok epoch) (hf : call.Fenced) :
    ∃ ready, epoch = some ready ∧ state = .ready ready ∧
      ∀ bound ∈ call.method.boundEpoch, bound = ready := by
  have hcommand : commandEpoch state call.message = .ok epoch → call.message.requiresReady = true →
      ∃ ready, epoch = some ready ∧ state = .ready ready := by
    intro h hr
    unfold commandEpoch at h
    split at h
    · cases h
      exact ⟨_, rfl, rfl⟩
    · rw [if_pos hr] at h
      cases h
  have hbound : ∀ {bound}, boundTo state bound = .ok epoch → ∃ ready, epoch = some ready ∧
      state = .ready ready ∧ ∀ bound' ∈ some bound, bound' = ready := by
    intro bound h
    obtain ⟨rfl, rfl⟩ := boundTo_ok h
    exact ⟨bound, rfl, rfl, fun bound' hb ↦ (Option.mem_some_iff.mp hb).symm⟩
  obtain ⟨method, message⟩ := call
  cases method with
  | send | trySend | sendAwait =>
    obtain ⟨ready, he, hs⟩ := hcommand h (by simpa [Fenced, Method.boundEpoch] using hf)
    exact ⟨ready, he, hs, by simp [Method.boundEpoch]⟩
  | sendAwaitReady =>
    cases hr : readyEpoch state with
    | error error => simp [connectionEpoch, hr, Except.map] at h
    | ok ready =>
      simp only [connectionEpoch, hr, Except.map, Except.ok.injEq] at h
      exact ⟨ready, h.symm, readyEpoch_ok hr, by simp [Method.boundEpoch]⟩
  | sendInEpoch bound | trySendInEpoch bound | trySendAwaitInEpoch bound => exact hbound h

theorem build_ok (h : call.build config state awaitId tx = .ok command) :
    command.tx = tx ∧ PreparedClientMessage.new config call.message = some command.message ∧
      call.connectionEpoch state = .ok command.connectionEpoch := by
  unfold build at h
  split at h
  · simp only [awaitCommand, bind_ok, mapError_ok, okOr_ok, pure_ok] at h
    obtain ⟨epoch, hepoch, prepared, hprepared, keys, hkeys, rfl⟩ := h
    exact ⟨rfl, prepareOutbound_ok hprepared, hepoch⟩
  · simp only [sendWithEpoch, bind_ok, mapError_ok, pure_ok] at h
    obtain ⟨epoch, hepoch, prepared, hprepared, rfl⟩ := h
    exact ⟨rfl, prepareOutbound_ok hprepared, hepoch⟩

theorem build_error (h : call.build config state awaitId tx = .error answer) :
    answer.isError = true := by
  unfold build at h
  split at h
  · simp only [awaitCommand, bind_error, mapError_error, okOr_error] at h
    rcases h with ⟨_, -, rfl⟩ | ⟨epoch, -, ⟨_, -, rfl⟩ | ⟨prepared, -, ⟨-, rfl⟩ | ⟨keys, -, h⟩⟩⟩
    · rfl
    · rfl
    · rfl
    · cases h
  · simp only [sendWithEpoch, bind_error, mapError_error] at h
    rcases h with ⟨_, -, rfl⟩ | ⟨epoch, -, ⟨_, -, rfl⟩ | ⟨prepared, -, h⟩⟩
    · rfl
    · rfl
    · cases h

end Spec

end Call

end MakerSdk.Session
