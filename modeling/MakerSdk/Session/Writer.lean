import MakerSdk.Session.Tracker

namespace MakerSdk.Session

/-- Where the result of a write is sent: to the caller of the command, or to the session loop,
which waits for its ping. -/
inductive WriteResult where
  | caller (tx : Waiter)
  | ping (ticket : ℕ)

inductive WriterCommand where
  | frame (message : PreparedClientMessage) (done : Option WriteResult) (written : Option ℕ)
  | pong (payload : List UInt8)
  | close
  | stop

def WriterCommand.callers : WriterCommand → List Waiter
  | frame _ (some (.caller tx)) _ => [tx]
  | _ => []

def WriterCommand.isKeepalive : WriterCommand → Bool
  | frame _ (some (.ping _)) _ => true
  | _ => false

theorem WriterCommand.frame_isKeepalive {message : PreparedClientMessage}
    {done : Option WriteResult} {written : Option ℕ} (h : ∀ ticket, done ≠ some (.ping ticket)) :
    (frame message done written).isKeepalive = false := by
  rcases done with _ | ⟨tx⟩ | ⟨ticket⟩
  · rfl
  · rfl
  · exact absurd rfl (h ticket)

inductive LaneFull where
  | full | closed

/-- Where the writer task stands: picking its next command, inside `write`, past it with the
frame on the wire and its receipts still to send, or returned. -/
inductive WriterProgress where
  | selecting
  | writing (command : WriterCommand)
  | written (command : WriterCommand)
  | returned

/-- The writer task of the connection of one epoch, with its two bounded lanes. -/
structure Writer where
  epoch : ℕ
  capacity : ℕ
  control : List WriterCommand
  data : List WriterCommand
  progress : WriterProgress
  lanesOpen : Bool

inductive WriterEffect where
  | wrote (command : WriterCommand)
  | failed (error : ManagedWsError)
  | result (done : WriteResult) (result : Except ManagedWsError Unit)
  | receipt (ticket : ℕ)
  | dropResult (done : WriteResult)
  | dropReceipt (ticket : ℕ)

def WriterEffect.callers : WriterEffect → List Waiter
  | result (.caller tx) _ | dropResult (.caller tx) => [tx]
  | _ => []

def WriterEffect.isRefusal : WriterEffect → Bool
  | result _ (.error error) => error.isRefusal
  | _ => false

namespace WriterCommand

/-- Dropping a command drops the senders in it. -/
def drop : WriterCommand → List WriterEffect
  | frame _ done written => done.toList.map .dropResult ++ written.toList.map .dropReceipt
  | _ => []

def receipts : WriterCommand → List WriterEffect
  | frame _ done written => written.toList.map .receipt ++ done.toList.map (.result · (.ok ()))
  | _ => []

def failure (error : ManagedWsError) : WriterCommand → List WriterEffect
  | frame _ done written =>
    .failed error :: done.toList.map (.result · (.error error)) ++ written.toList.map .dropReceipt
  | _ => [.failed error]

end WriterCommand

namespace Writer

def spawn (epoch capacity : ℕ) : Writer where
  epoch := epoch
  capacity := capacity
  control := []
  data := []
  progress := .selecting
  lanesOpen := true

def isReturned (writer : Writer) : Bool :=
  match writer.progress with
  | .returned => true
  | _ => false

def enqueue (writer : Writer) (lane : Lane) (command : WriterCommand) : Except LaneFull Writer :=
  if writer.isReturned then .error .closed
  else
    match lane with
    | .control =>
      if writer.control.length ≥ writer.capacity then .error .full
      else .ok { writer with control := writer.control ++ [command] }
    | .data =>
      if writer.data.length ≥ writer.capacity then .error .full
      else .ok { writer with data := writer.data ++ [command] }

def frameWithReceipt (writer : Writer) (message : PreparedClientMessage)
    (done : Option WriteResult) (written : Option ℕ) :
    Except (LaneFull × Option WriteResult) Writer :=
  (writer.enqueue message.lane (.frame message done written)).mapError fun reason ↦ (reason, done)

def frame (writer : Writer) (message : PreparedClientMessage) (done : Option WriteResult) :
    Except (LaneFull × Option WriteResult) Writer :=
  writer.frameWithReceipt message done none

def pong (writer : Writer) (payload : List UInt8) : Except LaneFull Writer :=
  writer.enqueue .control (.pong payload)

/-- Returning drops both receivers and what is still queued. -/
def finish (writer : Writer) : Writer × List WriterEffect :=
  ({ writer with control := [], data := [], progress := .returned },
    (writer.control ++ writer.data).flatMap WriterCommand.drop)

def take (writer : Writer) : WriterCommand → Writer × List WriterEffect
  | .close | .stop => writer.finish
  | command => ({ writer with progress := .writing command }, [])

end Writer

inductive WriterOp where
  | next
  | flush
  | fail (timedOut : Bool)
  | report
  | abort
deriving DecidableEq

/-- One step of `run`: pick a command (the control lane first), finish or fail the write that is
under way, send its receipts; `abort` is the task being cancelled from outside. -/
def Writer.step (writer : Writer) : WriterOp → Option (Writer × List WriterEffect)
  | .next =>
    match writer.progress with
    | .selecting =>
      match writer.control, writer.data with
      | command :: control, _ => some ({ writer with control }.take command)
      | [], command :: data => some ({ writer with data }.take command)
      | [], [] => if writer.lanesOpen then none else some writer.finish
    | _ => none
  | .flush =>
    match writer.progress with
    | .writing command => some ({ writer with progress := .written command }, [.wrote command])
    | _ => none
  | .fail timedOut =>
    match writer.progress with
    | .writing command =>
      some (writer.finish.1,
        command.failure (if timedOut then .writeTimeout else .write) ++ writer.finish.2)
    | _ => none
  | .report =>
    match writer.progress with
    | .written command => some ({ writer with progress := .selecting }, command.receipts)
    | _ => none
  | .abort =>
    match writer.progress with
    | .writing command | .written command =>
      some (writer.finish.1, command.drop ++ writer.finish.2)
    | .selecting => some writer.finish
    | .returned => none

def WriterProgress.commands : WriterProgress → List WriterCommand
  | writing command | written command => [command]
  | selecting | returned => []

namespace Writer

def commands (writer : Writer) : List WriterCommand :=
  writer.progress.commands ++ writer.control ++ writer.data

def callers (writer : Writer) : List Waiter := writer.commands.flatMap WriterCommand.callers

theorem callers_subset {w w' : Writer} (h : w'.commands ⊆ w.commands) : w'.callers ⊆ w.callers := by
  intro tx htx
  obtain ⟨command, hc, htx⟩ := List.mem_flatMap.mp htx
  exact List.mem_flatMap.mpr ⟨command, h hc, htx⟩

end Writer

namespace WriterCommand

variable (command : WriterCommand)

theorem drop_callers : command.drop.flatMap WriterEffect.callers = command.callers := by
  rcases command with ⟨message, _ | _ | _, _ | _⟩ | _ | _ | _ <;> rfl

theorem receipts_callers : command.receipts.flatMap WriterEffect.callers = command.callers := by
  rcases command with ⟨message, _ | _ | _, _ | _⟩ | _ | _ | _ <;> rfl

theorem failure_callers (error : ManagedWsError) :
    (command.failure error).flatMap WriterEffect.callers = command.callers := by
  rcases command with ⟨message, _ | _ | _, _ | _⟩ | _ | _ | _ <;> rfl

theorem drop_isRefusal : ∀ effect ∈ command.drop, effect.isRefusal = false := by
  rcases command with ⟨message, _ | _ | _, _ | _⟩ | _ | _ | _ <;>
    simp [drop, WriterEffect.isRefusal]

theorem receipts_isRefusal : ∀ effect ∈ command.receipts, effect.isRefusal = false := by
  rcases command with ⟨message, _ | _ | _, _ | _⟩ | _ | _ | _ <;>
    simp [receipts, WriterEffect.isRefusal]

theorem failure_isRefusal {error : ManagedWsError} (h : error.isRefusal = false) :
    ∀ effect ∈ command.failure error, effect.isRefusal = false := by
  rcases command with ⟨message, _ | _ | _, _ | _⟩ | _ | _ | _ <;>
    simp [failure, WriterEffect.isRefusal, h]

end WriterCommand

namespace Writer

variable {writer writer' : Writer} {effects : List WriterEffect} {command : WriterCommand}

theorem enqueue_cases {lane : Lane} (h : writer.enqueue lane command = .ok writer') :
    writer.progress ≠ .returned ∧
      (lane = .control ∧ writer' = { writer with control := writer.control ++ [command] } ∨
        lane = .data ∧ writer' = { writer with data := writer.data ++ [command] }) := by
  unfold enqueue at h
  split at h
  · cases h
  · rename_i hr
    refine ⟨fun hp ↦ hr (by simp [isReturned, hp]), ?_⟩
    split at h
    · split at h
      · cases h
      · cases h
        exact .inl ⟨rfl, rfl⟩
    · split at h
      · cases h
      · cases h
        exact .inr ⟨rfl, rfl⟩

theorem enqueue_commands {lane : Lane} (h : writer.enqueue lane command = .ok writer') :
    ∀ c, c ∈ writer'.commands ↔ c ∈ writer.commands ∨ c = command := by
  intro c
  obtain ⟨-, ⟨-, rfl⟩ | ⟨-, rfl⟩⟩ := enqueue_cases h
  all_goals simp only [commands, List.mem_append, List.mem_singleton]; tauto

theorem enqueue_task {lane : Lane} (h : writer.enqueue lane command = .ok writer') :
    writer'.epoch = writer.epoch ∧ writer'.progress = writer.progress := by
  obtain ⟨-, ⟨-, rfl⟩ | ⟨-, rfl⟩⟩ := enqueue_cases h <;> exact ⟨rfl, rfl⟩

theorem enqueue_callers {lane : Lane} (h : writer.enqueue lane command = .ok writer') :
    writer'.callers ⊆ command.callers ++ writer.callers := by
  intro tx htx
  obtain ⟨c, hc, htx⟩ := List.mem_flatMap.mp htx
  rcases (enqueue_commands h c).mp hc with hc | rfl
  · exact List.mem_append_right _ (List.mem_flatMap.mpr ⟨c, hc, htx⟩)
  · exact List.mem_append_left _ htx

theorem mem_finish_effects {effect : WriterEffect} (h : effect ∈ writer.finish.2) :
    ∃ command ∈ writer.commands, effect ∈ command.drop := by
  obtain ⟨command, hc, he⟩ := List.mem_flatMap.mp h
  refine ⟨command, ?_, he⟩
  rw [commands, List.append_assoc]
  exact List.mem_append_right _ hc

structure Returns (writer writer' : Writer) (effects : List WriterEffect) : Prop where
  commands : writer'.commands = []
  effects : ∀ effect ∈ effects, ∃ command ∈ writer.commands,
    effect ∈ command.drop ∨ ∃ error, error.isRefusal = false ∧ effect ∈ command.failure error

theorem finish_returns (hsub : writer'.commands ⊆ writer.commands) :
    Returns writer writer'.finish.1 writer'.finish.2 := by
  refine ⟨rfl, fun effect he ↦ ?_⟩
  obtain ⟨command, hc, he⟩ := mem_finish_effects he
  exact ⟨command, hsub hc, .inl he⟩

theorem Returns.append {first : List WriterEffect} (h : Returns writer writer' effects)
    (hc : command ∈ writer.commands)
    (hf : ∀ effect ∈ first, effect ∈ command.drop ∨
      ∃ error, error.isRefusal = false ∧ effect ∈ command.failure error) :
    Returns writer writer' (first ++ effects) := by
  refine ⟨h.commands, fun effect he ↦ ?_⟩
  rcases List.mem_append.mp he with he | he
  · exact ⟨command, hc, hf effect he⟩
  · exact h.effects effect he

theorem take_cases {first : Writer} (hsub : command :: writer.commands ⊆ first.commands)
    (hp : writer.progress = .selecting) (h : writer.take command = (writer', effects)) :
    (writer' = { writer with progress := .writing command } ∧
      writer'.commands ⊆ first.commands ∧ effects = []) ∨
    Returns first writer' effects := by
  have hfinish : Returns first writer.finish.1 writer.finish.2 :=
    finish_returns (List.Subset.trans (List.subset_cons_self _ _) hsub)
  cases command with
  | close | stop =>
    cases h
    exact .inr hfinish
  | frame | pong =>
    cases h
    refine .inl ⟨rfl, ?_, rfl⟩
    simpa [commands, WriterProgress.commands, hp] using hsub

variable {op : WriterOp}

theorem step_cases (h : writer.step op = some (writer', effects)) :
    (∃ command, writer'.progress = .writing command ∧ writer'.commands ⊆ writer.commands ∧
      effects = []) ∨
    (∃ command, writer.progress = .writing command ∧
      writer' = { writer with progress := .written command } ∧ effects = [.wrote command]) ∨
    (∃ command, writer.progress = .written command ∧
      writer' = { writer with progress := .selecting } ∧ effects = command.receipts) ∨
    Returns writer writer' effects := by
  have hself : Returns writer writer.finish.1 writer.finish.2 := finish_returns (fun _ h ↦ h)
  cases hp : writer.progress with
  | selecting =>
    cases op with
    | next =>
      cases hc : writer.control with
      | cons c control =>
        simp only [step, hp, hc, Option.some.injEq] at h
        refine (take_cases ?_ rfl h).elim ?_ (fun hr ↦ .inr (.inr (.inr hr)))
        · simp [commands, hp, WriterProgress.commands, hc]
        · rintro ⟨rfl, hs, he⟩
          exact .inl ⟨c, rfl, hs, he⟩
      | nil =>
        cases hd : writer.data with
        | cons c data =>
          simp only [step, hp, hc, hd, Option.some.injEq] at h
          refine (take_cases ?_ rfl h).elim ?_ (fun hr ↦ .inr (.inr (.inr hr)))
          · simp [commands, hp, WriterProgress.commands, hc, hd]
          · rintro ⟨rfl, hs, he⟩
            exact .inl ⟨c, rfl, hs, he⟩
        | nil =>
          simp only [step, hp, hc, hd] at h
          split at h
          · cases h
          · cases h
            exact .inr (.inr (.inr hself))
    | abort =>
      simp only [step, hp, Option.some.injEq] at h
      cases h
      exact .inr (.inr (.inr hself))
    | flush | fail | report => simp [step, hp] at h
  | writing command =>
    have hc : command ∈ writer.commands := by simp [commands, hp, WriterProgress.commands]
    cases op with
    | flush =>
      simp only [step, hp, Option.some.injEq, Prod.mk.injEq] at h
      exact .inr (.inl ⟨command, rfl, h.1.symm, h.2.symm⟩)
    | fail timedOut =>
      simp only [step, hp, Option.some.injEq] at h
      cases h
      have hfail :
          (if timedOut then ManagedWsError.writeTimeout else .write).isRefusal = false := by
        cases timedOut <;> rfl
      exact .inr (.inr (.inr (hself.append hc fun effect he ↦ .inr ⟨_, hfail, he⟩)))
    | abort =>
      simp only [step, hp, Option.some.injEq] at h
      cases h
      exact .inr (.inr (.inr (hself.append hc fun effect he ↦ .inl he)))
    | next | report => simp [step, hp] at h
  | written command =>
    have hc : command ∈ writer.commands := by simp [commands, hp, WriterProgress.commands]
    cases op with
    | report =>
      simp only [step, hp, Option.some.injEq, Prod.mk.injEq] at h
      exact .inr (.inr (.inl ⟨command, rfl, h.1.symm, h.2.symm⟩))
    | abort =>
      simp only [step, hp, Option.some.injEq] at h
      cases h
      exact .inr (.inr (.inr (hself.append hc fun effect he ↦ .inl he)))
    | next | flush | fail => simp [step, hp] at h
  | returned => cases op <;> simp [step, hp] at h

theorem Returns.callers (h : Returns writer writer' effects) :
    effects.flatMap WriterEffect.callers ⊆ writer.callers := by
  intro tx htx
  obtain ⟨effect, he, htx⟩ := List.mem_flatMap.mp htx
  obtain ⟨command, hc, he⟩ := h.effects effect he
  refine List.mem_flatMap.mpr ⟨command, hc, ?_⟩
  rcases he with he | ⟨error, -, he⟩
  · rw [← command.drop_callers]
    exact List.mem_flatMap.mpr ⟨effect, he, htx⟩
  · rw [← command.failure_callers error]
    exact List.mem_flatMap.mpr ⟨effect, he, htx⟩

theorem step_commands (h : writer.step op = some (writer', effects)) :
    writer'.commands ⊆ writer.commands := by
  rcases step_cases h with ⟨c, -, hs, -⟩ | ⟨c, hp, rfl, -⟩ | ⟨c, hp, rfl, -⟩ | hr
  · exact hs
  · simp [commands, hp, WriterProgress.commands]
  · simp [commands, hp, WriterProgress.commands]
  · rw [hr.commands]
    exact List.nil_subset _

theorem step_effects (h : writer.step op = some (writer', effects)) :
    effects.flatMap WriterEffect.callers ⊆ writer.callers := by
  rcases step_cases h with ⟨c, -, -, rfl⟩ | ⟨c, -, -, rfl⟩ | ⟨c, hp, -, rfl⟩ | hr
  · exact List.nil_subset _
  · exact List.nil_subset _
  · rw [c.receipts_callers, callers, commands, hp]
    simp [WriterProgress.commands]
  · exact hr.callers

theorem step_isRefusal (h : writer.step op = some (writer', effects)) :
    ∀ effect ∈ effects, effect.isRefusal = false := by
  intro effect he
  rcases step_cases h with ⟨c, -, -, rfl⟩ | ⟨c, -, -, rfl⟩ | ⟨c, -, -, rfl⟩ | hr
  · cases he
  · rw [List.mem_singleton.mp he]
    rfl
  · exact c.receipts_isRefusal effect he
  · obtain ⟨c, -, hd | ⟨error, herror, hf⟩⟩ := hr.effects effect he
    · exact c.drop_isRefusal effect hd
    · exact c.failure_isRefusal herror effect hf

theorem take_epoch (h : writer.take command = (writer', effects)) :
    writer'.epoch = writer.epoch := by
  cases command <;> cases h <;> rfl

theorem step_epoch (h : writer.step op = some (writer', effects)) :
    writer'.epoch = writer.epoch := by
  cases op with
  | next =>
    simp only [step] at h
    split at h
    · split at h
      · exact (take_epoch (Option.some.inj h) :)
      · exact (take_epoch (Option.some.inj h) :)
      · split at h
        · cases h
        · cases h
          rfl
    · cases h
  | flush | fail | report =>
    simp only [step] at h
    split at h <;> cases h
    rfl
  | abort =>
    simp only [step] at h
    split at h <;> cases h <;> rfl

end Writer

end MakerSdk.Session
