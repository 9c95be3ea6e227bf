import MakerSdk.Session.Subscriptions
import MakerSdk.Session.Writer

namespace MakerSdk.Session

open Base.Checks

inductive ManagedCommand where
  | send (message : PreparedClientMessage) (connectionEpoch : Option ℕ) (tx : Waiter)
  | sendAwait (awaitId : ℕ) (message : PreparedClientMessage) (connectionEpoch : Option ℕ)
      (registration : List CorrelationKey) (tx : Waiter)

namespace ManagedCommand

def tx : ManagedCommand → Waiter
  | send _ _ tx | sendAwait _ _ _ _ tx => tx

def connectionEpoch : ManagedCommand → Option ℕ
  | send _ epoch _ | sendAwait _ _ epoch _ _ => epoch

def message : ManagedCommand → PreparedClientMessage
  | send message _ _ | sendAwait _ message _ _ _ => message

/-- `Disconnected` in the error type the caller expects. -/
def disconnected : ManagedCommand → Answer
  | send .. => .sent (.error .disconnected)
  | sendAwait .. => .response (.error .disconnected)

def closed : ManagedCommand → Answer
  | send .. => .sent (.error .closed)
  | sendAwait .. => .response (.error .disconnected)

@[simp] theorem disconnected_isError (command : ManagedCommand) :
    command.disconnected.isError = true := by
  cases command <;> rfl

@[simp] theorem closed_isError (command : ManagedCommand) : command.closed.isError = true := by
  cases command <;> rfl

end ManagedCommand

/-- The receiving half of a oneshot channel that the session loop waits on; `some none` once its
sender is gone. -/
structure Receipt (α : Type) where
  ticket : ℕ
  value : Option (Option α)

def Receipt.resolve {α : Type} (ticket : ℕ) (value : Option α) (receipt : Receipt α) : Receipt α :=
  if receipt.ticket = ticket ∧ receipt.value.isNone then { receipt with value := some value }
  else receipt

structure SessionIo where
  lanes : Writer
  tracker : AwaitTracker
  subscriptions : DesiredSubscriptions
  subscriptionWritten : Option (Receipt Instant)
  nextTicket : ℕ

structure Handled where
  io : SessionIo
  answers : List (Waiter × Answer)
  enqueued : Bool
  ended : Option AuthenticatedSessionEnd

namespace SessionIo

def refused (io : SessionIo) (tx : Waiter) (answer : Answer) : Handled :=
  ⟨io, [(tx, answer)], false, none⟩

/-- The frame is in its lane: a subscription change it carries is now pending. -/
def accepted (io : SessionIo) (lanes : Writer) (change : Option SubscriptionChange)
    (answers : List (Waiter × Answer)) : Handled :=
  match change with
  | none => ⟨{ io with lanes }, answers, true, none⟩
  | some change =>
    ⟨{ io with
        lanes
        subscriptions := io.subscriptions.begin change
        subscriptionWritten := some ⟨io.nextTicket, none⟩
        nextTicket := io.nextTicket + 1 }, answers, true, none⟩

def ticket (io : SessionIo) (change : Option SubscriptionChange) : Option ℕ :=
  change.map fun _ ↦ io.nextTicket

end SessionIo

/-- `handle_command`, a `tx.is_closed()` being `isClosed tx`. -/
def handleCommand (isClosed : Waiter → Bool) (currentEpoch : ℕ) (io : SessionIo) :
    Option ManagedCommand → Handled
  | some (.send message connectionEpoch tx) =>
    if isClosed tx then ⟨io, [], false, none⟩
    else if connectionEpoch.any (· != currentEpoch) then
      io.refused tx (.sent (.error .notReady))
    else if message.subscription.isSome ∧ io.subscriptions.hasPending then
      io.refused tx (.sent (.error .subscriptionPending))
    else
      match io.lanes.frameWithReceipt { message with subscription := none } (some (.caller tx))
        (io.ticket message.subscription) with
      | .ok lanes => io.accepted lanes message.subscription []
      | .error (.full, done) => ⟨io, answer done .queueFull, false, none⟩
      | .error (.closed, done) => ⟨io, answer done .disconnected, false, some .disconnected⟩
  | some (.sendAwait awaitId message connectionEpoch registration tx) =>
    if isClosed tx then ⟨io, [], false, none⟩
    else if connectionEpoch.any (· != currentEpoch) then
      io.refused tx (.response (.error .notReady))
    else if message.subscription.isSome ∧ io.subscriptions.hasPending then
      io.refused tx (.response (.error .subscriptionPending))
    else
      match io.tracker.register isClosed awaitId registration tx with
      | (.error error, tracker, _) =>
        { io with tracker }.refused tx (.response (.error error))
      | (.ok (), tracker, displaced) =>
        let io := { io with tracker }
        let dropped := displaced.map fun other ↦ (other, Answer.response (.error .disconnected))
        match io.lanes.frameWithReceipt { message with subscription := none } none
          (io.ticket message.subscription) with
        | .ok lanes => io.accepted lanes message.subscription dropped
        | .error (.full, _) => unregister io awaitId .queueFull dropped none
        | .error (.closed, _) =>
          unregister io awaitId .disconnected dropped (some .disconnected)
  | none => ⟨io, [], false, some .closeRequested⟩
where
  answer (done : Option WriteResult) (error : ManagedWsError) : List (Waiter × Answer) :=
    done.toList.flatMap fun
      | .caller tx => [(tx, .sent (.error error))]
      | .ping _ => []
  unregister (io : SessionIo) (awaitId : ℕ) (error : SendAwaitError)
      (answers : List (Waiter × Answer)) (ended : Option AuthenticatedSessionEnd) : Handled :=
    let cancelled := io.tracker.cancel awaitId
    ⟨{ io with tracker := cancelled.2 },
      answers ++ cancelled.1.toList.map fun tx ↦ (tx, .response (.error error)), false, ended⟩

def SessionIo.held (io : SessionIo) : List Waiter := io.lanes.callers ++ io.tracker.waiters

def Owed (held : List Waiter) (entry : Waiter × Answer) : Prop :=
  entry.1 ∈ held ∧ entry.2.isRefusal = false

/-- What handling a command does to its caller: nothing if the caller is gone; the frame enters a
lane of the command's own epoch; or the caller is told an error. -/
inductive Handled.Of (isClosed : Waiter → Bool) (currentEpoch : ℕ) (io : SessionIo)
    (command : ManagedCommand) : Handled → Prop
  | gone (hclosed : isClosed command.tx = true) :
      Handled.Of isClosed currentEpoch io command ⟨io, [], false, none⟩
  | enqueued {io' : SessionIo} {answers : List (Waiter × Answer)}
      {ended : Option AuthenticatedSessionEnd} {done : Option WriteResult} {written : Option ℕ}
      (hopen : isClosed command.tx = false)
      (hepoch : ∀ epoch ∈ command.connectionEpoch, epoch = currentEpoch)
      (hlanes : ∀ c, c ∈ io'.lanes.commands ↔ c ∈ io.lanes.commands ∨
        c = .frame { command.message with subscription := none } done written)
      (hdone : ∀ ticket, done ≠ some (.ping ticket))
      (htask : io'.lanes.epoch = io.lanes.epoch ∧ io'.lanes.progress = io.lanes.progress)
      (hheld : io'.held ⊆ command.tx :: io.held)
      (hanswers : ∀ entry ∈ answers, Owed io.held entry) :
      Handled.Of isClosed currentEpoch io command ⟨io', answers, true, ended⟩
  | refused {io' : SessionIo} {others : List (Waiter × Answer)} {answer : Answer}
      {ended : Option AuthenticatedSessionEnd}
      (hlanes : io'.lanes = io.lanes)
      (hheld : io'.tracker.waiters ⊆ io.tracker.waiters)
      (hothers : ∀ entry ∈ others, Owed io.held entry)
      (herror : answer.isError = true) :
      Handled.Of isClosed currentEpoch io command
        ⟨io', others ++ [(command.tx, answer)], false, ended⟩

section Spec

variable {isClosed : Waiter → Bool} {currentEpoch : ℕ} {io : SessionIo} {command : ManagedCommand}

variable {message : PreparedClientMessage}

theorem frameWithReceipt_error {lanes : Writer} {done done' : Option WriteResult}
    {written : Option ℕ} {reason : LaneFull}
    (h : lanes.frameWithReceipt message done written = .error (reason, done')) : done' = done := by
  unfold Writer.frameWithReceipt at h
  cases he : lanes.enqueue message.lane (.frame message done written) with
  | ok lanes =>
    rw [he] at h
    cases h
  | error reason' =>
    rw [he] at h
    cases h
    rfl

theorem Handled.of_accepted {io' : SessionIo} {lanes : Writer} {done : Option WriteResult}
    {change : Option SubscriptionChange} {written : Option ℕ} {answers : List (Waiter × Answer)}
    (hl : io'.lanes = io.lanes) (ht : io'.tracker.waiters ⊆ command.tx :: io.tracker.waiters)
    (hopen : isClosed command.tx = false)
    (hepoch : ¬ command.connectionEpoch.any (· != currentEpoch) = true)
    (hdone : ∀ tx, done = some (.caller tx) → tx = command.tx)
    (hping : ∀ ticket, done ≠ some (.ping ticket))
    (hframe : io'.lanes.frameWithReceipt { command.message with subscription := none } done
      written = .ok lanes)
    (hs : ∀ entry ∈ answers, Owed io.held entry) :
    Handled.Of isClosed currentEpoch io command (io'.accepted lanes change answers) := by
  rw [Writer.frameWithReceipt, mapError_ok, hl] at hframe
  have hepoch' : ∀ epoch ∈ command.connectionEpoch, epoch = currentEpoch := by
    intro epoch he
    rw [Option.mem_def.mp he] at hepoch
    simpa using hepoch
  have hcallers : lanes.callers ++ io'.tracker.waiters ⊆ command.tx :: io.held := by
    intro tx htx
    rcases List.mem_append.mp htx with htx | htx
    · rcases List.mem_append.mp (Writer.enqueue_callers hframe htx) with htx | htx
      · rcases done with _ | ⟨tx'⟩ | ⟨ticket⟩
        · simp [WriterCommand.callers] at htx
        · rw [List.mem_singleton.mp htx, hdone tx' rfl]
          exact List.mem_cons_self
        · simp [WriterCommand.callers] at htx
      · exact List.mem_cons_of_mem _ (List.mem_append_left _ htx)
    · rcases List.mem_cons.mp (ht htx) with rfl | htx
      · exact List.mem_cons_self
      · exact List.mem_cons_of_mem _ (List.mem_append_right _ htx)
  cases change with
  | none | some =>
    exact .enqueued hopen hepoch' (Writer.enqueue_commands hframe) hping
      (Writer.enqueue_task hframe) hcallers hs

theorem handleCommand_send {connectionEpoch : Option ℕ} {tx : Waiter} :
    Handled.Of isClosed currentEpoch io (.send message connectionEpoch tx)
      (handleCommand isClosed currentEpoch io (some (.send message connectionEpoch tx))) := by
  have hrefused : ∀ error ended, Handled.Of isClosed currentEpoch io
      (.send message connectionEpoch tx) ⟨io, [(tx, .sent (.error error))], false, ended⟩ := by
    intro error ended
    exact .refused rfl (fun _ h ↦ h) (List.forall_mem_nil _) rfl
  unfold handleCommand
  dsimp only
  split
  · exact .gone ‹_›
  rename_i hopen
  split
  · exact hrefused _ _
  rename_i hepoch
  split
  · exact hrefused _ _
  split
  · rename_i lanes hframe
    refine Handled.of_accepted rfl (List.subset_cons_self _ _)
      (Bool.eq_false_of_not_eq_true hopen) hepoch (fun tx' htx ↦ ?_) (fun _ h ↦ by cases h) hframe
      (List.forall_mem_nil _)
    cases htx
    rfl
  · rename_i done hframe
    rw [frameWithReceipt_error hframe]
    exact hrefused _ _
  · rename_i done hframe
    rw [frameWithReceipt_error hframe]
    exact hrefused _ _

theorem handleCommand_sendAwait {awaitId : ℕ} {connectionEpoch : Option ℕ}
    {registration : List CorrelationKey} {tx : Waiter} :
    Handled.Of isClosed currentEpoch io
      (.sendAwait awaitId message connectionEpoch registration tx)
      (handleCommand isClosed currentEpoch io
        (some (.sendAwait awaitId message connectionEpoch registration tx))) := by
  have hrefused : ∀ {io' : SessionIo} {error : SendAwaitError}, io'.lanes = io.lanes →
      io'.tracker.waiters ⊆ io.tracker.waiters →
      Handled.Of isClosed currentEpoch io
        (.sendAwait awaitId message connectionEpoch registration tx)
        (io'.refused tx (.response (.error error))) := by
    intro io' error hl ht
    exact .refused hl ht (List.forall_mem_nil _) rfl
  unfold handleCommand
  dsimp only
  split
  · exact .gone ‹_›
  rename_i hopen
  split
  · exact hrefused rfl (fun _ h ↦ h)
  rename_i hepoch
  split
  · exact hrefused rfl (fun _ h ↦ h)
  split
  · rename_i error tracker displaced hregister
    exact hrefused rfl (AwaitTracker.register_error hregister)
  · rename_i tracker displaced hregister
    obtain ⟨hwaiters, hdisplaced, hcancel, hrest⟩ := AwaitTracker.register_ok hregister
    have hdropped : ∀ answer ∈ displaced.map
        (fun other ↦ (other, Answer.response (.error .disconnected))), Owed io.held answer := by
      intro answer ha
      obtain ⟨other, ho, rfl⟩ := List.mem_map.mp ha
      exact ⟨List.mem_append_right _ (hdisplaced ho), rfl⟩
    have hunregister : ∀ error ended, Handled.Of isClosed currentEpoch io
        (.sendAwait awaitId message connectionEpoch registration tx)
        (handleCommand.unregister { io with tracker } awaitId error
          (displaced.map fun other ↦ (other, .response (.error .disconnected))) ended) := by
      intro error ended
      unfold handleCommand.unregister
      dsimp only
      rw [hcancel]
      apply Handled.Of.refused _ hrest hdropped
      · rfl
      · rfl
    split
    · rename_i lanes hframe
      refine Handled.of_accepted ?_ hwaiters (Bool.eq_false_of_not_eq_true hopen) hepoch
        (fun _ h ↦ by cases h) (fun _ h ↦ by cases h) hframe hdropped
      rfl
    · exact hunregister _ _
    · exact hunregister _ _

theorem handleCommand_spec :
    Handled.Of isClosed currentEpoch io command
      (handleCommand isClosed currentEpoch io (some command)) := by
  cases command with
  | send => exact handleCommand_send
  | sendAwait => exact handleCommand_sendAwait

end Spec

end MakerSdk.Session
