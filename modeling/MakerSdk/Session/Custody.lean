import MakerSdk.Session.Correlation
import MakerSdk.Session.Fence

namespace MakerSdk.Session

open Base

def Dismissed (history : List Event) (tx : Waiter) : Prop :=
  (∃ answer, .answered tx answer ∈ history) ∨ .abandoned tx ∈ history

theorem Dismissed.mono {history history' : List Event} {tx : Waiter} (h : Dismissed history tx)
    (hsub : history ⊆ history') : Dismissed history' tx := by
  rcases h with ⟨answer, hm⟩ | hm
  · exact .inl ⟨answer, hsub hm⟩
  · exact .inr (hsub hm)

namespace AwaitTracker

variable {tracker tracker' : AwaitTracker} {isClosed : Waiter → Bool} {awaitId : ℕ} {tx : Waiter}

theorem Removes.mem_waiters {ids : List ℕ} {removed : List Waiter}
    (h : Removes tracker tracker' ids removed) (htx : tx ∈ tracker.waiters) :
    tx ∈ removed ∨ tx ∈ tracker'.waiters :=
  List.mem_append.mp (h.waiters.mem_iff.mp htx)

theorem mem_cancel (awaitId : ℕ) (htx : tx ∈ tracker.waiters) :
    tx ∈ (tracker.cancel awaitId).1.toList ∨ tx ∈ (tracker.cancel awaitId).2.waiters := by
  cases hl : tracker.byId.lookup awaitId with
  | none =>
    simp only [cancel, hl]
    exact .inr htx
  | some pending =>
    refine ((cancel_removes hl).mem_waiters htx).imp_left fun hm ↦ ?_
    simpa [cancel, hl] using hm

theorem mem_takeForKey {key : CorrelationKey} (htx : tx ∈ tracker.waiters) :
    tx ∈ (tracker.takeForKey key).1.toList ∨ tx ∈ (tracker.takeForKey key).2.waiters := by
  unfold takeForKey
  split
  · exact .inr htx
  · exact mem_cancel _ htx

theorem mem_takeForMessage {message : ServerMessage} (htx : tx ∈ tracker.waiters) :
    tx ∈ (tracker.takeForMessage message).1.toList ∨
      tx ∈ (tracker.takeForMessage message).2.waiters := by
  unfold takeForMessage
  split
  · exact .inr htx
  · exact mem_takeForKey htx

theorem mem_makeRoom (isClosed : Waiter → Bool) (keys : List CorrelationKey)
    (htx : tx ∈ tracker.waiters) :
    isClosed tx = true ∨ tx ∈ (tracker.makeRoom isClosed keys).waiters := by
  refine (makeRoom_removes.mem_waiters htx).imp_left fun hm ↦ ?_
  obtain ⟨entry, he, rfl⟩ := List.mem_map.mp hm
  unfold pruned at he
  split at he
  · exact (List.mem_filter.mp he).2
  · cases he

theorem mem_insert_waiters {other : Waiter} {keys : List CorrelationKey}
    {byKey : AList (fun _ : CorrelationKey ↦ ℕ)} (htx : tx ∈ tracker.waiters) :
    tx ∈ (tracker.byId.lookup awaitId).toList.map PendingAwait.tx ∨
      tx ∈ ({ tracker with
        byKey, byId := tracker.byId.insert awaitId ⟨keys, other⟩ } : AwaitTracker).waiters := by
  refine (mem_cancel awaitId htx).imp (fun hm ↦ ?_) fun hm ↦ ?_
  · cases hl : tracker.byId.lookup awaitId with
    | none => simp [cancel, hl] at hm
    | some pending => simpa [cancel, hl] using hm
  · have hkept : tx ∈ (tracker.byId.erase awaitId).entries.map fun entry ↦ entry.2.tx := by
      cases hl : tracker.byId.lookup awaitId with
      | none =>
        have herase : (tracker.byId.erase awaitId).entries = tracker.byId.entries := by
          exact List.kerase_of_notMem_keys (AList.lookup_eq_none.mp hl)
        rw [herase]
        exact htx
      | some pending => simpa [cancel, hl, waiters] using hm
    rw [waiters, AList.entries_insert, List.map_cons]
    exact List.mem_cons_of_mem _ hkept

theorem mem_register {other : Waiter} {keys : List CorrelationKey} {displaced : List Waiter}
    {result : Except SendAwaitError Unit}
    (h : register isClosed tracker awaitId keys other = (result, tracker', displaced))
    (htx : tx ∈ tracker.waiters) :
    isClosed tx = true ∨ tx ∈ displaced ∨ tx ∈ tracker'.waiters := by
  refine (mem_makeRoom isClosed keys htx).imp_right fun hroom ↦ ?_
  rcases register_cases h with ⟨error, -, rfl, rfl⟩ | ⟨-, -, -, rfl, rfl⟩
  · exact .inr hroom
  · exact mem_insert_waiters hroom

theorem register_mem {keys : List CorrelationKey} {displaced : List Waiter}
    (h : register isClosed tracker awaitId keys tx = (.ok (), tracker', displaced)) :
    tx ∈ tracker'.waiters := by
  rcases register_cases h with ⟨error, he, -, -⟩ | ⟨-, -, -, rfl, -⟩
  · cases he
  · rw [waiters, AList.entries_insert]
    exact List.mem_cons_self

end AwaitTracker

namespace Writer

variable {writer writer' : Writer} {effects : List WriterEffect} {command : WriterCommand}

def Tidy (writer : Writer) : Prop := writer.progress = .returned → writer.commands = []

theorem callers_of_enqueue {lane : Lane} (h : writer.enqueue lane command = .ok writer') :
    writer.callers ⊆ writer'.callers ∧ command.callers ⊆ writer'.callers := by
  refine ⟨callers_subset fun c hc ↦ (enqueue_commands h c).mpr (.inl hc), fun tx htx ↦ ?_⟩
  exact List.mem_flatMap.mpr ⟨command, (enqueue_commands h command).mpr (.inr rfl), htx⟩

theorem Tidy.enqueue {lane : Lane} (h : writer.enqueue lane command = .ok writer') :
    writer'.Tidy := by
  intro hp
  rw [(enqueue_task h).2] at hp
  exact absurd hp (enqueue_cases h).1

theorem finish_callers :
    writer.finish.2.flatMap WriterEffect.callers =
      (writer.control ++ writer.data).flatMap WriterCommand.callers := by
  simp only [finish, List.flatMap_assoc, WriterCommand.drop_callers]

theorem take_callers {tx : Waiter} (h : writer.take command = (writer', effects))
    (htx : tx ∈ command.callers ++ (writer.control ++ writer.data).flatMap WriterCommand.callers) :
    tx ∈ writer'.callers ∨ tx ∈ effects.flatMap WriterEffect.callers := by
  cases command with
  | close | stop =>
    obtain rfl : writer.finish.2 = effects := congrArg Prod.snd h
    rw [finish_callers]
    exact .inr htx
  | frame | pong =>
    cases h
    refine .inl ?_
    simpa [callers, commands, WriterProgress.commands] using htx

theorem step_answers {op : WriterOp} {tx : Waiter} (h : writer.step op = some (writer', effects))
    (htx : tx ∈ writer.callers) :
    tx ∈ writer'.callers ∨ tx ∈ effects.flatMap WriterEffect.callers := by
  have hsplit : ∀ {command : WriterCommand} {rest : List WriterEffect},
      writer.progress.commands = [command] →
      rest.flatMap WriterEffect.callers = command.callers →
      tx ∈ (rest ++ writer.finish.2).flatMap WriterEffect.callers := by
    intro command rest hp hrest
    rw [List.flatMap_append, hrest, finish_callers]
    simpa [callers, commands, hp] using htx
  cases hp : writer.progress with
  | selecting =>
    have hlanes : tx ∈ (writer.control ++ writer.data).flatMap WriterCommand.callers := by
      simpa [callers, commands, hp, WriterProgress.commands] using htx
    cases op with
    | next =>
      cases hc : writer.control with
      | cons command control =>
        simp only [step, hp, hc, Option.some.injEq] at h
        exact take_callers h (by simpa [hc] using hlanes)
      | nil =>
        cases hd : writer.data with
        | cons command data =>
          simp only [step, hp, hc, hd, Option.some.injEq] at h
          exact take_callers h (by simpa [hc, hd] using hlanes)
        | nil => simp [hc, hd] at hlanes
    | abort =>
      simp only [step, hp, Option.some.injEq] at h
      obtain rfl : writer.finish.2 = effects := congrArg Prod.snd h
      rw [finish_callers]
      exact .inr hlanes
    | flush | fail | report => simp [step, hp] at h
  | writing command =>
    have hcommands : writer.progress.commands = [command] := by rw [hp]; rfl
    cases op with
    | flush =>
      simp only [step, hp, Option.some.injEq, Prod.mk.injEq] at h
      obtain ⟨rfl, -⟩ := h
      refine .inl ?_
      simpa [callers, commands, hp, WriterProgress.commands] using htx
    | fail timedOut =>
      simp only [step, hp, Option.some.injEq] at h
      cases h
      exact .inr (hsplit hcommands (command.failure_callers _))
    | abort =>
      simp only [step, hp, Option.some.injEq] at h
      cases h
      exact .inr (hsplit hcommands command.drop_callers)
    | next | report => simp [step, hp] at h
  | written command =>
    have hcommands : writer.progress.commands = [command] := by rw [hp]; rfl
    cases op with
    | report =>
      simp only [step, hp, Option.some.injEq, Prod.mk.injEq] at h
      obtain ⟨rfl, rfl⟩ := h
      rw [command.receipts_callers]
      have hor : tx ∈ command.callers ∨
          tx ∈ (writer.control ++ writer.data).flatMap WriterCommand.callers := by
        simpa [callers, commands, hp, WriterProgress.commands] using htx
      exact hor.symm.imp_left fun hm ↦ by
        simpa [callers, commands, WriterProgress.commands] using hm
    | abort =>
      simp only [step, hp, Option.some.injEq] at h
      cases h
      exact .inr (hsplit hcommands command.drop_callers)
    | next | flush | fail => simp [step, hp] at h
  | returned => cases op <;> simp [step, hp] at h

theorem step_tidy {op : WriterOp} (h : writer.step op = some (writer', effects)) :
    writer'.Tidy := by
  intro hp
  rcases step_cases h with ⟨c, hw, -, -⟩ | ⟨c, -, rfl, -⟩ | ⟨c, -, rfl, -⟩ | hr
  · rw [hw] at hp
    cases hp
  · cases hp
  · cases hp
  · exact hr.commands

end Writer

structure Handled.Tends (isClosed : Waiter → Bool) (io : SessionIo) (command : ManagedCommand)
    (handled : Handled) : Prop where
  held : ∀ tx ∈ io.held, isClosed tx = true ∨ tx ∈ handled.answers.map Prod.fst ∨
    tx ∈ handled.io.held
  taken : handled.enqueued = true → command.tx ∈ handled.io.held
  tidy : io.lanes.Tidy → handled.io.lanes.Tidy

section Tends

variable {isClosed : Waiter → Bool} {currentEpoch : ℕ} {io : SessionIo} {command : ManagedCommand}

theorem Handled.tends_refused {io' : SessionIo} {answers : List (Waiter × Answer)}
    {ended : Option AuthenticatedSessionEnd} (hlanes : io'.lanes = io.lanes)
    (hheld : ∀ tx ∈ io.tracker.waiters, isClosed tx = true ∨ tx ∈ answers.map Prod.fst ∨
      tx ∈ io'.tracker.waiters) :
    Handled.Tends isClosed io command ⟨io', answers, false, ended⟩ := by
  refine ⟨fun tx htx ↦ ?_, fun h ↦ (by cases h), fun h ↦ hlanes ▸ h⟩
  rcases List.mem_append.mp htx with htx | htx
  · exact .inr (.inr (List.mem_append_left _ (hlanes ▸ htx)))
  · exact (hheld tx htx).imp_right fun h ↦ h.imp_right (List.mem_append_right _)

variable {message : PreparedClientMessage}

theorem Handled.tends_accepted {io' : SessionIo} {lanes : Writer} {done : Option WriteResult}
    {change : Option SubscriptionChange} {written : Option ℕ} {answers : List (Waiter × Answer)}
    (hlanes : io'.lanes = io.lanes)
    (hheld : ∀ tx ∈ io.tracker.waiters, isClosed tx = true ∨ tx ∈ answers.map Prod.fst ∨
      tx ∈ io'.tracker.waiters)
    (hframe : io'.lanes.frameWithReceipt message done written = .ok lanes)
    (htaken : done = some (.caller command.tx) ∨ command.tx ∈ io'.tracker.waiters) :
    Handled.Tends isClosed io command (io'.accepted lanes change answers) := by
  rw [Writer.frameWithReceipt, Checks.mapError_ok, hlanes] at hframe
  obtain ⟨hold, hnew⟩ := Writer.callers_of_enqueue hframe
  have hio : (io'.accepted lanes change answers).io.held =
      lanes.callers ++ io'.tracker.waiters := by
    cases change <;> rfl
  have hanswers : (io'.accepted lanes change answers).answers = answers := by
    cases change <;> rfl
  refine ⟨fun tx htx ↦ ?_, fun _ ↦ ?_, fun _ ↦ ?_⟩
  · rw [hio, hanswers]
    rcases List.mem_append.mp htx with htx | htx
    · exact .inr (.inr (List.mem_append_left _ (hold htx)))
    · exact (hheld tx htx).imp_right fun h ↦ h.imp_right (List.mem_append_right _)
  · rw [hio]
    rcases htaken with rfl | htaken
    · exact List.mem_append_left _ (hnew List.mem_cons_self)
    · exact List.mem_append_right _ htaken
  · have htidy := Writer.Tidy.enqueue hframe
    cases change <;> exact htidy

theorem tends_send {connectionEpoch : Option ℕ} {tx : Waiter} :
    Handled.Tends isClosed io (.send message connectionEpoch tx)
      (handleCommand isClosed currentEpoch io (some (.send message connectionEpoch tx))) := by
  have hrefused : ∀ answers ended, Handled.Tends isClosed io (.send message connectionEpoch tx)
      ⟨io, answers, false, ended⟩ :=
    fun _ _ ↦ Handled.tends_refused rfl fun _ h ↦ .inr (.inr h)
  unfold handleCommand
  dsimp only
  split
  · exact hrefused _ _
  split
  · exact hrefused _ _
  split
  · exact hrefused _ _
  split
  · rename_i lanes hframe
    exact Handled.tends_accepted rfl (fun _ h ↦ .inr (.inr h)) hframe (.inl rfl)
  · exact hrefused _ _
  · exact hrefused _ _

theorem tends_sendAwait {awaitId : ℕ} {connectionEpoch : Option ℕ}
    {registration : List CorrelationKey} {tx : Waiter} :
    Handled.Tends isClosed io (.sendAwait awaitId message connectionEpoch registration tx)
      (handleCommand isClosed currentEpoch io
        (some (.sendAwait awaitId message connectionEpoch registration tx))) := by
  have hrefused : ∀ answers ended, Handled.Tends isClosed io
      (.sendAwait awaitId message connectionEpoch registration tx)
        ⟨io, answers, false, ended⟩ :=
    fun _ _ ↦ Handled.tends_refused rfl fun _ h ↦ .inr (.inr h)
  unfold handleCommand
  dsimp only
  split
  · exact hrefused _ _
  split
  · exact hrefused _ _
  split
  · exact hrefused _ _
  split
  · rename_i error tracker displaced hregister
    refine Handled.tends_refused rfl fun other ho ↦ ?_
    rcases AwaitTracker.register_cases hregister with ⟨_, -, -, rfl⟩ | ⟨he, -⟩
    · exact (AwaitTracker.mem_register hregister ho).imp_right fun h ↦
        .inr (h.resolve_left List.not_mem_nil)
    · cases he
  · rename_i tracker displaced hregister
    have hheld : ∀ other ∈ io.tracker.waiters, isClosed other = true ∨
        other ∈ (displaced.map fun other ↦
          (other, Answer.response (.error .disconnected))).map Prod.fst ∨
        other ∈ tracker.waiters := by
      intro other ho
      simpa using AwaitTracker.mem_register hregister ho
    have hunregister : ∀ error ended, Handled.Tends isClosed io
        (.sendAwait awaitId message connectionEpoch registration tx)
        (handleCommand.unregister { io with tracker } awaitId error
          (displaced.map fun other ↦ (other, .response (.error .disconnected))) ended) := by
      intro error ended
      refine Handled.tends_refused rfl fun other ho ↦ ?_
      rw [List.map_append, List.mem_append]
      rcases hheld other ho with h | h | h
      · exact .inl h
      · exact .inr (.inl (.inl h))
      · refine .inr ((AwaitTracker.mem_cancel awaitId h).imp_left fun hm ↦ ?_)
        exact .inr (by simpa using hm)
    split
    · rename_i lanes hframe
      exact Handled.tends_accepted rfl hheld hframe (.inr (AwaitTracker.register_mem hregister))
    · exact hunregister _ _
    · exact hunregister _ _

theorem handleCommand_tends :
    Handled.Tends isClosed io command
      (handleCommand isClosed currentEpoch io (some command)) := by
  cases command with
  | send => exact tends_send
  | sendAwait => exact tends_sendAwait

end Tends

namespace System

variable {s t u : System} {loop loop' : Loop} {config : ManagedWsConfig}

structure Tidy (s : System) : Prop where
  writers : ∀ writer ∈ s.writers, writer.Tidy
  closed : s.phase.channelClosed = true → s.tracker.waiters = []

/-- Every caller that the session owed an answer has it, or is still owed one, and so is every
caller whose frame has entered a lane since. -/
structure Serves (s t : System) : Prop where
  history : s.history ⊆ t.history
  enqueued : ∀ tx epoch, .enqueued tx epoch ∈ t.history →
    .enqueued tx epoch ∈ s.history ∨ tx ∈ t.held ∨ Dismissed t.history tx
  held : ∀ tx ∈ s.held, tx ∈ t.held ∨ Dismissed t.history tx
  tidy : s.Tidy → t.Tidy

theorem Serves.refl (s : System) : Serves s s :=
  ⟨fun _ h ↦ h, fun _ _ h ↦ .inl h, fun _ h ↦ .inl h, id⟩

theorem Serves.trans (h : Serves s t) (h' : Serves t u) : Serves s u := by
  have hlast : ∀ tx, tx ∈ t.held ∨ Dismissed t.history tx →
      tx ∈ u.held ∨ Dismissed u.history tx := by
    rintro tx (htx | htx)
    · exact h'.held tx htx
    · exact .inr (htx.mono h'.history)
  refine ⟨fun _ he ↦ h'.history (h.history he), fun tx epoch he ↦ ?_,
    fun tx htx ↦ hlast tx (h.held tx htx), fun hs ↦ h'.tidy (h.tidy hs)⟩
  rcases h'.enqueued tx epoch he with he | htx
  · exact (h.enqueued tx epoch he).imp_right (hlast tx)
  · exact .inr htx

theorem serves_of {events : List Event} (hhistory : t.history = s.history ++ events)
    (hnew : ∀ tx epoch, .enqueued tx epoch ∈ events → tx ∈ t.held)
    (hheld : ∀ tx ∈ s.held, tx ∈ t.held ∨ Dismissed t.history tx) (htidy : s.Tidy → t.Tidy) :
    Serves s t := by
  refine ⟨?_, fun tx epoch he ↦ ?_, hheld, htidy⟩
  · rw [hhistory]
    exact List.subset_append_left _ _
  · rw [hhistory] at he
    exact (List.mem_append.mp he).imp_right fun he ↦ .inl (hnew tx epoch he)

theorem history_of_trace (htrace : t.trace = s.trace) : t.history = s.history ++ [] := by
  rw [System.history, htrace, List.append_nil]
  rfl

theorem serves_of_held (htrace : t.trace = s.trace) (hheld : s.held ⊆ t.held)
    (htidy : s.Tidy → t.Tidy) : Serves s t :=
  serves_of (history_of_trace htrace) (fun _ _ h ↦ by cases h) (fun tx htx ↦ .inl (hheld htx)) htidy

theorem serves_same {events : List Event} (hhistory : t.history = s.history ++ events)
    (hnew : ∀ tx epoch, .enqueued tx epoch ∉ events) (hphase : t.phase = s.phase)
    (hdetached : t.detached = s.detached) (htracker : t.tracker = s.tracker) : Serves s t := by
  have hwriters : t.writers = s.writers := by rw [writers, writers, hphase, hdetached]
  refine serves_of hhistory (fun tx epoch he ↦ absurd he (hnew tx epoch)) (fun tx htx ↦ .inl ?_)
    fun hs ↦ ⟨?_, ?_⟩
  · rwa [System.held, hwriters, htracker]
  · rw [hwriters]
    exact hs.writers
  · rw [hphase, htracker]
    exact hs.closed

theorem serves_private (htrace : t.trace = s.trace) (hphase : t.phase = s.phase)
    (hdetached : t.detached = s.detached) (htracker : t.tracker = s.tracker) : Serves s t :=
  serves_same (history_of_trace htrace) (fun _ _ ↦ List.not_mem_nil) hphase hdetached htracker

theorem serves_emit {events : List Event} (hnew : ∀ tx epoch, .enqueued tx epoch ∉ events) :
    Serves s (s.emit events) :=
  serves_same emit_trace hnew rfl rfl rfl

theorem serves_sendEvent {event : ManagedWsEvent} : Serves s (s.sendEvent event) :=
  serves_emit (by simp)

variable {answers : List (Waiter × Answer)}

theorem serves_answer : Serves s (s.answer answers) :=
  serves_emit (by simp)

theorem serves_fail {kind : ManagedWsFailureKind} {text : String} : Serves s (s.fail kind text) :=
  serves_sendEvent

theorem serves_setState {state : ManagedWsState} : Serves s (s.setState state) := by
  have hstate : Serves s ({ s with state } : System) := serves_private rfl rfl rfl rfl
  exact hstate.trans (serves_emit (by simp))

theorem serves_transitionState {state : ManagedWsState} {event : ManagedWsEvent} :
    Serves s (s.transitionState state event) :=
  serves_setState.trans serves_sendEvent

theorem serves_stay (h : s.phase = .live loop) (hw : loop.writer.callers ⊆ loop'.writer.callers)
    (htidy : loop.writer.Tidy → loop'.writer.Tidy) : Serves s (s.stay loop') := by
  refine serves_of_held rfl (held_subset (fun writer hm ↦ ?_) (List.subset_append_right _ _))
    fun hs ↦ ⟨fun writer hm ↦ ?_, fun hc ↦ by cases hc⟩
  · rcases mem_writers.mp hm with ⟨_, hl, rfl⟩ | hm
    · cases h.symm.trans hl
      exact List.Subset.trans hw (callers_subset_held (mem_writers_live rfl))
    · exact callers_subset_held (mem_writers_of_detached hm)
  · rcases List.mem_cons.mp hm with rfl | hm
    · exact htidy (hs.writers _ (mem_writers_live h))
    · exact hs.writers _ (mem_writers_of_detached hm)

theorem serves_stay_same (h : s.phase = .live loop) (hw : loop'.writer = loop.writer) :
    Serves s (s.stay loop') := by
  refine serves_stay h ?_ ?_
  · rw [hw]
    exact fun _ h ↦ h
  · rw [hw]
    exact id

theorem serves_stay_enqueue {lane : Lane} {command : WriterCommand} (h : s.phase = .live loop)
    (hw : loop.writer.enqueue lane command = .ok loop'.writer) : Serves s (s.stay loop') :=
  serves_stay h (Writer.callers_of_enqueue hw).1 fun _ ↦ Writer.Tidy.enqueue hw

theorem serves_phase {phase : Phase} (h : ∀ loop, s.phase ≠ .live loop)
    (hphase : ∀ loop, phase ≠ .live loop)
    (hclosed : s.Tidy → phase.channelClosed = true → s.tracker.waiters = []) :
    Serves s { s with phase } := by
  refine serves_of_held rfl (held_subset (fun writer hm ↦ ?_) (List.subset_append_right _ _))
    fun hs ↦ ⟨fun writer hm ↦ ?_, hclosed hs⟩
  · rcases mem_writers.mp hm with ⟨loop, hl, -⟩ | hm
    · exact absurd hl (h loop)
    · exact callers_subset_held (mem_writers_of_detached hm)
  · rcases mem_writers.mp hm with ⟨loop, hl, -⟩ | hm
    · exact absurd hl (hphase loop)
    · exact hs.writers _ (mem_writers_of_detached hm)

theorem serves_move {phase : Phase} (h : ∀ loop, s.phase ≠ .live loop)
    (hphase : ∀ loop, phase ≠ .live loop) (hopen : phase.channelClosed = false) :
    Serves s { s with phase } := by
  refine serves_phase h hphase fun _ hc ↦ ?_
  rw [hopen] at hc
  cases hc

variable {command : Option WriterCommand}

theorem callers_release {writer : Writer} :
    writer.callers ⊆ (release writer command).callers := by
  cases command with
  | none => exact fun _ h ↦ h
  | some command =>
    simp only [release, Option.elim_some]
    split
    · rename_i writer' he
      exact (Writer.callers_of_enqueue he).1
    · exact fun _ h ↦ h

theorem release_tidy {writer : Writer} (h : writer.Tidy) :
    (release writer command).Tidy := by
  cases command with
  | none => exact h
  | some command =>
    simp only [release, Option.elim_some]
    split
    · rename_i writer' he
      have htidy : writer'.Tidy := Writer.Tidy.enqueue he
      exact htidy
    · exact h

theorem serves_detach {phase : Phase} (h : s.phase = .live loop) (hw : loop'.writer = loop.writer)
    (hphase : ∀ loop, phase ≠ .live loop) (hopen : phase.channelClosed = false) :
    Serves s { s with phase, detached := release loop'.writer command :: s.detached } := by
  rw [hw]
  refine serves_of_held rfl (held_subset (fun writer hm ↦ ?_) (List.subset_append_right _ _))
    fun hs ↦ ⟨fun writer hm ↦ ?_, fun hc ↦ ?_⟩
  · rcases mem_writers.mp hm with ⟨_, hl, rfl⟩ | hm
    · cases h.symm.trans hl
      exact List.Subset.trans callers_release
        (callers_subset_held (mem_writers_of_detached List.mem_cons_self))
    · exact callers_subset_held (mem_writers_of_detached (List.mem_cons_of_mem _ hm))
  · rcases mem_writers.mp hm with ⟨loop, hl, -⟩ | hm
    · exact absurd hl (hphase loop)
    · rcases List.mem_cons.mp hm with rfl | hm
      · exact release_tidy (hs.writers _ (mem_writers_live h))
      · exact hs.writers _ (mem_writers_of_detached hm)
  · rw [hopen] at hc
    cases hc

theorem serves_endLoop {ended : AuthenticatedSessionEnd} {rejected : Bool}
    (h : s.phase = .live loop) (hw : loop'.writer = loop.writer) :
    Serves s (s.endLoop loop' ended rejected) :=
  serves_setState.trans (serves_detach h hw (fun _ h ↦ by cases h) rfl)

theorem serves_failLoop {failure : SessionFailure} (h : s.phase = .live loop)
    (hw : loop'.writer = loop.writer) : Serves s (s.failLoop loop' failure) := by
  unfold failLoop
  dsimp only
  split
  · exact serves_endLoop h hw
  · exact serves_sendEvent.trans (serves_endLoop h hw)

theorem mem_answers {waiters : List Waiter} {answer : Answer} {tx : Waiter} (h : tx ∈ waiters) :
    tx ∈ (waiters.map fun tx ↦ (tx, answer)).map Prod.fst :=
  List.mem_map.mpr ⟨(tx, answer), List.mem_map_of_mem h, rfl⟩

theorem serves_tracker {tracker : AwaitTracker}
    (h : ∀ tx ∈ s.tracker.waiters, tx ∈ answers.map Prod.fst ∨ tx ∈ tracker.waiters)
    (htidy : s.phase.channelClosed = true → s.tracker.waiters = [] → tracker.waiters = []) :
    Serves s ({ s with tracker }.answer answers) := by
  refine serves_of emit_trace (by simp) (fun tx htx ↦ ?_)
    fun hs ↦ ⟨hs.writers, fun hc ↦ htidy hc (hs.closed hc)⟩
  have hhistory : ({ s with tracker }.answer answers).history =
      s.history ++ answers.map fun entry ↦ .answered entry.1 entry.2 := emit_trace
  rw [hhistory]
  rcases List.mem_append.mp htx with htx | htx
  · exact .inl (List.mem_append_left _ htx)
  · rcases h tx htx with htx | htx
    · obtain ⟨entry, he, rfl⟩ := List.mem_map.mp htx
      exact .inr (.inl ⟨entry.2, List.mem_append_right _ (List.mem_map_of_mem he)⟩)
    · exact .inl (List.mem_append_right _ htx)

theorem serves_tracker_live {loop : Loop} {tracker : AwaitTracker} (hlive : s.phase = .live loop)
    (h : ∀ tx ∈ s.tracker.waiters, tx ∈ answers.map Prod.fst ∨ tx ∈ tracker.waiters) :
    Serves s ({ s with tracker }.answer answers) := by
  refine serves_tracker h fun hclosed ↦ ?_
  rw [hlive] at hclosed
  cases hclosed

theorem serves_drainTracker : Serves s s.drainTracker :=
  serves_tracker (fun _ htx ↦ .inl (mem_answers htx)) fun _ _ ↦ rfl

theorem serves_connectionEnded : Serves s s.connectionEnded := by
  unfold connectionEnded
  split
  · have hopen : Serves s ({ s with connectionOpen := false } : System) :=
      serves_private rfl rfl rfl rfl
    exact hopen.trans serves_sendEvent
  · exact .refl s

end System

end MakerSdk.Session
