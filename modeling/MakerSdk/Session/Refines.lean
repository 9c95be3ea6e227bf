import MakerSdk.Session.Aside

namespace MakerSdk.Session

open Base Relation

namespace System

structure Moves (s t : System) : Prop where
  moves : ReflTransGen Move s.ledger t.ledger
  kept : s.Kept → t.Kept

section Commands

variable {s t u : System} {loop : Loop} {config : ManagedWsConfig} {command : ManagedCommand}

theorem Aside.moves (h : Aside s t) : Moves s t := ⟨.single h.move, h.kept⟩

theorem Moves.trans (h : Moves s t) (h' : Moves t u) : Moves s u :=
  ⟨h.moves.trans h'.moves, fun hs ↦ h'.kept (h.kept hs)⟩

theorem ledger_emit {events : List Event} :
    (s.emit events).ledger = { s.ledger with history := s.ledger.history ++ events } := by
  simp only [ledger, emit_trace]
  rfl

theorem ledger_answer {answers : List (Waiter × Answer)} :
    (s.answer answers).ledger = { s.ledger with
      history := s.ledger.history ++ answers.map fun entry ↦ .answered entry.1 entry.2 } :=
  ledger_emit

theorem ledger_dropped {tx : Waiter} :
    ({ s with dropped := tx :: s.dropped } : System).ledger =
      { s.ledger with gone := insert tx s.ledger.gone } := by
  have hgone : ({ tx' | tx' ∈ tx :: s.dropped } : Set Waiter) =
      insert tx { tx' | tx' ∈ s.dropped } := by
    ext tx'
    simp
  exact congrArg (fun gone ↦ { s.ledger with gone }) hgone

theorem waiting_eraseIdx {index : ℕ} (h : s.sending[index]? = some command) :
    s.ledger.waiting =
      command.ticket ::ₘ ↑((s.sending.eraseIdx index ++ s.queue).map ManagedCommand.ticket) := by
  obtain ⟨hlt, rfl⟩ := List.getElem?_eq_some_iff.mp h
  have hp := (List.getElem_cons_eraseIdx_perm hlt).symm
  exact Multiset.coe_eq_coe.mpr ((hp.append_right s.queue).map ManagedCommand.ticket)

theorem waiting_queue {queue : List ManagedCommand} (h : s.queue = command :: queue) :
    s.ledger.waiting = command.ticket ::ₘ ↑((s.sending ++ queue).map ManagedCommand.ticket) := by
  have hp : (s.sending ++ s.queue).Perm (command :: (s.sending ++ queue)) := by
    rw [h]
    exact List.perm_middle
  exact Multiset.coe_eq_coe.mpr (hp.map ManagedCommand.ticket)

theorem moves_call {call : Call} : Moves s (s.call config call) := by
  unfold System.call
  extract_lets tx called numbered
  -- the number of the await is not in the book
  let named (n : ℕ) (ids : List (Waiter × ℕ)) : System :=
    { called with nextAwaitId := n, awaitIds := ids }
  have hcalled : ∀ n ids, (named n ids).ledger = { s.ledger with
      history := s.ledger.history ++ [.called s.nextTx call]
      next := s.nextTx + 1 } := fun _ _ ↦ ledger_emit
  have hrefuse : ∀ n ids {answer : Answer}, answer.isError = true →
      Moves s ((named n ids).answer [(tx, answer)]) := by
    intro n ids answer he
    refine ⟨.single ?_, id⟩
    have hm := @Move.refuse s.ledger call answer he
    rw [ledger_answer, hcalled]
    simp only [List.append_assoc]
    exact hm
  split
  · rename_i answer hb
    exact hrefuse s.nextAwaitId s.awaitIds (Call.build_error hb)
  · rename_i command hb
    obtain ⟨htx, -, hepoch⟩ := Call.build_ok hb
    have hbuild : Move s.ledger { s.ledger with
        history := s.ledger.history ++ [.called s.nextTx call]
        next := s.nextTx + 1
        waiting := command.ticket ::ₘ s.ledger.waiting } := by
      rw [ManagedCommand.ticket, htx]
      exact .build hepoch
    have hwaits : ∀ n ids sending queue,
        (sending ++ queue).Perm (command :: (s.sending ++ s.queue)) →
        (s.queue = [] → s.phase.channelClosed = true → queue = []) →
        Moves s { named n ids with sending, queue } := by
      intro n ids sending queue hp hclosed
      have hw := Multiset.coe_eq_coe.mpr (hp.map ManagedCommand.ticket)
      have hledger : ({ named n ids with sending, queue } : System).ledger = { s.ledger with
          history := s.ledger.history ++ [.called s.nextTx call]
          next := s.nextTx + 1
          waiting := ↑((sending ++ queue).map ManagedCommand.ticket) } :=
        congrArg (fun L : Ledger ↦ { L with
          waiting := ↑((sending ++ queue).map ManagedCommand.ticket) }) (hcalled n ids)
      refine ⟨.single ?_, fun hs ↦ ⟨hs.1, fun hc ↦ hclosed (hs.2 hc) hc⟩⟩
      rw [hledger, hw]
      exact hbuild
    obtain ⟨n, ids, hn⟩ : ∃ n ids, numbered = named n ids := by
      unfold numbered
      split
      · exact ⟨_, _, rfl⟩
      · exact ⟨s.nextAwaitId, s.awaitIds, rfl⟩
    rw [hn]
    split
    · exact hwaits n ids (s.sending ++ [command]) s.queue (by simp) (fun hq _ ↦ hq)
    split
    · exact hrefuse n ids command.closed_isError
    rename_i hopen
    split
    · exact hrefuse n ids Call.queueFull_isError
    · exact hwaits n ids s.sending (s.queue ++ [command]) (by simp [← List.append_assoc])
        (fun _ hc ↦ absurd hc hopen)

theorem moves_submit {index : ℕ} (ht : s.submit config index = some t) : Moves s t := by
  obtain ⟨command, hc, ht⟩ := Option.bind_eq_some_iff.mp ht
  have hw := waiting_eraseIdx hc
  dsimp only at ht
  split at ht
  · cases ht
    refine ⟨.single ?_, id⟩
    rw [ledger_answer]
    exact .turnAway hw command.closed_isError
  · rename_i hopen
    split at ht <;> cases ht
    -- a command that gets into the queue was waiting already
    refine ⟨?_, fun hs ↦ ⟨hs.1, fun hc ↦ absurd hc hopen⟩⟩
    have hp : (s.sending.eraseIdx index ++ (s.queue ++ [command])).Perm
        (command :: (s.sending.eraseIdx index ++ s.queue)) := by
      simp [← List.append_assoc]
    have hledger : s.ledger = { s.ledger with
        waiting := ↑((s.sending.eraseIdx index ++ (s.queue ++ [command])).map
          ManagedCommand.ticket) } := by
      rw [Multiset.coe_eq_coe.mpr (hp.map ManagedCommand.ticket), List.map_cons,
        ← Multiset.cons_coe, ← hw]
    rw [hledger]
    exact .refl

theorem moves_giveUp {index : ℕ} (hs : s.ledger.Sound) (ht : s.giveUp index = some t) :
    Moves s t := by
  obtain ⟨command, hc, rfl⟩ := Option.map_eq_some_iff.mp ht
  have hw := waiting_eraseIdx hc
  have hknown : command.tx < s.nextTx :=
    hs.waitingKnown command.ticket (by rw [hw]; exact Multiset.mem_cons_self _ _)
  let departed : Ledger := { s.ledger with
    history := s.ledger.history ++ [.abandoned command.tx]
    gone := insert command.tx s.ledger.gone }
  have hleave : Move s.ledger departed := .leave hknown
  have hpass := @Move.pass departed command.ticket _ hw (Set.mem_insert _ _)
  refine ⟨.tail (.single hleave) ?_, id⟩
  rw [ledger_emit]
  have hledger := congrArg (fun L : Ledger ↦ { L with
    history := L.history ++ [Event.abandoned command.tx]
    waiting := ↑((s.sending.eraseIdx index ++ s.queue).map ManagedCommand.ticket) })
      (@ledger_dropped s command.tx)
  exact hledger ▸ hpass

theorem moves_expire {index : ℕ} (ht : s.expire index = some t) : Moves s t := by
  obtain ⟨command, hc, ht⟩ := Option.bind_eq_some_iff.mp ht
  have hw := waiting_eraseIdx hc
  cases command with
  | send => cases ht
  | sendAwait =>
    cases ht
    refine ⟨.single ?_, id⟩
    rw [ledger_answer]
    exact .turnAway hw rfl

theorem isWaiting_lt {tx : Waiter} (h : s.isWaiting tx = true) : tx < s.nextTx := by
  simp only [isWaiting, decide_eq_true_eq] at h
  exact h.1

theorem moves_abandon {tx : Waiter} (ht : s.abandon tx = some t) : Moves s t := by
  unfold abandon at ht
  split at ht
  · rename_i hwaits
    cases ht
    refine ⟨.single ?_, id⟩
    rw [ledger_emit, ledger_dropped]
    exact .leave (isWaiting_lt hwaits)
  · cases ht

theorem moves_timeout {tx : Waiter} (ht : s.timeout tx = some t) : Moves s t := by
  obtain ⟨awaitId, -, ht⟩ := Option.bind_eq_some_iff.mp ht
  split at ht
  · rename_i hwaits
    cases ht
    refine ⟨.single ?_, id⟩
    have hledger := congrArg (fun L : Ledger ↦ { L with
      history := L.history ++ [Event.answered tx (.response (.error .timeout))] })
        (@ledger_dropped s tx)
    rw [ledger_answer]
    exact hledger ▸ .expire (isWaiting_lt hwaits) rfl rfl
  · cases ht

theorem moves_handleStep {op : HandleOp} (hs : s.ledger.Sound)
    (ht : s.handleStep config op = some t) : Moves s t := by
  cases op with
  | call call =>
    simp only [handleStep] at ht
    split at ht <;> cases ht
    exact moves_call
  | submit index => exact moves_submit ht
  | giveUp index => exact moves_giveUp hs ht
  | expire index => exact moves_expire ht
  | abandon tx => exact moves_abandon ht
  | timeout tx => exact moves_timeout ht
  | close =>
    cases ht
    exact ⟨.refl, id⟩
  | dropHandles | reportGap =>
    simp only [handleStep] at ht
    split at ht <;> cases ht
    exact ⟨.refl, id⟩

theorem moves_turnAway {L : Ledger} {commands : List ManagedCommand}
    {rest : Multiset (Waiter × Option ℕ)}
    (hw : L.waiting = ↑(commands.map ManagedCommand.ticket) + rest) :
    ReflTransGen Move L { L with
      history := L.history ++ commands.map fun command ↦ .answered command.tx command.disconnected
      waiting := rest } := by
  induction commands generalizing L with
  | nil =>
    have hrest : L.waiting = rest := by simpa using hw
    simp only [List.map_nil, List.append_nil, ← hrest]
    exact .refl
  | cons command commands ih =>
    have hwaiting : L.waiting =
        command.ticket ::ₘ (↑(commands.map ManagedCommand.ticket) + rest) := by
      rw [hw, List.map_cons, ← Multiset.cons_coe, Multiset.cons_add]
    have hfirst := Move.turnAway hwaiting command.disconnected_isError
    refine .head hfirst ?_
    have hrest := @ih { L with
      history := L.history ++ [.answered command.tx command.disconnected]
      waiting := ↑(commands.map ManagedCommand.ticket) + rest } rfl
    simp only [List.append_assoc] at hrest
    exact hrest

theorem moves_dropChannels {phase : Phase} (hphase : ∀ loop, phase ≠ .live loop) :
    Moves s (s.dropChannels phase) := by
  let drained := ({ s with cancels := [] } : System).drainTracker
  have hdrained : Aside s drained := by
    have hcancels : Aside s ({ s with cancels := [] } : System) :=
      .of_held rfl rfl rfl rfl rfl rfl (fun _ h ↦ h) id
    exact hcancels.trans aside_drainTracker
  have hw : drained.ledger.waiting = ↑(s.queue.map ManagedCommand.ticket) +
      ↑((s.sending ++ []).map ManagedCommand.ticket) := by
    have hp := (@List.perm_append_comm _ s.sending s.queue).map ManagedCommand.ticket
    rw [List.append_nil, Multiset.coe_add, ← List.map_append]
    exact Multiset.coe_eq_coe.mpr hp
  let emptied := { drained with queue := [] }.answer
    (s.queue.map fun command : ManagedCommand ↦ (command.tx, command.disconnected))
  have hemptied : Moves drained emptied := by
    refine ⟨?_, fun hs ↦ ⟨hs.1, fun _ ↦ rfl⟩⟩
    unfold emptied
    rw [ledger_answer, List.map_map]
    exact moves_turnAway hw
  have hleft : Aside emptied { emptied with phase } := aside_phase hphase (fun _ _ ↦ rfl)
  have hdrop : s.dropChannels phase = { emptied with phase } := by
    unfold dropChannels emptied drained drainTracker disconnectAll answer emit
    rfl
  rw [hdrop]
  exact hdrained.moves.trans (hemptied.trans hleft.moves)

theorem moves_panicked : Moves s s.panicked := by
  unfold panicked
  extract_lets loose
  have hloose : Aside s loose := by
    unfold loose
    split
    · rename_i loop hl
      refine aside_parts (fun writer hm ↦ ?_) waiters_subset_held id
      rcases mem_writers.mp hm with ⟨loop', hl', rfl⟩ | hm
      · exact callers_subset_held (mem_writers_live hl')
      · rcases List.mem_cons.mp hm with rfl | hm
        · exact List.Subset.trans (release_callers (by simp))
            (callers_subset_held (mem_writers_live hl))
        · exact callers_subset_held (mem_writers_of_detached hm)
    · exact .refl s
  exact hloose.moves.trans (moves_dropChannels (fun _ h ↦ by cases h))

theorem moves_windowCommand (ht : s.windowCommand = some t) : Moves s t := by
  rcases windowCommand_cases ht with ⟨command, queue, hq, rfl⟩ | rfl
  · refine ⟨.single ?_, fun hs ↦ hs.dequeue hq⟩
    rw [ledger_answer]
    exact .turnAway (waiting_queue hq) command.disconnected_isError
  · exact aside_terminate.moves

theorem moves_applyHandled {handled : Handled} {queue : List ManagedCommand}
    (h : Moves s ((({ s with
        queue
        tracker := handled.io.tracker
        subscriptions := handled.io.subscriptions }.emit
          (if handled.enqueued then [.enqueued command.tx loop.writer.epoch] else [])).answer
            handled.answers).stay { loop with
              writer := handled.io.lanes
              subscriptionWritten := handled.io.subscriptionWritten
              nextTicket := handled.io.nextTicket })) :
    Moves s ({ s with queue }.applyHandled loop (some command) handled) := by
  unfold applyHandled
  extract_lets entered loop' s'
  split
  · exact h
  · exact h.trans (aside_endLoop (s := s'.stay loop') rfl (fun _ h ↦ h)).moves

theorem answer_append {answers more : List (Waiter × Answer)} :
    s.answer (answers ++ more) = (s.answer answers).answer more := by
  simp [answer, emit]

theorem loopIo_held_subset (h : s.phase = .live loop) : (s.loopIo loop).held ⊆ s.held :=
  List.append_subset.mpr ⟨callers_subset_held (mem_writers_live h), waiters_subset_held⟩

section Dequeued

variable {queue : List ManagedCommand} {io : SessionIo} {answers : List (Waiter × Answer)}

theorem moves_enqueued {loop' : Loop} (hs : s.Kept) (h : s.phase = .live loop)
    (hq : s.queue = command :: queue) (hopen : command.tx ∉ s.dropped)
    (hepoch : ∀ epoch ∈ command.connectionEpoch, epoch = s.connectionEpoch)
    (hloop : loop'.writer = io.lanes) (hwriter : io.lanes.epoch = loop.writer.epoch)
    (hheld : io.held ⊆ command.tx :: (s.loopIo loop).held)
    (hanswers : ∀ entry ∈ answers, Owed (s.loopIo loop).held entry) :
    Moves s ((({ s with
      queue
      tracker := io.tracker
      subscriptions := io.subscriptions }.emit [.enqueued command.tx loop.writer.epoch]).answer
        answers).stay loop') := by
  have hfence : ∀ epoch ∈ command.ticket.2, epoch = loop.writer.epoch := by
    intro epoch he
    rw [hepoch epoch he, hs.1 loop h]
  have henqueue := Move.enqueue (waiting_queue hq) hopen hfence
  let taken : System := { s with
    queue
    tracker := io.tracker
    subscriptions := io.subscriptions
    phase := .live loop' }.emit [.enqueued command.tx loop.writer.epoch]
  have hledger : taken.ledger = { s.ledger with
      history := s.ledger.history ++ [.enqueued command.tx loop.writer.epoch]
      waiting := ↑((s.sending ++ queue).map ManagedCommand.ticket)
      held := { tx | tx ∈ taken.held } } := ledger_emit
  have htaken : taken.held ⊆ command.tx :: s.held := by
    have hio : io.held ⊆ command.tx :: s.held :=
      List.Subset.trans hheld (List.cons_subset_cons _ (loopIo_held_subset h))
    intro tx htx
    rcases List.mem_append.mp htx with htx | htx
    · obtain ⟨writer, hm, htx⟩ := List.mem_flatMap.mp htx
      rcases List.mem_cons.mp hm with rfl | hm
      · exact hio (List.mem_append_left _ (hloop ▸ htx))
      · exact List.mem_cons_of_mem _
          (callers_subset_held (s := s) (mem_writers_of_detached hm) htx)
    · exact hio (List.mem_append_right _ htx)
  have hevents : ∀ event ∈ answers.map (fun entry ↦ Event.answered entry.1 entry.2),
      event.Aside (insert command.tx s.ledger.held) := by
    intro event he
    obtain ⟨entry, ha, rfl⟩ := List.mem_map.mp he
    obtain ⟨hheld, hrefusal⟩ := hanswers entry ha
    exact ⟨Set.mem_insert_of_mem _ (loopIo_held_subset h hheld), hrefusal⟩
  have hshrink : ({ tx | tx ∈ taken.held } : Set Waiter) ⊆ insert command.tx s.ledger.held := by
    intro tx htx
    exact List.mem_cons.mp (htaken htx)
  refine ⟨.tail (.single henqueue) ?_, ?_⟩
  · have hanswer := Move.aside hevents hshrink (L := { s.ledger with
      history := s.ledger.history ++ [.enqueued command.tx loop.writer.epoch]
      waiting := ↑((s.sending ++ queue).map ManagedCommand.ticket)
      held := insert command.tx s.ledger.held })
    rw [foldl_publish_answers] at hanswer
    change Move _ (taken.answer answers).ledger
    rw [ledger_answer, hledger]
    exact hanswer
  · refine fun _ ↦ ⟨fun loop'' hl ↦ ?_, fun hc ↦ by cases hc⟩
    cases hl
    rw [hloop, hwriter]
    exact hs.1 loop h

theorem moves_refused {loop' : Loop} {answer : Answer} (h : s.phase = .live loop)
    (hq : s.queue = command :: queue) (hloop : loop'.writer = loop.writer)
    (hheld : io.tracker.waiters ⊆ s.tracker.waiters)
    (hanswers : ∀ entry ∈ answers, Owed (s.loopIo loop).held entry)
    (herror : answer.isError = true) :
    Moves s ((({ s with
      queue
      tracker := io.tracker
      subscriptions := io.subscriptions }.emit []).answer
        (answers ++ [(command.tx, answer)])).stay loop') := by
  have hothers : Aside s ((s.emit []).answer answers) :=
    (aside_emit (List.forall_mem_nil _) rfl).trans
      (aside_answer fun entry ha ↦
        ⟨loopIo_held_subset h (hanswers entry ha).1, (hanswers entry ha).2⟩)
  let others := (s.emit []).answer answers
  let told : System := { others with tracker := io.tracker, subscriptions := io.subscriptions }
  have htracker : Aside others { others with tracker := io.tracker } :=
    aside_parts (fun _ hw ↦ callers_subset_held hw)
      (fun tx htx ↦ waiters_subset_held (hheld htx)) id
  have hsubscriptions : Aside { others with tracker := io.tracker } told :=
    .of_held rfl rfl rfl rfl rfl rfl (fun _ h ↦ h) id
  have hstay : Aside told (told.stay loop') :=
    aside_stay h (by rw [hloop]; exact fun _ h ↦ h) (by rw [hloop])
  refine (hothers.trans (htracker.trans (hsubscriptions.trans hstay))).moves.trans
    ⟨.single ?_, fun hs ↦ hs.dequeue hq⟩
  have hturn := Move.turnAway (waiting_queue (s := told.stay loop') hq) herror
  rw [answer_append]
  change Move _ (({ told with queue }.stay loop').answer [(command.tx, answer)]).ledger
  rw [ledger_answer]
  exact hturn

end Dequeued

theorem moves_commandBranch (hs : s.Kept) (h : s.phase = .live loop)
    (ht : s.commandBranch loop = some t) : Moves s t := by
  unfold commandBranch at ht
  extract_lets handle at ht
  split at ht
  · rename_i command queue hq
    cases ht
    apply moves_applyHandled
    have hw := waiting_queue hq
    have hspec := @handleCommand_spec (fun tx ↦ tx ∈ s.dropped) s.connectionEpoch
      (s.loopIo loop) command
    change Handled.Of _ _ _ _ (handleCommand (fun tx ↦ tx ∈ s.dropped) s.connectionEpoch
      (({ s with queue } : System).loopIo loop) (some command)) at hspec
    generalize handleCommand (fun tx ↦ tx ∈ s.dropped) s.connectionEpoch
      (({ s with queue } : System).loopIo loop) (some command) = handled at hspec ⊢
    cases hspec with
    | gone hclosed =>
      have hgone : command.tx ∈ s.dropped := of_decide_eq_true hclosed
      have hpass : Moves s { s with queue } := ⟨.single (.pass hw hgone), fun hs ↦ hs.dequeue hq⟩
      have hnothing : Aside ({ s with queue } : System)
          ((({ s with queue } : System).emit []).answer []) :=
        (aside_emit (List.forall_mem_nil _) rfl).trans (aside_answer (List.forall_mem_nil _))
      exact hpass.trans (hnothing.trans (aside_stay h (fun _ h ↦ h) rfl)).moves
    | enqueued hopen hepoch hlanes hdone htask hheld hanswers =>
      exact moves_enqueued hs h hq (of_decide_eq_false hopen) hepoch rfl htask.1 hheld hanswers
    | refused hlanes hheld hothers herror => exact moves_refused h hq hlanes hheld hothers herror
  · split at ht <;> cases ht
    have hnothing : Aside s ((s.emit []).answer []) :=
      (aside_emit (List.forall_mem_nil _) rfl).trans (aside_answer (List.forall_mem_nil _))
    exact (hnothing.trans (aside_endLoop h (fun _ h ↦ h))).moves

theorem moves_windowCancel (ht : s.windowCancel = some t) : Moves s t := by
  rcases windowCancel_cases ht with ⟨cancels, rfl⟩ | rfl
  · exact ⟨.refl, id⟩
  · exact aside_terminate.moves

theorem aside_unwound (h : s.phase = .unwinding) : Aside s s.unwound := by
  let ended := s.connectionEnded.transitionState (.closed .sessionPanicked)
    (.terminated .sessionPanicked)
  have hended : Aside s ended := aside_connectionEnded.trans aside_transitionState
  have hphase : ended.phase = .unwinding := by
    rw [← h]
    unfold ended connectionEnded
    split <;> rfl
  refine hended.trans (aside_phase (fun _ h ↦ by cases h) (fun hk _ ↦ hk.2 ?_))
  rw [hphase]
  rfl

theorem moves_taskStep {op : TaskOp} (ht : s.taskStep config op = some t) : Moves s t := by
  have hrequested : ∀ {c : Prop} [Decidable c],
      (if c then some (s.terminate .requested) else none) = some t → Moves s t := by
    intro c _ ht
    split at ht <;> cases ht
    exact aside_terminate.moves
  -- the cases come in the order of the definition
  unfold taskStep at ht
  split at ht
  · exact hrequested ht
  · cases ht
    exact aside_connect.moves
  · cases ht
    exact (aside_fail.trans aside_nextRound).moves
  · exact (aside_authenticate ht).moves
  · exact (aside_establish ht).moves
  · cases ht
    exact aside_finish.moves
  · exact hrequested ht
  · split at ht <;> cases ht
    exact (aside_leave (fun _ h ↦ by cases h) rfl).moves
  · exact moves_windowCancel ht
  · exact moves_windowCommand ht
  · cases ht
    exact moves_dropChannels (fun _ h ↦ by cases h)
  · cases ht
  · cases ht
  · cases ht
  · cases ht
    exact moves_panicked
  · cases ht
    exact (aside_unwound ‹_›).moves
  · cases ht

theorem moves_loopStep {branch : Branch} (hs : s.Kept) (h : s.phase = .live loop)
    (ht : s.loopStep config loop branch = some t) : Moves s t := by
  by_cases hb : branch = .command
  · subst hb
    unfold loopStep at ht
    split at ht
    · cases ht
    · exact moves_commandBranch hs h ht
  · exact (aside_loopStep h hb ht).moves

theorem step_moves {label : Label} (hs : s.Kept) (hsound : s.ledger.Sound)
    (ht : s.step config label = some t) : Moves s t := by
  cases label with
  | handle op => exact moves_handleStep hsound ht
  | task op => exact moves_taskStep ht
  | branch branch =>
    simp only [step] at ht
    split at ht
    · exact moves_loopStep hs ‹_› ht
    · cases ht
  | writer op =>
    simp only [step] at ht
    split at ht
    · exact (aside_writerStep ‹_› ht).moves
    · cases ht
  | detached index op => exact (aside_detachedStep ht).moves
  | tick elapsed =>
    cases ht
    exact ⟨.refl, id⟩

theorem init_sound : (init config).ledger.Sound where
  state := rfl
  known := List.forall_mem_nil _
  heldKnown := fun _ h ↦ absurd h List.not_mem_nil
  waitingKnown := fun _ h ↦ absurd h (Multiset.notMem_zero _)
  nodup := List.nodup_nil
  apart := fun _ h ↦ absurd h (Multiset.notMem_zero _)
  built := fun _ h ↦ absurd h (Multiset.notMem_zero _)
  silent := fun _ h ↦ absurd h (Multiset.notMem_zero _)
  fresh := fun _ h ↦ absurd h (Multiset.notMem_zero _)
  gone := fun _ h ↦ absurd h List.not_mem_nil
  settled := fun _ _ h ↦ absurd h List.not_mem_nil
  follows := Runs.justified_nil

/-- A managed connection refines its book: every run is answered by moves of the book, which
stays sound, and the running session keeps to the writer of its own connection. -/
theorem after_refines {labels : List Label} (h : after config labels = some s) :
    ReflTransGen Move (init config).ledger s.ledger ∧ s.ledger.Sound ∧ s.Kept := by
  let R (s : System) (L : Ledger) : Prop := L = s.ledger ∧ L.Sound ∧ s.Kept
  have hinit : R (init config) (init config).ledger :=
    ⟨rfl, init_sound, kept_of_phase (fun _ h ↦ by cases h) rfl⟩
  have hstep : ∀ s L label t, R s L → s.step config label = some t →
      ∃ L', ReflTransGen Move L L' ∧ R t L' := by
    rintro s L label t ⟨rfl, hsound, hepoch⟩ ht
    have hm := step_moves hepoch hsound ht
    exact ⟨t.ledger, hm.moves, rfl, hsound.moves hm.moves, hm.kept hepoch⟩
  obtain ⟨L, hmoves, rfl, hsound, hepoch⟩ := Runs.run_simulates hstep hinit h
  exact ⟨hmoves, hsound, hepoch⟩

end Commands

end System

end MakerSdk.Session
