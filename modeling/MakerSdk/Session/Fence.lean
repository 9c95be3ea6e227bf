import MakerSdk.Session.Refines

namespace MakerSdk.Session

open Base.Runs

structure ReadyFor (call : Call) (first : List Event) (epoch : ℕ) : Prop where
  published : published first = .ready epoch
  announced : .state (.ready epoch) ∈ first
  bound : ∀ bound ∈ call.method.boundEpoch, bound = epoch

def System.InFlight (s : System) (tx : Waiter) : Prop :=
  ∃ command ∈ s.sending ++ s.queue, command.tx = tx

def System.history (s : System) : List Event := s.trace.map Entry.event

section Histories

variable {history first first' last last' : List Event} {tx : Waiter} {call call' : Call}

theorem published_mem : published history = .connecting ∨ .state (published history) ∈ history := by
  induction history using List.reverseRecOn with
  | nil => exact .inl rfl
  | append_singleton history event ih =>
    rw [published_append]
    cases event with
    | state value => exact .inr (by simp [Event.publish])
    | _ =>
      exact ih.imp id (List.mem_append_left _)

theorem readyFor_of_connectionEpoch {fenced : Option ℕ}
    (h : call.connectionEpoch (published first) = .ok fenced) (hf : call.Fenced) :
    ∃ epoch, fenced = some epoch ∧ ReadyFor call first epoch := by
  obtain ⟨epoch, rfl, hready, hbound⟩ := Call.connectionEpoch_ok h hf
  refine ⟨epoch, rfl, hready, ?_, hbound⟩
  rcases @published_mem first with hc | hm
  · rw [hready] at hc
    cases hc
  · rw [hready] at hm
    exact hm

theorem called_unique (hj : Justified Follows history)
    (h : history = first ++ .called tx call :: last)
    (h' : history = first' ++ .called tx call' :: last') :
    first = first' ∧ call = call' ∧ last = last' := by
  have hfirst : ∀ event ∈ first, event.waiter ≠ some tx := hj first _ last h
  have hfirst' : ∀ event ∈ first', event.waiter ≠ some tx := hj first' _ last' h'
  rcases split_cases (h.symm.trans h') with ⟨hf, hc, hl⟩ | ⟨between, rfl, -⟩ | ⟨between, rfl, -⟩
  · cases hc
    exact ⟨hf, rfl, hl⟩
  · exact absurd rfl (hfirst' (.called tx call) (by simp))
  · exact absurd rfl (hfirst (.called tx call') (by simp))

theorem enqueued_readyFor {epoch : ℕ} (hj : Justified Follows history)
    (h : history = first ++ .called tx call :: last) (he : .enqueued tx epoch ∈ history) :
    .enqueued tx epoch ∈ last ∧ (call.Fenced → ReadyFor call first epoch) := by
  obtain ⟨before, after, hsplit⟩ := List.append_of_mem he
  obtain ⟨⟨fenced, ⟨first', call', last', hbuilt, hepoch⟩, hmatch⟩, -⟩ := hj before _ after hsplit
  rw [hbuilt, List.append_assoc, List.cons_append] at hsplit
  obtain ⟨rfl, rfl, rfl⟩ := called_unique hj h hsplit
  refine ⟨by simp, fun hf ↦ ?_⟩
  obtain ⟨ready, rfl, hready⟩ := readyFor_of_connectionEpoch hepoch hf
  rw [← hmatch ready rfl]
  exact hready

theorem enqueued_first {before after : List Event} {event : Event} {epoch : ℕ}
    (hj : Justified Follows history) (h : history = first ++ .called tx call :: last)
    (hl : last = before ++ event :: after) (hw : event.waiter = some tx) :
    .enqueued tx epoch ∉ after := by
  intro he
  obtain ⟨middle, rest, rfl⟩ := List.append_of_mem he
  have henqueued : history = (first ++ .called tx call :: (before ++ event :: middle)) ++
      .enqueued tx epoch :: rest := by
    simp [h, hl]
  obtain ⟨-, hsilent⟩ := hj _ _ _ henqueued
  obtain ⟨call', rfl⟩ := hsilent event (by simp) hw
  have hcalled : history = (first ++ .called tx call :: before) ++
      .called tx call' :: (middle ++ .enqueued tx epoch :: rest) := by
    simp [h, hl]
  exact hj _ _ _ hcalled (.called tx call) (by simp) rfl

theorem refused_not_enqueued {answer : Answer} {epoch : ℕ} (hj : Justified Follows history)
    (h : .answered tx answer ∈ history) (hrefusal : answer.isRefusal = true) :
    .enqueued tx epoch ∉ history := by
  intro he
  obtain ⟨before, after, rfl⟩ := List.append_of_mem h
  have hbefore := hj before _ after rfl hrefusal epoch
  rcases List.mem_append.mp he with he | he
  · exact hbefore he
  rcases List.mem_cons.mp he with he | he
  · cases he
  · obtain ⟨middle, rest, rfl⟩ := List.append_of_mem he
    have hsplit : before ++ .answered tx answer :: (middle ++ .enqueued tx epoch :: rest) =
        (before ++ .answered tx answer :: middle) ++ .enqueued tx epoch :: rest := by
      simp
    obtain ⟨-, hsilent⟩ := hj _ _ _ hsplit
    obtain ⟨call, hcall⟩ := hsilent (.answered tx answer) (by simp) rfl
    cases hcall

end Histories

section Fence

variable {config : ManagedWsConfig} {labels : List Label} {s : System} {first last : List Event}
  {tx : Waiter} {call : Call}

theorem System.InFlight.readyFor (h : s.InFlight tx) (hs : s.ledger.Sound)
    (hcall : s.history = first ++ .called tx call :: last) (hf : call.Fenced) :
    ∃ epoch, ReadyFor call first epoch := by
  obtain ⟨command, hm, rfl⟩ := h
  obtain ⟨first', call', last', hbuilt, hepoch⟩ :=
    hs.built command.ticket (Multiset.mem_coe.mpr (List.mem_map_of_mem hm))
  obtain ⟨rfl, rfl, -⟩ := called_unique hs.follows hcall hbuilt
  obtain ⟨epoch, -, hready⟩ := readyFor_of_connectionEpoch hepoch hf
  exact ⟨epoch, hready⟩

/-- Commands are fenced to their connection: the frame of a call enters a lane at most once, for
a fenced call only in the epoch that was ready at the call, and never after its caller was
answered or has left. -/
theorem commands_fenced (h : System.after config labels = some s)
    (hcall : s.history = first ++ .called tx call :: last) :
    (∀ epoch, .enqueued tx epoch ∈ s.history →
      .enqueued tx epoch ∈ last ∧ (call.Fenced → ReadyFor call first epoch)) ∧
    (∀ before event after, last = before ++ event :: after → event.waiter = some tx →
      ∀ epoch, .enqueued tx epoch ∉ after) ∧
    ((∀ epoch, .enqueued tx epoch ∉ s.history) →
      Told s.history tx ∨ .abandoned tx ∈ s.history ∨
        s.InFlight tx ∧ (call.Fenced → ∃ epoch, ReadyFor call first epoch)) ∧
    (s.phase.channelClosed = true → s.queue = []) := by
  obtain ⟨-, hs, hkept⟩ := System.after_refines h
  refine ⟨fun epoch ↦ enqueued_readyFor hs.follows hcall, fun before event after hl hw epoch ↦
    enqueued_first hs.follows hcall hl hw, fun hnone ↦ ?_, hkept.2⟩
  have hcalled : .called tx call ∈ s.ledger.history := by
    change _ ∈ s.history
    simp [hcall]
  rcases hs.settled tx call hcalled with ⟨ticket, ht, rfl⟩ | ⟨epoch, he⟩ | ha | ht
  · obtain ⟨command, hm, rfl⟩ := List.mem_map.mp (Multiset.mem_coe.mp ht)
    have hflight : s.InFlight command.tx := ⟨command, hm, rfl⟩
    exact .inr (.inr ⟨hflight, hflight.readyFor hs hcall⟩)
  · exact absurd he (hnone epoch)
  · exact .inr (.inl ha)
  · exact .inl ht

end Fence

/-- One command is sent and taken up in epoch 1; the other waits in the queue while the session
ends and the next one becomes ready, and is taken up in epoch 2. -/
def reconnectRun (call : Call) : List Label :=
  [.task .connect, .task (.authenticate .authenticated), .task (.establish .ready),
    .handle (.call call), .branch .command, .handle (.call call), .branch (.read .closed),
    .task (.finish 50), .tick (millis 250), .task .windowElapsed, .task .connect,
    .task (.authenticate .authenticated), .task (.establish .ready), .branch .command]

def reconnectHistory (call : Call) : List Event :=
  ((System.after sampleConfig (reconnectRun call)).map System.history).getD []

theorem commands_fenced_cancel :
    ∃ s first last, System.after sampleConfig
        (reconnectRun ⟨.trySend, .cancelAllQuotes 0⟩) = some s ∧
      s.history = first ++ .called 0 ⟨.trySend, .cancelAllQuotes 0⟩ :: last ∧
      .enqueued 0 1 ∈ s.history ∧ ReadyFor ⟨.trySend, .cancelAllQuotes 0⟩ first 1 := by
  have hsome : (System.after sampleConfig
      (reconnectRun ⟨.trySend, .cancelAllQuotes 0⟩)).isSome = true := by
    decide +kernel
  obtain ⟨s, hs⟩ := Option.isSome_iff_exists.mp hsome
  have hhistory : s.history = reconnectHistory ⟨.trySend, .cancelAllQuotes 0⟩ := by
    rw [reconnectHistory, hs]
    rfl
  have hsplit : s.history = (reconnectHistory ⟨.trySend, .cancelAllQuotes 0⟩).take 8 ++
      .called 0 ⟨.trySend, .cancelAllQuotes 0⟩ ::
        (reconnectHistory ⟨.trySend, .cancelAllQuotes 0⟩).drop 9 := by
    rw [hhistory]
    rfl
  have hmem : .enqueued 0 1 ∈ s.history := by
    rw [hhistory]
    exact List.mem_of_getElem? (show (reconnectHistory _)[9]? = _ from rfl)
  exact ⟨s, _, _, hs, hsplit, hmem, ((commands_fenced hs hsplit).1 1 hmem).2 (.inl rfl)⟩

example : (reconnectHistory ⟨.trySend, .cancelAllQuotes 0⟩).getLast? =
    some (.answered 1 (.sent (.error .notReady))) := rfl

end MakerSdk.Session
