import MakerSdk.Session.Life
import Mathlib.Computability.Language
import Mathlib.Order.CompletePartialOrder

namespace MakerSdk.Session

open Base Relation Computability Language

def Event.signal : Event → Option Signal
  | lifecycle event => event.signal
  | _ => none

def signals (history : List Event) : List Signal := history.filterMap Event.signal

/-- What an observer of both channels notes: the state, and the epochs of the connections that
were opened. -/
def Event.note (seen : ManagedWsState × List ℕ) : Event → ManagedWsState × List ℕ
  | state value => (value, seen.2)
  | lifecycle .connected =>
    match seen.1 with
    | .connected epoch => (seen.1, seen.2 ++ [epoch])
    | _ => seen
  | _ => seen

def openedEpochs (history : List Event) : List ℕ :=
  (history.foldl Event.note (.connecting, [])).2

theorem Event.signal_of_not_milestone {event : Event} (h : ¬event.isMilestone = true) :
    event.signal = none := by
  cases event with
  | lifecycle event => exact Option.not_isSome_iff_eq_none.mp h
  | _ => rfl

theorem Event.note_of_not_milestone {event : Event} {seen : ManagedWsState × List ℕ}
    (h : ¬event.isMilestone = true) : event.note seen = seen := by
  cases event with
  | state value => exact absurd rfl h
  | lifecycle event =>
    cases event with
    | connected => exact absurd rfl h
    | _ => rfl
  | _ => rfl

def opened : Language Signal :=
  {[.connected]} * (1 + {[.authenticated]} * (1 + {[.reconciled, .ready]} * {[.authenticated]}∗))

def round : Language Signal := 1 + opened * {[.disconnected]}

def rounds : Language Signal := round * ({[.reconnecting]} * round)∗

def lifecycle : Language Signal := rounds * {[.terminated]}

def between : Language Signal := 1 + rounds * {[.reconnecting]}

def passed : Language Signal :=
  between * {[.connected]} * {[.authenticated]} * {[.reconciled, .ready]} * {[.authenticated]}∗

def ongoing (isOpen : Bool) : Language Signal := if isOpen then between * opened else rounds

section Words

variable {w : List Signal}

theorem round_le_rounds : round ≤ rounds := by
  have h : round * 1 ≤ round * ({[.reconnecting]} * round)∗ := mul_le_mul_right one_le_kstar _
  rwa [mul_one] at h

theorem between_mul_round_le : between * round ≤ rounds := by
  rw [between, add_mul, one_mul]
  apply add_le round_le_rounds
  rw [mul_assoc]
  have h : ({[.reconnecting]} * round)∗ * ({[.reconnecting]} * round) ≤
      ({[.reconnecting]} * round : Language Signal)∗ := kstar_mul_le_kstar
  have h' := mul_le_mul_right h round
  rwa [← mul_assoc] at h'

theorem between_le_rounds : between ≤ rounds := by
  have h : between * 1 ≤ between * round := mul_le_mul_right le_self_add _
  rw [mul_one] at h
  exact h.trans between_mul_round_le

theorem connected_le_opened : {[.connected]} ≤ opened := by
  rw [opened, mul_add, mul_one]
  exact le_self_add

theorem authenticated_le_opened : {[.connected]} * {[.authenticated]} ≤ opened := by
  simp only [opened, mul_add, mul_one]
  exact le_self_add.trans le_add_self

theorem passed_le : passed ≤ between * opened := by
  have h : {[.connected]} * {[.authenticated]} * {[.reconciled, .ready]} * {[.authenticated]}∗ ≤
      opened := by
    simp only [opened, mul_add, mul_one, mul_assoc]
    exact le_add_self.trans le_add_self
  have h' := mul_le_mul_right h between
  simpa only [passed, mul_assoc] using h'

theorem passed_authenticated (h : w ∈ passed) : w ++ [.authenticated] ∈ passed := by
  have hmem : w ++ [.authenticated] ∈ passed * {[.authenticated]} := append_mem_mul h rfl
  rw [passed, mul_assoc] at hmem
  have hle : between * {[.connected]} * {[.authenticated]} * {[.reconciled, .ready]} *
      ({[.authenticated]}∗ * {[.authenticated]}) ≤ passed := mul_le_mul_right kstar_mul_le_kstar _
  exact hle hmem

theorem ongoing_disconnected (h : w ∈ ongoing true) : w ++ [.disconnected] ∈ rounds := by
  have hmem : w ++ [.disconnected] ∈ between * opened * {[.disconnected]} := append_mem_mul h rfl
  rw [mul_assoc] at hmem
  have hle : between * (opened * {[.disconnected]}) ≤ between * round :=
    mul_le_mul_right le_add_self _
  exact between_mul_round_le (hle hmem)

end Words

def epochs (n : ℕ) : List ℕ := (List.range n).map fun i ↦ (i + 1) % 2 ^ 64

theorem epochs_pairwise {n : ℕ} (h : n < 2 ^ 64) : (epochs n).Pairwise (· < ·) := by
  rw [epochs, List.pairwise_map]
  apply (List.pairwise_lt_range (n := n)).imp_of_mem
  intro i j hi hj hij
  have hj : j < n := List.mem_range.mp hj
  rw [Nat.mod_eq_of_lt (by omega), Nat.mod_eq_of_lt (by omega)]
  omega

theorem epochs_length {n : ℕ} : (epochs n).length = n := by
  rw [epochs, List.length_map, List.length_range]

theorem epochs_succ {n : ℕ} : epochs (n + 1) = epochs n ++ [(n + 1) % 2 ^ 64] := by
  rw [epochs, List.range_succ, List.map_append]
  rfl

structure Noted (log : List Event) (state : ManagedWsState) (epoch : ℕ) : Prop where
  seen : log.foldl Event.note (.connecting, []) =
    (state, epochs ((signals log).count .connected))
  epoch : epoch = (signals log).count .connected % 2 ^ 64

section Observer

variable {log : List Event} {state value : ManagedWsState} {epoch : ℕ} {event : ManagedWsEvent}

theorem signals_append {log' : List Event} : signals (log ++ log') = signals log ++ signals log' :=
  List.filterMap_append

theorem Noted.setState (h : Noted log state epoch) : Noted (log ++ [.state value]) value epoch := by
  have hcount : (signals (log ++ [.state value])).count .connected =
      (signals log).count .connected := by
    rw [signals_append]
    exact congrArg _ (List.append_nil _)
  refine ⟨?_, hcount.symm ▸ h.epoch⟩
  rw [List.foldl_append, h.seen, hcount]
  rfl

theorem Noted.sendEvent (h : Noted log state epoch) (hevent : event.signal ≠ some .connected) :
    Noted (log ++ [.lifecycle event]) state epoch := by
  have hcount : (signals (log ++ [.lifecycle event])).count .connected =
      (signals log).count .connected := by
    rw [signals_append, List.count_append]
    apply Nat.add_eq_left.mpr
    rw [List.count_eq_zero]
    intro hmem
    obtain ⟨_, hmem, hsignal⟩ := List.mem_filterMap.mp hmem
    cases List.mem_singleton.mp hmem
    exact hevent hsignal
  refine ⟨?_, hcount.symm ▸ h.epoch⟩
  rw [List.foldl_append, h.seen, hcount]
  cases event with
  | connected => exact absurd rfl hevent
  | _ => rfl

def Event.Unseen (event : Event) : Prop := event.signal = none ∧ ∀ seen, event.note seen = seen

theorem signals_unseen {event : Event} (h : event.Unseen) :
    signals (log ++ [event]) = signals log := by
  rw [signals_append, signals, signals, List.filterMap_cons_none h.1]
  exact List.append_nil _

theorem Noted.unseen {event : Event} (h : Noted log state epoch) (hevent : event.Unseen) :
    Noted (log ++ [event]) state epoch := by
  refine ⟨?_, (signals_unseen hevent).symm ▸ h.epoch⟩
  rw [List.foldl_append, h.seen, signals_unseen hevent]
  exact hevent.2 _

theorem Noted.publish (h : Noted log state epoch) (hevent : event.signal ≠ some .connected) :
    Noted (log ++ [.state value, .lifecycle event]) value epoch := by
  have h' := (@Noted.setState _ _ value _ h).sendEvent hevent
  rwa [List.append_assoc] at h'

theorem Noted.connect (h : Noted log state epoch) :
    Noted (log ++ [.state (.connected ((epoch + 1) % 2 ^ 64)), .lifecycle .connected])
      (.connected ((epoch + 1) % 2 ^ 64)) ((epoch + 1) % 2 ^ 64) := by
  have hcount : (signals (log ++ [.state (.connected ((epoch + 1) % 2 ^ 64)),
      .lifecycle .connected])).count .connected = (signals log).count .connected + 1 := by
    rw [signals_append, List.count_append]
    rfl
  have hepoch : (epoch + 1) % 2 ^ 64 = ((signals log).count .connected + 1) % 2 ^ 64 := by
    rw [h.epoch, Nat.mod_add_mod]
  refine ⟨?_, hcount.symm ▸ hepoch⟩
  rw [List.foldl_append, h.seen, hcount, epochs_succ, hepoch]
  rfl

end Observer

def Stage.said (isOpen : Bool) : Stage → Language Signal
  | idle => between
  | opened => between * {[.connected]}
  | authenticated => between * {[.connected]} * {[.authenticated]}
  | live => passed
  | ending | unwinding => ongoing isOpen
  | finished => lifecycle

def Stage.isOpen : Stage → Option Bool
  | idle => some false
  | opened | authenticated | live => some true
  | ending | unwinding | finished => none

namespace Life

structure Sound (L : Life) : Prop where
  isOpen : ∀ b ∈ L.stage.isOpen, L.isOpen = b
  said : signals L.log ∈ L.stage.said L.isOpen
  noted : Noted L.log L.state L.epoch
  ready : ∀ e, L.state = .ready e →
    e = L.epoch ∧ (L.stage = .live ∨ L.stage = .unwinding) ∧ signals L.log ∈ passed

variable {L L' : Life}

theorem Sound.of_stage {stage : Stage} (h : L.Sound) (hstage : L.stage = stage) :
    signals L.log ∈ stage.said L.isOpen :=
  hstage ▸ h.said

theorem Sound.ongoing (h : L.Sound) (hstage : L.stage ≠ .finished) :
    signals L.log ∈ ongoing L.isOpen := by
  have hsaid := h.said
  have hopen := h.isOpen
  cases hcase : L.stage with
  | idle =>
    rw [hcase] at hsaid hopen
    rw [hopen false rfl]
    exact between_le_rounds hsaid
  | opened =>
    rw [hcase] at hsaid hopen
    rw [hopen true rfl]
    have hle : between * {[.connected]} ≤ between * opened := mul_le_mul_right connected_le_opened _
    exact hle hsaid
  | authenticated =>
    rw [hcase] at hsaid hopen
    rw [hopen true rfl]
    have hle : between * ({[.connected]} * {[.authenticated]}) ≤ between * opened :=
      mul_le_mul_right authenticated_le_opened _
    rw [← mul_assoc] at hle
    exact hle hsaid
  | live =>
    rw [hcase] at hsaid hopen
    rw [hopen true rfl]
    exact passed_le hsaid
  | ending | unwinding =>
    rw [hcase] at hsaid
    exact hsaid
  | finished => exact absurd hcase hstage

structure Rested (L : Life) : Prop where
  isOpen : L.isOpen = false
  said : signals L.log ∈ rounds
  noted : Noted L.log L.state L.epoch

theorem Sound.unseen {event : Event} (h : L.Sound) (hevent : event.Unseen) :
    (L.record event).Sound := by
  have hsame : signals (L.record event).log = signals L.log := signals_unseen hevent
  refine ⟨h.isOpen, ?_, h.noted.unseen hevent, fun e he ↦ ?_⟩
  · rw [hsame]
    exact h.said
  · rw [hsame]
    exact h.ready e he

theorem Rested.unseen {event : Event} (h : L.Rested) (hevent : event.Unseen) :
    (L.record event).Rested := by
  have hsame : signals (L.record event).log = signals L.log := signals_unseen hevent
  exact ⟨h.isOpen, hsame ▸ h.said, h.noted.unseen hevent⟩

theorem Sound.rested (h : L.Sound) (hstage : L.stage = .idle) : L.Rested := by
  refine ⟨h.isOpen false ?_, between_le_rounds (h.of_stage hstage), h.noted⟩
  rw [hstage]
  rfl

theorem Sound.disconnected (h : L.Sound) (hstage : L.stage ≠ .finished) :
    L.disconnected.Rested := by
  have hsaid := h.ongoing hstage
  unfold Life.disconnected
  split
  · rename_i hopen
    rw [hopen] at hsaid
    refine ⟨rfl, ?_, h.noted.sendEvent (fun h ↦ by cases h)⟩
    rw [record, signals_append]
    exact ongoing_disconnected hsaid
  · rename_i hopen
    have hclosed := Bool.eq_false_of_not_eq_true hopen
    rw [hclosed] at hsaid
    exact ⟨hclosed, hsaid, h.noted⟩

theorem mem_publish {l : Language Signal} {state : ManagedWsState} {event : ManagedWsEvent}
    {x : Signal} (h : signals L.log ∈ l) (hevent : event.signal = some x) :
    signals (L.publish state event).log ∈ l * {[x]} := by
  have hsignal : (Event.lifecycle event).signal = some x := hevent
  have htail : signals [.state state, .lifecycle event] = [x] := by
    rw [signals, List.filterMap_cons_none rfl, List.filterMap_cons_some hsignal]
    rfl
  rw [Life.publish, signals_append, htail]
  exact append_mem_mul h rfl

theorem Rested.terminate {reason : ManagedWsTerminationReason} (h : L.Rested) :
    (L.terminate reason).Sound :=
  ⟨(fun _ h ↦ by cases h), mem_publish h.said rfl, h.noted.publish (fun h ↦ by cases h),
    (fun _ h ↦ by cases h)⟩

theorem Rested.nextRound (h : L.Rested) (hm : L.NextRound L') : L'.Sound := by
  cases hm with
  | reconnect =>
    refine ⟨fun b hb ↦ h.isOpen.trans (Option.some_inj.mp hb), ?_,
      h.noted.publish (fun h ↦ by cases h), (fun _ h ↦ by cases h)⟩
    have hle : rounds * {[.reconnecting]} ≤ between := le_add_self
    exact hle (mem_publish h.said rfl)
  | giveUp => exact (h.unseen ⟨rfl, fun _ ↦ rfl⟩).terminate

theorem Rested.afterSession {ended : SessionEnd} (h : L.Rested) (hm : L.AfterSession ended L') :
    L'.Sound := by
  -- How many strikes are counted says nothing to an observer.
  have hcounted : ∀ strikes, ({ L with strikes } : Life).Rested :=
    fun _ ↦ ⟨h.isOpen, h.said, h.noted⟩
  cases hm with
  | closeRequested => exact h.terminate
  | authenticationFailed hround => exact h.nextRound hround
  | strike _ hround => exact (hcounted _).nextRound hround
  | terminated => exact (hcounted _).terminate
  | disconnected hround => exact (hcounted _).nextRound hround

theorem Sound.not_ready (h : L.Sound) {e : ℕ} (hlive : L.stage ≠ .live)
    (hunwinding : L.stage ≠ .unwinding) : L.state ≠ .ready e := by
  intro he
  rcases (h.ready e he).2.1 with h | h
  · exact hlive h
  · exact hunwinding h

theorem Sound.leave {ended : Ending} (h : L.Sound) (hfinished : L.stage ≠ .finished)
    (hlive : L.stage ≠ .live) (hunwinding : L.stage ≠ .unwinding) : (L.leave ended).Sound :=
  ⟨(fun _ h ↦ by cases h), h.ongoing hfinished, h.noted,
    fun _ he ↦ absurd he (h.not_ready hlive hunwinding)⟩

theorem Sound.advance (h : L.Sound) (hm : L.Advance L') : L'.Sound := by
  cases hm with
  | close hstage => exact (h.rested hstage).terminate
  | connectFailed hstage hround => exact (h.rested hstage).nextRound hround
  | connect hstage =>
    refine ⟨fun b hb ↦ Option.some_inj.mp hb, ?_, h.noted.connect, (fun _ h ↦ by cases h)⟩
    have hsaid : signals L.log ∈ between := h.of_stage hstage
    exact mem_publish hsaid rfl
  | fail hstage | drop hstage => apply h.leave <;> simp [hstage]
  | authenticate hstage =>
    have hopen := h.isOpen true (by rw [hstage]; rfl)
    refine ⟨fun b hb ↦ hopen.trans (Option.some_inj.mp hb), ?_,
      h.noted.publish (fun h ↦ by cases h), (fun _ h ↦ by cases h)⟩
    have hsaid : signals L.log ∈ between * {[.connected]} := h.of_stage hstage
    exact mem_publish hsaid rfl
  | reauthenticate hstage =>
    have hsaid : signals L.log ∈ passed := h.of_stage hstage
    have hagain : signals (L.record (.lifecycle .authenticated)).log ∈ passed := by
      rw [record, signals_append]
      exact passed_authenticated hsaid
    refine ⟨h.isOpen, ?_, h.noted.sendEvent (fun h ↦ by cases h), fun e he ↦ ?_⟩
    · have hlive : (L.record (.lifecycle .authenticated)).stage = .live := hstage
      rw [hlive]
      exact hagain
    · obtain ⟨hepoch, hlive, -⟩ := h.ready e he
      exact ⟨hepoch, hlive, hagain⟩
  | exit hstage =>
    have hfinished : L.stage ≠ .finished := by simp [hstage]
    refine ⟨(fun _ h ↦ by cases h), ?_, h.noted.setState, (fun _ h ↦ by cases h)⟩
    have hsame : signals (L.log ++ [.state (.connected L.epoch)]) = signals L.log := by
      rw [signals_append]
      exact List.append_nil _
    exact hsame ▸ h.ongoing hfinished
  | @finish _ ended now hstage _ hafter =>
    have hreturned : (L.record (.sessionEnded (ended.finish now))).Sound :=
      h.unseen ⟨rfl, fun _ ↦ rfl⟩
    exact (hreturned.disconnected (hstage ▸ (fun h ↦ by cases h))).afterSession hafter
  | panic hfinished =>
    refine ⟨(fun _ h ↦ by cases h), h.ongoing hfinished, h.noted, fun e he ↦ ?_⟩
    obtain ⟨hepoch, -, hpassed⟩ := h.ready e he
    exact ⟨hepoch, .inr rfl, hpassed⟩
  | unwind hstage =>
    have hfinished : L.stage ≠ .finished := by simp [hstage]
    exact (h.disconnected hfinished).terminate

theorem Sound.passBarrier (h : L.Sound) (hstage : L.stage = .authenticated) : L.ready.Sound := by
  have hopen := h.isOpen true (by rw [hstage]; rfl)
  have hsaid : signals L.ready.log ∈ passed := by
    have hlog : signals L.ready.log = signals L.log ++ [.reconciled, .ready] ++ [] := by
      simp only [Life.ready, Life.publish, signals_append, List.append_assoc]
      rfl
    rw [hlog]
    exact append_mem_mul (append_mem_mul (h.of_stage hstage) rfl) (nil_mem_kstar _)
  have hreconciled : Noted _ (.reconciled L.epoch) L.epoch :=
    h.noted.publish (show ManagedWsEvent.reconciled.signal ≠ _ from (fun h ↦ by cases h))
  have hready : Noted L.ready.log (.ready L.epoch) L.epoch :=
    hreconciled.publish (show ManagedWsEvent.ready.signal ≠ _ from (fun h ↦ by cases h))
  refine ⟨fun b hb ↦ hopen.trans (Option.some_inj.mp hb), hsaid, hready, fun e he ↦ ?_⟩
  cases he
  exact ⟨rfl, .inl rfl, hsaid⟩

theorem Sound.completes (h : L.Sound) : ∃ rest, signals L.log ++ rest ∈ lifecycle := by
  by_cases hfinished : L.stage = .finished
  · refine ⟨[], ?_⟩
    rw [List.append_nil]
    exact h.of_stage hfinished
  · obtain ⟨rest, hrest⟩ : ∃ rest, signals L.disconnected.log = signals L.log ++ rest := by
      unfold Life.disconnected
      split
      · exact ⟨_, signals_append⟩
      · exact ⟨[], (List.append_nil _).symm⟩
    refine ⟨rest ++ [.terminated], ?_⟩
    rw [← List.append_assoc, ← hrest]
    exact append_mem_mul (h.disconnected hfinished).said rfl

end Life

namespace System

variable {config : ManagedWsConfig} {labels : List Label} {s t : System}

theorem sound_init : (System.init config).life.Sound :=
  ⟨fun _ hb ↦ Option.some_inj.mp hb, .inl rfl, ⟨rfl, rfl⟩, (fun _ h ↦ by cases h)⟩

theorem Advances.sound (h : Advances s t) (hs : s.life.Sound) : t.life.Sound := by
  rw [Advances] at h
  generalize t.life = L at h
  induction h with
  | refl => exact hs
  | tail _ hm ih => exact ih.advance hm

theorem sound_step {label : Label} (hping : config.textLen .ping ≠ none) (hs : s.life.Sound)
    (ht : s.step config label = some t) : t.life.Sound := by
  rcases step_advances ht with h | ⟨authenticatedAt, hphase, -, rfl⟩
  · exact h.sound hs
  · rcases life_becomeReady (s := s) with hready | ⟨hnone, -⟩
    · rw [hready]
      exact hs.passBarrier (congrArg Phase.stage hphase)
    · exact absurd hnone hping

theorem signals_life : signals s.life.log = signals s.history :=
  filterMap_life fun _ ↦ Event.signal_of_not_milestone

theorem openedEpochs_life :
    (s.life.log.foldl Event.note (.connecting, [])).2 = openedEpochs s.history := by
  rw [life, openedEpochs, List.foldl_filter]
  congr 2
  funext seen event
  by_cases h : event.isMilestone = true
  · rw [if_pos h]
  · rw [if_neg h, Event.note_of_not_milestone h]

end System

section Theorem

variable {config : ManagedWsConfig} {labels : List Label} {s : System}

/-- The lifecycle of a managed connection is well-formed, over every run. The state `Ready` of an
epoch is seen from its barrier until its loop is left, a loop that unwinds included. -/
theorem lifecycle_well_formed (hping : config.textLen .ping ≠ none)
    (h : System.after config labels = some s) :
    (∃ rest, signals s.history ++ rest ∈ lifecycle) ∧
    (s.phase.stage = .finished → signals s.history ∈ lifecycle) ∧
    (openedEpochs s.history).length = (signals s.history).count .connected ∧
    ((openedEpochs s.history).length < 2 ^ 64 → (openedEpochs s.history).Pairwise (· < ·)) ∧
    ∀ e, s.state = .ready e → e = s.connectionEpoch ∧
      (s.phase.stage = .live ∨ s.phase.stage = .unwinding) ∧ signals s.history ∈ passed := by
  have hs : s.life.Sound :=
    Runs.run_invariant (I := fun s : System ↦ s.life.Sound)
      (fun _ _ _ ↦ System.sound_step hping) System.sound_init h
  have hseen : openedEpochs s.history = epochs ((signals s.history).count .connected) := by
    rw [← System.openedEpochs_life, ← System.signals_life, hs.noted.seen]
  refine ⟨?_, fun hfinished ↦ ?_, ?_, fun hlt ↦ ?_, ?_⟩
  · rw [← System.signals_life]
    exact hs.completes
  · rw [← System.signals_life]
    exact hs.of_stage hfinished
  · rw [hseen, epochs_length]
  · rw [hseen, epochs_length] at *
    exact epochs_pairwise hlt
  · rw [← System.signals_life]
    exact hs.ready

end Theorem

def panicRun : List Label :=
  [.task .connect, .task (.authenticate .authenticated), .task (.establish .ready),
    .branch (.read .closed), .task (.finish 50), .tick (millis 250), .task .windowElapsed,
    .task .connect, .task .panic, .task .unwound]

theorem lifecycle_well_formed_panic :
    ∃ s, System.after sampleConfig panicRun = some s ∧
      signals s.history = [.connected, .authenticated, .reconciled, .ready, .disconnected,
        .reconnecting, .connected, .disconnected, .terminated] ∧
      signals s.history ∈ lifecycle ∧ openedEpochs s.history = [1, 2] := by
  have hrun : (System.after sampleConfig panicRun).any (fun s ↦
      signals s.history = [.connected, .authenticated, .reconciled, .ready, .disconnected,
        .reconnecting, .connected, .disconnected, .terminated] ∧ s.phase.stage = .finished ∧
      openedEpochs s.history = [1, 2]) = true := by
    decide +kernel
  obtain ⟨s, hs, hend⟩ := (Option.any_eq_true _ _).mp hrun
  obtain ⟨hsignals, hfinished, hepochs⟩ := of_decide_eq_true hend
  exact ⟨s, hs, hsignals, (lifecycle_well_formed (Option.some_ne_none _) hs).2.1 hfinished, hepochs⟩

end MakerSdk.Session
