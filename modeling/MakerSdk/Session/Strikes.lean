import MakerSdk.Session.Life

namespace MakerSdk.Session

open Base Relation

/-- What an auditor keeps of a history: whether the latest connection has authenticated, and
whether no session was ended by a refused signature after it had. -/
def Event.audit (seen : Bool × Bool) : Event → Bool × Bool
  | lifecycle .connected => (false, seen.2)
  | lifecycle .authenticated => (true, seen.2)
  | sessionEnded (.terminated reason) => (seen.1, seen.2 && !(seen.1 && System.isStrike reason))
  | _ => seen

def audit (history : List Event) : Bool × Bool := history.foldl Event.audit (false, true)

def refusedUnauthenticated (history : List Event) : Bool := (audit history).2

/-- Three connections were refused for their signature, and none authenticated between the first
and the last of these refusals. -/
def RefusedInARow (history : List Event) : Prop :=
  ∃ earlier first gap second gap' third later,
    history = earlier ++ .sessionEnded (.terminated first) :: gap ++
      .sessionEnded (.terminated second) :: gap' ++ .sessionEnded (.terminated third) :: later ∧
    (System.isStrike first ∧ System.isStrike second ∧ System.isStrike third) ∧
    (.lifecycle .connected ∈ gap ∧ .lifecycle .connected ∈ gap') ∧
    .lifecycle .authenticated ∉ gap ∧ .lifecycle .authenticated ∉ gap'

/-- A history ends in `n` refusals, each of another connection, with no authentication since the
first; `fresh` where a connection was opened since the last. -/
inductive Struck : ℕ → Bool → List Event → Prop
  | start {fresh : Bool} {history : List Event} : Struck 0 fresh history
  | quiet {n : ℕ} {fresh : Bool} {history : List Event} {event : Event}
      (h : Struck n fresh history) (hevent : event ≠ .lifecycle .authenticated) :
      Struck n fresh (history ++ [event])
  | connect {n : ℕ} {fresh : Bool} {history : List Event} (h : Struck n fresh history) :
      Struck n true (history ++ [.lifecycle .connected])
  | refuse {n : ℕ} {history : List Event} {reason : ManagedWsTerminationReason}
      (h : Struck n true history) (hstrike : System.isStrike reason = true) :
      Struck (n + 1) false (history ++ [.sessionEnded (.terminated reason)])

section Histories

variable {n : ℕ} {fresh : Bool} {history new : List Event} {event : Event}

theorem audit_concat : audit (history ++ [event]) = event.audit (audit history) := by
  rw [audit, List.foldl_append]
  rfl

theorem Event.audit_ok {seen : Bool × Bool} (h : (event.audit seen).2 = true) : seen.2 = true := by
  unfold Event.audit at h
  split at h
  · exact h
  · exact h
  · exact (Bool.and_eq_true_iff.mp h).1
  · exact h

theorem refusedUnauthenticated_of_append (h : refusedUnauthenticated (history ++ new) = true) :
    refusedUnauthenticated history = true := by
  induction new using List.reverseRecOn with
  | nil => simpa using h
  | append_singleton new event ih =>
    rw [← List.append_assoc, refusedUnauthenticated, audit_concat] at h
    exact ih (Event.audit_ok h)

theorem Struck.split (h : Struck (n + 1) fresh history) :
    ∃ before reason gap, history = before ++ .sessionEnded (.terminated reason) :: gap ∧
      System.isStrike reason = true ∧ .lifecycle .authenticated ∉ gap ∧
      (fresh = true → .lifecycle .connected ∈ gap) ∧ Struck n true before := by
  generalize hm : n + 1 = m at h
  induction h with
  | start => cases hm
  | quiet h hevent ih =>
    obtain ⟨before, reason, gap, rfl, hstrike, hgap, hfresh, hbefore⟩ := ih hm
    refine ⟨before, reason, gap ++ [_], List.append_assoc _ _ _, hstrike, ?_, fun hf ↦ ?_, hbefore⟩
    · simp [hgap, hevent.symm]
    · exact List.mem_append_left _ (hfresh hf)
  | connect h ih =>
    obtain ⟨before, reason, gap, rfl, hstrike, hgap, -, hbefore⟩ := ih hm
    refine ⟨before, reason, gap ++ [_], List.append_assoc _ _ _, hstrike, ?_, fun _ ↦ ?_, hbefore⟩
    · simp [hgap]
    · simp
  | refuse h hstrike =>
    cases hm
    exact ⟨_, _, [], rfl, hstrike, by simp, (fun h ↦ by cases h), h⟩

theorem Struck.refusedInARow (h : Struck (n + 3) fresh history) : RefusedInARow history := by
  obtain ⟨before, third, later, rfl, hthird, -, -, h⟩ := h.split
  obtain ⟨before, second, gap', rfl, hsecond, hgap', hfresh', h⟩ := h.split
  obtain ⟨earlier, first, gap, rfl, hfirst, hgap, hfresh, -⟩ := h.split
  exact ⟨earlier, first, gap, second, gap', third, later, by simp, ⟨hfirst, hsecond, hthird⟩,
    ⟨hfresh rfl, hfresh' rfl⟩, hgap, hgap'⟩

theorem Struck.of_milestones (h : Struck n fresh (history.filter Event.isMilestone)) :
    Struck n fresh history := by
  induction history using List.reverseRecOn generalizing n fresh with
  | nil => exact h
  | append_singleton history event ih =>
    rw [List.filter_append] at h
    by_cases hm : event.isMilestone = true
    · rw [List.filter_cons_of_pos hm, List.filter_nil] at h
      generalize hl : history.filter Event.isMilestone ++ [event] = log at h
      cases h with
      | start => exact .start
      | quiet h hevent =>
        obtain ⟨rfl, he⟩ := List.append_inj' hl rfl
        cases he
        exact (ih h).quiet hevent
      | connect h =>
        obtain ⟨rfl, he⟩ := List.append_inj' hl rfl
        cases he
        exact (ih h).connect
      | refuse h hstrike =>
        obtain ⟨rfl, he⟩ := List.append_inj' hl rfl
        cases he
        exact (ih h).refuse hstrike
    · rw [List.filter_cons_of_neg hm, List.filter_nil, List.append_nil] at h
      apply (ih h).quiet
      rintro rfl
      exact hm rfl

end Histories

namespace Life

/-- What the strikes of a managed connection stand for, as long as no session is refused after it
has authenticated. -/
structure Tally (L : Life) : Prop where
  ended : L.stage ≠ .ending → L.ended = none
  authenticated : L.stage = .authenticated ∨ L.stage = .live → (audit L.log).1 = true
  idle : L.stage = .idle → ∃ fresh, Struck L.strikes fresh L.log
  opened : L.stage = .opened → Struck L.strikes true L.log
  failed : L.ended = some .authenticationFailed → Struck L.strikes true L.log
  refused : L.ended ≠ none → (audit L.log).1 = false → Struck L.strikes true L.log
  unclosed : L.stage ≠ .finished → ∀ reason, L.state ≠ .closed reason
  closed : ∀ reason, L.state = .closed reason → System.isStrike reason = true →
    .limitReached ∉ L.log → ∃ n fresh, 3 ≤ n ∧ Struck n fresh L.log

variable {L L' : Life} {ended : Ending} {done : SessionEnd}

theorem struck_publish {n : ℕ} {fresh : Bool} {state : ManagedWsState} {event : ManagedWsEvent}
    (h : Struck n fresh L.log) (hevent : event ≠ .authenticated) :
    Struck n fresh (L.publish state event).log := by
  have hstate : Struck n fresh (L.log ++ [.state state]) := h.quiet (fun h ↦ by cases h)
  have hpublished : Struck n fresh (L.log ++ [.state state] ++ [.lifecycle event]) := by
    apply hstate.quiet
    intro he
    cases he
    exact hevent rfl
  rwa [List.append_assoc] at hpublished

theorem struck_disconnected {n : ℕ} {fresh : Bool} (h : Struck n fresh L.log) :
    Struck n fresh L.disconnected.log := by
  unfold Life.disconnected
  split
  · exact h.quiet (fun h ↦ by cases h)
  · exact h

theorem Tally.running (hended : L.ended = none) (hstate : ∀ reason, L.state ≠ .closed reason)
    (hauth : L.stage = .authenticated ∨ L.stage = .live → (audit L.log).1 = true)
    (hidle : L.stage = .idle → ∃ fresh, Struck L.strikes fresh L.log)
    (hopened : L.stage = .opened → Struck L.strikes true L.log) : L.Tally where
  ended _ := hended
  authenticated := hauth
  idle := hidle
  opened := hopened
  failed h := by cases hended.symm.trans h
  refused h := absurd hended h
  unclosed _ := hstate
  closed reason h := absurd h (hstate reason)

theorem Tally.leave (hauth : (audit L.log).1 = true) (hended : ended ≠ .authenticationFailed)
    (hstate : ∀ reason, L.state ≠ .closed reason) : (L.leave ended).Tally := by
  refine ⟨fun h ↦ absurd rfl h, ?_, (fun h ↦ by cases h), (fun h ↦ by cases h), ?_, ?_,
    fun _ ↦ hstate, ?_⟩
  · rintro (h | h) <;> cases h
  · intro h
    exact absurd (Option.some_inj.mp h) hended
  · intro _ hfalse
    have htrue : (audit (L.leave ended).log).1 = true := hauth
    rw [htrue] at hfalse
    cases hfalse
  · intro reason h
    exact absurd h (hstate reason)

theorem Tally.terminate {reason : ManagedWsTerminationReason}
    (h : System.isStrike reason = true → .limitReached ∉ L.log →
      ∃ n fresh, 3 ≤ n ∧ Struck n fresh L.log) : (L.terminate reason).Tally := by
  refine ⟨fun _ ↦ rfl, ?_, (fun h ↦ by cases h), (fun h ↦ by cases h), (fun h ↦ by cases h),
    fun h ↦ absurd rfl h, fun hfinished ↦ absurd rfl hfinished, ?_⟩
  · rintro (h | h) <;> cases h
  · intro reason' hreason hstrike hlimit
    cases hreason
    have hlimit' : .limitReached ∉ L.log := fun hm ↦ hlimit (List.mem_append_left _ hm)
    obtain ⟨n, fresh, hn, hs⟩ := h hstrike hlimit'
    exact ⟨n, fresh, hn, struck_publish hs (fun h ↦ by cases h)⟩

theorem Tally.nextRound (h : ∃ fresh, Struck L.strikes fresh L.log) (hm : L.NextRound L') :
    L'.Tally := by
  cases hm with
  | reconnect =>
    refine .running rfl (fun _ h ↦ by cases h) ?_ (fun _ ↦ ?_) (fun h ↦ by cases h)
    · rintro (h | h) <;> cases h
    · obtain ⟨fresh, h⟩ := h
      exact ⟨fresh, struck_publish h (fun h ↦ by cases h)⟩
  | giveUp =>
    apply Tally.terminate
    intro _ hlimit
    exact absurd (List.mem_append_right _ (List.mem_singleton_self _)) hlimit

theorem log_disconnected : ∃ new, L.disconnected.log = L.log ++ new := by
  unfold Life.disconnected
  split
  · exact ⟨_, rfl⟩
  · exact ⟨[], (List.append_nil _).symm⟩

theorem NextRound.log (h : L.NextRound L') : ∃ new, L'.log = L.log ++ new := by
  cases h with
  | reconnect => exact ⟨_, rfl⟩
  | giveUp => exact ⟨_, List.append_assoc _ _ _⟩

theorem AfterSession.log (h : L.AfterSession done L') : ∃ new, L'.log = L.log ++ new := by
  cases h with
  | closeRequested | terminated => exact ⟨_, rfl⟩
  | authenticationFailed h | strike _ h | disconnected h => exact h.log

theorem Advance.log (h : L.Advance L') : ∃ new, L'.log = L.log ++ new := by
  cases h with
  | close | connect | authenticate | reauthenticate | exit => exact ⟨_, rfl⟩
  | connectFailed _ h => exact h.log
  | fail | drop | panic => exact ⟨[], (List.append_nil _).symm⟩
  | finish _ _ h =>
    obtain ⟨new, hnew⟩ := h.log
    obtain ⟨gone, hgone⟩ := log_disconnected
    rw [hnew, returned, hgone, record, List.append_assoc, List.append_assoc]
    exact ⟨_, rfl⟩
  | unwind =>
    obtain ⟨gone, hgone⟩ := log_disconnected (L := L)
    rw [terminate, publish, hgone, List.append_assoc]
    exact ⟨_, rfl⟩

theorem finish_authenticationFailed {now : Instant}
    (h : ended.finish now = .authenticationFailed) : ended = .authenticationFailed := by
  rcases ended with _ | _ | _ | ⟨since, _ | _ | _ | _⟩
  case authenticationFailed => rfl
  all_goals cases h

theorem Tally.afterSession {now : Instant} (h : L.Tally) (hended : L.ended = some ended)
    (hdone : ended.finish now = done)
    (hok : refusedUnauthenticated (L.record (.sessionEnded done)).log = true)
    (hm : (L.returned done).AfterSession done L') : L'.Tally := by
  have hstrikes : (L.returned done).strikes = L.strikes := by
    rw [returned, Life.disconnected]
    split <;> rfl
  -- A refusal is counted: by the audit, of a session that has not authenticated.
  have hrefused : ∀ reason, done = .terminated reason → System.isStrike reason = true →
      Struck (L.strikes + 1) false (L.returned done).log := by
    rintro reason rfl hstrike
    rw [refusedUnauthenticated, record, audit_concat] at hok
    obtain ⟨-, hnot⟩ := Bool.and_eq_true_iff.mp hok
    rw [hstrike, Bool.and_true, Bool.not_eq_true'] at hnot
    have hsome : L.ended ≠ none := by simp [hended]
    exact struck_disconnected ((h.refused hsome hnot).refuse hstrike)
  cases hm with
  | closeRequested => exact Tally.terminate (fun h ↦ by cases h)
  | authenticationFailed hround =>
    refine Tally.nextRound ⟨true, ?_⟩ hround
    rw [hstrikes]
    rw [finish_authenticationFailed hdone] at hended
    exact struck_disconnected ((h.failed hended).quiet (fun h ↦ by cases h))
  | strike hstrike hround =>
    refine Tally.nextRound ⟨false, ?_⟩ hround
    rw [hstrikes]
    exact hrefused _ rfl hstrike
  | terminated hlimit =>
    apply Tally.terminate
    intro hstrike _
    obtain ⟨rfl, hle⟩ := hlimit hstrike
    refine ⟨_, false, hle, ?_⟩
    rw [hstrikes]
    exact hrefused _ rfl hstrike
  | disconnected hround => exact Tally.nextRound ⟨true, .start⟩ hround

theorem audit_publish {state : ManagedWsState} {event : ManagedWsEvent} :
    audit (L.publish state event).log = (Event.lifecycle event).audit (audit L.log) := by
  rw [publish, audit, List.foldl_append]
  rfl

theorem Tally.advance (h : L.Tally) (hm : L.Advance L')
    (hok : refusedUnauthenticated L'.log = true) : L'.Tally := by
  cases hm with
  | close => exact Tally.terminate (fun h ↦ by cases h)
  | connectFailed hstage hround => exact Tally.nextRound (h.idle hstage) hround
  | connect hstage =>
    refine .running rfl (fun _ h ↦ by cases h) ?_ (fun h ↦ by cases h) (fun _ ↦ ?_)
    · rintro (h | h) <;> cases h
    · obtain ⟨fresh, hs⟩ := h.idle hstage
      have hstate : Struck L.strikes fresh (L.log ++ [.state (.connected L.nextEpoch)]) :=
        hs.quiet (fun h ↦ by cases h)
      have hconnect := hstate.connect
      rwa [List.append_assoc] at hconnect
  | fail hstage =>
    have hfinished : L.stage ≠ .finished := by simp [hstage]
    refine ⟨fun h ↦ absurd rfl h, ?_, (fun h ↦ by cases h), (fun h ↦ by cases h),
      fun _ ↦ h.opened hstage, fun _ _ ↦ h.opened hstage, fun _ ↦ h.unclosed hfinished,
      fun reason hr ↦ absurd hr (h.unclosed hfinished reason)⟩
    rintro (h | h) <;> cases h
  | authenticate hstage =>
    refine .running rfl (fun _ h ↦ by cases h) (fun _ ↦ ?_) (fun h ↦ by cases h)
      (fun h ↦ by cases h)
    exact congrArg Prod.fst (audit_publish (L := L))
  | drop hstage hended =>
    exact Tally.leave (h.authenticated (.inl hstage)) hended (h.unclosed (by simp [hstage]))
  | reauthenticate hstage =>
    have hended : L.ended = none := h.ended (by simp [hstage])
    have hopen := h.unclosed (show L.stage ≠ .finished by simp [hstage])
    refine .running hended hopen (fun _ ↦ ?_) (fun hs ↦ ?_) (fun hs ↦ ?_)
    · rw [record, audit_concat]
      rfl
    · cases hstage.symm.trans hs
    · cases hstage.symm.trans hs
  | exit hstage hended =>
    apply Tally.leave _ hended (fun _ h ↦ by cases h)
    rw [record, audit_concat]
    exact h.authenticated (.inr hstage)
  | finish hstage hended hafter =>
    refine h.afterSession hended rfl ?_ hafter
    obtain ⟨new, hnew⟩ := hafter.log
    obtain ⟨gone, hgone⟩ := log_disconnected
    rw [hnew, returned, hgone, List.append_assoc] at hok
    exact refusedUnauthenticated_of_append hok
  | panic hfinished =>
    refine .running rfl (h.unclosed hfinished) ?_ (fun h ↦ by cases h) (fun h ↦ by cases h)
    rintro (h | h) <;> cases h
  | unwind => exact Tally.terminate (fun h ↦ by cases h)

theorem Tally.passBarrier (h : L.Tally) (hstage : L.stage = .authenticated) : L.ready.Tally := by
  refine .running rfl (fun _ h ↦ by cases h) (fun _ ↦ ?_) (fun h ↦ by cases h)
    (fun h ↦ by cases h)
  have haudit : audit L.ready.log = audit L.log := by
    rw [ready, audit_publish, audit_publish]
    rfl
  rw [haudit]
  exact h.authenticated (.inl hstage)

end Life

namespace System

variable {config : ManagedWsConfig} {s t : System}

def Tallied (s : System) : Prop := refusedUnauthenticated s.life.log = true → s.life.Tally

theorem tallied_init : (System.init config).Tallied := by
  refine fun _ ↦ .running rfl (fun _ h ↦ by cases h) ?_ (fun _ ↦ ⟨true, .start⟩)
    (fun h ↦ by cases h)
  rintro (h | h) <;> cases h

theorem Advances.tallied (h : Advances s t) (hs : s.Tallied) : t.Tallied := by
  rw [Advances] at h
  rw [Tallied]
  generalize t.life = L at h
  induction h with
  | refl => exact hs
  | tail _ hm ih =>
    intro hok
    obtain ⟨new, hnew⟩ := hm.log
    have hbefore := hok
    rw [hnew] at hbefore
    exact (ih (refusedUnauthenticated_of_append hbefore)).advance hm hok

theorem tallied_step {label : Label} (hs : s.Tallied) (ht : s.step config label = some t) :
    t.Tallied := by
  rcases step_advances ht with h | ⟨authenticatedAt, hphase, -, rfl⟩
  · exact h.tallied hs
  · have hstage : s.life.stage = .authenticated := congrArg Phase.stage hphase
    have hok : refusedUnauthenticated s.life.ready.log = true →
        refusedUnauthenticated s.life.log = true := by
      rw [Life.ready, Life.publish, Life.publish, List.append_assoc]
      exact refusedUnauthenticated_of_append
    intro haudit
    rcases life_becomeReady (s := s) with hready | ⟨-, ended, hended, hready⟩
    · rw [hready] at haudit ⊢
      exact (hs (hok haudit)).passBarrier hstage
    · rw [hready] at haudit ⊢
      have hpassed := (hs (hok haudit)).passBarrier hstage
      exact Life.Tally.leave (hpassed.authenticated (.inr rfl)) hended (fun _ h ↦ by cases h)

theorem audit_life : audit s.life.log = audit s.history := by
  rw [life, audit, audit, List.foldl_filter]
  congr 1
  funext seen event
  by_cases h : event.isMilestone = true
  · rw [if_pos h]
  · rw [if_neg h]
    cases event with
    | lifecycle event =>
      cases event with
      | connected | authenticated => exact absurd rfl h
      | _ => rfl
    | sessionEnded | state | limitReached => exact absurd rfl h
    | _ => rfl

end System

section Strikes

variable {config : ManagedWsConfig} {labels : List Label} {s : System}
  {reason : ManagedWsTerminationReason}

/-- Only consecutive refusals of a signature are terminal, over every run in which no session is
refused for its signature after it has authenticated. -/
theorem refusals_consecutive (h : System.after config labels = some s)
    (haudit : refusedUnauthenticated s.history = true) (hclosed : s.state = .closed reason)
    (hstrike : System.isStrike reason = true) (hlimit : .limitReached ∉ s.history) :
    RefusedInARow s.history := by
  have hs : s.Tallied :=
    Runs.run_invariant (I := System.Tallied) (fun _ _ _ ↦ System.tallied_step)
      System.tallied_init h
  have hok : refusedUnauthenticated s.life.log = true := by
    rw [refusedUnauthenticated, System.audit_life]
    exact haudit
  have hnone : .limitReached ∉ s.life.log := fun hm ↦ hlimit (List.mem_of_mem_filter hm)
  obtain ⟨n, fresh, hn, hstruck⟩ := (hs hok).closed reason hclosed hstrike hnone
  obtain ⟨m, rfl⟩ := Nat.exists_eq_add_of_le' hn
  exact hstruck.of_milestones.refusedInARow

end Strikes

def threeRounds (round : List Label) : List Label :=
  round ++ [.tick (millis 200), .task .windowElapsed] ++ round ++
    [.tick (millis 400), .task .windowElapsed] ++ round

def refusedRound : List Label :=
  [.task .connect, .task (.authenticate (.terminated "authentication rejected"
    (.authenticationRejected "invalid_signature" none))), .task (.finish 0)]

def authenticatedRound : List Label :=
  [.task .connect, .task (.authenticate .authenticated), .task (.establish .ready),
    .branch (.read (.message (.authError .invalidSignature "stale key"))), .task (.finish 0)]

def Event.isLimitReached : Event → Bool
  | limitReached => true
  | _ => false

def System.closedByRefusal (s : System) : Bool :=
  (match s.state with
    | .closed reason => isStrike reason
    | _ => false) && s.history.all fun event ↦ !event.isLimitReached

theorem System.closedByRefusal_spec {s : System} (h : s.closedByRefusal = true) :
    ∃ reason, s.state = .closed reason ∧ isStrike reason = true ∧ .limitReached ∉ s.history := by
  obtain ⟨hstate, hlimit⟩ := Bool.and_eq_true_iff.mp h
  split at hstate
  · rename_i reason hclosed
    refine ⟨reason, hclosed, hstate, fun hm ↦ ?_⟩
    have hnot := List.all_eq_true.mp hlimit _ hm
    cases hnot
  · cases hstate

theorem refusals_consecutive_at_authentication :
    ∃ s, System.after sampleConfig (threeRounds refusedRound) = some s ∧
      s.closedByRefusal = true ∧ RefusedInARow s.history := by
  have hrun : (System.after sampleConfig (threeRounds refusedRound)).any (fun s ↦
      refusedUnauthenticated s.history && s.closedByRefusal) = true := by
    decide +kernel
  obtain ⟨s, hs, hend⟩ := (Option.any_eq_true _ _).mp hrun
  obtain ⟨haudit, hrefused⟩ := Bool.and_eq_true_iff.mp hend
  obtain ⟨reason, hclosed, hstrike, hlimit⟩ := System.closedByRefusal_spec hrefused
  exact ⟨s, hs, hrefused, refusals_consecutive hs haudit hclosed hstrike hlimit⟩

def Event.verdict : Event → Option Bool
  | lifecycle .authenticated => some true
  | sessionEnded (.terminated reason) => if System.isStrike reason then some false else none
  | _ => none

theorem Event.verdict_true {event : Event} (h : event.verdict = some true) :
    event = .lifecycle .authenticated := by
  unfold Event.verdict at h
  split at h
  · rfl
  · split at h <;> cases h
  · cases h

theorem RefusedInARow.verdicts {history : List Event} (h : RefusedInARow history) :
    [false, false] <:+: history.filterMap Event.verdict := by
  obtain ⟨earlier, first, gap, second, gap', third, later, rfl, ⟨hfirst, hsecond, -⟩, -, hgap, -⟩ :=
    h
  have hrefused : ∀ {reason}, System.isStrike reason = true →
      (Event.sessionEnded (.terminated reason)).verdict = some false := fun hr ↦ if_pos hr
  have htrue : true ∉ gap.filterMap Event.verdict := by
    intro hm
    obtain ⟨event, he, hv⟩ := List.mem_filterMap.mp hm
    exact hgap (Event.verdict_true hv ▸ he)
  simp only [List.filterMap_append, List.filterMap_cons_some (hrefused hfirst),
    List.filterMap_cons_some (hrefused hsecond), List.append_assoc, List.cons_append]
  cases hverdicts : gap.filterMap Event.verdict with
  | nil => exact ⟨earlier.filterMap Event.verdict, _, List.append_assoc _ _ _⟩
  | cons verdict rest =>
    rw [hverdicts] at htrue
    have hfalse : verdict = false := by
      cases verdict with
      | true => exact absurd List.mem_cons_self htrue
      | false => rfl
    subst hfalse
    exact ⟨earlier.filterMap Event.verdict, _, List.append_assoc _ _ _⟩

/-- Every connection authenticates and is refused only then: the refusals are counted all the
same, and the third is terminal. -/
theorem refusals_after_authentication :
    ∃ s reason, System.after sampleConfig (threeRounds authenticatedRound) = some s ∧
      s.state = .closed reason ∧ System.isStrike reason = true ∧ .limitReached ∉ s.history ∧
      ¬RefusedInARow s.history := by
  have hrun : (System.after sampleConfig (threeRounds authenticatedRound)).any (fun s ↦
      decide (s.history.filterMap Event.verdict = [true, false, true, false, true, false]) &&
        s.closedByRefusal) = true := by
    decide +kernel
  obtain ⟨s, hs, hend⟩ := (Option.any_eq_true _ _).mp hrun
  obtain ⟨hverdicts, hrefused⟩ := Bool.and_eq_true_iff.mp hend
  obtain ⟨reason, hclosed, hstrike, hlimit⟩ := System.closedByRefusal_spec hrefused
  refine ⟨s, reason, hs, hclosed, hstrike, hlimit, fun h ↦ ?_⟩
  have hinfix := h.verdicts
  rw [of_decide_eq_true hverdicts] at hinfix
  revert hinfix
  decide

end MakerSdk.Session
