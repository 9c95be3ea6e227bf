import MakerSdk.Session.Steady

namespace MakerSdk.Session

open Base

/-- What `run_managed_ws` does with its backoff: it resets it, takes the next attempt with its base
delay, or finds the limit reached. -/
inductive PaceEvent where
  | reset
  | reconnect (baseDelay : Instant)
  | limitReached
deriving DecidableEq

namespace PaceEvent

def isReconnect : PaceEvent → Bool
  | reconnect _ => true
  | _ => false

def count (n : ℕ) : PaceEvent → ℕ
  | reset => 0
  | reconnect _ => n + 1
  | limitReached => n

end PaceEvent

def sinceReset (history : List PaceEvent) : ℕ := history.foldl PaceEvent.count 0

namespace ReconnectBackoff

def note (backoff : ReconnectBackoff) : PaceEvent → ReconnectBackoff
  | .reset => backoff.reset
  | .reconnect _ => backoff.nextAttempt.2
  | .limitReached => backoff

def round (backoff : ReconnectBackoff) (maximumAttempts : ℕ) : List PaceEvent :=
  if backoff.limitReached maximumAttempts then [.limitReached]
  else [.reconnect backoff.nextAttempt.1.2]

end ReconnectBackoff

namespace System

def endEvents (config : ManagedWsConfig) (s : System) : SessionEnd → List PaceEvent
  | .closeRequested => []
  | .authenticationFailed => s.backoff.round config.maxReconnectAttempts
  | .terminated reason =>
    if isStrike reason ∧ s.invalidSignatureStrikes + 1 < invalidSignatureStrikeLimit then
      s.backoff.round config.maxReconnectAttempts
    else []
  | .disconnected authenticatedFor _ =>
    if authenticatedFor < s.backoff.maximum then s.backoff.round config.maxReconnectAttempts
    else .reset :: s.backoff.reset.round config.maxReconnectAttempts

def paceEvents (config : ManagedWsConfig) (s : System) : Label → List PaceEvent
  | .task (.connectFailed ..) => s.backoff.round config.maxReconnectAttempts
  | .task (.finish _) =>
    match s.phase with
    | .ending ended => s.endEvents config (ended.finish s.time)
    | _ => []
  | _ => []

def paceHistory (config : ManagedWsConfig) (labels : List Label) : List PaceEvent :=
  Runs.noted (step config) (paceEvents config) (init config) labels

end System

def Event.isReconnecting : Event → Bool
  | state (.reconnecting ..) => true
  | _ => false

namespace System

def announced (s : System) : ℕ := (s.trace.map Entry.event).countP Event.isReconnecting

def AuthenticatedAt (s : System) (since : Instant) : Prop :=
  ∃ before after, s.trace = before ++ ⟨since, .lifecycle .authenticated⟩ :: after ∧
    ∀ entry ∈ after, entry.event.isTurn = false

section Trace

variable {s t : System}

theorem announced_append {entries : List Entry} (h : t.trace = s.trace ++ entries) :
    t.announced = s.announced + (entries.map Entry.event).countP Event.isReconnecting := by
  rw [announced, h, List.map_append, List.countP_append, announced]

theorem announced_emit {events : List Event} :
    (s.emit events).announced = s.announced + events.countP Event.isReconnecting := by
  rw [announced_append (t := s.emit events) rfl, List.map_map]
  congr 2
  exact List.map_id _

theorem announced_transitionState {state : ManagedWsState} {event : ManagedWsEvent} :
    (s.transitionState state event).announced =
      s.announced + [Event.state state].countP Event.isReconnecting := by
  rw [transitionState, sendEvent, announced_emit, setState, announced_emit]
  rfl

theorem announced_connectionEnded : s.connectionEnded.announced = s.announced := by
  unfold connectionEnded
  split
  · exact announced_emit
  · rfl

theorem Steady.announced (h : Steady s t) : t.announced = s.announced := by
  obtain ⟨entries, htrace, hentries⟩ := h.trace
  rw [announced_append htrace, Nat.add_eq_left, List.countP_eq_zero]
  intro event he
  obtain ⟨entry, hentry, rfl⟩ := List.mem_map.mp he
  have hturn := hentries entry hentry
  cases hevent : entry.event with
  | state state =>
    rw [hevent] at hturn
    cases state with
    | reconnecting => cases hturn
    | _ => exact Bool.false_ne_true
  | _ => exact Bool.false_ne_true

theorem Steady.authenticatedAt {since : Instant} (h : Steady s t) (hs : s.AuthenticatedAt since) :
    t.AuthenticatedAt since := by
  obtain ⟨entries, htrace, hentries⟩ := h.trace
  obtain ⟨before, after, hs, hafter⟩ := hs
  refine ⟨before, after ++ entries, ?_, ?_⟩
  · rw [htrace, hs, List.append_assoc, List.cons_append]
  · intro entry he
    exact (List.mem_append.mp he).elim (hafter entry) (hentries entry)

end Trace

section Rounds

variable {s : System} {config : ManagedWsConfig} {random : UInt64}

/-- The base delay, jittered, is announced and waited for. -/
def Waits (config : ManagedWsConfig) (s t : System) (baseDelay : Instant) : Prop :=
  ∃ random,
    let delay := jitteredReconnectDelayWithRatio baseDelay config.reconnectJitter random
    t.phase = .reconnecting (s.time + delay) ∧
      t.state = .reconnecting t.backoff.attempts (delay / 1000000)

/-- A round that ends does with the backoff what is noted, and announces each reconnect and waits
for it; without a reconnect the connection is given up. -/
structure Rounds (config : ManagedWsConfig) (s t : System) (events : List PaceEvent) : Prop where
  backoff : t.backoff = events.foldl ReconnectBackoff.note s.backoff
  announced : t.announced = s.announced + events.countP PaceEvent.isReconnect
  ended : t.phase.authenticatedAt = none
  waits : ∀ baseDelay, .reconnect baseDelay ∈ events → Waits config s t baseDelay
  final : (∀ event ∈ events, event.isReconnect = false) →
    t.phase = .returning ∧ ∃ reason, t.state = .closed reason

theorem rounds_terminate {reason : ManagedWsTerminationReason} :
    Rounds config s (s.terminate reason) [] :=
  ⟨rfl, steady_terminate.announced, rfl, (fun _ h ↦ by cases h), fun _ ↦ ⟨rfl, _, rfl⟩⟩

theorem rounds_nextRound :
    Rounds config s (s.nextRound config random)
      (s.backoff.round config.maxReconnectAttempts) := by
  unfold nextRound ReconnectBackoff.round
  split
  · extract_lets reported
    have hreported : Steady s reported := steady_fail.trans (steady_emit (by simp [Event.isTurn]))
    have hpending : Steady reported { reported with pendingAuthRejection := none } :=
      steady_of_eq rfl rfl rfl
    have hsteady : Steady s ({ reported with pendingAuthRejection := none }.terminate
        (s.pendingAuthRejection.getD (.reconnectLimitReached config.maxReconnectAttempts))) :=
      (hreported.trans hpending).trans steady_terminate
    exact ⟨congrArg (·.2.1) hsteady.pace, hsteady.announced, rfl,
      (fun _ h ↦ by cases List.mem_singleton.mp h), fun _ ↦ ⟨rfl, _, rfl⟩⟩
  · extract_lets next delay delayMs
    refine ⟨rfl, ?_, rfl, fun baseDelay h ↦ ?_, fun h ↦ ?_⟩
    · exact @announced_transitionState { s with backoff := next.2 } _ _
    · cases List.mem_singleton.mp h
      exact ⟨random, rfl, rfl⟩
    · cases h _ (List.mem_singleton_self _)

theorem Rounds.after {u t : System} {events : List PaceEvent} (h : Rounds config u t events)
    (hbackoff : u.backoff = s.backoff) (htime : u.time = s.time)
    (hannounced : u.announced = s.announced) : Rounds config s t events where
  backoff := hbackoff ▸ h.backoff
  announced := hannounced ▸ h.announced
  ended := h.ended
  waits baseDelay hmem := by
    obtain ⟨random, hphase, hstate⟩ := h.waits baseDelay hmem
    exact ⟨random, htime ▸ hphase, hstate⟩
  final := h.final

theorem rounds_afterSession {ended : SessionEnd} :
    Rounds config s (s.afterSession config random ended) (s.endEvents config ended) := by
  cases ended with
  | closeRequested => exact rounds_terminate
  | authenticationFailed => exact rounds_nextRound
  | terminated reason =>
    simp only [afterSession, endEvents]
    by_cases hstrike : isStrike reason = true
    · simp only [hstrike, if_true, true_and]
      split
      · have hround := @rounds_nextRound ({ s with
          invalidSignatureStrikes := s.invalidSignatureStrikes + 1
          pendingAuthRejection := some reason }.fail .auth
            ("authentication rejected with invalid_signature, retrying (" ++
              toString (s.invalidSignatureStrikes + 1) ++ "/" ++
              toString invalidSignatureStrikeLimit ++ ")")) config random
        exact hround.after rfl rfl announced_emit
      · exact rounds_terminate.after rfl rfl rfl
    · simp only [hstrike, if_false, false_and, Bool.false_eq_true]
      exact rounds_terminate.after rfl rfl rfl
  | disconnected authenticatedFor clearResume =>
    simp only [afterSession, endEvents, ReconnectBackoff.resetAfterStableSession]
    split
    · exact rounds_nextRound.after rfl rfl rfl
    · obtain ⟨hbackoff, hannounced, hover, hwaits, hfinal⟩ := @rounds_nextRound { s with
        invalidSignatureStrikes := 0
        pendingAuthRejection := none
        backoff := s.backoff.reset } config random
      refine ⟨hbackoff, hannounced, hover, fun baseDelay h ↦ ?_,
        fun h ↦ hfinal (List.forall_mem_cons.mp h).2⟩
      obtain h | h := List.mem_cons.mp h
      · cases h
      · exact hwaits baseDelay h

theorem rounds_finish {ended : SessionEnd} :
    Rounds config s (s.finish config random ended) (s.endEvents config ended) := by
  let returned := s.emit [.sessionEnded ended]
  let cleared : System := { returned.drainTracker with
    subscriptions := s.subscriptions.connectionLost }
  have hreturned : Steady s returned := steady_emit (by simp [Event.isTurn])
  have hcleared : Steady s cleared :=
    (hreturned.trans steady_drainTracker).trans (steady_of_eq rfl rfl rfl)
  have hended : cleared.connectionEnded.announced = s.announced :=
    announced_connectionEnded.trans hcleared.announced
  have hkept : cleared.connectionEnded.backoff = s.backoff ∧
      cleared.connectionEnded.time = s.time ∧
      cleared.connectionEnded.invalidSignatureStrikes = s.invalidSignatureStrikes := by
    unfold connectionEnded
    split <;> exact ⟨rfl, rfl, rfl⟩
  have hrounds := @rounds_afterSession cleared.connectionEnded config random ended
  have hevents : cleared.connectionEnded.endEvents config ended = s.endEvents config ended := by
    cases ended <;> simp only [endEvents, hkept]
  rw [hevents] at hrounds
  exact hrounds.after hkept.1 hkept.2.1 hended

end Rounds

def connectionOver : Label → Bool
  | .task (.connectFailed ..) | .task (.finish _) => true
  | _ => false

theorem paceEvents_of_not_over {s : System} {config : ManagedWsConfig} {label : Label}
    (h : connectionOver label = false) : s.paceEvents config label = [] := by
  unfold paceEvents
  split
  · cases h
  · cases h
  · rfl

theorem step_rounds {s t : System} {config : ManagedWsConfig} {label : Label}
    (ht : s.step config label = some t) :
    Rounds config s t (s.paceEvents config label) ∨ connectionOver label = false ∧
      t.backoff = s.backoff ∧ t.announced = s.announced := by
  rcases step_steady ht with ⟨hsteady, hlabel⟩ | hturn
  · refine .inr ⟨?_, congrArg (·.2.1) hsteady.pace, hsteady.announced⟩
    unfold connectionOver
    split
    · cases hlabel
    · cases hlabel
    · rfl
  · cases hturn with
    | tick => exact .inr ⟨rfl, rfl, rfl⟩
    | connect h =>
      let opened : System := { s with connectionEpoch := (s.connectionEpoch + 1) % 2 ^ 64 }
      exact .inr ⟨rfl, rfl, @announced_transitionState opened _ _⟩
    | connectFailed h => exact .inl (rounds_nextRound.after rfl rfl steady_fail.announced)
    | authenticated h => exact .inr ⟨rfl, rfl, (steady_transitionState rfl rfl).announced⟩
    | finish h =>
      rw [paceEvents, h]
      exact .inl rounds_finish
    | unwound h =>
      have hannounced : s.unwound.announced = s.announced :=
        announced_transitionState.trans announced_connectionEnded
      refine .inr ⟨rfl, ?_, hannounced⟩
      unfold unwound connectionEnded
      split <;> rfl

def Aged (s : System) : Prop :=
  ∀ since, s.phase.authenticatedAt = some since → since ≤ s.time ∧ s.AuthenticatedAt since

section Aged

variable {s t : System} {config : ManagedWsConfig}

theorem aged_of_over (h : t.phase.authenticatedAt = none) : t.Aged :=
  fun _ hs ↦ by cases h.symm.trans hs

theorem Aged.steady (h : s.Aged) (ht : Steady s t) : t.Aged := by
  intro since hsince
  obtain ⟨htime, hauth⟩ := h since (ht.runs since hsince)
  exact ⟨ht.time ▸ htime, ht.authenticatedAt hauth⟩

theorem aged_step {label : Label} (h : s.Aged) (ht : s.step config label = some t) : t.Aged := by
  rcases step_steady ht with ⟨hsteady, -⟩ | hturn
  · exact h.steady hsteady
  · cases hturn with
    | tick =>
      intro since hs
      obtain ⟨htime, hauth⟩ := h since hs
      exact ⟨htime.trans (Nat.le_add_right ..), hauth⟩
    | connect | unwound => exact aged_of_over rfl
    | connectFailed => exact aged_of_over rounds_nextRound.ended
    | authenticated =>
      intro since hs
      cases hs
      exact ⟨le_rfl, _, [], rfl, List.forall_mem_nil _⟩
    | finish => exact aged_of_over rounds_finish.ended

end Aged

end System

namespace ReconnectBackoff

variable {config : ManagedWsConfig} {backoff : ReconnectBackoff} {history : List PaceEvent}
  {n : ℕ}

def reached (config : ManagedWsConfig) (n : ℕ) : ReconnectBackoff where
  initial := config.reconnectDelay
  current := min (config.reconnectDelay * 2 ^ n) config.maxReconnectDelay
  maximum := config.maxReconnectDelay
  attempts := min n (2 ^ 64 - 1)

theorem reached_zero (h : config.reconnectDelay ≤ config.maxReconnectDelay) :
    reached config 0 = new config.reconnectDelay config.maxReconnectDelay := by
  simp [reached, new, h]

theorem reset_reached (h : config.reconnectDelay ≤ config.maxReconnectDelay) :
    (reached config n).reset = reached config 0 := by
  simp [reached, reset, h]

theorem nextAttempt_reached : (reached config n).nextAttempt =
    ((min (n + 1) (2 ^ 64 - 1), min (config.reconnectDelay * 2 ^ n) config.maxReconnectDelay),
      reached config (n + 1)) := by
  have hdelay (delay maximum : ℕ) :
      min (2 * min (delay * 2 ^ n) maximum) maximum = min (delay * 2 ^ (n + 1)) maximum := by
    rw [pow_succ, ← mul_assoc]
    omega
  have hattempts : min (min n (2 ^ 64 - 1) + 1) (2 ^ 64 - 1) = min (n + 1) (2 ^ 64 - 1) := by
    omega
  simp only [reached, nextAttempt, nextReconnectDelay, hdelay, hattempts]

theorem limitReached_reached {limit : ℕ} (h : limit < 2 ^ 64) :
    (reached config n).limitReached limit = true ↔ 0 < limit ∧ limit ≤ n := by
  simp only [limitReached, reached, decide_eq_true_eq, gt_iff_lt, ge_iff_le]
  omega

def Due (config : ManagedWsConfig) (before : List PaceEvent) : PaceEvent → Prop
  | .reconnect baseDelay =>
    baseDelay = min (config.reconnectDelay * 2 ^ sinceReset before) config.maxReconnectDelay ∧
      (0 < config.maxReconnectAttempts → sinceReset before < config.maxReconnectAttempts)
  | _ => True

structure Reckoned (config : ManagedWsConfig) (backoff : ReconnectBackoff)
    (history : List PaceEvent) : Prop where
  backoff : backoff = reached config (sinceReset history)
  due : Runs.Justified (Due config) history

theorem sinceReset_concat {event : PaceEvent} :
    sinceReset (history ++ [event]) = event.count (sinceReset history) :=
  List.foldl_concat ..

theorem Reckoned.reset (hdelay : config.reconnectDelay ≤ config.maxReconnectDelay)
    (h : Reckoned config backoff history) :
    Reckoned config backoff.reset (history ++ [.reset]) := by
  refine ⟨?_, Runs.justified_concat.mpr ⟨h.due, trivial⟩⟩
  rw [h.backoff, reset_reached hdelay, sinceReset_concat]
  rfl

theorem Reckoned.round (hlimit : config.maxReconnectAttempts < 2 ^ 64)
    (h : Reckoned config backoff history) :
    Reckoned config ((backoff.round config.maxReconnectAttempts).foldl note backoff)
      (history ++ backoff.round config.maxReconnectAttempts) := by
  unfold ReconnectBackoff.round
  split
  · refine ⟨?_, Runs.justified_concat.mpr ⟨h.due, trivial⟩⟩
    rw [sinceReset_concat]
    exact h.backoff
  · rename_i hopen
    rw [h.backoff, limitReached_reached hlimit] at hopen
    refine ⟨?_, Runs.justified_concat.mpr ⟨h.due, ?_, fun hpos ↦ ?_⟩⟩
    · rw [sinceReset_concat, h.backoff]
      exact congrArg Prod.snd nextAttempt_reached
    · rw [h.backoff, nextAttempt_reached]
    · exact Nat.lt_of_not_le fun hle ↦ hopen ⟨hpos, hle⟩

end ReconnectBackoff

namespace System

variable {s t : System} {config : ManagedWsConfig} {history : List PaceEvent}

structure Paced (config : ManagedWsConfig) (s : System) (history : List PaceEvent) : Prop where
  reckoned : s.backoff.Reckoned config history
  counted : s.backoff = history.foldl ReconnectBackoff.note
    (.new config.reconnectDelay config.maxReconnectDelay)
  announced : s.announced = history.countP PaceEvent.isReconnect

theorem paced_init (hdelay : config.reconnectDelay ≤ config.maxReconnectDelay) :
    (init config).Paced config [] :=
  ⟨⟨(ReconnectBackoff.reached_zero hdelay).symm, Runs.justified_nil⟩, rfl, rfl⟩

theorem reckoned_endEvents (hdelay : config.reconnectDelay ≤ config.maxReconnectDelay)
    (hlimit : config.maxReconnectAttempts < 2 ^ 64) (h : s.backoff.Reckoned config history)
    {ended : SessionEnd} :
    ((s.endEvents config ended).foldl ReconnectBackoff.note s.backoff).Reckoned config
      (history ++ s.endEvents config ended) := by
  have hnone : ReconnectBackoff.Reckoned config s.backoff (history ++ []) := by
    rwa [List.append_nil]
  cases ended with
  | closeRequested => exact hnone
  | authenticationFailed => exact h.round hlimit
  | terminated reason =>
    simp only [endEvents]
    split
    · exact h.round hlimit
    · exact hnone
  | disconnected authenticatedFor clearResume =>
    simp only [endEvents]
    split
    · exact h.round hlimit
    · rw [List.append_cons, List.foldl_cons]
      exact (h.reset hdelay).round hlimit

theorem reckoned_paceEvents (hdelay : config.reconnectDelay ≤ config.maxReconnectDelay)
    (hlimit : config.maxReconnectAttempts < 2 ^ 64) (h : s.backoff.Reckoned config history)
    {label : Label} :
    ((s.paceEvents config label).foldl ReconnectBackoff.note s.backoff).Reckoned config
      (history ++ s.paceEvents config label) := by
  have hnone : ReconnectBackoff.Reckoned config s.backoff (history ++ []) := by
    rwa [List.append_nil]
  unfold paceEvents
  split
  · exact h.round hlimit
  · split
    · exact reckoned_endEvents hdelay hlimit h
    · exact hnone
  · exact hnone

theorem paced_step {label : Label} (hdelay : config.reconnectDelay ≤ config.maxReconnectDelay)
    (hlimit : config.maxReconnectAttempts < 2 ^ 64) (h : s.Paced config history)
    (ht : s.step config label = some t) :
    t.Paced config (history ++ s.paceEvents config label) := by
  rcases step_rounds ht with hrounds | ⟨hlabel, hbackoff, hannounced⟩
  · refine ⟨hrounds.backoff ▸ reckoned_paceEvents hdelay hlimit h.reckoned, ?_, ?_⟩
    · rw [List.foldl_append, ← h.counted]
      exact hrounds.backoff
    · rw [List.countP_append, ← h.announced]
      exact hrounds.announced
  · rw [paceEvents_of_not_over hlabel, List.append_nil]
    exact ⟨hbackoff ▸ h.reckoned, hbackoff ▸ h.counted, hannounced.trans h.announced⟩

/-- The session that has just been wound up was authenticated, on the connection at hand, at least
the maximum delay ago. -/
def StableEnd (config : ManagedWsConfig) (s : System) : Prop :=
  ∃ since ended, s.phase = .ending (.authenticated since ended) ∧
    since + config.maxReconnectDelay ≤ s.time ∧ s.AuthenticatedAt since

structure BacksOff (config : ManagedWsConfig) (s : System) (history : List PaceEvent) : Prop where
  counted : s.backoff = history.foldl ReconnectBackoff.note
    (.new config.reconnectDelay config.maxReconnectDelay)
  announced : s.announced = history.countP PaceEvent.isReconnect
  delays : ∀ before baseDelay after, history = before ++ .reconnect baseDelay :: after →
    baseDelay = min (config.reconnectDelay * 2 ^ sinceReset before) config.maxReconnectDelay
  waits : ∀ label t, s.step config label = some t → ∀ baseDelay,
    .reconnect baseDelay ∈ s.paceEvents config label → Waits config s t baseDelay
  resets : ∀ label t, s.step config label = some t → .reset ∈ s.paceEvents config label →
    s.StableEnd config
  bounded : 0 < config.maxReconnectAttempts → ∀ before baseDelay after,
    history = before ++ .reconnect baseDelay :: after →
      sinceReset before < config.maxReconnectAttempts
  exhausted : 0 < config.maxReconnectAttempts →
    sinceReset history = config.maxReconnectAttempts → ∀ label t,
      s.step config label = some t → connectionOver label = true →
        (t.phase = .returning ∧ ∃ reason, t.state = .closed reason) ∨ s.StableEnd config

theorem reset_not_mem_round {backoff : ReconnectBackoff} {limit : ℕ} :
    .reset ∉ backoff.round limit := by
  unfold ReconnectBackoff.round
  split <;> simp

theorem finish_disconnected {ended : Ending} {now lasted : Instant} {clear : Bool}
    (h : ended.finish now = .disconnected lasted clear) :
    ∃ since last, ended = .authenticated since last ∧ lasted = now - since := by
  rcases ended with _ | _ | _ | ⟨since, last⟩
  case authenticated =>
    refine ⟨since, last, rfl, ?_⟩
    cases last <;> cases h <;> rfl
  all_goals cases h

theorem reset_mem_paceEvents {label : Label} (h : .reset ∈ s.paceEvents config label) :
    ∃ since ended, s.phase = .ending (.authenticated since ended) ∧
      s.backoff.maximum ≤ s.time - since := by
  unfold paceEvents at h
  split at h
  · exact absurd h reset_not_mem_round
  · split at h
    · rename_i ended hphase
      cases hover : ended.finish s.time with
      | closeRequested =>
        rw [hover] at h
        cases h
      | authenticationFailed =>
        rw [hover] at h
        exact absurd h reset_not_mem_round
      | terminated reason =>
        rw [hover, endEvents] at h
        split at h
        · exact absurd h reset_not_mem_round
        · cases h
      | disconnected lasted clear =>
        rw [hover, endEvents] at h
        split at h
        · exact absurd h reset_not_mem_round
        · obtain ⟨since, last, rfl, rfl⟩ := finish_disconnected hover
          exact ⟨since, last, hphase, Nat.le_of_not_lt ‹_›⟩
    · cases h
  · cases h

theorem paceEvents_exhausted {label : Label}
    (h : s.backoff.limitReached config.maxReconnectAttempts = true) :
    .reset ∈ s.paceEvents config label ∨
      ∀ event ∈ s.paceEvents config label, event.isReconnect = false := by
  have hround : ∀ event ∈ s.backoff.round config.maxReconnectAttempts,
      event.isReconnect = false := by
    rw [ReconnectBackoff.round, if_pos h]
    exact List.forall_mem_singleton.mpr rfl
  unfold paceEvents
  split
  · exact .inr hround
  · split
    · rename_i ended hphase
      cases ended.finish s.time with
      | closeRequested => exact .inr (List.forall_mem_nil _)
      | authenticationFailed => exact .inr hround
      | terminated reason =>
        simp only [endEvents]
        split
        · exact .inr hround
        · exact .inr (List.forall_mem_nil _)
      | disconnected lasted clear =>
        simp only [endEvents]
        split
        · exact .inr hround
        · exact .inl List.mem_cons_self
    · exact .inr (List.forall_mem_nil _)
  · exact .inr (List.forall_mem_nil _)

theorem reconnects_back_off {labels : List Label}
    (hdelay : config.reconnectDelay ≤ config.maxReconnectDelay)
    (hlimit : config.maxReconnectAttempts < 2 ^ 64) (h : after config labels = some s) :
    s.BacksOff config (paceHistory config labels) := by
  have hpaced : s.Paced config (paceHistory config labels) :=
    Runs.run_invariant_noted (fun _ _ _ _ hs ht ↦ paced_step hdelay hlimit hs ht)
      (paced_init hdelay) h
  have haged : s.Aged :=
    Runs.run_invariant (fun _ _ _ hs ht ↦ aged_step hs ht)
      (aged_of_over rfl) h
  have hbackoff := hpaced.reckoned.backoff
  have hresets {label : Label} (hreset : .reset ∈ s.paceEvents config label) :
      s.StableEnd config := by
    obtain ⟨since, ended, hphase, hlasted⟩ := reset_mem_paceEvents hreset
    obtain ⟨htime, hsince⟩ := haged since (congrArg Phase.authenticatedAt hphase)
    rw [hbackoff] at hlasted
    refine ⟨since, ended, hphase, ?_, hsince⟩
    rw [Nat.add_comm]
    exact Nat.add_le_of_le_sub htime hlasted
  refine ⟨hpaced.counted, hpaced.announced, ?_, ?_, fun _ _ _ hreset ↦ hresets hreset, ?_, ?_⟩
  · intro before baseDelay after hsplit
    exact (hpaced.reckoned.due before _ after hsplit).1
  · intro label t ht baseDelay hmem
    rcases step_rounds ht with hrounds | ⟨hlabel, -⟩
    · exact hrounds.waits baseDelay hmem
    · rw [paceEvents_of_not_over hlabel] at hmem
      cases hmem
  · intro hpos before baseDelay after hsplit
    exact (hpaced.reckoned.due before _ after hsplit).2 hpos
  · intro hpos hcount label t ht hover
    have hreached : s.backoff.limitReached config.maxReconnectAttempts = true := by
      rw [hbackoff, ReconnectBackoff.limitReached_reached hlimit]
      exact ⟨hpos, hcount.ge⟩
    have hcases : .reset ∈ s.paceEvents config label ∨
        ∀ event ∈ s.paceEvents config label, event.isReconnect = false :=
      paceEvents_exhausted hreached
    rcases hcases with hreset | hnone
    · exact .inr (hresets hreset)
    · rcases step_rounds ht with hrounds | ⟨hlabel, -⟩
      · exact .inl (hrounds.final hnone)
      · rw [hlabel] at hover
        cases hover

def limited : ManagedWsConfig := { sampleConfig with
  maxReconnectAttempts := 2 }

/-- Between two reconnects a session that the server ends after 4.5 seconds and that is wound up
0.6 seconds later; then a server that is gone. -/
def stableThenGone : List Label :=
  [.task (.connectFailed "refused" 17), .tick (millis 217), .task .windowElapsed,
    .task .connect, .task (.authenticate .authenticated), .task (.establish .ready),
    .tick (millis 4500), .branch (.read (.message (.error .serverShuttingDown))),
    .tick (millis 600), .task (.finish 101),
    .tick (millis 200), .task .windowElapsed, .task (.connectFailed "refused" 100),
    .tick (millis 500), .task .windowElapsed, .task (.connectFailed "refused" 0)]

theorem reconnects_back_off_stableThenGone :
    ∃ s, after limited stableThenGone = some s ∧ s.phase = .returning ∧
      paceHistory limited stableThenGone = [.reconnect (millis 250), .reset,
        .reconnect (millis 250), .reconnect (millis 500), .limitReached] ∧
      s.BacksOff limited (paceHistory limited stableThenGone) := by
  refine ⟨_, rfl, rfl, ?_, reconnects_back_off (by decide) (by decide) rfl⟩
  decide +kernel

end System

end MakerSdk.Session
