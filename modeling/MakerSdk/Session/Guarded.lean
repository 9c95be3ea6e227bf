import MakerSdk.Session.Life
import MakerSdk.Session.Reconciled

namespace MakerSdk.Session

open Base Paging

def Barrier.isDone (b : Barrier) : Bool :=
  match b.stage with
  | .done _ => true
  | _ => false

def Barrier.isPassed (b : Barrier) : Bool :=
  match b.stage with
  | .done (.ok _) => true
  | _ => false

/-- How the wait for the barrier ends; one that is not done has run out of time. -/
def Barrier.outcome (b : Barrier) : ReadyResult :=
  match b.stage with
  | .done (.ok _) => .ready
  | .done (.error failure) => .failed b.step.name failure
  | _ => .timedOut b.step.name

/-- A managed connection beside its readiness barrier. `barrier` is the barrier of the connection
at hand, under its epoch; `passed` are those that were passed. -/
structure Guarded where
  session : System
  barrier : Option (ℕ × Transcript)
  passed : List (ℕ × Transcript)

/-- A connection is authenticated and its barrier begins, the barrier reads from the socket or is
over; the rest does not concern it. -/
inductive GuardedOp where
  | authenticated (permissions : VaultDelegatePermissions) (ids : ℕ → Uuid) (write : Option String)
  | arrive (arrival : Arrival)
  | settle
  | other (label : Label)

def Label.isGuarded : Label → Bool
  | .task (.authenticate .authenticated) | .task (.establish .ready)
  | .task (.establish (.failed ..)) | .task (.establish (.timedOut _)) => true
  | _ => false

namespace Guarded

def init (config : ManagedWsConfig) : Guarded := ⟨.init config, none, []⟩

/-- A grant is part of the authentication on the vault endpoint, and of no other. -/
def establish (endpoint : MakerWsEndpoint) (session : System)
    (permissions : VaultDelegatePermissions) (ids : ℕ → Uuid) : Establish :=
  ⟨endpoint, session.subscriptions, if endpoint = .vault then some permissions else none, ids⟩

def step (config : ManagedWsConfig) (endpoint : MakerWsEndpoint) (g : Guarded) :
    GuardedOp → Option Guarded
  | .authenticated permissions ids write =>
    (g.session.step config (.task (.authenticate .authenticated))).map fun session ↦
      let env := establish endpoint session permissions ids
      { g with session, barrier := some (session.connectionEpoch, ⟨env, write, []⟩) }
  | .arrive arrival =>
    g.barrier.bind fun (epoch, transcript) ↦
      if transcript.barrier.isDone then none
      else some { g with barrier := some (epoch, transcript.hear arrival) }
  | .settle =>
    g.barrier.bind fun (epoch, transcript) ↦
      (g.session.step config (.task (.establish transcript.barrier.outcome))).map fun session ↦
        let passed := if transcript.barrier.isPassed then [(epoch, transcript)] else []
        { session, barrier := none, passed := g.passed ++ passed }
  | .other label =>
    if label.isGuarded then none
    else
      (g.session.step config label).map fun session ↦
        { g with
          session
          barrier := if session.phase.stage = .authenticated then g.barrier else none }

def after (config : ManagedWsConfig) (endpoint : MakerWsEndpoint) (ops : List GuardedOp) :
    Option Guarded :=
  Runs.run (step config endpoint) (init config) ops

end Guarded

def Event.readyEpoch : Event → Option ℕ
  | state (.ready epoch) => some epoch
  | _ => none

def readyEpochs (history : List Event) : List ℕ := history.filterMap Event.readyEpoch

namespace Life

variable {L L' : Life}

theorem readyEpochs_record {event : Event} (h : event.readyEpoch = none) :
    readyEpochs (L.record event).log = readyEpochs L.log := by
  rw [record, readyEpochs, List.filterMap_append, List.filterMap_cons_none h]
  exact List.append_nil _

theorem readyEpochs_publish {state : ManagedWsState} {event : ManagedWsEvent}
    (h : (Event.state state).readyEpoch = none) :
    readyEpochs (L.publish state event).log = readyEpochs L.log := by
  rw [publish, readyEpochs, List.filterMap_append, List.filterMap_cons_none h]
  exact List.append_nil _

theorem readyEpochs_disconnected : readyEpochs L.disconnected.log = readyEpochs L.log := by
  unfold disconnected
  split
  · exact readyEpochs_record rfl
  · rfl

theorem NextRound.readyEpochs (h : L.NextRound L') : readyEpochs L'.log = readyEpochs L.log := by
  cases h with
  | reconnect => exact readyEpochs_publish rfl
  | giveUp => exact (readyEpochs_publish rfl).trans (readyEpochs_record rfl)

theorem AfterSession.readyEpochs {ended : SessionEnd} (h : L.AfterSession ended L') :
    readyEpochs L'.log = readyEpochs L.log := by
  cases h with
  | closeRequested | terminated => exact readyEpochs_publish rfl
  | authenticationFailed h | strike _ h | disconnected h => exact h.readyEpochs

theorem Advance.readyEpochs (h : L.Advance L') : readyEpochs L'.log = readyEpochs L.log := by
  cases h with
  | close | connect | authenticate => exact readyEpochs_publish rfl
  | connectFailed _ h => exact h.readyEpochs
  | fail | drop | panic => rfl
  | reauthenticate | exit => exact readyEpochs_record rfl
  | finish _ _ h =>
    exact h.readyEpochs.trans (readyEpochs_disconnected.trans (readyEpochs_record rfl))
  | unwind => exact (readyEpochs_publish rfl).trans readyEpochs_disconnected

theorem readyEpochs_ready : readyEpochs L.ready.log = readyEpochs L.log ++ [L.epoch] := by
  rw [ready, publish, readyEpochs, List.filterMap_append, ← readyEpochs, readyEpochs_publish rfl]
  rfl

end Life

namespace System

variable {s t : System} {config : ManagedWsConfig} {label : Label} {authenticatedAt : Instant}

theorem readyEpochs_life : readyEpochs s.life.log = readyEpochs s.history := by
  apply filterMap_life
  intro event h
  cases event with
  | state state => exact absurd rfl h
  | _ => rfl

theorem readyEpochs_step (ht : s.step config label = some t)
    (hlabel : label ≠ .task (.establish .ready)) :
    readyEpochs t.history = readyEpochs s.history := by
  rcases step_advances ht with h | ⟨-, -, hready, -⟩
  · rw [Advances] at h
    rw [← readyEpochs_life, ← readyEpochs_life]
    generalize t.life = L at h
    induction h with
    | refl => rfl
    | tail _ hm ih => exact hm.readyEpochs.trans ih
  · exact absurd hready hlabel

theorem readyEpochs_becomeReady : readyEpochs (s.becomeReady config authenticatedAt).history =
    readyEpochs s.history ++ [s.connectionEpoch] := by
  rw [← readyEpochs_life, ← readyEpochs_life]
  rcases life_becomeReady (s := s) with hready | ⟨-, ended, -, hready⟩
  · rw [hready]
    exact Life.readyEpochs_ready
  · rw [hready]
    exact Life.readyEpochs_ready

theorem establishing_of_stage (h : s.phase.stage = .authenticated) :
    ∃ authenticatedAt, s.phase = .establishing authenticatedAt := by
  cases hphase : s.phase with
  | establishing authenticatedAt => exact ⟨authenticatedAt, rfl⟩
  | _ =>
    rw [hphase] at h
    cases h

theorem establish_stage {result : ReadyResult}
    (ht : s.establish config authenticatedAt result = some t) :
    t.phase.stage ≠ .authenticated := by
  rcases establish_cases ht with ⟨u, ended, rfl, -⟩ | ⟨u, rfl, -⟩
  · exact fun h ↦ by cases h
  · exact fun h ↦ by cases h

theorem life_establishing (h : s.phase.stage = .authenticated)
    (ht : s.step config label = some t) (hstays : t.phase.stage = .authenticated) :
    t.life = s.life := by
  obtain ⟨authenticatedAt, hphase⟩ := establishing_of_stage h
  cases label with
  | handle op => exact life_handleStep ht
  | task op =>
    cases op with
    | establish result =>
      simp only [step, taskStep, hphase] at ht
      exact absurd hstays (establish_stage ht)
    | panic =>
      simp only [step, taskStep, hphase] at ht
      cases ht
      cases hstays
    | _ =>
      simp only [step, taskStep, hphase] at ht
      cases ht
  | branch branch =>
    simp only [step, hphase] at ht
    cases ht
  | writer op =>
    simp only [step, hphase] at ht
    cases ht
  | detached index op => exact life_detachedStep ht
  | tick elapsed =>
    cases ht
    rfl

theorem authenticated_stage (ht : s.step config (.task (.authenticate .authenticated)) = some t) :
    t.phase.stage = .authenticated := by
  cases hphase : s.phase with
  | authenticating =>
    simp only [step, taskStep, hphase, authenticate] at ht
    cases ht
    rfl
  | _ =>
    simp only [step, taskStep, hphase] at ht
    cases ht

theorem readyEpochs_establish (h : s.phase.stage = .authenticated)
    (ht : s.step config (.task (.establish .ready)) = some t) :
    readyEpochs t.history = readyEpochs s.history ++ [s.connectionEpoch] := by
  obtain ⟨authenticatedAt, hphase⟩ := establishing_of_stage h
  simp only [step, taskStep, hphase] at ht
  cases ht
  exact readyEpochs_becomeReady

end System

theorem Barrier.passed_cases (b : Barrier) :
    b.isPassed = true ∧ b.stage = .done (.ok ()) ∧ b.outcome = .ready ∨
      b.isPassed = false ∧ b.outcome ≠ .ready := by
  unfold Barrier.isPassed Barrier.outcome
  cases b.stage with
  | done result =>
    cases result with
    | ok => exact .inl ⟨rfl, rfl, rfl⟩
    | error => exact .inr ⟨rfl, (fun h ↦ by cases h)⟩
  | _ => exact .inr ⟨rfl, (fun h ↦ by cases h)⟩

def Establish.At (endpoint : MakerWsEndpoint) (env : Establish) : Prop :=
  env.endpoint = endpoint ∧ (env.vault.isSome = true → endpoint = .vault)

namespace Guarded

structure Sound (endpoint : MakerWsEndpoint) (g : Guarded) : Prop where
  barrier : ∀ entry, g.barrier = some entry → g.session.phase.stage = .authenticated ∧
    g.session.connectionEpoch = entry.1 ∧ entry.2.env.At endpoint
  ready : readyEpochs g.session.history = g.passed.map Prod.fst
  passed : ∀ entry ∈ g.passed, entry.2.env.At endpoint ∧ entry.2.barrier.stage = .done (.ok ())

variable {config : ManagedWsConfig} {endpoint : MakerWsEndpoint} {g g' : Guarded} {op : GuardedOp}

theorem step_session (ht : g.step config endpoint op = some g') :
    g'.session = g.session ∨ ∃ label, g.session.step config label = some g'.session ∧
      ∀ random, label = .task (.finish random) → op = .other label := by
  cases op with
  | authenticated permissions ids write =>
    obtain ⟨session, hs, rfl⟩ := Option.map_eq_some_iff.mp ht
    exact .inr ⟨_, hs, fun _ hlabel ↦ by cases hlabel⟩
  | arrive arrival =>
    obtain ⟨entry, -, ht⟩ := Option.bind_eq_some_iff.mp ht
    dsimp only at ht
    split at ht <;> cases ht
    exact .inl rfl
  | settle =>
    obtain ⟨entry, -, ht⟩ := Option.bind_eq_some_iff.mp ht
    obtain ⟨session, hs, rfl⟩ := Option.map_eq_some_iff.mp ht
    exact .inr ⟨_, hs, fun _ hlabel ↦ by cases hlabel⟩
  | other label =>
    simp only [Guarded.step] at ht
    split at ht
    · cases ht
    · obtain ⟨session, hs, rfl⟩ := Option.map_eq_some_iff.mp ht
      exact .inr ⟨label, hs, fun _ _ ↦ rfl⟩

/-- A connection beside its barrier is a managed connection: the barrier allows it no more. -/
theorem after_session {ops : List GuardedOp} (h : after config endpoint ops = some g) :
    ∃ labels, System.after config labels = some g.session := by
  refine Runs.run_invariant
    (I := fun g : Guarded ↦ ∃ labels, System.after config labels = some g.session) ?_ ⟨[], rfl⟩ h
  rintro g op g' ⟨labels, hlabels⟩ ht
  rcases step_session ht with hsame | ⟨label, hs, -⟩
  · exact ⟨labels, hsame ▸ hlabels⟩
  · exact ⟨labels ++ [label], Runs.run_concat hlabels hs⟩

theorem sound_init : (init config).Sound endpoint :=
  ⟨(fun _ h ↦ by cases h), rfl, (fun _ h ↦ by cases h)⟩

theorem Sound.settle {session : System} {entry : ℕ × Transcript} (h : g.Sound endpoint)
    (hentry : g.barrier = some entry)
    (ht : g.session.step config (.task (.establish entry.2.barrier.outcome)) = some session) :
    Sound endpoint ⟨session, none,
      g.passed ++ if entry.2.barrier.isPassed then [entry] else []⟩ := by
  obtain ⟨hstage, hepoch, hat⟩ := h.barrier entry hentry
  rcases entry.2.barrier.passed_cases with ⟨hpassed, hdone, houtcome⟩ | ⟨hpassed, houtcome⟩
  · rw [houtcome] at ht
    rw [if_pos hpassed]
    refine ⟨(fun _ h ↦ by cases h), ?_, List.forall_mem_append.mpr ⟨h.passed, ?_⟩⟩
    · rw [System.readyEpochs_establish hstage ht, h.ready, hepoch, List.map_append]
      rfl
    · exact List.forall_mem_singleton.mpr ⟨hat, hdone⟩
  · have hsame := System.readyEpochs_step ht (by simpa using houtcome)
    rw [hpassed, if_neg Bool.false_ne_true, List.append_nil]
    exact ⟨(fun _ h ↦ by cases h), hsame.trans h.ready, h.passed⟩

theorem Sound.step (h : g.Sound endpoint) (ht : g.step config endpoint op = some g') :
    g'.Sound endpoint := by
  cases op with
  | authenticated permissions ids write =>
    obtain ⟨session, hs, rfl⟩ := Option.map_eq_some_iff.mp ht
    refine ⟨fun entry hentry ↦ ?_,
      (System.readyEpochs_step hs (fun h ↦ by cases h)).trans h.ready, h.passed⟩
    cases hentry
    refine ⟨System.authenticated_stage hs, rfl, rfl, fun hsome ↦ ?_⟩
    by_contra hother
    simp [establish, hother] at hsome
  | arrive arrival =>
    obtain ⟨entry, hentry, ht⟩ := Option.bind_eq_some_iff.mp ht
    dsimp only at ht
    split at ht <;> cases ht
    refine ⟨fun entry' hentry' ↦ ?_, h.ready, h.passed⟩
    cases hentry'
    exact h.barrier entry hentry
  | settle =>
    obtain ⟨entry, hentry, ht⟩ := Option.bind_eq_some_iff.mp ht
    obtain ⟨session, hs, rfl⟩ := Option.map_eq_some_iff.mp ht
    exact h.settle hentry hs
  | other label =>
    simp only [Guarded.step] at ht
    split at ht
    · cases ht
    · rename_i hlabel
      obtain ⟨session, hs, rfl⟩ := Option.map_eq_some_iff.mp ht
      have hready : label ≠ .task (.establish .ready) := fun heq ↦ hlabel (heq ▸ rfl)
      refine ⟨fun entry hentry ↦ ?_, (System.readyEpochs_step hs hready).trans h.ready, h.passed⟩
      dsimp only at hentry
      split at hentry
      · rename_i hstays
        -- The session still establishes: nothing has moved it, so its epoch is the same.
        obtain ⟨hstage, hepoch, hat⟩ := h.barrier entry hentry
        have hlife := System.life_establishing hstage hs hstays
        exact ⟨hstays, (congrArg Life.epoch hlife).trans hepoch, hat⟩
      · cases hentry

theorem sound_after {ops : List GuardedOp} (h : after config endpoint ops = some g) :
    g.Sound endpoint :=
  Runs.run_invariant (I := Sound endpoint) (fun _ _ _ ↦ Sound.step) sound_init h

end Guarded

section Theorem

variable {config : ManagedWsConfig} {endpoint : MakerWsEndpoint} {ops : List GuardedOp}
  {g : Guarded}

/-- A connection that is ready is reconciled: over every run each `Ready` is the end of a barrier on
the connection of its epoch, where everything was read back to its end. -/
theorem ready_reconciled (h : Guarded.after config endpoint ops = some g) :
    readyEpochs g.session.history = g.passed.map Prod.fst ∧
      ∀ entry ∈ g.passed, entry.2.env.endpoint = endpoint ∧ entry.2.Reconciled := by
  have hs := Guarded.sound_after h
  refine ⟨hs.ready, fun entry hm ↦ ?_⟩
  obtain ⟨hat, hdone⟩ := hs.passed entry hm
  exact ⟨hat.1, Transcript.reconciled hdone⟩

end Theorem

def numberedId (n : ℕ) : Uuid := BitVec.ofNat 128 n

def answerTo (variant : ReadVariant) (n : ℕ) (nextCursor : Option String) : GuardedOp :=
  .arrive (.message (.page variant (numberedId n) nextCursor) none)

/-- A data session whose summary does not hold every row, and whose tokens fill two pages. -/
def summaryRun : List GuardedOp :=
  [.other (.task .connect), .authenticated 0 numberedId none, answerTo .mmSummary 1 (some "row"),
    answerTo .tokens 6 (some "token"), answerTo .myQuotes 3 none, answerTo .makerPositions 2 none,
    .arrive (.message .push none), answerTo .myCaps 4 none, answerTo .tokens 7 none,
    answerTo .marketsForMaker 5 none, .settle]

theorem ready_reconciled_summary :
    ∃ g entry, Guarded.after sampleConfig .data summaryRun = some g ∧
      readyEpochs g.session.history = [1] ∧ entry ∈ g.passed ∧
      entry.2.barrier.told .mmSummary = [some "row"] ∧
      entry.2.barrier.asked .tokens = [.start, .after "token"] ∧ entry.2.Reconciled := by
  have hrun : (Guarded.after sampleConfig .data summaryRun).any (fun g ↦
      readyEpochs g.session.history = [1] ∧ ∃ entry ∈ g.passed,
        entry.2.barrier.told .mmSummary = [some "row"] ∧
        entry.2.barrier.asked .tokens = [.start, .after "token"]) = true := by
    decide +kernel
  obtain ⟨g, hg, hend⟩ := (Option.any_eq_true _ _).mp hrun
  obtain ⟨hready, entry, hm, htold, hasked⟩ := of_decide_eq_true hend
  exact ⟨g, entry, hg, hready, hm, htold, hasked, ((ready_reconciled hg).2 entry hm).2⟩

structure Transcript.QuotesRecovered (transcript : Transcript) : Prop where
  quotes : ReadToEnd (transcript.barrier.asked .myQuotes) (transcript.barrier.told .myQuotes)
  live : ∀ request ∈ transcript.barrier.issued, request.variant = .myQuotes →
    request.query = .myQuotes .live
  rfqs : ReadToEnd (transcript.barrier.asked .activeRfqs) (transcript.barrier.told .activeRfqs)
  heard : Heard transcript.heard transcript.barrier.answered transcript.barrier.snapshotTold

theorem Transcript.Reconciled.quotesRecovered {transcript : Transcript} (h : transcript.Reconciled)
    (hquotes : ∀ variant ∈ [.activeRfqs, .myQuotes], variant ∈ transcript.env.readVariants) :
    transcript.QuotesRecovered := by
  have hread : ∀ variant ∈ [.activeRfqs, .myQuotes], variant ≠ .mmSummary →
      ReadToEnd (transcript.barrier.asked variant) (transcript.barrier.told variant) :=
    fun variant hv hlist ↦ h.lists variant hlist (h.started variant (hquotes variant hv))
  refine ⟨hread _ (by simp) (fun h ↦ by cases h), fun request hm hv ↦ ?_,
    hread _ (by simp) (fun h ↦ by cases h), h.heard⟩
  rw [h.live request hm, hv]
  rfl

theorem quotes_readVariants {env : Establish} {permissions : VaultDelegatePermissions}
    (hendpoint : env.endpoint = .vault) (hgrant : env.vault = some permissions)
    (hmaker : permissions.canMaker = true) :
    ∀ variant ∈ [.activeRfqs, .myQuotes], variant ∈ env.readVariants := by
  have hany : env.vault.any VaultDelegatePermissions.canMaker = true := by
    rw [hgrant]
    exact hmaker
  rw [Establish.readVariants, hendpoint]
  simp [hany]

section Theorem

variable {config : ManagedWsConfig} {endpoint : MakerWsEndpoint} {ops : List GuardedOp}
  {g : Guarded}

/-- A session whose grant signs holder quotes recovers its live quotes and the active RFQs before it
is ready, on the connection of the same epoch. -/
theorem quotes_recovered (h : Guarded.after config endpoint ops = some g) :
    readyEpochs g.session.history = g.passed.map Prod.fst ∧
      ∀ entry ∈ g.passed, ∀ permissions, entry.2.env.vault = some permissions →
        permissions.canMaker = true → entry.2.QuotesRecovered := by
  have hs := Guarded.sound_after h
  refine ⟨hs.ready, fun entry hm permissions hgrant hmaker ↦ ?_⟩
  obtain ⟨⟨hendpoint, hvault⟩, hdone⟩ := hs.passed entry hm
  have hsome : entry.2.env.vault.isSome = true := hgrant ▸ rfl
  exact (Transcript.reconciled hdone).quotesRecovered
    (quotes_readVariants (hendpoint.trans (hvault hsome)) hgrant hmaker)

end Theorem

/-- A vault's operator, who follows the vault feed. -/
def operatorConfig : ManagedWsConfig := { sampleConfig with
  initialSubscribe := some ⟨31, 0, [.vaults], [], []⟩ }

/-- The vault feed is subscribed to, and the reads of every vault operator are answered. -/
def vaultReads (permissions : VaultDelegatePermissions) : List GuardedOp :=
  [.other (.task .connect), .authenticated permissions numberedId none,
    .arrive (.message (.subscribeAck (numberedId 2)) none), answerTo .myActiveRfqs 3 none,
    answerTo .positions 4 none]

theorem quotes_recovered_holder :
    ∃ g entry, Guarded.after operatorConfig .vault
        (vaultReads VaultDelegatePermissions.signHolderQuotes ++
          [answerTo .mmSummary 5 none, answerTo .activeRfqs 6 none, answerTo .myQuotes 7 none,
            .settle]) = some g ∧
      readyEpochs g.session.history = [1] ∧ entry ∈ g.passed ∧ entry.2.QuotesRecovered := by
  have hrun : (Guarded.after operatorConfig .vault
      (vaultReads VaultDelegatePermissions.signHolderQuotes ++
        [answerTo .mmSummary 5 none, answerTo .activeRfqs 6 none, answerTo .myQuotes 7 none,
          .settle])).any (fun g ↦ readyEpochs g.session.history = [1] ∧ ∃ entry ∈ g.passed,
        entry.2.env.vault = some VaultDelegatePermissions.signHolderQuotes) = true := by
    decide +kernel
  obtain ⟨g, hg, hend⟩ := (Option.any_eq_true _ _).mp hrun
  obtain ⟨hready, entry, hm, hgrant⟩ := of_decide_eq_true hend
  exact ⟨g, entry, hg, hready, hm, (quotes_recovered hg).2 entry hm _ hgrant (by decide)⟩

/-- A grant to write what wallets buy lets its operator quote. A session under it alone is ready
without having asked for its quotes or for the active RFQs. -/
theorem ready_without_quotes :
    ∃ g entry, Guarded.after operatorConfig .vault
        (vaultReads VaultDelegatePermissions.signWriterQuotes ++ [.settle]) = some g ∧
      readyEpochs g.session.history = [1] ∧ g.passed = [entry] ∧
      entry.2.env.vault = some VaultDelegatePermissions.signWriterQuotes ∧
      VaultDelegatePermissions.canWriteBuys VaultDelegatePermissions.signWriterQuotes = true ∧
      entry.2.barrier.asked .myQuotes = [] ∧ entry.2.barrier.asked .activeRfqs = [] ∧
      ¬entry.2.QuotesRecovered := by
  have hrun : (Guarded.after operatorConfig .vault
      (vaultReads VaultDelegatePermissions.signWriterQuotes ++ [.settle])).any (fun g ↦
        readyEpochs g.session.history = [1] ∧ g.passed.length = 1 ∧ ∀ entry ∈ g.passed,
          entry.2.env.vault = some VaultDelegatePermissions.signWriterQuotes ∧
          entry.2.barrier.asked .myQuotes = [] ∧
          entry.2.barrier.asked .activeRfqs = []) = true := by
    decide +kernel
  obtain ⟨g, hg, hend⟩ := (Option.any_eq_true _ _).mp hrun
  obtain ⟨hready, hlength, hentries⟩ := of_decide_eq_true hend
  obtain ⟨entry, hentry⟩ := List.length_eq_one_iff.mp hlength
  obtain ⟨hgrant, hquotes, hrfqs⟩ := hentries entry (hentry ▸ List.mem_singleton_self entry)
  refine ⟨g, entry, hg, hready, hentry, hgrant, by decide, hquotes, hrfqs, fun h ↦ ?_⟩
  obtain ⟨_, _, -, hfollowed⟩ := h.quotes
  rw [hquotes] at hfollowed
  cases hfollowed.asked

end MakerSdk.Session
