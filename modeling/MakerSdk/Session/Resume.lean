import MakerSdk.Session.Exchange

namespace MakerSdk.Session

open Base.Runs

inductive AuthFrame where
  | read (message : ServerMessage)
  | wrote (message : ClientMessage)

structure Resumed where
  guarded : Guarded
  stage : Option AuthStage
  resumeSessionId : Option String
  history : List AuthFrame

/-- The `Hello` is written, `authenticate` reads from the socket or returns; the rest does not
concern it. -/
inductive ResumedOp where
  | hello (write : Except String Unit)
  | arrive (arrival : AuthArrival) (reply : AuthReply)
  | settle (permissions : VaultDelegatePermissions) (ids : ℕ → Uuid) (write : Option String)
  | other (op : GuardedOp)

namespace GuardedOp

def frame : GuardedOp → Option ServerMessage
  | .arrive (.message message _) | .other (.branch (.read (.message message))) => some message
  | _ => none

def isConclusion : GuardedOp → Bool
  | .authenticated .. | .other (.task (.authenticate (.failed _)))
  | .other (.task (.authenticate (.terminated ..))) => true
  | _ => false

def isInterruption : GuardedOp → Bool
  | .other (.task (.authenticate .timedOut)) | .other (.task (.authenticate .shutdown)) => true
  | _ => false

end GuardedOp

def SessionEnd.clearResume : SessionEnd → Bool
  | disconnected _ clearResume => clearResume
  | _ => false

/-- `run_managed_ws` forgets the session id at the end of a session that says so. -/
def Guarded.clearsResume (g : Guarded) (op : GuardedOp) : Bool :=
  match g.session.phase, op with
  | .ending ended, .other (.task (.finish _)) => (ended.finish g.session.time).clearResume
  | _, _ => false

namespace Resumed

variable (config : ManagedWsConfig) (endpoint : MakerWsEndpoint) (flow : AuthFlow)
  (debug : ManagedWsTerminationReason → String)

def init : Resumed := ⟨.init config, none, none, []⟩

def nextStage (stage : Option AuthStage) (session : System) : Option AuthStage :=
  match session.phase with
  | .authenticating => some (stage.getD .hello)
  | _ => none

def conclusion (permissions : VaultDelegatePermissions) (ids : ℕ → Uuid)
    (write : Option String) : Except AuthenticationError Unit → GuardedOp
  | .ok () => .authenticated permissions ids write
  | .error error => .other (.task (.authenticate (error.result debug)))

def step (r : Resumed) : ResumedOp → Option Resumed
  | .hello write =>
    match r.stage with
    | some .hello =>
      let stage : AuthStage :=
        match write with
        | .ok () => .welcome
        | .error error => .done (.error (.transport error))
      some { r with stage := some stage, history := r.history ++ [.wrote .hello] }
    | _ => none
  | .arrive arrival reply =>
    r.stage.bind fun stage ↦
      (stage.read flow reply r.resumeSessionId arrival).map fun turn ↦
        { r with
          stage := some turn.stage
          resumeSessionId := turn.resumeSessionId
          history := r.history ++
            (arrival.frame.toList.map .read ++ turn.wrote.map .wrote) }
  | .settle permissions ids write =>
    match r.stage with
    | some (.done result) =>
      (r.guarded.step config endpoint (conclusion debug permissions ids write result)).map
        fun guarded ↦ { r with guarded, stage := none }
    | _ => none
  | .other op =>
    if op.isConclusion ∨ (op.isInterruption ∧ r.stage.any AuthStage.isDone) then none
    else
      (r.guarded.step config endpoint op).map fun guarded ↦
        { guarded
          stage := nextStage r.stage guarded.session
          resumeSessionId := if r.guarded.clearsResume op then none else r.resumeSessionId
          history := r.history ++ op.frame.toList.map .read }

def after (ops : List ResumedOp) : Option Resumed :=
  run (step config endpoint flow debug) (init config) ops

def isCurrent (r : Resumed) (message : ServerMessage) : Bool :=
  message.sessionId.all fun sessionId ↦ r.resumeSessionId.all fun stored ↦ stored = sessionId

/-- An `AuthSuccess` that nothing waits for brings no new id. -/
def isUndisturbed (r : Resumed) : ResumedOp → Bool
  | .arrive arrival _ => r.stage.any AuthStage.isAwaiting || arrival.frame.all r.isCurrent
  | .other op => op.frame.all r.isCurrent
  | .hello _ | .settle .. => true

end Resumed

def AuthFrame.isCredential : AuthFrame → Bool
  | .read message => message.isSessionExpired || message.sessionId.isSome
  | .wrote _ => false

/-- The last `AuthSuccess` carried the session id, and no session has expired since. -/
def Newest (history : List AuthFrame) (sessionId : String) : Prop :=
  ∃ before since, history = before ++ .read (.authSuccess sessionId) :: since ∧
    ∀ frame ∈ since, frame.isCredential = false

section Newest

variable {history frames : List AuthFrame} {sessionId other : String}

theorem newest_authSuccess : Newest (history ++ [.read (.authSuccess sessionId)]) sessionId :=
  ⟨history, [], rfl, fun _ hmem ↦ by cases hmem⟩

theorem Newest.append (h : Newest history sessionId)
    (hframes : ∀ frame ∈ frames, frame.isCredential = false) :
    Newest (history ++ frames) sessionId := by
  obtain ⟨before, since, rfl, hsince⟩ := h
  refine ⟨before, since ++ frames, by simp, fun frame hmem ↦ ?_⟩
  rcases List.mem_append.mp hmem with hmem | hmem
  · exact hsince frame hmem
  · exact hframes frame hmem

theorem Newest.unique (h : Newest history sessionId) (hother : Newest history other) :
    sessionId = other := by
  obtain ⟨before, since, rfl, hsince⟩ := h
  obtain ⟨before', since', hsplit, hsince'⟩ := hother
  rcases split_cases hsplit with ⟨-, hsame, -⟩ | ⟨between, -, rfl⟩ | ⟨between, -, rfl⟩
  · cases hsame
    rfl
  · cases hsince (.read (.authSuccess other)) (by simp)
  · cases hsince' (.read (.authSuccess sessionId)) (by simp)

end Newest

def Life.IsOver (L : Life) : Prop :=
  L.stage = .finished ∨ L.stage = .unwinding ∨
    (L.stage = .ending ∧ L.ended = some .closeRequested)

theorem Life.IsOver.advance {L L' : Life} (h : L.IsOver) (ha : L.Advance L') : L'.IsOver := by
  cases ha with
  | close hstage | connect hstage | connectFailed hstage _ | fail hstage | authenticate hstage
  | drop hstage _ | reauthenticate hstage | exit hstage _ =>
    rcases h with h | h | ⟨h, -⟩ <;> cases hstage.symm.trans h
  | finish hstage hended hafter =>
    rcases h with h | h | ⟨-, h⟩
    · cases hstage.symm.trans h
    · cases hstage.symm.trans h
    · cases hended.symm.trans h
      cases hafter
      exact .inl rfl
  | panic => exact .inr (.inl rfl)
  | unwind => exact .inl rfl

namespace System

variable {config : ManagedWsConfig} {s t : System} {label : Label} {ended : Ending}
  {authenticatedAt : Instant}

theorem isOver_step (h : s.life.IsOver) (ht : s.step config label = some t) : t.life.IsOver := by
  rcases step_advances ht with hmoves | ⟨_, hphase, -, -⟩
  · rw [Advances] at hmoves
    generalize t.life = L at hmoves
    induction hmoves with
    | refl => exact h
    | tail _ hm ih => exact ih.advance hm
  · have hstage : s.life.stage = .authenticated := congrArg Phase.stage hphase
    rcases h with h | h | ⟨h, -⟩ <;> cases hstage.symm.trans h

theorem ending_of_life (hlife : t.life = s.life) (h : s.phase = .ending ended) :
    t.phase = .ending ended := by
  have hended : t.phase.sessionEnd = some ended :=
    (congrArg Life.ended hlife).trans (congrArg Phase.sessionEnd h)
  cases hphase : t.phase with
  | ending ended' =>
    rw [hphase] at hended
    cases hended
    rfl
  | _ =>
    rw [hphase] at hended
    cases hended

theorem ending_step (h : s.phase = .ending ended) (ht : s.step config label = some t) :
    t.phase = .ending ended ∨ (∃ random, label = .task (.finish random)) ∨ t.life.IsOver := by
  cases label with
  | handle op => exact .inl (ending_of_life (life_handleStep ht) h)
  | task op =>
    cases op with
    | finish random => exact .inr (.inl ⟨random, rfl⟩)
    | panic =>
      simp only [step, taskStep, h] at ht
      cases ht
      exact .inr (.inr (.inr (.inl rfl)))
    | _ =>
      simp only [step, taskStep, h] at ht
      cases ht
  | branch branch =>
    simp only [step, h] at ht
    cases ht
  | writer op =>
    simp only [step, h] at ht
    cases ht
  | detached index op => exact .inl (ending_of_life (life_detachedStep ht) h)
  | tick elapsed =>
    cases ht
    exact .inl h

theorem establishing_step (h : s.phase = .establishing authenticatedAt)
    (hlabel : label.isGuarded = false) (ht : s.step config label = some t) :
    t.phase.stage = .authenticated ∨ t.life.IsOver := by
  have hstage : s.phase.stage = .authenticated := congrArg Phase.stage h
  cases label with
  | handle op => exact .inl ((congrArg Life.stage (life_handleStep ht)).trans hstage)
  | task op =>
    cases op with
    | establish result =>
      cases result with
      | shutdown =>
        simp only [step, taskStep, h, establish] at ht
        split at ht <;> cases ht
        exact .inr (.inr (.inr ⟨rfl, rfl⟩))
      | _ => cases hlabel
    | panic =>
      simp only [step, taskStep, h] at ht
      cases ht
      exact .inr (.inr (.inl rfl))
    | _ =>
      simp only [step, taskStep, h] at ht
      cases ht
  | branch branch =>
    simp only [step, h] at ht
    cases ht
  | writer op =>
    simp only [step, h] at ht
    cases ht
  | detached index op => exact .inl ((congrArg Life.stage (life_detachedStep ht)).trans hstage)
  | tick elapsed =>
    cases ht
    exact .inl hstage

theorem fromControl_expired {message : ServerMessage} (h : message.isSessionExpired = true) :
    ∃ detail, SessionFailure.fromControl message = some (.credentialsExpired detail) := by
  obtain ⟨detail, hclassify⟩ := classify_expired h
  exact ⟨detail, by rw [SessionFailure.fromControl, hclassify]; rfl⟩

theorem readMessage_expired {loop : Loop} {message : ServerMessage}
    (h : message.isSessionExpired = true) : ∃ authenticatedAt,
      (s.readMessage loop message).phase =
        .ending (.authenticated authenticatedAt .credentialsExpired) := by
  obtain ⟨detail, hfailure⟩ := fromControl_expired h
  unfold readMessage handleSessionMessage
  dsimp only
  cases message with
  | authError reason text =>
    dsimp only
    rw [hfailure]
    exact ⟨_, rfl⟩
  | error error =>
    dsimp only
    rw [hfailure]
    exact ⟨_, rfl⟩
  | _ => cases h

theorem read_expired {message : ServerMessage} (h : message.isSessionExpired = true)
    (ht : s.step config (.branch (.read (.message message))) = some t) : ∃ authenticatedAt,
      t.phase = .ending (.authenticated authenticatedAt .credentialsExpired) := by
  simp only [step] at ht
  split at ht
  · unfold loopStep at ht
    split at ht
    · cases ht
    · cases ht
      exact readMessage_expired h
  · cases ht

end System

def Barrier.isExpired (b : Barrier) : Bool :=
  match b.stage with
  | .done (.error (.credentialsExpired _)) => true
  | _ => false

theorem Barrier.read_expired {env : Establish} {b : Barrier} {message : ServerMessage}
    {write : Option String} (hdone : b.isDone = false) (h : message.isSessionExpired = true) :
    (b.read env (.message message write)).isExpired = true := by
  obtain ⟨detail, hfailure⟩ := System.fromControl_expired h
  unfold Barrier.read
  split
  · rename_i hstage
    rw [Barrier.isDone, hstage] at hdone
    cases hdone
  · dsimp only
    rw [hfailure]
    rfl

namespace Guarded

def isExpiring (g : Guarded) : Bool :=
  match g.session.phase with
  | .ending (.authenticated _ .credentialsExpired) => true
  | .establishing _ => g.barrier.any fun entry ↦ entry.2.barrier.isExpired
  | _ => false

variable {config : ManagedWsConfig} {endpoint : MakerWsEndpoint} {g g' : Guarded} {op : GuardedOp}

theorem isOver_step (h : g.session.life.IsOver) (ht : g.step config endpoint op = some g') :
    g'.session.life.IsOver := by
  rcases step_session ht with hsame | ⟨label, hs, -⟩
  · rw [hsame]
    exact h
  · exact System.isOver_step h hs

theorem isExpiring_ending {authenticatedAt : Instant}
    (h : g.session.phase = .ending (.authenticated authenticatedAt .credentialsExpired)) :
    g.isExpiring = true := by
  rw [isExpiring, h]

theorem isExpiring_establishing {entry : ℕ × Transcript}
    (hstage : g.session.phase.stage = .authenticated) (hbarrier : g.barrier = some entry)
    (h : entry.2.barrier.isExpired = true) : g.isExpiring = true := by
  obtain ⟨authenticatedAt, hphase⟩ := System.establishing_of_stage hstage
  rw [isExpiring, hphase, hbarrier]
  exact h

theorem ending_step {authenticatedAt : Instant}
    (h : g.session.phase = .ending (.authenticated authenticatedAt .credentialsExpired))
    (ht : g.step config endpoint op = some g') :
    g'.isExpiring = true ∨ g'.session.life.IsOver ∨ g.clearsResume op = true := by
  rcases step_session ht with hsame | ⟨label, hs, hlabel⟩
  · exact .inl (isExpiring_ending (hsame ▸ h))
  · rcases System.ending_step h hs with hstays | ⟨random, rfl⟩ | hover
    · exact .inl (isExpiring_ending hstays)
    · rw [hlabel random rfl]
      exact .inr (.inr (by simp only [clearsResume, h]; rfl))
    · exact .inr (.inl hover)

theorem establishing_step {authenticatedAt : Instant} {entry : ℕ × Transcript}
    (h : g.session.phase = .establishing authenticatedAt) (hbarrier : g.barrier = some entry)
    (hexpired : entry.2.barrier.isExpired = true) (ht : g.step config endpoint op = some g') :
    g'.isExpiring = true ∨ g'.session.life.IsOver := by
  have hstage : ∃ detail, entry.2.barrier.stage = .done (.error (.credentialsExpired detail)) := by
    unfold Barrier.isExpired at hexpired
    split at hexpired
    · exact ⟨_, ‹_›⟩
    · cases hexpired
  obtain ⟨detail, hdone⟩ := hstage
  cases op with
  | authenticated permissions ids write =>
    obtain ⟨session, hs, rfl⟩ := Option.map_eq_some_iff.mp ht
    simp only [System.step, System.taskStep, h] at hs
    cases hs
  | arrive arrival =>
    simp only [Guarded.step, hbarrier, Option.bind_some, Barrier.isDone, hdone] at ht
    cases ht
  | settle =>
    simp only [Guarded.step, hbarrier, Option.bind_some] at ht
    obtain ⟨session, hs, rfl⟩ := Option.map_eq_some_iff.mp ht
    simp only [Barrier.outcome, hdone, System.step, System.taskStep, h, System.establish] at hs
    cases hs
    exact .inl rfl
  | other label =>
    simp only [Guarded.step] at ht
    split at ht
    · cases ht
    · rename_i hlabel
      obtain ⟨session, hs, rfl⟩ := Option.map_eq_some_iff.mp ht
      rcases System.establishing_step h (Bool.eq_false_iff.mpr hlabel) hs with hstays | hover
      · apply Or.inl
        exact isExpiring_establishing hstays (by rw [if_pos hstays, hbarrier]) hexpired
      · exact .inr hover

theorem isExpiring_step (h : g.isExpiring = true) (ht : g.step config endpoint op = some g') :
    g'.isExpiring = true ∨ g'.session.life.IsOver ∨ g.clearsResume op = true := by
  unfold isExpiring at h
  split at h
  · exact ending_step ‹_› ht
  · rename_i hphase
    obtain ⟨entry, hbarrier, hexpired⟩ := (Option.any_eq_true _ _).mp h
    rcases establishing_step hphase hbarrier hexpired ht with hexpiring | hover
    · exact .inl hexpiring
    · exact .inr (.inl hover)
  · cases h

theorem frame_isExpiring (hsound : g.Sound endpoint) {message : ServerMessage}
    (hframe : op.frame = some message) (hexpired : message.isSessionExpired = true)
    (ht : g.step config endpoint op = some g') : g'.isExpiring = true := by
  unfold GuardedOp.frame at hframe
  split at hframe
  · cases hframe
    obtain ⟨⟨epoch, transcript⟩, hentry, ht⟩ := Option.bind_eq_some_iff.mp ht
    dsimp only at ht
    split at ht
    · cases ht
    · rename_i hdone
      cases ht
      obtain ⟨hstage, -, -⟩ := hsound.barrier _ hentry
      refine isExpiring_establishing hstage rfl ?_
      rw [Transcript.barrier, Transcript.hear, List.foldl_append]
      exact Barrier.read_expired (Bool.eq_false_iff.mpr hdone) hexpired
  · cases hframe
    simp only [Guarded.step] at ht
    split at ht
    · cases ht
    · obtain ⟨session, hs, rfl⟩ := Option.map_eq_some_iff.mp ht
      obtain ⟨authenticatedAt, hphase⟩ := System.read_expired hexpired hs
      exact isExpiring_ending hphase
  · cases hframe

end Guarded

namespace Resumed

variable {config : ManagedWsConfig} {endpoint : MakerWsEndpoint} {flow : AuthFlow}
  {debug : ManagedWsTerminationReason → String} {r r' : Resumed} {op : ResumedOp}

structure Sound (endpoint : MakerWsEndpoint) (r : Resumed) : Prop where
  guarded : r.guarded.Sound endpoint
  stage : r.stage.isSome = true → r.guarded.session.phase = .authenticating
  stored : r.guarded.session.life.IsOver ∨ r.guarded.isExpiring = true ∨
    ∀ sessionId, r.resumeSessionId = some sessionId → Newest r.history sessionId
  resumed : Justified (fun before frame ↦ ∀ sessionId, frame = .wrote (.resumeAuth sessionId) →
    Newest before sessionId) r.history

theorem nextStage_phase {stage : Option AuthStage} {session : System}
    (h : (nextStage stage session).isSome = true) : session.phase = .authenticating := by
  unfold nextStage at h
  split at h
  · assumption
  · cases h

theorem Sound.newest (h : r.Sound endpoint) (hstage : r.stage.isSome = true) {sessionId : String}
    (hid : r.resumeSessionId = some sessionId) : Newest r.history sessionId := by
  have hphase := h.stage hstage
  rcases h.stored with hover | hexpiring | hnewest
  · have hopened : r.guarded.session.life.stage = .opened := congrArg Phase.stage hphase
    rcases hover with h | h | ⟨h, -⟩ <;> cases hopened.symm.trans h
  · rw [Guarded.isExpiring, hphase] at hexpiring
    cases hexpiring
  · exact hnewest sessionId hid

theorem newest_frame {history : List AuthFrame} {message : ServerMessage} {sessionId : String}
    (h : Newest history sessionId) (hexpired : message.isSessionExpired = false)
    (hcurrent : ∀ other, message.sessionId = some other → other = sessionId) :
    Newest (history ++ [.read message]) sessionId := by
  cases hid : message.sessionId with
  | none => exact h.append (by simp [AuthFrame.isCredential, hexpired, hid])
  | some other =>
    cases message with
    | authSuccess granted =>
      cases hcurrent granted rfl
      exact newest_authSuccess
    | _ => cases hid

theorem isCurrent_iff {message : ServerMessage} {stored : String}
    (hstored : r.resumeSessionId = some stored) (h : r.isCurrent message = true) :
    ∀ other, message.sessionId = some other → other = stored := by
  intro other hother
  simp only [isCurrent, hother, hstored, Option.all_some, decide_eq_true_eq] at h
  exact h.symm

theorem isCredential_wrote {sent : List ClientMessage} :
    ∀ frame ∈ sent.map AuthFrame.wrote, frame.isCredential = false := by
  intro frame hmem
  obtain ⟨message, -, rfl⟩ := List.mem_map.mp hmem
  rfl

theorem Sound.read_newest (h : r.Sound endpoint) {stage : AuthStage} {arrival : AuthArrival}
    {reply : AuthReply} {turn : AuthTurn} (hstage : r.stage = some stage)
    (hturn : stage.read flow reply r.resumeSessionId arrival = some turn)
    (hq : (stage.isAwaiting || arrival.frame.all r.isCurrent) = true) {sessionId : String}
    (hid : turn.resumeSessionId = some sessionId) :
    Newest (r.history ++ arrival.frame.toList.map .read) sessionId := by
  rcases read_stored hturn hid with ⟨-, hframe⟩ | ⟨hstored, hframes⟩
  · rw [hframe]
    exact newest_authSuccess
  · have hnewest := h.newest (hstage ▸ rfl) hstored
    cases hframe : arrival.frame with
    | none => exact hnewest.append (fun _ hmem ↦ by cases hmem)
    | some message =>
      obtain ⟨hexpired, hawaited⟩ := hframes message hframe
      refine newest_frame hnewest hexpired fun other hother ↦ ?_
      cases hawaiting : stage.isAwaiting with
      | true => cases (hawaited hawaiting).symm.trans hother
      | false =>
        rw [hawaiting, hframe] at hq
        exact isCurrent_iff hstored hq other hother

theorem Sound.arrive (h : r.Sound endpoint) {arrival : AuthArrival} {reply : AuthReply}
    (hq : r.isUndisturbed (.arrive arrival reply) = true)
    (ht : r.step config endpoint flow debug (.arrive arrival reply) = some r') :
    r'.Sound endpoint := by
  obtain ⟨stage, hstage, ht⟩ := Option.bind_eq_some_iff.mp ht
  obtain ⟨turn, hturn, rfl⟩ := Option.map_eq_some_iff.mp ht
  have hsome : r.stage.isSome = true := hstage ▸ rfl
  refine ⟨h.guarded, fun _ ↦ h.stage hsome, .inr (.inr fun sessionId hid ↦ ?_), ?_⟩
  · rw [isUndisturbed, hstage] at hq
    rw [← List.append_assoc]
    exact (h.read_newest hstage hturn hq hid).append isCredential_wrote
  · by_cases hresumed : ∃ sessionId, .resumeAuth sessionId ∈ turn.wrote
    · obtain ⟨sessionId, hmem⟩ := hresumed
      obtain ⟨hframe, hwrote, hstored⟩ := read_wrote hturn hmem
      rw [hframe, hwrote]
      refine justified_concat.mpr ⟨h.resumed, fun other hother ↦ ?_⟩
      cases hother
      exact h.newest hsome hstored
    · refine h.resumed.append fun frame hmem _ sessionId hframe ↦ ?_
      subst hframe
      rcases List.mem_append.mp hmem with hmem | hmem
      · simp at hmem
      · obtain ⟨message, hmem, hmessage⟩ := List.mem_map.mp hmem
        cases hmessage
        exact absurd ⟨sessionId, hmem⟩ hresumed

theorem Sound.other (h : r.Sound endpoint) {op : GuardedOp}
    (hq : r.isUndisturbed (.other op) = true)
    (ht : r.step config endpoint flow debug (.other op) = some r') : r'.Sound endpoint := by
  simp only [step] at ht
  split at ht
  · cases ht
  · obtain ⟨guarded, hguarded, rfl⟩ := Option.map_eq_some_iff.mp ht
    refine ⟨h.guarded.step hguarded, nextStage_phase, ?_, ?_⟩
    · rcases h.stored with hover | hexpiring | hnewest
      · exact .inl (Guarded.isOver_step hover hguarded)
      · rcases Guarded.isExpiring_step hexpiring hguarded with hexpiring | hover | hclears
        · exact .inr (.inl hexpiring)
        · exact .inl hover
        · refine .inr (.inr fun sessionId hid ↦ ?_)
          rw [if_pos hclears] at hid
          cases hid
      · have hstored : ∀ sessionId,
            (if r.guarded.clearsResume op then none else r.resumeSessionId) = some sessionId →
            r.resumeSessionId = some sessionId := by
          intro sessionId hid
          split at hid
          · cases hid
          · exact hid
        cases hframe : op.frame with
        | none =>
          refine .inr (.inr fun sessionId hid ↦ ?_)
          exact (hnewest sessionId (hstored sessionId hid)).append (fun _ hmem ↦ by cases hmem)
        | some message =>
          by_cases hexpired : message.isSessionExpired = true
          · exact .inr (.inl (Guarded.frame_isExpiring h.guarded hframe hexpired hguarded))
          · refine .inr (.inr fun sessionId hid ↦ ?_)
            have hcurrent : r.isCurrent message = true := by
              rw [isUndisturbed, hframe] at hq
              exact hq
            exact newest_frame (hnewest sessionId (hstored sessionId hid))
              (Bool.eq_false_iff.mpr hexpired) (isCurrent_iff (hstored sessionId hid) hcurrent)
    · refine h.resumed.append fun frame hmem _ sessionId hframe ↦ ?_
      subst hframe
      simp at hmem

theorem Sound.hello (h : r.Sound endpoint) {write : Except String Unit}
    (ht : r.step config endpoint flow debug (.hello write) = some r') : r'.Sound endpoint := by
  simp only [step] at ht
  split at ht
  · rename_i hstage
    cases ht
    have hsome : r.stage.isSome = true := hstage ▸ rfl
    refine ⟨h.guarded, fun _ ↦ h.stage hsome, .inr (.inr fun sessionId hid ↦ ?_), ?_⟩
    · exact (h.newest hsome hid).append (by simp [AuthFrame.isCredential])
    · exact justified_concat.mpr ⟨h.resumed, fun _ hother ↦ by cases hother⟩
  · cases ht

theorem Sound.settle (h : r.Sound endpoint) {permissions : VaultDelegatePermissions}
    {ids : ℕ → Uuid} {write : Option String}
    (ht : r.step config endpoint flow debug (.settle permissions ids write) = some r') :
    r'.Sound endpoint := by
  simp only [step] at ht
  split at ht
  · rename_i result hstage
    obtain ⟨guarded, hguarded, rfl⟩ := Option.map_eq_some_iff.mp ht
    have hsome : r.stage.isSome = true := hstage ▸ rfl
    exact ⟨h.guarded.step hguarded, (fun hnone ↦ by cases hnone),
      .inr (.inr fun _ hid ↦ h.newest hsome hid), h.resumed⟩
  · cases ht

theorem Sound.step (h : r.Sound endpoint) (hq : r.isUndisturbed op = true)
    (ht : r.step config endpoint flow debug op = some r') : r'.Sound endpoint := by
  cases op with
  | hello write => exact h.hello ht
  | arrive arrival reply => exact h.arrive hq ht
  | settle permissions ids write => exact h.settle ht
  | other op => exact h.other hq ht

theorem after_guarded {ops : List ResumedOp} (h : after config endpoint flow debug ops = some r) :
    ∃ ops, Guarded.after config endpoint ops = some r.guarded := by
  refine run_invariant
    (I := fun r : Resumed ↦ ∃ ops, Guarded.after config endpoint ops = some r.guarded)
    ?_ ⟨[], rfl⟩ h
  rintro r op r' ⟨ops, hops⟩ ht
  cases op with
  | hello write =>
    simp only [step] at ht
    split at ht <;> cases ht
    exact ⟨ops, hops⟩
  | arrive arrival reply =>
    obtain ⟨stage, -, ht⟩ := Option.bind_eq_some_iff.mp ht
    obtain ⟨turn, -, rfl⟩ := Option.map_eq_some_iff.mp ht
    exact ⟨ops, hops⟩
  | settle permissions ids write =>
    simp only [step] at ht
    split at ht
    · obtain ⟨guarded, hguarded, rfl⟩ := Option.map_eq_some_iff.mp ht
      exact ⟨_, run_concat hops hguarded⟩
    · cases ht
  | other op =>
    simp only [step] at ht
    split at ht
    · cases ht
    · obtain ⟨guarded, hguarded, rfl⟩ := Option.map_eq_some_iff.mp ht
      exact ⟨_, run_concat hops hguarded⟩

theorem sound_init : (init config).Sound endpoint :=
  ⟨Guarded.sound_init, (fun h ↦ by cases h), .inr (.inr fun _ h ↦ by cases h), justified_nil⟩

end Resumed

section Theorem

variable {config : ManagedWsConfig} {endpoint : MakerWsEndpoint} {flow : AuthFlow}
  {debug : ManagedWsTerminationReason → String} {ops : List ResumedOp} {r : Resumed}

/-- A reconnect resumes with the newest credential, in every run in which an `AuthSuccess` that
nothing waits for brings no other id than the one that is stored. -/
theorem resume_newest (h : Resumed.after config endpoint flow debug ops = some r)
    (hq : Along (Resumed.step config endpoint flow debug)
      (fun r op ↦ r.isUndisturbed op = true) (.init config) ops) :
    ∀ before sessionId after,
      r.history = before ++ .wrote (.resumeAuth sessionId) :: after → Newest before sessionId := by
  have hsound := run_invariant_along (I := Resumed.Sound endpoint)
    (fun _ _ _ hq hs ht ↦ hs.step hq ht) Resumed.sound_init hq h
  exact fun before sessionId after hsplit ↦
    hsound.resumed before _ after hsplit sessionId rfl

end Theorem

def authOk : AuthReply := ⟨.ok (), .ok ()⟩

def welcomed : List ResumedOp :=
  [.other (.other (.task .connect)), .hello (.ok ()), .arrive .welcome authOk]

/-- The `AuthSuccess` that is waited for comes, and a data session becomes ready. -/
def granted (sessionId : String) : List ResumedOp :=
  [.arrive (.message (.authSuccess sessionId)) authOk, .settle 0 numberedId none,
    .other (answerTo .mmSummary 1 none), .other .settle]

def heard (message : ServerMessage) : ResumedOp :=
  .other (.other (.branch (.read (.message message))))

def lost : List ResumedOp :=
  [.other (.other (.branch (.read .closed))), .other (.other (.task (.finish 0))),
    .other (.other (.tick (seconds 5))), .other (.other (.task .windowElapsed))]

/-- The second connection resumes the first and is granted a new session id. -/
def resumedTwice : List ResumedOp :=
  welcomed ++ granted "first" ++ lost ++ welcomed ++ granted "second" ++ lost ++ welcomed

theorem resume_newest_second :
    ∃ r before, Resumed.after sampleConfig .data .maker (fun _ ↦ "") resumedTwice =
        some r ∧
      r.history = before ++ [.wrote (.resumeAuth "second")] ∧ Newest before "second" := by
  obtain ⟨r, before, hr, hhistory⟩ : ∃ r before,
      Resumed.after sampleConfig .data .maker (fun _ ↦ "") resumedTwice = some r ∧
      r.history = before ++ [.wrote (.resumeAuth "second")] :=
    ⟨_, [.wrote .hello, .wrote .startAuth, .read (.authSuccess "first"),
      .read (.page .mmSummary (numberedId 1) none), .wrote .hello, .wrote (.resumeAuth "first"),
      .read (.authSuccess "second"), .read (.page .mmSummary (numberedId 1) none),
      .wrote .hello], rfl, rfl⟩
  have hq : Along (Resumed.step sampleConfig .data .maker (fun _ ↦ ""))
      (fun r op ↦ r.isUndisturbed op = true) (.init sampleConfig) resumedTwice :=
    along_of_check (by decide +kernel)
  exact ⟨r, before, hr, hhistory, resume_newest hr hq before "second" [] hhistory⟩

def sampleChallenge : String :=
  "Acta RFQ Authentication\n\nSign this message to authenticate your wallet.\n\n" ++
    "Nonce: 0123456789abcdef0123456789abcdef0123456789abcdef0123456789abcdef\n" ++
    "Issued At: 2024-02-29T23:59:59Z\n"

/-- The answer to a challenge in the middle of a session brings a new session id, and the next
connection resumes with the old one. -/
theorem resume_outdated :
    ∃ r before, Resumed.after sampleConfig .data .maker (fun _ ↦ "")
        (welcomed ++ granted "first" ++ [heard (.authRequest sampleChallenge),
          .other (.other (.branch (.signed .signed))), heard (.authSuccess "second")] ++ lost ++
          welcomed) = some r ∧
      r.history = before ++ [.wrote (.resumeAuth "first")] ∧ Newest before "second" ∧
      ¬Newest before "first" := by
  have hsecond : Newest [.wrote .hello, .wrote .startAuth, .read (.authSuccess "first"),
      .read (.page .mmSummary (numberedId 1) none), .read (.authRequest sampleChallenge),
      .read (.authSuccess "second"), .wrote .hello] "second" :=
    ⟨[.wrote .hello, .wrote .startAuth, .read (.authSuccess "first"),
      .read (.page .mmSummary (numberedId 1) none), .read (.authRequest sampleChallenge)],
      [.wrote .hello], rfl, by simp [AuthFrame.isCredential]⟩
  refine ⟨_, _, rfl, rfl, hsecond, fun hfirst ↦ ?_⟩
  exact absurd (hfirst.unique hsecond) (by decide)

end MakerSdk.Session
