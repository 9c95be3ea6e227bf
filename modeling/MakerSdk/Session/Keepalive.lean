import MakerSdk.Session.Calm

namespace MakerSdk.Session

open Base Base.Runs

def answered (epoch : ℕ) : List Entry → Bool
  | [] => true
  | entry :: after =>
    (!entry.event.writesPing epoch || after.any (·.event.readsPong)) && answered epoch after

def Unanswered (epoch : ℕ) (trace : List Entry) (written : Instant) : Prop :=
  ∃ before event after, trace = before ++ ⟨written, event⟩ :: after ∧
    event.writesPing epoch = true ∧ ∀ entry ∈ after, entry.event.Quiet

section Traces

variable {epoch : ℕ} {trace entries : List Entry} {written : Instant}

theorem Unanswered.append (h : Unanswered epoch trace written)
    (hq : ∀ entry ∈ entries, entry.event.Quiet) : Unanswered epoch (trace ++ entries) written := by
  obtain ⟨before, event, after, rfl, hw, ha⟩ := h
  refine ⟨before, event, after ++ entries, by simp, hw, fun entry hm ↦ ?_⟩
  exact (List.mem_append.mp hm).elim (ha entry) (hq entry)

theorem Event.Quiet.not_readsPong {event : Event} (h : event.Quiet) : event.readsPong = false := by
  cases event with
  | read message => exact h
  | _ => rfl

theorem Unanswered.not_answered (h : Unanswered epoch trace written) :
    answered epoch trace = false := by
  obtain ⟨before, event, after, rfl, hw, ha⟩ := h
  have hnone : after.any (·.event.readsPong) = false := by
    rw [List.any_eq_false]
    intro entry hm
    simp [(ha entry hm).not_readsPong]
  induction before with
  | nil => simp [answered, hw, hnone]
  | cons entry before ih => simp [answered, ih]

end Traces

def Writer.pingOnTheWire (writer : Writer) : Bool :=
  match writer.progress with
  | .written command => command.isKeepalive
  | _ => false

def Loop.pingReported (loop : Loop) : Bool :=
  match loop.pingWritten with
  | some ⟨_, some (some (.ok ()))⟩ => true
  | _ => false

def Loop.pingOutstanding (loop : Loop) : Bool := loop.writer.pingOnTheWire || loop.pingReported

/-- A pong is read only once the loop has learned of the ping it answers. -/
def System.readsInOrder (s : System) : Label → Bool
  | .branch (.read (.message message)) =>
    match s.phase with
    | .live loop => !(message.isPong && loop.pingOutstanding)
    | _ => true
  | _ => true

/-- What the keepalive of a running session knows: a ping that is on the wire, or that a deadline
was armed for, is unanswered. -/
structure Watch (config : ManagedWsConfig) (s : System) (loop : Loop) : Prop where
  pings : ∀ c ∈ loop.writer.commands, c.isKeepalive = true → c.isPing = true
  outstanding : loop.pingOutstanding = true →
    ∃ written ≤ s.time, Unanswered loop.writer.epoch s.trace written
  armed : ∀ deadline, loop.pongDeadline = some deadline →
    ∃ written, Unanswered loop.writer.epoch s.trace written ∧
      written + config.pongTimeout ≤ deadline

namespace Watch

variable {config : ManagedWsConfig} {s t : System} {loop loop' : Loop}

theorem calm (h : Watch config s loop) (hc : System.Calm s t loop loop') :
    Watch config t loop' := by
  obtain ⟨entries, htrace, hquiet⟩ := hc.trace
  have houtstanding : loop'.pingOutstanding = loop.pingOutstanding := by
    simp only [Loop.pingOutstanding, Writer.pingOnTheWire, Loop.pingReported, hc.progress,
      hc.pingWritten]
  refine ⟨fun c hm hk ↦ h.pings c (hc.commands c hm hk) hk, fun ho ↦ ?_, fun deadline hd ↦ ?_⟩
  · obtain ⟨written, hle, hu⟩ := h.outstanding (houtstanding ▸ ho)
    refine ⟨written, hle.trans hc.time, ?_⟩
    rw [hc.epoch, htrace]
    exact hu.append hquiet
  · obtain ⟨written, hu, hle⟩ := h.armed deadline (hc.pongDeadline ▸ hd)
    refine ⟨written, ?_, hle⟩
    rw [hc.epoch, htrace]
    exact hu.append hquiet

theorem start {epoch capacity : ℕ} {now authenticatedAt : Instant} :
    Watch config s (.start epoch capacity now authenticatedAt) :=
  ⟨List.forall_mem_nil _, fun h ↦ absurd h Bool.false_ne_true, fun _ h ↦ by cases h⟩

theorem update (h : Watch config s loop) (hw : loop'.writer = loop.writer)
    (ho : loop'.pingOutstanding = true → loop.pingOutstanding = true)
    (hd : ∀ deadline, loop'.pongDeadline = some deadline → loop.pongDeadline = some deadline ∨
      loop.pingOutstanding = true ∧ s.time + config.pongTimeout ≤ deadline) :
    Watch config (s.stay loop') loop' := by
  refine ⟨fun c hm ↦ h.pings c (hw ▸ hm), fun hp ↦ hw ▸ h.outstanding (ho hp), ?_⟩
  intro deadline hdeadline
  rw [hw]
  rcases hd deadline hdeadline with hd | ⟨hp, hle⟩
  · exact h.armed deadline hd
  · obtain ⟨written, hwritten, hu⟩ := h.outstanding hp
    exact ⟨written, hu, (Nat.add_le_add_right hwritten _).trans hle⟩

end Watch

def System.Watched (config : ManagedWsConfig) (s : System) : Prop :=
  ∀ loop, s.phase = .live loop → Watch config s loop

namespace System

variable {config : ManagedWsConfig} {s t : System} {loop : Loop}

theorem Watched.calms (h : s.Watched config) (hc : Calms s t) : t.Watched config := by
  intro loop' hl
  obtain ⟨loop, hs, hcalm⟩ := hc loop' hl
  exact (h loop hs).calm hcalm

theorem watched_of_live (hl : s.phase = .live loop) (h : Watch config s loop) :
    s.Watched config := by
  intro loop' hl'
  cases hl.symm.trans hl'
  exact h

theorem watched_stay (h : Watch config (s.stay loop) loop) : (s.stay loop).Watched config := by
  exact watched_of_live rfl h

theorem isPing_of_new {ping : PreparedClientMessage} {done : Option WriteResult}
    {written : Option ℕ} (h : PreparedClientMessage.new config .ping = some ping) :
    (WriterCommand.frame ping done written).isPing = true := by
  obtain ⟨len, -, rfl⟩ := Option.map_eq_some_iff.mp h
  rfl

theorem watched_pingTickBranch (h : Watch config s loop)
    (ht : s.pingTickBranch config loop = some t) : t.Watched config := by
  unfold pingTickBranch at ht
  split at ht
  · rename_i hidle
    obtain ⟨ping, hping, rfl⟩ := Option.map_eq_some_iff.mp ht
    dsimp only
    split
    · rename_i writer hframe
      rw [Writer.frame, Writer.frameWithReceipt, Checks.mapError_ok] at hframe
      obtain ⟨hepoch, hprogress⟩ := Writer.enqueue_task hframe
      apply watched_stay
      refine ⟨fun c hc hk ↦ ?_, fun ho ↦ ?_, fun deadline hd ↦ ?_⟩
      · rcases (Writer.enqueue_commands hframe c).mp hc with hc | rfl
        · exact h.pings c hc hk
        · exact isPing_of_new hping
      · have hloop : loop.pingOutstanding = true := by
          simp only [Loop.pingOutstanding, Writer.pingOnTheWire, Loop.pingReported, hprogress,
            Bool.or_false] at ho
          exact Bool.or_eq_true_iff.mpr (.inl ho)
        obtain ⟨written, hle, hu⟩ := h.outstanding hloop
        exact ⟨written, hle, hepoch ▸ hu⟩
      · have hnone := Option.isNone_iff_eq_none.mp hidle.1
        exact absurd (hnone.symm.trans hd) (by simp)
    · exact watched_stay (h.update rfl id (fun _ hd ↦ .inl hd))
    · exact fun _ h ↦ by cases h
  · cases ht

theorem watched_pingWrittenBranch (h : Watch config s loop)
    (ht : s.pingWrittenBranch config loop = some t) : t.Watched config := by
  have hforget : ∀ pongDeadline, ({ loop with
      pingWritten := none
      pongDeadline } : Loop).pingOutstanding = true → loop.pingOutstanding = true := by
    intro pongDeadline ho
    simp only [Loop.pingOutstanding, Loop.pingReported, Bool.or_false] at ho
    exact Bool.or_eq_true_iff.mpr (.inl ho)
  unfold pingWrittenBranch at ht
  split at ht
  · rename_i ticket written hwritten
    dsimp only at ht
    split at ht
    · rename_i hok
      cases ht
      have hreported : loop.pingOutstanding = true := by
        rcases written with _ | _ | ⟨⟩
        · cases hok
        · cases hok
        · simp [Loop.pingOutstanding, Loop.pingReported, hwritten]
      refine watched_stay (h.update rfl (hforget _) (fun deadline hd ↦ .inr ⟨hreported, ?_⟩))
      cases hd
      exact le_rfl
    · cases ht
      exact watched_stay (h.update rfl (hforget _) (fun _ hd ↦ .inl hd))
  · cases ht

theorem watched_readMessage {message : ServerMessage} (h : Watch config s loop)
    (hl : s.phase = .live loop)
    (horder : message.isPong = true → loop.pingOutstanding = false) :
    (s.readMessage loop message).Watched config := by
  unfold readMessage
  extract_lets subscriptions loop₁ loop₂ taken read
  refine Watched.calms ?_ calms_handleSessionMessage
  have hwriter : loop₂.writer = loop.writer := by
    unfold loop₂ loop₁
    split <;> split <;> rfl
  have hping : loop₂.pingWritten = loop.pingWritten := by
    unfold loop₂ loop₁
    split <;> split <;> rfl
  by_cases hm : message.isPong = true
  · have hdisarmed : loop₂.pongDeadline = none := by
      unfold loop₂
      rw [if_pos hm]
    have hidle : loop₂.pingOutstanding = false := by
      simp only [Loop.pingOutstanding, Loop.pingReported, hwriter, hping]
      exact horder hm
    apply watched_stay
    refine ⟨fun c hc ↦ h.pings c (hwriter ▸ hc), fun ho ↦ ?_, fun deadline hd ↦ ?_⟩
    · rw [hidle] at ho
      cases ho
    · rw [hdisarmed] at hd
      cases hd
  · have hpong : loop₂.pongDeadline = loop.pongDeadline := by
      unfold loop₂ loop₁
      rw [if_neg hm]
      split <;> rfl
    have hread : Calms s read :=
      calms_update_emit rfl rfl le_rfl
        (List.forall_mem_singleton.mpr (Bool.eq_false_of_not_eq_true hm))
    have hphase : (read.answer (taken.1.toList.map fun tx ↦ (tx, .response (.ok message)))).phase =
        .live loop := hl
    refine (watched_of_live hl h).calms
      (hread.trans (calms_answer.trans (calms_stay hphase ?_ ?_ hping hpong)))
    · rw [hwriter]
      exact ⟨rfl, rfl⟩
    · rw [hwriter]
      exact fun _ hc _ ↦ hc

theorem resolve_pingReported {ticket : ℕ} {value : Option (Except ManagedWsError Unit)}
    (h : ({ loop with pingWritten := loop.pingWritten.map (.resolve ticket value) } :
      Loop).pingReported = true) :
    loop.pingReported = true ∨ value = some (.ok ()) := by
  cases hp : loop.pingWritten with
  | none =>
    simp only [hp, Option.map_none] at h
    cases h
  | some receipt =>
    simp only [hp, Option.map_some, Receipt.resolve] at h
    split at h
    · refine .inr ?_
      rcases value with _ | _ | ⟨⟩
      · cases h
      · cases h
      · rfl
    · refine .inl ?_
      simpa only [Loop.pingReported, hp] using h

theorem receive_pingReported {now : Instant} {effect : WriterEffect}
    (h : (loop.receive now effect).pingReported = true) :
    loop.pingReported = true ∨ ∃ ticket, effect = .result (.ping ticket) (.ok ()) := by
  cases effect with
  | result done outcome =>
    cases done with
    | caller => exact .inl h
    | ping ticket =>
      refine (resolve_pingReported h).imp id (fun hv ↦ ⟨ticket, ?_⟩)
      rw [Option.some.inj hv]
  | dropResult done =>
    cases done with
    | caller => exact .inl h
    | ping ticket => exact (resolve_pingReported h).imp id (fun hv ↦ by cases hv)
  | wrote | failed | receipt | dropReceipt => exact .inl h

theorem foldl_receive_pingReported {now : Instant} {effects : List WriterEffect}
    (h : (effects.foldl (Loop.receive now) loop).pingReported = true) :
    loop.pingReported = true ∨ ∃ ticket, .result (.ping ticket) (.ok ()) ∈ effects := by
  induction effects generalizing loop with
  | nil => exact .inl h
  | cons effect effects ih =>
    rcases ih h with h | ⟨ticket, hm⟩
    · rcases receive_pingReported h with h | ⟨ticket, rfl⟩
      · exact .inl h
      · exact .inr ⟨ticket, List.mem_cons_self⟩
    · exact .inr ⟨ticket, List.mem_cons_of_mem _ hm⟩

theorem foldl_receive_pongDeadline {now : Instant} {effects : List WriterEffect} :
    (effects.foldl (Loop.receive now) loop).pongDeadline = loop.pongDeadline := by
  induction effects generalizing loop with
  | nil => rfl
  | cons effect effects ih =>
    rw [List.foldl_cons, ih]
    rcases effect with _ | _ | ⟨_ | _, _⟩ | _ | ⟨_ | _⟩ | _ <;> rfl

theorem isKeepalive_of_receipts {command : WriterCommand} {ticket : ℕ}
    (h : .result (.ping ticket) (.ok ()) ∈ command.receipts) : command.isKeepalive = true := by
  rcases command with ⟨message, _ | _ | _, _ | _⟩ | _ | _ | _ <;>
    simp_all [WriterCommand.receipts, WriterCommand.isKeepalive]

theorem not_reported_of_returns {writer writer' : Writer} {effects : List WriterEffect}
    (h : Writer.Returns writer writer' effects) {ticket : ℕ} :
    .result (.ping ticket) (.ok ()) ∉ effects := by
  intro hm
  obtain ⟨command, -, hd | ⟨error, -, hf⟩⟩ := h.effects _ hm
  · rcases command with ⟨message, _ | _ | _, _ | _⟩ | _ | _ | _ <;>
      simp [WriterCommand.drop] at hd
  · rcases command with ⟨message, _ | _ | _, _ | _⟩ | _ | _ | _ <;>
      simp [WriterCommand.failure] at hf

section Writers

variable {writer writer' : Writer} {effects : List WriterEffect} {op : WriterOp}

theorem onTheWire_of_reported (h : writer.step op = some (writer', effects)) {ticket : ℕ}
    (hm : .result (.ping ticket) (.ok ()) ∈ effects) : writer.pingOnTheWire = true := by
  rcases Writer.step_cases h with ⟨c, -, -, rfl⟩ | ⟨c, -, -, rfl⟩ | ⟨c, hp, -, rfl⟩ | hr
  · cases hm
  · simp at hm
  · simp only [Writer.pingOnTheWire, hp]
    exact isKeepalive_of_receipts hm
  · exact absurd hm (not_reported_of_returns hr)

theorem wrote_of_onTheWire (h : writer.step op = some (writer', effects))
    (hw : writer'.pingOnTheWire = true) :
    ∃ command ∈ writer.commands, command.isKeepalive = true ∧ effects = [.wrote command] := by
  rcases Writer.step_cases h with ⟨c, hp, -, -⟩ | ⟨c, hp, rfl, rfl⟩ | ⟨c, -, rfl, -⟩ | hr
  · simp [Writer.pingOnTheWire, hp] at hw
  · exact ⟨c, by simp [Writer.commands, hp, WriterProgress.commands], hw, rfl⟩
  · simp [Writer.pingOnTheWire] at hw
  · have hc := hr.commands
    unfold Writer.pingOnTheWire at hw
    split at hw
    · rename_i command hp
      simp [Writer.commands, hp, WriterProgress.commands] at hc
    · cases hw

end Writers

theorem watched_writerStep {op : WriterOp} (h : Watch config s loop)
    (ht : s.writerStep loop op = some t) : t.Watched config := by
  unfold writerStep at ht
  split at ht
  · cases ht
  obtain ⟨⟨writer, effects⟩, hstep, rfl⟩ := Option.map_eq_some_iff.mp ht
  have hepoch := Writer.step_epoch hstep
  let entries := (effects.flatMap (WriterEffect.events loop.writer.epoch)).map (Entry.mk s.time)
  have hquiet : ∀ entry ∈ entries, entry.event.Quiet := by
    intro entry hm
    obtain ⟨event, he, rfl⟩ := List.mem_map.mp hm
    exact effects_quiet event he
  have hstill : loop.pingOutstanding = true → ∃ written ≤ s.time,
      Unanswered loop.writer.epoch (s.trace ++ entries) written := by
    intro ho
    obtain ⟨written, hle, hu⟩ := h.outstanding ho
    exact ⟨written, hle, hu.append hquiet⟩
  intro loop' hl
  cases hl
  refine ⟨?_, fun ho ↦ ?_, fun deadline hd ↦ ?_⟩
  · rw [Loop.receive_writer]
    exact fun c hc ↦ h.pings c (Writer.step_commands hstep hc)
  · rw [Loop.receive_writer, hepoch]
    rcases Bool.or_eq_true_iff.mp ho with hw | hr
    · rw [Loop.receive_writer] at hw
      obtain ⟨command, hm, hk, rfl⟩ := wrote_of_onTheWire hstep hw
      refine ⟨s.time, le_rfl, s.trace, _, [], rfl, ?_, List.forall_mem_nil _⟩
      simp [Event.writesPing, h.pings command hm hk]
    · rcases foldl_receive_pingReported hr with hr | ⟨ticket, hm⟩
      · exact hstill (Bool.or_eq_true_iff.mpr (.inr hr))
      · exact hstill (Bool.or_eq_true_iff.mpr (.inl (onTheWire_of_reported hstep hm)))
  · rw [foldl_receive_pongDeadline] at hd
    obtain ⟨written, hu, hle⟩ := h.armed deadline hd
    rw [Loop.receive_writer, hepoch]
    exact ⟨written, hu.append hquiet, hle⟩

theorem watched_readBranch {result : ReadResult} (h : Watch config s loop)
    (hl : s.phase = .live loop) (hq : s.readsInOrder (.branch (.read result)) = true) :
    (s.readBranch loop result).Watched config := by
  have hs := watched_of_live hl h
  cases result with
  | ping payload => exact hs.calms (calms_readPing hl)
  | pong => exact hs.calms (calms_stay hl ⟨rfl, rfl⟩ (fun _ hc _ ↦ hc) rfl rfl)
  | message message =>
    apply watched_readMessage h hl
    intro hm
    simpa [readsInOrder, hl, hm] using hq
  | unreadable requestId => exact hs.calms calms_readUnreadable
  | error | closed => exact hs.calms calms_endLoop

theorem watched_loopStep {branch : Branch} (h : Watch config s loop) (hl : s.phase = .live loop)
    (hq : s.readsInOrder (.branch branch) = true)
    (ht : s.loopStep config loop branch = some t) : t.Watched config := by
  have hs := watched_of_live hl h
  unfold loopStep at ht
  split at ht
  · split at ht
    · exact hs.calms (calms_signedBranch hl ht)
    · cases ht
  · cases branch with
    | shutdown | gap | writerEnded =>
      dsimp only at ht
      split at ht <;> cases ht
      exact hs.calms calms_endLoop
    | command => exact hs.calms (calms_commandBranch hl ht)
    | subscriptionWritten => exact hs.calms (calms_subscriptionWrittenBranch hl ht)
    | subscriptionDeadline => exact hs.calms (calms_subscriptionDeadlineBranch ht)
    | cancel => exact hs.calms (calms_cancelBranch ht)
    | pingTick => exact watched_pingTickBranch h ht
    | pingWritten => exact watched_pingWrittenBranch h ht
    | pongDeadline => exact hs.calms (calms_pongDeadlineBranch ht)
    | read result =>
      cases ht
      exact watched_readBranch h hl hq
    | signed result => cases ht

theorem watched_step {label : Label} (h : s.Watched config) (hq : s.readsInOrder label = true)
    (ht : s.step config label = some t) : t.Watched config := by
  cases label with
  | handle op => exact h.calms (calms_handleStep ht)
  | task op =>
    rcases taskStep_cases ht with hc | ⟨authenticatedAt, hstart⟩
    · exact h.calms hc
    · exact watched_of_live hstart .start
  | branch branch =>
    simp only [step] at ht
    split at ht
    · exact watched_loopStep (h _ ‹_›) ‹_› hq ht
    · cases ht
  | writer op =>
    simp only [step] at ht
    split at ht
    · exact watched_writerStep (h _ ‹_›) ht
    · cases ht
  | detached index op => exact h.calms (calms_detachedStep ht)
  | tick elapsed =>
    cases ht
    exact h.calms (calms_of_eq rfl rfl (Nat.le_add_right _ _))

theorem pongDeadline_fires (h : s.loopStep config loop .pongDeadline = some t) :
    ∃ deadline, loop.pongDeadline = some deadline ∧ deadline ≤ s.time := by
  unfold loopStep at h
  split at h
  · cases h
  · obtain ⟨deadline, hd, h⟩ := Option.bind_eq_some_iff.mp h
    split at h
    · exact ⟨deadline, hd, ‹_›⟩
    · cases h

end System

/-- While every ping written on the connection has been answered no deadline is armed, and a session
ends by its pong deadline only when a ping has gone unanswered for the whole timeout. -/
theorem pong_deadline_unanswered {config : ManagedWsConfig} {labels : List Label} {s : System}
    (h : System.after config labels = some s)
    (hq : Along (System.step config) (fun s label ↦ s.readsInOrder label = true) (.init config)
      labels) :
    (∀ loop, s.phase = .live loop → answered loop.writer.epoch s.trace = true →
      loop.pongDeadline = none) ∧
    ∀ t, s.step config (.branch .pongDeadline) = some t →
      ∃ loop written, s.phase = .live loop ∧ Unanswered loop.writer.epoch s.trace written ∧
        written + config.pongTimeout ≤ s.time := by
  have hinit : (System.init config).Watched config := fun loop hl ↦ by cases hl
  have hwatched : s.Watched config :=
    run_invariant_along (fun _ _ _ hq hs ht ↦ System.watched_step hs hq ht) hinit hq h
  constructor
  · intro loop hl ha
    by_contra hd
    obtain ⟨deadline, hd⟩ := Option.ne_none_iff_exists'.mp hd
    obtain ⟨written, hu, -⟩ := (hwatched loop hl).armed deadline hd
    rw [hu.not_answered] at ha
    cases ha
  · intro t ht
    simp only [System.step] at ht
    split at ht
    · rename_i loop hl
      obtain ⟨deadline, hd, hle⟩ := System.pongDeadline_fires ht
      obtain ⟨written, hu, hw⟩ := (hwatched loop hl).armed deadline hd
      exact ⟨loop, written, hl, hu, hw.trans hle⟩
    · cases ht

def pingRun (rest : List Label) : List Label :=
  [.task .connect, .task (.authenticate .authenticated), .task (.establish .ready),
    .branch .pingTick, .writer .next, .writer .flush, .writer .report] ++ rest

theorem pong_deadline_unanswered_ping :
    ∃ s loop written, System.after sampleConfig
        (pingRun [.branch .pingWritten, .tick (seconds 10)]) = some s ∧
      s.phase = .live loop ∧ Unanswered loop.writer.epoch s.trace written ∧
      written + seconds 10 ≤ s.time := by
  have hsome : (System.after sampleConfig
      (pingRun [.branch .pingWritten, .tick (seconds 10)])).isSome = true := by
    decide +kernel
  obtain ⟨s, hs⟩ := Option.isSome_iff_exists.mp hsome
  have hq := along_of_check (show alongCheck (System.step sampleConfig)
    System.readsInOrder (.init sampleConfig)
    (pingRun [.branch .pingWritten, .tick (seconds 10)]) = true by decide +kernel)
  have hfires : ((System.after sampleConfig
      (pingRun [.branch .pingWritten, .tick (seconds 10)])).bind
        (System.step sampleConfig · (.branch .pongDeadline))).isSome = true := by
    decide +kernel
  rw [hs] at hfires
  obtain ⟨t, ht⟩ := Option.isSome_iff_exists.mp hfires
  obtain ⟨loop, written, hl, hu, hw⟩ := (pong_deadline_unanswered hs hq).2 t ht
  exact ⟨s, loop, written, hs, hl, hu, hw⟩

/-- The pong is read before the receipt of the ping it answers: the deadline is armed on an
answered ping, and nothing disarms it. -/
theorem pong_deadline_on_answered_ping :
    ∃ s loop t, System.after sampleConfig
        (pingRun [.branch (.read (.message .pong)), .branch .pingWritten, .tick (seconds 10)]) =
          some s ∧
      s.phase = .live loop ∧ s.trace.any (·.event.writesPing loop.writer.epoch) = true ∧
      answered loop.writer.epoch s.trace = true ∧ loop.pongDeadline = some (seconds 10) ∧
      s.step sampleConfig (.branch .pongDeadline) = some t ∧
      .lifecycle (ManagedWsFailure.event .network "pong deadline exceeded") ∈
        t.trace.map Entry.event := by
  refine ⟨_, _, _, rfl, rfl, ?_, ?_, rfl, rfl, ?_⟩
  · decide +kernel
  · decide +kernel
  · exact List.mem_of_getElem? (show (List.map Entry.event _)[10]? = _ from rfl)

end MakerSdk.Session
