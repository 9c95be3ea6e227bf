import MakerSdk.Session.Intent
import MakerSdk.Session.Still

namespace MakerSdk.Session

open Base

def Handled.changes (handled : Handled) (ticket : ℕ) (command : ManagedCommand) :
    List TargetEvent :=
  if handled.enqueued then
    command.message.subscription.toList.map
      (.entered ticket · { command.message with subscription := none })
  else []

def Writer.receipts (writer : Writer) (now : Instant) : List TargetEvent :=
  match writer.progress with
  | .written (.frame message _ (some ticket)) => [.written ticket message now]
  | _ => []

def System.targetEvents (s : System) : Label → List TargetEvent
  | .branch .command =>
    match s.phase, s.queue with
    | .live loop, command :: queue =>
      (handleCommand (fun tx ↦ tx ∈ s.dropped) s.connectionEpoch
        (({ s with queue } : System).loopIo loop) (some command)).changes loop.nextTicket command
    | _, _ => []
  | .branch (.read (.message message)) => [.heard message]
  | .writer .report =>
    match s.phase with
    | .live loop => loop.writer.receipts s.time
    | _ => []
  | .task (.finish _) => [.lost]
  | _ => []

def System.targetHistory (config : ManagedWsConfig) (labels : List Label) : List TargetEvent :=
  Runs.noted (System.step config) System.targetEvents (.init config) labels

section Commands

inductive Handled.Files (io : SessionIo) (command : ManagedCommand) : Handled → Prop where
  | plain {io' : SessionIo} {answers : List (Waiter × Answer)} {enqueued : Bool}
      {ended : Option AuthenticatedSessionEnd}
      (hsub : io'.subscriptions = io.subscriptions)
      (hwritten : io'.subscriptionWritten = io.subscriptionWritten)
      (hticket : io'.nextTicket = io.nextTicket)
      (hframes : ∀ message done ticket, .frame message done (some ticket) ∈ io'.lanes.commands →
        .frame message done (some ticket) ∈ io.lanes.commands)
      (hchange : enqueued = true → command.message.subscription = none) :
    Handled.Files io command ⟨io', answers, enqueued, ended⟩
  | begun {io' : SessionIo} {answers : List (Waiter × Answer)} {change : SubscriptionChange}
      {done : Option WriteResult}
      (hchange : command.message.subscription = some change)
      (hpending : io.subscriptions.hasPending = false)
      (hsub : io'.subscriptions = io.subscriptions.begin change)
      (hwritten : io'.subscriptionWritten = some ⟨io.nextTicket, none⟩)
      (hticket : io'.nextTicket = io.nextTicket + 1)
      (hframes : ∀ c, c ∈ io'.lanes.commands ↔ c ∈ io.lanes.commands ∨
        c = .frame { command.message with subscription := none } done (some io.nextTicket)) :
    Handled.Files io command ⟨io', answers, true, none⟩

variable {isClosed : Waiter → Bool} {currentEpoch : ℕ} {io : SessionIo} {command : ManagedCommand}

theorem Handled.Files.accepted {io' : SessionIo} {lanes : Writer} {done : Option WriteResult}
    {answers : List (Waiter × Answer)}
    (hlanes : io'.lanes = io.lanes) (hsub : io'.subscriptions = io.subscriptions)
    (hwritten : io'.subscriptionWritten = io.subscriptionWritten)
    (hticket : io'.nextTicket = io.nextTicket)
    (hpending : ¬(command.message.subscription.isSome = true ∧
      io.subscriptions.hasPending = true))
    (hframe : io'.lanes.frameWithReceipt { command.message with subscription := none } done
      (io'.ticket command.message.subscription) = .ok lanes) :
    Handled.Files io command (io'.accepted lanes command.message.subscription answers) := by
  rw [Writer.frameWithReceipt, Checks.mapError_ok, hlanes] at hframe
  have hcommands := Writer.enqueue_commands hframe
  cases hchange : command.message.subscription with
  | none =>
    refine .plain hsub hwritten hticket (fun m d k hc ↦ ?_) (fun _ ↦ hchange)
    rcases (hcommands _).mp hc with hc | hc
    · exact hc
    · rw [hchange] at hc
      cases hc
  | some change =>
    have hnone : io.subscriptions.hasPending = false := by
      simpa [hchange] using hpending
    refine @Handled.Files.begun _ _ _ _ _ done hchange hnone ?_ ?_ ?_ (fun c ↦ ?_)
    · rw [hsub]
    · rw [hticket]
    · rw [hticket]
    · rw [hcommands c, hchange, ← hticket]
      rfl

theorem handleCommand_files :
    Handled.Files io command (handleCommand isClosed currentEpoch io (some command)) := by
  have hkeep : ∀ {io' : SessionIo} {answers : List (Waiter × Answer)}
      {ended : Option AuthenticatedSessionEnd}, io'.lanes = io.lanes →
      io'.subscriptions = io.subscriptions → io'.subscriptionWritten = io.subscriptionWritten →
      io'.nextTicket = io.nextTicket →
      Handled.Files io command ⟨io', answers, false, ended⟩ := by
    intro io' answers ended hl hs hw ht
    exact .plain hs hw ht (fun _ _ _ hc ↦ hl ▸ hc) (fun h ↦ by cases h)
  cases command with
  | send message connectionEpoch tx =>
    unfold handleCommand
    dsimp only
    split
    · exact hkeep rfl rfl rfl rfl
    split
    · exact hkeep rfl rfl rfl rfl
    split
    · exact hkeep rfl rfl rfl rfl
    rename_i hpending
    split
    · rename_i lanes hframe
      exact @Handled.Files.accepted io (.send message connectionEpoch tx) io _ _ _ rfl rfl rfl rfl
        hpending hframe
    · exact hkeep rfl rfl rfl rfl
    · exact hkeep rfl rfl rfl rfl
  | sendAwait awaitId message connectionEpoch registration tx =>
    unfold handleCommand
    dsimp only
    split
    · exact hkeep rfl rfl rfl rfl
    split
    · exact hkeep rfl rfl rfl rfl
    split
    · exact hkeep rfl rfl rfl rfl
    rename_i hpending
    split
    · exact hkeep rfl rfl rfl rfl
    · split
      · rename_i lanes hframe
        exact @Handled.Files.accepted io
          (.sendAwait awaitId message connectionEpoch registration tx) _ _ _ _ rfl rfl rfl rfl
          hpending hframe
      · exact hkeep rfl rfl rfl rfl
      · exact hkeep rfl rfl rfl rfl

end Commands

section Receipts

variable {writer writer' : Writer} {effects : List WriterEffect} {op : WriterOp} {ticket : ℕ}

theorem WriterCommand.receipt_not_mem_drop (command : WriterCommand) :
    .receipt ticket ∉ command.drop := by
  rcases command with ⟨message, _ | _, _ | _⟩ | _ | _ | _ <;> simp [WriterCommand.drop]

theorem WriterCommand.receipt_not_mem_failure (command : WriterCommand) (error : ManagedWsError) :
    .receipt ticket ∉ command.failure error := by
  rcases command with ⟨message, _ | _, _ | _⟩ | _ | _ | _ <;> simp [WriterCommand.failure]

theorem WriterCommand.eq_of_mem_receipts {command : WriterCommand}
    (h : .receipt ticket ∈ command.receipts) :
    ∃ message done, command = .frame message done (some ticket) := by
  rcases command with ⟨message, done, _ | other⟩ | _ | _ | _
  · simp [WriterCommand.receipts] at h
  · have hticket : ticket = other := by simpa [WriterCommand.receipts] using h
    exact ⟨message, done, by rw [hticket]⟩
  all_goals simp [WriterCommand.receipts] at h

theorem Writer.step_receipt (h : writer.step op = some (writer', effects)) (hop : op ≠ .abort)
    (hmem : .receipt ticket ∈ effects) :
    op = .report ∧ ∃ message done,
      writer.progress = .written (.frame message done (some ticket)) := by
  rcases Writer.step_cases h with ⟨c, -, -, rfl⟩ | ⟨c, -, -, rfl⟩ | ⟨c, hp, -, rfl⟩ | hr
  · cases hmem
  · simp at hmem
  · obtain ⟨message, done, rfl⟩ := WriterCommand.eq_of_mem_receipts hmem
    refine ⟨?_, message, done, hp⟩
    cases op with
    | report => rfl
    | abort => exact absurd rfl hop
    | next | flush | fail => simp [Writer.step, hp] at h
  · obtain ⟨c, -, hd | ⟨error, -, hf⟩⟩ := hr.effects _ hmem
    · exact absurd hd c.receipt_not_mem_drop
    · exact absurd hf (c.receipt_not_mem_failure error)

theorem Receipt.resolve_cases {α : Type} {value : Option α} {receipt : Receipt α} :
    (receipt.resolve ticket value).ticket = receipt.ticket ∧
      ((receipt.resolve ticket value).value = receipt.value ∨
        receipt.ticket = ticket ∧ (receipt.resolve ticket value).value = some value) := by
  unfold Receipt.resolve
  split
  · rename_i h
    exact ⟨rfl, .inr ⟨h.1, rfl⟩⟩
  · exact ⟨rfl, .inl rfl⟩

theorem Loop.receive_written {now : Instant} {loop : Loop} {effect : WriterEffect}
    {receipt : Receipt Instant} (h : (loop.receive now effect).subscriptionWritten = some receipt) :
    ∃ receipt', loop.subscriptionWritten = some receipt' ∧ receipt.ticket = receipt'.ticket ∧
      ∀ instant, receipt.value = some (some instant) →
        receipt'.value = some (some instant) ∨
          instant = now ∧ effect = .receipt receipt.ticket := by
  rcases effect with _ | _ | ⟨_ | _, _⟩ | ticket | ⟨_ | _⟩ | ticket
  case receipt =>
    obtain ⟨receipt', hloop, rfl⟩ := Option.map_eq_some_iff.mp h
    obtain ⟨hticket, hvalue | ⟨hsame, hvalue⟩⟩ :=
      @Receipt.resolve_cases ticket _ (some now) receipt'
    · exact ⟨receipt', hloop, hticket, fun instant hi ↦ .inl (hvalue.symm.trans hi)⟩
    · refine ⟨receipt', hloop, hticket, fun instant hi ↦ .inr ⟨?_, ?_⟩⟩
      · cases hvalue.symm.trans hi
        rfl
      · rw [hticket, hsame]
  case dropReceipt =>
    obtain ⟨receipt', hloop, rfl⟩ := Option.map_eq_some_iff.mp h
    obtain ⟨hticket, hvalue | ⟨hsame, hvalue⟩⟩ := @Receipt.resolve_cases ticket _ none receipt'
    · exact ⟨receipt', hloop, hticket, fun instant hi ↦ .inl (hvalue.symm.trans hi)⟩
    · exact ⟨receipt', hloop, hticket, fun instant hi ↦ by cases hvalue.symm.trans hi⟩
  all_goals exact ⟨receipt, h, rfl, fun _ hi ↦ .inl hi⟩

theorem Loop.receive_target {now : Instant} {loop : Loop} :
    (effects.foldl (Loop.receive now) loop).subscriptionDeadline = loop.subscriptionDeadline ∧
    (effects.foldl (Loop.receive now) loop).nextTicket = loop.nextTicket ∧
    ∀ receipt, (effects.foldl (Loop.receive now) loop).subscriptionWritten = some receipt →
      ∃ receipt', loop.subscriptionWritten = some receipt' ∧ receipt.ticket = receipt'.ticket ∧
        ∀ instant, receipt.value = some (some instant) →
          receipt'.value = some (some instant) ∨
            instant = now ∧ .receipt receipt.ticket ∈ effects := by
  induction effects generalizing loop with
  | nil => exact ⟨rfl, rfl, fun receipt h ↦ ⟨receipt, h, rfl, fun _ hv ↦ .inl hv⟩⟩
  | cons effect effects ih =>
    obtain ⟨hdeadline, hticket, hreceipt⟩ := @ih (loop.receive now effect)
    have hstep : (loop.receive now effect).subscriptionDeadline = loop.subscriptionDeadline ∧
        (loop.receive now effect).nextTicket = loop.nextTicket := by
      rcases effect with _ | _ | ⟨_ | _, _⟩ | _ | ⟨_ | _⟩ | _ <;> exact ⟨rfl, rfl⟩
    refine ⟨hdeadline.trans hstep.1, hticket.trans hstep.2, fun receipt h ↦ ?_⟩
    obtain ⟨middle, hmiddle, hsame, hvalue⟩ := hreceipt receipt h
    obtain ⟨receipt', hloop, hsame', hvalue'⟩ := Loop.receive_written hmiddle
    refine ⟨receipt', hloop, hsame.trans hsame', fun instant hi ↦ ?_⟩
    rcases hvalue instant hi with hi | ⟨hnow, hmem⟩
    · rcases hvalue' instant hi with hi | ⟨hnow, heffect⟩
      · exact .inl hi
      · exact .inr ⟨hnow, by rw [heffect, hsame]; exact List.mem_cons_self⟩
    · exact .inr ⟨hnow, List.mem_cons_of_mem _ hmem⟩

end Receipts

/-- What a running session knows of the last change on file: the receipt it waits for is that
change's, its frame is the only one with that ticket, and a deadline was set by such a receipt. -/
structure Desk (config : ManagedWsConfig) (loop : Loop) (entries : List Filed) : Prop where
  receipt : ∀ receipt, loop.subscriptionWritten = some receipt →
    receipt.ticket < loop.nextTicket ∧ ∃ last, entries.getLast? = some last ∧
      last.ticket = receipt.ticket ∧ ∀ instant, receipt.value = some (some instant) →
        (last.frame, instant) ∈ last.written
  frames : ∀ message done ticket, .frame message done (some ticket) ∈ loop.writer.commands →
    ticket < loop.nextTicket ∧ ∀ receipt, loop.subscriptionWritten = some receipt →
      receipt.ticket = ticket → ∃ last, entries.getLast? = some last ∧ last.frame = message
  armed : ∀ deadline, loop.subscriptionDeadline = some deadline →
    ∃ last instant, entries.getLast? = some last ∧ (last.frame, instant) ∈ last.written ∧
      deadline = instant + config.readinessTimeout

namespace Desk

variable {config : ManagedWsConfig} {loop loop' : Loop} {entries : List Filed}
  {event : TargetEvent}

theorem start {epoch capacity : ℕ} {now authenticatedAt : Instant} :
    Desk config (.start epoch capacity now authenticatedAt) entries :=
  ⟨fun _ h ↦ (by cases h), fun _ _ _ h ↦ (by cases h), fun _ h ↦ (by cases h)⟩

theorem getLast?_meet {last : Filed} (h : entries.getLast? = some last) :
    (entries.map (Filed.meet event)).getLast? = some (last.meet event) := by
  rw [List.getLast?_map, h]
  rfl

theorem meet (h : Desk config loop entries) :
    Desk config loop (entries.map (Filed.meet event)) where
  receipt r hr := by
    obtain ⟨hlt, last, hlast, hticket, hvalue⟩ := h.receipt r hr
    exact ⟨hlt, _, getLast?_meet hlast, hticket,
      fun instant hi ↦ List.mem_append_left _ (hvalue instant hi)⟩
  frames message done ticket hc := by
    obtain ⟨hlt, hframe⟩ := h.frames message done ticket hc
    refine ⟨hlt, fun r hr ht ↦ ?_⟩
    obtain ⟨last, hlast, hm⟩ := hframe r hr ht
    exact ⟨_, getLast?_meet hlast, hm⟩
  armed deadline hd := by
    obtain ⟨last, instant, hlast, hmem, hd⟩ := h.armed deadline hd
    exact ⟨_, instant, getLast?_meet hlast, List.mem_append_left _ hmem, hd⟩

theorem still (h : Desk config loop entries) (hs : loop.Still loop') :
    Desk config loop' entries where
  receipt r hr := by
    obtain ⟨hlt, hlast⟩ := h.receipt r (hs.written ▸ hr)
    exact ⟨hlt.trans_le hs.ticket, hlast⟩
  frames message done ticket hc := by
    obtain ⟨hlt, hframe⟩ := h.frames message done ticket (hs.frames message done ticket hc)
    exact ⟨hlt.trans_le hs.ticket, fun r hr ↦ hframe r (hs.written ▸ hr)⟩
  armed deadline hd := h.armed deadline (hs.deadline ▸ hd)

theorem update (h : Desk config loop entries) (hwriter : loop'.writer = loop.writer)
    (hticket : loop'.nextTicket = loop.nextTicket)
    (hwritten : ∀ r, loop'.subscriptionWritten = some r → loop.subscriptionWritten = some r)
    (hdeadline : ∀ deadline, loop'.subscriptionDeadline = some deadline →
      ∃ last instant, entries.getLast? = some last ∧ (last.frame, instant) ∈ last.written ∧
        deadline = instant + config.readinessTimeout) :
    Desk config loop' entries where
  receipt r hr := hticket ▸ h.receipt r (hwritten r hr)
  frames message done ticket hc := by
    rw [hwriter] at hc
    obtain ⟨hlt, hframe⟩ := h.frames message done ticket hc
    exact ⟨hticket ▸ hlt, fun r hr ↦ hframe r (hwritten r hr)⟩
  armed := hdeadline

theorem receive {writer : Writer} {effects : List WriterEffect} {now : Instant}
    (h : Desk config loop entries) (hwriter : writer.commands ⊆ loop.writer.commands)
    (hwritten : ∀ r last, loop.subscriptionWritten = some r → .receipt r.ticket ∈ effects →
      entries.getLast? = some last → last.ticket = r.ticket →
        (last.frame, now) ∈ last.written) :
    Desk config (effects.foldl (Loop.receive now) { loop with writer }) entries := by
  obtain ⟨hdeadline, hticket, hreceipt⟩ := @Loop.receive_target effects now { loop with writer }
  refine ⟨fun r hr ↦ ?_, fun message done ticket hc ↦ ?_, fun deadline hd ↦ ?_⟩
  · obtain ⟨r', hr', hsame, hvalue⟩ := hreceipt r hr
    obtain ⟨hlt, last, hlast, hl, hold⟩ := h.receipt r' hr'
    refine ⟨by rw [hticket, hsame]; exact hlt, last, hlast, hl.trans hsame.symm, ?_⟩
    intro instant hi
    rcases hvalue instant hi with hi | ⟨rfl, hmem⟩
    · exact hold instant hi
    · exact hwritten r' last hr' (hsame ▸ hmem) hlast hl
  · rw [Loop.receive_writer] at hc
    obtain ⟨hlt, hframe⟩ := h.frames message done ticket (hwriter hc)
    refine ⟨by rw [hticket]; exact hlt, fun r hr ht ↦ ?_⟩
    obtain ⟨r', hr', hsame, -⟩ := hreceipt r hr
    exact hframe r' hr' (hsame.symm.trans ht)
  · exact h.armed deadline (hdeadline.symm.trans hd)

theorem enter {message : PreparedClientMessage} {change : SubscriptionChange}
    {done : Option WriteResult} (h : Desk config loop entries)
    (hdeadline : loop'.subscriptionDeadline = none)
    (hwritten : loop'.subscriptionWritten = some ⟨loop.nextTicket, none⟩)
    (hticket : loop'.nextTicket = loop.nextTicket + 1)
    (hframes : ∀ c, c ∈ loop'.writer.commands ↔ c ∈ loop.writer.commands ∨
      c = .frame message done (some loop.nextTicket)) :
    Desk config loop'
      (entries ++ [⟨loop.nextTicket, change, message, .pending, []⟩]) where
  receipt r hr := by
    cases hwritten.symm.trans hr
    exact ⟨hticket ▸ Nat.lt_succ_self _, _, List.getLast?_concat, rfl, fun _ h ↦ by cases h⟩
  frames m d k hc := by
    rcases (hframes _).mp hc with hc | hc
    · have hlt := (h.frames m d k hc).1
      refine ⟨hticket ▸ Nat.lt_succ_of_lt hlt, fun r hr ht ↦ ?_⟩
      cases hwritten.symm.trans hr
      exact absurd ht (Nat.ne_of_gt hlt)
    · cases hc
      exact ⟨hticket ▸ Nat.lt_succ_self _, fun _ _ _ ↦ ⟨_, List.getLast?_concat, rfl⟩⟩
  armed deadline hd := by cases hdeadline.symm.trans hd

end Desk

def ManagedWsConfig.initialTarget (config : ManagedWsConfig) : SubscriptionSet :=
  (DesiredSubscriptions.fromInitial config.initialSubscribe).current

namespace System

structure Recorded (config : ManagedWsConfig) (s : System) (history : List TargetEvent) : Prop where
  tally : Tally config.initialTarget s.subscriptions (filed history)
  desk : ∀ loop, s.phase = .live loop → Desk config loop (filed history)
  armed : ∀ loop deadline, s.phase = .live loop → loop.subscriptionDeadline = some deadline →
    s.subscriptions.hasPending = true

variable {config : ManagedWsConfig} {s t : System} {history : List TargetEvent} {loop : Loop}

theorem recorded_init : (init config).Recorded config [] := by
  refine ⟨?_, fun _ h ↦ (by cases h), fun _ _ h ↦ (by cases h)⟩
  exact @Tally.settled _ [] (List.forall_mem_nil _)

theorem Recorded.still (h : s.Recorded config history) (hs : Still s t) :
    t.Recorded config history where
  tally := hs.subscriptions ▸ h.tally
  desk loop' hl := by
    obtain ⟨loop, hphase, hloop⟩ := hs.live loop' hl
    exact (h.desk loop hphase).still hloop
  armed loop' deadline hl hd := by
    obtain ⟨loop, hphase, hloop⟩ := hs.live loop' hl
    rw [hs.subscriptions]
    exact h.armed loop deadline hphase (hloop.deadline ▸ hd)

theorem Recorded.finish {random : UInt64} {ended : SessionEnd} (h : s.Recorded config history) :
    (s.finish config random ended).Recorded config (history ++ [.lost]) := by
  obtain ⟨hsub, hlive⟩ := @finish_target s config random ended
  refine ⟨?_, fun loop hl ↦ absurd hl (hlive loop), fun loop _ hl ↦ absurd hl (hlive loop)⟩
  rw [filed_concat, hsub]
  exact (List.append_nil _).symm ▸ h.tally.lost

theorem Recorded.start {authenticatedAt : Instant} (h : s.Recorded config history)
    (hsub : t.subscriptions = s.subscriptions)
    (hlive : t.phase = .live
      (.start s.connectionEpoch config.commandBuffer s.time authenticatedAt)) :
    t.Recorded config history := by
  refine ⟨hsub ▸ h.tally, fun loop hl ↦ ?_, fun loop deadline hl hd ↦ ?_⟩
  · cases hlive.symm.trans hl
    exact Desk.start
  · cases hlive.symm.trans hl
    cases hd

theorem Recorded.of_live (htally : Tally config.initialTarget t.subscriptions (filed history))
    (hlive : t.phase = .live loop) (hdesk : Desk config loop (filed history))
    (harmed : ∀ deadline, loop.subscriptionDeadline = some deadline →
      t.subscriptions.hasPending = true) : t.Recorded config history := by
  refine ⟨htally, fun loop' hl ↦ ?_, fun loop' deadline hl hd ↦ ?_⟩
  · cases hlive.symm.trans hl
    exact hdesk
  · cases hlive.symm.trans hl
    exact harmed deadline hd

theorem Recorded.read {message : ServerMessage} (h : s.Recorded config history)
    (hphase : s.phase = .live loop) :
    (s.readMessage loop message).Recorded config (history ++ [.heard message]) := by
  unfold readMessage
  extract_lets subscriptions cleared ponged taken heard
  refine Recorded.still ?_ still_handleSessionMessage
  have hponged : ponged.writer = loop.writer ∧ ponged.nextTicket = loop.nextTicket ∧
      ponged.subscriptionWritten = loop.subscriptionWritten ∧
        ponged.subscriptionDeadline = cleared.subscriptionDeadline := by
    unfold ponged cleared
    split <;> split <;> exact ⟨rfl, rfl, rfl, rfl⟩
  obtain ⟨hwriter, hticket, hwritten, hdeadline⟩ := hponged
  have hcleared : ∀ deadline, ponged.subscriptionDeadline = some deadline →
      loop.subscriptionDeadline = some deadline ∧ subscriptions.hasPending = true := by
    intro deadline hd
    rw [hdeadline] at hd
    unfold cleared at hd
    split at hd
    · exact ⟨hd, ‹_›⟩
    · cases hd
  have hmet : Desk config loop (filed (history ++ [.heard message])) := by
    rw [filed_concat]
    exact (List.append_nil _).symm ▸ (h.desk loop hphase).meet
  have hdesk : Desk config ponged (filed (history ++ [.heard message])) :=
    hmet.update hwriter hticket (fun r hr ↦ hwritten ▸ hr)
      (fun deadline hd ↦ hmet.armed deadline (hcleared deadline hd).1)
  refine Recorded.of_live ?_ rfl hdesk (fun deadline hd ↦ (hcleared deadline hd).2)
  rw [filed_concat]
  exact (List.append_nil _).symm ▸ h.tally.resolve message

theorem Recorded.written (h : s.Recorded config history) (hphase : s.phase = .live loop)
    (ht : s.subscriptionWrittenBranch config loop = some t) : t.Recorded config history := by
  have hdesk := h.desk loop hphase
  unfold subscriptionWrittenBranch at ht
  split at ht
  · rename_i ticket written hwritten
    dsimp only at ht
    split at ht
    · rename_i writtenAt
      split at ht
      · rename_i hpending
        cases ht
        refine Recorded.of_live h.tally rfl ?_ (fun _ _ ↦ hpending)
        refine hdesk.update rfl rfl (fun _ hr ↦ by cases hr) (fun deadline hd ↦ ?_)
        obtain ⟨-, last, hlast, -, hvalue⟩ := hdesk.receipt _ hwritten
        cases hd
        exact ⟨last, writtenAt, hlast, hvalue writtenAt rfl, rfl⟩
      · cases ht
        exact Recorded.of_live h.tally rfl
          (hdesk.update rfl rfl (fun _ hr ↦ by cases hr) hdesk.armed)
          (fun deadline hd ↦ h.armed loop deadline hphase hd)
    · cases ht
      exact h.still (still_idle (fun _ h ↦ by cases h) rfl)
  · cases ht

theorem Recorded.command {command : ManagedCommand} {handled : Handled}
    (h : s.Recorded config history) (hphase : s.phase = .live loop)
    (hfiles : Handled.Files (s.loopIo loop) command handled) :
    (s.applyHandled loop (some command) handled).Recorded config
      (history ++ handled.changes loop.nextTicket command) := by
  have hdesk := h.desk loop hphase
  cases hfiles with
  | @plain io' answers enqueued ended hsub hwritten hticket hframes hchange =>
    have hnone : Handled.changes ⟨io', answers, enqueued, ended⟩ loop.nextTicket command = [] := by
      unfold Handled.changes
      split
      · rw [hchange ‹_›]
        rfl
      · rfl
    rw [hnone, List.append_nil]
    refine h.still ?_
    have hloop : loop.Still { loop with
        writer := io'.lanes
        subscriptionWritten := io'.subscriptionWritten
        nextTicket := io'.nextTicket } := ⟨hwritten, rfl, hticket.ge, hframes⟩
    cases ended with
    | none => exact ⟨hsub, fun loop' hl ↦ by cases hl; exact ⟨loop, hphase, hloop⟩⟩
    | some ended => exact still_idle (fun _ h ↦ by cases h) hsub
  | @begun io' answers change done hchange hpending hsub hwritten hticket hframes =>
    have hone : Handled.changes ⟨io', answers, true, none⟩ loop.nextTicket command =
        [.entered loop.nextTicket change { command.message with subscription := none }] := by
      simp [Handled.changes, hchange]
    have hdeadline : loop.subscriptionDeadline = none := by
      cases hd : loop.subscriptionDeadline with
      | none => rfl
      | some deadline => cases hpending.symm.trans (h.armed loop deadline hphase hd)
    rw [hone]
    refine Recorded.of_live ?_ rfl ?_ ?_
    · rw [filed_concat]
      change Tally config.initialTarget io'.subscriptions _
      rw [hsub]
      exact h.tally.begin hpending
    · rw [filed_concat]
      exact (hdesk.meet).enter hdeadline hwritten hticket hframes
    · intro deadline hd
      cases hdeadline.symm.trans hd

theorem targetEvents_writer {op : WriterOp} {writer : Writer} {effects : List WriterEffect}
    (hphase : s.phase = .live loop) (hop : op ≠ .abort)
    (hstep : loop.writer.step op = some (writer, effects)) :
    (s.targetEvents (.writer op) = [] ∧ ∀ ticket, .receipt ticket ∉ effects) ∨
    ∃ message done ticket, .frame message done (some ticket) ∈ loop.writer.commands ∧
      s.targetEvents (.writer op) = [.written ticket message s.time] ∧
      ∀ other, .receipt other ∈ effects → other = ticket := by
  by_cases hr : ∃ ticket, .receipt ticket ∈ effects
  · obtain ⟨ticket, hmem⟩ := hr
    obtain ⟨rfl, message, done, hp⟩ := Writer.step_receipt hstep hop hmem
    refine .inr ⟨message, done, ticket, ?_, ?_, fun other ho ↦ ?_⟩
    · simp [Writer.commands, hp, WriterProgress.commands]
    · simp [targetEvents, hphase, Writer.receipts, hp]
    · obtain ⟨-, message', done', hp'⟩ := Writer.step_receipt hstep hop ho
      cases hp.symm.trans hp'
      rfl
  · refine .inl ⟨?_, not_exists.mp hr⟩
    cases op with
    | report =>
      simp only [targetEvents, hphase, Writer.receipts]
      split
      · rename_i message done ticket hp
        simp only [Writer.step, hp, Option.some.injEq, Prod.mk.injEq] at hstep
        refine absurd ⟨ticket, ?_⟩ hr
        simp [← hstep.2, WriterCommand.receipts]
      · rfl
    | next | flush | fail | abort => rfl

theorem Recorded.writer {op : WriterOp} (h : s.Recorded config history)
    (hphase : s.phase = .live loop) (ht : s.writerStep loop op = some t) :
    t.Recorded config (history ++ s.targetEvents (.writer op)) := by
  unfold writerStep at ht
  split at ht
  · cases ht
  · rename_i hop
    obtain ⟨⟨writer, effects⟩, hstep, rfl⟩ := Option.map_eq_some_iff.mp ht
    have hsub := Writer.step_commands hstep
    have hdesk := h.desk loop hphase
    have harmed : ∀ deadline, (effects.foldl (Loop.receive s.time)
        { loop with writer }).subscriptionDeadline = some deadline →
          s.subscriptions.hasPending = true := by
      intro deadline hd
      rw [Loop.receive_target.1] at hd
      exact h.armed loop deadline hphase hd
    rcases targetEvents_writer hphase hop hstep with ⟨hnone, hsilent⟩ |
      ⟨message, done, ticket, hmem, hone, honly⟩
    · rw [hnone, List.append_nil]
      refine Recorded.of_live h.tally rfl (hdesk.receive hsub ?_) harmed
      exact fun r _ _ hr ↦ absurd hr (hsilent r.ticket)
    · rw [hone]
      have hfiled : filed (history ++ [.written ticket message s.time]) =
          (filed history).map (Filed.meet (.written ticket message s.time)) := by
        rw [filed_concat]
        exact List.append_nil _
      refine Recorded.of_live ?_ rfl ?_ harmed
      · rw [hfiled]
        exact h.tally.meet fun _ _ ↦ rfl
      · rw [hfiled]
        refine hdesk.meet.receive hsub fun r last hr hreceipt hlast hticket ↦ ?_
        obtain ⟨old, hold, hframe⟩ := (hdesk.frames message done ticket hmem).2 r hr
          (honly r.ticket hreceipt)
        cases (Desk.getLast?_meet hold).symm.trans hlast
        have hsame : ticket = old.ticket := (honly r.ticket hreceipt).symm.trans hticket.symm
        refine List.mem_append_right _ ?_
        rw [TargetEvent.receipt, if_pos hsame, ← hframe]
        exact List.mem_singleton_self _

theorem Recorded.branch {branch : Branch} (h : s.Recorded config history)
    (hphase : s.phase = .live loop) (hb : concernsTarget branch = true)
    (ht : s.loopStep config loop branch = some t) :
    t.Recorded config (history ++ s.targetEvents (.branch branch)) := by
  unfold loopStep at ht
  split at ht
  · split at ht
    · cases hb
    · cases ht
  · cases branch with
    | command =>
      simp only [commandBranch] at ht
      split at ht
      · rename_i command queue hqueue
        cases ht
        have hs : ({ s with queue } : System).Recorded config history :=
          h.still (still_of_eq rfl rfl)
        simp only [targetEvents, hphase, hqueue]
        exact hs.command hphase handleCommand_files
      · rename_i hqueue
        split at ht <;> cases ht
        simp only [targetEvents, hphase, hqueue, List.append_nil]
        exact h.still (still_idle (fun _ h ↦ by cases h) rfl)
    | subscriptionWritten => exact (List.append_nil history).symm ▸ h.written hphase ht
    | read result =>
      cases result with
      | message message =>
        cases ht
        exact h.read hphase
      | _ => cases hb
    | _ => cases hb

theorem Recorded.step {label : Label} (h : s.Recorded config history)
    (ht : s.step config label = some t) : t.Recorded config (history ++ s.targetEvents label) := by
  have hkeep : s.targetEvents label = [] → Still s t →
      t.Recorded config (history ++ s.targetEvents label) := by
    intro hnone hs
    rw [hnone, List.append_nil]
    exact h.still hs
  cases label with
  | handle op => exact hkeep rfl (still_handleStep ht)
  | task op =>
    rcases taskStep_target ht with ⟨hs, hop⟩ | ⟨ended, random, rfl, rfl⟩ |
      ⟨authenticatedAt, result, rfl, hsub, hlive⟩
    · refine hkeep ?_ hs
      cases op with
      | finish random => exact absurd rfl (hop random)
      | _ => rfl
    · exact h.finish
    · exact (List.append_nil history).symm ▸ h.start hsub hlive
  | branch branch =>
    simp only [System.step] at ht
    split at ht
    · rename_i loop hphase
      cases hb : concernsTarget branch with
      | false =>
        refine hkeep ?_ (still_loopStep hphase hb ht)
        rcases branch with _ | _ | _ | _ | _ | _ | _ | _ | _ | _ | ⟨_ | _⟩ | _ <;>
          first | rfl | cases hb
      | true => exact h.branch hphase hb ht
    · cases ht
  | writer op =>
    simp only [System.step] at ht
    split at ht
    · exact h.writer ‹_› ht
    · cases ht
  | detached index op => exact hkeep rfl (still_detachedStep ht)
  | tick elapsed =>
    cases ht
    exact hkeep rfl (still_of_eq rfl rfl)

/-- The subscription target of a connection is the fold of the changes that were not rejected, of
which at most one is unanswered. -/
structure Steered (config : ManagedWsConfig) (s : System) (history : List TargetEvent) :
    Prop where
  single : (unanswered (filed history)).length ≤ 1
  pending : s.subscriptions.hasPending = true ↔ unanswered (filed history) ≠ []
  current : s.subscriptions.current = intended config.initialTarget (filed history)
  lost : ∀ random t, s.step config (.task (.finish random)) = some t →
    t.subscriptions = ⟨s.subscriptions.current, none⟩
  armed : ∀ loop deadline, s.phase = .live loop → loop.subscriptionDeadline = some deadline →
    ∃ entry instant, unanswered (filed history) = [entry] ∧
      (entry.frame, instant) ∈ entry.written ∧ deadline = instant + config.readinessTimeout

theorem steered {labels : List Label} (h : after config labels = some s) :
    s.Steered config (targetHistory config labels) := by
  have hrecorded : s.Recorded config (targetHistory config labels) :=
    Runs.run_invariant_noted (fun _ _ _ _ hs ht ↦ hs.step ht) recorded_init h
  have hcases := hrecorded.tally.unanswered_eq
  refine ⟨?_, ?_, hrecorded.tally.current, fun random t ht ↦ ?_, fun loop deadline hl hd ↦ ?_⟩
  · rcases hcases with ⟨-, hnone⟩ | ⟨last, -, -, hone⟩
    · simp [hnone]
    · simp [hone]
  · rcases hcases with ⟨hp, hnone⟩ | ⟨last, hp, -, hone⟩
    · simp [hp, hnone]
    · simp [hp, hone]
  · rcases taskStep_target ht with ⟨-, hop⟩ | ⟨ended, random, -, rfl⟩ | ⟨_, _, hop, -⟩
    · exact absurd rfl (hop random)
    · rw [finish_target.1]
      rfl
    · cases hop
  · have hp := hrecorded.armed loop deadline hl hd
    obtain ⟨last, instant, hlast, hwritten, hdeadline⟩ := (hrecorded.desk loop hl).armed deadline hd
    rcases hcases with ⟨hnone, -⟩ | ⟨other, -, hother, hone⟩
    · cases hp.symm.trans hnone
    · cases hlast.symm.trans hother
      exact ⟨last, instant, hone, hwritten, hdeadline⟩

def rejectedThenPending : List Label :=
  [.task .connect, .task (.authenticate .authenticated), .task (.establish .ready),
    .handle (.call ⟨.trySend, .addChannels ⟨1, [.rfqs]⟩⟩), .branch .command,
    .writer .next, .writer .flush, .writer .report, .branch .subscriptionWritten,
    .branch (.read (.message (.requestError 1 none "unknown channel"))),
    .handle (.call ⟨.trySend, .subscribe ⟨31, 2, [.trades], [], []⟩⟩), .branch .command,
    .writer .next, .tick (seconds 2), .writer .flush, .writer .report,
    .branch .subscriptionWritten]

theorem steered_rejectedThenPending :
    ∃ s loop, after sampleConfig rejectedThenPending = some s ∧
      s.phase = .live loop ∧ loop.subscriptionDeadline = some (seconds 2 + seconds 15) ∧
      s.subscriptions.current.channels = {.trades} ∧
      s.Steered sampleConfig
        (targetHistory sampleConfig rejectedThenPending) := by
  refine ⟨_, _, rfl, rfl, rfl, ?_, steered rfl⟩
  decide +kernel

end System

end MakerSdk.Session
