import MakerSdk.Base.Broadcast
import MakerSdk.Sale.Errors
import MakerSdk.Session.Steady

namespace MakerSdk.Session

open Base Broadcast
open Sale (ManagedReceiveError)

/-- What the session broadcasts: a decoded frame, or the place of one it could not decode. -/
inductive InboundItem where
  | message (inbound : ManagedInbound ServerMessage)
  | unreadable

/-- `ManagedMessageReceiver::recv`, by what the channel yields. -/
def receive :
    Received InboundItem → Except ManagedReceiveError (ManagedInbound ServerMessage)
  | .item (.message inbound) => .ok inbound
  | .item .unreadable => .error (.gap 1)
  | .closed => .error .closed
  | .lagged skipped => .error (.gap skipped)

def isGap : Except ManagedReceiveError (ManagedInbound ServerMessage) → Bool
  | .error (.gap _) => true
  | _ => false

def returned (r : Receiver InboundItem) :
    List (Except ManagedReceiveError (ManagedInbound ServerMessage)) :=
  r.received.map receive

/-- A managed connection with the publisher of its inbound messages and their receivers. `opened`
counts the connections. -/
structure Wire where
  session : System
  opened : ℕ
  sequence : ℕ
  sent : List InboundItem
  receivers : List (Receiver InboundItem)

/-- The session takes a step, the handshake or the readiness barrier reads a message, or something
happens at a receiver. -/
inductive WireOp where
  | session (label : Label)
  | handshake (message : ServerMessage)
  | subscribe
  | recv (index : ℕ)
  | lag (index skipped : ℕ)
  | close (index : ℕ)

def Phase.reads : Phase → Bool
  | authenticating | establishing _ => true
  | _ => false

namespace Wire

/-- The handle keeps a receiver from the start, for its first subscriber. -/
def init (config : ManagedWsConfig) : Wire := ⟨.init config, 0, 0, [], [⟨0, []⟩]⟩

def publish (w : Wire) (message : ServerMessage) : Wire :=
  let sequence := (w.sequence + 1) % 2 ^ 64
  { w with
    sequence
    sent := w.sent ++ [.message ⟨w.session.connectionEpoch, sequence, w.session.time, message⟩] }

def publishUnreadable (w : Wire) : Wire :=
  { w with sequence := (w.sequence + 1) % 2 ^ 64, sent := w.sent ++ [.unreadable] }

/-- What a step of the session does to the publisher: a new connection has a new one, and
`handle_ws_read` publishes what it reads. -/
def inbound (w : Wire) : Label → Wire
  | .task .connect => { w with opened := w.opened + 1, sequence := 0 }
  | .branch (.read (.message message)) => w.publish message
  | .branch (.read (.unreadable _)) => w.publishUnreadable
  | _ => w

def update (w : Wire) (index : ℕ)
    (f : Receiver InboundItem → Option (Receiver InboundItem)) : Option Wire :=
  (w.receivers[index]?.bind f).map fun r ↦ { w with receivers := w.receivers.set index r }

def step (config : ManagedWsConfig) (w : Wire) : WireOp → Option Wire
  | .session label =>
    (w.session.step config label).map fun session ↦ { w.inbound label with session }
  | .handshake message => if w.session.phase.reads then some (w.publish message) else none
  | .subscribe => some { w with receivers := w.receivers ++ [.subscribe w.sent] }
  | .recv index => w.update index fun r ↦ r.recv w.sent
  | .lag index skipped =>
    (w.update index fun r ↦ r.lag w.sent skipped).map fun w ↦
      { w with session := (w.session.handleStep config .reportGap).getD w.session }
  | .close index =>
    if w.session.phase.channelClosed ∧ w.session.handlesGone then
      w.update index fun r ↦ r.close w.sent
    else none

def after (config : ManagedWsConfig) (ops : List WireOp) : Option Wire :=
  Runs.run (step config) (init config) ops

end Wire

namespace System

variable {s t : System} {config : ManagedWsConfig}

theorem nextRound_connectionEpoch {random : UInt64} :
    (s.nextRound config random).connectionEpoch = s.connectionEpoch := by
  unfold nextRound
  split <;> rfl

theorem afterSession_connectionEpoch {random : UInt64} {ended : SessionEnd} :
    (s.afterSession config random ended).connectionEpoch = s.connectionEpoch := by
  cases ended with
  | closeRequested => rfl
  | authenticationFailed | disconnected => exact nextRound_connectionEpoch
  | terminated reason =>
    simp only [afterSession]
    generalize s.invalidSignatureStrikes + (if isStrike reason then 1 else 0) = strikes
    split
    · exact nextRound_connectionEpoch
    · rfl

theorem connectionEnded_connectionEpoch :
    s.connectionEnded.connectionEpoch = s.connectionEpoch := by
  unfold connectionEnded
  split <;> rfl

theorem step_connectionEpoch {label : Label} (hlabel : label ≠ .task .connect)
    (ht : s.step config label = some t) : t.connectionEpoch = s.connectionEpoch := by
  rcases step_steady ht with ⟨hsteady, -⟩ | hturn
  · exact congrArg Prod.fst hsteady.pace
  · cases hturn with
    | tick | authenticated => rfl
    | connect => exact absurd rfl hlabel
    | connectFailed => exact nextRound_connectionEpoch
    | finish => exact afterSession_connectionEpoch.trans connectionEnded_connectionEpoch
    | unwound => exact connectionEnded_connectionEpoch

end System

structure Stamp where
  connection : ℕ
  number : ℕ

def InboundItem.Marked (stamp : Stamp) : InboundItem → Prop
  | message inbound => inbound.connectionEpoch = stamp.connection % 2 ^ 64 ∧
      inbound.sequence = stamp.number % 2 ^ 64
  | unreadable => True

/-- The channel's items with their stamps, where `number` frames of the connection `opened` have
been published. Frames of one connection are numbered by their places. -/
structure Numbered (log : List (Stamp × InboundItem)) (opened number : ℕ) : Prop where
  marked : ∀ entry ∈ log, entry.2.Marked entry.1
  ordered : ∀ (p q : ℕ) (a b : Stamp × InboundItem), p < q → log[p]? = some a → log[q]? = some b →
    a.1.connection ≤ b.1.connection ∧
      (a.1.connection = b.1.connection → b.1.number + p = a.1.number + q)
  latest : ∀ (p : ℕ) (a : Stamp × InboundItem), log[p]? = some a → a.1.connection ≤ opened ∧
    (a.1.connection = opened → number + p + 1 = a.1.number + log.length)

section Numbered

variable {log : List (Stamp × InboundItem)} {opened number : ℕ} {item : InboundItem}

theorem numbered_nil : Numbered [] 0 0 :=
  ⟨List.forall_mem_nil _, fun _ _ _ _ _ h ↦ by simp at h, fun _ _ h ↦ by simp at h⟩

theorem Numbered.connect (h : Numbered log opened number) : Numbered log (opened + 1) 0 := by
  refine ⟨h.marked, h.ordered, fun p a ha ↦ ?_⟩
  obtain ⟨hle, -⟩ := h.latest p a ha
  exact ⟨hle.trans (Nat.le_succ _), fun heq ↦ absurd heq (Nat.ne_of_lt (Nat.lt_succ_of_le hle))⟩

theorem Numbered.publish (h : Numbered log opened number)
    (hitem : item.Marked ⟨opened, number + 1⟩) :
    Numbered (log ++ [(⟨opened, number + 1⟩, item)]) opened (number + 1) := by
  have hsplit {p : ℕ} {a : Stamp × InboundItem}
      (ha : (log ++ [(⟨opened, number + 1⟩, item)])[p]? = some a) :
      log[p]? = some a ∨ p = log.length ∧ a = (⟨opened, number + 1⟩, item) := by
    rcases Nat.lt_trichotomy p log.length with hlt | rfl | hgt
    · exact .inl (List.getElem?_append_left hlt ▸ ha)
    · exact .inr ⟨rfl, by simpa using ha.symm⟩
    · rw [List.getElem?_eq_none (by rwa [List.length_append])] at ha
      cases ha
  have hlength {p : ℕ} {a : Stamp × InboundItem} (ha : log[p]? = some a) : p < log.length :=
    (List.getElem?_eq_some_iff.mp ha).1
  refine ⟨?_, fun p q a b hpq ha hb ↦ ?_, fun p a ha ↦ ?_⟩
  · exact List.forall_mem_append.mpr ⟨h.marked, List.forall_mem_singleton.mpr hitem⟩
  · rcases hsplit hb with hb | ⟨rfl, rfl⟩
    · rcases hsplit ha with ha | ⟨rfl, -⟩
      · exact h.ordered p q a b hpq ha hb
      · exact absurd (hlength hb) (Nat.not_lt.mpr hpq.le)
    · rcases hsplit ha with ha | ⟨rfl, -⟩
      · obtain ⟨hle, hnumber⟩ := h.latest p a ha
        refine ⟨hle, fun heq ↦ ?_⟩
        have := hnumber heq
        dsimp only
        omega
      · exact absurd hpq (Nat.lt_irrefl _)
  · rw [List.length_append, List.length_singleton]
    rcases hsplit ha with ha | ⟨rfl, rfl⟩
    · obtain ⟨hle, hnumber⟩ := h.latest p a ha
      refine ⟨hle, fun heq ↦ ?_⟩
      have := hnumber heq
      omega
    · exact ⟨le_rfl, fun _ ↦ by dsimp only; omega⟩

end Numbered

namespace Wire

variable {w w' : Wire} {config : ManagedWsConfig}

structure Kept (w : Wire) : Prop where
  epoch : w.session.connectionEpoch = w.opened % 2 ^ 64
  numbered : ∃ log number, w.sent = log.map Prod.snd ∧ w.sequence = number % 2 ^ 64 ∧
    Numbered log w.opened number
  follows : ∀ r ∈ w.receivers, r.Follows w.sent

theorem kept_init : (init config).Kept where
  epoch := rfl
  numbered := ⟨[], 0, rfl, rfl, numbered_nil⟩
  follows := List.forall_mem_singleton.mpr Receiver.follows_subscribe

theorem Kept.send {item : InboundItem} (h : w.Kept)
    (hitem : ∀ number, w.sequence = number % 2 ^ 64 → item.Marked ⟨w.opened, number + 1⟩) :
    Kept { w with sequence := (w.sequence + 1) % 2 ^ 64, sent := w.sent ++ [item] } := by
  obtain ⟨log, number, hsent, hsequence, hnumbered⟩ := h.numbered
  refine ⟨h.epoch, ⟨log ++ [(⟨w.opened, number + 1⟩, item)], number + 1, ?_, ?_, ?_⟩, ?_⟩
  · rw [List.map_append, hsent]
    rfl
  · rw [hsequence, Nat.mod_add_mod]
  · exact hnumbered.publish (hitem number hsequence)
  · exact fun r hr ↦ (h.follows r hr).append

theorem Kept.publish {message : ServerMessage} (h : w.Kept) : (w.publish message).Kept := by
  apply h.send
  intro number hsequence
  refine ⟨h.epoch, ?_⟩
  dsimp only
  rw [hsequence, Nat.mod_add_mod]

theorem Kept.publishUnreadable (h : w.Kept) : w.publishUnreadable.Kept := h.send fun _ _ ↦ trivial

theorem Kept.withSession {session : System} (h : w.Kept)
    (hsession : session.connectionEpoch = w.session.connectionEpoch) :
    Kept { w with session } :=
  ⟨hsession.trans h.epoch, h.numbered, h.follows⟩

theorem Kept.connect (h : w.Kept) :
    Kept { w with session := w.session.connect, opened := w.opened + 1, sequence := 0 } := by
  obtain ⟨log, number, hsent, -, hnumbered⟩ := h.numbered
  refine ⟨?_, ⟨log, 0, hsent, rfl, hnumbered.connect⟩, h.follows⟩
  have hepoch : (w.session.connectionEpoch + 1) % 2 ^ 64 = (w.opened + 1) % 2 ^ 64 := by
    rw [h.epoch, Nat.mod_add_mod]
  exact hepoch

theorem Kept.session {label : Label} {session : System} (h : w.Kept)
    (ht : w.session.step config label = some session) :
    Kept { w.inbound label with session } := by
  by_cases hlabel : label = .task .connect
  · subst hlabel
    rcases System.step_steady ht with ⟨-, hturn⟩ | hturn
    · cases hturn
    · cases hturn
      exact h.connect
  · have hsession := System.step_connectionEpoch hlabel ht
    unfold inbound
    split
    · exact absurd rfl hlabel
    · exact h.publish.withSession hsession
    · exact h.publishUnreadable.withSession hsession
    · exact h.withSession hsession

theorem Kept.update {index : ℕ} {f : Receiver InboundItem → Option (Receiver InboundItem)}
    (h : w.Kept) (hf : ∀ r r', r.Follows w.sent → f r = some r' → r'.Follows w.sent)
    (ht : w.update index f = some w') : w'.Kept := by
  obtain ⟨r', hr', rfl⟩ := Option.map_eq_some_iff.mp ht
  obtain ⟨r, hr, hrf⟩ := Option.bind_eq_some_iff.mp hr'
  refine ⟨h.epoch, h.numbered, fun q hq ↦ ?_⟩
  rcases List.mem_or_eq_of_mem_set hq with hq | rfl
  · exact h.follows q hq
  · exact hf r q (h.follows r (List.mem_of_getElem? hr)) hrf

theorem kept_step {op : WireOp} (h : w.Kept) (ht : w.step config op = some w') : w'.Kept := by
  cases op with
  | session label =>
    obtain ⟨session, hs, rfl⟩ := Option.map_eq_some_iff.mp ht
    exact h.session hs
  | handshake message =>
    obtain ⟨-, ht⟩ := Option.ite_none_right_eq_some.mp ht
    cases ht
    exact h.publish
  | subscribe =>
    cases ht
    refine ⟨h.epoch, h.numbered, List.forall_mem_append.mpr ⟨h.follows, ?_⟩⟩
    exact List.forall_mem_singleton.mpr Receiver.follows_subscribe
  | recv index => exact h.update (fun _ _ hr hrf ↦ hr.recv hrf) ht
  | lag index skipped =>
    obtain ⟨u, hu, rfl⟩ := Option.map_eq_some_iff.mp ht
    apply (h.update (fun _ _ hr hrf ↦ hr.lag hrf) hu).withSession
    simp only [System.handleStep]
    split <;> rfl
  | close index =>
    obtain ⟨-, ht⟩ := Option.ite_none_right_eq_some.mp ht
    exact h.update (fun _ _ hr hrf ↦ hr.close hrf) ht

theorem receive_ok {x : Received InboundItem} {inbound : ManagedInbound ServerMessage}
    (h : receive x = .ok inbound) : x = .item (.message inbound) := by
  rcases x with (_ | _) | _ | _ <;> cases h
  rfl

theorem sum_width_of_no_gap {l : List (Received InboundItem)}
    (h : ∀ x ∈ l.map receive, isGap x = false) :
    (l.map Received.width).sum = (l.map receive).countP Except.isOk := by
  have hgap (x : Received InboundItem) (hx : x ∈ l) : isGap (receive x) = false :=
    h _ (List.mem_map_of_mem hx)
  have hlag : ∀ x ∈ l, x.isLag = false := by
    intro x hx
    have hx := hgap x hx
    cases x with
    | lagged => cases hx
    | item | closed => rfl
  rw [sum_width hlag, List.countP_map]
  apply List.countP_congr
  intro x hx
  have hx := hgap x hx
  rcases x with (_ | _) | _ | _
  · exact Iff.rfl
  · cases hx
  · cases hx
  · exact Iff.rfl

theorem returned_split {r : Receiver InboundItem}
    {before between after : List (Except ManagedReceiveError (ManagedInbound ServerMessage))}
    {a b : ManagedInbound ServerMessage}
    (h : returned r = before ++ .ok a :: (between ++ .ok b :: after)) :
    ∃ before' between' after', between = between'.map receive ∧
      r.received = before' ++ .item (.message a) ::
        (between' ++ .item (.message b) :: after') := by
  obtain ⟨before', rest, hr, -, hrest⟩ := List.map_eq_append_iff.mp h
  obtain ⟨x, rest, rfl, hx, hrest⟩ := List.map_eq_cons_iff.mp hrest
  obtain ⟨between', rest, rfl, hbetween, hrest⟩ := List.map_eq_append_iff.mp hrest
  obtain ⟨y, after', rfl, hy, -⟩ := List.map_eq_cons_iff.mp hrest
  rw [receive_ok hx, receive_ok hy] at hr
  exact ⟨before', between', after', hbetween.symm, hr⟩

theorem returned_in_order {ops : List WireOp} {r : Receiver InboundItem}
    {before between after : List (Except ManagedReceiveError (ManagedInbound ServerMessage))}
    {a b : ManagedInbound ServerMessage} (h : Wire.after config ops = some w)
    (hr : r ∈ w.receivers)
    (hreturned : returned r = before ++ .ok a :: (between ++ .ok b :: after)) :
    ∃ first second, a.connectionEpoch = first % 2 ^ 64 ∧ b.connectionEpoch = second % 2 ^ 64 ∧
      first ≤ second ∧ second ≤ w.opened ∧
      (first = second → (∀ x ∈ between, isGap x = false) →
        b.sequence = (a.sequence + between.countP Except.isOk + 1) % 2 ^ 64) := by
  have hkept : w.Kept := Runs.run_invariant (fun _ _ _ hw ht ↦ kept_step hw ht) kept_init h
  obtain ⟨log, number, hsent, -, hnumbered⟩ := hkept.numbered
  obtain ⟨before', between', after', rfl, hreceived⟩ := returned_split hreturned
  obtain ⟨place, ha, hb⟩ := (hkept.follows r hr).places hreceived
  rw [hsent, List.getElem?_map] at ha hb
  obtain ⟨⟨first, _⟩, hfirst, rfl⟩ := Option.map_eq_some_iff.mp ha
  obtain ⟨⟨second, _⟩, hsecond, rfl⟩ := Option.map_eq_some_iff.mp hb
  obtain ⟨hle, hnumber⟩ := hnumbered.ordered _ _ _ _ (by omega) hfirst hsecond
  have hmarka := hnumbered.marked _ (List.mem_of_getElem? hfirst)
  have hmarkb := hnumbered.marked _ (List.mem_of_getElem? hsecond)
  refine ⟨first.connection, second.connection, hmarka.1, hmarkb.1, hle,
    (hnumbered.latest _ _ hsecond).1, fun hsame hgap ↦ ?_⟩
  have hplace := hnumber hsame
  rw [sum_width_of_no_gap hgap] at hplace
  rw [hmarka.2, hmarkb.2, Nat.add_assoc, Nat.mod_add_mod]
  congr 1
  dsimp only at hplace ⊢
  omega

/-- Over every run: the messages of a receiver come in the order of their connections, and between
two of one connection a gap is reported or every number was returned. An epoch is the number of
its connection in 64 bits; as long as these do not overflow, epochs tell connections apart. -/
theorem receivers_notice {ops : List WireOp} {r : Receiver InboundItem}
    {before between after : List (Except ManagedReceiveError (ManagedInbound ServerMessage))}
    {a b : ManagedInbound ServerMessage} (h : Wire.after config ops = some w)
    (hr : r ∈ w.receivers)
    (hreturned : returned r = before ++ .ok a :: (between ++ .ok b :: after)) :
    (∃ first second, a.connectionEpoch = first % 2 ^ 64 ∧ b.connectionEpoch = second % 2 ^ 64 ∧
      first ≤ second ∧ second ≤ w.opened ∧
      (first = second → (∀ x ∈ between, isGap x = false) →
        b.sequence = (a.sequence + between.countP Except.isOk + 1) % 2 ^ 64)) ∧
    (w.opened < 2 ^ 64 → a.connectionEpoch ≤ b.connectionEpoch ∧
      (a.connectionEpoch = b.connectionEpoch → (∀ x ∈ between, isGap x = false) →
        b.sequence = (a.sequence + between.countP Except.isOk + 1) % 2 ^ 64)) := by
  have hall := returned_in_order h hr hreturned
  refine ⟨hall, fun hopened ↦ ?_⟩
  obtain ⟨first, second, hfirst, hsecond, hle, hlast, hsequence⟩ := hall
  rw [Nat.mod_eq_of_lt (by omega)] at hfirst hsecond
  rw [hfirst, hsecond]
  exact ⟨hle, hsequence⟩

/-- A handshake message and a message, then a frame that cannot be read, and a message of the next
connection. -/
def twoConnections : List WireOp :=
  [.session (.task .connect), .handshake .pong, .session (.task (.authenticate .authenticated)),
    .session (.task (.establish .ready)), .session (.branch (.read (.message .push))),
    .session (.branch (.read (.unreadable none))), .session (.branch (.read .closed)),
    .session (.task (.finish 50)), .session (.tick (millis 250)),
    .session (.task .windowElapsed), .session (.task .connect), .handshake .pong, .recv 0,
    .recv 0, .recv 0, .recv 0]

theorem receivers_notice_twoConnections :
    ∃ w r, Wire.after sampleConfig twoConnections = some w ∧ w.opened = 2 ∧
      r ∈ w.receivers ∧
      returned r = [] ++ .ok ⟨1, 1, 0, .pong⟩ :: ([] ++ .ok ⟨1, 2, 0, .push⟩ ::
        [.error (.gap 1), .ok ⟨2, 1, millis 250, .pong⟩]) ∧
      2 = (1 + 0 + 1) % 2 ^ 64 := by
  obtain ⟨w, r, hrun, hopened, hr, hreturned⟩ : ∃ w r,
      Wire.after sampleConfig twoConnections = some w ∧ w.opened = 2 ∧
      r ∈ w.receivers ∧
      returned r = [] ++ .ok ⟨1, 1, 0, .pong⟩ :: ([] ++ .ok ⟨1, 2, 0, .push⟩ ::
        [.error (.gap 1), .ok ⟨2, 1, millis 250, .pong⟩]) :=
    ⟨_, _, rfl, rfl, List.mem_cons_self, rfl⟩
  refine ⟨w, r, hrun, hopened, hr, hreturned, ?_⟩
  have hsmall : w.opened < 2 ^ 64 := by
    rw [hopened]
    decide
  exact ((receivers_notice hrun hr hreturned).2 hsmall).2 rfl (List.forall_mem_nil _)

end Wire

end MakerSdk.Session
