import MakerSdk.Session.Subscriptions

namespace MakerSdk.Session

/-- What matters to the subscription target: a change whose frame entered a lane, a frame that was
written, a message read, a connection lost. -/
inductive TargetEvent where
  | entered (ticket : ℕ) (change : SubscriptionChange) (frame : PreparedClientMessage)
  | written (ticket : ℕ) (frame : PreparedClientMessage) (instant : Instant)
  | heard (message : ServerMessage)
  | lost

inductive Fate where
  | pending | acknowledged | rejected | lost
deriving DecidableEq

def ServerMessage.verdict (id : Uuid) : ServerMessage → Fate
  | subscribeAck other | unsubscribeAck other | subscriptionUpdated other =>
    if id = other then .acknowledged else .pending
  | requestError other _ _ => if id = other then .rejected else .pending
  | _ => .pending

namespace TargetEvent

def verdict (id : Uuid) : TargetEvent → Fate
  | heard message => message.verdict id
  | lost => .lost
  | entered _ _ _ | written _ _ _ => .pending

def receipt (ticket : ℕ) : TargetEvent → List (PreparedClientMessage × Instant)
  | written other frame instant => if other = ticket then [(frame, instant)] else []
  | _ => []

end TargetEvent

def fate (id : Uuid) : List TargetEvent → Fate
  | [] => .pending
  | event :: after => if event.verdict id = .pending then fate id after else event.verdict id

/-- A change that entered a lane, with what became of it and the receipts under its ticket. -/
structure Filed where
  ticket : ℕ
  change : SubscriptionChange
  frame : PreparedClientMessage
  fate : Fate
  written : List (PreparedClientMessage × Instant)

def filed : List TargetEvent → List Filed
  | [] => []
  | .entered ticket change frame :: after =>
    ⟨ticket, change, frame, fate change.requestId after,
      after.flatMap (TargetEvent.receipt ticket)⟩ :: filed after
  | _ :: after => filed after

def intended (initial : SubscriptionSet) (changes : List Filed) : SubscriptionSet :=
  ((changes.filter (·.fate ≠ .rejected)).map Filed.change).foldl SubscriptionSet.apply initial

def unanswered (changes : List Filed) : List Filed := changes.filter (·.fate = .pending)

namespace Filed

def meet (event : TargetEvent) (entry : Filed) : Filed :=
  { entry with
    fate := if entry.fate = .pending then event.verdict entry.change.requestId else entry.fate
    written := entry.written ++ event.receipt entry.ticket }

theorem meet_fate_of_settled {event : TargetEvent} {entry : Filed} (h : entry.fate ≠ .pending) :
    (entry.meet event).fate = entry.fate := if_neg h

theorem meet_fate_of_pending {event : TargetEvent} {entry : Filed} (h : entry.fate = .pending) :
    (entry.meet event).fate = event.verdict entry.change.requestId := if_pos h

end Filed

theorem fate_concat {id : Uuid} {after : List TargetEvent} {event : TargetEvent} :
    fate id (after ++ [event]) =
      if fate id after = .pending then event.verdict id else fate id after := by
  induction after with
  | nil =>
    simp only [List.nil_append, fate, if_true]
    split <;> simp_all
  | cons e after ih =>
    simp only [List.cons_append, fate, ih]
    split <;> simp_all

def TargetEvent.files : TargetEvent → List Filed
  | .entered ticket change frame => [⟨ticket, change, frame, .pending, []⟩]
  | _ => []

theorem filed_concat {history : List TargetEvent} {event : TargetEvent} :
    filed (history ++ [event]) = (filed history).map (Filed.meet event) ++ event.files := by
  induction history with
  | nil => cases event <;> rfl
  | cons e history ih =>
    cases e with
    | entered ticket change frame =>
      simp [filed, ih, fate_concat, Filed.meet]
    | written | heard | lost => exact ih

theorem DesiredSubscriptions.resolve_eq {desired : DesiredSubscriptions}
    {pending : PendingSubscriptionChange} {message : ServerMessage}
    (h : desired.pending = some pending) :
    desired.resolve message =
      if message.verdict pending.requestId = .pending then desired
      else ⟨if message.verdict pending.requestId = .rejected then pending.previous
        else desired.current, none⟩ := by
  cases message <;> simp only [resolve, rejectPending, h, ServerMessage.verdict, if_true] <;>
    split <;> simp

section Tally

/-- The state of the target agrees with the changes on file: none waits for its answer, or only
the last one does and what was intended before it is kept aside. -/
inductive Tally (initial : SubscriptionSet) : DesiredSubscriptions → List Filed → Prop where
  | settled {entries : List Filed} (h : ∀ entry ∈ entries, entry.fate ≠ .pending) :
    Tally initial ⟨intended initial entries, none⟩ entries
  | waiting {entries : List Filed} {last : Filed} (h : ∀ entry ∈ entries, entry.fate ≠ .pending)
      (hlast : last.fate = .pending) :
    Tally initial
      ⟨(intended initial entries).apply last.change,
        some ⟨last.change.requestId, intended initial entries⟩⟩ (entries ++ [last])

variable {initial : SubscriptionSet} {desired : DesiredSubscriptions} {entries : List Filed}
  {event : TargetEvent} {last : Filed}

theorem intended_concat (h : last.fate ≠ .rejected) :
    intended initial (entries ++ [last]) = (intended initial entries).apply last.change := by
  simp [intended, List.filter_append, h]

theorem intended_rejected (h : last.fate = .rejected) :
    intended initial (entries ++ [last]) = intended initial entries := by
  simp [intended, List.filter_append, h]

theorem intended_meet (h : ∀ entry ∈ entries, entry.fate ≠ .pending) :
    intended initial (entries.map (Filed.meet event)) = intended initial entries := by
  have hfilter : ((entries.map (Filed.meet event)).filter (·.fate ≠ .rejected)).map Filed.change =
      (entries.filter (·.fate ≠ .rejected)).map Filed.change := by
    induction entries with
    | nil => rfl
    | cons entry entries ih =>
      have hentry : (entry.meet event).fate = entry.fate :=
        Filed.meet_fate_of_settled (h entry List.mem_cons_self)
      have hrest := ih (fun e he ↦ h e (List.mem_cons_of_mem _ he))
      rw [List.map_cons, List.filter_cons, List.filter_cons, hentry]
      split
      · rw [List.map_cons, List.map_cons, hrest]
        rfl
      · exact hrest
  rw [intended, intended, hfilter]

theorem settled_meet (h : ∀ entry ∈ entries, entry.fate ≠ .pending) :
    ∀ entry ∈ entries.map (Filed.meet event), entry.fate ≠ .pending := by
  intro entry hmem
  obtain ⟨entry, he, rfl⟩ := List.mem_map.mp hmem
  rw [Filed.meet_fate_of_settled (h entry he)]
  exact h entry he

namespace Tally

theorem current (h : Tally initial desired entries) :
    desired.current = intended initial entries := by
  cases h with
  | settled => rfl
  | waiting h hlast => rw [intended_concat (by simp [hlast])]

theorem unanswered_eq (h : Tally initial desired entries) :
    desired.hasPending = false ∧ unanswered entries = [] ∨
    ∃ last, desired.hasPending = true ∧ entries.getLast? = some last ∧
      unanswered entries = [last] := by
  have hsettled : ∀ {entries : List Filed}, (∀ entry ∈ entries, entry.fate ≠ .pending) →
      unanswered entries = [] := by
    intro entries h
    exact List.filter_eq_nil_iff.mpr fun entry he ↦ by simpa using h entry he
  cases h with
  | settled h => exact .inl ⟨rfl, hsettled h⟩
  | @waiting entries last h hlast =>
    refine .inr ⟨last, rfl, List.getLast?_concat, ?_⟩
    rw [unanswered, List.filter_append, ← unanswered, hsettled h]
    simp [hlast]

theorem begin {ticket : ℕ} {change : SubscriptionChange} {frame : PreparedClientMessage}
    (h : Tally initial desired entries) (hp : desired.hasPending = false) :
    Tally initial (desired.begin change)
      (entries.map (Filed.meet (.entered ticket change frame)) ++
        [⟨ticket, change, frame, .pending, []⟩]) := by
  cases h with
  | settled h =>
    have hw := @Tally.waiting initial (entries.map (Filed.meet (.entered ticket change frame)))
      ⟨ticket, change, frame, .pending, []⟩ (settled_meet h) rfl
    rw [intended_meet h] at hw
    exact hw
  | waiting => cases hp

theorem meet (h : Tally initial desired entries) (hp : ∀ pending, desired.pending = some pending →
      event.verdict pending.requestId = .pending) :
    Tally initial desired (entries.map (Filed.meet event)) := by
  cases h with
  | settled h =>
    have hs := @Tally.settled initial (entries.map (Filed.meet event)) (settled_meet h)
    rw [intended_meet h] at hs
    exact hs
  | @waiting entries last h hlast =>
    have hfate : (last.meet event).fate = .pending := by
      rw [Filed.meet_fate_of_pending hlast]
      exact hp _ rfl
    have hw := @Tally.waiting initial (entries.map (Filed.meet event)) _ (settled_meet h) hfate
    rw [intended_meet h] at hw
    rw [List.map_append]
    exact hw

theorem answer {pending : PendingSubscriptionChange} (h : Tally initial desired entries)
    (hp : desired.pending = some pending) (hv : event.verdict pending.requestId ≠ .pending) :
    Tally initial
      ⟨if event.verdict pending.requestId = .rejected then pending.previous else desired.current,
        none⟩ (entries.map (Filed.meet event)) := by
  cases h with
  | settled => cases hp
  | @waiting entries last h hlast =>
    cases hp
    have hfate : (last.meet event).fate = event.verdict last.change.requestId :=
      Filed.meet_fate_of_pending hlast
    have hall : ∀ entry ∈ (entries ++ [last]).map (Filed.meet event), entry.fate ≠ .pending := by
      rw [List.map_append]
      exact List.forall_mem_append.mpr
        ⟨settled_meet h, List.forall_mem_singleton.mpr (hfate ▸ hv)⟩
    have hs := @Tally.settled initial _ hall
    rw [List.map_append, List.map_singleton] at hs ⊢
    split
    · rename_i hrejected
      rw [intended_rejected (hfate.trans hrejected), intended_meet h] at hs
      exact hs
    · rename_i hkept
      rw [intended_concat (hfate ▸ hkept), intended_meet h] at hs
      exact hs

theorem resolve (h : Tally initial desired entries) (message : ServerMessage) :
    Tally initial (desired.resolve message) (entries.map (Filed.meet (.heard message))) := by
  cases hp : desired.pending with
  | none =>
    have hsame : desired.resolve message = desired := by simp [DesiredSubscriptions.resolve, hp]
    rw [hsame]
    exact h.meet (by simp [hp])
  | some pending =>
    rw [DesiredSubscriptions.resolve_eq hp]
    split
    · rename_i hv
      exact h.meet fun other ho ↦ by cases hp.symm.trans ho; exact hv
    · rename_i hv
      exact @Tally.answer _ _ _ (.heard message) _ h hp hv

theorem lost (h : Tally initial desired entries) :
    Tally initial desired.connectionLost (entries.map (Filed.meet .lost)) := by
  cases hp : desired.pending with
  | none =>
    have hsame : desired.connectionLost = desired := by
      simp [DesiredSubscriptions.connectionLost, ← hp]
    rw [hsame]
    exact h.meet (by simp [hp])
  | some pending => exact @Tally.answer _ _ _ .lost _ h hp (fun h ↦ by cases h)

end Tally

end Tally

end MakerSdk.Session
