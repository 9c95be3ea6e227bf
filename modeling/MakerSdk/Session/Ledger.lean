import MakerSdk.Base.Runs
import MakerSdk.Session.System
import Mathlib.Data.Multiset.MapFold
import Mathlib.Data.Multiset.UnionInter
import Mathlib.Data.Set.Insert

namespace MakerSdk.Session

open Base.Runs

def Event.waiter : Event → Option Waiter
  | called tx _ | answered tx _ | abandoned tx | enqueued tx _ => some tx
  | state _ | lifecycle _ | wrote _ _ | read _ | sessionEnded _ | limitReached => none

def Event.publish (current : ManagedWsState) : Event → ManagedWsState
  | state value => value
  | _ => current

def published (history : List Event) : ManagedWsState :=
  history.foldl Event.publish .connecting

def Told (history : List Event) (tx : Waiter) : Prop :=
  ∃ answer : Answer, answer.isError = true ∧ .answered tx answer ∈ history

def Built (history : List Event) (ticket : Waiter × Option ℕ) : Prop :=
  ∃ first call last, history = first ++ .called ticket.1 call :: last ∧
    call.connectionEpoch (published first) = .ok ticket.2

def Silent (history : List Event) (tx : Waiter) : Prop :=
  ∀ event ∈ history, event.waiter = some tx → ∃ call, event = .called tx call

def Accounted (history : List Event) (tx : Waiter) : Prop :=
  (∃ epoch, .enqueued tx epoch ∈ history) ∨ .abandoned tx ∈ history ∨ Told history tx

section Histories

variable {history events : List Event} {tx : Waiter} {ticket : Waiter × Option ℕ}

theorem published_append :
    published (history ++ events) = events.foldl Event.publish (published history) :=
  List.foldl_append

theorem Told.append (h : Told history tx) : Told (history ++ events) tx := by
  obtain ⟨answer, he, hm⟩ := h
  exact ⟨answer, he, List.mem_append_left _ hm⟩

theorem Built.append (h : Built history ticket) : Built (history ++ events) ticket := by
  obtain ⟨first, call, last, rfl, hc⟩ := h
  exact ⟨first, call, last ++ events, by simp, hc⟩

theorem Silent.append (h : Silent history tx) (hnew : ∀ event ∈ events, event.waiter ≠ some tx) :
    Silent (history ++ events) tx := by
  intro event he hw
  rcases List.mem_append.mp he with he | he
  · exact h event he hw
  · exact absurd hw (hnew event he)

theorem Accounted.append (h : Accounted history tx) : Accounted (history ++ events) tx := by
  rcases h with ⟨epoch, h⟩ | h | h
  · exact .inl ⟨epoch, List.mem_append_left _ h⟩
  · exact .inr (.inl (List.mem_append_left _ h))
  · exact .inr (.inr h.append)

end Histories

/-- The book kept on the commands of a managed connection: those `waiting` for a session, with the
epoch they are fenced to, and the callers that a session owes an answer. -/
structure Ledger where
  history : List Event
  state : ManagedWsState
  next : Waiter
  waiting : Multiset (Waiter × Option ℕ)
  held : Set Waiter
  gone : Set Waiter

def Event.Aside (held : Set Waiter) : Event → Prop
  | called .. | abandoned _ | enqueued .. => False
  | answered tx answer => tx ∈ held ∧ answer.isRefusal = false
  | state _ | lifecycle _ | wrote .. | read _ | sessionEnded _ | limitReached => True

/-- What may happen to a command: it is refused or waits for an epoch; its caller leaves or runs
out of time; it is turned away, passed over, or enqueued in the epoch it is fenced to. -/
inductive Move : Ledger → Ledger → Prop
  | aside {L : Ledger} {events : List Event} {held : Set Waiter}
      (hevents : ∀ event ∈ events, event.Aside L.held) (hheld : held ⊆ L.held) :
      Move L { L with
        history := L.history ++ events
        state := events.foldl Event.publish L.state
        held }
  | refuse {L : Ledger} {call : Call} {answer : Answer} (herror : answer.isError = true) :
      Move L { L with
        history := L.history ++ [.called L.next call, .answered L.next answer]
        next := L.next + 1 }
  | build {L : Ledger} {call : Call} {epoch : Option ℕ}
      (hepoch : call.connectionEpoch L.state = .ok epoch) :
      Move L { L with
        history := L.history ++ [.called L.next call]
        next := L.next + 1
        waiting := (L.next, epoch) ::ₘ L.waiting }
  | leave {L : Ledger} {tx : Waiter} (htx : tx < L.next) :
      Move L { L with history := L.history ++ [.abandoned tx], gone := insert tx L.gone }
  | expire {L : Ledger} {tx : Waiter} {answer : Answer} (htx : tx < L.next)
      (herror : answer.isError = true) (hrefusal : answer.isRefusal = false) :
      Move L { L with history := L.history ++ [.answered tx answer], gone := insert tx L.gone }
  | turnAway {L : Ledger} {ticket : Waiter × Option ℕ} {rest : Multiset (Waiter × Option ℕ)}
      {answer : Answer} (hwaiting : L.waiting = ticket ::ₘ rest) (herror : answer.isError = true) :
      Move L { L with history := L.history ++ [.answered ticket.1 answer], waiting := rest }
  | pass {L : Ledger} {ticket : Waiter × Option ℕ} {rest : Multiset (Waiter × Option ℕ)}
      (hwaiting : L.waiting = ticket ::ₘ rest) (hgone : ticket.1 ∈ L.gone) :
      Move L { L with waiting := rest }
  | enqueue {L : Ledger} {ticket : Waiter × Option ℕ} {rest : Multiset (Waiter × Option ℕ)}
      {epoch : ℕ} (hwaiting : L.waiting = ticket ::ₘ rest) (hgone : ticket.1 ∉ L.gone)
      (hepoch : ∀ fenced ∈ ticket.2, fenced = epoch) :
      Move L { L with
        history := L.history ++ [.enqueued ticket.1 epoch]
        waiting := rest
        held := insert ticket.1 L.held }

/-- What an event needs to have before it: a call is the first event about its caller, and a frame
or a refusal the first after the call. -/
def Follows (before : List Event) : Event → Prop
  | .called tx _ => ∀ event ∈ before, event.waiter ≠ some tx
  | .enqueued tx epoch =>
    (∃ fenced, Built before (tx, fenced) ∧ ∀ e ∈ fenced, e = epoch) ∧ Silent before tx
  | .answered tx answer => answer.isRefusal = true → ∀ epoch, .enqueued tx epoch ∉ before
  | _ => True

structure Ledger.Sound (L : Ledger) : Prop where
  state : L.state = published L.history
  known : ∀ event ∈ L.history, ∀ tx ∈ event.waiter, tx < L.next
  heldKnown : ∀ tx ∈ L.held, tx < L.next
  waitingKnown : ∀ ticket ∈ L.waiting, ticket.1 < L.next
  nodup : (L.waiting.map Prod.fst).Nodup
  apart : ∀ ticket ∈ L.waiting, ticket.1 ∉ L.held
  built : ∀ ticket ∈ L.waiting, Built L.history ticket
  silent : ∀ ticket ∈ L.waiting, ticket.1 ∉ L.gone → Silent L.history ticket.1
  fresh : ∀ ticket ∈ L.waiting, ∀ epoch, .enqueued ticket.1 epoch ∉ L.history
  gone : ∀ tx ∈ L.gone, .abandoned tx ∈ L.history ∨ Told L.history tx
  settled : ∀ tx call, .called tx call ∈ L.history →
    (∃ ticket ∈ L.waiting, ticket.1 = tx) ∨ Accounted L.history tx
  follows : Justified Follows L.history

namespace Ledger.Sound

variable {L : Ledger}

theorem waiter_ne_next (h : L.Sound) : ∀ event ∈ L.history, event.waiter ≠ some L.next := by
  intro event he hw
  exact (h.known event he L.next hw).false

theorem fresh_append {ticket : Waiter × Option ℕ} {events : List Event} {epoch : ℕ} (h : L.Sound)
    (ht : ticket ∈ L.waiting) (hother : ∀ event ∈ events, event.waiter ≠ some ticket.1) :
    .enqueued ticket.1 epoch ∉ L.history ++ events := by
  intro he
  rcases List.mem_append.mp he with he | he
  · exact h.fresh ticket ht epoch he
  · exact hother _ he rfl

theorem aside (h : L.Sound) {events : List Event} {held : Set Waiter}
    (hevents : ∀ event ∈ events, event.Aside L.held) (hheld : held ⊆ L.held) :
    Ledger.Sound { L with
      history := L.history ++ events
      state := events.foldl Event.publish L.state
      held } := by
  have hwaiter : ∀ event ∈ events, ∀ tx ∈ event.waiter, tx ∈ L.held := by
    intro event he tx htx
    have ha := hevents event he
    cases event with
    | answered tx' answer =>
      cases htx
      exact ha.1
    | called | abandoned | enqueued => exact ha.elim
    | state | lifecycle | wrote | read | sessionEnded | limitReached => cases htx
  have hother : ∀ ticket ∈ L.waiting, ∀ event ∈ events, event.waiter ≠ some ticket.1 := by
    intro ticket ht event he hw
    exact h.apart ticket ht (hwaiter event he ticket.1 hw)
  refine ⟨?_, ?_, fun tx htx ↦ h.heldKnown tx (hheld htx), h.waitingKnown, h.nodup,
    fun ticket ht htx ↦ h.apart ticket ht (hheld htx), fun ticket ht ↦ (h.built ticket ht).append,
    fun ticket ht hg ↦ (h.silent ticket ht hg).append (hother ticket ht),
    fun ticket ht epoch ↦ h.fresh_append ht (hother ticket ht), ?_, ?_, ?_⟩
  · rw [published_append, ← h.state]
  · intro event he tx htx
    rcases List.mem_append.mp he with he | he
    · exact h.known event he tx htx
    · exact h.heldKnown tx (hwaiter event he tx htx)
  · intro tx htx
    exact (h.gone tx htx).imp (List.mem_append_left _) Told.append
  · intro tx call hc
    rcases List.mem_append.mp hc with hc | hc
    · exact (h.settled tx call hc).imp id Accounted.append
    · exact (hevents _ hc).elim
  · apply h.follows.append
    intro event he before
    have ha := hevents event he
    cases event with
    | called | enqueued => exact ha.elim
    | answered tx answer =>
      intro hrefusal
      rw [ha.2] at hrefusal
      cases hrefusal
    | abandoned | state | lifecycle | wrote | read | sessionEnded | limitReached => trivial

theorem known_append {n : ℕ} {events : List Event} (h : L.Sound) (hn : L.next ≤ n)
    (hnew : ∀ event ∈ events, ∀ tx ∈ event.waiter, tx < n) :
    ∀ event ∈ L.history ++ events, ∀ tx ∈ event.waiter, tx < n := by
  intro event he tx htx
  rcases List.mem_append.mp he with he | he
  · exact (h.known event he tx htx).trans_le hn
  · exact hnew event he tx htx

theorem gone_append {events : List Event} (h : L.Sound) :
    ∀ tx ∈ L.gone, .abandoned tx ∈ L.history ++ events ∨ Told (L.history ++ events) tx :=
  fun tx htx ↦ (h.gone tx htx).imp (List.mem_append_left _) Told.append

theorem silent_append {event : Event} {tx : Waiter} {ticket : Waiter × Option ℕ} (h : L.Sound)
    (ht : ticket ∈ L.waiting) (hg : ticket.1 ∉ L.gone) (he : event.waiter = some tx)
    (hne : ticket.1 ≠ tx) : Silent (L.history ++ [event]) ticket.1 := by
  apply (h.silent ticket ht hg).append
  intro event' he' hw
  rw [List.mem_singleton.mp he', he] at hw
  exact hne (Option.some.inj hw).symm

theorem refuse (h : L.Sound) {call : Call} {answer : Answer} (herror : answer.isError = true) :
    Ledger.Sound { L with
      history := L.history ++ [.called L.next call, .answered L.next answer]
      next := L.next + 1 } := by
  have htold : Told (L.history ++ [.called L.next call, .answered L.next answer]) L.next :=
    ⟨answer, herror, by simp⟩
  have hother : ∀ ticket ∈ L.waiting,
      ∀ event ∈ [Event.called L.next call, .answered L.next answer],
        event.waiter ≠ some ticket.1 := by
    intro ticket ht
    have hne := (h.waitingKnown ticket ht).ne'
    simp [Event.waiter, hne]
  refine ⟨?_, ?_, fun tx htx ↦ (h.heldKnown tx htx).trans (Nat.lt_succ_self _),
    fun ticket ht ↦ (h.waitingKnown ticket ht).trans (Nat.lt_succ_self _), h.nodup, h.apart,
    fun ticket ht ↦ (h.built ticket ht).append,
    fun ticket ht hg ↦ (h.silent ticket ht hg).append (hother ticket ht),
    fun ticket ht epoch ↦ h.fresh_append ht (hother ticket ht), h.gone_append, ?_, ?_⟩
  · rw [published_append, ← h.state]
    rfl
  · apply h.known_append (Nat.le_succ _)
    simp [Event.waiter]
  · intro tx call' hc
    rcases List.mem_append.mp hc with hc | hc
    · exact (h.settled tx call' hc).imp id Accounted.append
    · have htx : tx = L.next := by
        simp only [List.mem_cons, Event.called.injEq, reduceCtorEq, List.not_mem_nil,
          or_false] at hc
        exact hc.1
      exact .inr (.inr (.inr (htx ▸ htold)))
  · rw [← List.singleton_append, ← List.append_assoc, justified_concat, justified_concat]
    refine ⟨⟨h.follows, h.waiter_ne_next⟩, fun _ epoch he ↦ ?_⟩
    rcases List.mem_append.mp he with he | he
    · exact h.waiter_ne_next _ he rfl
    · cases List.mem_singleton.mp he

theorem build (h : L.Sound) {call : Call} {epoch : Option ℕ}
    (hepoch : call.connectionEpoch L.state = .ok epoch) :
    Ledger.Sound { L with
      history := L.history ++ [.called L.next call]
      next := L.next + 1
      waiting := (L.next, epoch) ::ₘ L.waiting } := by
  have hnew : L.next ∉ L.waiting.map Prod.fst := by
    intro hm
    obtain ⟨ticket, ht, he⟩ := Multiset.mem_map.mp hm
    exact (h.waitingKnown ticket ht).ne he
  refine ⟨?_, ?_, fun tx htx ↦ (h.heldKnown tx htx).trans (Nat.lt_succ_self _), ?_, ?_, ?_, ?_,
    ?_, ?_, h.gone_append, ?_, ?_⟩
  · rw [published_append, ← h.state]
    rfl
  · apply h.known_append (Nat.le_succ _)
    simp [Event.waiter]
  · intro ticket ht
    rcases Multiset.mem_cons.mp ht with rfl | ht
    · exact Nat.lt_succ_self _
    · exact (h.waitingKnown ticket ht).trans (Nat.lt_succ_self _)
  · rw [Multiset.map_cons, Multiset.nodup_cons]
    exact ⟨hnew, h.nodup⟩
  · intro ticket ht
    rcases Multiset.mem_cons.mp ht with rfl | ht
    · exact fun htx ↦ (h.heldKnown _ htx).false
    · exact h.apart ticket ht
  · intro ticket ht
    rcases Multiset.mem_cons.mp ht with rfl | ht
    · exact ⟨L.history, call, [], rfl, by rw [← h.state]; exact hepoch⟩
    · exact (h.built ticket ht).append
  · intro ticket ht hg
    rcases Multiset.mem_cons.mp ht with rfl | ht
    · intro event he hw
      rcases List.mem_append.mp he with he | he
      · exact absurd hw (h.waiter_ne_next event he)
      · exact ⟨call, List.mem_singleton.mp he⟩
    · exact h.silent_append ht hg rfl (h.waitingKnown ticket ht).ne
  · intro ticket ht epoch he
    rcases List.mem_append.mp he with he | he
    · rcases Multiset.mem_cons.mp ht with rfl | ht
      · exact h.waiter_ne_next _ he rfl
      · exact h.fresh ticket ht epoch he
    · cases List.mem_singleton.mp he
  · intro tx call' hc
    rcases List.mem_append.mp hc with hc | hc
    · refine (h.settled tx call' hc).imp ?_ Accounted.append
      rintro ⟨ticket, ht, rfl⟩
      exact ⟨ticket, Multiset.mem_cons_of_mem ht, rfl⟩
    · cases List.mem_singleton.mp hc
      exact .inl ⟨_, Multiset.mem_cons_self _ _, rfl⟩
  · rw [justified_concat]
    exact ⟨h.follows, h.waiter_ne_next⟩

theorem depart (h : L.Sound) {tx : Waiter} {event : Event} (htx : tx < L.next)
    (hevent : event = .abandoned tx ∨ ∃ answer : Answer, answer.isError = true ∧
      answer.isRefusal = false ∧ event = .answered tx answer) :
    Ledger.Sound { L with history := L.history ++ [event], gone := insert tx L.gone } := by
  have hwaiter : event.waiter = some tx := by
    rcases hevent with rfl | ⟨answer, -, -, rfl⟩ <;> rfl
  have hpublish : event.publish L.state = L.state := by
    rcases hevent with rfl | ⟨answer, -, -, rfl⟩ <;> rfl
  have hgone : .abandoned tx ∈ L.history ++ [event] ∨ Told (L.history ++ [event]) tx := by
    rcases hevent with rfl | ⟨answer, he, -, rfl⟩
    · exact .inl (by simp)
    · exact .inr ⟨answer, he, by simp⟩
  refine ⟨?_, ?_, h.heldKnown, h.waitingKnown, h.nodup, h.apart,
    fun ticket ht ↦ (h.built ticket ht).append, ?_, ?_, ?_, ?_, ?_⟩
  · rw [published_append, ← h.state]
    exact hpublish.symm
  · apply h.known_append le_rfl
    intro event' he tx' htx'
    rw [List.mem_singleton.mp he, hwaiter] at htx'
    cases htx'
    exact htx
  · intro ticket ht hg
    rw [Set.mem_insert_iff, not_or] at hg
    exact h.silent_append ht hg.2 hwaiter hg.1
  · intro ticket ht epoch he
    rcases List.mem_append.mp he with he | he
    · exact h.fresh ticket ht epoch he
    · rcases hevent with rfl | ⟨answer, -, -, rfl⟩ <;> cases List.mem_singleton.mp he
  · intro tx' htx'
    rcases Set.mem_insert_iff.mp htx' with rfl | htx'
    · exact hgone
    · exact h.gone_append tx' htx'
  · intro tx' call hc
    rcases List.mem_append.mp hc with hc | hc
    · exact (h.settled tx' call hc).imp id Accounted.append
    · rcases hevent with rfl | ⟨answer, -, -, rfl⟩ <;> cases List.mem_singleton.mp hc
  · rw [justified_concat]
    refine ⟨h.follows, ?_⟩
    rcases hevent with rfl | ⟨answer, -, hrefusal, rfl⟩
    · trivial
    · intro h
      rw [hrefusal] at h
      cases h

section Taken

variable {ticket : Waiter × Option ℕ} {rest : Multiset (Waiter × Option ℕ)}

theorem rest_nodup (h : L.Sound) (hw : L.waiting = ticket ::ₘ rest) :
    (rest.map Prod.fst).Nodup ∧ ∀ other ∈ rest, other.1 ≠ ticket.1 := by
  have hn := h.nodup
  rw [hw, Multiset.map_cons, Multiset.nodup_cons] at hn
  refine ⟨hn.2, fun other ho he ↦ hn.1 ?_⟩
  rw [← he]
  exact Multiset.mem_map_of_mem _ ho

theorem mem_of_rest (hw : L.waiting = ticket ::ₘ rest) {other : Waiter × Option ℕ}
    (ho : other ∈ rest) : other ∈ L.waiting := by
  rw [hw]
  exact Multiset.mem_cons_of_mem ho

theorem mem_self (hw : L.waiting = ticket ::ₘ rest) : ticket ∈ L.waiting := by
  rw [hw]
  exact Multiset.mem_cons_self _ _

theorem settled_rest (h : L.Sound) (hw : L.waiting = ticket ::ₘ rest) {events : List Event}
    (ha : Accounted (L.history ++ events) ticket.1) {tx : Waiter} {call : Call}
    (hc : .called tx call ∈ L.history) :
    (∃ other ∈ rest, other.1 = tx) ∨ Accounted (L.history ++ events) tx := by
  rcases h.settled tx call hc with ⟨other, ho, rfl⟩ | hacc
  · rw [hw] at ho
    rcases Multiset.mem_cons.mp ho with rfl | ho
    · exact .inr ha
    · exact .inl ⟨other, ho, rfl⟩
  · exact .inr hacc.append

theorem pass (h : L.Sound) (hw : L.waiting = ticket ::ₘ rest) (hgone : ticket.1 ∈ L.gone) :
    Ledger.Sound { L with waiting := rest } := by
  have haccounted : Accounted (L.history ++ []) ticket.1 := by
    rw [List.append_nil]
    exact .inr (h.gone ticket.1 hgone)
  refine ⟨h.state, h.known, h.heldKnown, fun other ho ↦ h.waitingKnown other (mem_of_rest hw ho),
    (h.rest_nodup hw).1, fun other ho ↦ h.apart other (mem_of_rest hw ho),
    fun other ho ↦ h.built other (mem_of_rest hw ho),
    fun other ho ↦ h.silent other (mem_of_rest hw ho),
    fun other ho ↦ h.fresh other (mem_of_rest hw ho), h.gone, ?_, h.follows⟩
  intro tx call hc
  simpa using h.settled_rest hw haccounted hc

theorem take (h : L.Sound) (hw : L.waiting = ticket ::ₘ rest) {event : Event} {held : Set Waiter}
    (hwaiter : event.waiter = some ticket.1) (hpublish : event.publish L.state = L.state)
    (hcall : ∀ call, event ≠ .called ticket.1 call)
    (hheld : held ⊆ insert ticket.1 L.held)
    (haccounted : Accounted (L.history ++ [event]) ticket.1)
    (hfollows : Follows L.history event) :
    Ledger.Sound { L with history := L.history ++ [event], waiting := rest, held } := by
  refine ⟨?_, ?_, ?_, fun other ho ↦ h.waitingKnown other (mem_of_rest hw ho),
    (h.rest_nodup hw).1, ?_, fun other ho ↦ (h.built other (mem_of_rest hw ho)).append, ?_, ?_,
    h.gone_append, ?_, ?_⟩
  · rw [published_append, ← h.state]
    exact hpublish.symm
  · apply h.known_append le_rfl
    intro event' he tx htx
    rw [List.mem_singleton.mp he, hwaiter] at htx
    cases htx
    exact h.waitingKnown ticket (mem_self hw)
  · intro tx htx
    rcases Set.mem_insert_iff.mp (hheld htx) with rfl | htx
    · exact h.waitingKnown ticket (mem_self hw)
    · exact h.heldKnown tx htx
  · intro other ho htx
    rcases Set.mem_insert_iff.mp (hheld htx) with he | htx
    · exact (h.rest_nodup hw).2 other ho he
    · exact h.apart other (mem_of_rest hw ho) htx
  · intro other ho hg
    exact h.silent_append (mem_of_rest hw ho) hg hwaiter ((h.rest_nodup hw).2 other ho)
  · intro other ho epoch
    apply h.fresh_append (mem_of_rest hw ho)
    intro event' he hother
    rw [List.mem_singleton.mp he, hwaiter] at hother
    exact (h.rest_nodup hw).2 other ho (Option.some.inj hother).symm
  · intro tx call hc
    rcases List.mem_append.mp hc with hc | hc
    · exact h.settled_rest hw haccounted hc
    · have he := List.mem_singleton.mp hc
      rw [← he] at hwaiter
      cases hwaiter
      exact absurd he.symm (hcall call)
  · rw [justified_concat]
    exact ⟨h.follows, hfollows⟩

theorem turnAway (h : L.Sound) (hw : L.waiting = ticket ::ₘ rest) {answer : Answer}
    (herror : answer.isError = true) :
    Ledger.Sound { L with
      history := L.history ++ [.answered ticket.1 answer]
      waiting := rest } := by
  refine h.take hw rfl rfl (fun call he ↦ by cases he) (Set.subset_insert _ _) ?_ ?_
  · exact .inr (.inr ⟨answer, herror, by simp⟩)
  · exact fun _ epoch ↦ h.fresh ticket (mem_self hw) epoch

theorem enqueue (h : L.Sound) (hw : L.waiting = ticket ::ₘ rest) {epoch : ℕ}
    (hgone : ticket.1 ∉ L.gone) (hepoch : ∀ fenced ∈ ticket.2, fenced = epoch) :
    Ledger.Sound { L with
      history := L.history ++ [.enqueued ticket.1 epoch]
      waiting := rest
      held := insert ticket.1 L.held } := by
  apply h.take hw rfl rfl (fun call he ↦ by cases he) (fun _ htx ↦ htx)
  · exact .inl ⟨epoch, by simp⟩
  · exact ⟨⟨ticket.2, h.built ticket (mem_self hw), hepoch⟩, h.silent ticket (mem_self hw) hgone⟩

end Taken

end Ledger.Sound

theorem Move.sound {L L' : Ledger} (hm : Move L L') (h : L.Sound) : L'.Sound := by
  cases hm with
  | aside hevents hheld => exact h.aside hevents hheld
  | refuse herror => exact h.refuse herror
  | build hepoch => exact h.build hepoch
  | leave htx => exact h.depart htx (.inl rfl)
  | expire htx herror hrefusal => exact h.depart htx (.inr ⟨_, herror, hrefusal, rfl⟩)
  | turnAway hwaiting herror => exact h.turnAway hwaiting herror
  | pass hwaiting hgone => exact h.pass hwaiting hgone
  | enqueue hwaiting hgone hepoch => exact h.enqueue hwaiting hgone hepoch

theorem Move.history_prefix {L L' : Ledger} (hm : Move L L') : L.history <+: L'.history := by
  cases hm with
  | pass => exact List.prefix_rfl
  | aside | refuse | build | leave | expire | turnAway | enqueue => exact List.prefix_append _ _

theorem Ledger.history_prefix {L L' : Ledger} (hm : Relation.ReflTransGen Move L L') :
    L.history <+: L'.history := by
  induction hm with
  | refl => exact List.prefix_rfl
  | tail _ hm ih => exact ih.trans hm.history_prefix

theorem Ledger.Sound.moves {L L' : Ledger} (h : L.Sound)
    (hm : Relation.ReflTransGen Move L L') : L'.Sound := by
  induction hm with
  | refl => exact h
  | tail _ hm ih => exact hm.sound ih

end MakerSdk.Session
