import MakerSdk.Base.Runs
import Mathlib.Algebra.Ring.Nat

namespace MakerSdk.Base.Broadcast

open Runs

variable {α : Type}

/-- What a receiver of a broadcast channel gets: an item, the number of items it was too slow for,
or the end of the channel. -/
inductive Received (α : Type) where
  | item (value : α)
  | lagged (skipped : ℕ)
  | closed

namespace Received

def width : Received α → ℕ
  | item _ => 1
  | lagged skipped => skipped
  | closed => 0

def isItem : Received α → Bool
  | item _ => true
  | _ => false

def isLag : Received α → Bool
  | lagged _ => true
  | _ => false

end Received

/-- A receiver: the place of the channel at which it subscribed, and what it got since. -/
structure Receiver (α : Type) where
  start : ℕ
  received : List (Received α)

namespace Receiver

variable {sent more : List α} {r r' : Receiver α}

def position (r : Receiver α) : ℕ := r.start + (r.received.map Received.width).sum

def get (r : Receiver α) (received : Received α) : Receiver α :=
  { r with received := r.received ++ [received] }

def subscribe (sent : List α) : Receiver α := ⟨sent.length, []⟩

def recv (r : Receiver α) (sent : List α) : Option (Receiver α) :=
  sent[r.position]?.map fun value ↦ r.get (.item value)

def lag (r : Receiver α) (sent : List α) (skipped : ℕ) : Option (Receiver α) :=
  if 0 < skipped ∧ r.position + skipped ≤ sent.length then some (r.get (.lagged skipped)) else none

def close (r : Receiver α) (sent : List α) : Option (Receiver α) :=
  if r.position = sent.length then some (r.get .closed) else none

/-- An item comes from the place that what came before it leads to. -/
def Placed (sent : List α) (start : ℕ) (before : List (Received α)) : Received α → Prop
  | .item value => sent[start + (before.map Received.width).sum]? = some value
  | _ => True

def Follows (r : Receiver α) (sent : List α) : Prop := Justified (Placed sent r.start) r.received

theorem follows_subscribe : (subscribe sent).Follows sent := justified_nil

theorem Follows.recv (h : r.Follows sent) (hr : r.recv sent = some r') : r'.Follows sent := by
  obtain ⟨value, hvalue, rfl⟩ := Option.map_eq_some_iff.mp hr
  exact justified_concat.mpr ⟨h, hvalue⟩

theorem Follows.lag {skipped : ℕ} (h : r.Follows sent) (hr : r.lag sent skipped = some r') :
    r'.Follows sent := by
  obtain ⟨-, hr⟩ := Option.ite_none_right_eq_some.mp hr
  cases hr
  exact justified_concat.mpr ⟨h, trivial⟩

theorem Follows.close (h : r.Follows sent) (hr : r.close sent = some r') : r'.Follows sent := by
  obtain ⟨-, hr⟩ := Option.ite_none_right_eq_some.mp hr
  cases hr
  exact justified_concat.mpr ⟨h, trivial⟩

theorem Follows.append (h : r.Follows sent) : r.Follows (sent ++ more) := by
  intro before x after hsplit
  have hx := h before x after hsplit
  cases x with
  | item value => exact (List.getElem?_append_left (List.getElem?_eq_some_iff.mp hx).1).trans hx
  | lagged | closed => trivial

theorem Follows.places {before between after : List (Received α)} {a b : α} (h : r.Follows sent)
    (hr : r.received = before ++ .item a :: (between ++ .item b :: after)) :
    ∃ place, sent[place]? = some a ∧
      sent[place + 1 + (between.map Received.width).sum]? = some b := by
  refine ⟨_, h before _ _ hr, ?_⟩
  have hb := h (before ++ .item a :: between) (.item b) after (by simp [hr])
  simpa [Placed, Received.width, Nat.add_assoc] using hb

end Receiver

theorem sum_width {l : List (Received α)} (h : ∀ x ∈ l, x.isLag = false) :
    (l.map Received.width).sum = l.countP Received.isItem := by
  induction l with
  | nil => rfl
  | cons x l ih =>
    obtain ⟨hx, hl⟩ := List.forall_mem_cons.mp h
    rw [List.map_cons, List.sum_cons, ih hl, List.countP_cons]
    cases x with
    | item => exact Nat.add_comm ..
    | lagged => cases hx
    | closed => exact Nat.zero_add _

end MakerSdk.Base.Broadcast
