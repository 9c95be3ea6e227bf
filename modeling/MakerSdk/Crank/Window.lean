import Mathlib.Data.List.Induction
import MakerSdk.Crank.Capital

namespace MakerSdk.Crank

/-- Whether the window was open at the last look, and the instant of the first look that found it
so. -/
structure WindowTracker where
  state : Option (Bool × ℕ)
deriving DecidableEq

namespace WindowTracker

def new : WindowTracker := ⟨none⟩

/-- Instants are in nanoseconds, and their difference saturates at zero. -/
def observe (tracker : WindowTracker) (isOpen : Bool) (now : ℕ) : WindowTracker × WindowClock :=
  let (tracker, since) :=
    match tracker.state with
    | some (wasOpen, since) =>
      if wasOpen = isOpen then (tracker, since) else (⟨some (isOpen, now)⟩, now)
    | none => (⟨some (isOpen, now)⟩, now)
  let held := now - since
  (tracker, if isOpen then ⟨some held, none⟩ else ⟨none, some held⟩)

def after (looks : List (Bool × ℕ)) : WindowTracker :=
  looks.foldl (fun tracker look ↦ (tracker.observe look.1 look.2).1) new

end WindowTracker

/-- The looks end with a spell in which the window was always found so; it starts at `start`, and
the look before it found otherwise. -/
def Spell (looks : List (Bool × ℕ)) (isOpen : Bool) (start : ℕ) : Prop :=
  ∃ before later, looks = before ++ (isOpen, start) :: later ∧ (∀ look ∈ later, look.1 = isOpen) ∧
    ∀ look ∈ before.getLast?, look.1 ≠ isOpen

section Spells

variable {looks : List (Bool × ℕ)} {isOpen seen : Bool} {start now : ℕ}

theorem spell_concat : Spell (looks ++ [(seen, now)]) isOpen start ↔
    isOpen = seen ∧
      (Spell looks seen start ∨ start = now ∧ ∀ look ∈ looks.getLast?, look.1 ≠ seen) := by
  constructor
  · rintro ⟨before, later, hlooks, hlater, hbefore⟩
    cases later using List.reverseRecOn with
    | nil =>
      obtain ⟨rfl, hlook⟩ := List.append_inj' hlooks rfl
      cases hlook
      exact ⟨rfl, .inr ⟨rfl, hbefore⟩⟩
    | append_singleton later look =>
      rw [← List.cons_append, ← List.append_assoc] at hlooks
      obtain ⟨rfl, hlook⟩ := List.append_inj' hlooks rfl
      cases hlook
      obtain ⟨hlater, hseen⟩ := List.forall_mem_append.mp hlater
      obtain rfl : seen = isOpen := hseen _ List.mem_cons_self
      exact ⟨rfl, .inl ⟨before, later, rfl, hlater, hbefore⟩⟩
  · rintro ⟨rfl, ⟨before, later, rfl, hlater, hbefore⟩ | ⟨rfl, hlast⟩⟩
    · refine ⟨before, later ++ [(isOpen, now)], by simp, ?_, hbefore⟩
      exact List.forall_mem_append.mpr ⟨hlater, by simp⟩
    · exact ⟨looks, [], rfl, List.forall_mem_nil _, hlast⟩

def WindowTracker.since (tracker : WindowTracker) (seen : Bool) (now : ℕ) : ℕ :=
  match tracker.state with
  | some (was, since) => if was = seen then since else now
  | none => now

theorem observe_eq (tracker : WindowTracker) :
    tracker.observe seen now = (⟨some (seen, tracker.since seen now)⟩,
      if seen then ⟨some (now - tracker.since seen now), none⟩
      else ⟨none, some (now - tracker.since seen now)⟩) := by
  obtain ⟨_ | ⟨was, since⟩⟩ := tracker
  · rfl
  · by_cases h : was = seen
    · subst h
      simp [WindowTracker.observe, WindowTracker.since]
    · simp [WindowTracker.observe, WindowTracker.since, h]

theorem after_concat : WindowTracker.after (looks ++ [(seen, now)]) =
    ⟨some (seen, (WindowTracker.after looks).since seen now)⟩ := by
  rw [WindowTracker.after, List.foldl_append, List.foldl_cons, observe_eq]
  rfl

theorem state_found : (WindowTracker.after looks).state.map Prod.fst =
    looks.getLast?.map Prod.fst := by
  cases looks using List.reverseRecOn with
  | nil => rfl
  | append_singleton looks look =>
    rw [after_concat, List.getLast?_concat]
    rfl

theorem state_after : (WindowTracker.after looks).state = some (isOpen, start) ↔
    Spell looks isOpen start := by
  induction looks using List.reverseRecOn generalizing isOpen start with
  | nil =>
    refine ⟨fun h ↦ (by cases h), fun h ↦ ?_⟩
    obtain ⟨before, later, h, -⟩ := h
    simp at h
  | append_singleton looks look ih =>
    obtain ⟨seen, now⟩ := look
    have hlast : (∀ look ∈ looks.getLast?, look.1 ≠ seen) ↔
        (WindowTracker.after looks).state.map Prod.fst ≠ some seen := by
      rw [state_found]
      cases looks.getLast? <;> simp
    rw [spell_concat, after_concat, ← ih, hlast, Option.some_inj, Prod.mk.injEq,
      eq_comm (a := seen)]
    refine and_congr_right fun _ ↦ ?_
    unfold WindowTracker.since
    cases hstate : (WindowTracker.after looks).state with
    | none => simp [eq_comm]
    | some state =>
      obtain ⟨was, since⟩ := state
      by_cases hwas : was = seen
      · simp [hwas]
      · simpa [hwas] using eq_comm

end Spells

theorem nextStep_window {view : VaultView} {window : WindowClock} {policy : WindowPolicy}
    (hsafety : view.safety = .normal) (hphase : view.phase = .idle) (hquiet : ¬view.Pending) :
    view.nextStep window policy =
      if view.acceptingDeposits then
        if window.openFor.any (policy.depositWindow ≤ ·) then some .closeDeposits else none
      else if policy.reopen ∧ ¬view.equityComputed ∧
          window.closedFor.any (policy.tradingWindow ≤ ·) then some .openDeposits
      else none := by
  have hdeposits : ¬0 < view.pendingDeposits := fun h ↦ hquiet (.inl h)
  have hwithdrawals : ¬0 < view.pendingWithdrawals := fun h ↦ hquiet (.inr h)
  simp only [VaultView.nextStep, VaultView.choose, hsafety, hphase, hquiet, hdeposits,
    hwithdrawals, reduceCtorEq, and_false, or_false, if_false, and_self, not_true_eq_false,
    not_false_eq_true, true_and, if_true]
  split
  · split <;> simp
  · split <;> simp

/-- Over every sequence of looks at an idle vault without requests, the crank closes and opens the
deposit window exactly when the spell it was found open, or closed, is long enough. -/
theorem window_turns {looks : List (Bool × ℕ)} {view : VaultView} {policy : WindowPolicy} {now : ℕ}
    (hsafety : view.safety = .normal) (hphase : view.phase = .idle) (hquiet : ¬view.Pending) :
    let clock := ((WindowTracker.after looks).observe view.acceptingDeposits now).2
    ∃ start, Spell (looks ++ [(view.acceptingDeposits, now)]) view.acceptingDeposits start ∧
      (∀ step, view.nextStep clock policy = some step →
        step = .closeDeposits ∨ step = .openDeposits) ∧
      (view.nextStep clock policy = some .closeDeposits ↔
        view.acceptingDeposits = true ∧ policy.depositWindow ≤ now - start) ∧
      (view.nextStep clock policy = some .openDeposits ↔
        view.acceptingDeposits = false ∧ policy.tradingWindow ≤ now - start ∧
          policy.reopen = true ∧ view.equityComputed = false) := by
  intro clock
  obtain ⟨start, hstart⟩ :
      ∃ start, (WindowTracker.after looks).since view.acceptingDeposits now = start := ⟨_, rfl⟩
  have hclock : clock = _ := congrArg Prod.snd (observe_eq (WindowTracker.after looks))
  refine ⟨start, state_after.mp (by rw [after_concat, hstart]), ?_⟩
  rw [nextStep_window hsafety hphase hquiet, hclock, hstart]
  cases view.acceptingDeposits with
  | true => by_cases hlong : policy.depositWindow ≤ now - start <;> simp [hlong]
  | false =>
    by_cases hlong : policy.tradingWindow ≤ now - start
    · cases policy.reopen <;> cases view.equityComputed <;> simp [hlong]
    · simp [hlong]

theorem window_turns_close :
    ∃ start, Spell [(false, 1), (true, 5), (true, 8), (true, 10)] true start ∧ start = 5 ∧
      VaultView.nextStep ⟨.idle, .normal, false, true, 0, 0, ⟨0, none⟩⟩
        ((WindowTracker.after [(false, 1), (true, 5), (true, 8)]).observe true 10).2
        ⟨true, 4, 60⟩ = some .closeDeposits := by
  obtain ⟨start, hspell, -, hclose, -⟩ := @window_turns [(false, 1), (true, 5), (true, 8)]
    ⟨.idle, .normal, false, true, 0, 0, ⟨0, none⟩⟩ ⟨true, 4, 60⟩ 10 rfl rfl (by decide)
  have hstate : some (true, start) = some (true, 5) := (state_after.mpr hspell).symm
  cases hstate
  exact ⟨5, hspell, rfl, hclose.mpr ⟨rfl, by decide⟩⟩

end MakerSdk.Crank
