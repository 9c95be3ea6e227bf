import MakerSdk.Vault.Manager

namespace MakerSdk.Crank

open Vault

inductive CapitalStep where
  | closeDeposits
  | openDeposits
  | computeEquity
  | processWithdrawals
  | processDeposits
  | finalizeCycle
deriving DecidableEq

/-- For how long, in nanoseconds, the deposit window has been open or closed. -/
structure WindowClock where
  openFor : Option ℕ
  closedFor : Option ℕ

structure WindowPolicy where
  reopen : Bool
  depositWindow : ℕ
  tradingWindow : ℕ

structure VaultView where
  phase : VaultPhase
  safety : VaultSafety
  equityComputed : Bool
  acceptingDeposits : Bool
  pendingDeposits : UInt32
  pendingWithdrawals : UInt32
  staging : VaultStagingState
deriving DecidableEq

namespace VaultView

def Pending (view : VaultView) : Prop := 0 < view.pendingDeposits ∨ 0 < view.pendingWithdrawals

instance (view : VaultView) : Decidable view.Pending :=
  inferInstanceAs (Decidable (_ ∨ _))

def processingStep (view : VaultView) : CapitalStep :=
  if ¬view.equityComputed then .computeEquity
  else if view.safety = .normal ∧ 0 < view.pendingDeposits then .processDeposits
  else if 0 < view.pendingWithdrawals then .processWithdrawals
  else .finalizeCycle

/-- The arms in the order of the source: the first that applies decides. -/
def choose (view : VaultView) (window : WindowClock) (policy : WindowPolicy) :
    Option CapitalStep :=
  if view.safety = .withdrawOnly ∧ view.phase = .idle ∧ 0 < view.pendingWithdrawals then
    some .processWithdrawals
  else if (view.safety = .frozen ∨ view.safety = .closing ∨ view.safety = .withdrawOnly) ∧
      0 < view.pendingDeposits then
    some .processDeposits
  else if (view.safety = .normal ∨ view.safety = .frozen) ∧ view.phase = .processingCapital then
    some view.processingStep
  else if view.safety = .frozen ∧ view.phase = .idle ∧ 0 < view.pendingWithdrawals then
    some (if view.equityComputed then .processWithdrawals else .computeEquity)
  else if ¬(view.safety = .normal ∧ view.phase = .idle) then none
  else if ¬view.Pending ∧ view.acceptingDeposits then
    if window.openFor.any (policy.depositWindow ≤ ·) then some .closeDeposits else none
  else if ¬view.Pending then
    if policy.reopen ∧ ¬view.equityComputed ∧
        window.closedFor.any (policy.tradingWindow ≤ ·) then some .openDeposits
    else none
  else if view.acceptingDeposits then some .closeDeposits
  else if ¬view.equityComputed then some .computeEquity
  else if 0 < view.pendingDeposits then some .processDeposits
  else some .processWithdrawals

def nextStep (view : VaultView) (window : WindowClock) (policy : WindowPolicy) :
    Option CapitalStep :=
  let step := view.choose window policy
  if view.staging.openSlot.isSome ∧ (step = some .computeEquity ∨ step = some .finalizeCycle) then
    none
  else step

end VaultView

/-- What a confirmed step makes of the vault, while no request arrives. -/
inductive Effect : CapitalStep → VaultView → VaultView → Prop
  | closeDeposits (s : VaultView) : Effect .closeDeposits s { s with acceptingDeposits := false }
  | openDeposits (s : VaultView) : Effect .openDeposits s { s with acceptingDeposits := true }
  | computeEquity {s : VaultView} {phase : VaultPhase}
      (hphase : phase = s.phase ∨ s.phase = .idle ∧ phase = .processingCapital) :
      Effect .computeEquity s { s with equityComputed := true, phase }
  | processDeposits {s : VaultView} {phase : VaultPhase} {pending : UInt32}
      (hphase : phase = s.phase ∨ s.phase = .idle ∧ phase = .processingCapital)
      (hpending : pending < s.pendingDeposits) :
      Effect .processDeposits s { s with pendingDeposits := pending, phase }
  | processWithdrawals {s : VaultView} {phase : VaultPhase} {pending : UInt32}
      (hphase : phase = s.phase ∨ s.phase = .idle ∧ phase = .processingCapital)
      (hpending : pending < s.pendingWithdrawals) :
      Effect .processWithdrawals s { s with pendingWithdrawals := pending, phase }
  | finalizeCycle (s : VaultView) :
      Effect .finalizeCycle s { s with equityComputed := false, phase := .idle }

/-- The crank takes the step chosen at some clock under some policy. -/
def Turns (s t : VaultView) : Prop :=
  ∃ window policy step, s.nextStep window policy = some step ∧ Effect step s t

inductive Cranked (s : VaultView) : ℕ → VaultView → Prop
  | zero : Cranked s 0 s
  | turn {n : ℕ} {t u : VaultView} : Cranked s n t → Turns t u → Cranked s (n + 1) u

structure Workable (s : VaultView) : Prop where
  safety : s.safety = .normal
  phase : s.phase = .idle ∨ s.phase = .processingCapital
  slot : s.staging.openSlot = none

inductive Chosen (s : VaultView) : CapitalStep → Prop
  | closeDeposits (hphase : s.phase = .idle) (haccepting : s.acceptingDeposits = true) :
      Chosen s .closeDeposits
  | openDeposits (hpending : ¬s.Pending) : Chosen s .openDeposits
  | computeEquity (hequity : s.equityComputed = false)
      (haccepting : s.phase = .idle → s.acceptingDeposits = false) : Chosen s .computeEquity
  | processDeposits (hequity : s.equityComputed = true) (hpending : 0 < s.pendingDeposits) :
      Chosen s .processDeposits
  | processWithdrawals (hequity : s.equityComputed = true) (hdeposits : s.pendingDeposits = 0)
      (hpending : 0 < s.pendingWithdrawals) : Chosen s .processWithdrawals
  | finalizeCycle (hpending : ¬s.Pending) : Chosen s .finalizeCycle

section Steps

variable {s t : VaultView} {window : WindowClock} {policy : WindowPolicy} {step : CapitalStep}

theorem eq_zero_of_not_pos {n : UInt32} (h : ¬0 < n) : n = 0 := by
  rw [UInt32.not_lt, UInt32.le_iff_toNat_le, UInt32.toNat_zero, Nat.le_zero] at h
  exact UInt32.toNat_inj.mp h

theorem nextStep_processing (h : Workable s) (hphase : s.phase = .processingCapital) :
    s.nextStep window policy = some s.processingStep := by
  simp [VaultView.nextStep, VaultView.choose, h.safety, h.slot, hphase]

theorem nextStep_idle (h : Workable s) (hphase : s.phase = .idle) (hpending : s.Pending) :
    s.nextStep window policy = some (if s.acceptingDeposits then .closeDeposits
      else if ¬s.equityComputed then .computeEquity
      else if 0 < s.pendingDeposits then .processDeposits else .processWithdrawals) := by
  simp only [VaultView.nextStep, VaultView.choose, h.safety, h.slot, hphase, hpending]
  simp only [reduceCtorEq, false_and, or_false, and_false, if_false, not_true_eq_false,
    Option.isSome_none, Bool.false_eq_true, or_self, and_self]
  split
  · rfl
  split
  · rfl
  split <;> rfl

theorem nextStep_quiet (h : Workable s) (hphase : s.phase = .idle) (hpending : ¬s.Pending)
    (hstep : s.nextStep window policy = some step) :
    step = .closeDeposits ∧ s.acceptingDeposits = true ∨ step = .openDeposits := by
  simp only [VaultView.nextStep, VaultView.choose, h.safety, h.slot, hphase, hpending] at hstep
  simp only [reduceCtorEq, false_and, or_false, and_false, if_false, not_true_eq_false,
    Option.isSome_none, Bool.false_eq_true, or_self, and_self, not_false_eq_true, true_and,
    if_true] at hstep
  split at hstep
  · rename_i haccepting
    split at hstep <;> cases hstep
    exact .inl ⟨rfl, haccepting⟩
  · split at hstep <;> cases hstep
    exact .inr rfl

theorem chosen_processing (hsafety : s.safety = .normal) (hphase : s.phase = .processingCapital) :
    Chosen s s.processingStep := by
  unfold VaultView.processingStep
  split
  · rename_i hequity
    exact .computeEquity (Bool.not_eq_true _ ▸ hequity) fun h ↦ by rw [hphase] at h; cases h
  rename_i hequity
  rw [Bool.not_eq_true, Bool.not_eq_false] at hequity
  split
  · rename_i hdeposits
    exact .processDeposits hequity hdeposits.2
  rename_i hdeposits
  have hdeposits : ¬0 < s.pendingDeposits := fun h ↦ hdeposits ⟨hsafety, h⟩
  split
  · rename_i hwithdrawals
    exact .processWithdrawals hequity (eq_zero_of_not_pos hdeposits) hwithdrawals
  · rename_i hwithdrawals
    exact .finalizeCycle (not_or.mpr ⟨hdeposits, hwithdrawals⟩)

theorem chosen_idle (h : Workable s) (hphase : s.phase = .idle)
    (hstep : s.nextStep window policy = some step) : Chosen s step := by
  by_cases hpending : s.Pending
  · rw [nextStep_idle h hphase hpending, Option.some_inj] at hstep
    subst hstep
    split
    · rename_i haccepting
      exact .closeDeposits hphase haccepting
    rename_i haccepting
    split
    · rename_i hequity
      exact .computeEquity (Bool.not_eq_true _ ▸ hequity) fun _ ↦ Bool.not_eq_true _ ▸ haccepting
    rename_i hequity
    rw [Bool.not_eq_true, Bool.not_eq_false] at hequity
    split
    · rename_i hdeposits
      exact .processDeposits hequity hdeposits
    · rename_i hdeposits
      exact .processWithdrawals hequity (eq_zero_of_not_pos hdeposits)
        (hpending.resolve_left hdeposits)
  · rcases nextStep_quiet h hphase hpending hstep with ⟨rfl, haccepting⟩ | rfl
    · exact .closeDeposits hphase haccepting
    · exact .openDeposits hpending

theorem nextStep_chosen (h : Workable s) (hstep : s.nextStep window policy = some step) :
    Chosen s step := by
  rcases h.phase with hphase | hphase
  · exact chosen_idle h hphase hstep
  · rw [nextStep_processing h hphase, Option.some_inj] at hstep
    exact hstep ▸ chosen_processing h.safety hphase

theorem exists_nextStep (h : Workable s) (hpending : s.Pending) :
    ∃ step, s.nextStep window policy = some step := by
  rcases h.phase with hphase | hphase
  · exact ⟨_, nextStep_idle h hphase hpending⟩
  · exact ⟨_, nextStep_processing h hphase⟩

theorem Chosen.exists_effect (h : Chosen s step) : ∃ t, Effect step s t := by
  cases h with
  | closeDeposits => exact ⟨_, .closeDeposits s⟩
  | openDeposits => exact ⟨_, .openDeposits s⟩
  | computeEquity => exact ⟨_, .computeEquity (.inl rfl)⟩
  | processDeposits hequity hpending => exact ⟨_, .processDeposits (.inl rfl) hpending⟩
  | processWithdrawals hequity hdeposits hpending =>
    exact ⟨_, .processWithdrawals (.inl rfl) hpending⟩
  | finalizeCycle => exact ⟨_, .finalizeCycle s⟩

theorem Effect.workable (h : Workable s) (heffect : Effect step s t) : Workable t := by
  have hphase : ∀ {phase}, phase = s.phase ∨ s.phase = .idle ∧ phase = .processingCapital →
      phase = .idle ∨ phase = VaultPhase.processingCapital := by
    rintro phase (rfl | ⟨-, rfl⟩)
    · exact h.phase
    · exact .inr rfl
  cases heffect with
  | closeDeposits | openDeposits => exact ⟨h.safety, h.phase, h.slot⟩
  | computeEquity hmoved => exact ⟨h.safety, hphase hmoved, h.slot⟩
  | processDeposits hmoved | processWithdrawals hmoved =>
    exact ⟨h.safety, hphase hmoved, h.slot⟩
  | finalizeCycle => exact ⟨h.safety, .inl rfl, h.slot⟩

theorem Effect.not_pending (heffect : Effect step s t) (h : ¬s.Pending) : ¬t.Pending := by
  cases heffect with
  | processDeposits hmoved hpending =>
    exact absurd (UInt32.lt_of_le_of_lt UInt32.zero_le hpending) (not_or.mp h).1
  | processWithdrawals hmoved hpending =>
    exact absurd (UInt32.lt_of_le_of_lt UInt32.zero_le hpending) (not_or.mp h).2
  | _ => exact h

def VaultView.windowRank (s : VaultView) : ℕ :=
  if s.phase = .idle ∧ s.acceptingDeposits then 1 else 0

/-- A bound on the turns still ahead: two for the window and the equity, one for each request. -/
def VaultView.rank (s : VaultView) : ℕ :=
  s.pendingDeposits.toNat + s.pendingWithdrawals.toNat + (if s.equityComputed then 0 else 1) +
    s.windowRank

theorem windowRank_le {phase : VaultPhase}
    (hphase : phase = s.phase ∨ s.phase = .idle ∧ phase = .processingCapital)
    (ht : t.phase = phase) (haccepting : t.acceptingDeposits = s.acceptingDeposits) :
    t.windowRank ≤ s.windowRank := by
  unfold VaultView.windowRank
  rcases hphase with rfl | ⟨-, rfl⟩
  · exact Nat.le_of_eq (by rw [ht, haccepting])
  · simp [ht]

theorem Effect.rank_lt (hchosen : Chosen s step) (hpending : s.Pending)
    (heffect : Effect step s t) : t.rank < s.rank := by
  cases heffect with
  | closeDeposits =>
    cases hchosen with
    | closeDeposits hphase haccepting =>
      simp [VaultView.rank, VaultView.windowRank, hphase, haccepting]
  | openDeposits =>
    cases hchosen with
    | openDeposits hnone => exact absurd hpending hnone
  | finalizeCycle =>
    cases hchosen with
    | finalizeCycle hnone => exact absurd hpending hnone
  | @computeEquity _ phase hmoved =>
    cases hchosen with
    | computeEquity hequity haccepting =>
      have hle := windowRank_le (t := { s with equityComputed := true, phase }) hmoved rfl rfl
      simp only [VaultView.rank, hequity, if_true, Bool.false_eq_true, if_false]
      omega
  | @processDeposits _ phase pending hmoved hlt =>
    have hle := windowRank_le (t := { s with pendingDeposits := pending, phase }) hmoved rfl rfl
    rw [UInt32.lt_iff_toNat_lt] at hlt
    simp only [VaultView.rank]
    omega
  | @processWithdrawals _ phase pending hmoved hlt =>
    have hle := windowRank_le (t := { s with pendingWithdrawals := pending, phase }) hmoved rfl rfl
    rw [UInt32.lt_iff_toNat_lt] at hlt
    simp only [VaultView.rank]
    omega

theorem rank_le : s.rank ≤ s.pendingDeposits.toNat + s.pendingWithdrawals.toNat + 2 := by
  unfold VaultView.rank VaultView.windowRank
  split <;> split <;> omega

end Steps

section Runs

variable {s t : VaultView} {n : ℕ}

theorem Cranked.workable (h : Workable s) (hrun : Cranked s n t) : Workable t := by
  induction hrun with
  | zero => exact h
  | turn _ hturn ih =>
    obtain ⟨window, policy, step, -, heffect⟩ := hturn
    exact heffect.workable ih

theorem Cranked.rank_add_le (h : Workable s) (hrun : Cranked s n t) (hpending : t.Pending) :
    t.rank + n ≤ s.rank := by
  induction hrun with
  | zero => exact Nat.le_refl _
  | @turn n t u hrun hturn ih =>
    obtain ⟨window, policy, step, hstep, heffect⟩ := hturn
    have hbefore : t.Pending := by
      by_contra hnone
      exact heffect.not_pending hnone hpending
    have hlt := heffect.rank_lt (nextStep_chosen (hrun.workable h) hstep) hbefore
    have hle := ih hbefore
    omega

theorem Cranked.not_pending (h : Workable s) (hrun : Cranked s n t)
    (hn : s.pendingDeposits.toNat + s.pendingWithdrawals.toNat + 2 ≤ n) : ¬t.Pending := by
  intro hpending
  have hle := hrun.rank_add_le h hpending
  have hstart : s.rank ≤ _ := rank_le
  have hpos : 0 < t.rank := by
    unfold VaultView.rank
    rcases hpending with hpos | hpos
    all_goals
      rw [UInt32.lt_iff_toNat_lt, UInt32.toNat_zero] at hpos
      omega
  omega

end Runs

/-- The capital crank makes bounded and well-ordered progress on a normal vault: after two turns
more than there are requests nothing is pending. -/
theorem crank_progress :
    (∀ start : VaultView, start.safety = .normal →
      (start.phase = .idle ∨ start.phase = .processingCapital) →
      start.staging.openSlot = none → start.Pending →
      ∀ n s, Cranked start n s →
        (start.pendingDeposits.toNat + start.pendingWithdrawals.toNat + 2 ≤ n → ¬s.Pending) ∧
        (s.Pending → ∀ window policy, ∃ step t, s.nextStep window policy = some step ∧
          Effect step s t) ∧
        ∀ window policy step, s.nextStep window policy = some step →
          (step = .processDeposits ∨ step = .processWithdrawals → s.equityComputed = true) ∧
          (step = .computeEquity → s.phase = .idle → s.acceptingDeposits = false) ∧
          (step = .processWithdrawals → s.pendingDeposits = 0) ∧
          (step = .finalizeCycle → ¬s.Pending)) ∧
    ∀ (s : VaultView) window policy, s.staging.openSlot ≠ none →
      s.nextStep window policy ≠ some .computeEquity ∧
        s.nextStep window policy ≠ some .finalizeCycle := by
  constructor
  · intro start hsafety hphase hslot _ n s hrun
    have hstart : Workable start := ⟨hsafety, hphase, hslot⟩
    have hs := hrun.workable hstart
    refine ⟨hrun.not_pending hstart, fun hpending window policy ↦ ?_,
      fun window policy step hstep ↦ ?_⟩
    · obtain ⟨step, hstep⟩ := exists_nextStep hs hpending
      obtain ⟨t, ht⟩ := (nextStep_chosen hs hstep).exists_effect
      exact ⟨step, t, hstep, ht⟩
    · cases nextStep_chosen hs hstep <;> simp_all
  · intro s window policy hslot
    have hsome : s.staging.openSlot.isSome := Option.isSome_iff_ne_none.mpr hslot
    constructor
    · intro h
      simp only [VaultView.nextStep, hsome, true_and] at h
      split at h
      · cases h
      · rename_i hother
        exact hother (.inl h)
    · intro h
      simp only [VaultView.nextStep, hsome, true_and] at h
      split at h
      · cases h
      · rename_i hother
        exact hother (.inr h)

section Sample

def sampleView : VaultView := ⟨.idle, .normal, false, true, 1, 0, ⟨0, none⟩⟩

def sampleProcessed : VaultView :=
  { sampleView with acceptingDeposits := false, equityComputed := true, pendingDeposits := 0 }

theorem sampleView_cranked : Cranked sampleView 3 sampleProcessed := by
  let clock : WindowClock := ⟨none, none⟩
  let policy : WindowPolicy := ⟨false, 0, 0⟩
  let closed : VaultView := { sampleView with acceptingDeposits := false }
  let computed : VaultView := { closed with equityComputed := true }
  have hclose : Turns sampleView closed :=
    ⟨clock, policy, .closeDeposits, by decide, .closeDeposits sampleView⟩
  have hcompute : Turns closed computed :=
    ⟨clock, policy, .computeEquity, by decide, .computeEquity (.inl rfl)⟩
  have hprocess : Turns computed sampleProcessed :=
    ⟨clock, policy, .processDeposits, by decide, .processDeposits (.inl rfl) (by decide)⟩
  exact .turn (.turn (.turn .zero hclose) hcompute) hprocess

theorem crank_progress_deposit : Cranked sampleView 3 sampleProcessed ∧ ¬sampleProcessed.Pending :=
  ⟨sampleView_cranked, (crank_progress.1 sampleView rfl (.inl rfl) rfl (by decide) 3 _
    sampleView_cranked).1 (by decide)⟩

end Sample

end MakerSdk.Crank
