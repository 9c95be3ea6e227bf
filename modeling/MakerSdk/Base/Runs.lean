import Mathlib.Data.List.Induction
import Mathlib.Logic.Relation
import Mathlib.Tactic.Common

namespace MakerSdk.Base.Runs

variable {σ τ ι : Type}

/-- The state after a list of steps; `none` where one of them is not enabled. -/
def run (step : σ → ι → Option σ) : σ → List ι → Option σ
  | s, [] => some s
  | s, l :: ls => (step s l).bind (fun t ↦ run step t ls)

def noted {ε : Type} (step : σ → ι → Option σ) (note : σ → ι → List ε) : σ → List ι → List ε
  | _, [] => []
  | s, l :: ls => note s l ++ (step s l).elim [] (fun t ↦ noted step note t ls)

/-- Every step of the run meets `Q` in the state it is taken from. -/
def Along (step : σ → ι → Option σ) (Q : σ → ι → Prop) : σ → List ι → Prop
  | _, [] => True
  | s, l :: ls => Q s l ∧ ∀ t, step s l = some t → Along step Q t ls

section Rules

variable {step : σ → ι → Option σ} {s u : σ} {ls : List ι}

theorem run_cons {l : ι} :
    run step s (l :: ls) = some u ↔ ∃ t, step s l = some t ∧ run step t ls = some u := by
  rw [run, Option.bind_eq_some_iff]

theorem run_append {ls' : List ι} :
    run step s (ls ++ ls') = some u ↔ ∃ t, run step s ls = some t ∧ run step t ls' = some u := by
  induction ls generalizing s with
  | nil => simp [run]
  | cons l ls ih =>
    rw [List.cons_append, run_cons]
    constructor
    · rintro ⟨t, ht, hu⟩
      obtain ⟨t', ht', hu⟩ := ih.mp hu
      exact ⟨t', run_cons.mpr ⟨t, ht, ht'⟩, hu⟩
    · rintro ⟨t', ht', hu⟩
      obtain ⟨t, ht, ht'⟩ := run_cons.mp ht'
      exact ⟨t, ht, ih.mpr ⟨t', ht', hu⟩⟩

theorem run_concat {t : σ} {l : ι} (h : run step s ls = some t) (ht : step t l = some u) :
    run step s (ls ++ [l]) = some u :=
  run_append.mpr ⟨t, h, run_cons.mpr ⟨u, ht, rfl⟩⟩

theorem run_invariant_along {Q : σ → ι → Prop} {I : σ → Prop}
    (hstep : ∀ s l t, Q s l → I s → step s l = some t → I t)
    (hs : I s) (hq : Along step Q s ls) (h : run step s ls = some u) : I u := by
  induction ls generalizing s with
  | nil =>
    cases h
    exact hs
  | cons l ls ih =>
    obtain ⟨t, ht, hu⟩ := run_cons.mp h
    apply ih (hstep s l t hq.1 hs ht) _ hu
    exact hq.2 t ht

theorem along_of_mem {Q : σ → ι → Prop} (hq : ∀ l ∈ ls, ∀ s, Q s l) : Along step Q s ls := by
  induction ls generalizing s with
  | nil => trivial
  | cons l ls ih =>
    obtain ⟨hl, hls⟩ := List.forall_mem_cons.mp hq
    exact ⟨hl s, fun _ _ ↦ ih hls⟩

theorem along_of_forall {Q : σ → ι → Prop} (hq : ∀ s l, Q s l) : Along step Q s ls :=
  along_of_mem fun l _ s ↦ hq s l

def alongCheck (step : σ → ι → Option σ) (q : σ → ι → Bool) : σ → List ι → Bool
  | _, [] => true
  | s, l :: ls => q s l && (step s l).all (fun t ↦ alongCheck step q t ls)

theorem along_of_check {q : σ → ι → Bool} (h : alongCheck step q s ls = true) :
    Along step (fun s l ↦ q s l = true) s ls := by
  induction ls generalizing s with
  | nil => trivial
  | cons l ls ih =>
    obtain ⟨hq, ht⟩ := Bool.and_eq_true_iff.mp h
    refine ⟨hq, fun t hs ↦ ih ?_⟩
    rw [hs] at ht
    exact ht

theorem run_invariant {I : σ → Prop} (hstep : ∀ s l t, I s → step s l = some t → I t)
    (hs : I s) (h : run step s ls = some u) : I u := by
  have hq : Along step (fun _ _ ↦ True) s ls := along_of_forall (fun _ _ ↦ trivial)
  exact run_invariant_along (fun s l t _ ↦ hstep s l t) hs hq h

theorem run_invariant_noted {ε : Type} {note : σ → ι → List ε} {I : σ → List ε → Prop}
    {history : List ε} (hstep : ∀ s l t history, I s history → step s l = some t →
      I t (history ++ note s l))
    (hs : I s history) (h : run step s ls = some u) : I u (history ++ noted step note s ls) := by
  induction ls generalizing s history with
  | nil =>
    cases h
    simpa [noted] using hs
  | cons l ls ih =>
    obtain ⟨t, ht, hu⟩ := run_cons.mp h
    rw [noted, ht, Option.elim_some, ← List.append_assoc]
    exact ih (hstep s l t history hs ht) hu

/-- A forward simulation: where each step of the run is answered by moves of an abstract system
that restore the relation, the whole run is. -/
theorem run_simulates {R : σ → τ → Prop} {move : τ → τ → Prop} {a : τ}
    (hstep : ∀ s a l t, R s a → step s l = some t → ∃ b, Relation.ReflTransGen move a b ∧ R t b)
    (hs : R s a) (h : run step s ls = some u) : ∃ b, Relation.ReflTransGen move a b ∧ R u b := by
  induction ls generalizing s a with
  | nil =>
    cases h
    exact ⟨a, .refl, hs⟩
  | cons l ls ih =>
    obtain ⟨t, ht, hu⟩ := run_cons.mp h
    obtain ⟨b, hab, hb⟩ := hstep s a l t hs ht
    obtain ⟨c, hbc, hc⟩ := ih hb hu
    exact ⟨c, hab.trans hbc, hc⟩

end Rules

section Histories

variable {α : Type} {Φ : List α → α → Prop} {l l' : List α} {x : α}

/-- Every entry of a history is admissible after the entries before it. -/
def Justified (Φ : List α → α → Prop) (l : List α) : Prop :=
  ∀ before x after, l = before ++ x :: after → Φ before x

theorem split_cases {before before' after after' : List α} {y : α}
    (h : before ++ x :: after = before' ++ y :: after') :
    (before = before' ∧ x = y ∧ after = after') ∨
      (∃ between, before' = before ++ x :: between ∧ after = between ++ y :: after') ∨
      ∃ between, before = before' ++ y :: between ∧ after' = between ++ x :: after := by
  rcases List.append_eq_append_iff.mp h with ⟨between, hb, ha⟩ | ⟨between, hb, ha⟩
  · cases between with
    | nil =>
      cases ha
      exact .inl ⟨by simp [hb], rfl, rfl⟩
    | cons z between =>
      cases ha
      exact .inr (.inl ⟨between, hb, rfl⟩)
  · cases between with
    | nil =>
      cases ha
      exact .inl ⟨by simp [hb], rfl, rfl⟩
    | cons z between =>
      cases ha
      exact .inr (.inr ⟨between, hb, rfl⟩)

theorem justified_nil : Justified Φ [] := by
  intro before x after h
  simp at h

theorem justified_concat : Justified Φ (l ++ [x]) ↔ Justified Φ l ∧ Φ l x := by
  constructor
  · intro h
    refine ⟨fun before y after hl ↦ ?_, h l x [] rfl⟩
    apply h before y (after ++ [x])
    rw [hl, List.append_assoc, List.cons_append]
  · rintro ⟨hl, hx⟩ before y after h
    rcases List.eq_nil_or_concat after with rfl | ⟨after, z, rfl⟩
    · obtain ⟨rfl, hy⟩ := List.append_inj' h rfl
      cases hy
      exact hx
    · rw [List.concat_eq_append, ← List.cons_append, ← List.append_assoc] at h
      obtain ⟨rfl, -⟩ := List.append_inj' h rfl
      exact hl before y after rfl

theorem Justified.append (h : Justified Φ l) (hl' : ∀ x ∈ l', ∀ before, Φ (l ++ before) x) :
    Justified Φ (l ++ l') := by
  induction l' using List.reverseRecOn with
  | nil => simpa using h
  | append_singleton l' x ih =>
    rw [← List.append_assoc, justified_concat]
    refine ⟨ih (fun y hy ↦ hl' y (by simp [hy])), hl' x (by simp) _⟩

end Histories

end MakerSdk.Base.Runs
