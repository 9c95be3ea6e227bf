import Mathlib.Data.List.Forall2
import Mathlib.Tactic.Common

namespace MakerSdk.Base.Checks

variable {ε α β γ : Type}

def refuse (p : Prop) [Decidable p] (e : ε) : Except ε Unit := if p then .error e else .ok ()

def okOr (x : Option α) (e : ε) : Except ε α :=
  match x with
  | some a => .ok a
  | none => .error e

@[simp] theorem refuse_ok {p : Prop} [Decidable p] {e : ε} {u : Unit} :
    refuse p e = .ok u ↔ ¬ p := by
  by_cases h : p <;> simp [refuse, h]

@[simp] theorem okOr_ok {x : Option α} {e : ε} {a : α} : okOr x e = .ok a ↔ x = some a := by
  cases x <;> simp [okOr]

@[simp] theorem bind_ok {x : Except ε α} {f : α → Except ε β} {b : β} :
    (x >>= f) = .ok b ↔ ∃ a, x = .ok a ∧ f a = .ok b := by
  cases x <;> simp [bind, Except.bind]

@[simp] theorem pure_ok {a b : α} : (pure a : Except ε α) = .ok b ↔ a = b := by
  simp [pure, Except.pure]

@[simp] theorem mapError_ok {x : Except ε α} {f : ε → γ} {a : α} :
    x.mapError f = .ok a ↔ x = .ok a := by
  cases x <;> simp [Except.mapError]

theorem bind_error {x : Except ε α} {f : α → Except ε β} {e : ε} :
    (x >>= f) = .error e ↔ x = .error e ∨ ∃ a, x = .ok a ∧ f a = .error e := by
  cases x <;> simp [bind, Except.bind]

theorem mapError_error {x : Except ε α} {f : ε → γ} {e : γ} :
    x.mapError f = .error e ↔ ∃ e', x = .error e' ∧ f e' = e := by
  cases x <;> simp [Except.mapError]

theorem okOr_error {x : Option α} {e e' : ε} : okOr x e = .error e' ↔ x = none ∧ e = e' := by
  cases x <;> simp [okOr]

theorem toOption_ok {x : Except ε α} {a : α} (h : x.toOption = some a) : x = .ok a := by
  cases x <;> cases h
  rfl

theorem mapM_ok {f : α → Except ε β} {l : List α} {l' : List β} :
    l.mapM f = .ok l' ↔ List.Forall₂ (fun a b ↦ f a = .ok b) l l' := by
  induction l generalizing l' with
  | nil =>
    rw [List.mapM_nil, pure_ok, List.forall₂_nil_left_iff]
    exact eq_comm
  | cons a l ih =>
    simp only [List.mapM_cons, bind_ok, pure_ok, ih, List.forall₂_cons_left_iff]
    constructor
    · rintro ⟨b, hb, bs, hbs, rfl⟩
      exact ⟨b, bs, hb, hbs, rfl⟩
    · rintro ⟨b, bs, hb, hbs, rfl⟩
      exact ⟨b, hb, bs, hbs, rfl⟩

theorem filterAuxM_ok {f : α → Except ε Bool} {g : α → Bool} (h : ∀ a b, f a = .ok b → b = g a)
    {l acc l' : List α} (hl : l.filterAuxM f acc = .ok l') : l' = (l.filter g).reverse ++ acc := by
  induction l generalizing acc with
  | nil =>
    cases hl
    rfl
  | cons a l ih =>
    obtain ⟨b, hb, hl⟩ := bind_ok.mp hl
    rw [ih hl, h a b hb]
    cases hg : g a <;> simp [hg]

theorem filterM_ok {f : α → Except ε Bool} {g : α → Bool} (h : ∀ a b, f a = .ok b → b = g a)
    {l l' : List α} (hl : l.filterM f = .ok l') : l' = l.filter g := by
  obtain ⟨kept, hkept, hl⟩ := bind_ok.mp hl
  rw [pure_ok, filterAuxM_ok h hkept] at hl
  simpa using hl.symm

end MakerSdk.Base.Checks
