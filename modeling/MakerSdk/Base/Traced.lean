import Mathlib.Tactic.Common

namespace MakerSdk.Base

variable {σ ω ε γ α β : Type}

/-- A fallible computation over a hidden state, with the events it notes down on the way. -/
def Traced (σ ω ε α : Type) : Type := σ → Except ε α × List ω × σ

namespace Traced

instance : Monad (Traced σ ω ε) where
  pure a := fun s ↦ (.ok a, [], s)
  bind x f := fun s ↦
    match x s with
    | (.error e, log, s') => (.error e, log, s')
    | (.ok a, log, s') => let (result, log', s'') := f a s'; (result, log ++ log', s'')

def fail (e : ε) : Traced σ ω ε α := fun s ↦ (.error e, [], s)

def ofExcept (x : Except ε α) : Traced σ ω ε α := fun s ↦ (x, [], s)

def modifyGet (f : σ → α × σ) : Traced σ ω ε α := fun s ↦ (.ok (f s).1, [], (f s).2)

def act (note : Except ε α → ω) (f : σ → Except ε α × σ) : Traced σ ω ε α := fun s ↦
  let (result, s') := f s; (result, [note result], s')

/-- An interaction whose failure does not end the computation. -/
def attempt (note : Except γ α → ω) (f : σ → Except γ α × σ) : Traced σ ω ε (Except γ α) := fun s ↦
  let (result, s') := f s; (.ok result, [note result], s')

def mapError (f : ε → γ) (x : Traced σ ω ε α) : Traced σ ω γ α := fun s ↦
  let (result, log, s') := x s; (result.mapError f, log, s')

/-- From every state, the events of the computation and its result satisfy `Q`. -/
def Ensures (x : Traced σ ω ε α) (Q : List ω → Except ε α → Prop) : Prop :=
  ∀ s, Q (x s).2.1 (x s).1

/-- The same, with the states before and after. -/
def Leads (x : Traced σ ω ε α) (Q : σ → List ω → Except ε α → σ → Prop) : Prop :=
  ∀ s, Q s (x s).2.1 (x s).1 (x s).2.2

variable {x : Traced σ ω ε α} {f : α → Traced σ ω ε β} {Q : List ω → Except ε α → Prop}
  {R : List ω → Except ε β → Prop}

theorem ensures_pure {a : α} (h : Q [] (.ok a)) : Ensures (pure a : Traced σ ω ε α) Q :=
  fun _ ↦ h

theorem ensures_fail {e : ε} (h : Q [] (.error e)) : Ensures (fail e : Traced σ ω ε α) Q :=
  fun _ ↦ h

theorem ofExcept_ok_bind (a : α) : (ofExcept (.ok a) >>= f) = f a := rfl

theorem ofExcept_bind_cases (y : Except ε α) (f : α → Traced σ ω ε β) :
    (∃ e, y = .error e ∧ (ofExcept y >>= f) = fail e) ∨
      ∃ a, y = .ok a ∧ (ofExcept y >>= f) = f a := by
  cases y with
  | error e => exact .inl ⟨e, rfl, rfl⟩
  | ok a => exact .inr ⟨a, rfl, rfl⟩

theorem act_bind_cases (note : Except ε α → ω) (g : σ → Except ε α × σ) (f : α → Traced σ ω ε β)
    (s : σ) :
    (∃ e, (g s).1 = .error e ∧ (act note g >>= f) s = (.error e, [note (.error e)], (g s).2)) ∨
      ∃ a, (g s).1 = .ok a ∧ (act note g >>= f) s = ((f a (g s).2).1,
        note (.ok a) :: (f a (g s).2).2.1, (f a (g s).2).2.2) := by
  simp only [Bind.bind, act]
  cases (g s).1 with
  | error e => exact .inl ⟨e, rfl, rfl⟩
  | ok a => exact .inr ⟨a, rfl, rfl⟩

theorem bind_pure_run (g : α → β) (s : σ) :
    (x >>= fun a ↦ pure (g a)) s = ((x s).1.map g, (x s).2.1, (x s).2.2) := by
  simp only [Bind.bind, Pure.pure]
  rcases x s with ⟨(e | a), log, s'⟩
  · rfl
  · simp only [List.append_nil, Except.map]

theorem modifyGet_bind (g : σ → α × σ) (s : σ) : (modifyGet g >>= f) s = f (g s).1 (g s).2 := rfl

theorem ensures_act {note : Except ε α → ω} {f : σ → Except ε α × σ}
    (h : ∀ result, Q [note result] result) : Ensures (act note f) Q :=
  fun _ ↦ h _

theorem Ensures.mono {R : List ω → Except ε α → Prop} (h : Ensures x Q)
    (hQ : ∀ log result, Q log result → R log result) : Ensures x R :=
  fun s ↦ hQ _ _ (h s)

theorem Ensures.bind (hx : Ensures x Q) (herror : ∀ log e, Q log (.error e) → R log (.error e))
    (hf : ∀ log a, Q log (.ok a) → Ensures (f a) fun log' result ↦ R (log ++ log') result) :
    Ensures (x >>= f) R := by
  intro s
  have h := hx s
  simp only [Bind.bind]
  rcases hrun : x s with ⟨(e | a), log, s'⟩
  · rw [hrun] at h
    exact herror log e h
  · rw [hrun] at h
    exact hf log a h s'

theorem ensures_act_bind {note : Except ε α → ω} {g : σ → Except ε α × σ}
    (herror : ∀ e, R [note (.error e)] (.error e))
    (hf : ∀ a, Ensures (f a) fun log result ↦ R (note (.ok a) :: log) result) :
    Ensures (act note g >>= f) R := by
  refine Ensures.bind (ensures_act (Q := fun log result ↦ log = [note result]) fun _ ↦ rfl)
    (fun log e h ↦ ?_) (fun log a h ↦ ?_)
  · rw [h]
    exact herror e
  · rw [h]
    exact hf a

theorem ensures_attempt_bind {note : Except γ α → ω} {g : σ → Except γ α × σ}
    {f : Except γ α → Traced σ ω ε β}
    (hf : ∀ a, Ensures (f a) fun log result ↦ R (note a :: log) result) :
    Ensures (attempt note g >>= f) R := by
  refine Ensures.bind (Q := fun log result ↦ ∃ a, result = .ok a ∧ log = [note a])
    (fun s ↦ ⟨_, rfl, rfl⟩) (fun log e h ↦ ?_) (fun log a h ↦ ?_)
  · obtain ⟨a, ha, -⟩ := h
    cases ha
  · obtain ⟨a', ha, rfl⟩ := h
    cases ha
    exact hf a

theorem Ensures.mapError {g : ε → γ} {Q : List ω → Except γ α → Prop}
    (h : Ensures x fun log result ↦ Q log (result.mapError g)) : Ensures (mapError g x) Q :=
  h

section Leads

variable {Q : σ → List ω → Except ε α → σ → Prop} {R : σ → List ω → Except ε β → σ → Prop}
  {F : α → σ → List ω → Except ε β → σ → Prop}

theorem leads_pure {a : α} (h : ∀ s, Q s [] (.ok a) s) : Leads (pure a : Traced σ ω ε α) Q := h

theorem leads_ofExcept_bind {y : Except ε α}
    (herror : ∀ e, y = .error e → ∀ s, R s [] (.error e) s)
    (hf : ∀ a, y = .ok a → Leads (f a) R) : Leads (ofExcept y >>= f) R := by
  intro s
  cases y with
  | error e => exact herror e rfl s
  | ok a => exact hf a rfl s

theorem Leads.mono {Q' : σ → List ω → Except ε α → σ → Prop} (h : Leads x Q)
    (hQ : ∀ s log result s', Q s log result s' → Q' s log result s') : Leads x Q' :=
  fun s ↦ hQ _ _ _ _ (h s)

theorem Leads.bind (hx : Leads x Q) (hf : ∀ a, Leads (f a) (F a))
    (herror : ∀ s log e s', Q s log (.error e) s' → R s log (.error e) s')
    (hok : ∀ s log a s' log' result s'', Q s log (.ok a) s' → F a s' log' result s'' →
      R s (log ++ log') result s'') : Leads (x >>= f) R := by
  intro s
  have h := hx s
  simp only [Bind.bind]
  rcases hrun : x s with ⟨(e | a), log, s'⟩
  · rw [hrun] at h
    exact herror s log e s' h
  · rw [hrun] at h
    exact hok s log a s' _ _ _ h (hf a s')

end Leads

end Traced

end MakerSdk.Base
