import Mathlib.Data.List.Basic

namespace MakerSdk.Base.ByteReader

structure Reader where
  bytes : List UInt8
  pos : ℕ

/-- A reader that stands between the bytes `pre` it has read and the bytes `s` ahead. -/
def Reader.between (pre s : List UInt8) : Reader := ⟨pre ++ s, pre.length⟩

abbrev Read (ε α : Type) := StateT Reader (Except ε) α

variable {ε α β : Type}

def take (truncated : ε) (len : ℕ) : Read ε (List UInt8) := fun r ↦
  if r.pos + len ≤ r.bytes.length then
    .ok ((r.bytes.drop r.pos).take len, { r with pos := r.pos + len })
  else .error truncated

def byte (truncated : ε) : Read ε UInt8 := do
  let slice ← take truncated 1
  pure (slice.headD 0)

def peek : Read ε (Option UInt8) := fun r ↦ .ok (r.bytes[r.pos]?, r)

def position : Read ε ℕ := fun r ↦ .ok (r.pos, r)

def many (p : Read ε α) : ℕ → Read ε (List α)
  | 0 => pure []
  | n + 1 => do
    let x ← p
    let xs ← many p n
    pure (x :: xs)

/-- Wherever `w` lies ahead, `p` reads exactly `w` and returns `x`. -/
def Reads (p : Read ε α) (w : List UInt8) (x : α) : Prop :=
  ∀ pre s, p (.between pre (w ++ s)) = .ok (x, .between (pre ++ w) s)

/-- Whatever `p` returns, it has read a word that `R` relates to the result. -/
def Spells (p : Read ε α) (R : α → List UInt8 → Prop) : Prop :=
  ∀ pre s x r, p (.between pre s) = .ok (x, r) →
    ∃ w t, s = w ++ t ∧ r = .between (pre ++ w) t ∧ R x w

@[simp] theorem pure_apply (x : α) (r : Reader) : (pure x : Read ε α) r = .ok (x, r) := rfl

@[simp] theorem throw_apply (e : ε) (r : Reader) : (throw e : Read ε α) r = .error e := rfl

theorem bind_eq (p : Read ε α) (f : α → Read ε β) (r : Reader) :
    (p >>= f) r = match p r with
      | .ok (x, r') => f x r'
      | .error e => .error e := by
  simp only [bind, StateT.bind, Except.bind]
  cases p r <;> rfl

variable {p : Read ε α} {f : α → Read ε β}

theorem bind_of_ok {r r' : Reader} {x : α} (h : p r = .ok (x, r')) :
    (p >>= f) r = f x r' := by rw [bind_eq, h]

theorem bind_ok {r r'' : Reader} {y : β} (h : (p >>= f) r = .ok (y, r'')) :
    ∃ x r', p r = .ok (x, r') ∧ f x r' = .ok (y, r'') := by
  rw [bind_eq] at h
  cases hp : p r with
  | error e => simp [hp] at h
  | ok z => exact ⟨z.1, z.2, rfl, by simpa [hp] using h⟩

theorem peek_between (pre s : List UInt8) :
    (peek : Read ε (Option UInt8)) (.between pre s) = .ok (s.head?, .between pre s) := by
  have h : (pre ++ s)[pre.length]? = s.head? := by
    rw [List.getElem?_append_right (Nat.le_refl _), Nat.sub_self, List.head?_eq_getElem?]
  simp only [peek, Reader.between, h]

theorem reads_pure (x : α) : Reads (pure x : Read ε α) [] x := by
  intro pre s
  simp

theorem Reads.bind {w v : List UInt8} {x : α} {y : β} (hp : Reads p w x) (hf : Reads (f x) v y) :
    Reads (p >>= f) (w ++ v) y := by
  intro pre s
  have h := hp pre (v ++ s)
  rw [List.append_assoc, bind_of_ok h, hf (pre ++ w) s, List.append_assoc]

theorem Reads.map {w : List UInt8} {x : α} (hp : Reads p w x) (g : α → β) :
    Reads (do let y ← p; pure (g y)) w (g x) := by
  simpa only [List.append_nil] using hp.bind (f := fun y ↦ pure (g y)) (reads_pure (g x))

theorem reads_take (truncated : ε) {n : ℕ} {w : List UInt8} (hw : w.length = n) :
    Reads (take truncated n) w w := by
  intro pre s
  subst hw
  simp [take, Reader.between]

theorem reads_byte (truncated : ε) (b : UInt8) : Reads (byte truncated) [b] b :=
  (reads_take truncated rfl).map (fun slice ↦ slice.headD 0)

theorem reads_many {enc : α → List UInt8} (xs : List α) (h : ∀ x ∈ xs, Reads p (enc x) x) :
    Reads (many p xs.length) (xs.flatMap enc) xs := by
  induction xs with
  | nil => exact reads_pure []
  | cons x xs ih =>
    have hx := h x List.mem_cons_self
    have hxs := ih (fun y hy ↦ h y (List.mem_cons_of_mem x hy))
    simp only [List.flatMap_cons, List.length_cons]
    exact hx.bind (hxs.map (fun ys ↦ x :: ys))

variable {R : α → List UInt8 → Prop}

theorem spells_pure (x : α) (h : R x []) :
    Spells (pure x : Read ε α) R := by
  intro pre s y r hr
  simp only [pure_apply, Except.ok.injEq, Prod.mk.injEq] at hr
  obtain ⟨rfl, rfl⟩ := hr
  exact ⟨[], s, by simp, by simp, h⟩

theorem Spells.peel (hp : Spells p R) {pre s : List UInt8} {y : β} {r : Reader}
    (h : (p >>= f) (.between pre s) = .ok (y, r)) :
    ∃ x w t, s = w ++ t ∧ R x w ∧ f x (.between (pre ++ w) t) = .ok (y, r) := by
  obtain ⟨x, r', hx, h⟩ := bind_ok h
  obtain ⟨w, t, hs, rfl, hw⟩ := hp _ _ _ _ hx
  exact ⟨x, w, t, hs, hw, h⟩

theorem Spells.bind {T : α → β → List UInt8 → Prop} {S : β → List UInt8 → Prop} (hp : Spells p R)
    (hf : ∀ x, Spells (f x) (T x)) (h : ∀ x y w v, R x w → T x y v → S y (w ++ v)) :
    Spells (p >>= f) S := by
  intro pre s y r hr
  obtain ⟨x, w, t, rfl, hw, hy⟩ := hp.peel hr
  obtain ⟨v, u, rfl, rfl, hv⟩ := hf x _ _ _ _ hy
  exact ⟨w ++ v, u, by simp, by simp, h x y w v hw hv⟩

theorem Spells.mono {R S : α → List UInt8 → Prop} (hp : Spells p R) (h : ∀ x w, R x w → S x w) :
    Spells p S := by
  intro pre s x r hr
  obtain ⟨w, t, hs, he, hw⟩ := hp pre s x r hr
  exact ⟨w, t, hs, he, h x w hw⟩

theorem Spells.map (hp : Spells p R) (g : α → β) :
    Spells (do let y ← p; pure (g y)) (fun y w ↦ ∃ x, y = g x ∧ R x w) :=
  hp.bind (T := fun x y w ↦ y = g x ∧ w = []) (fun x ↦ spells_pure (g x) ⟨rfl, rfl⟩)
    (by rintro x _ w _ hx ⟨rfl, rfl⟩; exact ⟨x, rfl, by simpa using hx⟩)

theorem spells_error (e : ε) (R : α → List UInt8 → Prop) : Spells (throw e : Read ε α) R := by
  intro pre s x r hr
  simp at hr

theorem spells_take (truncated : ε) (n : ℕ) :
    Spells (take truncated n) (fun x w ↦ x = w ∧ w.length = n) := by
  intro pre s x r hr
  simp only [take, Reader.between, List.length_append] at hr
  split at hr
  · rename_i hn
    simp only [List.drop_left, Except.ok.injEq, Prod.mk.injEq] at hr
    obtain ⟨rfl, rfl⟩ := hr
    have hlen : (s.take n).length = n := by simp only [List.length_take]; omega
    refine ⟨s.take n, s.drop n, (List.take_append_drop n s).symm, ?_, rfl, hlen⟩
    simp [Reader.between, hlen]
  · simp at hr

theorem spells_byte (truncated : ε) : Spells (byte truncated) (fun b w ↦ w = [b]) := by
  refine ((spells_take truncated 1).map (fun slice ↦ slice.headD 0)).mono ?_
  rintro b w ⟨slice, rfl, rfl, hw⟩
  obtain ⟨c, rfl⟩ := List.length_eq_one_iff.mp hw
  rfl

theorem spells_many {B : α → Prop} {enc : α → List UInt8}
    (hp : Spells p (fun x w ↦ B x ∧ w = enc x)) (n : ℕ) :
    Spells (many p n) (fun xs w ↦ xs.length = n ∧ (∀ x ∈ xs, B x) ∧ w = xs.flatMap enc) := by
  induction n with
  | zero => exact spells_pure [] ⟨rfl, by simp, rfl⟩
  | succ n ih =>
    refine hp.bind (fun x ↦ ih.map (fun xs ↦ x :: xs)) ?_
    rintro x _ w v ⟨hx, rfl⟩ ⟨xs, rfl, hlen, hxs, rfl⟩
    exact ⟨by simp [hlen], by simpa using ⟨hx, hxs⟩, rfl⟩

/-- The word `p` has read is all that its result depends on. -/
def Exact (p : Read ε α) : Prop := Spells p (fun x w ↦ Reads p w x)

theorem exact_pure (x : α) : Exact (pure x : Read ε α) := spells_pure x (reads_pure x)

theorem exact_throw (e : ε) : Exact (throw e : Read ε α) := spells_error e _

theorem Exact.bind (hp : Exact p) (hf : ∀ x, Exact (f x)) :
    Exact (p >>= f) :=
  Spells.bind hp hf (fun _ _ _ _ hx hy ↦ hx.bind hy)

theorem exact_take (truncated : ε) (n : ℕ) : Exact (take truncated n) := by
  refine (spells_take truncated n).mono ?_
  intro x w hw
  rw [hw.1]
  exact reads_take truncated hw.2

theorem exact_byte (truncated : ε) : Exact (byte truncated) :=
  (exact_take truncated 1).bind (fun _ ↦ exact_pure _)

theorem exact_many (hp : Exact p) (n : ℕ) : Exact (many p n) := by
  induction n with
  | zero => exact exact_pure []
  | succ n ih => exact hp.bind (fun x ↦ ih.bind (fun xs ↦ exact_pure (x :: xs)))

end MakerSdk.Base.ByteReader
