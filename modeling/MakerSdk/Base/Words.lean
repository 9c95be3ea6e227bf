import Mathlib.Algebra.Group.Nat.Defs
import MakerSdk.Base.Checks

namespace MakerSdk.Base.Words

open Checks

variable {ε γ α β : Type}

/-- How a computation on machine words ends without a value: with an error it returns, or in a
panic. -/
inductive Fault (ε : Type) where
  | raised (error : ε)
  | panicked
deriving DecidableEq

def Fault.map (f : ε → γ) : Fault ε → Fault γ
  | .raised e => .raised (f e)
  | .panicked => .panicked

abbrev Checked (ε α : Type) := Except (Fault ε) α

def raise (e : ε) : Checked ε α := .error (.raised e)

def lift (x : Except ε α) : Checked ε α := x.mapError .raised

@[simp] theorem lift_ok {x : Except ε α} {a : α} : lift x = .ok a ↔ x = .ok a := mapError_ok

def attempt : Checked ε α → Checked ε (Option α)
  | .ok a => .ok (some a)
  | .error (.raised _) => .ok none
  | .error .panicked => .error .panicked

@[simp] theorem attempt_some {x : Checked ε α} {a : α} :
    attempt x = .ok (some a) ↔ x = .ok a := by
  rcases x with (e | -) | a' <;> simp [attempt]

def word (bits n : ℕ) : Checked ε ℕ := if n < 2 ^ bits then .ok n else .error .panicked

def quotient (a b : ℕ) : Checked ε ℕ := if b = 0 then .error .panicked else .ok (a / b)

def remainder (a b : ℕ) : Checked ε ℕ := if b = 0 then .error .panicked else .ok (a % b)

def difference (a b : ℕ) : Checked ε ℕ := if b ≤ a then .ok (a - b) else .error .panicked

def difference64 (a b : UInt64) : Checked ε UInt64 :=
  if b ≤ a then .ok (a - b) else .error .panicked

def parseDigits : ℕ → List Char → Option ℕ
  | n, [] => some n
  | n, c :: cs =>
    if '0' ≤ c ∧ c ≤ '9' ∧ n * 10 + (c.toNat - 48) < 2 ^ 64 then
      parseDigits (n * 10 + (c.toNat - 48)) cs
    else none

/-- A decimal number, which one plus sign may lead. -/
def parseU64 : List Char → Option UInt64
  | [] => none
  | ['+'] => none
  | '+' :: cs => (parseDigits 0 cs).map UInt64.ofNat
  | cs => (parseDigits 0 cs).map UInt64.ofNat

def fits (bits : ℕ) (e : ε) (n : ℕ) : Checked ε ℕ := if n < 2 ^ bits then .ok n else raise e

def narrow (e : ε) (n : ℕ) : Checked ε UInt64 := if n < 2 ^ 64 then .ok (.ofNat n) else raise e

def index (xs : List α) (i : ℕ) : Checked ε α :=
  match xs[i]? with
  | some x => .ok x
  | none => .error .panicked

/-- `&xs[start..start + len]`. -/
def window (xs : List α) (start len : ℕ) : Checked ε (List α) :=
  if start + len ≤ xs.length then .ok ((xs.drop start).take len) else .error .panicked

@[simp] theorem index_ok {xs : List α} {i : ℕ} {x : α} :
    (index xs i : Checked ε α) = .ok x ↔ xs[i]? = some x := by
  unfold index
  split <;> simp_all

@[simp] theorem window_ok {xs ys : List α} {start len : ℕ} :
    (window xs start len : Checked ε (List α)) = .ok ys ↔
      start + len ≤ xs.length ∧ (xs.drop start).take len = ys := by
  by_cases h : start + len ≤ xs.length <;> simp [window, h]

theorem word_of_lt {bits n : ℕ} (h : n < 2 ^ bits) : (word bits n : Checked ε ℕ) = .ok n :=
  if_pos h

theorem quotient_of_pos {a b : ℕ} (h : 0 < b) : (quotient a b : Checked ε ℕ) = .ok (a / b) :=
  if_neg (Nat.ne_of_gt h)

theorem remainder_of_pos {a b : ℕ} (h : 0 < b) : (remainder a b : Checked ε ℕ) = .ok (a % b) :=
  if_neg (Nat.ne_of_gt h)

theorem difference_of_le {a b : ℕ} (h : b ≤ a) : (difference a b : Checked ε ℕ) = .ok (a - b) :=
  if_pos h

theorem difference64_of_le {a b : UInt64} (h : b ≤ a) :
    (difference64 a b : Checked ε UInt64) = .ok (a - b) :=
  if_pos h

def saturatingSub (a b : UInt64) : UInt64 := if b ≤ a then a - b else 0

theorem toNat_saturatingSub (a b : UInt64) : (saturatingSub a b).toNat = a.toNat - b.toNat := by
  by_cases h : b ≤ a
  · rw [saturatingSub, if_pos h, UInt64.toNat_sub_of_le _ _ h]
  · have hlt := Nat.le_of_lt (UInt64.lt_iff_toNat_lt.mp (UInt64.not_le.mp h))
    rw [saturatingSub, if_neg h, Nat.sub_eq_zero_of_le hlt]
    rfl

def saturatingAdd (a b : UInt64) : UInt64 :=
  if a.toNat + b.toNat < 2 ^ 64 then a + b else .ofNat (2 ^ 64 - 1)

theorem toNat_saturatingAdd (a b : UInt64) :
    (saturatingAdd a b).toNat = min (a.toNat + b.toNat) (2 ^ 64 - 1) := by
  by_cases h : a.toNat + b.toNat < 2 ^ 64
  · rw [saturatingAdd, if_pos h, UInt64.toNat_add, Nat.mod_eq_of_lt h]
    omega
  · rw [saturatingAdd, if_neg h, UInt64.toNat_ofNat']
    omega

def saturatingAdd32 (a b : UInt32) : UInt32 := .ofNat (min (a.toNat + b.toNat) (2 ^ 32 - 1))

def saturatingMul32 (a b : UInt32) : UInt32 := .ofNat (min (a.toNat * b.toNat) (2 ^ 32 - 1))

theorem toNat_saturate32 (n : ℕ) :
    (UInt32.ofNat (min n (2 ^ 32 - 1))).toNat = min n (2 ^ 32 - 1) :=
  UInt32.toNat_ofNat_of_lt' (Nat.lt_of_le_of_lt (Nat.min_le_right ..) (by decide))

def checkedSub (a b : UInt64) : Option UInt64 := if b ≤ a then some (a - b) else none

def checkedAdd (a b : UInt64) : Option UInt64 :=
  if a.toNat + b.toNat < 2 ^ 64 then some (a + b) else none

theorem toNat_checkedAdd {a b c : UInt64} (h : checkedAdd a b = some c) :
    c.toNat = a.toNat + b.toNat := by
  obtain ⟨hlt, hsum⟩ := Option.ite_none_right_eq_some.mp h
  cases hsum
  rw [UInt64.toNat_add, Nat.mod_eq_of_lt hlt]

theorem narrow_ok {e : ε} {n : ℕ} {r : UInt64} : narrow e n = .ok r ↔ r.toNat = n := by
  by_cases h : n < 2 ^ 64
  · rw [narrow, if_pos h, Except.ok.injEq]
    constructor
    · rintro rfl
      exact UInt64.toNat_ofNat_of_lt' h
    · rintro rfl
      exact UInt64.ofNat_toNat
  · rw [narrow, if_neg h, raise]
    have := r.toNat_lt
    exact ⟨(fun h' ↦ by cases h'), by omega⟩

@[simp] theorem ok_bind (a : α) (f : α → Checked ε β) : (Except.ok a >>= f) = f a := rfl

def Meets (Q : α → Prop) : Checked ε α → Prop
  | .ok a => Q a
  | .error (.raised _) => True
  | .error .panicked => False

section Meets

variable {x : Checked ε α} {f : α → Checked ε β} {Q : α → Prop} {R : β → Prop}

theorem meets_raise (e : ε) : Meets Q (raise e : Checked ε α) := trivial

theorem meets_pure {a : α} (h : Q a) : Meets Q (pure a : Checked ε α) := h

theorem meets_lift {y : Except ε α} (h : ∀ a, y = .ok a → Q a) : Meets Q (lift y) := by
  cases y with
  | error e => exact meets_raise e
  | ok a => exact h a rfl

theorem meets_narrow {e : ε} {n : ℕ} {Q : UInt64 → Prop} (h : ∀ r, r.toNat = n → Q r) :
    Meets Q (narrow e n) := by
  unfold narrow
  split
  · rename_i hlt
    exact h _ (UInt64.toNat_ofNat_of_lt' hlt)
  · exact meets_raise e

theorem meets_index {xs : List α} {i : ℕ} (h : i < xs.length) :
    Meets (fun _ ↦ True) (index xs i : Checked ε α) := by
  rw [index, List.getElem?_eq_getElem h]
  trivial

theorem meets_window {xs : List α} {start len : ℕ} (h : start + len ≤ xs.length) :
    Meets (fun _ ↦ True) (window xs start len : Checked ε (List α)) := by
  rw [window, if_pos h]
  trivial

theorem Meets.bind (hx : Meets Q x) (hf : ∀ a, Q a → Meets R (f a)) : Meets R (x >>= f) := by
  cases x with
  | error fault =>
    cases fault with
    | raised e => exact meets_raise e
    | panicked => exact hx.elim
  | ok a => exact hf a hx

theorem Meets.mono {P : α → Prop} (hx : Meets Q x) (h : ∀ a, x = .ok a → Q a → P a) :
    Meets P x := by
  cases x with
  | error fault =>
    cases fault with
    | raised e => exact meets_raise e
    | panicked => exact hx.elim
  | ok a => exact h a rfl hx

theorem Meets.mapFault {g : ε → γ} (hx : Meets Q x) : Meets Q (x.mapError (Fault.map g)) := by
  cases x with
  | error fault =>
    cases fault with
    | raised e => exact meets_raise (g e)
    | panicked => exact hx.elim
  | ok a => exact hx

theorem meets_mapM {l : List α} (h : ∀ a ∈ l, Meets R (f a)) :
    Meets (fun bs ↦ ∀ b ∈ bs, R b) (l.mapM f) := by
  induction l with
  | nil => exact meets_pure (List.forall_mem_nil _)
  | cons a l ih =>
    obtain ⟨ha, hl⟩ := List.forall_mem_cons.mp h
    rw [List.mapM_cons]
    refine ha.bind fun b hb ↦ (ih hl).bind fun bs hbs ↦ ?_
    exact meets_pure (List.forall_mem_cons.mpr ⟨hb, hbs⟩)

theorem Meets.of_ok (hx : Meets Q x) {a : α} (h : x = .ok a) : Q a := by
  subst h
  exact hx

theorem Meets.ne_panicked (hx : Meets Q x) : x ≠ .error .panicked := by
  rintro rfl
  exact hx

end Meets

end MakerSdk.Base.Words
