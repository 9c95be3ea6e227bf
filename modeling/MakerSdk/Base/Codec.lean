import MakerSdk.Base.ByteReader
import MakerSdk.Base.Bytes

namespace MakerSdk.Base.Codec

open ByteReader Bytes

variable {ε α β ρ : Type}

/-- `p` reads exactly the words that `enc` writes for the values in `V`, and gives them back. -/
structure Decodes (p : Read ε α) (V : α → Prop) (enc : α → List UInt8) : Prop where
  reads : ∀ x, V x → Reads p (enc x) x
  spells : Spells p (fun x w ↦ V x ∧ w = enc x)

section Rules

variable {p : Read ε α} {V : α → Prop} {enc : α → List UInt8}

theorem Decodes.congr {enc' : α → List UInt8} (h : Decodes p V enc)
    (henc : ∀ x, V x → enc x = enc' x) : Decodes p V enc' := by
  refine ⟨fun x hx ↦ henc x hx ▸ h.reads x hx, h.spells.mono ?_⟩
  rintro x w ⟨hx, rfl⟩
  exact ⟨hx, henc x hx⟩

theorem Decodes.of_iff {V' : α → Prop} (h : Decodes p V enc) (hV : ∀ x, V' x ↔ V x) :
    Decodes p V' enc :=
  ⟨fun x hx ↦ h.reads x ((hV x).mp hx), h.spells.mono fun x _ hx ↦ ⟨(hV x).mpr hx.1, hx.2⟩⟩

theorem decodes_throw (e : ε) (h : ∀ x, ¬V x) : Decodes (throw e : Read ε α) V enc :=
  ⟨fun x hx ↦ absurd hx (h x), spells_error e _⟩

theorem decodes_pure {x : α} (h : ∀ y, V y ↔ y = x) :
    Decodes (pure x : Read ε α) V (fun _ ↦ []) := by
  refine ⟨fun y hy ↦ ?_, spells_pure x ⟨(h x).mpr rfl, rfl⟩⟩
  rw [(h y).mp hy]
  exact reads_pure x

/-- A value of `ρ` read field by field: `get` is the field read first. -/
theorem Decodes.field {f : α → Read ε ρ} {P : ρ → Prop} {rest : ρ → List UInt8}
    (hp : Decodes p V enc) (get : ρ → α) (hget : ∀ r, P r → V (get r))
    (hf : ∀ a, V a → Decodes (f a) (fun r ↦ P r ∧ get r = a) rest) :
    Decodes (p >>= f) P (fun r ↦ enc (get r) ++ rest r) := by
  constructor
  · intro r hr
    exact (hp.reads _ (hget r hr)).bind ((hf _ (hget r hr)).reads r ⟨hr, rfl⟩)
  · intro pre s r t ht
    obtain ⟨a, w, u, rfl, ⟨ha, rfl⟩, hr⟩ := hp.spells.peel ht
    obtain ⟨v, u, rfl, rfl, ⟨hP, rfl⟩, rfl⟩ := (hf a ha).spells _ _ _ _ hr
    exact ⟨_, u, (List.append_assoc ..).symm, by rw [List.append_assoc], hP, rfl⟩

theorem Decodes.next {f : α → Read ε ρ} {P : ρ → Prop} {rest : ρ → List UInt8}
    (hp : Decodes p (fun _ ↦ True) enc) (get : ρ → α)
    (hf : ∀ a, Decodes (f a) (fun r ↦ P r ∧ get r = a) rest) :
    Decodes (p >>= f) P (fun r ↦ enc (get r) ++ rest r) :=
  hp.field get (fun _ _ ↦ trivial) fun a _ ↦ hf a

theorem Decodes.case {P : ρ → Prop} {enc' : ρ → List UInt8} (hp : Decodes p V enc) (g : α → ρ)
    (hP : ∀ r, P r ↔ ∃ a, V a ∧ g a = r) (henc : ∀ a, V a → enc' (g a) = enc a) :
    Decodes (do let a ← p; pure (g a)) P enc' := by
  constructor
  · intro r hr
    obtain ⟨a, ha, rfl⟩ := (hP r).mp hr
    rw [henc a ha]
    exact (hp.reads a ha).map g
  · refine (hp.spells.map g).mono ?_
    rintro r w ⟨a, rfl, ha, rfl⟩
    exact ⟨(hP _).mpr ⟨a, ha, rfl⟩, (henc a ha).symm⟩

theorem Decodes.unique {x y : α} {s t : List UInt8} (hp : Decodes p V enc) (hx : V x) (hy : V y)
    (h : enc x ++ s = enc y ++ t) : x = y ∧ s = t := by
  have hread := hp.reads x hx [] s
  rw [h, hp.reads y hy [] t, Except.ok.injEq, Prod.mk.injEq] at hread
  obtain ⟨rfl, -⟩ := hread
  exact ⟨rfl, List.append_cancel_left h⟩

end Rules

section Words

theorem decodes_fixed {n : ℕ} {dec : List UInt8 → α} {enc : α → List UInt8} (truncated : ε)
    (hlen : ∀ x, (enc x).length = n) (hdec : ∀ x, dec (enc x) = x)
    (henc : ∀ w, w.length = n → enc (dec w) = w) :
    Decodes (do let w ← take truncated n; pure (dec w)) (fun _ ↦ True) enc := by
  constructor
  · intro x _
    have h := (reads_take truncated (hlen x)).map dec
    rwa [hdec x] at h
  · refine ((spells_take truncated n).map dec).mono ?_
    rintro x w ⟨w', rfl, rfl, hw⟩
    exact ⟨trivial, (henc _ hw).symm⟩

theorem decodes_take (truncated : ε) (n : ℕ) :
    Decodes (take truncated n) (fun w ↦ w.length = n) (fun w ↦ w) :=
  ⟨fun _ h ↦ reads_take truncated h,
    (spells_take truncated n).mono fun _ _ h ↦ ⟨h.1 ▸ h.2, h.1.symm⟩⟩

theorem decodes_byte (truncated : ε) :
    Decodes (byte truncated) (fun _ ↦ True) (fun b ↦ [b]) :=
  ⟨fun b _ ↦ reads_byte truncated b, (spells_byte truncated).mono fun _ _ h ↦ ⟨trivial, h⟩⟩

def readArray (truncated : ε) (n : ℕ) : Read ε (FixedBytes n) := do
  let bytes ← take truncated n
  pure (.ofList n bytes)

def readU16 (truncated : ε) : Read ε UInt16 := do
  let bytes ← take truncated 2
  pure (u16OfLe bytes)

def readU32 (truncated : ε) : Read ε UInt32 := do
  let bytes ← take truncated 4
  pure (u32OfLe bytes)

def readU64 (truncated : ε) : Read ε UInt64 := do
  let bytes ← take truncated 8
  pure (u64OfLe bytes)

def readU128 (truncated : ε) : Read ε (BitVec 128) := do
  let bytes ← take truncated 16
  pure (u128OfLe bytes)

theorem decodes_array (truncated : ε) (n : ℕ) :
    Decodes (readArray truncated n) (fun _ ↦ True) FixedBytes.toList :=
  decodes_fixed truncated FixedBytes.length_toList FixedBytes.ofList_toList
    fun _ h ↦ FixedBytes.toList_ofList h

theorem decodes_u16 (truncated : ε) : Decodes (readU16 truncated) (fun _ ↦ True) u16ToLe :=
  decodes_fixed truncated length_u16ToLe u16OfLe_toLe fun _ h ↦ u16ToLe_ofLe h

theorem decodes_u32 (truncated : ε) : Decodes (readU32 truncated) (fun _ ↦ True) u32ToLe :=
  decodes_fixed truncated length_u32ToLe u32OfLe_toLe fun _ h ↦ u32ToLe_ofLe h

theorem decodes_u64 (truncated : ε) : Decodes (readU64 truncated) (fun _ ↦ True) u64ToLe :=
  decodes_fixed truncated length_u64ToLe u64OfLe_toLe fun _ h ↦ u64ToLe_ofLe h

theorem decodes_u128 (truncated : ε) : Decodes (readU128 truncated) (fun _ ↦ True) u128ToLe :=
  decodes_fixed truncated length_u128ToLe u128OfLe_toLe fun _ h ↦ u128ToLe_ofLe h

end Words

section Options

def readOption (truncated badTag : ε) (p : Read ε α) : Read ε (Option α) := do
  let tag ← byte truncated
  match tag with
  | 0 => pure none
  | 1 => do
    let a ← p
    pure (some a)
  | _ => throw badTag

def optionToBytes (enc : α → List UInt8) : Option α → List UInt8
  | none => [0]
  | some a => 1 :: enc a

def optionTag : Option α → UInt8
  | none => 0
  | some _ => 1

def optionRest (enc : α → List UInt8) : Option α → List UInt8
  | none => []
  | some a => enc a

theorem decodes_option {p : Read ε α} {V : α → Prop} {enc : α → List UInt8}
    (truncated badTag : ε) (hp : Decodes p V enc) :
    Decodes (readOption truncated badTag p) (fun o ↦ ∀ a ∈ o, V a) (optionToBytes enc) := by
  have htagged : Decodes (readOption truncated badTag p) (fun o ↦ ∀ a ∈ o, V a)
      (fun o ↦ [optionTag o] ++ optionRest enc o) := by
    refine (decodes_byte truncated).next optionTag fun tag ↦ ?_
    split
    · refine (decodes_pure fun o ↦ ?_).congr fun o ho ↦ ?_
      · cases o <;> simp [optionTag]
      · cases o with
        | none => rfl
        | some a => exact absurd ho.2 (by decide : (1 : UInt8) ≠ 0)
    · refine hp.case some (fun o ↦ ?_) fun a _ ↦ rfl
      cases o <;> simp [optionTag]
    · rename_i h0 h1
      refine decodes_throw badTag fun o ho ↦ ?_
      cases o with
      | none => exact h0 ho.2.symm
      | some a => exact h1 ho.2.symm
  exact htagged.congr fun o _ ↦ by cases o <;> rfl

end Options

section Sequences

def unlessDone (more : Read ε (List α)) : Read ε (List α) := do
  let next ← peek
  match next with
  | none => pure []
  | some _ => more

def readAll (full : ε) (p : Read ε α) : ℕ → Read ε (List α)
  | 0 => unlessDone (throw full)
  | room + 1 => unlessDone do
    let x ← p
    let xs ← readAll full p room
    pure (x :: xs)

variable {p : Read ε α} {V : α → Prop} {enc : α → List UInt8} {full : ε}

theorem unlessDone_nil {more : Read ε (List α)} (pre : List UInt8) :
    unlessDone more (.between pre []) = .ok ([], .between pre []) := by
  rw [unlessDone, bind_of_ok (peek_between pre [])]
  rfl

theorem unlessDone_of_ne {more : Read ε (List α)} {pre s : List UInt8} (h : s ≠ []) :
    unlessDone more (.between pre s) = more (.between pre s) := by
  obtain ⟨b, s, rfl⟩ := List.exists_cons_of_ne_nil h
  rw [unlessDone, bind_of_ok (peek_between pre (b :: s))]
  rfl

theorem readAll_nil {room : ℕ} (pre : List UInt8) :
    readAll full p room (.between pre []) = .ok ([], .between pre []) := by
  cases room <;> exact unlessDone_nil pre

theorem readAll_ok (hp : Decodes p V enc) (hne : ∀ x, V x → enc x ≠ []) {room : ℕ}
    {pre s : List UInt8} {xs : List α} {r : Reader} :
    readAll full p room (.between pre s) = .ok (xs, r) ↔
      xs.length ≤ room ∧ (∀ x ∈ xs, V x) ∧ s = xs.flatMap enc ∧ r = .between (pre ++ s) [] := by
  induction room generalizing pre s xs r with
  | zero =>
    by_cases hs : s = []
    · subst hs
      rw [readAll_nil, Except.ok.injEq, Prod.mk.injEq]
      constructor
      · rintro ⟨rfl, rfl⟩
        simp
      · rintro ⟨hlen, -, -, rfl⟩
        exact ⟨(List.eq_nil_of_length_eq_zero (Nat.le_zero.mp hlen)).symm, by simp⟩
    · rw [readAll, unlessDone_of_ne hs, throw_apply]
      constructor
      · intro h
        cases h
      · rintro ⟨hlen, -, rfl, -⟩
        rw [List.eq_nil_of_length_eq_zero (Nat.le_zero.mp hlen)] at hs
        exact absurd rfl hs
  | succ room ih =>
    by_cases hs : s = []
    · subst hs
      rw [readAll_nil, Except.ok.injEq, Prod.mk.injEq]
      constructor
      · rintro ⟨rfl, rfl⟩
        simp
      · rintro ⟨-, hxs, hnil, rfl⟩
        refine ⟨?_, by simp⟩
        cases xs with
        | nil => rfl
        | cons x xs =>
          have hx := hne x (hxs x List.mem_cons_self)
          exact absurd (List.append_eq_nil_iff.mp hnil.symm).1 hx
    · rw [readAll, unlessDone_of_ne hs]
      constructor
      · intro h
        obtain ⟨x, w, t, rfl, ⟨hx, rfl⟩, h⟩ := hp.spells.peel h
        obtain ⟨ys, r', hys, h⟩ := bind_ok h
        obtain ⟨hlen, hV, rfl, rfl⟩ := ih.mp hys
        rw [pure_apply, Except.ok.injEq, Prod.mk.injEq] at h
        obtain ⟨rfl, rfl⟩ := h
        refine ⟨Nat.succ_le_succ hlen, List.forall_mem_cons.mpr ⟨hx, hV⟩, rfl, ?_⟩
        rw [List.append_assoc]
      · rintro ⟨hlen, hV, rfl, rfl⟩
        cases xs with
        | nil => exact absurd rfl hs
        | cons x xs =>
          obtain ⟨hx, hV⟩ := List.forall_mem_cons.mp hV
          have hrest := (@ih (pre ++ enc x) (xs.flatMap enc) xs _).mpr
            ⟨Nat.le_of_succ_le_succ hlen, hV, rfl, rfl⟩
          rw [List.flatMap_cons, bind_of_ok (hp.reads x hx pre _), bind_of_ok hrest, pure_apply,
            List.append_assoc]

theorem Decodes.flatMap_injective (hp : Decodes p V enc) (hne : ∀ x, V x → enc x ≠ [])
    {xs ys : List α} (hxs : ∀ x ∈ xs, V x) (hys : ∀ y ∈ ys, V y)
    (h : xs.flatMap enc = ys.flatMap enc) : xs = ys := by
  induction xs generalizing ys with
  | nil =>
    cases ys with
    | nil => rfl
    | cons y ys =>
      have hy := hne y (hys y List.mem_cons_self)
      exact absurd (List.append_eq_nil_iff.mp h.symm).1 hy
  | cons x xs ih =>
    obtain ⟨hx, hxs⟩ := List.forall_mem_cons.mp hxs
    cases ys with
    | nil => exact absurd (List.append_eq_nil_iff.mp h).1 (hne x hx)
    | cons y ys =>
      obtain ⟨hy, hrest⟩ := List.forall_mem_cons.mp hys
      obtain ⟨rfl, heq⟩ := hp.unique hx hy h
      rw [ih hxs hrest heq]

end Sequences

end MakerSdk.Base.Codec
