import MakerSdk.Base.ByteReader
import Mathlib.Data.Nat.Bitwise

namespace MakerSdk.Base.ShortVec

open ByteReader

/-- The shortest encoding of a length in groups of seven bits, low group first. -/
def encode (n : ℕ) : List UInt8 :=
  if n < 128 then [.ofNat n]
  else if n < 16384 then [.ofNat (n % 128 + 128), .ofNat (n / 128)]
  else [.ofNat (n % 128 + 128), .ofNat (n / 128 % 128 + 128), .ofNat (n / 16384)]

def payload (value : ℕ) (b : UInt8) (shift : ℕ) : ℕ := value ||| ((b &&& 0x7f).toNat <<< shift)

variable {ε : Type}

/-- Reads groups until a byte without the continuation bit; `reject` may refuse a byte by
its group and by the value it completes. -/
def readGroups (truncated invalid : ε) (reject : UInt8 → ℕ → ℕ → Bool) (value : ℕ) :
    List ℕ → Read ε ℕ
  | [] => throw invalid
  | shift :: shifts => do
    let b ← byte truncated
    let next := payload value b shift
    if reject b shift next then throw invalid
    else if b &&& 0x80 = 0 then pure next
    else readGroups truncated invalid reject next shifts

/-- A zero byte after the first pads a shorter encoding; a value has at most sixteen bits. -/
def strict (b : UInt8) (shift next : ℕ) : Bool := (b == 0 && shift != 0) || 65535 < next

def read (truncated invalid : ε) : Read ε ℕ := readGroups truncated invalid strict 0 [0, 7, 14]

theorem low_bits (b : UInt8) : (b &&& 0x7f).toNat = b.toNat % 128 := by
  rw [UInt8.toNat_and]
  exact Nat.and_two_pow_sub_one_eq_mod b.toNat 7

theorem high_bit (b : UInt8) : b &&& 0x80 = 0 ↔ b.toNat < 128 := by
  have hb := b.toNat_lt
  have h : (b &&& 0x80).toNat = (decide (b.toNat / 128 % 2 = 1)).toNat * 128 := by
    rw [UInt8.toNat_and]
    exact (Nat.and_two_pow b.toNat 7).trans (by simp [Nat.testBit_eq_decide_div_mod_eq])
  rw [← UInt8.toNat_inj, h]
  by_cases hd : b.toNat / 128 % 2 = 1 <;> simp [hd] <;> omega

theorem payload_eq {v : ℕ} (b : UInt8) {k : ℕ} (h : v < 2 ^ k) :
    payload v b k = v + b.toNat % 128 * 2 ^ k := by
  rw [payload, low_bits, Nat.lor_comm, ← Nat.shiftLeft_add_eq_or_of_lt h, Nat.shiftLeft_eq,
    Nat.add_comm]

variable {reject : UInt8 → ℕ → ℕ → Bool}

theorem reads_last {truncated invalid : ε} {v k n : ℕ} {ks : List ℕ} {b : UInt8} (hv : v < 2 ^ k)
    (hb : b.toNat < 128) (hn : v + b.toNat * 2 ^ k = n) (hr : reject b k n = false) :
    Reads (readGroups truncated invalid reject v (k :: ks)) [b] n := by
  have hp : payload v b k = n := by rw [payload_eq b hv, Nat.mod_eq_of_lt hb, hn]
  refine (reads_byte truncated b).bind ?_
  simp only [hp, hr, Bool.false_eq_true, ↓reduceIte, high_bit, hb]
  exact reads_pure n

theorem reads_more {truncated invalid : ε} {v k m n : ℕ} {ks : List ℕ} {b : UInt8} {w : List UInt8}
    (hv : v < 2 ^ k) (hb : ¬ b.toNat < 128) (hm : v + b.toNat % 128 * 2 ^ k = m)
    (hr : reject b k m = false) (h : Reads (readGroups truncated invalid reject m ks) w n) :
    Reads (readGroups truncated invalid reject v (k :: ks)) (b :: w) n := by
  have hp : payload v b k = m := by rw [payload_eq b hv, hm]
  refine (reads_byte truncated b).bind ?_
  simpa only [hp, hr, Bool.false_eq_true, ↓reduceIte, high_bit, hb] using h

theorem toNat_ofNat {n : ℕ} (h : n < 256) : (UInt8.ofNat n).toNat = n := by
  rw [UInt8.toNat_ofNat']; omega

theorem ofNat_of_toNat (b : UInt8) {n : ℕ} (h : n = b.toNat) : UInt8.ofNat n = b := by
  rw [h, UInt8.ofNat_toNat]

theorem encode_one {b : UInt8} {n : ℕ} (hb : b.toNat < 128) (hn : n = b.toNat) :
    encode n = [b] := by
  rw [encode, if_pos (by omega), ofNat_of_toNat b hn]

theorem encode_two {b₀ b₁ : UInt8} {n : ℕ} (h₀ : ¬ b₀.toNat < 128) (h₁ : b₁.toNat < 128)
    (hz : b₁.toNat ≠ 0) (hn : n = b₀.toNat % 128 + b₁.toNat * 128) : encode n = [b₀, b₁] := by
  have hlt₀ := b₀.toNat_lt
  rw [encode, if_neg (by omega), if_pos (by omega), ofNat_of_toNat b₀ (by omega),
    ofNat_of_toNat b₁ (by omega)]

theorem encode_three {b₀ b₁ b₂ : UInt8} {n : ℕ} (h₀ : ¬ b₀.toNat < 128)
    (h₁ : ¬ b₁.toNat < 128) (h₂ : b₂.toNat < 128) (hz : b₂.toNat ≠ 0)
    (hn : n = b₀.toNat % 128 + b₁.toNat % 128 * 128 + b₂.toNat * 16384) :
    encode n = [b₀, b₁, b₂] := by
  have hlt₀ := b₀.toNat_lt
  have hlt₁ := b₁.toNat_lt
  rw [encode, if_neg (by omega), if_neg (by omega), ofNat_of_toNat b₀ (by omega),
    ofNat_of_toNat b₁ (by omega), ofNat_of_toNat b₂ (by omega)]

theorem reads_encode (truncated invalid : ε) {n : ℕ} (hn : n ≤ 65535)
    (hr : ∀ b k m, m ≤ n → (b.toNat = 0 → k = 0) → reject b k m = false) :
    Reads (readGroups truncated invalid reject 0 [0, 7, 14]) (encode n) n := by
  unfold encode
  split_ifs with h₁ h₂
  · have hb := toNat_ofNat (show n < 256 by omega)
    exact reads_last (by decide) (by omega) (by omega) (hr _ _ _ le_rfl (fun _ ↦ rfl))
  · have hb₀ := toNat_ofNat (show n % 128 + 128 < 256 by omega)
    have hb₁ := toNat_ofNat (show n / 128 < 256 by omega)
    refine reads_more (m := n % 128) (by decide) (by omega) (by omega)
      (hr _ _ _ (by omega) (fun _ ↦ rfl)) ?_
    exact reads_last (by omega) (by omega) (by omega) (hr _ _ _ le_rfl (by omega))
  · have hb₀ := toNat_ofNat (show n % 128 + 128 < 256 by omega)
    have hb₁ := toNat_ofNat (show n / 128 % 128 + 128 < 256 by omega)
    have hb₂ := toNat_ofNat (show n / 16384 < 256 by omega)
    refine reads_more (m := n % 128) (by decide) (by omega) (by omega)
      (hr _ _ _ (by omega) (fun _ ↦ rfl)) ?_
    refine reads_more (m := n % 16384) (by omega) (by omega) (by omega)
      (hr _ _ _ (by omega) (by omega)) ?_
    exact reads_last (by omega) (by omega) (by omega) (hr _ _ _ le_rfl (by omega))

theorem strict_eq_false {b : UInt8} {k m : ℕ} :
    strict b k m = false ↔ (b.toNat = 0 → k = 0) ∧ m ≤ 65535 := by
  simp only [strict, Bool.or_eq_false_iff, Bool.and_eq_false_iff, beq_eq_false_iff_ne, ne_eq,
    bne_eq_false_iff_eq, decide_eq_false_iff_not, not_lt, ← UInt8.toNat_inj, UInt8.toNat_zero]
  tauto

theorem reads_read (truncated invalid : ε) {n : ℕ} (hn : n ≤ 65535) :
    Reads (read truncated invalid) (encode n) n :=
  reads_encode truncated invalid hn
    (fun _ _ _ hm hk ↦ strict_eq_false.mpr ⟨hk, hm.trans hn⟩)

theorem readGroups_ok {truncated invalid : ε} {v k n : ℕ} {ks : List ℕ} {pre s : List UInt8}
    {r : Reader} (hv : v < 2 ^ k)
    (h : readGroups truncated invalid strict v (k :: ks) (.between pre s) = .ok (n, r)) :
    ∃ b t, s = b :: t ∧ (b.toNat = 0 → k = 0) ∧ v + b.toNat % 128 * 2 ^ k ≤ 65535 ∧
      ((b.toNat < 128 ∧ n = v + b.toNat * 2 ^ k ∧ r = .between (pre ++ [b]) t) ∨
        (¬ b.toNat < 128 ∧ readGroups truncated invalid strict (v + b.toNat % 128 * 2 ^ k) ks
          (.between (pre ++ [b]) t) = .ok (n, r))) := by
  obtain ⟨b, r', hb, h⟩ := bind_ok h
  obtain ⟨_, t, rfl, rfl, rfl⟩ := spells_byte truncated pre s b r' hb
  simp only [payload_eq b hv] at h
  by_cases hs : strict b k (v + b.toNat % 128 * 2 ^ k)
  · simp [hs] at h
  · obtain ⟨hz, hle⟩ := strict_eq_false.mp (Bool.not_eq_true _ ▸ hs)
    refine ⟨b, t, rfl, hz, hle, ?_⟩
    by_cases hl : b.toNat < 128
    · simp only [hs, high_bit, hl, Bool.false_eq_true, ↓reduceIte, pure_apply,
        Except.ok.injEq, Prod.mk.injEq] at h
      exact .inl ⟨hl, by rw [← h.1, Nat.mod_eq_of_lt hl], h.2.symm⟩
    · exact .inr ⟨hl, by simpa only [hs, high_bit, hl, Bool.false_eq_true, ↓reduceIte] using h⟩

theorem spells_read (truncated invalid : ε) :
    Spells (read truncated invalid) (fun n w ↦ n ≤ 65535 ∧ w = encode n) := by
  intro pre s n r h
  obtain ⟨b₀, t₀, rfl, -, hle, ⟨hb₀, hn, rfl⟩ | ⟨hb₀, h⟩⟩ := readGroups_ok (by decide) h
  · exact ⟨[b₀], t₀, rfl, rfl, by omega, (encode_one hb₀ (by omega)).symm⟩
  obtain ⟨b₁, t₁, rfl, hz₁, hle₁, ⟨hb₁, hn, rfl⟩ | ⟨hb₁, h⟩⟩ := readGroups_ok (by omega) h
  · exact ⟨[b₀, b₁], t₁, rfl, by simp, by omega,
      (encode_two hb₀ hb₁ (by omega) (by omega)).symm⟩
  obtain ⟨b₂, t₂, rfl, hz₂, hle₂, ⟨hb₂, hn, rfl⟩ | ⟨hb₂, h⟩⟩ := readGroups_ok (by omega) h
  · exact ⟨[b₀, b₁, b₂], t₂, rfl, by simp, by omega,
      (encode_three hb₀ hb₁ hb₂ (by omega) (by omega)).symm⟩
  · simp [readGroups] at h

end MakerSdk.Base.ShortVec
