import Mathlib.Algebra.GroupWithZero.Nat
import Mathlib.Data.List.Basic

namespace MakerSdk.Base.Bytes

structure FixedBytes (n : ℕ) where
  toList : List UInt8
  length_toList : toList.length = n
deriving DecidableEq

@[ext] theorem FixedBytes.ext {n : ℕ} {a b : FixedBytes n} (h : a.toList = b.toList) : a = b := by
  cases a; cases b; cases h; rfl

/-- A zeroed array overwritten with a slice, which is then read off whole when it fits. -/
def FixedBytes.ofList (n : ℕ) (l : List UInt8) : FixedBytes n :=
  ⟨(l ++ List.replicate n 0).take n, by simp⟩

theorem FixedBytes.toList_ofList {n : ℕ} {l : List UInt8} (h : l.length = n) :
    (ofList n l).toList = l := by
  subst h
  simp [ofList]

@[simp] theorem FixedBytes.ofList_toList {n : ℕ} (a : FixedBytes n) : ofList n a.toList = a :=
  FixedBytes.ext (toList_ofList a.length_toList)

/-- The `k` low bytes of a number, least significant first. -/
def toLe : ℕ → ℕ → List UInt8
  | 0, _ => []
  | k + 1, n => .ofNat n :: toLe k (n / 256)

def ofLe : List UInt8 → ℕ
  | [] => 0
  | b :: bs => b.toNat + 256 * ofLe bs

@[simp] theorem length_toLe (k n : ℕ) : (toLe k n).length = k := by
  induction k generalizing n with
  | zero => rfl
  | succ k ih => simp [toLe, ih]

theorem ofLe_toLe {k n : ℕ} (h : n < 256 ^ k) : ofLe (toLe k n) = n := by
  induction k generalizing n with
  | zero => simp_all [toLe, ofLe]
  | succ k ih =>
    have hq : n / 256 < 256 ^ k := by
      rw [Nat.pow_succ] at h
      exact Nat.div_lt_of_lt_mul (by rwa [Nat.mul_comm])
    simp only [toLe, ofLe, ih hq, UInt8.toNat_ofNat']
    omega

theorem toLe_ofLe (bs : List UInt8) : toLe bs.length (ofLe bs) = bs := by
  induction bs with
  | nil => rfl
  | cons b bs ih =>
    have hb := b.toNat_lt
    have hq : (b.toNat + 256 * ofLe bs) / 256 = ofLe bs := by omega
    have hr : UInt8.ofNat (b.toNat + 256 * ofLe bs) = b := by
      rw [← UInt8.toNat_inj, UInt8.toNat_ofNat']; omega
    simp only [List.length_cons, toLe, ofLe, hq, hr, ih]

theorem ofLe_lt (bs : List UInt8) : ofLe bs < 256 ^ bs.length := by
  induction bs with
  | nil => simp [ofLe]
  | cons b bs ih =>
    have hb := b.toNat_lt
    simp only [ofLe, List.length_cons, Nat.pow_succ]
    omega

def u16ToLe (x : UInt16) : List UInt8 := toLe 2 x.toNat
def u16OfLe (bs : List UInt8) : UInt16 := .ofNat (ofLe bs)
def u32ToLe (x : UInt32) : List UInt8 := toLe 4 x.toNat
def u32OfLe (bs : List UInt8) : UInt32 := .ofNat (ofLe bs)
def u64ToLe (x : UInt64) : List UInt8 := toLe 8 x.toNat
def u64OfLe (bs : List UInt8) : UInt64 := .ofNat (ofLe bs)
def u128ToLe (x : BitVec 128) : List UInt8 := toLe 16 x.toNat
def u128OfLe (bs : List UInt8) : BitVec 128 := .ofNat 128 (ofLe bs)

@[simp] theorem length_u16ToLe (x : UInt16) : (u16ToLe x).length = 2 := length_toLe 2 _
@[simp] theorem length_u32ToLe (x : UInt32) : (u32ToLe x).length = 4 := length_toLe 4 _
@[simp] theorem length_u64ToLe (x : UInt64) : (u64ToLe x).length = 8 := length_toLe 8 _
@[simp] theorem length_u128ToLe (x : BitVec 128) : (u128ToLe x).length = 16 := length_toLe 16 _

@[simp] theorem u16OfLe_toLe (x : UInt16) : u16OfLe (u16ToLe x) = x := by
  rw [u16OfLe, u16ToLe, ofLe_toLe x.toNat_lt, UInt16.ofNat_toNat]

@[simp] theorem u32OfLe_toLe (x : UInt32) : u32OfLe (u32ToLe x) = x := by
  rw [u32OfLe, u32ToLe, ofLe_toLe x.toNat_lt, UInt32.ofNat_toNat]

@[simp] theorem u64OfLe_toLe (x : UInt64) : u64OfLe (u64ToLe x) = x := by
  rw [u64OfLe, u64ToLe, ofLe_toLe x.toNat_lt, UInt64.ofNat_toNat]

@[simp] theorem u128OfLe_toLe (x : BitVec 128) : u128OfLe (u128ToLe x) = x := by
  rw [u128OfLe, u128ToLe, ofLe_toLe x.isLt, BitVec.ofNat_toNat, BitVec.setWidth_eq]

theorem u16ToLe_ofLe {bs : List UInt8} (h : bs.length = 2) : u16ToLe (u16OfLe bs) = bs := by
  have hlt := ofLe_lt bs
  rw [h] at hlt
  have hmod : (UInt16.ofNat (ofLe bs)).toNat = ofLe bs := by
    rw [UInt16.toNat_ofNat']
    omega
  rw [u16ToLe, u16OfLe, hmod, ← h, toLe_ofLe]

theorem u32ToLe_ofLe {bs : List UInt8} (h : bs.length = 4) : u32ToLe (u32OfLe bs) = bs := by
  have hlt := ofLe_lt bs
  rw [h] at hlt
  have hmod : (UInt32.ofNat (ofLe bs)).toNat = ofLe bs := by
    rw [UInt32.toNat_ofNat']
    omega
  rw [u32ToLe, u32OfLe, hmod, ← h, toLe_ofLe]

theorem u64ToLe_ofLe {bs : List UInt8} (h : bs.length = 8) : u64ToLe (u64OfLe bs) = bs := by
  have hlt := ofLe_lt bs
  rw [h] at hlt
  have hmod : (UInt64.ofNat (ofLe bs)).toNat = ofLe bs := by
    rw [UInt64.toNat_ofNat']
    omega
  rw [u64ToLe, u64OfLe, hmod, ← h, toLe_ofLe]

theorem u128ToLe_ofLe {bs : List UInt8} (h : bs.length = 16) : u128ToLe (u128OfLe bs) = bs := by
  have hlt := ofLe_lt bs
  rw [h] at hlt
  have hmod : (BitVec.ofNat 128 (ofLe bs)).toNat = ofLe bs := by
    rw [BitVec.toNat_ofNat]
    omega
  rw [u128ToLe, u128OfLe, hmod, ← h, toLe_ofLe]

/-- `buf[offset..offset + src.len()].copy_from_slice(src)`. -/
def writeAt (buf : List UInt8) (offset : ℕ) (src : List UInt8) : List UInt8 :=
  buf.take offset ++ src ++ buf.drop (offset + src.length)

end MakerSdk.Base.Bytes
