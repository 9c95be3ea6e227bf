import MakerSdk.Base.Checks
import MakerSdk.Base.Lists
import MakerSdk.Base.Radix
import MakerSdk.Solana.Basic

namespace MakerSdk.Solana

open Base.Bytes Base.Checks Base.Lists Base.Radix

def base58Alphabet : List UInt8 := base58Digits.map (fun c ↦ UInt8.ofNat c.toNat)

inductive WireError where
  | invalidBase58
  | invalidLength (expected actual : ℕ)

/-- A base58 codec, of which `bs58` is one: a text that it decodes is over the alphabet, and it
decodes what it encodes. -/
structure Base58 where
  encode : List UInt8 → List UInt8
  decode : List UInt8 → Except WireError (List UInt8)
  decode_encode : ∀ bytes, decode (encode bytes) = .ok bytes
  alphabet : ∀ text bytes, decode text = .ok bytes → ∀ c ∈ text, c ∈ base58Alphabet

namespace Base58

variable (C : Base58)

def decodeFixed (n : ℕ) (value : List UInt8) : Except WireError (FixedBytes n) := do
  let bytes ← C.decode value
  if h : bytes.length = n then pure ⟨bytes, h⟩ else .error (.invalidLength n bytes.length)

theorem encode_injective : Function.Injective C.encode := by
  intro bytes other h
  have hdecode := C.decode_encode bytes
  rw [h, C.decode_encode other] at hdecode
  exact (Except.ok.inj hdecode).symm

theorem encode_alphabet {bytes : List UInt8} : ∀ c ∈ C.encode bytes, c ∈ base58Alphabet :=
  C.alphabet _ _ (C.decode_encode bytes)

end Base58

section Standard

def encodeBase58 (bytes : List UInt8) : List UInt8 :=
  (recode 256 58 (bytes.map UInt8.toNat)).map (base58Alphabet.getD · 0)

def decodeBase58 (text : List UInt8) : Except WireError (List UInt8) := do
  let digits ← text.mapM fun c ↦ okOr (base58Alphabet.idxOf? c) .invalidBase58
  pure ((recode 58 256 digits).map UInt8.ofNat)

theorem idxOf?_base58Alphabet :
    ∀ d < 58, base58Alphabet.idxOf? (base58Alphabet.getD d 0) = some d := by
  decide

theorem decodeBase58_encodeBase58 (bytes : List UInt8) :
    decodeBase58 (encodeBase58 bytes) = .ok bytes := by
  have hlt : ∀ d ∈ bytes.map UInt8.toNat, d < 256 := by
    intro d hd
    obtain ⟨b, -, rfl⟩ := List.mem_map.mp hd
    exact b.toNat_lt
  simp only [decodeBase58, bind_ok, pure_ok, mapM_ok]
  refine ⟨recode 256 58 (bytes.map UInt8.toNat), ?_, ?_⟩
  · rw [encodeBase58, List.forall₂_map_left_iff, List.forall₂_same]
    intro d hd
    rw [okOr_ok]
    exact idxOf?_base58Alphabet d (recode_lt (by decide) d hd)
  · rw [recode_recode (by decide) hlt, List.map_map]
    exact (List.map_congr_left fun b _ ↦ UInt8.ofNat_toNat).trans (List.map_id _)

theorem decodeBase58_alphabet {text bytes : List UInt8} (h : decodeBase58 text = .ok bytes) :
    ∀ c ∈ text, c ∈ base58Alphabet := by
  intro c hc
  simp only [decodeBase58, bind_ok, mapM_ok] at h
  obtain ⟨digits, hdigits, -⟩ := h
  obtain ⟨d, -, hd⟩ := exists_of_forall₂ (List.Forall₂.flip
    (R := fun d c ↦ okOr (base58Alphabet.idxOf? c) WireError.invalidBase58 = .ok d) hdigits) hc
  rw [okOr_ok] at hd
  by_contra hnot
  rw [List.idxOf?_eq_none_iff.mpr hnot] at hd
  cases hd

/-- The number of a byte string in radix 58, with a digit for each leading zero. -/
def Base58.standard : Base58 where
  encode := encodeBase58
  decode := decodeBase58
  decode_encode := decodeBase58_encodeBase58
  alphabet _ _ h := decodeBase58_alphabet h

end Standard

end MakerSdk.Solana
