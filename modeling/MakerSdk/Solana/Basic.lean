import MakerSdk.Base.Bytes

namespace MakerSdk.Solana

open Base.Bytes

abbrev Pubkey := FixedBytes 32

instance : LawfulBEq Pubkey := inferInstance

def keyOfNat (value : ℕ) : Pubkey := ⟨(toLe 32 value).reverse, by simp⟩

/-- The signature with this point and this scalar. -/
def signatureOf (r s : ℕ) : FixedBytes 64 :=
  ⟨(keyOfNat r).toList ++ (keyOfNat s).toList, by simp [FixedBytes.length_toList]⟩

def base58Digits : List Char :=
  ['1', '2', '3', '4', '5', '6', '7', '8', '9', 'A', 'B', 'C', 'D', 'E', 'F', 'G', 'H', 'J', 'K',
    'L', 'M', 'N', 'P', 'Q', 'R', 'S', 'T', 'U', 'V', 'W', 'X', 'Y', 'Z', 'a', 'b', 'c', 'd',
    'e', 'f', 'g', 'h', 'i', 'j', 'k', 'm', 'n', 'o', 'p', 'q', 'r', 's', 't', 'u', 'v', 'w',
    'x', 'y', 'z']

def pubkey (text : String) : Pubkey :=
  keyOfNat (text.toList.foldl (fun n c ↦ n * 58 + base58Digits.idxOf c) 0)

structure AccountMeta where
  pubkey : Pubkey
  isSigner : Bool
  isWritable : Bool
deriving DecidableEq

def AccountMeta.new (key : Pubkey) (signer : Bool) : AccountMeta := ⟨key, signer, true⟩

def AccountMeta.newReadonly (key : Pubkey) (signer : Bool) : AccountMeta := ⟨key, signer, false⟩

structure Instruction where
  programId : Pubkey
  accounts : List AccountMeta
  data : List UInt8
deriving DecidableEq

structure AddressLookupTableAccount where
  key : Pubkey
  addresses : List Pubkey

/-- What the SDK takes from the crates it links: program addresses, SHA-256, Ed25519 and
base64. Everything below is stated over an arbitrary platform. -/
structure Platform where
  findProgramAddress : List (List UInt8) → Pubkey → Pubkey × UInt8
  sha256 : List UInt8 → FixedBytes 32
  verifyingKey : FixedBytes 32 → Except String Unit
  verify : FixedBytes 32 → List UInt8 → FixedBytes 64 → Bool
  base64Decode : String → Option (List UInt8)

/-- The platform of some finite tables: program addresses by seeds and program, digests by
input, the texts of byte strings, and the triples of key, message and signature that verify. -/
def Platform.ofTables (addresses : List (List (List UInt8) × Pubkey × Pubkey))
    (digests : List (List UInt8 × FixedBytes 32)) (texts : List (String × List UInt8))
    (signatures : List (FixedBytes 32 × List UInt8 × FixedBytes 64)) : Platform where
  findProgramAddress seeds program :=
    (((addresses.find? (fun entry ↦ entry.1 = seeds ∧ entry.2.1 = program)).map
      (fun entry ↦ entry.2.2)).getD program, 255)
  sha256 input := ((digests.find? (fun entry ↦ entry.1 = input)).map Prod.snd).getD (.ofList 32 [])
  verifyingKey _ := .ok ()
  verify key message signature := (key, message, signature) ∈ signatures
  base64Decode text := (texts.find? (fun entry ↦ entry.1 = text)).map Prod.snd

/-- The platform whose searches for program addresses end as listed, with these bumps. -/
def Platform.ofSearches (searches : List (List (List UInt8) × Pubkey × Pubkey × UInt8)) :
    Platform :=
  { Platform.ofTables [] [] [] [] with
    findProgramAddress := fun seeds program ↦
      ((searches.find? (fun entry ↦ entry.1 = seeds ∧ entry.2.1 = program)).map
        (fun entry ↦ entry.2.2)).getD (program, 255) }

structure Encodings where
  base64Encode : List UInt8 → String
  base58Encode : List UInt8 → String

/-- The encodings of some finite tables, each of byte strings and their texts. -/
def Encodings.ofTables (base64 base58 : List (String × List UInt8)) : Encodings where
  base64Encode bytes := ((base64.find? (fun entry ↦ entry.2 = bytes)).map Prod.fst).getD ""
  base58Encode bytes := ((base58.find? (fun entry ↦ entry.2 = bytes)).map Prod.fst).getD ""

theorem Encodings.mem_of_base64Encode {base64 base58 : List (String × List UInt8)}
    {bytes : List UInt8} {text : String} (hne : text ≠ "")
    (h : (Encodings.ofTables base64 base58).base64Encode bytes = text) :
    (text, bytes) ∈ base64 := by
  simp only [ofTables] at h
  cases hfind : base64.find? (fun entry ↦ entry.2 = bytes) with
  | none =>
    rw [hfind] at h
    exact absurd h.symm hne
  | some entry =>
    rw [hfind] at h
    have hbytes : entry.2 = bytes := by simpa using List.find?_some hfind
    have hentry : entry = (text, bytes) := Prod.ext h hbytes
    rw [← hentry]
    exact List.mem_of_find?_eq_some hfind

def associatedTokenProgramId : Pubkey :=
  keyOfNat 0x8c97258f4e2489f1bb3d1029148e0d830b5a1399daff1084048e7bd8dbe9f859
def systemProgramId : Pubkey := keyOfNat 0
def tokenProgramId : Pubkey :=
  keyOfNat 0x6ddf6e1d765a193d9cbe146ceeb79ac1cb485ed5f5b37913a8cf5857eff00a9
def token2022ProgramId : Pubkey :=
  keyOfNat 0x6ddf6e1ee758fde18425dbce46ccddab61afc4d83b90d27febdf928d8a18bfc

example :
    associatedTokenProgramId = pubkey "ATokenGPvbdGVxr1b2hvZbsiqW5xWH25efTNsLJA8knL" ∧
    systemProgramId = pubkey "11111111111111111111111111111111" ∧
    tokenProgramId = pubkey "TokenkegQfeZyiNwAJbNbGKPFXCWuBvf9Ss623VQ5DA" ∧
    token2022ProgramId = pubkey "TokenzQdBNbLqP5VEhdkAS6EPFLC1PHnBqCXEpPxuEb" := by
  decide +kernel

def ascii (text : String) : List UInt8 := text.toList.map (fun c ↦ UInt8.ofNat c.toNat)

def deriveAssociatedTokenAddressWithBump (P : Platform) (owner mint tokenProgram : Pubkey) :
    Pubkey × UInt8 :=
  P.findProgramAddress [owner.toList, tokenProgram.toList, mint.toList] associatedTokenProgramId

def deriveAssociatedTokenAddress (P : Platform) (owner mint tokenProgram : Pubkey) : Pubkey :=
  (deriveAssociatedTokenAddressWithBump P owner mint tokenProgram).1

end MakerSdk.Solana
