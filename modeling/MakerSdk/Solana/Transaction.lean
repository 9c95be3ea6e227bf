import MakerSdk.Base.ShortVec
import MakerSdk.Solana.Basic

namespace MakerSdk.Solana

open Base Base.Bytes

structure Lookup where
  table : Pubkey
  writable : List UInt8
  readonly : List UInt8
deriving DecidableEq

structure CompiledInstruction where
  program : UInt8
  accounts : List UInt8
  data : List UInt8
deriving DecidableEq

structure Flags where
  signer : Bool
  writable : Bool
deriving DecidableEq

structure Transaction where
  signatures : List (FixedBytes 64)
  versionZero : Bool
  requiredSigners : UInt8
  readonlySigned : UInt8
  readonlyUnsigned : UInt8
  staticKeys : List Pubkey
  blockhash : FixedBytes 32
  instructions : List CompiledInstruction
  lookups : List Lookup
deriving DecidableEq

def encodeVec (bytes : List UInt8) : List UInt8 := ShortVec.encode bytes.length ++ bytes

def CompiledInstruction.encode (ix : CompiledInstruction) : List UInt8 :=
  ix.program :: (encodeVec ix.accounts ++ encodeVec ix.data)

def Lookup.encode (l : Lookup) : List UInt8 :=
  l.table.toList ++ (encodeVec l.writable ++ encodeVec l.readonly)

namespace Transaction

variable (t : Transaction)

def encodeHeader : List UInt8 :=
  (if t.versionZero then [0x80] else []) ++
    [t.requiredSigners, t.readonlySigned, t.readonlyUnsigned]

def encodeLookups : List UInt8 :=
  if t.versionZero then ShortVec.encode t.lookups.length ++ t.lookups.flatMap Lookup.encode else []

def encodeMessage : List UInt8 :=
  t.encodeHeader ++ (ShortVec.encode t.staticKeys.length ++
    (t.staticKeys.flatMap FixedBytes.toList ++ (t.blockhash.toList ++
      (ShortVec.encode t.instructions.length ++
        (t.instructions.flatMap CompiledInstruction.encode ++ t.encodeLookups)))))

def encode : List UInt8 :=
  ShortVec.encode t.signatures.length ++
    (t.signatures.flatMap FixedBytes.toList ++ t.encodeMessage)

structure Encodable : Prop where
  signatures : t.signatures.length ≤ 65535
  staticKeys : t.staticKeys.length ≤ 65535
  instructions : t.instructions.length ≤ 65535
  lookups : t.lookups.length ≤ 65535
  instruction : ∀ ix ∈ t.instructions, ix.accounts.length ≤ 65535 ∧ ix.data.length ≤ 65535
  lookup : ∀ l ∈ t.lookups, l.writable.length ≤ 65535 ∧ l.readonly.length ≤ 65535

/-- One signature for each required signer, a writable signer to pay, static keys for every
count of the header, and lookups only where the version has them. -/
structure HeaderValid : Prop where
  signatures : t.signatures.length = t.requiredSigners.toNat
  payer : t.readonlySigned.toNat < t.requiredSigners.toNat
  keys : t.requiredSigners.toNat + t.readonlyUnsigned.toNat ≤ t.staticKeys.length
  legacy : t.versionZero = false → t.lookups = [] ∧ t.requiredSigners.toNat < 128

def staticFlags (i : ℕ) : Flags :=
  if i < t.requiredSigners.toNat then
    ⟨true, i < t.requiredSigners.toNat - t.readonlySigned.toNat⟩
  else ⟨false, i < t.staticKeys.length - t.readonlyUnsigned.toNat⟩

end Transaction

variable (tables : List AddressLookupTableAccount)

def tableAddresses (key : Pubkey) : List Pubkey :=
  ((tables.find? (fun table ↦ table.key = key)).map (fun table ↦ table.addresses)).getD []

def Lookup.Supplied (l : Lookup) : Prop :=
  (∃ table ∈ tables, table.key = l.table) ∧
    ∀ i ∈ l.writable ++ l.readonly, i.toNat < (tableAddresses tables l.table).length

def Lookup.loaded (l : Lookup) (writable : Bool) : List (Pubkey × Flags) :=
  ((if writable then l.writable else l.readonly).filterMap
    (fun i ↦ (tableAddresses tables l.table)[i.toNat]?)).map (fun key ↦ (key, ⟨false, writable⟩))

/-- The accounts a transaction loads: its static keys, then what every table gives as
writable, then what every table gives as read-only. -/
def Transaction.loadedKeys (t : Transaction) : List (Pubkey × Flags) :=
  t.staticKeys.mapIdx (fun i key ↦ (key, t.staticFlags i)) ++
    (t.lookups.flatMap (fun l ↦ l.loaded tables true) ++
      t.lookups.flatMap (fun l ↦ l.loaded tables false))

structure CompiledInstruction.Resolves (keys : List (Pubkey × Flags)) (c : CompiledInstruction)
    (ix : Instruction) : Prop where
  program : keys[c.program.toNat]?.map Prod.fst = some ix.programId
  accounts : List.Forall₂
    (fun i account ↦ keys[UInt8.toNat i]? =
      some (account.pubkey, ⟨account.isSigner, account.isWritable⟩)) c.accounts ix.accounts
  data : ix.data = c.data

def CompiledInstruction.outline (keys : List (Pubkey × Flags)) (c : CompiledInstruction) :
    Option Pubkey × List (Option Pubkey) × List UInt8 :=
  (keys[c.program.toNat]?.map Prod.fst, c.accounts.map (fun i ↦ keys[i.toNat]?.map Prod.fst),
    c.data)

def Instruction.outline (ix : Instruction) : Option Pubkey × List (Option Pubkey) × List UInt8 :=
  (some ix.programId, ix.accounts.map (fun account ↦ some account.pubkey), ix.data)

structure Transaction.WellFormed (t : Transaction) : Prop where
  encodable : t.Encodable
  header : t.HeaderValid
  supplied : ∀ l ∈ t.lookups, l.Supplied tables
  distinct : ((t.loadedKeys tables).map Prod.fst).Nodup
  indexes : ∀ c ∈ t.instructions, ∀ i ∈ c.program :: c.accounts,
    i.toNat < (t.loadedKeys tables).length

end MakerSdk.Solana
