import MakerSdk.Base.Checks
import MakerSdk.Solana.Transaction
import MakerSdk.Vault.Errors

namespace MakerSdk.Served

open Base Base.Bytes Base.ByteReader Base.Checks Solana Vault

def truncated : VaultIntentError := .malformed "truncated transaction"

def tooLong : VaultIntentError := .malformed "length prefix too long"

abbrev take (len : ℕ) : Read VaultIntentError (List UInt8) := ByteReader.take truncated len

abbrev byte : Read VaultIntentError UInt8 := ByteReader.byte truncated

def compactFrom (value : ℕ) : List ℕ → Read VaultIntentError ℕ
  | [] => throw tooLong
  | shift :: shifts => do
    let b ← byte
    let value := value ||| ((b &&& 0x7f).toNat <<< shift)
    if b &&& 0x80 = 0 then pure value else compactFrom value shifts

def compact : Read VaultIntentError ℕ := compactFrom 0 [0, 7, 14]

def key : Read VaultIntentError Pubkey := do
  let slice ← take 32
  pure (.ofList 32 slice)

structure CompiledMessage where
  signaturesStart : ℕ
  messageStart : ℕ
  requiredSigners : ℕ
  readonlySigned : ℕ
  readonlyUnsigned : ℕ
  staticKeys : List Pubkey
  instructions : List CompiledInstruction
  lookups : List Lookup
  isVersionZero : Bool
deriving DecidableEq

/-- What the decoder reads past and does not keep. -/
structure Passed where
  signatures : List UInt8
  blockhash : List UInt8
deriving DecidableEq

section Readers

-- The readers below are those of the source, over the reader of a length prefix.
variable (len : Read VaultIntentError ℕ)

def vec : Read VaultIntentError (List UInt8) := do
  let n ← len
  take n

def compiledInstruction : Read VaultIntentError CompiledInstruction := do
  let program ← byte
  let accounts ← vec len
  let data ← vec len
  pure ⟨program, accounts, data⟩

def lookup : Read VaultIntentError Lookup := do
  let table ← key
  let writable ← vec len
  let readonly ← vec len
  pure ⟨table, writable, readonly⟩

def versioned : Read VaultIntentError Bool := do
  let next ← peek
  if next.any (fun b ↦ b &&& 0x80 ≠ 0) then
    let b ← byte
    let version := b &&& 0x7f
    if version ≠ 0 then throw (.unsupportedVersion version) else pure true
  else pure false

structure Header where
  versioned : Bool
  requiredSigners : UInt8
  readonlySigned : UInt8
  readonlyUnsigned : UInt8
deriving DecidableEq

def header : Read VaultIntentError Header := do
  let versioned ← versioned
  let requiredSigners ← byte
  let readonlySigned ← byte
  let readonlyUnsigned ← byte
  pure ⟨versioned, requiredSigners, readonlySigned, readonlyUnsigned⟩

def invalidHeader (signatures : ℕ) (h : Header) (keys : ℕ) : Prop :=
  signatures ≠ h.requiredSigners.toNat ∨ h.readonlySigned.toNat > h.requiredSigners.toNat ∨
    h.requiredSigners.toNat = h.readonlySigned.toNat ∨
      h.requiredSigners.toNat + h.readonlyUnsigned.toNat > keys

instance (signatures : ℕ) (h : Header) (keys : ℕ) : Decidable (invalidHeader signatures h keys) :=
  inferInstanceAs (Decidable (_ ∨ _ ∨ _ ∨ _))

def lookups (isVersioned : Bool) : Read VaultIntentError (List Lookup) := do
  if isVersioned then
    let count ← len
    many (lookup len) count
  else pure []

/-- The message after its header's counts are known to be valid. -/
structure Body where
  header : Header
  staticKeys : List Pubkey
  blockhash : List UInt8
  instructions : List CompiledInstruction
  lookups : List Lookup
deriving DecidableEq

def body (signatures : ℕ) : Read VaultIntentError Body := do
  let header ← header
  let keyCount ← len
  let staticKeys ← many key keyCount
  if invalidHeader signatures header staticKeys.length then
    throw (.malformed "invalid message header")
  else
    let blockhash ← take 32
    let instructionCount ← len
    let instructions ← many (compiledInstruction len) instructionCount
    let lookups ← lookups len header.versioned
    pure ⟨header, staticKeys, blockhash, instructions, lookups⟩

def finished : Read VaultIntentError Bool := fun r ↦ .ok (r.pos == r.bytes.length, r)

def transaction : Read VaultIntentError (CompiledMessage × Passed) := do
  let signatures ← len
  let signaturesStart ← position
  let signatureBytes ← take (signatures * 64)
  let messageStart ← position
  let body ← body len signatures
  let done ← finished
  if done then
    pure (⟨signaturesStart, messageStart, body.header.requiredSigners.toNat,
      body.header.readonlySigned.toNat, body.header.readonlyUnsigned.toNat, body.staticKeys,
      body.instructions, body.lookups, body.header.versioned⟩, ⟨signatureBytes, body.blockhash⟩)
  else throw (.malformed "trailing bytes")

def decodeWith (bytes : List UInt8) : Except VaultIntentError (CompiledMessage × Passed) :=
  (transaction len ⟨bytes, 0⟩).map Prod.fst

end Readers

def CompiledMessage.decode (bytes : List UInt8) : Except VaultIntentError CompiledMessage :=
  (decodeWith compact bytes).map Prod.fst

/-- The decoder of the network, which reads canonical length prefixes only. -/
def canonicalDecode (bytes : List UInt8) : Except VaultIntentError (CompiledMessage × Passed) :=
  decodeWith (ShortVec.read truncated tooLong) bytes

end MakerSdk.Served
