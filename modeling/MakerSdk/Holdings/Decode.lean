import MakerSdk.Base.Splice
import MakerSdk.Settle.Build

namespace MakerSdk.Holdings

open Base.Bytes Base.Checks Solana Orders Quote Settle
open Sale (ChainError)

structure Account where
  owner : Pubkey
  data : List UInt8
deriving DecidableEq

section Layout

def readPubkey (data : List UInt8) (offset : ℕ) : Except ChainError Pubkey := do
  refuse (offset + 32 > data.length) .invalidAccountData
  pure (.ofList 32 (slice data offset 32))

def readU64 (data : List UInt8) (offset : ℕ) : Except ChainError UInt64 := do
  refuse (offset + 8 > data.length) .invalidAccountData
  pure (u64OfLe (slice data offset 8))

def validateAccount (account : Account) (programId : Pubkey) (expectedDiscriminator : UInt8) :
    Except ChainError Unit := do
  refuse (account.owner ≠ programId) (.accountOwnerMismatch programId account.owner)
  let discriminator ← okOr account.data[0]? .invalidAccountData
  refuse (discriminator ≠ expectedDiscriminator)
    (.accountDiscriminatorMismatch expectedDiscriminator discriminator)
  refuse (account.data[1]? = none ∨ account.data[1]? = some 0) .uninitializedAccount

def currentLayout (account : Account) (programId : Pubkey) (discriminator version : UInt8)
    (len : ℕ) : Except ChainError Unit := do
  validateAccount account programId discriminator
  refuse (account.data.length ≠ len ∨ account.data.getD 1 0 ≠ version) .invalidAccountData

end Layout

def positionDiscriminator : UInt8 := 1
def positionVersion : UInt8 := 2
def positionLen : ℕ := 424
def positionOffsetPositionType : ℕ := 3
def positionOffsetStatus : ℕ := 4
def positionOffsetWriter : ℕ := 8
def positionOffsetHolder : ℕ := 40
def positionOffsetMarket : ℕ := 72
def positionOffsetStrike : ℕ := 104
def positionOffsetQuantity : ℕ := 112
def positionOffsetOrderId : ℕ := 128
def positionFlagTakerBuy : UInt8 := 4

def statusTryFrom (value : UInt8) : Except ChainError PositionStatus :=
  match value.toNat with
  | 0 => .ok .none
  | 1 => .ok .opened
  | 2 => .ok .funded
  | 3 => .ok .liquidated
  | 4 => .ok .settled
  | 5 => .ok .closed
  | _ => .error (.unknownPositionStatus value)

def chainPositionTypeTryFrom (value : UInt8) : Except ChainError ChainPositionType :=
  match value.toNat with
  | 0 => .ok .coveredCall
  | 1 => .ok .cashSecuredPut
  | 2 => .ok .callSpread
  | 3 => .ok .putSpread
  | _ => .error (.invalidPositionType value)

/-- The terms of a position account. A spread's strikes are checked; the strike of a physical
option is taken as it stands. -/
def decodeTerms (product : ChainPositionType) (strike : UInt64) (data : List UInt8) :
    Except ChainError OptionTerms :=
  match product with
  | .coveredCall => .ok (.fromChain (.coveredCall strike))
  | .cashSecuredPut => .ok (.fromChain (.cashSecuredPut strike))
  | .callSpread => do
    let upper ← readU64 data 168
    refuse (¬(strike > 0 ∧ upper > strike)) (.spread .invalidStrikes)
    pure (.fromChain (.callSpread strike upper))
  | .putSpread => do
    let upper ← readU64 data 168
    refuse (¬upper > strike) (.spread .invalidStrikes)
    pure (.fromChain (.putSpread strike upper))

def fromAccount (account : Account) (programId : Pubkey) : Except ChainError PositionInfo := do
  currentLayout account programId positionDiscriminator positionVersion positionLen
  let data := account.data
  let product ← chainPositionTypeTryFrom (data.getD positionOffsetPositionType 0)
  let strike ← readU64 data positionOffsetStrike
  let terms ← decodeTerms product strike data
  let status ← statusTryFrom (data.getD positionOffsetStatus 0)
  let writer ← readPubkey data positionOffsetWriter
  let holder ← readPubkey data positionOffsetHolder
  let marketPda ← readPubkey data positionOffsetMarket
  let quantity ← readU64 data positionOffsetQuantity
  pure {
    terms
    side := if data.getD 5 0 &&& positionFlagTakerBuy ≠ 0 then .buy else .sell
    flags := data.getD 5 0
    flags2 := data.getD 6 0
    flags3 := data.getD 7 0
    status
    writer
    holder
    marketPda
    quantity
    orderId := .ofList 32 (slice data positionOffsetOrderId 32) }

end MakerSdk.Holdings
