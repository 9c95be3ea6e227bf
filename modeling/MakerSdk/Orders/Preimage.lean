import MakerSdk.Base.Checks
import MakerSdk.Solana.Basic

namespace MakerSdk.Orders

open Base.Bytes Base.Checks Solana

inductive TakerSide where
  | sell
  | buy
deriving DecidableEq

def TakerSide.isTakerBuy : TakerSide → Bool
  | .sell => false
  | .buy => true

inductive PositionType where
  | coveredCall
  | cashSecuredPut
  | callSpread
  | putSpread
  | cashPut
deriving DecidableEq

def PositionType.isSpread : PositionType → Bool
  | .callSpread | .putSpread | .cashPut => true
  | .coveredCall | .cashSecuredPut => false

def PositionType.isPut : PositionType → Bool
  | .cashSecuredPut | .putSpread | .cashPut => true
  | .coveredCall | .callSpread => false

inductive SpreadType where
  | callSpread
  | putSpread
deriving DecidableEq

def SpreadType.toByte : SpreadType → UInt8
  | .callSpread => 2
  | .putSpread => 3

inductive SpreadError where
  | invalidType
  | invalidStrikes
  | invalidPremium
  | overflow
  | invalidFee
  | insufficientCollateral
deriving DecidableEq

def SpreadType.tryFrom (value : UInt8) : Except SpreadError SpreadType :=
  if value = 2 then .ok .callSpread
  else if value = 3 then .ok .putSpread
  else .error .invalidType

@[simp] theorem SpreadType.tryFrom_toByte (kind : SpreadType) : tryFrom kind.toByte = .ok kind := by
  cases kind <;> rfl

def width (lower upper : UInt64) : Except SpreadError UInt64 :=
  if lower ≤ upper ∧ 0 < upper - lower then .ok (upper - lower) else .error .invalidStrikes

def validateStrikes (kind : SpreadType) (lower upper : UInt64) : Except SpreadError UInt64 := do
  refuse (kind = .callSpread ∧ lower = 0) .invalidStrikes
  width lower upper

def validatePremium (kind : SpreadType) (lower upper quantity price : UInt64) :
    Except SpreadError Unit := do
  let width ← validateStrikes kind lower upper
  refuse (quantity = 0 ∨ price = 0 ∨ price ≥ width) .invalidPremium

structure SignerLike where
  pubkeyBytes : FixedBytes 32
  signMessage : List UInt8 → FixedBytes 64

def orderDomainTag : List UInt8 := ascii "ACTA"

def orderPreimageLen : ℕ := 182

structure OrderPreimageArgs where
  chainId : UInt64
  programId : FixedBytes 32
  side : TakerSide
  positionType : PositionType
  market : FixedBytes 32
  strike : UInt64
  quantity : UInt64
  grossPrice : UInt64
  validUntil : UInt64
  maker : FixedBytes 32
  taker : FixedBytes 32
  nonce : UInt64

def fill (len : ℕ) (fields : List (ℕ × List UInt8)) : List UInt8 :=
  fields.foldl (fun buf field ↦ writeAt buf field.1 field.2) (List.replicate len 0)

def buildPhysicalOrderPreimage (args : OrderPreimageArgs) (isPut : Bool) : List UInt8 :=
  let b := 44
  fill orderPreimageLen [
    (0, orderDomainTag),
    (4, u64ToLe args.chainId),
    (12, args.programId.toList),
    (b + 0, [args.side.isTakerBuy.toUInt8]),
    (b + 1, [isPut.toUInt8]),
    (b + 2, args.market.toList),
    (b + 34, u64ToLe args.strike),
    (b + 42, u64ToLe args.quantity),
    (b + 50, u64ToLe args.grossPrice),
    (b + 58, u64ToLe args.validUntil),
    (b + 66, args.maker.toList),
    (b + 98, args.taker.toList),
    (b + 130, u64ToLe args.nonce)]

inductive OrderError where
  | spreadLayoutRequired
  | invalidVerifyingKey (reason : String)
  | invalidSignature
deriving DecidableEq

def buildOrderPreimage (args : OrderPreimageArgs) : Except OrderError (List UInt8) := do
  refuse args.positionType.isSpread .spreadLayoutRequired
  pure (buildPhysicalOrderPreimage args (args.positionType = .cashSecuredPut))

def hashOrderPreimage (P : Platform) (preimage : List UInt8) : FixedBytes 32 := P.sha256 preimage

def computeOrderId (P : Platform) (args : OrderPreimageArgs) :
    Except OrderError (FixedBytes 32) := do
  let preimage ← buildOrderPreimage args
  pure (hashOrderPreimage P preimage)

def spreadOrderPreimageLen : ℕ := 190

structure SpreadOrderPreimageArgs where
  chainId : UInt64
  programId : FixedBytes 32
  side : TakerSide
  positionType : SpreadType
  market : FixedBytes 32
  lowerStrike : UInt64
  upperStrike : UInt64
  quantity : UInt64
  grossPrice : UInt64
  validUntil : UInt64
  maker : FixedBytes 32
  taker : FixedBytes 32
  nonce : UInt64

def buildSpreadOrderPreimage (args : SpreadOrderPreimageArgs) :
    Except SpreadError (List UInt8) := do
  validatePremium args.positionType args.lowerStrike args.upperStrike args.quantity args.grossPrice
  pure (fill spreadOrderPreimageLen [
    (0, orderDomainTag),
    (4, u64ToLe args.chainId),
    (12, args.programId.toList),
    (44, [args.side.isTakerBuy.toUInt8]),
    (45, [args.positionType.toByte]),
    (46, args.market.toList),
    (78, u64ToLe args.lowerStrike),
    (86, u64ToLe args.quantity),
    (94, u64ToLe args.grossPrice),
    (102, u64ToLe args.validUntil),
    (174, u64ToLe args.nonce),
    (182, u64ToLe args.upperStrike),
    (110, args.maker.toList),
    (142, args.taker.toList)])

def computeSpreadOrderId (P : Platform) (args : SpreadOrderPreimageArgs) :
    Except SpreadError (FixedBytes 32) := do
  let preimage ← buildSpreadOrderPreimage args
  pure (P.sha256 preimage)

def verifyOrderIdSignatureBytes (P : Platform) (orderId : FixedBytes 32)
    (signature : FixedBytes 64) (verifyingKeyBytes : FixedBytes 32) : Except OrderError Unit := do
  (P.verifyingKey verifyingKeyBytes).mapError OrderError.invalidVerifyingKey
  refuse (¬ P.verify verifyingKeyBytes orderId.toList signature) .invalidSignature

end MakerSdk.Orders
