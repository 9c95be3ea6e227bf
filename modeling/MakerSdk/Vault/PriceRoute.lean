import MakerSdk.Vault.Errors

namespace MakerSdk.Vault

open Base.Bytes Solana

def pythPushOracleId : Pubkey :=
  keyOfNat 0xc4aa0128e95d3e1622aa501c585a9eb07b37354c108ea0b791b456dc7eea336

def pythPriceFeedAccount (P : Platform) (feedId : FixedBytes 32) (shard : UInt16) : Pubkey :=
  (P.findProgramAddress [u16ToLe shard, feedId.toList] pythPushOracleId).1

structure PythBrick where
  feedId : FixedBytes 32
  maxAgeSecs : UInt32
  minBandPpm : UInt32
deriving DecidableEq

structure RatioField where
  position : UInt16
  width : UInt8
deriving DecidableEq

inductive FreshnessUnit where
  | epoch
  | slot
  | unixSecond
deriving DecidableEq

structure RatioFreshness where
  unit : FreshnessUnit
  position : UInt16
  maxLag : UInt32
deriving DecidableEq

structure AccountRatioBrick where
  account : Pubkey
  owner : Pubkey
  programData : Pubkey
  deploySlot : UInt64
  discriminator : List UInt8
  minLen : UInt16
  mintAt : Option UInt16
  numerator : RatioField
  denominator : RatioField
  scaleExp : Int8
  minDenominator : UInt64
  min : BitVec 128
  max : BitVec 128
  freshness : Option RatioFreshness
deriving DecidableEq

structure MaturitySource where
  brick : UInt8
  startAt : UInt16
  durationAt : UInt16
deriving DecidableEq

structure MaturityDiscountBrick where
  maturity : UInt64
  apyLowPpm : UInt32
  apyMidPpm : UInt32
  apyHighPpm : UInt32
  maturitySource : Option MaturitySource
deriving DecidableEq

structure GrowthCapBrick where
  anchorRate : BitVec 128
  anchorTs : UInt64
  maxGrowthPpm : UInt32
  maxAnchorAgeSecs : UInt32
deriving DecidableEq

inductive PriceBrick where
  | pyth (brick : PythBrick)
  | accountRatio (brick : AccountRatioBrick)
  | maturityDiscount (brick : MaturityDiscountBrick)
  | clampMax (max : BitVec 128)
  | growthCap (brick : GrowthCapBrick)
deriving DecidableEq

def PriceBrick.accounts (P : Platform) (shard : UInt16) : PriceBrick → List AccountMeta
  | .pyth brick => [.newReadonly (pythPriceFeedAccount P brick.feedId shard) false]
  | .accountRatio ratio => [.newReadonly ratio.account false, .newReadonly ratio.programData false]
  | .maturityDiscount _ | .clampMax _ | .growthCap _ => []

structure PriceRoute where
  mint : Pubkey
  maxSkewSecs : UInt32
  bricks : List PriceBrick
  updatedSlot : UInt64
deriving DecidableEq

namespace PriceRoute

/-- One leg of a price section: its address, then the accounts of its bricks. -/
def accounts (P : Platform) (route : PriceRoute) (address : Pubkey) (shard : UInt16) :
    List AccountMeta :=
  .newReadonly address false :: route.bricks.flatMap (PriceBrick.accounts P shard)

def accountRatios (route : PriceRoute) : List AccountRatioBrick :=
  route.bricks.filterMap fun
    | .accountRatio ratio => some ratio
    | _ => none

theorem accounts_readonly {P : Platform} {route : PriceRoute} {address : Pubkey} {shard : UInt16} :
    ∀ account ∈ route.accounts P address shard,
      account.isWritable = false ∧ account.isSigner = false := by
  intro account hmem
  rcases List.mem_cons.mp hmem with rfl | hmem
  · exact ⟨rfl, rfl⟩
  · obtain ⟨brick, -, hbrick⟩ := List.mem_flatMap.mp hmem
    cases brick with
    | pyth brick =>
      obtain rfl := List.mem_singleton.mp hbrick
      exact ⟨rfl, rfl⟩
    | accountRatio brick =>
      rcases List.mem_pair.mp hbrick with rfl | rfl <;> exact ⟨rfl, rfl⟩
    | _ => exact absurd hbrick List.not_mem_nil

end PriceRoute

end MakerSdk.Vault
