import MakerSdk.Orders.Preimage

namespace MakerSdk.Quote

open Orders

inductive OptionTerms where
  | cashPut (strike : UInt64)
  | coveredCall (strike : UInt64)
  | cashSecuredPut (strike : UInt64)
  | callSpread (lowerStrike upperStrike : UInt64)
  | putSpread (lowerStrike upperStrike : UInt64)
deriving DecidableEq

inductive ChainPositionType where
  | coveredCall
  | cashSecuredPut
  | callSpread
  | putSpread
deriving DecidableEq

def ChainPositionType.toByte : ChainPositionType → UInt8
  | .coveredCall => 0
  | .cashSecuredPut => 1
  | .callSpread => 2
  | .putSpread => 3

/-- The contract's representation, in which a cash put is a put spread from zero. -/
inductive ChainTerms where
  | coveredCall (strike : UInt64)
  | cashSecuredPut (strike : UInt64)
  | callSpread (lowerStrike upperStrike : UInt64)
  | putSpread (lowerStrike upperStrike : UInt64)
deriving DecidableEq

namespace ChainTerms

def positionType : ChainTerms → ChainPositionType
  | .coveredCall _ => .coveredCall
  | .cashSecuredPut _ => .cashSecuredPut
  | .callSpread .. => .callSpread
  | .putSpread .. => .putSpread

def strike : ChainTerms → UInt64
  | .coveredCall strike | .cashSecuredPut strike => strike
  | .callSpread lowerStrike _ | .putSpread lowerStrike _ => lowerStrike

end ChainTerms

namespace OptionTerms

def positionType : OptionTerms → PositionType
  | .cashPut _ => .cashPut
  | .coveredCall _ => .coveredCall
  | .cashSecuredPut _ => .cashSecuredPut
  | .callSpread .. => .callSpread
  | .putSpread .. => .putSpread

def isSpread (terms : OptionTerms) : Bool := terms.positionType.isSpread

def strike : OptionTerms → UInt64
  | .cashPut strike | .coveredCall strike | .cashSecuredPut strike => strike
  | .callSpread lowerStrike _ | .putSpread lowerStrike _ => lowerStrike

def upperStrike : OptionTerms → Option UInt64
  | .cashPut strike => some strike
  | .coveredCall _ | .cashSecuredPut _ => none
  | .callSpread _ upperStrike | .putSpread _ upperStrike => some upperStrike

def toChain : OptionTerms → ChainTerms
  | .coveredCall strike => .coveredCall strike
  | .cashSecuredPut strike => .cashSecuredPut strike
  | .callSpread lowerStrike upperStrike => .callSpread lowerStrike upperStrike
  | .putSpread lowerStrike upperStrike => .putSpread lowerStrike upperStrike
  | .cashPut strike => .putSpread 0 strike

def fromChain : ChainTerms → OptionTerms
  | .coveredCall strike => .coveredCall strike
  | .cashSecuredPut strike => .cashSecuredPut strike
  | .callSpread lowerStrike upperStrike => .callSpread lowerStrike upperStrike
  | .putSpread lowerStrike upperStrike =>
    if lowerStrike = 0 then .cashPut upperStrike else .putSpread lowerStrike upperStrike

/-- Terms that the chain's representation keeps apart: no put spread from zero. -/
def Normal (terms : OptionTerms) : Prop :=
  terms.positionType = .putSpread → terms.strike ≠ 0

theorem fromChain_toChain {terms : OptionTerms} (h : terms.Normal) :
    fromChain terms.toChain = terms := by
  cases terms with
  | putSpread lowerStrike upperStrike =>
    have hlower : lowerStrike ≠ 0 := h rfl
    rw [toChain, fromChain, if_neg hlower]
  | _ => rfl

theorem toChain_injective {a b : OptionTerms} (ha : a.Normal) (hb : b.Normal)
    (h : a.toChain = b.toChain) : a = b := by
  rw [← fromChain_toChain ha, h, fromChain_toChain hb]

end OptionTerms

end MakerSdk.Quote
