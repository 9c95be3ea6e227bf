import MakerSdk.Base.ByteReader
import MakerSdk.Venues.Jupiter

namespace MakerSdk.Venues

open Base.Bytes Base.Checks Solana Vault
open Base.ByteReader (Read take byte many)

section Parse

def truncated : VaultChainError := invalid "truncated venue account"

def readSelector : Read VaultChainError (List UInt8) := do
  let len ← byte truncated
  let bytes ← take truncated 8
  if ¬(1 ≤ len ∧ len ≤ 8) ∨ (bytes.drop len.toNat).any (· ≠ 0) then
    throw (invalid "invalid venue selector")
  else pure (bytes.take len.toNat)

def readVenue : Read VaultChainError (Pubkey × List (List UInt8)) := do
  let program ← take truncated 32
  let count ← byte truncated
  if ¬(1 ≤ count ∧ count ≤ 8) then throw (invalid "invalid venue selector count")
  else
    let selectors ← many readSelector count.toNat
    pure (.ofList 32 program, selectors)

def readVenues (data : List UInt8) :
    Except VaultChainError (List (Pubkey × List (List UInt8))) := do
  refuse (data.length ≠ 3364 ∨ data.getD 0 0 ≠ 16 ∨ data.getD 1 0 ≠ 1 ∨ data.getD 3 0 > 32)
    (invalid "invalid SwapVenues account")
  (List.range (data.getD 3 0).toNat).mapM fun slot ↦
    (readVenue ⟨slice data (4 + 105 * slot) 105, 0⟩).map Prod.fst

end Parse

/-- The programs a vault may call, each with the leading bytes it may be called with. Only `parse`
makes one. -/
structure SwapVenues where
  venues : List (Pubkey × List (List UInt8))
  parsed : ∃ data, readVenues data = .ok venues

namespace SwapVenues

def parse (data : List UInt8) : Except VaultChainError SwapVenues :=
  match h : readVenues data with
  | .ok venues => .ok ⟨venues, data, h⟩
  | .error e => .error e

def allows (registry : SwapVenues) (hop : VaultSwapHop) : Bool :=
  registry.venues.any fun venue ↦
    venue.1 = hop.program && venue.2.any fun s ↦
      s.isPrefixOf hop.data && hop.amountOffset.all fun amount ↦ s.length ≤ amount.offset.toNat

end SwapVenues

/-- The hop after the swap has written `amount` into its data. -/
def patch (hop : VaultSwapHop) (at' : VaultSwapAmountOffset) (amount : UInt64) : VaultSwapHop :=
  { hop with data := writeAt hop.data at'.offset.toNat (u64ToLe amount) }

theorem allows_patch {registry : SwapVenues} {hop : VaultSwapHop} {at' : VaultSwapAmountOffset}
    (hoffset : hop.amountOffset = some at') (hlen : at'.offset.toNat ≤ hop.data.length)
    (hallows : registry.allows hop = true) (amount : UInt64) :
    registry.allows (patch hop at' amount) = true := by
  simp only [SwapVenues.allows, patch, hoffset, Option.all_some, List.any_eq_true,
    Bool.and_eq_true, decide_eq_true_eq, List.isPrefixOf_iff_prefix] at hallows ⊢
  obtain ⟨venue, hvenue, hprogram, s, hs, hprefix, hle⟩ := hallows
  exact ⟨venue, hvenue, hprogram, s, hs, (prefix_writeAt_iff hlen hle).mpr hprefix, hle⟩

/-- Patching an amount stays within a venue's allowance: whatever is written into the window of a
patched hop, the registry allows the hop as before. -/
theorem patch_allowed :
    (∀ (P : Platform) (manager : VaultManager) (kind : VaultSwapKind) (plan : VaultSwapPlan)
      (registry : SwapVenues), manager.validateSwap P kind plan = .ok () →
      ∀ hop ∈ plan.hops, ∀ at' ∈ hop.amountOffset, registry.allows hop = true →
        at'.offset.toNat + 8 ≤ hop.data.length ∧
          ∀ amount, registry.allows (patch hop at' amount) = true) ∧
    ∀ data at', inputOffset data = .ok at' → 8 ≤ at' ∧ at' + 8 ≤ data.length ∧
      ∀ amount, inputOffset (writeAt data at' (u64ToLe amount)) = .ok at' := by
  constructor
  · intro P manager kind plan registry hplan hop hhop at' hat hallows
    obtain ⟨input, output, -, hvalid⟩ := VaultManager.validateSwap_ok.mp hplan
    obtain ⟨source, index, last, hhopValid⟩ := hvalid.hops.of_mem hhop
    obtain ⟨-, -, hbound, -, -⟩ := hhopValid.amount at' hat
    exact ⟨hbound, allows_patch hat (by omega) hallows⟩
  · intro data at' hat
    obtain ⟨kind, -, hlen, hposition⟩ := inputOffset_ok.mp hat
    obtain ⟨hselector, hbound⟩ := amountPosition_bounds hlen hposition
    exact ⟨hselector, hbound, inputOffset_patch hat⟩

section Sample

def sampleVenuesData : List UInt8 :=
  [16, 1, 0, 1] ++ (keyOfNat 9).toList ++ [1, 1, 3] ++ List.replicate 3325 0

def sampleRegistry : SwapVenues :=
  ⟨[(keyOfNat 9, [[3]])], sampleVenuesData, by decide +kernel⟩

def sampleManager : VaultManager where
  args := ⟨keyOfNat 1, .ofList 32 [2], keyOfNat 3, keyOfNat 4, keyOfNat 5, keyOfNat 6, keyOfNat 7,
    tokenProgramId, tokenProgramId, 1⟩
  addresses := ⟨keyOfNat 11, keyOfNat 12, keyOfNat 13, keyOfNat 14, keyOfNat 15, keyOfNat 16,
    keyOfNat 17, keyOfNat 18, keyOfNat 19, keyOfNat 20, keyOfNat 21⟩

def sampleHop : VaultSwapHop where
  program := keyOfNat 9
  source := keyOfNat 22
  destination := keyOfNat 20
  accounts := [.new (keyOfNat 11) true, w (keyOfNat 22), w (keyOfNat 20)]
  data := amountData 3 0
  amountOffset := some (offset 1 1)

def samplePlan : VaultSwapPlan where
  priceSection := []
  amountIn := 10
  minimumOut := 1
  validUntil := 100
  hops := [⟨keyOfNat 9, keyOfNat 19, keyOfNat 22,
    [.new (keyOfNat 11) true, w (keyOfNat 19), w (keyOfNat 22)], amountData 3 10, none⟩, sampleHop]

theorem patch_allowed_transit :
    sampleRegistry.allows (patch sampleHop (offset 1 1) 77) = true :=
  (patch_allowed.1 (.ofTables [] [] [] []) sampleManager (.rebalance false) samplePlan
    sampleRegistry (by decide +kernel) sampleHop (by decide +kernel) _ rfl (by decide +kernel)).2 77

end Sample

end MakerSdk.Venues
