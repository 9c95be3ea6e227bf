import MakerSdk.Base.Rounding
import MakerSdk.Base.Splice
import MakerSdk.Base.Words
import MakerSdk.Vault.Swap

namespace MakerSdk.Venues

open Base.Bytes Base.Checks Base.Words Base.Rounding Solana Vault

def invalid (message : String) : VaultChainError := .invalidInput message

def clmm : Pubkey := pubkey "XPC1MM4dYACDfykNuXYZ5una2DsMDWL24CrYubCvarC"
def genericSy : Pubkey := pubkey "XP1BRLn8eCYSygrd8er5P4GKdzqKbC3DLoSsS5UYVZy"
def core : Pubkey := pubkey "ExponentnaRg3CQbW6dqQNZKXp7gtZ9DGMp1cwC4HAS7"
def indexOne : UInt64 := 1000000000000

section Hops

def w (key : Pubkey) : AccountMeta := .new key false

def ro (key : Pubkey) : AccountMeta := .newReadonly key false

def offset (num den : UInt64) : VaultSwapAmountOffset := ⟨1, num, den⟩

def amountData (tag : UInt8) (amount : UInt64) : List UInt8 := tag :: u64ToLe amount

/-- One entry of a venue's account list: a key already resolved only gains write access. -/
def resolveEntry (table : List Pubkey) (out : List AccountMeta) (entry : UInt8 × Bool) :
    Except VaultChainError (List AccountMeta) := do
  let key ← okOr table[entry.1.toNat]? (invalid "Exponent ALT index missing")
  if out.any (·.pubkey = key) then
    pure (out.modify (out.findIdx (·.pubkey = key)) fun account ↦
      { account with isWritable := account.isWritable || entry.2 })
  else pure (out ++ [⟨key, false, entry.2⟩])

def resolve (indices : List (UInt8 × Bool)) (table : List Pubkey) :
    Except VaultChainError (List AccountMeta) :=
  indices.foldlM (resolveEntry table) []

def eventAuthority (P : Platform) (program : Pubkey) : Pubkey :=
  (P.findProgramAddress [ascii "__event_authority"] program).1

end Hops

structure Market where
  address : Pubkey
  lookupTable : Pubkey
  pt : Pubkey
  sy : Pubkey
  vault : Pubkey
  ptEscrow : Pubkey
  syEscrow : Pubkey
  feeSy : Pubkey
  feePt : Pubkey
  ticks : Pubkey
  cpi : List (UInt8 × Bool)

def Market.trade (P : Platform) (market : Market) (owner : Pubkey) (amount : UInt64) (buy : Bool)
    (table : List Pubkey) (patch : Bool) : Except VaultChainError VaultSwapHop := do
  let sy := deriveAssociatedTokenAddress P owner market.sy tokenProgramId
  let pt := deriveAssociatedTokenAddress P owner market.pt tokenProgramId
  let accounts := [.new owner true, w market.address, w market.ticks, w sy, w pt,
    w market.syEscrow, w market.ptEscrow, ro market.lookupTable, ro tokenProgramId, ro genericSy,
    w market.feeSy, w market.feePt, ro (eventAuthority P clmm), ro clmm]
  let resolved ← resolve market.cpi table
  let remaining :=
    if resolved.any (·.pubkey = market.vault) then resolved else resolved ++ [ro market.vault]
  pure {
    program := clmm
    source := if buy then sy else pt
    destination := if buy then pt else sy
    accounts := accounts ++ remaining
    data := amountData 3 amount ++ [buy.toUInt8, 0, 0]
    amountOffset := if patch then some (offset 1 1) else none }

/-- An SPL stake-pool Generic SY. Its account is refused where the index is zero. -/
structure GenericSy where
  address : Pubkey
  mint : Pubkey
  base : Pubkey
  index : UInt64
  interfaceAccounts : List Pubkey
  emissions : List Pubkey
  index_ne_zero : index ≠ 0

namespace GenericSy

variable (sy : GenericSy)

def mintAmount (base : UInt64) : Checked VaultChainError UInt64 := do
  let next ← word 128 (base.toNat + 1)
  let product ← word 128 (next * sy.index.toNat)
  let scaled ← quotient (← difference product 1) indexOne.toNat
  narrow (invalid "SY mint amount overflow") scaled

def hop (P : Platform) (owner baseProgram : Pubkey) (amount : UInt64) (mint patch : Bool) :
    Checked VaultChainError VaultSwapHop := do
  let base := deriveAssociatedTokenAddress P owner sy.base baseProgram
  let token := deriveAssociatedTokenAddress P owner sy.mint tokenProgramId
  let escrow := deriveAssociatedTokenAddress P sy.address sy.base baseProgram
  let accounts :=
    if mint then
      [.new owner true, w sy.address, w sy.mint, ro sy.base, w base, w escrow, w token,
        ro baseProgram, ro tokenProgramId]
    else
      [.new owner true, w sy.address, w base, w escrow, w token, w sy.mint, ro sy.base,
        ro baseProgram, ro tokenProgramId]
  let spent ← if patch then pure 0 else if mint then sy.mintAmount amount else pure amount
  pure {
    program := genericSy
    source := if mint then base else token
    destination := if mint then token else base
    accounts := accounts ++ sy.interfaceAccounts.map w ++ sy.emissions.map ro
    data := amountData (if mint then 1 else 2) spent
    amountOffset :=
      if patch then some (if mint then offset sy.index indexOne else offset 1 1) else none }

end GenericSy

theorem syHop_program {P : Platform} {sy : GenericSy} {owner baseProgram : Pubkey}
    {amount : UInt64} {mint patch : Bool} {hop : VaultSwapHop}
    (h : sy.hop P owner baseProgram amount mint patch = .ok hop) : hop.program = genericSy := by
  cases patch <;> cases mint
  all_goals
    simp only [GenericSy.hop, Bool.false_eq_true, if_true, if_false, bind_ok, pure_ok] at h
    obtain ⟨spent, -, rfl⟩ := h
    rfl

structure CoreVault where
  address : Pubkey
  sy : Pubkey
  yt : Pubkey
  pt : Pubkey
  escrowSy : Pubkey
  yieldPosition : Pubkey
  lookupTable : Pubkey
  maturity : UInt64
  authority : Pubkey
  cpi : List (UInt8 × Bool)

def CoreVault.merge (P : Platform) (vault : CoreVault) (owner : Pubkey) (amount now : UInt64)
    (table : List Pubkey) : Except VaultChainError VaultSwapHop := do
  refuse (now ≤ vault.maturity) (invalid "PT redemption requires maturity")
  let sy := deriveAssociatedTokenAddress P owner vault.sy tokenProgramId
  let pt := deriveAssociatedTokenAddress P owner vault.pt tokenProgramId
  let yt := deriveAssociatedTokenAddress P owner vault.yt tokenProgramId
  let accounts := [.new owner true, w vault.authority, w vault.address, w sy, w vault.escrowSy,
    w yt, w pt, w vault.yt, w vault.pt, ro tokenProgramId, ro genericSy, ro vault.lookupTable,
    w vault.yieldPosition, ro (eventAuthority P core), ro core]
  let resolved ← resolve vault.cpi table
  pure {
    program := core
    source := pt
    destination := sy
    accounts := accounts ++ resolved
    data := amountData 5 amount
    amountOffset := none }

/-- What the program writes into a patched hop for the `received` amount:
`floor(((received + 1) * num - 1) / den)`. -/
def written (amount : VaultSwapAmountOffset) (received : UInt64) : ℕ :=
  ((received.toNat + 1) * amount.num.toNat - 1) / amount.den.toNat

/-- The same as the record of the patch describes it: the largest `a` with
`floor(a * den / num) == received`, where there is one. -/
def Writes (amount : VaultSwapAmountOffset) (received : UInt64) (a : ℕ) : Prop :=
  IsGreatest {a : ℕ | a * amount.den.toNat / amount.num.toNat = received.toNat} a

section Mint

variable (sy : GenericSy) (base : UInt64)

def mintScaled : ℕ := ((base.toNat + 1) * sy.index.toNat - 1) / 1000000000000

theorem index_pos : 0 < sy.index.toNat :=
  Nat.pos_of_ne_zero fun h ↦ sy.index_ne_zero (UInt64.toNat_inj.mp h)

theorem mintAmount_eq :
    sy.mintAmount base = narrow (invalid "SY mint amount overflow") (mintScaled sy base) := by
  have hbase := base.toNat_lt
  have hindex := sy.index.toNat_lt
  have hpos := index_pos sy
  have hle : (base.toNat + 1) * sy.index.toNat ≤ 2 ^ 64 * (2 ^ 64 - 1) :=
    Nat.mul_le_mul (by omega) (by omega)
  have hone : 1 ≤ (base.toNat + 1) * sy.index.toNat := Nat.mul_pos (Nat.succ_pos _) hpos
  rw [GenericSy.mintAmount, word_of_lt (by omega), ok_bind,
    word_of_lt (hle.trans_lt (by decide)), ok_bind, difference_of_le hone, ok_bind,
    quotient_of_pos (by decide), ok_bind]
  rfl

theorem hop_mint {P : Platform} {owner baseProgram : Pubkey} {patched direct : VaultSwapHop}
    (hpatched : sy.hop P owner baseProgram base true true = .ok patched)
    (hdirect : sy.hop P owner baseProgram base true false = .ok direct) :
    patched.amountOffset = some (offset sy.index indexOne) ∧
      ∃ a, sy.mintAmount base = .ok a ∧
        direct = { patched with
          data := writeAt patched.data 1 (u64ToLe a)
          amountOffset := none } := by
  simp only [GenericSy.hop, if_true, bind_ok, pure_ok] at hpatched
  simp only [GenericSy.hop, if_true, Bool.false_eq_true, if_false, bind_ok, pure_ok] at hdirect
  obtain ⟨zero, rfl, rfl⟩ := hpatched
  obtain ⟨a, ha, rfl⟩ := hdirect
  refine ⟨rfl, a, ha, ?_⟩
  have hdata : writeAt (amountData 1 0) 1 (u64ToLe a) = amountData 1 a := by
    simp [writeAt, amountData]
  simp only [hdata]

end Mint

/-- Minting spends the largest amount whose conversion stays within `base`, which is what the
patched hop is specified to write. -/
theorem mintAmount_exact (sy : GenericSy) (base : UInt64) :
    let amount := ((base.toNat + 1) * sy.index.toNat - 1) / 1000000000000
    (sy.mintAmount base =
      if amount < 2 ^ 64 then .ok (.ofNat amount)
      else .error (.raised (.invalidInput "SY mint amount overflow"))) ∧
    IsGreatest {a : ℕ | a * 1000000000000 / sy.index.toNat ≤ base.toNat} amount ∧
    (1000000000000 ≤ sy.index.toNat → amount * 1000000000000 / sy.index.toNat = base.toNat) ∧
    written (offset sy.index indexOne) base = amount ∧
    (1000000000000 ≤ sy.index.toNat → Writes (offset sy.index indexOne) base amount) ∧
    (∀ a, Writes (offset sy.index indexOne) base a → a = amount) ∧
    ∀ P owner baseProgram patched direct,
      sy.hop P owner baseProgram base true true = .ok patched →
      sy.hop P owner baseProgram base true false = .ok direct →
      ∃ amountOffset, patched.amountOffset = some amountOffset ∧
        ∃ a : UInt64, a.toNat = written amountOffset base ∧
          direct = { patched with
            data := writeAt patched.data amountOffset.offset.toNat (u64ToLe a)
            amountOffset := none } := by
  have hpos := index_pos sy
  have hgreatest : IsGreatest {a : ℕ | a * 1000000000000 / sy.index.toNat ≤ base.toNat}
      (mintScaled sy base) := (galois_scale hpos (by decide)).isGreatest_u
  refine ⟨?_, hgreatest, fun h ↦ scale_inverse hpos (by decide) h _, rfl, fun h ↦ ⟨?_, ?_⟩,
    fun a ha ↦ isGreatest_scale hpos (by decide) ha, ?_⟩
  · rw [mintAmount_eq]
    rfl
  · exact scale_inverse hpos (by decide) h _
  · intro a ha
    exact hgreatest.2 (le_of_eq ha)
  · intro P owner baseProgram patched direct hpatched hdirect
    obtain ⟨hoffset, a, ha, hdirect⟩ := hop_mint sy base hpatched hdirect
    rw [mintAmount_eq, narrow_ok] at ha
    exact ⟨_, hoffset, a, ha, hdirect⟩

def sampleSy : GenericSy :=
  ⟨keyOfNat 1, keyOfNat 2, keyOfNat 3, 1500000000000, [], [], by decide⟩

theorem mintAmount_exact_half :
    sampleSy.mintAmount 5 = .ok 8 ∧ Writes (offset sampleSy.index indexOne) 5 8 := by
  obtain ⟨hmint, -, -, -, hwrites, -⟩ := mintAmount_exact sampleSy 5
  have heq : ((UInt64.toNat 5 + 1) * sampleSy.index.toNat - 1) / 1000000000000 = 8 := by
    decide +kernel
  have hindex : 1000000000000 ≤ sampleSy.index.toNat := by decide +kernel
  rw [heq] at hmint
  exact ⟨hmint, heq ▸ hwrites hindex⟩

end MakerSdk.Venues
