import MakerSdk.Base.Checks
import MakerSdk.Vault.Errors

namespace MakerSdk.Vault

open Base.Bytes Base.Checks Solana

section Pda

variable (P : Platform) (programId : Pubkey)

def Pda.globalConfig : Pubkey × UInt8 :=
  P.findProgramAddress [ascii "global_config"] programId

def Pda.priceRoute (mint : Pubkey) : Pubkey × UInt8 :=
  P.findProgramAddress [ascii "price_route", mint.toList] programId

def Pda.swapVenues : Pubkey × UInt8 := P.findProgramAddress [ascii "swap_venues"] programId

def Pda.vault (vaultId : FixedBytes 32) : Pubkey × UInt8 :=
  P.findProgramAddress [ascii "vault", vaultId.toList] programId

def Pda.vaultPolicy (vault : Pubkey) : Pubkey × UInt8 :=
  P.findProgramAddress [ascii "vault_policy", vault.toList] programId

def Pda.vaultDelegate (vault delegate : Pubkey) : Pubkey × UInt8 :=
  P.findProgramAddress [ascii "vault_delegate", vault.toList, delegate.toList] programId

def Pda.managerStake (vault : Pubkey) : Pubkey × UInt8 :=
  P.findProgramAddress [ascii "manager_stake", vault.toList] programId

def Pda.position (orderId : FixedBytes 32) : Pubkey × UInt8 :=
  P.findProgramAddress [ascii "position", orderId.toList] programId

def Pda.premiumConfig (premiumMint : Pubkey) : Pubkey × UInt8 :=
  P.findProgramAddress [ascii "config", premiumMint.toList] programId

def makerPdaWithProgramId (makerOwner : Pubkey) : Pubkey × UInt8 :=
  P.findProgramAddress [ascii "maker", makerOwner.toList] programId

def marketPda (underlyingMint quoteMint : Pubkey) (expiryTs : UInt64) (isPut : Bool) : Pubkey :=
  (P.findProgramAddress [ascii "market", underlyingMint.toList, quoteMint.toList,
    u64ToLe expiryTs, [isPut.toUInt8]] programId).1

end Pda

inductive VaultLeg where
  | main
  | second
deriving DecidableEq

inductive VaultStagingStep where
  | stage
  | unstage
deriving DecidableEq

structure VaultStagedSlot where
  mint : Pubkey
  fromLeg : VaultLeg
  amount : UInt64
  stagedAt : UInt64
deriving DecidableEq

structure VaultStagingState where
  generation : UInt64
  openSlot : Option VaultStagedSlot
deriving DecidableEq

inductive VaultPhase where
  | idle
  | active
  | settling
  | processingCapital
deriving DecidableEq

inductive VaultSafety where
  | normal
  | frozen
  | emergencyUnwind
  | withdrawOnly
  | closing
deriving DecidableEq

/-- The fields of a vault account that the manager, the router, the funding needs and the served
checks read. -/
structure VaultAccount where
  vaultId : FixedBytes 32
  phase : VaultPhase
  safety : VaultSafety
  activeExpiry : UInt64
  mainMint : Pubkey
  secondMint : Pubkey
  secondTokenProgram : Pubkey
  staging : VaultStagingState
  secondLegGeneration : UInt64
deriving DecidableEq

inductive VaultIx where
  | openPositionForVaultWriter
  | openPositionForVaultHolder
  | vaultSpotRebalance
  | recoveryConvertToMain
  | openPositionBetweenVaults
  | openSpreadForVaultWriter
  | openSpreadForVaultHolder
  | openSpreadBetweenVaults
  | closingConvertToMain
  | vaultStagingSwap
deriving DecidableEq

def VaultIx.toByte : VaultIx → UInt8
  | .openPositionForVaultWriter => 41
  | .openPositionForVaultHolder => 42
  | .vaultSpotRebalance => 45
  | .recoveryConvertToMain => 46
  | .openPositionBetweenVaults => 61
  | .openSpreadForVaultWriter => 78
  | .openSpreadForVaultHolder => 79
  | .openSpreadBetweenVaults => 80
  | .closingConvertToMain => 68
  | .vaultStagingSwap => 76

structure VaultManagerArgs where
  programId : Pubkey
  vaultId : FixedBytes 32
  actor : Pubkey
  delegateAuthority : Pubkey
  mainMint : Pubkey
  secondMint : Pubkey
  shareMint : Pubkey
  mainTokenProgram : Pubkey
  secondTokenProgram : Pubkey
  secondLegGeneration : UInt64
deriving DecidableEq

structure VaultAddresses where
  vault : Pubkey
  policy : Pubkey
  delegate : Pubkey
  globalConfig : Pubkey
  swapVenues : Pubkey
  mainPriceRoute : Pubkey
  secondPriceRoute : Pubkey
  managerStakeAuthority : Pubkey
  vaultMainAta : Pubkey
  vaultSecondAta : Pubkey
  managerStakeAta : Pubkey
deriving DecidableEq

structure VaultManager where
  args : VaultManagerArgs
  addresses : VaultAddresses
deriving DecidableEq

def VaultAddresses.derive (P : Platform) (args : VaultManagerArgs) : VaultAddresses :=
  let vault := (Pda.vault P args.programId args.vaultId).1
  let managerStakeAuthority := (Pda.managerStake P args.programId vault).1
  { vault := vault
    policy := (Pda.vaultPolicy P args.programId vault).1
    delegate := (Pda.vaultDelegate P args.programId vault args.delegateAuthority).1
    globalConfig := (Pda.globalConfig P args.programId).1
    swapVenues := (Pda.swapVenues P args.programId).1
    mainPriceRoute := (Pda.priceRoute P args.programId args.mainMint).1
    secondPriceRoute := (Pda.priceRoute P args.programId args.secondMint).1
    managerStakeAuthority := managerStakeAuthority
    vaultMainAta := deriveAssociatedTokenAddress P vault args.mainMint args.mainTokenProgram
    vaultSecondAta := deriveAssociatedTokenAddress P vault args.secondMint args.secondTokenProgram
    managerStakeAta :=
      deriveAssociatedTokenAddress P managerStakeAuthority args.shareMint tokenProgramId }

namespace VaultManager

def new (P : Platform) (args : VaultManagerArgs) : Except VaultChainError VaultManager := do
  refuse (args.vaultId = .ofList 32 [] ∨ args.actor = .ofList 32 [] ∨
      args.delegateAuthority = .ofList 32 [])
    (.invalidInput "vault id, actor and delegate authority must be non-zero")
  refuse (args.mainMint = args.secondMint ∨ args.shareMint = args.mainMint ∨
      args.shareMint = args.secondMint)
    (.invalidInput "vault main, second and share mints must be distinct")
  refuse (∃ program ∈ [args.mainTokenProgram, args.secondTokenProgram],
      program ≠ tokenProgramId ∧ program ≠ token2022ProgramId)
    (.invalidInput "pair token program must be legacy SPL or Token-2022")
  pure ⟨args, .derive P args⟩

def Built (P : Platform) (manager : VaultManager) : Prop :=
  VaultManager.new P manager.args = .ok manager

variable {manager : VaultManager}

theorem Built.addresses_eq {P : Platform} (h : manager.Built P) :
    manager.addresses = .derive P manager.args := by
  simp only [Built, new, bind_ok, refuse_ok, exists_const, pure_ok] at h
  obtain ⟨-, -, -, h⟩ := h
  rw [← h]

theorem Built.mints_ne {P : Platform} (h : manager.Built P) :
    manager.args.mainMint ≠ manager.args.secondMint ∧
      manager.args.shareMint ≠ manager.args.mainMint ∧
        manager.args.shareMint ≠ manager.args.secondMint := by
  simp only [Built, new, bind_ok, refuse_ok, exists_const, pure_ok, not_or] at h
  exact h.2.1

theorem Built.token_programs {P : Platform} (h : manager.Built P) :
    (manager.args.mainTokenProgram = tokenProgramId ∨
      manager.args.mainTokenProgram = token2022ProgramId) ∧
    (manager.args.secondTokenProgram = tokenProgramId ∨
      manager.args.secondTokenProgram = token2022ProgramId) := by
  simp only [Built, new, bind_ok, refuse_ok, exists_const, pure_ok] at h
  have hprograms := h.2.2.1
  simp only [List.mem_cons, List.not_mem_nil, or_false, exists_eq_or_imp,
    exists_eq_left] at hprograms
  tauto

def ensureCurrent (manager : VaultManager) (vault : VaultAccount) :
    Except VaultChainError Unit := do
  refuse (vault.vaultId ≠ manager.args.vaultId)
    (.invalidInput "vault account belongs to another vault")
  refuse (vault.secondLegGeneration ≠ manager.args.secondLegGeneration ∨
      vault.secondMint ≠ manager.args.secondMint ∨
        vault.secondTokenProgram ≠ manager.args.secondTokenProgram) .secondLegRolled

structure Current (manager : VaultManager) (vault : VaultAccount) : Prop where
  vaultId : vault.vaultId = manager.args.vaultId
  secondLegGeneration : vault.secondLegGeneration = manager.args.secondLegGeneration
  secondMint : vault.secondMint = manager.args.secondMint
  secondTokenProgram : vault.secondTokenProgram = manager.args.secondTokenProgram

theorem ensureCurrent_ok {vault : VaultAccount} {u : Unit} :
    manager.ensureCurrent vault = .ok u ↔ manager.Current vault := by
  simp only [ensureCurrent, bind_ok, refuse_ok, exists_const, ne_eq, not_not, not_or]
  constructor
  · rintro ⟨h₁, h₂, h₃, h₄⟩
    exact ⟨h₁, h₂, h₃, h₄⟩
  · rintro ⟨h₁, h₂, h₃, h₄⟩
    exact ⟨h₁, h₂, h₃, h₄⟩

def instruction (manager : VaultManager) (ix : VaultIx) (accounts : List AccountMeta)
    (args : List UInt8) : Instruction :=
  ⟨manager.args.programId, accounts, ix.toByte :: args⟩

end VaultManager

end MakerSdk.Vault
