import Mathlib.Algebra.Order.Group.Nat
import Mathlib.Data.List.Dedup
import MakerSdk.Base.Largest
import MakerSdk.Vault.Account

namespace MakerSdk.Vault

open Base Base.Bytes Base.Checks Base.Words Solana

section Pda

variable (P : Platform) (programId vault : Pubkey)

def Pda.depositRequest (user : Pubkey) : Pubkey × UInt8 :=
  P.findProgramAddress [ascii "deposit_request", vault.toList, user.toList] programId

def Pda.depositEscrowAuthority (user : Pubkey) : Pubkey × UInt8 :=
  P.findProgramAddress [ascii "deposit_escrow", vault.toList, user.toList] programId

def Pda.withdrawRequest (user : Pubkey) : Pubkey × UInt8 :=
  P.findProgramAddress [ascii "withdraw_request", vault.toList, user.toList] programId

def Pda.withdrawEscrowAuthority (user : Pubkey) : Pubkey × UInt8 :=
  P.findProgramAddress [ascii "withdraw_escrow", vault.toList, user.toList] programId

end Pda

/-- The instructions of `VaultIx` that run a vault: its capital, its cycle and its governance. -/
inductive ManagementIx where
  | processVaultEquity
  | processWithdrawals
  | processDeposits
  | finalizeVaultCycle
  | setAcceptingDeposits
  | processFinalWithdrawal
  | rotateVaultDelegate
  | disableVaultDelegate
  | unlockManagerStake
  | proposeVaultUpdate
  | applyVaultUpdate
  | cancelVaultUpdate
  | acceptGovernance
  | revokeGovernanceNomination
  | closeVault
  | bootstrap
  | topUpManagerStake
  | applyFeeRecipientUpdate
  | startShutdown
  | finalizeShutdown
deriving DecidableEq

def ManagementIx.toByte : ManagementIx → UInt8
  | .processVaultEquity => 37
  | .processWithdrawals => 38
  | .processDeposits => 39
  | .finalizeVaultCycle => 40
  | .setAcceptingDeposits => 44
  | .processFinalWithdrawal => 60
  | .rotateVaultDelegate => 47
  | .disableVaultDelegate => 62
  | .unlockManagerStake => 48
  | .proposeVaultUpdate => 55
  | .applyVaultUpdate => 56
  | .cancelVaultUpdate => 57
  | .acceptGovernance => 58
  | .revokeGovernanceNomination => 63
  | .closeVault => 59
  | .bootstrap => 64
  | .topUpManagerStake => 65
  | .applyFeeRecipientUpdate => 66
  | .startShutdown => 67
  | .finalizeShutdown => 69

structure DepositPayout where
  user : Pubkey
  refund : Option Pubkey
  shares : Option Pubkey
deriving DecidableEq

namespace DepositPayout

def new (user : Pubkey) : DepositPayout := ⟨user, none, none⟩

end DepositPayout

structure WithdrawalPayout where
  user : Pubkey
  sharesBack : Option Pubkey
deriving DecidableEq

namespace WithdrawalPayout

def new (user : Pubkey) : WithdrawalPayout := ⟨user, none⟩

end WithdrawalPayout

/-- Users of one batch: four would overflow a packet. -/
def vaultCapitalBatchUsers : ℕ := 3

def validateBatch (users : List Pubkey) : Except VaultChainError Unit := do
  refuse (users.length = 0) (.invalidInput "vault batch cannot be empty")
  refuse (users.length > vaultCapitalBatchUsers) .batchTooLarge
  refuse (users.dedup.length ≠ users.length) (.invalidInput "vault batch contains duplicate users")

structure ValidBatch (users : List Pubkey) : Prop where
  nonempty : users ≠ []
  few : users.length ≤ vaultCapitalBatchUsers
  distinct : users.Nodup

theorem validateBatch_ok {users : List Pubkey} {u : Unit} :
    validateBatch users = .ok u ↔ ValidBatch users := by
  simp only [validateBatch, bind_ok, refuse_ok, exists_const, not_not, Nat.not_lt,
    List.length_eq_zero_iff]
  constructor
  · rintro ⟨hne, hfew, hdistinct⟩
    refine ⟨hne, hfew, List.dedup_eq_self.mp ?_⟩
    exact (List.dedup_sublist users).eq_of_length hdistinct
  · rintro ⟨hne, hfew, hdistinct⟩
    exact ⟨hne, hfew, by rw [hdistinct.dedup]⟩

section Builders

variable (P : Platform)

namespace VaultManager

def fromVault (programId actor : Pubkey) (vault : VaultRecord) :
    Except VaultChainError VaultManager :=
  VaultManager.new P
    { programId, actor
      vaultId := vault.vaultId
      delegateAuthority := vault.primaryDelegate
      mainMint := vault.mainMint
      secondMint := vault.secondMint
      shareMint := vault.shareMint
      mainTokenProgram := vault.mainTokenProgram
      secondTokenProgram := vault.secondTokenProgram
      secondLegGeneration := vault.secondLegGeneration }

/-- Rebuilds the second leg from the vault; says whether it rolled. -/
def refresh (manager : VaultManager) (vault : VaultAccount) :
    Except VaultChainError (VaultManager × Bool) :=
  match manager.ensureCurrent vault with
  | .error .secondLegRolled => do
    let manager ← VaultManager.new P
      { manager.args with
        secondMint := vault.secondMint
        secondTokenProgram := vault.secondTokenProgram
        secondLegGeneration := vault.secondLegGeneration }
    pure (manager, true)
  | .error error => .error error
  | .ok () => pure (manager, false)

variable (manager : VaultManager)

def command (ix : ManagementIx) (accounts : List AccountMeta) (args : List UInt8) : Instruction :=
  ⟨manager.args.programId, accounts, ix.toByte :: args⟩

def shareAta (user : Pubkey) : Pubkey :=
  deriveAssociatedTokenAddress P user manager.args.shareMint tokenProgramId

def setAcceptingDeposits (accepting : Bool) : Instruction :=
  manager.command .setAcceptingDeposits
    [.newReadonly manager.args.actor true, .new manager.addresses.vault false,
      .newReadonly manager.addresses.delegate false, .newReadonly manager.args.shareMint false,
      .newReadonly manager.addresses.managerStakeAta false]
    [accepting.toUInt8]

def processEquity (priceSection : List AccountMeta) : Instruction :=
  let a := manager.addresses
  manager.command .processVaultEquity
    ([.newReadonly manager.args.actor true, .new a.vault false, .newReadonly a.policy false,
      .newReadonly a.delegate false, .new manager.args.shareMint false, .new a.vaultMainAta false,
      .new a.vaultSecondAta false, .new a.managerStakeAta false,
      .newReadonly manager.args.mainMint false, .newReadonly manager.args.secondMint false,
      .newReadonly manager.args.mainTokenProgram false,
      .newReadonly manager.args.secondTokenProgram false, .newReadonly tokenProgramId false] ++
      priceSection) []

def depositAccounts (payout : DepositPayout) : List AccountMeta :=
  let programId := manager.args.programId
  let vault := manager.addresses.vault
  let user := payout.user
  let escrow := (Pda.depositEscrowAuthority P programId vault user).1
  let mainAta := fun owner ↦
    deriveAssociatedTokenAddress P owner manager.args.mainMint manager.args.mainTokenProgram
  [.new user false, .new (Pda.depositRequest P programId vault user).1 false,
    .newReadonly escrow false, .new (mainAta escrow) false,
    .new (payout.refund.getD (mainAta user)) false,
    .new (payout.shares.getD (manager.shareAta P user)) false,
    .newReadonly (manager.shareAta P user) false]

def batchAccounts : List AccountMeta :=
  [.new manager.args.actor true, .new manager.addresses.vault false,
    .newReadonly manager.addresses.delegate false, .new manager.args.shareMint false,
    .new manager.addresses.vaultMainAta false, .newReadonly manager.args.mainMint false,
    .newReadonly manager.args.mainTokenProgram false, .newReadonly tokenProgramId false,
    .newReadonly systemProgramId false, .newReadonly associatedTokenProgramId false]

def processDeposits (payouts : List DepositPayout) : Except VaultChainError Instruction := do
  validateBatch (payouts.map DepositPayout.user)
  pure (manager.command .processDeposits
    (manager.batchAccounts ++ [.newReadonly manager.addresses.managerStakeAta false] ++
      payouts.flatMap (manager.depositAccounts P)) [])

def withdrawalAccounts (payout : WithdrawalPayout) : List AccountMeta :=
  let programId := manager.args.programId
  let vault := manager.addresses.vault
  let user := payout.user
  let escrow := (Pda.withdrawEscrowAuthority P programId vault user).1
  [.new user false, .new (Pda.withdrawRequest P programId vault user).1 false,
    .newReadonly escrow false,
    .new (deriveAssociatedTokenAddress P escrow manager.args.shareMint tokenProgramId) false,
    .new (deriveAssociatedTokenAddress P user manager.args.mainMint
      manager.args.mainTokenProgram) false,
    .new (payout.sharesBack.getD (manager.shareAta P user)) false,
    .newReadonly (manager.shareAta P user) false]

def processWithdrawals (payouts : List WithdrawalPayout) : Except VaultChainError Instruction := do
  validateBatch (payouts.map WithdrawalPayout.user)
  pure (manager.command .processWithdrawals
    (manager.batchAccounts ++ payouts.flatMap (manager.withdrawalAccounts P)) [])

def processFinalWithdrawal (payout : WithdrawalPayout) : Instruction :=
  let programId := manager.args.programId
  let a := manager.addresses
  let user := payout.user
  let escrow := (Pda.withdrawEscrowAuthority P programId a.vault user).1
  manager.command .processFinalWithdrawal
    [.new manager.args.actor true, .new a.vault false, .newReadonly a.delegate false,
      .new user false, .new (Pda.withdrawRequest P programId a.vault user).1 false,
      .newReadonly escrow false,
      .new (deriveAssociatedTokenAddress P escrow manager.args.shareMint tokenProgramId) false,
      .new manager.args.shareMint false, .new a.vaultMainAta false, .new a.vaultSecondAta false,
      .new (deriveAssociatedTokenAddress P user manager.args.mainMint
        manager.args.mainTokenProgram) false,
      .new (deriveAssociatedTokenAddress P user manager.args.secondMint
        manager.args.secondTokenProgram) false,
      .newReadonly manager.args.mainMint false, .newReadonly manager.args.secondMint false,
      .newReadonly manager.args.mainTokenProgram false,
      .newReadonly manager.args.secondTokenProgram false, .newReadonly tokenProgramId false,
      .new (payout.sharesBack.getD (manager.shareAta P user)) false,
      .newReadonly systemProgramId false, .newReadonly associatedTokenProgramId false,
      .newReadonly (manager.shareAta P user) false] []

def finalizeCycle : Instruction :=
  manager.command .finalizeVaultCycle
    [.newReadonly manager.args.actor true, .new manager.addresses.vault false,
      .newReadonly manager.addresses.policy false, .newReadonly manager.addresses.delegate false,
      .new manager.addresses.vaultMainAta false, .newReadonly manager.args.mainMint false,
      .newReadonly manager.args.mainTokenProgram false] []

end VaultManager

end Builders

structure CapitalBatchShape where
  users : UInt32
  createdDestinations : UInt32
  derivationSteps : UInt32
deriving DecidableEq

def vaultCapitalBatchComputeUnits (shape : CapitalBatchShape) : UInt32 :=
  let users := min shape.users 3
  let created := min shape.createdDestinations (users * 2)
  saturatingAdd32
    (saturatingAdd32 (saturatingAdd32 40000 (users * 13000)) (created * 25000))
    (saturatingMul32 shape.derivationSteps 1800)

section Shape

def batchUsers (len : ℕ) : ℕ := min len vaultCapitalBatchUsers

/-- The bumps that a search passed over. -/
def steps (bump : UInt8) : ℕ := 255 - bump.toNat

/-- The creations that take the most steps, of an array that holds zeros after its last user. -/
def maxCreationSteps (destinationSteps : List ℕ) (count : ℕ) : ℕ :=
  Lists.largest (min count vaultCapitalBatchUsers)
    (destinationSteps ++ List.replicate (vaultCapitalBatchUsers - destinationSteps.length) 0)

variable (P : Platform)

def ataSteps (owner mint tokenProgram : Pubkey) : ℕ :=
  steps (deriveAssociatedTokenAddressWithBump P owner mint tokenProgram).2

namespace VaultManager

variable (manager : VaultManager)

def mainChecks : ℕ := if manager.args.mainTokenProgram = token2022ProgramId then 2 else 1

def mainSteps (owner : Pubkey) : ℕ :=
  ataSteps P owner manager.args.mainMint manager.args.mainTokenProgram

def shareSteps (owner : Pubkey) : ℕ := ataSteps P owner manager.args.shareMint tokenProgramId

def commonSteps (kind : VaultRequestKind) : ℕ :=
  let vault := manager.addresses.vault
  manager.mainSteps P vault * manager.mainChecks +
    match kind with
    | .deposit =>
      let stake := Pda.managerStake P manager.args.programId vault
      steps stake.2 + manager.shareSteps P stake.1
    | .withdraw => 0

def requestSteps (kind : VaultRequestKind) (user : Pubkey) : ℕ :=
  let programId := manager.args.programId
  let vault := manager.addresses.vault
  match kind with
  | .deposit =>
    let escrow := Pda.depositEscrowAuthority P programId vault user
    steps (Pda.depositRequest P programId vault user).2 + steps escrow.2 +
      manager.mainSteps P escrow.1 * manager.mainChecks
  | .withdraw =>
    let escrow := Pda.withdrawEscrowAuthority P programId vault user
    steps (Pda.withdrawRequest P programId vault user).2 + steps escrow.2 +
      manager.shareSteps P escrow.1

def userSteps (kind : VaultRequestKind) (user : Pubkey) : ℕ :=
  manager.requestSteps P kind user + manager.mainSteps P user + manager.shareSteps P user

def batchShape (kind : VaultRequestKind) (users : List Pubkey) (missingShare missingMain : ℕ) :
    CapitalBatchShape :=
  let batch := users.take vaultCapitalBatchUsers
  { users := .ofNat (batchUsers users.length)
    createdDestinations := .ofNat (batchUsers missingShare + batchUsers missingMain)
    derivationSteps := .ofNat ((batch.map (manager.userSteps P kind)).sum +
      maxCreationSteps (batch.map (manager.shareSteps P)) (min missingShare users.length) +
      maxCreationSteps (batch.map (manager.mainSteps P)) (min missingMain users.length) +
      manager.commonSteps P kind) }

def depositBatchShape (users : List Pubkey) (missingShareAccounts missingMainRefundAccounts : ℕ) :
    CapitalBatchShape :=
  manager.batchShape P .deposit users missingShareAccounts missingMainRefundAccounts

def withdrawalBatchShape (users : List Pubkey)
    (missingMainAccounts missingShareReturnAccounts : ℕ) : CapitalBatchShape :=
  manager.batchShape P .withdraw users missingShareReturnAccounts missingMainAccounts

end VaultManager

end Shape

section Cover

variable {P : Platform} {manager : VaultManager} {kind : VaultRequestKind}

theorem steps_le (bump : UInt8) : steps bump ≤ 255 := Nat.sub_le ..

theorem ataSteps_le {owner mint tokenProgram : Pubkey} :
    ataSteps P owner mint tokenProgram ≤ 255 :=
  steps_le _

theorem mainChecks_le : manager.mainChecks ≤ 2 := by
  unfold VaultManager.mainChecks
  split <;> decide

theorem mul_mainChecks_le {n : ℕ} (h : n ≤ 255) : n * manager.mainChecks ≤ 510 :=
  (Nat.mul_le_mul h mainChecks_le).trans (by decide)

theorem commonSteps_le : manager.commonSteps P kind ≤ 1020 := by
  cases kind with
  | deposit =>
    exact Nat.add_le_add (mul_mainChecks_le ataSteps_le) (Nat.add_le_add (steps_le _) ataSteps_le)
  | withdraw =>
    exact (Nat.add_le_add (mul_mainChecks_le ataSteps_le) (Nat.le_refl 0)).trans (by decide)

theorem requestSteps_le (user : Pubkey) : manager.requestSteps P kind user ≤ 1020 := by
  cases kind with
  | deposit =>
    exact Nat.add_le_add (Nat.add_le_add (steps_le _) (steps_le _)) (mul_mainChecks_le ataSteps_le)
  | withdraw =>
    exact (Nat.add_le_add (Nat.add_le_add (steps_le _) (steps_le _)) ataSteps_le).trans (by decide)

theorem userSteps_le (user : Pubkey) : manager.userSteps P kind user ≤ 1530 :=
  Nat.add_le_add (Nat.add_le_add (requestSteps_le user) ataSteps_le) ataSteps_le

theorem sum_map_le {users : List Pubkey} {f : Pubkey → ℕ} {bound : ℕ} (h : ∀ user, f user ≤ bound) :
    (users.map f).sum ≤ users.length * bound := by
  have hle := List.sum_le_card_nsmul (users.map f) bound (by simpa using fun user _ ↦ h user)
  simpa using hle

theorem sum_le_maxCreationSteps {users missing : List Pubkey} {f : Pubkey → ℕ} {count : ℕ}
    (hmissing : missing.Sublist users) (hcount : missing.length ≤ count)
    (hfew : users.length ≤ vaultCapitalBatchUsers) :
    (missing.map f).sum ≤ maxCreationSteps (users.map f) count := by
  refine Lists.sum_le_largest ?_ ?_ fun _ _ ↦ Nat.zero_le _
  · exact ((hmissing.map f).trans (List.sublist_append_left ..)).subperm
  · rw [List.length_map]
    exact Nat.le_min.mpr ⟨hcount, hmissing.length_le.trans hfew⟩

theorem maxCreationSteps_le {users : List Pubkey} {f : Pubkey → ℕ} {count : ℕ}
    (h : ∀ user, f user ≤ 255) : maxCreationSteps (users.map f) count ≤ 765 := by
  have hle : maxCreationSteps (users.map f) count ≤ min count vaultCapitalBatchUsers • 255 := by
    refine Lists.largest_le (fun n hn ↦ ?_) (Nat.zero_le _)
    rcases List.mem_append.mp hn with hn | hn
    · obtain ⟨user, -, rfl⟩ := List.mem_map.mp hn
      exact h user
    · rw [(List.mem_replicate.mp hn).2]
      exact Nat.zero_le _
  exact hle.trans (Nat.mul_le_mul_right 255 (Nat.min_le_right ..))

theorem toNat_mul_of_le {a b : UInt32} {bound : ℕ} (ha : a.toNat ≤ bound)
    (h : bound * b.toNat < 2 ^ 32) : (a * b).toNat = a.toNat * b.toNat := by
  rw [UInt32.toNat_mul]
  exact Nat.mod_eq_of_lt (Nat.lt_of_le_of_lt (Nat.mul_le_mul_right _ ha) h)

theorem toNat_computeUnits (shape : CapitalBatchShape) :
    (vaultCapitalBatchComputeUnits shape).toNat =
      min (40000 + 13000 * min shape.users.toNat 3 +
        25000 * min shape.createdDestinations.toNat (min shape.users.toNat 3 * 2) +
        1800 * shape.derivationSteps.toNat) (2 ^ 32 - 1) := by
  have husers : (min shape.users 3).toNat = min shape.users.toNat 3 := UInt32.toNat_min ..
  have hthree : (min shape.users 3).toNat ≤ 3 := husers ▸ Nat.min_le_right ..
  have hdouble := toNat_mul_of_le (b := 2) hthree (by decide)
  have hcreated := UInt32.toNat_min shape.createdDestinations (min shape.users 3 * 2)
  rw [hdouble] at hcreated
  have hsix : (min shape.createdDestinations (min shape.users 3 * 2)).toNat ≤ 6 := by
    rw [hcreated]
    exact (Nat.min_le_right ..).trans (Nat.mul_le_mul_right 2 hthree)
  have hperUser := toNat_mul_of_le (b := 13000) hthree (by decide)
  have hperCreated := toNat_mul_of_le (b := 25000) hsix (by decide)
  simp only [vaultCapitalBatchComputeUnits, saturatingAdd32, saturatingMul32, toNat_saturate32,
    hperUser, hperCreated, hcreated, husers, UInt32.reduceToNat]
  omega

end Cover

/-- The steps of a batch of which these users' share and main accounts have to be created. -/
def batchWork (P : Platform) (manager : VaultManager) (kind : VaultRequestKind)
    (users shares mains : List Pubkey) : ℕ :=
  manager.commonSteps P kind + (users.map (manager.userSteps P kind)).sum +
    (shares.map (manager.shareSteps P)).sum + (mains.map (manager.mainSteps P)).sum

section Work

variable {P : Platform} {manager : VaultManager} {kind : VaultRequestKind}
  {users shares mains : List Pubkey} {missingShare missingMain : ℕ}

theorem toNat_batchShape_users (hfew : users.length ≤ vaultCapitalBatchUsers) :
    (manager.batchShape P kind users missingShare missingMain).users.toNat = users.length := by
  have hthree : users.length ≤ 3 := hfew
  rw [VaultManager.batchShape, batchUsers, Nat.min_eq_left hfew, UInt32.toNat_ofNat']
  exact Nat.mod_eq_of_lt (by omega)

theorem toNat_batchShape_created :
    (manager.batchShape P kind users missingShare missingMain).createdDestinations.toNat =
      min missingShare 3 + min missingMain 3 := by
  simp only [VaultManager.batchShape, UInt32.toNat_ofNat', batchUsers, vaultCapitalBatchUsers]
  exact Nat.mod_eq_of_lt (by omega)

/-- The steps that a batch declares, as a sum that nothing bounds. -/
def declaredWork (P : Platform) (manager : VaultManager) (kind : VaultRequestKind)
    (users : List Pubkey) (missingShare missingMain : ℕ) : ℕ :=
  (users.map (manager.userSteps P kind)).sum +
    maxCreationSteps (users.map (manager.shareSteps P)) (min missingShare users.length) +
    maxCreationSteps (users.map (manager.mainSteps P)) (min missingMain users.length) +
    manager.commonSteps P kind

theorem declaredWork_le (P : Platform) (manager : VaultManager) (kind : VaultRequestKind)
    (hfew : users.length ≤ vaultCapitalBatchUsers) :
    declaredWork P manager kind users missingShare missingMain ≤ 7140 := by
  have hthree : users.length ≤ 3 := hfew
  have husers : (users.map (manager.userSteps P kind)).sum ≤ users.length * 1530 :=
    sum_map_le userSteps_le
  have hshares : maxCreationSteps (users.map (manager.shareSteps P))
      (min missingShare users.length) ≤ 765 := maxCreationSteps_le fun _ ↦ ataSteps_le
  have hmains : maxCreationSteps (users.map (manager.mainSteps P))
      (min missingMain users.length) ≤ 765 := maxCreationSteps_le fun _ ↦ ataSteps_le
  have hcommon : manager.commonSteps P kind ≤ 1020 := commonSteps_le
  unfold declaredWork
  omega

theorem toNat_batchShape_steps (hfew : users.length ≤ vaultCapitalBatchUsers) :
    (manager.batchShape P kind users missingShare missingMain).derivationSteps.toNat =
      declaredWork P manager kind users missingShare missingMain := by
  have hbound := @declaredWork_le users missingShare missingMain P manager kind hfew
  simp only [VaultManager.batchShape, List.take_of_length_le hfew, UInt32.toNat_ofNat']
  exact Nat.mod_eq_of_lt (by unfold declaredWork at hbound; omega)

theorem batchWork_le (P : Platform) (manager : VaultManager) (kind : VaultRequestKind)
    (hfew : users.length ≤ vaultCapitalBatchUsers)
    (hshares : shares.Sublist users) (hmains : mains.Sublist users)
    (hshare : shares.length ≤ missingShare) (hmain : mains.length ≤ missingMain) :
    batchWork P manager kind users shares mains ≤
      declaredWork P manager kind users missingShare missingMain := by
  have hshareSteps : (shares.map (manager.shareSteps P)).sum ≤ _ :=
    sum_le_maxCreationSteps hshares (Nat.le_min.mpr ⟨hshare, hshares.length_le⟩) hfew
  have hmainSteps : (mains.map (manager.mainSteps P)).sum ≤ _ :=
    sum_le_maxCreationSteps hmains (Nat.le_min.mpr ⟨hmain, hmains.length_le⟩) hfew
  unfold batchWork declaredWork
  omega

/-- What a batch declares is the sum of its costs, none of them cut off. Whichever of its
destinations are missing, as long as they are no more than was declared, it pays for them. -/
theorem computeUnits_cover (hfew : users.length ≤ vaultCapitalBatchUsers)
    (hshares : shares.Sublist users) (hmains : mains.Sublist users)
    (hshare : shares.length ≤ missingShare) (hmain : mains.length ≤ missingMain) :
    (vaultCapitalBatchComputeUnits
        (manager.batchShape P kind users missingShare missingMain)).toNat =
      40000 + 13000 * users.length +
        25000 * min (min missingShare 3 + min missingMain 3) (users.length * 2) +
        1800 * declaredWork P manager kind users missingShare missingMain ∧
    40000 + 13000 * users.length + 25000 * (shares.length + mains.length) +
        1800 * batchWork P manager kind users shares mains ≤
      (vaultCapitalBatchComputeUnits
        (manager.batchShape P kind users missingShare missingMain)).toNat := by
  have hbound := @declaredWork_le users missingShare missingMain P manager kind hfew
  have hsteps := batchWork_le P manager kind hfew hshares hmains hshare hmain
  have hthree : users.length ≤ 3 := hfew
  have hsharesLen := hshares.length_le
  have hmainsLen := hmains.length_le
  rw [toNat_computeUnits, toNat_batchShape_users hfew, toNat_batchShape_created,
    toNat_batchShape_steps hfew]
  omega

end Work

section Sample

def samplePda (seeds : List (List UInt8)) (key : ℕ) (bump : UInt8) :
    List (List UInt8) × Pubkey × Pubkey × UInt8 :=
  (seeds, keyOfNat 1, keyOfNat key, bump)

def sampleAta (owner mint program : Pubkey) (key : ℕ) (bump : UInt8) :
    List (List UInt8) × Pubkey × Pubkey × UInt8 :=
  ([owner.toList, program.toList, mint.toList], associatedTokenProgramId, keyOfNat key, bump)

def sampleVaultKey : Pubkey :=
  keyOfNat 0xa37fb96b6440435c739dd1c08f757a66559f869a95575915739196bb2a13403c
def sampleStakeKey : Pubkey :=
  keyOfNat 0x7f24487f61125727d3dc546ca2bb05f82a3b8aa687d07439a986dad3f28fd607

/-- The request, the escrow authority and its main account, and the user's two accounts. -/
def sampleUser (user request escrow escrowMain share main : ℕ) (bumps : List UInt8) :
    List (List (List UInt8) × Pubkey × Pubkey × UInt8) :=
  [samplePda [ascii "deposit_request", sampleVaultKey.toList, (keyOfNat user).toList] request
      (bumps.getD 0 0),
    samplePda [ascii "deposit_escrow", sampleVaultKey.toList, (keyOfNat user).toList] escrow
      (bumps.getD 1 0),
    sampleAta (keyOfNat escrow) (keyOfNat 5) tokenProgramId escrowMain (bumps.getD 2 0),
    sampleAta (keyOfNat user) (keyOfNat 7) tokenProgramId share (bumps.getD 3 0),
    sampleAta (keyOfNat user) (keyOfNat 5) tokenProgramId main (bumps.getD 4 0)]

def sampleUsers : List (List (List UInt8) × Pubkey × Pubkey × UInt8) :=
  sampleUser 10
      0xbe0f79f81dcac28aa6f67acd6bcfc4468907c07f02872383132397671577549
      0x542865d54c7030ef97f268d86869e2ddd0498ea04749f4d3863be71772958572
      0x39b007789a3f7678ea9e42f73d81067389b8f1715a4b24d7e635b251be11da1
      0x7474bbf16ef784c447fdebb3fac414b0ce9adee63c413e568ebfb739ef58e53f
      0xf48d45c6446e496ae9ea7ca268b3cea99db3123e14eed4339e5af732f0d72f79
      [255, 255, 251, 255, 254] ++
    sampleUser 11
      0xe2a5dcf3fdae3e7f7efb700b288f9ec1295b0af03631a68feae4e70ffceade1e
      0x2689eacf62dac316182ce2bf5f1a439d5bdbd8acdbdfbaa8716312c66a0f6c88
      0xb2f18ac707cef5fa1c48537f594abf5efd8df67b6bc36fe806303f4e895059bd
      0x4d05fd1175ab8f9c512152f68e6916c709ad7b9ec7b5648f20acf7b9fdab0e17
      0xfaddf12f45f75d750cfb8b0219044ae31a26398d42ff3ddd907d0e55afe6c96d
      [255, 251, 255, 255, 254] ++
    sampleUser 12
      0x860fb4e2d40185004018f5279322e2f336ccdb9f1340e6828a9bce1cd16b8f34
      0xf251e7966692d8705b51a082eb6028a9d739e92ce77a6b25513a9546aa9ef19e
      0x6b13380d4c3bb97ad852088c3d95281aa55b4647284e4018a41db3699be9c2e1
      0x90706dabd25173c1de9e6484b032c284fc12d90484b429d7943c0c5f9782e692
      0xd7d6eacfc1a53c2ba3ec44d989a78825709505dead56924f40eece77cac2fca3
      [255, 255, 248, 255, 255] ++
    sampleUser 13
      0xfdc73d07c9bd75b7eeb4efb5ed035c8c78a716d52083f2a1aeec92a4cf6d0354
      0x39557741186240a749e436b228aa1deceb63b9eb9826a4cb4ff1a34eaa62b97a
      0xde9a8a0502fed9a3118ddc997ec8fae29e88ef25278008a32ea64e0428212f6d
      0xe921ec7c446192578f7fb54a5265a4677464a66087f442f1b80cbc8cfd4e0517
      0xca3a4e6bf851a781a3391c7d186942e829749fc6542b9f73b870b5a0264de65c
      [253, 254, 255, 255, 254]

def sampleAddresses : List (List (List UInt8) × Pubkey × Pubkey × UInt8) := [
  samplePda [ascii "vault", (keyOfNat 2).toList]
    0xa37fb96b6440435c739dd1c08f757a66559f869a95575915739196bb2a13403c 255,
  samplePda [ascii "vault_policy", sampleVaultKey.toList]
    0x9514e8545c6b0ef4017def3d57db6a57a9edc94230e4bfaeed909058abe62f0b 255,
  samplePda [ascii "vault_delegate", sampleVaultKey.toList, (keyOfNat 4).toList]
    0xa32a91e009915c89438ecacb77260636da298551ba3f06cfe8ab4215d8fd8c5e 255,
  samplePda [ascii "global_config"]
    0xfdc49fc93f92b7c16719f7b4148bfb9a97ef26418bb124e5cf4df86404137ea3 255,
  samplePda [ascii "swap_venues"]
    0x554981788f3da6736ccabe3e2dd009bb92b3497bdb8662dbd752408d6730420a 253,
  samplePda [ascii "price_route", (keyOfNat 5).toList]
    0x165f901f07e3bfb5314923a246f28d27022c9c368d42767d65f2bd42df8845d3 254,
  samplePda [ascii "price_route", (keyOfNat 6).toList]
    0xbee5ee11d483dd3cebc13d1be54c4d08645c89f16610ff492d515ebca4b0c419 255,
  samplePda [ascii "price_route", (keyOfNat 12).toList]
    0xd11c804d0671091cdc61e9f0629391dda05bd63cb25bc6eaf6dcbc3be80b9bd2 252,
  samplePda [ascii "pending_update", sampleVaultKey.toList, [6]]
    0x4dec6fdb0f7578b5f7c6d73d69ccac08964d3255d3d62bcb611198783e9ecdec 253,
  samplePda [ascii "manager_stake", sampleVaultKey.toList]
    0x7f24487f61125727d3dc546ca2bb05f82a3b8aa687d07439a986dad3f28fd607 255,
  sampleAta sampleVaultKey (keyOfNat 5) tokenProgramId
    0xda047d0d85121fb7714fbd9bbdd19eb21efa04f984afa3ab8a7f57e4160298c 255,
  sampleAta sampleVaultKey (keyOfNat 6) token2022ProgramId
    0xb624ede03cac039f05c95522c0adfb0f932dd03be4b1f21f8269dee4a463003e 255,
  sampleAta sampleVaultKey (keyOfNat 12) tokenProgramId
    0x598109c49222111ec36a146b0e2b4cadeea7663da55269c9930c1f0ea6e3aed9 255,
  sampleAta sampleStakeKey (keyOfNat 7) tokenProgramId
    0x8374781f8615b7e48edc844bf6dfb443664570caf110305ea66e15a9efcf9f73 255]

def sampleSearches : Platform := .ofSearches (sampleAddresses ++ sampleUsers)

def sampleCapitalManager : VaultManager :=
  let args : VaultManagerArgs := ⟨keyOfNat 1, keyOfNat 2, keyOfNat 3, keyOfNat 4, keyOfNat 5,
    keyOfNat 6, keyOfNat 7, tokenProgramId, token2022ProgramId, 0⟩
  ⟨args, .derive sampleSearches args⟩

theorem computeUnits_cover_two :
    (vaultCapitalBatchComputeUnits (sampleCapitalManager.depositBatchShape sampleSearches
      [keyOfNat 10, keyOfNat 11] 2 2)).toNat = 187600 ∧
    40000 + 13000 * 2 + 25000 * (1 + 2) + 1800 * batchWork sampleSearches sampleCapitalManager
        .deposit [keyOfNat 10, keyOfNat 11] [keyOfNat 11] [keyOfNat 10, keyOfNat 11] ≤ 187600 := by
  have hunits : (vaultCapitalBatchComputeUnits (sampleCapitalManager.depositBatchShape
      sampleSearches [keyOfNat 10, keyOfNat 11] 2 2)).toNat = 187600 := by decide +kernel
  have hcover := (@computeUnits_cover sampleSearches sampleCapitalManager .deposit
    [keyOfNat 10, keyOfNat 11] [keyOfNat 11] [keyOfNat 10, keyOfNat 11] 2 2 (by decide)
    (List.Sublist.cons _ (List.Sublist.refl [keyOfNat 11])) (List.Sublist.refl _) (by decide)
    (by decide)).2
  exact ⟨hunits, hunits ▸ hcover⟩

end Sample

end MakerSdk.Vault
