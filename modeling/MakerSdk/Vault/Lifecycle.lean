import MakerSdk.Served.Budget
import MakerSdk.Vault.Governance

namespace MakerSdk.Vault

open Base Base.Bytes Base.Checks Solana

def createDestinationAta (P : Platform) (payer owner mint program : Pubkey) : Instruction :=
  Served.createAtaIdempotent P payer owner mint program

namespace VaultManager

variable (P : Platform) (manager : VaultManager)

def ownerInstruction (ix : ManagementIx) (data : List UInt8) : Instruction :=
  manager.command ix
    [.newReadonly manager.args.actor true, .new manager.addresses.vault false] data

def ownerEquityAccounts : List AccountMeta := (manager.processEquity []).accounts.eraseIdx 3

def actorMainAta : Pubkey :=
  deriveAssociatedTokenAddress P manager.args.actor manager.args.mainMint
    manager.args.mainTokenProgram

def topUpManagerStake (amount : UInt64) (prices : List AccountMeta) :
    Except VaultChainError Instruction := do
  refuse (amount = 0) (.invalidInput "top-up amount must be positive")
  refuse (prices = []) .missingPriceSection
  pure (manager.command .topUpManagerStake
    (manager.ownerEquityAccounts ++ [.new (manager.actorMainAta P) false] ++ prices)
    (u64ToLe amount))

def unlockManagerStake (feeRecipient : Pubkey) (shares : UInt64) :
    Except VaultChainError Instruction := do
  let destination :=
    deriveAssociatedTokenAddress P feeRecipient manager.args.shareMint tokenProgramId
  refuse (shares = 0 ∨ destination = manager.addresses.managerStakeAta)
    (.invalidInput "unlock requires positive shares and a distinct destination")
  let a := manager.addresses
  pure (manager.command .unlockManagerStake
    [.newReadonly manager.args.actor true, .new a.vault false,
      .newReadonly a.managerStakeAuthority false, .new a.managerStakeAta false,
      .new destination false, .newReadonly manager.args.shareMint false,
      .newReadonly tokenProgramId false]
    (u64ToLe shares))

def unlockManagerStakeSequence (feeRecipient : Pubkey) (shares : UInt64) :
    Except VaultChainError (List Instruction) := do
  let unlock ← manager.unlockManagerStake P feeRecipient shares
  pure [createDestinationAta P manager.args.actor feeRecipient manager.args.shareMint
    tokenProgramId, unlock]

def revokeGovernanceNomination (expectedNominee : Pubkey) :
    Except VaultChainError Instruction := do
  refuse (expectedNominee = .ofList 32 []) (.invalidInput "expected nominee must be nonzero")
  pure (manager.ownerInstruction .revokeGovernanceNomination expectedNominee.toList)

def applyFeeRecipientUpdate (expected recipient : Pubkey) :
    Except VaultChainError Instruction := do
  refuse (expected = recipient ∨ expected = .ofList 32 [] ∨ recipient = .ofList 32 [])
    (.invalidInput "recipient must change between nonzero keys")
  pure (manager.ownerInstruction .applyFeeRecipientUpdate (expected.toList ++ recipient.toList))

def startShutdown : Instruction := manager.ownerInstruction .startShutdown []

/-- No prices are passed when second custody is empty. -/
def finalizeShutdown (prices : List AccountMeta) : Instruction :=
  manager.command .finalizeShutdown (manager.ownerEquityAccounts ++ prices) []

def closeVault : Instruction :=
  let a := manager.addresses
  let p := manager.args
  manager.command .closeVault
    [.new p.actor true, .new a.vault false, .new a.delegate false, .new a.policy false,
      .newReadonly p.shareMint false, .new a.vaultMainAta false, .new a.vaultSecondAta false,
      .newReadonly p.mainMint false, .newReadonly p.secondMint false,
      .newReadonly p.mainTokenProgram false, .newReadonly p.secondTokenProgram false,
      .newReadonly a.managerStakeAuthority false, .new a.managerStakeAta false,
      .newReadonly tokenProgramId false, .new (manager.actorMainAta P) false,
      .new (deriveAssociatedTokenAddress P p.actor p.secondMint p.secondTokenProgram) false] []

end VaultManager

def Signs (signer : Pubkey) (accounts : List AccountMeta) : Prop :=
  ∀ account ∈ accounts, account.isSigner = true → account.pubkey = signer

def SignedBy (signer : Pubkey) (ix : Instruction) : Prop := Signs signer ix.accounts

def Unsigned (accounts : List AccountMeta) : Prop :=
  ∀ account ∈ accounts, account.isSigner = false

section Signers

variable {P : Platform} {manager : VaultManager} {signer : Pubkey} {prices : List AccountMeta}

theorem unsigned_nil : Unsigned [] := fun _ h ↦ absurd h List.not_mem_nil

@[simp] theorem signs_new {key : Pubkey} {signs : Bool} {accounts : List AccountMeta} :
    Signs signer (.new key signs :: accounts) ↔
      (signs = true → key = signer) ∧ Signs signer accounts :=
  List.forall_mem_cons

@[simp] theorem signs_newReadonly {key : Pubkey} {signs : Bool} {accounts : List AccountMeta} :
    Signs signer (.newReadonly key signs :: accounts) ↔
      (signs = true → key = signer) ∧ Signs signer accounts :=
  List.forall_mem_cons

@[simp] theorem signs_nil : Signs signer [] := fun _ h ↦ absurd h List.not_mem_nil

theorem Unsigned.signs (h : Unsigned prices) : Signs signer prices := by
  intro account hmem hsigner
  rw [h account hmem] at hsigner
  cases hsigner

theorem Signs.append {accounts accounts' : List AccountMeta} (h : Signs signer accounts)
    (h' : Signs signer accounts') : Signs signer (accounts ++ accounts') :=
  List.forall_mem_append.mpr ⟨h, h'⟩

theorem signedBy_ownerInstruction {ix : ManagementIx} {data : List UInt8} :
    SignedBy manager.args.actor (manager.ownerInstruction ix data) := by
  simp [SignedBy, VaultManager.ownerInstruction, VaultManager.command]

theorem signedBy_topUp {amount : UInt64} {ix : Instruction} (hprices : Unsigned prices)
    (h : manager.topUpManagerStake P amount prices = .ok ix) :
    SignedBy manager.args.actor ix := by
  simp only [VaultManager.topUpManagerStake, bind_ok, refuse_ok, exists_const, pure_ok] at h
  obtain ⟨-, -, rfl⟩ := h
  refine Signs.append ?_ hprices.signs
  simp [VaultManager.ownerEquityAccounts, VaultManager.processEquity, VaultManager.command]

theorem signedBy_unlock {feeRecipient : Pubkey} {shares : UInt64} {ix : Instruction}
    (h : manager.unlockManagerStake P feeRecipient shares = .ok ix) :
    SignedBy manager.args.actor ix := by
  simp only [VaultManager.unlockManagerStake, bind_ok, refuse_ok, exists_const, pure_ok] at h
  obtain ⟨-, rfl⟩ := h
  simp [SignedBy, VaultManager.command]

theorem signedBy_createDestinationAta {owner mint program : Pubkey} :
    SignedBy signer (createDestinationAta P signer owner mint program) := by
  simp [SignedBy, createDestinationAta, Served.createAtaIdempotent]

theorem signedBy_finalizeShutdown (hprices : Unsigned prices) :
    SignedBy manager.args.actor (manager.finalizeShutdown prices) := by
  refine Signs.append ?_ hprices.signs
  simp [VaultManager.ownerEquityAccounts, VaultManager.processEquity, VaultManager.command]

theorem signedBy_closeVault : SignedBy manager.args.actor (manager.closeVault P) := by
  simp [SignedBy, VaultManager.closeVault, VaultManager.command]

variable {kind : VaultGovernanceUpdateKind}

theorem signedBy_cancelUpdate {payer : Pubkey} :
    SignedBy manager.args.actor (manager.cancelUpdate P kind payer) := by
  simp [SignedBy, VaultManager.cancelUpdate, VaultManager.command]

theorem signedBy_applySecondLeg {payer mint : Pubkey} {ix : Instruction} (hprices : Unsigned prices)
    (h : manager.applySecondLeg P payer mint (some prices) = .ok ix) :
    SignedBy manager.args.actor ix := by
  simp only [VaultManager.applySecondLeg, bind_ok, refuse_ok, exists_const, pure_ok] at h
  obtain ⟨-, rfl⟩ := h
  refine Signs.append ?_ hprices.signs
  simp

theorem signed_settlement {given : Option (List AccountMeta)} {accounts : List AccountMeta}
    (hgiven : ∀ prices ∈ given, Unsigned prices)
    (h : manager.settlement kind given = .ok accounts) :
    Signs manager.args.actor accounts := by
  unfold VaultManager.settlement at h
  split at h
  · simp only [bind_ok, okOr_ok, pure_ok] at h
    obtain ⟨prices, hprices, rfl⟩ := h
    -- the actor alone is left of what stands before the prices
    have hsigned : SignedBy manager.args.actor (manager.processEquity prices) := by
      refine Signs.append ?_ (hgiven prices hprices).signs
      simp
    exact Signs.append (fun account hmem ↦ hsigned account (List.mem_of_mem_take hmem))
      fun account hmem ↦ hsigned account (List.mem_of_mem_drop hmem)
  · cases h
    exact unsigned_nil.signs

theorem signedBy_applyUpdate {payer : Pubkey} {given : Option (List AccountMeta)} {ix : Instruction}
    (hgiven : ∀ prices ∈ given, Unsigned prices)
    (h : manager.applyUpdate P kind payer given = .ok ix) : SignedBy manager.args.actor ix := by
  simp only [VaultManager.applyUpdate, bind_ok, refuse_ok, exists_const, pure_ok] at h
  obtain ⟨-, settlement, hsettlement, rfl⟩ := h
  refine Signs.append ?_ (signed_settlement hgiven hsettlement)
  simp

end Signers

end MakerSdk.Vault
