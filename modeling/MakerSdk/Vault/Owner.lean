import MakerSdk.Base.Traced
import MakerSdk.Routing.Router
import MakerSdk.Vault.Lifecycle

namespace MakerSdk.Vault

open Base Base.Bytes Base.Checks Base.Records Base.Traced Base.Words Solana
open Holdings (Account)
open Sale (ChainError)

structure FundedAccount extends Account where
  lamports : UInt64
deriving DecidableEq

/-- A chain client: what the RPC answers, by how many accounts were fetched before. -/
structure OwnerChain where
  programId : Pubkey
  fetch : ℕ → Pubkey → Except ChainError FundedAccount

abbrev OwnerRead (α : Type) := Traced ℕ Pubkey (Fault ClientError) α

def OwnerRead.vault {α : Type} (x : Except VaultChainError α) : OwnerRead α :=
  ofExcept (lift (x.mapError .vault))

def OwnerRead.parsed {α : Type} (x : Checked VaultChainError α) : OwnerRead α :=
  ofExcept (x.mapError (Fault.map .vault))

def OwnerRead.checked {α : Type} (x : Checked ChainError α) : OwnerRead α :=
  ofExcept (x.mapError (Fault.map .chain))

def OwnerChain.fetchAccount (chain : OwnerChain) (address : Pubkey) : OwnerRead FundedAccount :=
  act (fun _ ↦ address) fun n ↦ (lift ((chain.fetch n address).mapError .chain), n + 1)

namespace VaultManager

variable (P : Platform) (manager : VaultManager) (chain : OwnerChain)

def identity (vault : VaultRecord) : Except ChainError Unit :=
  refuse (vault.primaryDelegate ≠ manager.args.delegateAuthority) (.identity "vault delegate")

def currentOwnerState : OwnerRead VaultRecord := do
  OwnerRead.checked (lift
    (refuse (chain.programId ≠ manager.args.programId) (.identity "vault program")))
  let account ← chain.fetchAccount manager.addresses.vault
  let state ← OwnerRead.parsed (VaultRecord.fromAccount account.toAccount chain.programId)
  OwnerRead.vault (manager.ensureCurrent state.toVaultAccount)
  OwnerRead.checked (lift (manager.identity state))
  pure state

def loadPriceSection (shard : UInt16) : OwnerRead (List AccountMeta) := do
  let account ← chain.fetchAccount manager.addresses.mainPriceRoute
  let main ← OwnerRead.parsed (PriceRoute.fromAccount account.toAccount chain.programId)
  let account ← chain.fetchAccount manager.addresses.secondPriceRoute
  let second ← OwnerRead.parsed (PriceRoute.fromAccount account.toAccount chain.programId)
  OwnerRead.vault (Routing.priceSection P manager main second shard)

def requireGovernance (state : VaultRecord) : Except VaultChainError Unit :=
  refuse (manager.args.actor ≠ state.governanceAuthority) .governanceAuthorityRequired

end VaultManager

def requireUnstaged (state : VaultRecord) : Except VaultChainError Unit :=
  refuse (state.staging.openSlot.isSome = true) .staged

namespace VaultManager

variable (P : Platform) (manager : VaultManager) (chain : OwnerChain)

/-- What second custody holds; native custody as it will be once it is synced. -/
def secondBalance (account : FundedAccount) : Checked ChainError UInt64 := do
  let data := account.data
  lift (refuse (account.owner ≠ manager.args.secondTokenProgram) .invalidAccountData)
  lift (refuse (data.length < 165) .invalidAccountData)
  expect (arrayAt 32 data 0) manager.args.secondMint .invalidAccountData
  expect (arrayAt 32 data 32) manager.addresses.vault .invalidAccountData
  expect (index data 108) 1 .invalidAccountData
  let amount ← u64At data 64
  let native ← window data 109 4
  match native with
  | [0, 0, 0, 0] => pure amount
  | [1, 0, 0, 0] => do
    let reserve ← u64At data 113
    lift (okOr ((checkedSub account.lamports reserve).filter fun synced ↦ amount ≤ synced)
      .invalidAccountData)
  | _ => raise .invalidAccountData

def pricesForSecondBalance (shard : UInt16) : OwnerRead (List AccountMeta) := do
  let account ← chain.fetchAccount manager.addresses.vaultSecondAta
  let amount ← OwnerRead.checked (manager.secondBalance account)
  if amount = 0 then pure [] else manager.loadPriceSection P chain shard

def readProposal (programId : Pubkey) (kind : VaultGovernanceUpdateKind) (account : Account) :
    Checked ChainError (Pubkey × FixedBytes 32) := do
  let bump :=
    (Pda.pendingVaultUpdate P manager.args.programId manager.addresses.vault kind.toByte).2
  let data := account.data
  lift (refuse (account.owner ≠ programId) (.accountOwnerMismatch programId account.owner))
  lift (refuse (data.length ≠ 368) .invalidAccountData)
  expect (index data 0) 14 .invalidAccountData
  expect (index data 1) 1 .invalidAccountData
  expect (index data 2) bump .invalidAccountData
  expect (index data 3) kind.toByte .invalidAccountData
  expect (arrayAt 32 data 8) manager.addresses.vault .invalidAccountData
  let payer ← arrayAt 32 data 40
  lift (refuse (payer = .ofList 32 []) .invalidAccountData)
  let payload ← arrayAt 32 data 80
  pure (payer, payload)

def fetchProposal (kind : VaultGovernanceUpdateKind) : OwnerRead (Pubkey × FixedBytes 32) := do
  let account ← chain.fetchAccount (manager.pendingUpdate P kind)
  OwnerRead.checked (manager.readProposal P chain.programId kind account.toAccount)

def topUpManagerStakeFromChain (amount : UInt64) (shard : UInt16) : OwnerRead Instruction := do
  let state ← manager.currentOwnerState chain
  OwnerRead.vault (manager.requireGovernance state)
  OwnerRead.vault (requireUnstaged state)
  let prices ← manager.loadPriceSection P chain shard
  OwnerRead.vault (manager.topUpManagerStake P amount prices)

def finalizeShutdownFromChain (shard : UInt16) : OwnerRead Instruction := do
  let state ← manager.currentOwnerState chain
  OwnerRead.vault (requireUnstaged state)
  let prices ← manager.pricesForSecondBalance P chain shard
  pure (manager.finalizeShutdown prices)

def unlockManagerStakeFromChain (shares : UInt64) : OwnerRead Instruction := do
  let state ← manager.currentOwnerState chain
  OwnerRead.vault (manager.requireGovernance state)
  OwnerRead.vault (manager.unlockManagerStake P state.feeRecipient shares)

def applyFeeRecipientUpdateFromChain (recipient : Pubkey) : OwnerRead Instruction := do
  let state ← manager.currentOwnerState chain
  OwnerRead.vault (manager.requireGovernance state)
  OwnerRead.vault (manager.applyFeeRecipientUpdate state.feeRecipient recipient)

def revokeGovernanceNominationFromChain : OwnerRead Instruction := do
  let state ← manager.currentOwnerState chain
  OwnerRead.vault (manager.requireGovernance state)
  OwnerRead.vault (manager.revokeGovernanceNomination state.pendingGovernanceAuthority)

/-- What is built from a stored proposal; the prices are fetched for the kinds that settle. -/
def applyProposal (kind : VaultGovernanceUpdateKind) (shard : UInt16)
    (proposal : Pubkey × FixedBytes 32) : OwnerRead Instruction :=
  if kind = .secondLeg then do
    let prices ← manager.pricesForSecondBalance P chain shard
    OwnerRead.vault (manager.applySecondLeg P proposal.1 proposal.2 (some prices))
  else if kind = .fees ∨ kind = .hwmReset then do
    let prices ← manager.loadPriceSection P chain shard
    OwnerRead.vault (manager.applyUpdate P kind proposal.1 (some prices))
  else OwnerRead.vault (manager.applyUpdate P kind proposal.1 none)

def applyUpdateFromChain (kind : VaultGovernanceUpdateKind) (shard : UInt16) :
    OwnerRead Instruction := do
  let state ← manager.currentOwnerState chain
  if kind = .fees ∨ kind = .hwmReset ∨ kind = .secondLeg then
    OwnerRead.vault (requireUnstaged state)
  let proposal ← manager.fetchProposal P chain kind
  manager.applyProposal P chain kind shard proposal

def cancelUpdateFromChain (kind : VaultGovernanceUpdateKind) : OwnerRead Instruction := do
  OwnerRead.vault (refuse (kind = .hwmReset) .coldAuthorityRequired)
  let _ ← manager.currentOwnerState chain
  let (payer, _) ← manager.fetchProposal P chain kind
  pure (manager.cancelUpdate P kind payer)

def unlockManagerStakeSequenceFromChain (shares : UInt64) : OwnerRead (List Instruction) := do
  let state ← manager.currentOwnerState chain
  OwnerRead.vault (manager.requireGovernance state)
  OwnerRead.vault (manager.unlockManagerStakeSequence P state.feeRecipient shares)

def startShutdownFromChain : OwnerRead Instruction := do
  let state ← manager.currentOwnerState chain
  OwnerRead.vault (manager.requireGovernance state)
  OwnerRead.vault (requireUnstaged state)
  pure manager.startShutdown

def closeVaultFromChain : OwnerRead Instruction := do
  let state ← manager.currentOwnerState chain
  OwnerRead.vault (manager.requireGovernance state)
  OwnerRead.vault (requireUnstaged state)
  pure (manager.closeVault P)

end VaultManager

inductive OwnerCommand where
  | topUpManagerStake (amount : UInt64) (shard : UInt16)
  | finalizeShutdown (shard : UInt16)
  | unlockManagerStake (shares : UInt64)
  | unlockManagerStakeSequence (shares : UInt64)
  | applyFeeRecipientUpdate (recipient : Pubkey)
  | revokeGovernanceNomination
  | applyUpdate (kind : VaultGovernanceUpdateKind) (shard : UInt16)
  | cancelUpdate (kind : VaultGovernanceUpdateKind)
  | startShutdown
  | closeVault
deriving DecidableEq

namespace OwnerCommand

def run (P : Platform) (manager : VaultManager) (chain : OwnerChain) :
    OwnerCommand → OwnerRead (List Instruction)
  | .topUpManagerStake amount shard => do
    pure [← manager.topUpManagerStakeFromChain P chain amount shard]
  | .finalizeShutdown shard => do pure [← manager.finalizeShutdownFromChain P chain shard]
  | .unlockManagerStake shares => do pure [← manager.unlockManagerStakeFromChain P chain shares]
  | .unlockManagerStakeSequence shares =>
    manager.unlockManagerStakeSequenceFromChain P chain shares
  | .applyFeeRecipientUpdate recipient => do
    pure [← manager.applyFeeRecipientUpdateFromChain chain recipient]
  | .revokeGovernanceNomination => do
    pure [← manager.revokeGovernanceNominationFromChain chain]
  | .applyUpdate kind shard => do pure [← manager.applyUpdateFromChain P chain kind shard]
  | .cancelUpdate kind => do pure [← manager.cancelUpdateFromChain P chain kind]
  | .startShutdown => do pure [← manager.startShutdownFromChain chain]
  | .closeVault => do pure [← manager.closeVaultFromChain P chain]

def Governed : OwnerCommand → Prop
  | .finalizeShutdown _ | .applyUpdate .. | .cancelUpdate _ => False
  | _ => True

def Unstaged : OwnerCommand → Prop
  | .topUpManagerStake .. | .finalizeShutdown _ | .startShutdown | .closeVault => True
  | .applyUpdate kind _ => kind = .fees ∨ kind = .hwmReset ∨ kind = .secondLeg
  | _ => False

structure Permitted (manager : VaultManager) (command : OwnerCommand) (vault : VaultRecord) :
    Prop where
  governance : command.Governed → manager.args.actor = vault.governanceAuthority
  unstaged : command.Unstaged → vault.staging.openSlot = none
  cold : command ≠ .cancelUpdate .hwmReset

end OwnerCommand

/-- The vault as the chain has it when the command starts, which has to be the one that the manager
was built for. -/
structure OwnerState (manager : VaultManager) (chain : OwnerChain) (n : ℕ) (vault : VaultRecord) :
    Prop where
  program : chain.programId = manager.args.programId
  read : ∃ account, chain.fetch n manager.addresses.vault = .ok account ∧
    VaultRecord.fromAccount account.toAccount chain.programId = .ok vault
  current : manager.Current vault.toVaultAccount
  delegate : vault.primaryDelegate = manager.args.delegateAuthority

section Rules

variable {α β : Type} {manager : VaultManager} {chain : OwnerChain} {Q : α → Prop} {R : β → Prop}
  {x : OwnerRead α} {f : α → OwnerRead β}

def Yields (Q : α → Prop) (x : OwnerRead α) : Prop :=
  Ensures x fun _ result ↦ ∀ a, result = .ok a → Q a

theorem yields_any (x : OwnerRead α) : Yields (fun _ ↦ True) x := fun _ _ _ ↦ trivial

theorem yields_pure {a : α} (h : Q a) : Yields Q (pure a : OwnerRead α) := by
  refine ensures_pure fun _ ha ↦ ?_
  cases ha
  exact h

theorem yields_vault {y : Except VaultChainError α} (h : ∀ a, y = .ok a → Q a) :
    Yields Q (OwnerRead.vault y) := by
  intro n a ha
  exact h a (mapError_ok.mp (lift_ok.mp ha))

theorem Yields.bind (hx : Yields Q x) (hf : ∀ a, Q a → Yields R (f a)) : Yields R (x >>= f) := by
  refine Ensures.bind hx (fun _ _ _ b hb ↦ ?_) fun log a ha ↦ hf a (ha a rfl)
  cases hb

/-- The computation stops before it fetches anything, or `guard` holds. -/
def Passes (guard : Prop) (Q : α → Prop) (x : OwnerRead α) : Prop :=
  ∀ n, ((∃ e, (x n).1 = .error e) ∧ (x n).2.1 = []) ∨
    guard ∧ ∀ a, (x n).1 = .ok a → Q a

theorem Yields.passes (h : Yields Q x) : Passes True Q x := fun n ↦ .inr ⟨trivial, h n⟩

theorem Passes.mono {guard guard' : Prop} (h : Passes guard Q x) (hg : guard → guard') :
    Passes guard' Q x := fun n ↦ (h n).imp_right (And.imp_left hg)

theorem passes_require {guard : Prop} {y : Except VaultChainError Unit} {k : OwnerRead β}
    (h : y = .ok () → Passes guard R k) :
    Passes (y = .ok () ∧ guard) R (OwnerRead.vault y >>= fun _ ↦ k) := by
  intro n
  cases y with
  | error e => exact .inl ⟨⟨_, rfl⟩, rfl⟩
  | ok u => exact (h rfl n).imp_right (And.imp_left fun hg ↦ ⟨rfl, hg⟩)

/-- The computation stops at the vault's account at the latest, or the account that it fetched first
is the manager's vault and satisfies `guard`. -/
def Guarded (manager : VaultManager) (chain : OwnerChain) (guard : VaultRecord → Prop)
    (Q : α → Prop) (x : OwnerRead α) : Prop :=
  ∀ n, ((∃ e, (x n).1 = .error e) ∧ (x n).2.1 <+: [manager.addresses.vault]) ∨
    (∃ vault, OwnerState manager chain n vault ∧ guard vault) ∧ ∀ a, (x n).1 = .ok a → Q a

theorem Guarded.mono {guard guard' : VaultRecord → Prop} (h : Guarded manager chain guard Q x)
    (hg : ∀ vault, guard vault → guard' vault) : Guarded manager chain guard' Q x := by
  refine fun n ↦ (h n).imp_right (And.imp_left ?_)
  rintro ⟨vault, hstate, hguard⟩
  exact ⟨vault, hstate, hg vault hguard⟩

theorem currentOwnerState_cases (manager : VaultManager) (chain : OwnerChain) (n : ℕ) :
    (∃ e log m, manager.currentOwnerState chain n = (.error e, log, m) ∧
      log <+: [manager.addresses.vault]) ∨
    ∃ vault, OwnerState manager chain n vault ∧
      manager.currentOwnerState chain n = (.ok vault, [manager.addresses.vault], n + 1) := by
  unfold VaultManager.currentOwnerState OwnerRead.checked OwnerRead.parsed OwnerRead.vault
    OwnerChain.fetchAccount
  rcases ofExcept_bind_cases _ _ with ⟨e, -, hrun⟩ | ⟨_, hprogram, hrun⟩ <;> rw [hrun]
  · exact .inl ⟨e, [], n, rfl, List.nil_prefix⟩
  rcases act_bind_cases _ _ _ n with ⟨e, -, hrun⟩ | ⟨account, hfetch, hrun⟩ <;> rw [hrun]
  · exact .inl ⟨e, _, _, rfl, List.prefix_rfl⟩
  rcases ofExcept_bind_cases _ _ with ⟨e, -, hrun⟩ | ⟨vault, hparse, hrun⟩ <;> rw [hrun]
  · exact .inl ⟨e, _, _, rfl, List.prefix_rfl⟩
  rcases ofExcept_bind_cases _ _ with ⟨e, -, hrun⟩ | ⟨_, hcurrent, hrun⟩ <;> rw [hrun]
  · exact .inl ⟨e, _, _, rfl, List.prefix_rfl⟩
  rcases ofExcept_bind_cases _ _ with ⟨e, -, hrun⟩ | ⟨_, hdelegate, hrun⟩ <;> rw [hrun]
  · exact .inl ⟨e, _, _, rfl, List.prefix_rfl⟩
  simp only [mapError_ok, lift_ok, refuse_ok, not_not, ne_eq, VaultManager.identity]
    at hprogram hfetch hparse hcurrent hdelegate
  exact .inr ⟨vault, ⟨hprogram, ⟨account, hfetch, hparse⟩,
    VaultManager.ensureCurrent_ok.mp hcurrent, hdelegate⟩, rfl⟩

theorem guarded_state {guard : VaultRecord → Prop} {f : VaultRecord → OwnerRead β}
    (hf : ∀ vault, Passes (guard vault) R (f vault)) :
    Guarded manager chain guard R (manager.currentOwnerState chain >>= f) := by
  intro n
  rcases currentOwnerState_cases manager chain n with
    ⟨e, log, m, hrun, hlog⟩ | ⟨vault, hstate, hrun⟩
  · have hbind : (manager.currentOwnerState chain >>= f) n = (.error e, log, m) := by
      simp only [Bind.bind, hrun]
    rw [hbind]
    exact .inl ⟨⟨e, rfl⟩, hlog⟩
  · have hbind : (manager.currentOwnerState chain >>= f) n = ((f vault (n + 1)).1,
        manager.addresses.vault :: (f vault (n + 1)).2.1, (f vault (n + 1)).2.2) := by
      simp only [Bind.bind, hrun]
      rfl
    rw [hbind]
    rcases hf vault (n + 1) with ⟨herror, hlog⟩ | ⟨hguard, hok⟩
    · refine .inl ⟨herror, ?_⟩
      rw [hlog]
    · exact .inr ⟨⟨vault, hstate, hguard⟩, hok⟩

theorem guarded_require {guard : VaultRecord → Prop} {y : Except VaultChainError Unit}
    {k : OwnerRead β} (h : Guarded manager chain guard R k) :
    Guarded manager chain (fun vault ↦ y = .ok () ∧ guard vault) R
      (OwnerRead.vault y >>= fun _ ↦ k) := by
  cases y with
  | error e => exact fun n ↦ .inl ⟨⟨_, rfl⟩, List.nil_prefix⟩
  | ok u => exact h.mono fun vault hguard ↦ ⟨rfl, hguard⟩

theorem Guarded.single {guard : VaultRecord → Prop} {Q : Instruction → Prop}
    {x : OwnerRead Instruction} (h : Guarded manager chain guard Q x) :
    Guarded manager chain guard (fun ixs ↦ ∀ ix ∈ ixs, Q ix) (x >>= fun ix ↦ pure [ix]) := by
  intro n
  have hn := h n
  rcases hrun : x n with ⟨e | ix, log, m⟩
  · have hbind : (x >>= fun ix ↦ pure [ix]) n = (.error e, log, m) := by
      simp only [Bind.bind, hrun]
    rw [hrun] at hn
    rw [hbind]
    rcases hn with ⟨-, hlog⟩ | ⟨hstate, -⟩
    · exact .inl ⟨⟨e, rfl⟩, hlog⟩
    · refine .inr ⟨hstate, fun ixs hixs ↦ ?_⟩
      cases hixs
  · have hbind : (x >>= fun ix ↦ pure [ix]) n = (.ok [ix], log ++ [], m) := by
      simp only [Bind.bind, hrun]
      rfl
    rw [hrun] at hn
    rw [hbind, List.append_nil]
    rcases hn with ⟨⟨e, he⟩, -⟩ | ⟨hstate, hok⟩
    · cases he
    · refine .inr ⟨hstate, fun ixs hixs ↦ ?_⟩
      cases hixs
      exact List.forall_mem_singleton.mpr (hok ix rfl)

end Rules

section Commands

variable {P : Platform} {manager : VaultManager} {chain : OwnerChain}

theorem requireGovernance_ok {vault : VaultRecord} {u : Unit} :
    manager.requireGovernance vault = .ok u ↔ manager.args.actor = vault.governanceAuthority := by
  simp only [VaultManager.requireGovernance, refuse_ok, ne_eq, not_not]

theorem requireUnstaged_ok {vault : VaultRecord} {u : Unit} :
    requireUnstaged vault = .ok u ↔ vault.staging.openSlot = none := by
  simp only [requireUnstaged, refuse_ok, Bool.not_eq_true, Option.isSome_eq_false_iff,
    Option.isNone_iff_eq_none]

theorem unsigned_priceSection {main second : PriceRoute} {shard : UInt16}
    {prices : List AccountMeta}
    (h : Routing.priceSection P manager main second shard = .ok prices) : Unsigned prices := by
  simp only [Routing.priceSection, bind_ok, refuse_ok, exists_const, pure_ok] at h
  obtain ⟨-, rfl⟩ := h
  intro account hmem
  rcases List.mem_append.mp hmem with hmem | hmem
  · exact (PriceRoute.accounts_readonly account hmem).2
  · exact (PriceRoute.accounts_readonly account hmem).2

theorem yields_loadPriceSection (shard : UInt16) :
    Yields Unsigned (manager.loadPriceSection P chain shard) := by
  refine (yields_any _).bind fun _ _ ↦ (yields_any _).bind fun _ _ ↦ ?_
  refine (yields_any _).bind fun _ _ ↦ (yields_any _).bind fun _ _ ↦ ?_
  exact yields_vault fun _ ↦ unsigned_priceSection

theorem yields_pricesForSecondBalance (shard : UInt16) :
    Yields Unsigned (manager.pricesForSecondBalance P chain shard) := by
  refine (yields_any _).bind fun _ _ ↦ (yields_any _).bind fun amount _ ↦ ?_
  split
  · exact yields_pure unsigned_nil
  · exact yields_loadPriceSection shard

theorem yields_applyProposal (kind : VaultGovernanceUpdateKind) (shard : UInt16)
    (proposal : Pubkey × FixedBytes 32) :
    Yields (SignedBy manager.args.actor)
      (manager.applyProposal P chain kind shard proposal) := by
  unfold VaultManager.applyProposal
  split
  · refine (yields_pricesForSecondBalance shard).bind fun prices hprices ↦ ?_
    exact yields_vault fun _ ↦ signedBy_applySecondLeg hprices
  split
  · refine (yields_loadPriceSection shard).bind fun prices hprices ↦ yields_vault fun _ ↦ ?_
    refine signedBy_applyUpdate fun prices' hmem ↦ ?_
    cases hmem
    exact hprices
  · refine yields_vault fun _ ↦ signedBy_applyUpdate fun prices hmem ↦ ?_
    cases hmem

theorem guarded_governance {guard : VaultRecord → Prop} {Q : Instruction → Prop}
    {k : VaultRecord → OwnerRead Instruction} (hk : ∀ vault, Passes (guard vault) Q (k vault)) :
    Guarded manager chain (fun vault ↦ manager.args.actor = vault.governanceAuthority ∧ guard vault)
      Q (do
        let state ← manager.currentOwnerState chain
        OwnerRead.vault (manager.requireGovernance state)
        k state) :=
  guarded_state fun vault ↦ (passes_require fun _ ↦ hk vault).mono
    (And.imp_left requireGovernance_ok.mp)

theorem passes_unstaged {Q : Instruction → Prop} {k : OwnerRead Instruction} {vault : VaultRecord}
    (hk : Yields Q k) :
    Passes (vault.staging.openSlot = none) Q
      (OwnerRead.vault (requireUnstaged vault) >>= fun _ ↦ k) :=
  (passes_require fun _ ↦ hk.passes).mono fun h ↦ requireUnstaged_ok.mp h.1

/-- An owner's command is built only from a current state of the manager's own vault that grants
what the command needs, and asks for no signature but the actor's. Short of that it fails, having
read the vault's account at most. -/
theorem OwnerCommand.run_guarded (command : OwnerCommand) :
    Guarded manager chain (command.Permitted manager)
      (fun ixs ↦ ∀ ix ∈ ixs, SignedBy manager.args.actor ix) (command.run P manager chain) := by
  cases command with
  | topUpManagerStake amount shard =>
    refine (Guarded.mono (guarded_governance fun vault ↦ passes_unstaged ?_)
      fun vault h ↦ ⟨fun _ ↦ h.1, fun _ ↦ h.2, by simp⟩).single
    exact (yields_loadPriceSection shard).bind fun prices hprices ↦
      yields_vault fun _ ↦ signedBy_topUp hprices
  | finalizeShutdown shard =>
    refine (Guarded.mono (guarded_state fun vault ↦ passes_unstaged ?_)
      fun vault h ↦ ⟨fun hc ↦ hc.elim, fun _ ↦ h, by simp⟩).single
    exact (yields_pricesForSecondBalance shard).bind fun prices hprices ↦
      yields_pure (signedBy_finalizeShutdown hprices)
  | unlockManagerStake shares =>
    refine (Guarded.mono (guarded_governance fun vault ↦ Yields.passes ?_)
      fun vault h ↦ ⟨fun _ ↦ h.1, fun hc ↦ hc.elim, by simp⟩).single
    exact yields_vault fun _ ↦ signedBy_unlock
  | unlockManagerStakeSequence shares =>
    refine Guarded.mono (guarded_state fun vault ↦ passes_require fun _ ↦ Yields.passes ?_)
      fun vault h ↦ ⟨fun _ ↦ requireGovernance_ok.mp h.1, fun hc ↦ hc.elim, by simp⟩
    refine yields_vault fun ixs hixs ↦ ?_
    simp only [VaultManager.unlockManagerStakeSequence, bind_ok, pure_ok] at hixs
    obtain ⟨unlock, hunlock, rfl⟩ := hixs
    exact List.forall_mem_cons.mpr ⟨signedBy_createDestinationAta,
      List.forall_mem_singleton.mpr (signedBy_unlock hunlock)⟩
  | applyFeeRecipientUpdate recipient =>
    refine (Guarded.mono (guarded_governance fun vault ↦ Yields.passes ?_)
      fun vault h ↦ ⟨fun _ ↦ h.1, fun hc ↦ hc.elim, by simp⟩).single
    refine yields_vault fun ix hix ↦ ?_
    simp only [VaultManager.applyFeeRecipientUpdate, bind_ok, refuse_ok, exists_const,
      pure_ok] at hix
    obtain ⟨-, rfl⟩ := hix
    exact signedBy_ownerInstruction
  | revokeGovernanceNomination =>
    refine (Guarded.mono (guarded_governance fun vault ↦ Yields.passes ?_)
      fun vault h ↦ ⟨fun _ ↦ h.1, fun hc ↦ hc.elim, by simp⟩).single
    refine yields_vault fun ix hix ↦ ?_
    simp only [VaultManager.revokeGovernanceNomination, bind_ok, refuse_ok, exists_const,
      pure_ok] at hix
    obtain ⟨-, rfl⟩ := hix
    exact signedBy_ownerInstruction
  | applyUpdate kind shard =>
    refine (@guarded_state _ manager chain _ (Permitted manager (.applyUpdate kind shard)) _
      fun vault ↦ ?_).single
    have hyields : Yields (SignedBy manager.args.actor)
        (manager.fetchProposal P chain kind >>= fun proposal ↦
          manager.applyProposal P chain kind shard proposal) :=
      (yields_any _).bind fun proposal _ ↦ yields_applyProposal kind shard proposal
    by_cases hkind : kind = .fees ∨ kind = .hwmReset ∨ kind = .secondLeg
    · simp only [if_pos hkind]
      exact (passes_unstaged hyields).mono fun h ↦ ⟨fun hc ↦ hc.elim, fun _ ↦ h, by simp⟩
    · simp only [if_neg hkind]
      exact hyields.passes.mono fun _ ↦ ⟨fun hc ↦ hc.elim, fun hc ↦ absurd hc hkind, by simp⟩
  | cancelUpdate kind =>
    refine (Guarded.mono (guarded_require (guarded_state fun vault ↦ Yields.passes ?_))
      fun vault h ↦ ⟨fun hc ↦ hc.elim, fun hc ↦ hc.elim, ?_⟩).single
    · exact (yields_any _).bind fun _ _ ↦ yields_pure signedBy_cancelUpdate
    · have hkind := refuse_ok.mp h.1
      simpa using hkind
  | startShutdown =>
    exact (Guarded.mono (guarded_governance fun vault ↦
      passes_unstaged (yields_pure signedBy_ownerInstruction))
      fun vault h ↦ ⟨fun _ ↦ h.1, fun _ ↦ h.2, by simp⟩).single
  | closeVault =>
    exact (Guarded.mono (guarded_governance fun vault ↦
      passes_unstaged (yields_pure signedBy_closeVault))
      fun vault h ↦ ⟨fun _ ↦ h.1, fun _ ↦ h.2, by simp⟩).single

end Commands

section Proposals

def proposalSpelling (P : Platform) (manager : VaultManager) (kind : UInt8) (payer : Pubkey)
    (payload : List UInt8) : List (ℕ × List UInt8) :=
  [(0, [14]), (1, [1]),
    (2, [(Pda.pendingVaultUpdate P manager.args.programId manager.addresses.vault kind).2]),
    (3, [kind]), (8, manager.addresses.vault.toList), (40, payer.toList), (80, payload)]

structure Records (P : Platform) (manager : VaultManager) (programId : Pubkey) (account : Account)
    (payer : Pubkey) (ix : Instruction) : Prop where
  owner : account.owner = programId
  len : account.data.length = 368
  paid : payer ≠ .ofList 32 []
  stored : ∃ kind payload,
    ix.data = ManagementIx.proposeVaultUpdate.toByte :: kind :: payload ∧
      Spelled account.data (proposalSpelling P manager kind payer payload)

variable {P : Platform} {manager : VaultManager} {programId payer : Pubkey} {account : Account}
  {update : VaultGovernanceUpdate} {ix : Instruction}

theorem reads_proposal (kind : VaultGovernanceUpdateKind) :
    Reads NoPanic account.data (manager.readProposal P programId kind account)
      (fun proposal ↦ (account.owner = programId ∧ account.data.length = 368) ∧
        proposal.1 ≠ .ofList 32 [])
      (fun proposal ↦ proposalSpelling P manager kind.toByte proposal.1 proposal.2.toList) := by
  unfold VaultManager.readProposal
  refine Reads.check (fun howner _ hv ↦ howner hv.1.1) fun howner ↦ ?_
  refine Reads.check (fun hlen _ hv ↦ hlen hv.1.2) fun hlen ↦ ?_
  have hlen := not_not.mp hlen
  refine Reads.expect (reads_byte (by omega)) ?_
  refine Reads.expect (reads_byte (by omega)) ?_
  refine Reads.expect (reads_byte (by omega)) ?_
  refine Reads.expect (reads_byte (by omega)) ?_
  refine Reads.expect (reads_array (by omega)) ?_
  refine Reads.next (fun proposal : Pubkey × FixedBytes 32 ↦ proposal.1) (reads_array (by omega))
    fun payer ↦ ?_
  refine Reads.check (fun hzero proposal hv ↦ hv.1.2 (hv.2.trans hzero)) fun hzero ↦ ?_
  refine Reads.next (fun proposal : Pubkey × FixedBytes 32 ↦ proposal.2) (reads_array (by omega))
    fun payload ↦ ?_
  refine reads_pure fun proposal ↦ ⟨?_, ?_⟩
  · rintro ⟨⟨-, rfl⟩, rfl⟩
    rfl
  · rintro rfl
    exact ⟨⟨⟨⟨not_not.mp howner, hlen⟩, hzero⟩, rfl⟩, rfl⟩

theorem proposeUpdate_ok (h : manager.proposeUpdate P update = .ok ix) : ∃ payload,
    update.payload = .ok payload ∧
      ix.data = ManagementIx.proposeVaultUpdate.toByte :: update.kind.toByte :: payload.toList := by
  simp only [VaultManager.proposeUpdate, bind_ok, pure_ok] at h
  obtain ⟨payload, hpayload, rfl⟩ := h
  exact ⟨payload, hpayload, rfl⟩

theorem Records.read (hrecords : Records P manager programId account payer ix)
    (h : manager.proposeUpdate P update = .ok ix) : ∃ payload, update.payload = .ok payload ∧
      manager.readProposal P programId update.kind account = .ok (payer, payload) := by
  obtain ⟨payload, hpayload, hdata⟩ := proposeUpdate_ok h
  obtain ⟨kind, bytes, hstored, hspelled⟩ := hrecords.stored
  rw [hdata] at hstored
  cases hstored
  exact ⟨payload, hpayload, (reads_proposal update.kind).ok _ |>.mpr
    ⟨⟨⟨hrecords.owner, hrecords.len⟩, hrecords.paid⟩, hspelled⟩⟩

theorem Records.kind_at (hrecords : Records P manager programId account payer ix)
    (h : manager.proposeUpdate P update = .ok ix) : At account.data 3 [update.kind.toByte] := by
  obtain ⟨payload, -, hdata⟩ := proposeUpdate_ok h
  obtain ⟨kind, bytes, hstored, hspelled⟩ := hrecords.stored
  rw [hdata] at hstored
  cases hstored
  exact hspelled (3, _) (by simp [proposalSpelling])

/-- A proposal survives the chain: the account that it is stored in is read back as its payload and
payer, and records no other update that can be proposed. -/
theorem proposal_read_back (hrecords : Records P manager programId account payer ix)
    (h : manager.proposeUpdate P update = .ok ix) :
    (∃ payload, update.payload = .ok payload ∧
      manager.readProposal P programId update.kind account = .ok (payer, payload) ∧
      ∀ mint, update = .secondLeg mint → payload = mint) ∧
    ∀ update' payer' ix', manager.proposeUpdate P update' = .ok ix' →
      Records P manager programId account payer' ix' → update' = update ∧ payer' = payer := by
  obtain ⟨payload, hpayload, hread⟩ := hrecords.read h
  refine ⟨⟨payload, hpayload, hread, ?_⟩, fun update' payer' ix' h' hrecords' ↦ ?_⟩
  · rintro mint rfl
    obtain ⟨-, rfl⟩ := VaultGovernanceUpdate.payload_ok.mp hpayload
    exact FixedBytes.ofList_toList mint
  · have hkind : update'.kind = update.kind := by
      have hat := at_iff_getElem?.mp (hrecords.kind_at h)
      rw [at_iff_getElem?.mp (hrecords'.kind_at h')] at hat
      exact VaultGovernanceUpdateKind.toByte_injective (Option.some.inj hat)
    obtain ⟨payload', hpayload', hread'⟩ := hrecords'.read h'
    rw [hkind, hread] at hread'
    cases hread'
    exact ⟨VaultGovernanceUpdate.eq_of_payload hkind hpayload' hpayload, rfl⟩

def sampleProposal : List (ℕ × List UInt8) :=
  proposalSpelling sampleSearches sampleCapitalManager 6 (keyOfNat 11) (keyOfNat 10).toList

def sampleProposalAccount : Account :=
  ⟨keyOfNat 1, writeAll (List.replicate 368 0) sampleProposal⟩

def sampleProposalIx : Instruction :=
  sampleCapitalManager.command .proposeVaultUpdate
    [.new (keyOfNat 3) true, .new sampleVaultKey false,
      .new (keyOfNat 0x4dec6fdb0f7578b5f7c6d73d69ccac08964d3255d3d62bcb611198783e9ecdec) false,
      .newReadonly systemProgramId false,
      .newReadonly
        (keyOfNat 0xfdc49fc93f92b7c16719f7b4148bfb9a97ef26418bb124e5cf4df86404137ea3) false]
    (6 :: (keyOfNat 10).toList)

theorem proposal_read_back_second_leg :
    sampleCapitalManager.proposeUpdate sampleSearches (.secondLeg (keyOfNat 10)) =
      .ok sampleProposalIx ∧
    ∃ payload, sampleCapitalManager.readProposal sampleSearches (keyOfNat 1) .secondLeg
      sampleProposalAccount = .ok (keyOfNat 11, payload) ∧ payload = keyOfNat 10 := by
  have hpropose : sampleCapitalManager.proposeUpdate sampleSearches (.secondLeg (keyOfNat 10)) =
      .ok sampleProposalIx := by decide +kernel
  have hlayout : Layout 368 (ranges sampleProposal) := by decide +kernel
  obtain ⟨hlen, hspelled⟩ := (spelled_iff_exists hlayout).mpr
    ⟨List.replicate 368 0, List.length_replicate, rfl⟩
  have hrecords : Records sampleSearches sampleCapitalManager (keyOfNat 1) sampleProposalAccount
      (keyOfNat 11) sampleProposalIx :=
    ⟨rfl, hlen, by decide +kernel, 6, (keyOfNat 10).toList, rfl, hspelled⟩
  obtain ⟨⟨payload, -, hread, hmint⟩, -⟩ := proposal_read_back hrecords hpropose
  exact ⟨hpropose, payload, hread, hmint _ rfl⟩

end Proposals

end MakerSdk.Vault
