import MakerSdk.Vault.Manager

namespace MakerSdk.Vault

open Base.Bytes Base.Checks Solana

def maxVaultSwapRouteAccounts : ℕ := 64
def maxVaultSwapPathAccounts : ℕ := 128
def maxVaultSwapRouteData : ℕ := 1024
def maxVaultSwapHops : ℕ := 4

def noAmountOffset : UInt16 := 0xffff

structure VaultSwapAmountOffset where
  offset : UInt16
  num : UInt64
  den : UInt64
deriving DecidableEq

structure VaultSwapHop where
  program : Pubkey
  source : Pubkey
  destination : Pubkey
  accounts : List AccountMeta
  data : List UInt8
  amountOffset : Option VaultSwapAmountOffset
deriving DecidableEq

structure VaultSwapPlan where
  priceSection : List AccountMeta
  amountIn : UInt64
  minimumOut : UInt64
  validUntil : UInt64
  hops : List VaultSwapHop
deriving DecidableEq

structure VaultStagingAsset where
  mint : Pubkey
  tokenProgram : Pubkey
deriving DecidableEq

def VaultStagingAsset.vaultAta (P : Platform) (asset : VaultStagingAsset) (vault : Pubkey) :
    Pubkey :=
  deriveAssociatedTokenAddress P vault asset.mint asset.tokenProgram

inductive VaultSwapKind where
  | rebalance (secondToMain : Bool)
  | recovery
  | closing
  | recoveryStage (asset : VaultStagingAsset) (generation : UInt64)
      (mainPriceSection : List AccountMeta)
  | staging (step : VaultStagingStep) (leg : VaultLeg) (asset : VaultStagingAsset)
      (generation : UInt64)
deriving DecidableEq

namespace VaultSwapKind

def fixedAccounts : VaultSwapKind → ℕ
  | .rebalance _ | .staging .. | .recoveryStage .. => 14
  | .recovery | .closing => 11

def headerLen : VaultSwapKind → ℕ
  | .rebalance _ => 27
  | .recovery | .closing => 26
  | .staging .. | .recoveryStage .. => 36

end VaultSwapKind

namespace VaultManager

variable (P : Platform) (manager : VaultManager)

def legAta : VaultLeg → Pubkey
  | .main => manager.addresses.vaultMainAta
  | .second => manager.addresses.vaultSecondAta

def stagingLegs (step : VaultStagingStep) (leg : VaultLeg) (asset : VaultStagingAsset) :
    Except VaultChainError (Pubkey × Pubkey) := do
  let args := manager.args
  refuse (asset.mint ∈ [args.mainMint, args.secondMint, args.shareMint])
    (.invalidInput "the staging mint must not be a vault mint")
  refuse (asset.tokenProgram ≠ tokenProgramId ∧ asset.tokenProgram ≠ token2022ProgramId)
    (.invalidInput "staging token program is not SPL Token")
  let staging := asset.vaultAta P manager.addresses.vault
  match step with
  | .stage => pure (manager.legAta leg, staging)
  | .unstage => pure (staging, manager.legAta leg)

def swapLegs : VaultSwapKind → Except VaultChainError (Pubkey × Pubkey)
  | .recoveryStage asset _ _ => manager.stagingLegs P .stage .second asset
  | .staging step leg asset _ => manager.stagingLegs P step leg asset
  | .rebalance false => .ok (manager.legAta .main, manager.legAta .second)
  | _ => .ok (manager.legAta .second, manager.legAta .main)

def validateHop (vault input output source : Pubkey) (index : ℕ) (last : Bool)
    (hop : VaultSwapHop) : Except VaultChainError Unit := do
  refuse (hop.accounts.isEmpty ∨ hop.accounts.length > maxVaultSwapRouteAccounts)
    (.invalidInput "invalid vault swap hop account count")
  refuse (hop.data.isEmpty = true) (.invalidInput "vault swap hop needs data")
  refuse (hop.amountOffset.any (fun amount ↦ index = 0 ∨ amount.offset = noAmountOffset ∨
      amount.offset.toNat + 8 > hop.data.length ∨ amount.num = 0 ∨ amount.den = 0) = true)
    (.invalidInput
      "amount_offset needs a transit source, 8 bytes inside the data and a nonzero scale")
  refuse (hop.source ≠ source ∨ (last = true ∧ hop.destination ≠ output) ∨
      (last = false ∧ (hop.destination = input ∨ hop.destination = output)))
    (.invalidInput "vault swap hops must chain input leg, transit ATAs, output leg")
  refuse (∃ account ∈ hop.accounts, account.isSigner = true ∧ account.pubkey ≠ vault)
    (.invalidInput "only the vault PDA may sign a hop CPI")
  refuse (∃ account ∈ hop.accounts, (account.pubkey = input ∨ account.pubkey = output) ∧
      account.pubkey ≠ hop.source ∧ account.pubkey ≠ hop.destination)
    (.invalidInput "a leg ATA may appear only as its hop's source or destination")
  refuse (vault ∉ hop.accounts.map AccountMeta.pubkey ∨
      hop.source ∉ hop.accounts.map AccountMeta.pubkey ∨
        hop.destination ∉ hop.accounts.map AccountMeta.pubkey)
    (.invalidInput "hop must contain the vault, its source and its destination")

def validateHops (vault input output : Pubkey) :
    Pubkey → ℕ → List VaultSwapHop → Except VaultChainError Unit
  | _, _, [] => pure ()
  | source, index, hop :: hops => do
    validateHop vault input output source index hops.isEmpty hop
    validateHops vault input output hop.destination (index + 1) hops

def validateSwap (kind : VaultSwapKind) (plan : VaultSwapPlan) : Except VaultChainError Unit := do
  refuse (plan.amountIn = 0 ∨ plan.minimumOut = 0 ∨ plan.validUntil = 0)
    (.invalidInput "swap amounts and validity must be non-zero")
  refuse (plan.hops.isEmpty ∨ plan.hops.length > maxVaultSwapHops)
    (.invalidInput "invalid vault swap hop count")
  let accounts := (plan.hops.map (fun hop ↦ hop.accounts.length + 3)).sum
  let data := (plan.hops.map (fun hop ↦ hop.data.length)).sum
  refuse (accounts > maxVaultSwapPathAccounts ∨ data > maxVaultSwapRouteData)
    (.invalidInput "vault swap hops exceed the account or data cap")
  let (input, output) ← manager.swapLegs P kind
  validateHops manager.addresses.vault input output input 0 plan.hops

end VaultManager

structure HopValid (vault input output source : Pubkey) (index : ℕ) (last : Bool)
    (hop : VaultSwapHop) : Prop where
  accounts : hop.accounts ≠ [] ∧ hop.accounts.length ≤ maxVaultSwapRouteAccounts
  data : hop.data ≠ []
  amount : ∀ amount ∈ hop.amountOffset, index ≠ 0 ∧ amount.offset ≠ noAmountOffset ∧
    amount.offset.toNat + 8 ≤ hop.data.length ∧ amount.num ≠ 0 ∧ amount.den ≠ 0
  source : hop.source = source
  destination : (last = true → hop.destination = output) ∧
    (last = false → hop.destination ≠ input ∧ hop.destination ≠ output)
  signers : ∀ account ∈ hop.accounts, account.isSigner = true → account.pubkey = vault
  legs : ∀ account ∈ hop.accounts, account.pubkey = input ∨ account.pubkey = output →
    account.pubkey = hop.source ∨ account.pubkey = hop.destination
  present : vault ∈ hop.accounts.map AccountMeta.pubkey ∧
    hop.source ∈ hop.accounts.map AccountMeta.pubkey ∧
      hop.destination ∈ hop.accounts.map AccountMeta.pubkey

def HopsValid (vault input output : Pubkey) : Pubkey → ℕ → List VaultSwapHop → Prop
  | _, _, [] => True
  | source, index, hop :: hops => HopValid vault input output source index hops.isEmpty hop ∧
    HopsValid vault input output hop.destination (index + 1) hops

structure SwapValid (vault input output : Pubkey) (plan : VaultSwapPlan) : Prop where
  amounts : plan.amountIn ≠ 0 ∧ plan.minimumOut ≠ 0 ∧ plan.validUntil ≠ 0
  count : plan.hops ≠ [] ∧ plan.hops.length ≤ maxVaultSwapHops
  caps : (plan.hops.map (fun hop ↦ hop.accounts.length + 3)).sum ≤ maxVaultSwapPathAccounts ∧
    (plan.hops.map (fun hop ↦ hop.data.length)).sum ≤ maxVaultSwapRouteData
  hops : HopsValid vault input output input 0 plan.hops

namespace VaultManager

theorem validateHop_ok {vault input output source : Pubkey} {index : ℕ} {last : Bool}
    {hop : VaultSwapHop} {u : Unit} : validateHop vault input output source index last hop = .ok u ↔
      HopValid vault input output source index last hop := by
  simp only [validateHop, bind_ok, refuse_ok, exists_const]
  constructor
  · rintro ⟨h₁, h₂, h₃, h₄, h₅, h₆, h₇⟩
    refine ⟨by simpa using h₁, by simpa using h₂, ?_, ?_, ?_, by simpa using h₅, ?_, ?_⟩
    · intro amount ha
      simp_all
    · grind
    · grind
    · grind
    · grind
  · intro h
    refine ⟨by simpa using h.accounts, by simpa using h.data, ?_, ?_, by simpa using h.signers,
      ?_, ?_⟩
    · have := h.amount
      cases ha : hop.amountOffset <;> simp_all
    · have := h.source; have := h.destination; grind
    · have := h.legs; grind
    · have := h.present; grind

theorem validateHops_ok {vault input output source : Pubkey} {index : ℕ}
    {hops : List VaultSwapHop} {u : Unit} :
    validateHops vault input output source index hops = .ok u ↔
      HopsValid vault input output source index hops := by
  induction hops generalizing source index with
  | nil => simp [validateHops, HopsValid]
  | cons hop hops ih =>
    simp only [validateHops, HopsValid, bind_ok, validateHop_ok, ih, exists_const]

theorem validateSwap_ok {P : Platform} {manager : VaultManager} {kind : VaultSwapKind}
    {plan : VaultSwapPlan} {u : Unit} : manager.validateSwap P kind plan = .ok u ↔
      ∃ input output, manager.swapLegs P kind = .ok (input, output) ∧
        SwapValid manager.addresses.vault input output plan := by
  simp only [validateSwap, bind_ok, refuse_ok, exists_const, validateHops_ok, Prod.exists]
  constructor
  · rintro ⟨h₁, h₂, h₃, input, output, hlegs, hhops⟩
    exact ⟨input, output, hlegs, by simpa using h₁, by simpa using h₂, by simpa using h₃, hhops⟩
  · rintro ⟨input, output, hlegs, h⟩
    exact ⟨by simpa using h.amounts, by simpa using h.count, by simpa using h.caps,
      input, output, hlegs, h.hops⟩

end VaultManager

def encodeAmountOffset : Option VaultSwapAmountOffset → List UInt8
  | some amount => u16ToLe amount.offset ++ u64ToLe amount.num ++ u64ToLe amount.den
  | none => u16ToLe noAmountOffset

def VaultSwapHop.encodeData (hop : VaultSwapHop) : List UInt8 :=
  .ofNat hop.accounts.length :: (u16ToLe (.ofNat hop.data.length) ++
    encodeAmountOffset hop.amountOffset ++ hop.data)

def clearSigner (account : AccountMeta) : AccountMeta := { account with isSigner := false }

def VaultSwapHop.encodeAccounts (hop : VaultSwapHop) : List AccountMeta :=
  .newReadonly hop.program false :: .new hop.source false :: .new hop.destination false ::
    hop.accounts.map clearSigner

namespace VaultManager

variable (P : Platform) (manager : VaultManager)

def swapVenuesAccount : AccountMeta := .newReadonly manager.addresses.swapVenues false

/-- The part all swaps share: their fixed accounts, then venues, prices and hops; their leading
bytes, then amounts, the generation of a staging half, and hops. -/
def swapInstruction (ix : VaultIx) (accounts : List AccountMeta) (leading : List UInt8)
    (generation : List UInt8) (plan : VaultSwapPlan) : Instruction :=
  manager.instruction ix
    (accounts ++ manager.swapVenuesAccount :: (plan.priceSection ++
      plan.hops.flatMap VaultSwapHop.encodeAccounts))
    (leading ++ (u64ToLe plan.amountIn ++ (u64ToLe plan.minimumOut ++ (u64ToLe plan.validUntil ++
      (generation ++ .ofNat plan.hops.length :: plan.hops.flatMap VaultSwapHop.encodeData)))))

def swapActors : List AccountMeta :=
  [.newReadonly manager.args.actor true, .new manager.addresses.vault false,
    .newReadonly manager.addresses.policy false]

def swapPair : List AccountMeta :=
  [.new manager.addresses.vaultMainAta false, .new manager.addresses.vaultSecondAta false,
    .newReadonly manager.args.mainMint false, .newReadonly manager.args.secondMint false,
    .newReadonly manager.args.mainTokenProgram false,
    .newReadonly manager.args.secondTokenProgram false]

def rebalanceAccounts : List AccountMeta :=
  manager.swapActors ++ [.newReadonly manager.addresses.delegate false,
    .newReadonly manager.addresses.globalConfig false] ++ manager.swapPair ++
    [.newReadonly manager.args.shareMint false,
      .newReadonly manager.addresses.managerStakeAta false]

def recoveryAccounts : List AccountMeta :=
  manager.swapActors ++ manager.swapPair ++ [.newReadonly manager.args.shareMint false]

def closingAccounts : List AccountMeta :=
  manager.swapActors ++ manager.swapPair ++ [.newReadonly manager.addresses.globalConfig false]

def legMint : VaultLeg → Pubkey
  | .main => manager.args.mainMint
  | .second => manager.args.secondMint

def legTokenProgram : VaultLeg → Pubkey
  | .main => manager.args.mainTokenProgram
  | .second => manager.args.secondTokenProgram

def stagingAccounts (leg : VaultLeg) (asset : VaultStagingAsset) : List AccountMeta :=
  manager.swapActors ++ [.newReadonly manager.addresses.delegate false,
    .newReadonly manager.addresses.globalConfig false,
    .new (manager.legAta leg) false,
    .newReadonly (manager.legMint leg) false,
    .newReadonly (manager.legTokenProgram leg) false,
    .new (asset.vaultAta P manager.addresses.vault) false,
    .newReadonly asset.mint false,
    .newReadonly asset.tokenProgram false,
    .newReadonly manager.args.shareMint false,
    .newReadonly manager.addresses.managerStakeAta false]

def stepByte : VaultStagingStep → UInt8
  | .stage => 0
  | .unstage => 1

def legByte : VaultLeg → UInt8
  | .main => 0
  | .second => 1

def stagingSwap (step : VaultStagingStep) (leg : VaultLeg) (asset : VaultStagingAsset)
    (generation : UInt64) (plan : VaultSwapPlan) : Instruction :=
  manager.swapInstruction .vaultStagingSwap (manager.stagingAccounts P leg asset)
    [stepByte step, legByte leg] (u64ToLe generation) plan

def recoveryTail (mainPriceSection : List AccountMeta) : List AccountMeta :=
  .new manager.addresses.vaultMainAta false ::
    .newReadonly manager.args.mainTokenProgram false :: mainPriceSection

def swap (kind : VaultSwapKind) (plan : VaultSwapPlan) : Except VaultChainError Instruction := do
  manager.validateSwap P kind plan
  match kind with
  | .recoveryStage asset generation mainPriceSection => do
    refuse (mainPriceSection.isEmpty ∨
        ∃ account ∈ mainPriceSection, account.isWritable = true ∨ account.isSigner = true)
      (.invalidInput "recovery main price section must be nonempty and read-only")
    manager.validateSwap P (.staging .stage .second asset generation) plan
    let instruction := manager.stagingSwap P .stage .second asset generation plan
    let position := kind.fixedAccounts + plan.priceSection.length
    pure { instruction with
      data := instruction.data.set 1 2
      accounts := instruction.accounts.take position ++ manager.recoveryTail mainPriceSection ++
        instruction.accounts.drop position }
  | .rebalance secondToMain =>
    pure (manager.swapInstruction .vaultSpotRebalance manager.rebalanceAccounts
      [secondToMain.toUInt8] [] plan)
  | .recovery =>
    pure (manager.swapInstruction .recoveryConvertToMain manager.recoveryAccounts [] [] plan)
  | .closing =>
    pure (manager.swapInstruction .closingConvertToMain manager.closingAccounts [] [] plan)
  | .staging step leg asset generation =>
    pure (manager.stagingSwap P step leg asset generation plan)

end VaultManager

def VaultSwapKind.leading : VaultSwapKind → List UInt8
  | .rebalance secondToMain => [VaultIx.vaultSpotRebalance.toByte, secondToMain.toUInt8]
  | .recovery => [VaultIx.recoveryConvertToMain.toByte]
  | .closing => [VaultIx.closingConvertToMain.toByte]
  | .recoveryStage .. => [VaultIx.vaultStagingSwap.toByte, 2, VaultManager.legByte .second]
  | .staging step leg .. => [VaultIx.vaultStagingSwap.toByte, VaultManager.stepByte step,
      VaultManager.legByte leg]

def VaultSwapKind.generation : VaultSwapKind → Option UInt64
  | .staging _ _ _ generation | .recoveryStage _ generation _ => some generation
  | _ => none

def VaultSwapKind.generationBytes (kind : VaultSwapKind) : List UInt8 :=
  (kind.generation.map u64ToLe).getD []

namespace VaultManager

variable (P : Platform) (manager : VaultManager)

def swapAccounts : VaultSwapKind → List AccountMeta
  | .rebalance _ => manager.rebalanceAccounts ++ [manager.swapVenuesAccount]
  | .recovery => manager.recoveryAccounts ++ [manager.swapVenuesAccount]
  | .closing => manager.closingAccounts ++ [manager.swapVenuesAccount]
  | .recoveryStage asset _ _ => manager.stagingAccounts P .second asset ++
      [manager.swapVenuesAccount]
  | .staging _ leg asset _ => manager.stagingAccounts P leg asset ++ [manager.swapVenuesAccount]

def swapTail : VaultSwapKind → List AccountMeta
  | .recoveryStage _ _ mainPriceSection => manager.recoveryTail mainPriceSection
  | _ => []

def swapLayout (kind : VaultSwapKind) (plan : VaultSwapPlan) : Instruction where
  programId := manager.args.programId
  accounts := manager.swapAccounts P kind ++ (plan.priceSection ++ (manager.swapTail kind ++
    plan.hops.flatMap VaultSwapHop.encodeAccounts))
  data := kind.leading ++ (u64ToLe plan.amountIn ++ (u64ToLe plan.minimumOut ++
    (u64ToLe plan.validUntil ++ (kind.generationBytes ++ .ofNat plan.hops.length ::
      plan.hops.flatMap VaultSwapHop.encodeData))))

variable {P manager} {kind : VaultSwapKind} {plan : VaultSwapPlan} {ix : Instruction}

theorem length_swapAccounts : (manager.swapAccounts P kind).length = kind.fixedAccounts := by
  cases kind <;> rfl

theorem length_header : kind.leading.length + 24 + kind.generationBytes.length + 1 =
    kind.headerLen := by
  cases kind <;> rfl

def TailValid : VaultSwapKind → Prop
  | .recoveryStage _ _ mainPriceSection => mainPriceSection ≠ [] ∧
      ∀ account ∈ mainPriceSection, account.isWritable = false ∧ account.isSigner = false
  | _ => True

theorem recoveryStage_layout (asset : VaultStagingAsset) (generation : UInt64)
    (mainPriceSection : List AccountMeta) (plan : VaultSwapPlan) :
    let instruction := manager.stagingSwap P .stage .second asset generation plan
    let kind := VaultSwapKind.recoveryStage asset generation mainPriceSection
    let position := kind.fixedAccounts + plan.priceSection.length
    { instruction with
      data := instruction.data.set 1 2
      accounts := instruction.accounts.take position ++ manager.recoveryTail mainPriceSection ++
        instruction.accounts.drop position : Instruction } = manager.swapLayout P kind plan := by
  intro instruction kind position
  have h : instruction.accounts = (manager.swapAccounts P kind ++ plan.priceSection) ++
      plan.hops.flatMap VaultSwapHop.encodeAccounts := by
    simp [instruction, kind, stagingSwap, swapInstruction, VaultManager.instruction, swapAccounts]
  have hlen : (manager.swapAccounts P kind ++ plan.priceSection).length = position := by
    rw [List.length_append, length_swapAccounts]
  rw [h, ← hlen, List.take_left, List.drop_left]
  simp only [swapLayout, List.append_assoc]
  rfl

theorem swapInstruction_layout {tag : VaultIx} {accounts : List AccountMeta}
    {leading g : List UInt8}
    (ha : manager.swapAccounts P kind = accounts ++ [manager.swapVenuesAccount])
    (hl : kind.leading = tag.toByte :: leading) (hg : kind.generationBytes = g)
    (ht : manager.swapTail kind = []) :
    manager.swapInstruction tag accounts leading g plan = manager.swapLayout P kind plan := by
  simp [swapLayout, swapInstruction, VaultManager.instruction, ha, hl, hg, ht]

theorem swap_ok : manager.swap P kind plan = .ok ix ↔
    (∃ input output, manager.swapLegs P kind = .ok (input, output) ∧
      SwapValid manager.addresses.vault input output plan) ∧
    TailValid kind ∧ manager.swapLayout P kind plan = ix := by
  cases kind with
  | recoveryStage asset generation mainPriceSection =>
    have hlayout := @recoveryStage_layout P manager asset generation mainPriceSection plan
    simp only [swap, bind_ok, refuse_ok, exists_const, validateSwap_ok, pure_ok, swapLegs,
      TailValid, hlayout]
    grind
  | rebalance secondToMain =>
    rw [← swapInstruction_layout (g := []) rfl rfl rfl rfl]
    simp only [swap, bind_ok, exists_const, validateSwap_ok, pure_ok, TailValid, true_and]
  | recovery =>
    rw [← swapInstruction_layout (g := []) rfl rfl rfl rfl]
    simp only [swap, bind_ok, exists_const, validateSwap_ok, pure_ok, TailValid, true_and]
  | closing =>
    rw [← swapInstruction_layout (g := []) rfl rfl rfl rfl]
    simp only [swap, bind_ok, exists_const, validateSwap_ok, pure_ok, TailValid, true_and]
  | staging step leg asset generation =>
    rw [← swapInstruction_layout (g := u64ToLe generation) rfl rfl rfl rfl]
    simp only [swap, bind_ok, exists_const, validateSwap_ok, pure_ok, TailValid, true_and,
      stagingSwap]

end VaultManager

end MakerSdk.Vault
