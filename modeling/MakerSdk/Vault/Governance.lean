import Mathlib.Data.List.Induction
import MakerSdk.Vault.Capital

namespace MakerSdk.Vault

open Base Base.Bytes Base.Checks Solana

structure VaultPolicyUpdate where
  maxOpenPositions : UInt16
  maxRebalanceDriftBps : UInt16
  minMainLiquidityBps : UInt16
deriving DecidableEq

inductive VaultGovernanceUpdate where
  | capLimit (value : UInt64)
  | fees (performanceBps managementBps : UInt16)
  | hwmReset (value : BitVec 128)
  | capabilities (value mask : UInt32)
  | policy (update : VaultPolicyUpdate)
  | governanceAuthority (key : Pubkey)
  | secondLeg (key : Pubkey)
deriving DecidableEq

inductive VaultGovernanceUpdateKind where
  | capLimit
  | fees
  | hwmReset
  | capabilities
  | policy
  | governanceAuthority
  | secondLeg
deriving DecidableEq

def VaultGovernanceUpdateKind.toByte : VaultGovernanceUpdateKind → UInt8
  | .capLimit => 0
  | .fees => 1
  | .hwmReset => 2
  | .capabilities => 3
  | .policy => 4
  | .governanceAuthority => 5
  | .secondLeg => 6

def capabilitiesKnownMask : UInt32 := ((1 : UInt32) <<< 3) - 1
def maxRebalanceDriftBps : UInt16 := 200

namespace VaultGovernanceUpdate

def kind : VaultGovernanceUpdate → VaultGovernanceUpdateKind
  | .capLimit _ => .capLimit
  | .fees .. => .fees
  | .hwmReset _ => .hwmReset
  | .capabilities .. => .capabilities
  | .policy _ => .policy
  | .governanceAuthority _ => .governanceAuthority
  | .secondLeg _ => .secondLeg

/-- What an update copies to the front of its payload; the bytes after it stay zero. -/
def front : VaultGovernanceUpdate → List UInt8
  | .capLimit value => u64ToLe value
  | .fees performanceBps managementBps => u16ToLe performanceBps ++ u16ToLe managementBps
  | .hwmReset value => u128ToLe value
  | .capabilities value mask => u32ToLe value ++ u32ToLe mask
  | .policy update => u16ToLe update.maxOpenPositions ++
      (u16ToLe update.maxRebalanceDriftBps ++ u16ToLe update.minMainLiquidityBps)
  | .governanceAuthority key | .secondLeg key => key.toList

def check : VaultGovernanceUpdate → Except VaultChainError Unit
  | .capLimit _ | .hwmReset _ => pure ()
  | .fees performanceBps managementBps =>
    refuse (performanceBps > 10000 ∨ managementBps > 1000)
      (.invalidInput "fees exceed 10000 bps performance or 1000 bps management")
  | .capabilities value mask =>
    refuse (mask = 0 ∨ value &&& ~~~mask ≠ 0 ∨ mask &&& ~~~capabilitiesKnownMask ≠ 0)
      (.invalidInput "capability mask must be non-zero and contain every value bit")
  | .policy update =>
    refuse (update.maxOpenPositions = 0 ∨ update.maxRebalanceDriftBps = 0 ∨
        update.maxRebalanceDriftBps > Vault.maxRebalanceDriftBps ∨
          update.minMainLiquidityBps > 10000)
      (.invalidInput ("vault policy requires positions > 0, drift in 1..=200 bps and " ++
        "liquidity <= 10000 bps"))
  | .governanceAuthority key | .secondLeg key =>
    refuse (key = .ofList 32 [])
      (.invalidInput "vault authority or second-leg update cannot use the zero pubkey")

def payload (update : VaultGovernanceUpdate) : Except VaultChainError (FixedBytes 32) := do
  update.check
  pure (.ofList 32 update.front)

end VaultGovernanceUpdate

def Pda.pendingVaultUpdate (P : Platform) (programId vault : Pubkey) (kind : UInt8) :
    Pubkey × UInt8 :=
  P.findProgramAddress [ascii "pending_update", vault.toList, [kind]] programId

namespace VaultManager

variable (P : Platform) (manager : VaultManager)

def pendingUpdate (kind : VaultGovernanceUpdateKind) : Pubkey :=
  (Pda.pendingVaultUpdate P manager.args.programId manager.addresses.vault kind.toByte).1

def proposeUpdate (update : VaultGovernanceUpdate) : Except VaultChainError Instruction := do
  let payload ← update.payload
  pure (manager.command .proposeVaultUpdate
    [.new manager.args.actor true, .new manager.addresses.vault false,
      .new (manager.pendingUpdate P update.kind) false, .newReadonly systemProgramId false,
      .newReadonly manager.addresses.globalConfig false]
    (update.kind.toByte :: payload.toList))

/-- The accounts by which fees are settled at the old terms, unless the kind is not about fees. -/
def settlement (kind : VaultGovernanceUpdateKind) (prices : Option (List AccountMeta)) :
    Except VaultChainError (List AccountMeta) :=
  if kind = .fees ∨ kind = .hwmReset then do
    let prices ← okOr prices
      (.invalidInput "fee and HWM updates require the price section to settle the old terms")
    let equity := (manager.processEquity prices).accounts
    pure (equity.take 1 ++ equity.drop 4)
  else pure []

def applyUpdate (kind : VaultGovernanceUpdateKind) (proposalPayer : Pubkey)
    (prices : Option (List AccountMeta)) : Except VaultChainError Instruction := do
  refuse (kind = .secondLeg) (.invalidInput "second-leg updates apply through apply_second_leg")
  let settlement ← manager.settlement kind prices
  pure (manager.command .applyVaultUpdate
    ([.new manager.addresses.vault false, .new manager.addresses.policy false,
      .new (manager.pendingUpdate P kind) false, .new proposalPayer false] ++ settlement)
    [kind.toByte])

/-- Applies an elapsed second leg; the prices are passed only if the old custody holds dust. -/
def applySecondLeg (proposalPayer newMint : Pubkey) (prices : Option (List AccountMeta)) :
    Except VaultChainError Instruction := do
  let args := manager.args
  let a := manager.addresses
  refuse (newMint ∈ [args.mainMint, args.secondMint, args.shareMint, .ofList 32 []])
    (.invalidInput "new second mint must differ from the vault's mints")
  pure (manager.command .applyVaultUpdate
    ([.new a.vault false, .new a.policy false, .new (manager.pendingUpdate P .secondLeg) false,
      .new proposalPayer false, .new args.actor true, .new args.secondMint false,
      .new a.vaultSecondAta false, .newReadonly args.secondTokenProgram false,
      .newReadonly newMint false,
      .new (deriveAssociatedTokenAddress P a.vault newMint args.secondTokenProgram) false,
      .newReadonly args.secondTokenProgram false,
      .newReadonly (Pda.priceRoute P args.programId newMint).1 false,
      .newReadonly a.secondPriceRoute false, .newReadonly systemProgramId false,
      .newReadonly associatedTokenProgramId false, .newReadonly a.vaultMainAta false] ++
      prices.getD [])
    [VaultGovernanceUpdateKind.secondLeg.toByte])

def cancelUpdate (kind : VaultGovernanceUpdateKind) (proposalPayer : Pubkey) : Instruction :=
  manager.command .cancelVaultUpdate
    [.newReadonly manager.args.actor true, .new manager.addresses.vault false,
      .new (manager.pendingUpdate P kind) false, .new proposalPayer false]
    [kind.toByte]

end VaultManager

section Payload

theorem VaultGovernanceUpdateKind.toByte_injective : Function.Injective toByte := by
  intro kind kind' h
  cases kind <;> cases kind' <;> first | rfl | cases h

theorem take_ofList {n : ℕ} {bytes : List UInt8} (h : bytes.length ≤ n) :
    (FixedBytes.ofList n bytes).toList.take bytes.length = bytes := by
  rw [FixedBytes.ofList, List.take_take, Nat.min_eq_left h, List.take_left]

namespace VaultGovernanceUpdate

def size : VaultGovernanceUpdateKind → ℕ
  | .capLimit => 8
  | .fees => 4
  | .hwmReset => 16
  | .capabilities => 8
  | .policy => 6
  | .governanceAuthority | .secondLeg => 32

theorem length_front (update : VaultGovernanceUpdate) :
    update.front.length = size update.kind := by
  cases update <;> simp [front, size, kind, FixedBytes.length_toList]

theorem size_le (kind : VaultGovernanceUpdateKind) : size kind ≤ 32 := by
  cases kind <;> decide

theorem eq_of_front {update update' : VaultGovernanceUpdate} (hkind : update.kind = update'.kind)
    (h : update.front = update'.front) : update = update' := by
  have h16 := Function.LeftInverse.injective u16OfLe_toLe
  have h32 := Function.LeftInverse.injective u32OfLe_toLe
  cases update with
  | capLimit value =>
    cases update' <;> cases hkind
    rw [Function.LeftInverse.injective u64OfLe_toLe h]
  | fees performanceBps managementBps =>
    cases update' <;> cases hkind
    obtain ⟨h₁, h₂⟩ := List.append_inj h (by simp)
    rw [h16 h₁, h16 h₂]
  | hwmReset value =>
    cases update' <;> cases hkind
    rw [Function.LeftInverse.injective u128OfLe_toLe h]
  | capabilities value mask =>
    cases update' <;> cases hkind
    obtain ⟨h₁, h₂⟩ := List.append_inj h (by simp)
    rw [h32 h₁, h32 h₂]
  | policy policy =>
    cases update' <;> cases hkind
    rename_i policy'
    obtain ⟨h₁, h₂⟩ := List.append_inj h (by simp)
    obtain ⟨h₂, h₃⟩ := List.append_inj h₂ (by simp)
    cases policy
    cases policy'
    cases h16 h₁
    cases h16 h₂
    cases h16 h₃
    rfl
  | governanceAuthority key =>
    cases update' <;> cases hkind
    rw [FixedBytes.ext h]
  | secondLeg key =>
    cases update' <;> cases hkind
    rw [FixedBytes.ext h]

theorem payload_ok {update : VaultGovernanceUpdate} {payload : FixedBytes 32} :
    update.payload = .ok payload ↔ update.check = .ok () ∧ .ofList 32 update.front = payload := by
  simp only [VaultGovernanceUpdate.payload, bind_ok, pure_ok]
  constructor
  · rintro ⟨_, hcheck, h⟩
    exact ⟨hcheck, h⟩
  · rintro ⟨hcheck, h⟩
    exact ⟨(), hcheck, h⟩

theorem eq_of_payload {update update' : VaultGovernanceUpdate} {payload : FixedBytes 32}
    (hkind : update.kind = update'.kind) (h : update.payload = .ok payload)
    (h' : update'.payload = .ok payload) : update = update' := by
  obtain ⟨-, rfl⟩ := payload_ok.mp h
  obtain ⟨-, heq⟩ := payload_ok.mp h'
  -- the zeros after the front do not count, as both fronts are of one length
  have hfront := congrArg (fun bytes : FixedBytes 32 ↦ bytes.toList.take (size update.kind)) heq
  have hlen := length_front update
  have hlen' := length_front update'
  rw [← hkind] at hlen'
  have htake := take_ofList (hlen.trans_le (size_le update.kind))
  have htake' := take_ofList (hlen'.trans_le (size_le update.kind))
  rw [hlen] at htake
  rw [hlen'] at htake'
  exact eq_of_front hkind (htake.symm.trans (hfront.symm.trans htake'))

end VaultGovernanceUpdate

end Payload

section Roll

def VaultManagerArgs.withLeg (args : VaultManagerArgs) (vault : VaultAccount) : VaultManagerArgs :=
  { args with
    secondMint := vault.secondMint
    secondTokenProgram := vault.secondTokenProgram
    secondLegGeneration := vault.secondLegGeneration }

namespace VaultManager

def refreshed (P : Platform) (manager : VaultManager) (vault : VaultAccount) : VaultManager :=
  match manager.refresh P vault with
  | .ok (manager, _) => manager
  | .error _ => manager

def rebuilt (P : Platform) (manager : VaultManager) (vault : VaultAccount) : VaultManager :=
  ⟨manager.args.withLeg vault, .derive P (manager.args.withLeg vault)⟩

structure Fits (manager : VaultManager) (vault : VaultAccount) : Prop where
  vaultId : vault.vaultId = manager.args.vaultId
  main : vault.secondMint ≠ manager.args.mainMint
  share : vault.secondMint ≠ manager.args.shareMint
  tokenProgram : IsTokenProgram vault.secondTokenProgram

variable {P : Platform} {manager : VaultManager} {vault : VaultAccount}

theorem rebuilt_of_current (h : manager.Built P) (hcurrent : manager.Current vault) :
    manager.rebuilt P vault = manager := by
  have hargs : manager.args.withLeg vault = manager.args := by
    rw [VaultManagerArgs.withLeg, hcurrent.secondMint, hcurrent.secondTokenProgram,
      hcurrent.secondLegGeneration]
  rw [rebuilt, hargs, ← h.addresses_eq]

theorem fits_of_current (h : manager.Built P) (hcurrent : manager.Current vault) :
    manager.Fits vault := by
  obtain ⟨hmain, -, hshare⟩ := h.mints_ne
  refine ⟨hcurrent.vaultId, ?_, ?_, ?_⟩
  · rw [hcurrent.secondMint]
    exact hmain.symm
  · rw [hcurrent.secondMint]
    exact hshare.symm
  · rw [hcurrent.secondTokenProgram]
    exact h.token_programs.2

theorem new_withLeg (h : manager.Built P) {manager' : VaultManager} :
    VaultManager.new P (manager.args.withLeg vault) = .ok manager' ↔
      vault.secondMint ≠ manager.args.mainMint ∧ vault.secondMint ≠ manager.args.shareMint ∧
        IsTokenProgram vault.secondTokenProgram ∧ manager.rebuilt P vault = manager' := by
  have hmain := h.token_programs.1
  have hshare := h.mints_ne.2.1
  simp only [Built, new, bind_ok, refuse_ok, exists_const, pure_ok] at h
  have hids := h.1
  simp only [new, bind_ok, refuse_ok, exists_const, pure_ok]
  simp only [VaultManagerArgs.withLeg, not_or, List.mem_cons, List.not_mem_nil, or_false,
    exists_eq_or_imp, exists_eq_left, not_and_or, ne_eq, not_not] at hids ⊢
  constructor
  · rintro ⟨-, ⟨hne, -, hne'⟩, ⟨-, hprogram⟩, heq⟩
    exact ⟨fun heq ↦ hne heq.symm, fun heq ↦ hne' heq.symm, hprogram, heq⟩
  · rintro ⟨hne, hne', hprogram, heq⟩
    exact ⟨hids, ⟨fun heq ↦ hne heq.symm, hshare, fun heq ↦ hne' heq.symm⟩, ⟨hmain, hprogram⟩, heq⟩

theorem ensureCurrent_foreign (hid : vault.vaultId ≠ manager.args.vaultId) :
    manager.ensureCurrent vault =
      .error (.invalidInput "vault account belongs to another vault") := by
  rw [ensureCurrent, refuse, if_pos hid]
  rfl

theorem ensureCurrent_rolled (hid : vault.vaultId = manager.args.vaultId)
    (h : ¬manager.Current vault) : manager.ensureCurrent vault = .error .secondLegRolled := by
  have hleg : vault.secondLegGeneration ≠ manager.args.secondLegGeneration ∨
      vault.secondMint ≠ manager.args.secondMint ∨
        vault.secondTokenProgram ≠ manager.args.secondTokenProgram := by
    by_contra hsame
    simp only [not_or, ne_eq, not_not] at hsame
    exact h ⟨hid, hsame.1, hsame.2.1, hsame.2.2⟩
  rw [ensureCurrent, refuse, if_neg (not_not.mpr hid), refuse, if_pos hleg]
  rfl

theorem refresh_cases (h : manager.Built P) (vault : VaultAccount) :
    (manager.Fits vault ∧ ∃ rolled,
      manager.refresh P vault = .ok (manager.rebuilt P vault, rolled) ∧
        (rolled = false ↔ manager.Current vault)) ∨
    (¬manager.Fits vault ∧ ∃ e, manager.refresh P vault = .error e) := by
  by_cases hid : vault.vaultId = manager.args.vaultId
  · by_cases hcurrent : manager.Current vault
    · have hensure : manager.ensureCurrent vault = .ok () := ensureCurrent_ok.mpr hcurrent
      refine .inl ⟨fits_of_current h hcurrent, false, ?_, iff_of_true rfl hcurrent⟩
      rw [refresh, hensure, rebuilt_of_current h hcurrent]
      rfl
    · have hrefresh : manager.refresh P vault =
          (do let manager ← VaultManager.new P (manager.args.withLeg vault)
              pure (manager, true)) := by
        rw [refresh, ensureCurrent_rolled hid hcurrent]
        rfl
      rw [hrefresh]
      cases hnew : VaultManager.new P (manager.args.withLeg vault) with
      | ok manager' =>
        obtain ⟨hmain, hshare, hprogram, rfl⟩ := (new_withLeg h).mp hnew
        exact .inl ⟨⟨hid, hmain, hshare, hprogram⟩, true, rfl, iff_of_false (by decide) hcurrent⟩
      | error e =>
        refine .inr ⟨fun hfits ↦ ?_, e, rfl⟩
        rw [(new_withLeg h).mpr ⟨hfits.main, hfits.share, hfits.tokenProgram, rfl⟩] at hnew
        cases hnew
  · refine .inr ⟨fun hfits ↦ hid hfits.vaultId,
      .invalidInput "vault account belongs to another vault", ?_⟩
    rw [refresh, ensureCurrent_foreign hid]

theorem Built.rebuilt (h : manager.Built P) (hfits : manager.Fits vault) :
    (manager.rebuilt P vault).Built P :=
  (new_withLeg h).mpr ⟨hfits.main, hfits.share, hfits.tokenProgram, rfl⟩

theorem refreshed_cases (h : manager.Built P) (vault : VaultAccount) :
    (manager.Fits vault ∧ refreshed P manager vault = manager.rebuilt P vault) ∨
      (¬manager.Fits vault ∧ refreshed P manager vault = manager) := by
  rcases refresh_cases h vault with ⟨hfits, rolled, hrefresh, -⟩ | ⟨hfits, e, hrefresh⟩
  · exact .inl ⟨hfits, by rw [refreshed, hrefresh]⟩
  · exact .inr ⟨hfits, by rw [refreshed, hrefresh]⟩

theorem fits_rebuilt {vault' : VaultAccount} :
    (manager.rebuilt P vault).Fits vault' ↔ manager.Fits vault' :=
  ⟨fun h ↦ ⟨h.1, h.2, h.3, h.4⟩, fun h ↦ ⟨h.1, h.2, h.3, h.4⟩⟩

theorem current_rebuilt (hfits : manager.Fits vault) : (manager.rebuilt P vault).Current vault :=
  ⟨hfits.vaultId, rfl, rfl, rfl⟩

/-- A manager that follows a vault over any number of refreshes, failed ones among them, is built as
`new` builds it and is current for the last account that fits. -/
theorem refresh_follows (h : manager.Built P) (vaults : List VaultAccount) :
    (vaults.foldl (refreshed P) manager).Built P ∧
    ((∀ vault ∈ vaults, ¬manager.Fits vault) ∧ vaults.foldl (refreshed P) manager = manager ∨
      ∃ before last after, vaults = before ++ last :: after ∧ manager.Fits last ∧
        (∀ vault ∈ after, ¬manager.Fits vault) ∧
        vaults.foldl (refreshed P) manager = manager.rebuilt P last ∧
        (vaults.foldl (refreshed P) manager).Current last) := by
  induction vaults using List.reverseRecOn with
  | nil => exact ⟨h, .inl ⟨fun _ hmem ↦ absurd hmem List.not_mem_nil, rfl⟩⟩
  | append_singleton vaults vault ih =>
    obtain ⟨hbuilt, ih⟩ := ih
    have hsame : ((vaults.foldl (refreshed P) manager).Fits vault ↔ manager.Fits vault) ∧
        (vaults.foldl (refreshed P) manager).rebuilt P vault = manager.rebuilt P vault := by
      rcases ih with ⟨-, heq⟩ | ⟨_, last, _, -, -, -, heq, -⟩
      · rw [heq]
        exact ⟨Iff.rfl, rfl⟩
      · rw [heq]
        exact ⟨fits_rebuilt, rfl⟩
    rw [List.foldl_concat]
    rcases refreshed_cases hbuilt vault with ⟨hfits, heq⟩ | ⟨hfits, heq⟩
    · have hnext := hbuilt.rebuilt hfits
      rw [hsame.2] at heq hnext
      rw [hsame.1] at hfits
      rw [heq]
      exact ⟨hnext, .inr ⟨vaults, vault, [], rfl, hfits, fun _ hmem ↦ absurd hmem List.not_mem_nil,
        rfl, current_rebuilt hfits⟩⟩
    · rw [hsame.1] at hfits
      rw [heq]
      refine ⟨hbuilt, ih.imp ?_ ?_⟩
      · rintro ⟨hnone, heq⟩
        exact ⟨List.forall_mem_append.mpr ⟨hnone, List.forall_mem_singleton.mpr hfits⟩, heq⟩
      · rintro ⟨before, last, after, rfl, hlast, hafter, heq⟩
        exact ⟨before, last, after ++ [vault], by simp, hlast,
          List.forall_mem_append.mpr ⟨hafter, List.forall_mem_singleton.mpr hfits⟩, heq⟩

def sampleRoll (vaultId mint : ℕ) : VaultAccount :=
  ⟨keyOfNat vaultId, .idle, .normal, 0, keyOfNat 5, keyOfNat mint, tokenProgramId, ⟨0, none⟩, 1⟩

theorem refresh_follows_roll :
    ([sampleRoll 2 12, sampleRoll 9 13].foldl (refreshed sampleSearches)
      sampleCapitalManager).Built sampleSearches ∧
    ([sampleRoll 2 12, sampleRoll 9 13].foldl (refreshed sampleSearches)
      sampleCapitalManager).args.secondMint = keyOfNat 12 :=
  ⟨(refresh_follows (by unfold Built; decide +kernel) _).1, by decide +kernel⟩

end VaultManager

end Roll

end MakerSdk.Vault
