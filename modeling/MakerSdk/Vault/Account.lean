import MakerSdk.Base.Records
import MakerSdk.Holdings.Decode
import MakerSdk.Vault.Manager
import MakerSdk.Vault.RouteParse

namespace MakerSdk.Vault

open Base Base.Bytes Base.Checks Base.Records Base.Words Solana
open Holdings (Account)

/-- The errors of the chain client; those of the vault's accounts are kept as they are. -/
inductive ClientError where
  | vault (error : VaultChainError)
  | chain (error : Sale.ChainError)
deriving DecidableEq

def VaultPhase.tryFrom (value : UInt8) : Except VaultChainError VaultPhase :=
  match value with
  | 0 => .ok .idle
  | 1 => .ok .active
  | 2 => .ok .settling
  | 3 => .ok .processingCapital
  | other => .error (.unknownPhase other)

def VaultSafety.tryFrom (value : UInt8) : Except VaultChainError VaultSafety :=
  match value with
  | 0 => .ok .normal
  | 1 => .ok .frozen
  | 2 => .ok .emergencyUnwind
  | 3 => .ok .withdrawOnly
  | 4 => .ok .closing
  | other => .error (.unknownSafety other)

def tokenProgram (kind : UInt8) : Except VaultChainError Pubkey :=
  match kind with
  | 0 => .ok tokenProgramId
  | 1 => .ok token2022ProgramId
  | other => .error (.unknownTokenProgramKind other)

def stagedLeg (value : UInt8) : Except VaultChainError VaultLeg :=
  match value with
  | 0 => .ok .main
  | 1 => .ok .second
  | other => .error (.unknownStagedLeg other)

structure VaultRecord extends VaultAccount where
  equityComputed : Bool
  acceptingDeposits : Bool
  governanceAuthority : Pubkey
  primaryDelegate : Pubkey
  pendingGovernanceAuthority : Pubkey
  feeRecipient : Pubkey
  shareMint : Pubkey
  mainTokenProgram : Pubkey
  openPositions : UInt64
  totalShares : UInt64
  pendingDepositCount : UInt32
  pendingWithdrawCount : UInt32
  capitalFallbackDelaySecs : UInt64
  closingStartedAt : UInt64
  boundaryEquity : UInt64
  boundaryShares : UInt64
deriving DecidableEq

def vaultDiscriminator : UInt8 := 9
def vaultVersion : UInt8 := 1
def requestVersion : UInt8 := 1
def equityComputedFlag : UInt32 := 1
def acceptingDepositsFlag : UInt32 := 2

def readStaged (data : List UInt8) (amount : UInt64) : Checked VaultChainError VaultStagedSlot := do
  let mint ← arrayAt 32 data 456
  let leg ← index data 5
  let fromLeg ← lift (stagedLeg leg)
  let stagedAt ← u64At data 496
  pure ⟨mint, fromLeg, amount, stagedAt⟩

def readSlot (data : List UInt8) (amount : UInt64) :
    Checked VaultChainError (Option VaultStagedSlot) :=
  if amount = 0 then pure none
  else do
    let slot ← readStaged data amount
    pure (some slot)

namespace VaultRecord

def len : ℕ := 712

/-- The fields of `VaultAccount::parse`, once the length and the header are checked. -/
def readFields (data : List UInt8) : Checked VaultChainError VaultRecord := do
  let flags ← u32At data 12
  lift (refuse (flags &&& ~~~(equityComputedFlag ||| acceptingDepositsFlag) ≠ 0)
    (.unknownAccountingFlags flags))
  let stagedKind ← index data 6
  lift (refuse (stagedKind ≠ 0) (.unknownStagedKind stagedKind))
  let amount ← u64At data 488
  let openSlot ← readSlot data amount
  let vaultId ← arrayAt 32 data 16
  let phase ← index data 3
  let phase ← lift (VaultPhase.tryFrom phase)
  let safety ← index data 4
  let safety ← lift (VaultSafety.tryFrom safety)
  let governanceAuthority ← arrayAt 32 data 48
  let primaryDelegate ← arrayAt 32 data 144
  let pendingGovernanceAuthority ← arrayAt 32 data 80
  let feeRecipient ← arrayAt 32 data 112
  let mainMint ← arrayAt 32 data 176
  let secondMint ← arrayAt 32 data 208
  let shareMint ← arrayAt 32 data 240
  let mainKind ← index data 402
  let mainTokenProgram ← lift (tokenProgram mainKind)
  let secondKind ← index data 403
  let secondTokenProgram ← lift (tokenProgram secondKind)
  let activeExpiry ← u64At data 272
  let openPositions ← u64At data 280
  let totalShares ← u64At data 288
  let pendingDepositCount ← u32At data 320
  let pendingWithdrawCount ← u32At data 324
  let capitalFallbackDelaySecs ← u64At data 408
  let closingStartedAt ← u64At data 432
  let boundaryEquity ← u64At data 440
  let boundaryShares ← u64At data 448
  let generation ← u64At data 504
  let secondLegGeneration ← u64At data 512
  pure
    { vaultId, phase, safety
      equityComputed := flags &&& equityComputedFlag ≠ 0
      acceptingDeposits := flags &&& acceptingDepositsFlag ≠ 0
      governanceAuthority, primaryDelegate, pendingGovernanceAuthority, feeRecipient
      mainMint, secondMint, shareMint, mainTokenProgram, secondTokenProgram
      activeExpiry, openPositions, totalShares, pendingDepositCount, pendingWithdrawCount
      capitalFallbackDelaySecs, closingStartedAt, boundaryEquity, boundaryShares
      staging := ⟨generation, openSlot⟩
      secondLegGeneration }

def parse (data : List UInt8) : Checked VaultChainError VaultRecord := do
  lift (refuse (data.length ≠ len) (.accountLength len data.length))
  let data ← header data len vaultDiscriminator vaultVersion
  readFields data

def fromAccount (account : Account) (programId : Pubkey) : Checked VaultChainError VaultRecord := do
  lift (refuse (account.owner ≠ programId) (.owner programId account.owner))
  parse account.data

end VaultRecord

inductive VaultRequestKind where
  | deposit
  | withdraw
deriving DecidableEq

def VaultRequestKind.discriminator : VaultRequestKind → UInt8
  | .deposit => 12
  | .withdraw => 13

structure VaultRequest where
  user : Pubkey
  vault : Pubkey
  amount : UInt64
  createdAt : UInt64
deriving DecidableEq

namespace VaultRequest

def len : ℕ := 344
def vaultOffset : ℕ := 40

def parse (data : List UInt8) (kind : VaultRequestKind) : Checked VaultChainError VaultRequest := do
  let data ← header data len kind.discriminator requestVersion
  let user ← arrayAt 32 data 8
  let vault ← arrayAt 32 data vaultOffset
  let amount ← u64At data 72
  let createdAt ← u64At data 80
  pure ⟨user, vault, amount, createdAt⟩

def fromAccount (account : Account) (programId : Pubkey) (kind : VaultRequestKind) :
    Checked VaultChainError VaultRequest := do
  lift (refuse (account.owner ≠ programId) (.owner programId account.owner))
  lift (refuse (account.data.length ≠ len) (.accountLength len account.data.length))
  parse account.data kind

end VaultRequest

def PriceRoute.fromAccount (account : Account) (programId : Pubkey) :
    Checked VaultChainError PriceRoute := do
  lift (refuse (account.owner ≠ programId) (.owner programId account.owner))
  PriceRoute.parse account.data

section Spelling

def VaultPhase.toByte : VaultPhase → UInt8
  | .idle => 0
  | .active => 1
  | .settling => 2
  | .processingCapital => 3

def VaultSafety.toByte : VaultSafety → UInt8
  | .normal => 0
  | .frozen => 1
  | .emergencyUnwind => 2
  | .withdrawOnly => 3
  | .closing => 4

def VaultLeg.toByte : VaultLeg → UInt8
  | .main => 0
  | .second => 1

def tokenProgramKind (program : Pubkey) : UInt8 := if program = tokenProgramId then 0 else 1

def IsTokenProgram (program : Pubkey) : Prop :=
  program = tokenProgramId ∨ program = token2022ProgramId

def accountingFlags (equityComputed acceptingDeposits : Bool) : UInt32 :=
  (if equityComputed then equityComputedFlag else 0) |||
    (if acceptingDeposits then acceptingDepositsFlag else 0)

theorem VaultPhase.tryFrom_ok {value : UInt8} {phase : VaultPhase} :
    tryFrom value = .ok phase ↔ phase.toByte = value := by
  constructor
  · intro h
    unfold tryFrom at h
    split at h <;> cases h <;> rfl
  · rintro rfl
    cases phase <;> rfl

theorem VaultSafety.tryFrom_ok {value : UInt8} {safety : VaultSafety} :
    tryFrom value = .ok safety ↔ safety.toByte = value := by
  constructor
  · intro h
    unfold tryFrom at h
    split at h <;> cases h <;> rfl
  · rintro rfl
    cases safety <;> rfl

theorem stagedLeg_ok {value : UInt8} {leg : VaultLeg} :
    stagedLeg value = .ok leg ↔ leg.toByte = value := by
  constructor
  · intro h
    unfold stagedLeg at h
    split at h <;> cases h <;> rfl
  · rintro rfl
    cases leg <;> rfl

theorem tokenProgram_ok {kind : UInt8} {program : Pubkey} :
    tokenProgram kind = .ok program ↔
      IsTokenProgram program ∧ tokenProgramKind program = kind := by
  have hne : token2022ProgramId ≠ tokenProgramId := by decide +kernel
  constructor
  · intro h
    unfold tokenProgram at h
    split at h
    · cases h
      exact ⟨.inl rfl, if_pos rfl⟩
    · cases h
      exact ⟨.inr rfl, if_neg hne⟩
    · cases h
  · rintro ⟨rfl | rfl, rfl⟩
    · rw [tokenProgramKind, if_pos rfl]
      rfl
    · rw [tokenProgramKind, if_neg hne]
      rfl

theorem and_eq_self_of_and_not {x m : UInt32} (h : x &&& ~~~m = 0) : x &&& m = x := by
  apply UInt32.eq_of_toBitVec_eq
  have hbits := congrArg UInt32.toBitVec h
  ext i hi
  have hbit := congrArg (fun b ↦ b[i]) hbits
  simp only [UInt32.toBitVec_and, UInt32.toBitVec_not, BitVec.getElem_and,
    BitVec.getElem_not] at hbit ⊢
  cases hx : x.toBitVec[i] with
  | false => rfl
  | true => simpa [hx] using hbit

theorem accountingFlags_iff {flags : UInt32} {equityComputed acceptingDeposits : Bool} :
    accountingFlags equityComputed acceptingDeposits = flags ↔
      flags &&& ~~~(equityComputedFlag ||| acceptingDepositsFlag) = 0 ∧
        decide (flags &&& equityComputedFlag ≠ 0) = equityComputed ∧
        decide (flags &&& acceptingDepositsFlag ≠ 0) = acceptingDeposits := by
  constructor
  · rintro rfl
    cases equityComputed <;> cases acceptingDeposits <;> decide
  · rintro ⟨h, rfl, rfl⟩
    have hmask := congrArg UInt32.toNat (and_eq_self_of_and_not h)
    have hand : (flags &&& (equityComputedFlag ||| acceptingDepositsFlag)).toNat =
        flags.toNat % 2 ^ 2 :=
      Nat.and_two_pow_sub_one_eq_mod flags.toNat 2
    have hcases : flags = 0 ∨ flags = 1 ∨ flags = 2 ∨ flags = 3 := by
      simp only [← UInt32.toNat_inj]
      change flags.toNat = 0 ∨ flags.toNat = 1 ∨ flags.toNat = 2 ∨ flags.toNat = 3
      omega
    rcases hcases with rfl | rfl | rfl | rfl <;> rfl

def VaultStagedSlot.spelling (slot : VaultStagedSlot) : List (ℕ × List UInt8) :=
  [(456, slot.mint.toList), (5, [slot.fromLeg.toByte]), (496, u64ToLe slot.stagedAt)]

def slotAmount (slot : Option VaultStagedSlot) : UInt64 := slot.elim 0 VaultStagedSlot.amount

/-- Where each field of a vault account stands; the bytes in between are not read. -/
def VaultRecord.fields (vault : VaultRecord) : List (ℕ × List UInt8) :=
  (12, u32ToLe (accountingFlags vault.equityComputed vault.acceptingDeposits)) ::
  (6, [0]) :: (488, u64ToLe (slotAmount vault.staging.openSlot)) ::
  (vault.staging.openSlot.elim [] VaultStagedSlot.spelling ++
  [(16, vault.vaultId.toList), (3, [vault.phase.toByte]), (4, [vault.safety.toByte]),
    (48, vault.governanceAuthority.toList), (144, vault.primaryDelegate.toList),
    (80, vault.pendingGovernanceAuthority.toList), (112, vault.feeRecipient.toList),
    (176, vault.mainMint.toList), (208, vault.secondMint.toList), (240, vault.shareMint.toList),
    (402, [tokenProgramKind vault.mainTokenProgram]),
    (403, [tokenProgramKind vault.secondTokenProgram]),
    (272, u64ToLe vault.activeExpiry), (280, u64ToLe vault.openPositions),
    (288, u64ToLe vault.totalShares), (320, u32ToLe vault.pendingDepositCount),
    (324, u32ToLe vault.pendingWithdrawCount), (408, u64ToLe vault.capitalFallbackDelaySecs),
    (432, u64ToLe vault.closingStartedAt), (440, u64ToLe vault.boundaryEquity),
    (448, u64ToLe vault.boundaryShares), (504, u64ToLe vault.staging.generation),
    (512, u64ToLe vault.secondLegGeneration)])

def VaultRecord.spelling (vault : VaultRecord) : List (ℕ × List UInt8) :=
  (0, [vaultDiscriminator]) :: (1, [vaultVersion]) :: vault.fields

structure VaultRecord.WellFormed (vault : VaultRecord) : Prop where
  slot : ∀ slot ∈ vault.staging.openSlot, slot.amount ≠ 0
  mainTokenProgram : IsTokenProgram vault.mainTokenProgram
  secondTokenProgram : IsTokenProgram vault.secondTokenProgram

end Spelling

section Parse

variable {data : List UInt8}

theorem reads_staged {amount : UInt64} (h : data.length = VaultRecord.len) :
    Reads NoPanic data (readStaged data amount) (fun slot ↦ slot.amount = amount)
      VaultStagedSlot.spelling := by
  have hlen : data.length = 712 := h
  unfold readStaged
  refine Reads.next VaultStagedSlot.mint (reads_array (by omega)) fun mint ↦ ?_
  refine Reads.next (fun slot : VaultStagedSlot ↦ slot.fromLeg.toByte) (reads_byte (by omega))
    fun leg ↦ ?_
  refine Reads.value VaultStagedSlot.fromLeg (reads_lift fun _ ↦ stagedLeg_ok) (fun _ hv ↦ hv.2)
    fun fromLeg hleg ↦ ?_
  refine Reads.next VaultStagedSlot.stagedAt (reads_u64 (by omega)) fun stagedAt ↦ ?_
  refine reads_pure fun slot ↦ ⟨?_, ?_⟩
  · rintro ⟨⟨⟨⟨rfl, rfl⟩, _⟩, rfl⟩, rfl⟩
    rfl
  · rintro rfl
    exact ⟨⟨⟨⟨rfl, rfl⟩, hleg⟩, rfl⟩, rfl⟩

theorem reads_slot {amount : UInt64} (h : data.length = VaultRecord.len) :
    Reads NoPanic data (readSlot data amount)
      (fun slot ↦ (∀ s ∈ slot, s.amount ≠ 0) ∧ slotAmount slot = amount)
      (fun slot ↦ slot.elim [] VaultStagedSlot.spelling) := by
  unfold readSlot
  split
  · rename_i hzero
    refine (reads_pure fun _ ↦ Iff.rfl).congr (fun slot ↦ ?_) ?_
    · cases slot with
      | none => simp [slotAmount, hzero]
      | some slot => simp [slotAmount, hzero]
    · rintro _ rfl
      exact Iff.rfl
  · rename_i hne
    refine (reads_staged h).some.congr (fun slot ↦ ?_) fun _ _ ↦ Iff.rfl
    cases slot with
    | none => simpa [slotAmount] using Ne.symm hne
    | some slot =>
      constructor
      · rintro ⟨_, hamount⟩
        exact ⟨slot, rfl, hamount⟩
      · rintro ⟨_, ⟨⟩, hamount⟩
        refine ⟨?_, hamount⟩
        rintro _ ⟨⟩
        rwa [hamount]

theorem reads_header {len : ℕ} {discriminator version : UInt8} (h : 2 ≤ len) :
    Reads NoPanic data (header data len discriminator version)
      (fun data' ↦ data' = data.take len ∧ len ≤ data.length)
      (fun _ ↦ [(0, [discriminator]), (1, [version])]) where
  ok data' := by
    rw [PriceRoute.header_ok, spelled_cons, spelled_cons, and_iff_left spelled_nil,
      at_iff_getElem?, at_iff_getElem?, eq_comm (a := data')]
    tauto
  fine e he := by
    have hmeets : Meets (fun data' ↦ data' = data.take len ∧ len ≤ data.length)
        (header data len discriminator version) := PriceRoute.meets_header h
    rw [he] at hmeets
    rintro rfl
    exact hmeets

theorem reads_fields (h : data.length = VaultRecord.len) :
    Reads NoPanic data (VaultRecord.readFields data) VaultRecord.WellFormed
      VaultRecord.fields := by
  have hlen : data.length = 712 := h
  unfold VaultRecord.readFields
  refine Reads.next
    (fun vault : VaultRecord ↦ accountingFlags vault.equityComputed vault.acceptingDeposits)
    (reads_u32 (by omega)) fun flags ↦ ?_
  refine Reads.check (fun hc vault hv ↦ hc (accountingFlags_iff.mp hv.2).1) fun hflags ↦ ?_
  refine Reads.next (fun _ ↦ 0) (reads_byte (by omega)) fun stagedKind ↦ ?_
  refine Reads.check (fun hc vault hv ↦ hc hv.2.symm) fun hkind ↦ ?_
  refine Reads.next (fun vault : VaultRecord ↦ slotAmount vault.staging.openSlot)
    (reads_u64 (by omega)) fun amount ↦ ?_
  refine Reads.field (fun vault : VaultRecord ↦ vault.staging.openSlot) (reads_slot h)
    (fun vault hv ↦ ?_) fun openSlot hslot ↦ ?_
  · exact ⟨hv.1.1.1.slot, hv.2⟩
  refine Reads.next (fun vault : VaultRecord ↦ vault.vaultId) (reads_array (by omega))
    fun vaultId ↦ ?_
  refine Reads.next (fun vault : VaultRecord ↦ vault.phase.toByte) (reads_byte (by omega))
    fun phaseByte ↦ ?_
  refine Reads.value (fun vault : VaultRecord ↦ vault.phase)
    (reads_lift fun _ ↦ VaultPhase.tryFrom_ok) (fun _ hv ↦ hv.2) fun phase hphase ↦ ?_
  refine Reads.next (fun vault : VaultRecord ↦ vault.safety.toByte) (reads_byte (by omega))
    fun safetyByte ↦ ?_
  refine Reads.value (fun vault : VaultRecord ↦ vault.safety)
    (reads_lift fun _ ↦ VaultSafety.tryFrom_ok) (fun _ hv ↦ hv.2) fun safety hsafety ↦ ?_
  refine Reads.next VaultRecord.governanceAuthority (reads_array (by omega))
    fun governanceAuthority ↦ ?_
  refine Reads.next VaultRecord.primaryDelegate (reads_array (by omega)) fun primaryDelegate ↦ ?_
  refine Reads.next VaultRecord.pendingGovernanceAuthority (reads_array (by omega))
    fun pendingGovernanceAuthority ↦ ?_
  refine Reads.next VaultRecord.feeRecipient (reads_array (by omega)) fun feeRecipient ↦ ?_
  refine Reads.next (fun vault : VaultRecord ↦ vault.mainMint) (reads_array (by omega))
    fun mainMint ↦ ?_
  refine Reads.next (fun vault : VaultRecord ↦ vault.secondMint) (reads_array (by omega))
    fun secondMint ↦ ?_
  refine Reads.next VaultRecord.shareMint (reads_array (by omega)) fun shareMint ↦ ?_
  refine Reads.next (fun vault : VaultRecord ↦ tokenProgramKind vault.mainTokenProgram)
    (reads_byte (by omega)) fun mainKind ↦ ?_
  refine Reads.value VaultRecord.mainTokenProgram (reads_lift fun _ ↦ tokenProgram_ok)
    (fun _ hv ↦ ⟨?_, hv.2⟩) fun mainTokenProgram hmainTokenProgram ↦ ?_
  · simp only [and_assoc] at hv
    exact hv.1.mainTokenProgram
  refine Reads.next (fun vault : VaultRecord ↦ tokenProgramKind vault.secondTokenProgram)
    (reads_byte (by omega)) fun secondKind ↦ ?_
  refine Reads.value (fun vault : VaultRecord ↦ vault.secondTokenProgram)
    (reads_lift fun _ ↦ tokenProgram_ok) (fun _ hv ↦ ⟨?_, hv.2⟩)
    fun secondTokenProgram hsecondTokenProgram ↦ ?_
  · simp only [and_assoc] at hv
    exact hv.1.secondTokenProgram
  refine Reads.next (fun vault : VaultRecord ↦ vault.activeExpiry) (reads_u64 (by omega))
    fun activeExpiry ↦ ?_
  refine Reads.next VaultRecord.openPositions (reads_u64 (by omega)) fun openPositions ↦ ?_
  refine Reads.next VaultRecord.totalShares (reads_u64 (by omega)) fun totalShares ↦ ?_
  refine Reads.next VaultRecord.pendingDepositCount (reads_u32 (by omega))
    fun pendingDepositCount ↦ ?_
  refine Reads.next VaultRecord.pendingWithdrawCount (reads_u32 (by omega))
    fun pendingWithdrawCount ↦ ?_
  refine Reads.next VaultRecord.capitalFallbackDelaySecs (reads_u64 (by omega))
    fun capitalFallbackDelaySecs ↦ ?_
  refine Reads.next VaultRecord.closingStartedAt (reads_u64 (by omega)) fun closingStartedAt ↦ ?_
  refine Reads.next VaultRecord.boundaryEquity (reads_u64 (by omega)) fun boundaryEquity ↦ ?_
  refine Reads.next VaultRecord.boundaryShares (reads_u64 (by omega)) fun boundaryShares ↦ ?_
  refine Reads.next (fun vault : VaultRecord ↦ vault.staging.generation) (reads_u64 (by omega))
    fun generation ↦ ?_
  refine Reads.next (fun vault : VaultRecord ↦ vault.secondLegGeneration) (reads_u64 (by omega))
    fun secondLegGeneration ↦ ?_
  refine reads_pure fun vault ↦ ?_
  simp only [and_assoc]
  constructor
  · rintro ⟨-, hflags', -, -, rfl, rfl, -, rfl, -, rfl, rfl, rfl, rfl, rfl, rfl, rfl, rfl, -, rfl,
      -, rfl, rfl, rfl, rfl, rfl, rfl, rfl, rfl, rfl, rfl, rfl, rfl⟩
    obtain ⟨_, hequity, haccepting⟩ := accountingFlags_iff.mp hflags'
    rw [hequity, haccepting]
  · rintro rfl
    have hflags' := accountingFlags_iff.mpr ⟨not_not.mp hflags, rfl, rfl⟩
    exact ⟨⟨hslot.1, hmainTokenProgram.1, hsecondTokenProgram.1⟩, hflags', (not_not.mp hkind).symm,
      hslot.2, rfl, rfl, hphase, rfl, hsafety, rfl, rfl, rfl, rfl, rfl, rfl, rfl, rfl,
      hmainTokenProgram.2, rfl, hsecondTokenProgram.2, rfl, rfl, rfl, rfl, rfl, rfl, rfl, rfl, rfl,
      rfl, rfl, rfl⟩

theorem reads_parse : Reads NoPanic data (VaultRecord.parse data)
    (fun vault ↦ vault.WellFormed ∧ data.length = VaultRecord.len) VaultRecord.spelling := by
  refine Reads.check (fun hlen vault hv ↦ hlen hv.2) fun hlen ↦ ?_
  have hlen := not_not.mp hlen
  have htake : data.take VaultRecord.len = data := List.take_of_length_le (Nat.le_of_eq hlen)
  refine Reads.field (fun _ ↦ data) (reads_header (by decide))
    (fun _ _ ↦ ⟨htake.symm, Nat.le_of_eq hlen.symm⟩) ?_
  rintro _ ⟨rfl, -⟩
  rw [htake]
  exact (reads_fields hlen).congr (fun vault ↦ ⟨fun hv ↦ hv.1.1, fun hv ↦ ⟨⟨hv, hlen⟩, rfl⟩⟩)
    fun _ _ ↦ Iff.rfl

theorem layout_spelling (vault : VaultRecord) :
    Layout VaultRecord.len (ranges vault.spelling) := by
  cases hslot : vault.staging.openSlot with
  | none =>
    simp only [VaultRecord.spelling, VaultRecord.fields, hslot, Option.elim_none, List.nil_append,
      ranges, List.map_cons, List.map_nil, List.length_singleton, length_u32ToLe, length_u64ToLe,
      FixedBytes.length_toList]
    decide
  | some slot =>
    simp only [VaultRecord.spelling, VaultRecord.fields, VaultStagedSlot.spelling, hslot,
      Option.elim_some, List.cons_append, List.nil_append, ranges, List.map_cons, List.map_nil,
      List.length_singleton, length_u32ToLe, length_u64ToLe, FixedBytes.length_toList]
    decide

end Parse

/-- A vault account is read exactly: it spells at most one vault, every well-formed vault is
spelled by some account, and nothing else is accepted. -/
theorem VaultRecord.fromAccount_exact (account : Account) (programId : Pubkey) :
    VaultRecord.fromAccount account programId ≠ .error .panicked ∧
    ∀ vault, VaultRecord.fromAccount account programId = .ok vault ↔
      account.owner = programId ∧ vault.WellFormed ∧
        ∃ padding : List UInt8, padding.length = VaultRecord.len ∧
          account.data = writeAll padding vault.spelling := by
  have hreads : Reads NoPanic account.data (VaultRecord.fromAccount account programId)
      (fun vault ↦ (vault.WellFormed ∧ account.data.length = VaultRecord.len) ∧
        account.owner = programId) VaultRecord.spelling := by
    refine Reads.check (fun howner vault hv ↦ howner hv.2) fun howner ↦ ?_
    exact reads_parse.congr (fun vault ↦ and_iff_left (not_not.mp howner)) fun _ _ ↦ Iff.rfl
  refine ⟨fun h ↦ hreads.fine _ h rfl, fun vault ↦ ?_⟩
  rw [hreads.ok, ← spelled_iff_exists (layout_spelling vault)]
  tauto

section Request

variable {data : List UInt8}

def VaultRequest.spelling (kind : VaultRequestKind) (request : VaultRequest) :
    List (ℕ × List UInt8) :=
  [(0, [kind.discriminator]), (1, [requestVersion]), (8, request.user.toList),
    (VaultRequest.vaultOffset, request.vault.toList), (72, u64ToLe request.amount),
    (80, u64ToLe request.createdAt)]

theorem layout_request (kind : VaultRequestKind) (request : VaultRequest) :
    Layout VaultRequest.len (ranges (request.spelling kind)) := by
  simp only [VaultRequest.spelling, ranges, List.map_cons, List.map_nil, List.length_singleton,
    length_u64ToLe, FixedBytes.length_toList]
  decide

/-- A request may be followed by bytes that are not read. -/
theorem reads_request {kind : VaultRequestKind} :
    Reads NoPanic data (VaultRequest.parse data kind)
      (fun _ ↦ VaultRequest.len ≤ data.length) (VaultRequest.spelling kind) := by
  refine Reads.field (fun _ ↦ data.take VaultRequest.len) (reads_header (by decide))
    (fun _ hlen ↦ ⟨rfl, hlen⟩) ?_
  rintro _ ⟨rfl, hlen⟩
  have htake : (data.take VaultRequest.len).length = 344 := List.length_take_of_le hlen
  refine Reads.of_take ?_ hlen ?_
  · refine Reads.next VaultRequest.user (reads_array (by omega)) fun user ↦ ?_
    refine Reads.next VaultRequest.vault (reads_array ?_) fun vault ↦ ?_
    · rw [htake]
      decide
    refine Reads.next VaultRequest.amount (reads_u64 (by omega)) fun amount ↦ ?_
    refine Reads.next VaultRequest.createdAt (reads_u64 (by omega)) fun createdAt ↦ ?_
    refine reads_pure fun request ↦ ⟨?_, ?_⟩
    · rintro ⟨⟨⟨⟨_, rfl⟩, rfl⟩, rfl⟩, rfl⟩
      rfl
    · rintro rfl
      exact ⟨⟨⟨⟨⟨hlen, rfl⟩, rfl⟩, rfl⟩, rfl⟩, rfl⟩
  · intro request field hfield
    exact (layout_request kind request).tail.tail.1 (field.1, field.2.length)
      (List.mem_map_of_mem hfield)

theorem reads_requestAccount {account : Account} {programId : Pubkey} {kind : VaultRequestKind} :
    Reads NoPanic account.data (VaultRequest.fromAccount account programId kind)
      (fun _ ↦ account.owner = programId ∧ account.data.length = VaultRequest.len)
      (VaultRequest.spelling kind) := by
  refine Reads.check (fun howner _ hv ↦ howner hv.1) fun howner ↦ ?_
  refine Reads.check (fun hlen _ hv ↦ hlen hv.2) fun hlen ↦ ?_
  have hlen := not_not.mp hlen
  refine reads_request.congr (fun _ ↦ ?_) fun _ _ ↦ Iff.rfl
  exact ⟨fun _ ↦ Nat.le_of_eq hlen.symm, fun _ ↦ ⟨not_not.mp howner, hlen⟩⟩

end Request

end MakerSdk.Vault
