import MakerSdk.Orders.Preimage
import MakerSdk.Served.Matches

namespace MakerSdk.Served

open Base.Bytes Base.Checks Orders Solana Vault

def computeBudgetProgramId : Pubkey :=
  keyOfNat 0x306466fe5211732ffecadba72c39be7bc8ce5bbc5f7126b2c439b3a40000000
def ed25519ProgramId : Pubkey :=
  keyOfNat 0x37d46d67c93fbbe12f9428f838d40ff0570744927f48a64fcca704480000000

example : computeBudgetProgramId = pubkey "ComputeBudget111111111111111111111111111111" ∧
    ed25519ProgramId = pubkey "Ed25519SigVerify111111111111111111111111111" := by
  decide +kernel

def ed25519Header : List UInt8 := [1, 0, 48, 0, 255, 255, 16, 0, 255, 255, 112, 0, 32, 0, 255, 255]

def ed25519DataLen : ℕ := 144
def setComputeUnitLimit : UInt8 := 2
def setComputeUnitPrice : UInt8 := 3
def maxComputeUnitLimit : UInt32 := 1400000

structure ComputeBudgetBounds where
  maxUnitLimit : UInt32
  maxUnitPriceMicroLamports : UInt64

def ComputeBudgetBounds.maxLimit (bounds : ComputeBudgetBounds) : UInt32 :=
  if bounds.maxUnitLimit ≤ maxComputeUnitLimit then bounds.maxUnitLimit else maxComputeUnitLimit

def budgetData (served : ServedMessage) (index : ℕ) (tag : UInt8) (len : ℕ) :
    Except VaultIntentError (List UInt8) :=
  okOr ((served.instructions[index]?.filter (fun ix ↦ ix.programId = computeBudgetProgramId ∧
      ix.accounts.isEmpty ∧ ix.data.length = len ∧ ix.data.head? = some tag)).map
    (fun ix ↦ ix.data.drop 1)) (.computeBudget index)

def budgetInstruction (tag : UInt8) (value : List UInt8) : Instruction :=
  ⟨computeBudgetProgramId, [], tag :: value⟩

def ServedMessage.computeBudget (served : ServedMessage) (bounds : ComputeBudgetBounds) :
    Except VaultIntentError (List Instruction) := do
  let limitBytes ← budgetData served 0 setComputeUnitLimit 5
  let limit := u32OfLe limitBytes
  let priceBytes ← budgetData served 1 setComputeUnitPrice 9
  let price := u64OfLe priceBytes
  let maxLimit := bounds.maxLimit
  refuse (limit = 0 ∨ limit > maxLimit) (.computeUnitLimit limit maxLimit)
  refuse (price > bounds.maxUnitPriceMicroLamports)
    (.computeUnitPrice price bounds.maxUnitPriceMicroLamports)
  pure [budgetInstruction setComputeUnitLimit (u32ToLe limit),
    budgetInstruction setComputeUnitPrice (u64ToLe price)]

def ServedMessage.quoteSignature (P : Platform) (served : ServedMessage) (index : ℕ)
    (signer : Pubkey) (orderId : FixedBytes 32) : Except VaultIntentError Instruction := do
  let ix ← okOr served.instructions[index]? (.quoteSignature "missing")
  refuse (ix.programId ≠ ed25519ProgramId ∨ ¬ ix.accounts.isEmpty ∨
      ix.data.length ≠ ed25519DataLen ∨ ix.data.take 16 ≠ ed25519Header)
    (.quoteSignature "not a single inline Ed25519 check")
  refuse ((ix.data.drop 16).take 32 ≠ signer.toList)
    (.quoteSignature "binds a different quote signer")
  refuse (ix.data.drop 112 ≠ orderId.toList) (.quoteSignature "binds a different order")
  let signature := FixedBytes.ofList 64 ((ix.data.drop 48).take 64)
  (verifyOrderIdSignatureBytes P orderId signature signer).mapError
    (fun _ ↦ .quoteSignature "signature does not verify")
  pure ix

def createAtaIdempotent (P : Platform) (payer owner mint tokenProgram : Pubkey) : Instruction :=
  ⟨associatedTokenProgramId, [
    .new payer true,
    .new (deriveAssociatedTokenAddress P owner mint tokenProgram) false,
    .newReadonly owner false,
    .newReadonly mint false,
    .newReadonly systemProgramId false,
    .newReadonly tokenProgram false], [1]⟩

def computeBudgetInstructions (limit : UInt32) (price : UInt64) : List Instruction :=
  [budgetInstruction setComputeUnitLimit (u32ToLe limit),
    budgetInstruction setComputeUnitPrice (u64ToLe price)]

structure ComputeBudgetBounds.Admits (bounds : ComputeBudgetBounds) (limit : UInt32)
    (price : UInt64) : Prop where
  limit_ne_zero : limit ≠ 0
  limit_le : limit ≤ bounds.maxUnitLimit
  limit_le_network : limit ≤ maxComputeUnitLimit
  price_le : price ≤ bounds.maxUnitPriceMicroLamports

theorem budgetData_ok {served : ServedMessage} {index : ℕ} {tag : UInt8} {len : ℕ}
    {value : List UInt8} : budgetData served index tag (len + 1) = .ok value ↔
      value.length = len ∧ served.instructions[index]? = some (budgetInstruction tag value) := by
  rw [budgetData, okOr_ok, Option.map_eq_some_iff]
  constructor
  · rintro ⟨ix, hix, rfl⟩
    obtain ⟨hget, h⟩ := Option.filter_eq_some_iff.mp hix
    obtain ⟨program, accounts, data⟩ := ix
    simp only [decide_eq_true_eq, List.isEmpty_iff] at h
    obtain ⟨rfl, rfl, hlen, htag⟩ := h
    obtain ⟨rest, rfl⟩ := List.head?_eq_some_iff.mp htag
    exact ⟨Nat.succ.inj hlen, hget⟩
  · rintro ⟨hlen, hget⟩
    exact ⟨_, Option.filter_eq_some_iff.mpr ⟨hget, by simp [budgetInstruction, hlen]⟩, rfl⟩

theorem ComputeBudgetBounds.admits_iff {bounds : ComputeBudgetBounds} {limit : UInt32}
    {price : UInt64} : bounds.Admits limit price ↔
      ¬ (limit = 0 ∨ limit > bounds.maxLimit) ∧ ¬ price > bounds.maxUnitPriceMicroLamports := by
  have hlimit : ¬ limit > bounds.maxLimit ↔
      limit ≤ bounds.maxUnitLimit ∧ limit ≤ maxComputeUnitLimit := by
    simp only [maxLimit, UInt32.le_iff_toNat_le, gt_iff_lt, UInt32.lt_iff_toNat_lt]
    split_ifs <;> omega
  rw [not_or, hlimit, gt_iff_lt, UInt64.not_lt]
  constructor
  · rintro ⟨h₁, h₂, h₃, h₄⟩
    exact ⟨⟨h₁, h₂, h₃⟩, h₄⟩
  · rintro ⟨⟨h₁, h₂, h₃⟩, h₄⟩
    exact ⟨h₁, h₂, h₃, h₄⟩

theorem computeBudget_ok {served : ServedMessage} {bounds : ComputeBudgetBounds}
    {budget : List Instruction} : served.computeBudget bounds = .ok budget ↔
      ∃ limit price, bounds.Admits limit price ∧
        served.instructions[0]? = some (budgetInstruction setComputeUnitLimit (u32ToLe limit)) ∧
        served.instructions[1]? = some (budgetInstruction setComputeUnitPrice (u64ToLe price)) ∧
          budget = computeBudgetInstructions limit price := by
  simp only [ServedMessage.computeBudget, bind_ok, budgetData_ok, refuse_ok, exists_const, pure_ok]
  constructor
  · rintro ⟨limit, ⟨hl, hlimit⟩, price, ⟨hp, hprice⟩, hbl, hbp, rfl⟩
    refine ⟨u32OfLe limit, u64OfLe price, bounds.admits_iff.mpr ⟨hbl, hbp⟩, ?_, ?_, rfl⟩
    · rw [u32ToLe_ofLe hl, hlimit]
    · rw [u64ToLe_ofLe hp, hprice]
  · rintro ⟨limit, price, hadm, hlimit, hprice, rfl⟩
    obtain ⟨hbl, hbp⟩ := bounds.admits_iff.mp hadm
    refine ⟨_, ⟨length_u32ToLe limit, hlimit⟩, _, ⟨length_u64ToLe price, hprice⟩, ?_⟩
    simp only [u32OfLe_toLe, u64OfLe_toLe]
    exact ⟨hbl, hbp, rfl⟩

def ed25519Instruction (signer : Pubkey) (signature : FixedBytes 64) (orderId : FixedBytes 32) :
    Instruction :=
  ⟨ed25519ProgramId, [],
    ed25519Header ++ (signer.toList ++ (signature.toList ++ orderId.toList))⟩

theorem ed25519_data_split {data : List UInt8} (h : data.length = ed25519DataLen) :
    data = data.take 16 ++ ((data.drop 16).take 32 ++
      ((FixedBytes.ofList 64 ((data.drop 48).take 64)).toList ++ data.drop 112)) := by
  have hsig : ((data.drop 48).take 64).length = 64 := by
    simp only [List.length_take, List.length_drop, h, ed25519DataLen]
    omega
  rw [FixedBytes.toList_ofList hsig]
  have h₁ := List.take_append_drop 16 data
  have h₂ := List.take_append_drop 32 (data.drop 16)
  have h₃ := List.take_append_drop 64 (data.drop 48)
  rw [List.drop_drop] at h₂ h₃
  rw [h₃, h₂, h₁]

theorem quoteSignature_ok {P : Platform} {served : ServedMessage} {index : ℕ} {signer : Pubkey}
    {orderId : FixedBytes 32} {ix : Instruction} :
    served.quoteSignature P index signer orderId = .ok ix ↔
      ∃ signature, ix = ed25519Instruction signer signature orderId ∧
        served.instructions[index]? = some ix ∧
          verifyOrderIdSignatureBytes P orderId signature signer = .ok () := by
  simp only [ServedMessage.quoteSignature, bind_ok, okOr_ok, refuse_ok, exists_const, pure_ok,
    mapError_ok, ne_eq, not_or, not_not, List.isEmpty_iff]
  constructor
  · rintro ⟨⟨program, accounts, data⟩, hix, ⟨hprogram, haccounts, hlen, hheader⟩, hsigner,
      horder, _, hverify, rfl⟩
    simp only at hprogram haccounts hlen hheader hsigner horder hverify
    refine ⟨_, ?_, hix, hverify⟩
    rw [ed25519Instruction, ← hprogram, ← haccounts, ← hheader, ← hsigner, ← horder]
    exact congrArg _ (ed25519_data_split hlen)
  · rintro ⟨signature, rfl, hix, hverify⟩
    have hs := signer.length_toList
    have hg := signature.length_toList
    have ho := orderId.length_toList
    refine ⟨_, hix, ⟨rfl, rfl, ?_, ?_⟩, ?_, ?_, (), ?_, rfl⟩
    all_goals simp only [ed25519Instruction]
    · simp [ed25519Header, ed25519DataLen, hs, hg, ho]
    · simp [ed25519Header]
    · simp [ed25519Header, hs]
    · simp [ed25519Header, hs, hg, List.drop_append]
    · simpa [ed25519Header, hs, hg, List.drop_append] using hverify

end MakerSdk.Served
