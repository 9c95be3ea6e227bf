import MakerSdk.Amounts.Quote
import MakerSdk.Holdings.Decode
import MakerSdk.Served.Budget
import MakerSdk.Settle.Payout

namespace MakerSdk.Chain

open Base.Bytes Base.Words Base.Checks Solana Orders Quote Settle Holdings Amounts
open Sale (ChainError)

def nativeMint : Pubkey :=
  keyOfNat 0x69b8857feab8184fb687f634618c035dac439dc1aeb3b5598a0f00000000001

example : nativeMint = pubkey "So11111111111111111111111111111111111111112" := by decide +kernel

def splTokenSyncNative : UInt8 := 17
def systemInstructionTransfer : UInt32 := 2
def tokenAccountMintOffset : ℕ := 0
def tokenAccountOwnerOffset : ℕ := 32
def tokenAccountAmountOffset : ℕ := 64
def tokenAccountBaseLen : ℕ := 72
def tokenAccountRentLen : ℕ := 165

inductive NativeSolFunding where
  | disabled
  | wrapIfNeeded (reserveLamports : UInt64)
deriving DecidableEq

structure FundPositionArgs where
  holder : Pubkey
  positionPda : Pubkey
  createAtas : Bool
  nativeSol : NativeSolFunding

/-- The errors of a funding; `chain` is one of the account readers, `ix` that of the builder for a
position type it does not know. -/
inductive FundError where
  | chain (error : ChainError)
  | takerBuyUnsupported
  | rpc (error : String)
  | ix (positionType : UInt8)
  | settlementAmountOverflow
  | missingFundingAccount (account : Pubkey)
  | invalidNativeTokenProgram (program : Pubkey)
  | insufficientNativeSol (neededLamports availableLamports : UInt64)
  | nativeSolBudgetOverflow
  | signing (error : String)
deriving DecidableEq

/-- What `Transaction::new_with_payer` is given, and the blockhash set on it. -/
structure Message where
  instructions : List Instruction
  payer : Pubkey
  recentBlockhash : FixedBytes 32
deriving DecidableEq

/-- The node's answers, one field for each call of a funding: two reads of one account or balance
need not agree. `sign` is the result of signing with the keys given. -/
structure FundNode where
  position : Pubkey → Except String Account
  market : Pubkey → Except String Account
  bothAccounts : List Pubkey → Except String (List (Option Account))
  fundingAccount : Pubkey → Except String (Option Account)
  positionRent : ℕ → Except String UInt64
  fundingRent : ℕ → Except String UInt64
  plannedBalance : Pubkey → Except String UInt64
  latestBlockhash : Except String (FixedBytes 32)
  fee : Message → Except String UInt64
  availableBalance : Pubkey → Except String UInt64
  sign : Message → List Pubkey → Except String Unit

section Accounts

def marketDiscriminator : UInt8 := 4
def accountVersion : UInt8 := 1
def marketLen : ℕ := 416
def marketFlagPut : UInt8 := 1
def marketFlagFinalized : UInt8 := 2

def marketFromAccount (account : Account) (programId : Pubkey) : Except ChainError MarketInfo := do
  currentLayout account programId marketDiscriminator accountVersion marketLen
  let data := account.data
  let flags := data.getD 5 0
  refuse (flags &&& ~~~(marketFlagPut ||| marketFlagFinalized) ≠ 0) .invalidAccountData
  pure {
    expiryTs := ← readU64 data 8
    isPut := flags &&& marketFlagPut ≠ 0
    isFinalized := flags &&& marketFlagFinalized ≠ 0
    settlementPrice := ← readU64 data 16
    underlyingDecimals := data.getD 3 0
    quoteDecimals := data.getD 4 0
    underlyingMint := ← readPubkey data 32
    quoteMint := ← readPubkey data 64
    underlyingTokenProgramId := ← readPubkey data 96
    quoteTokenProgramId := ← readPubkey data 128 }

def parseWsolBalance (account : Account) (expectedOwner tokenProgram : Pubkey) :
    Except ChainError UInt64 := do
  refuse (account.owner ≠ tokenProgram ∨ account.data.length < tokenAccountBaseLen)
    .invalidAccountData
  let mint ← readPubkey account.data tokenAccountMintOffset
  let owner ← readPubkey account.data tokenAccountOwnerOffset
  refuse (mint ≠ nativeMint ∨ owner ≠ expectedOwner) .invalidAccountData
  readU64 account.data tokenAccountAmountOffset

end Accounts

def requiredSettlement (positionType : UInt8) (strike quantity : UInt64)
    (quoteDecimals underlyingDecimals : UInt8) : Except FundError UInt64 :=
  match chainPositionTypeTryFrom positionType with
  | .ok .coveredCall =>
    (scaledQuoteAmount strike quantity quoteDecimals underlyingDecimals).mapError
      fun _ ↦ .settlementAmountOverflow
  | .ok .cashSecuredPut => .ok quantity
  | _ => .error (.chain (.invalidPositionType positionType))

section Instructions

def buildSystemTransferIx (source target : Pubkey) (lamports : UInt64) : Instruction :=
  ⟨systemProgramId, [.new source true, .new target false],
    u32ToLe systemInstructionTransfer ++ u64ToLe lamports⟩

def buildSyncNativeIx (tokenProgram nativeAccount : Pubkey) : Instruction :=
  ⟨tokenProgram, [.new nativeAccount false], [splTokenSyncNative]⟩

variable (P : Platform) (programId : Pubkey)

structure PositionSnapshot where
  address : Pubkey
  position : PositionInfo
  marketAddress : Pubkey
  market : MarketInfo

def createFundingAtas (feePayer holder positionPda : Pubkey) (leg : TokenLeg) :
    List Instruction :=
  [holder, positionPda].map fun owner ↦
    createAssociatedTokenAccountIdempotentIx feePayer (leg.ata P owner) owner leg.mint leg.program

def depositFundsToPositionIx (holder positionPda marketPda : Pubkey) (leg : TokenLeg) :
    Instruction :=
  ⟨programId, [
    .new holder true,
    .newReadonly (Vault.makerPdaWithProgramId P programId holder).1 false,
    .new positionPda false,
    .newReadonly marketPda false,
    .new (leg.ata P holder) false,
    .new (leg.ata P positionPda) false,
    .newReadonly leg.program false], [9]⟩

def fundingLeg (positionType : UInt8) (market : MarketInfo) : Except FundError TokenLeg :=
  if positionType = 0 then pure market.quote
  else if positionType = 1 then pure market.underlying
  else .error (.ix positionType)

def buildFundPositionIxs (holder positionPda marketPda : Pubkey) (positionType : UInt8)
    (market : MarketInfo) (createAtas : Bool) (feePayer : Pubkey) :
    Except FundError (List Instruction) := do
  let leg ← fundingLeg positionType market
  let creates := if createAtas then createFundingAtas P feePayer holder positionPda leg else []
  pure (creates ++ [depositFundsToPositionIx P programId holder positionPda marketPda leg])

def PositionSnapshot.fundInstructions (s : PositionSnapshot) (makerOwner feePayer : Pubkey)
    (createAtas : Bool) : Except FundError (List Instruction) := do
  refuse s.position.side.isTakerBuy .takerBuyUnsupported
  refuse (s.marketAddress ≠ s.position.marketPda) (.chain (.identity "market"))
  refuse (s.position.holder ≠ makerOwner) (.chain (.identity "maker owner"))
  refuse (s.position.status ≠ .opened ∨
    s.market.isPut ≠ decide (s.position.terms.positionType = .cashSecuredPut))
    (.chain .invalidAccountData)
  buildFundPositionIxs P programId makerOwner s.address s.position.marketPda
    s.position.terms.toChain.positionType.toByte s.market createAtas feePayer

end Instructions

structure NativeSolBudget where
  owner : Pubkey
  wrapLamports : UInt64
  ataRentLamports : UInt64
  reserveLamports : UInt64

namespace NativeSolBudget

def requiredLamports (budget : NativeSolBudget) (feeLamports : UInt64) :
    Except FundError UInt64 :=
  okOr (do
    let value ← checkedAdd budget.wrapLamports budget.ataRentLamports
    let value ← checkedAdd value feeLamports
    checkedAdd value budget.reserveLamports) .nativeSolBudgetOverflow

def validate (budget : NativeSolBudget) (availableLamports feeLamports : UInt64) :
    Except FundError Unit := do
  let neededLamports ← budget.requiredLamports feeLamports
  refuse (availableLamports < neededLamports)
    (.insufficientNativeSol neededLamports availableLamports)

end NativeSolBudget

inductive WrapDecision where
  | notNeeded
  | wrap (wrapLamports : UInt64)
  | insufficientNativeSol (neededLamports availableLamports : UInt64)

def decideWrap (existingWsol expectedSettlement solBalance reserveLamports
    ataRentLamports : UInt64) : WrapDecision :=
  if existingWsol ≥ expectedSettlement then .notNeeded
  else
    let wrapLamports := expectedSettlement - existingWsol
    let neededLamports := saturatingAdd (saturatingAdd wrapLamports ataRentLamports) reserveLamports
    if solBalance < neededLamports then .insufficientNativeSol neededLamports solBalance
    else .wrap wrapLamports

inductive WrapPlan where
  | notNeeded
  | wrap (instructions : List Instruction) (budget : NativeSolBudget)

structure WsolWrapRequest where
  owner : Pubkey
  fundingAta : Pubkey
  tokenProgram : Pubkey
  expectedSettlement : UInt64
  reserveLamports : UInt64
  allowAccountCreation : Bool
  feePayer : Pubkey
  additionalAtaRentLamports : UInt64

def WsolWrapRequest.existing (node : FundNode) (request : WsolWrapRequest) :
    Option Account → Except FundError (UInt64 × UInt64)
  | some account => do
    let existing ← (parseWsolBalance account request.owner request.tokenProgram).mapError .chain
    pure (existing, 0)
  | none =>
    if request.allowAccountCreation then
      if request.feePayer = request.owner then do
        let rent ← (node.fundingRent tokenAccountRentLen).mapError .rpc
        pure (0, rent)
      else pure (0, 0)
    else .error (.missingFundingAccount request.fundingAta)

def planWsolWrap (node : FundNode) (account : Option Account) (request : WsolWrapRequest) :
    Except FundError WrapPlan := do
  let (existingWsol, ataRentLamports) ← request.existing node account
  if existingWsol ≥ request.expectedSettlement then pure .notNeeded
  else
    let solBalance ← (node.plannedBalance request.owner).mapError .rpc
    match decideWrap existingWsol request.expectedSettlement solBalance request.reserveLamports
      (saturatingAdd ataRentLamports request.additionalAtaRentLamports) with
    | .notNeeded => pure .notNeeded
    | .insufficientNativeSol needed available => .error (.insufficientNativeSol needed available)
    | .wrap wrapLamports => do
      let ataRent ← okOr (checkedAdd ataRentLamports request.additionalAtaRentLamports)
        .nativeSolBudgetOverflow
      pure (.wrap [buildSystemTransferIx request.owner request.fundingAta wrapLamports,
          buildSyncNativeIx request.tokenProgram request.fundingAta]
        ⟨request.owner, wrapLamports, ataRent, request.reserveLamports⟩)

structure PreparedFundPosition where
  instructions : List Instruction
  nativeBudget : Option NativeSolBudget

section Client

variable (P : Platform) (programId : Pubkey) (node : FundNode) (args : FundPositionArgs)
  (feePayer : Pubkey)

def settlementLeg (position : PositionInfo) (market : MarketInfo) : Except FundError TokenLeg :=
  match position.terms.positionType with
  | .coveredCall => pure market.quote
  | .cashSecuredPut => pure market.underlying
  | _ => .error (.chain .invalidSettlementState)

def readFundingAccount (leg : TokenLeg) : Except FundError (Option Account × UInt64) := do
  let fundingAta := leg.ata P args.holder
  if args.createAtas ∧ feePayer = args.holder then
    match ← (node.bothAccounts [leg.ata P args.positionPda, fundingAta]).mapError .rpc with
    | [some _, fundingAccount] => pure (fundingAccount, 0)
    | [none, fundingAccount] => do
      let rent ← (node.positionRent tokenAccountRentLen).mapError .rpc
      pure (fundingAccount, rent)
    | _ => .error (.chain .invalidAccountData)
  else do
    let fundingAccount ← (node.fundingAccount fundingAta).mapError .rpc
    pure (fundingAccount, 0)

/-- The part of `prepare_fund_position` that is about native SOL. -/
def prepareNativeSol (position : PositionInfo) (market : MarketInfo) (fundIxs : List Instruction)
    (reserveLamports : UInt64) : Except FundError PreparedFundPosition := do
  let leg ← settlementLeg position market
  if leg.mint ≠ nativeMint then pure ⟨fundIxs, none⟩
  else
    let expectedSettlement ← requiredSettlement position.terms.toChain.positionType.toByte
      position.terms.strike position.quantity market.quoteDecimals market.underlyingDecimals
    refuse (expectedSettlement = 0) (.chain .invalidAccountData)
    refuse (leg.program ≠ tokenProgramId) (.invalidNativeTokenProgram leg.program)
    let (fundingAccount, additional) ← readFundingAccount P node args feePayer leg
    match ← planWsolWrap node fundingAccount ⟨args.holder, leg.ata P args.holder, leg.program,
      expectedSettlement, reserveLamports, args.createAtas, feePayer, additional⟩ with
    | .notNeeded => pure ⟨fundIxs, none⟩
    | .wrap wrapIxs budget => do
      let depositIx ← okOr fundIxs.getLast? (.chain .invalidAccountData)
      pure ⟨fundIxs.dropLast ++ wrapIxs ++ [depositIx], some budget⟩

def prepareFundPosition : Except FundError PreparedFundPosition := do
  let positionData ← (node.position args.positionPda).mapError .rpc
  let position ← (fromAccount positionData programId).mapError .chain
  let marketData ← (node.market position.marketPda).mapError .rpc
  let market ← (marketFromAccount marketData programId).mapError .chain
  let snapshot : PositionSnapshot := ⟨args.positionPda, position, position.marketPda, market⟩
  let fundIxs ← snapshot.fundInstructions P programId args.holder feePayer args.createAtas
  match args.nativeSol with
  | .disabled => pure ⟨fundIxs, none⟩
  | .wrapIfNeeded reserveLamports =>
    prepareNativeSol P node args feePayer position market fundIxs reserveLamports

def computeUnitLimitIxs (computeUnitLimit : Option UInt32) : List Instruction :=
  computeUnitLimit.toList.map fun limit ↦
    Served.budgetInstruction Served.setComputeUnitLimit (u32ToLe limit)

def checkBudget (message : Message) : Option NativeSolBudget → Except FundError Unit
  | some budget => do
    let feeLamports ←
      (if feePayer = budget.owner then node.fee message else .ok 0).mapError .rpc
    let availableLamports ← (node.availableBalance budget.owner).mapError .rpc
    budget.validate availableLamports feeLamports
  | none => pure ()

/-- `submit_instructions` up to the message that is handed to `send_transaction`. -/
def submitInstructions (prepared : PreparedFundPosition) (extraSigners : List Pubkey)
    (computeUnitLimit : Option UInt32) (blockhash : Option (FixedBytes 32)) :
    Except FundError Message := do
  let recent ← (blockhash.elim node.latestBlockhash .ok).mapError .rpc
  let message : Message :=
    ⟨computeUnitLimitIxs computeUnitLimit ++ prepared.instructions, feePayer, recent⟩
  checkBudget node feePayer message prepared.nativeBudget
  (node.sign message (feePayer :: extraSigners.filter (· ≠ feePayer))).mapError .signing
  pure message

/-- `fund_position` up to its submission, for which it sets no compute-unit limit itself. -/
def submitFundPosition (makerOwner : Pubkey) (computeUnitLimit : Option UInt32) :
    Except FundError Message := do
  let prepared ← prepareFundPosition P programId node args feePayer
  submitInstructions node feePayer prepared [makerOwner] computeUnitLimit none

end Client

def Owed (due : Prop) (answer : Except String UInt64) (amount : UInt64) : Prop :=
  (due → answer = .ok amount) ∧ (¬due → amount = 0)

section Budgets

variable {node : FundNode} {request : WsolWrapRequest} {account : Option Account}
  {existing rent : UInt64}

theorem NativeSolBudget.requiredLamports_ok {budget : NativeSolBudget} {fee needed : UInt64}
    (h : budget.requiredLamports fee = .ok needed) :
    needed.toNat = budget.wrapLamports.toNat + budget.ataRentLamports.toNat + fee.toNat +
      budget.reserveLamports.toNat := by
  obtain ⟨sum, hsum, h⟩ := Option.bind_eq_some_iff.mp (okOr_ok.mp h)
  obtain ⟨sum', hsum', h⟩ := Option.bind_eq_some_iff.mp h
  rw [toNat_checkedAdd h, toNat_checkedAdd hsum', toNat_checkedAdd hsum]

theorem NativeSolBudget.validate_ok {budget : NativeSolBudget} {available fee : UInt64} {u : Unit}
    (h : budget.validate available fee = .ok u) :
    ∃ needed, budget.requiredLamports fee = .ok needed ∧ needed ≤ available := by
  obtain ⟨needed, hneeded, h⟩ := bind_ok.mp h
  exact ⟨needed, hneeded, UInt64.not_lt.mp (refuse_ok.mp h)⟩

theorem decideWrap_notNeeded {expected balance reserve : UInt64}
    (h : decideWrap existing expected balance reserve rent = .notNeeded) :
    existing ≥ expected := by
  unfold decideWrap at h
  split at h
  · assumption
  · simp only at h
    split at h <;> cases h

theorem decideWrap_wrap {expected balance reserve wrap : UInt64}
    (h : decideWrap existing expected balance reserve rent = .wrap wrap) :
    existing < expected ∧ existing.toNat + wrap.toNat = expected.toNat := by
  unfold decideWrap at h
  split at h
  · cases h
  · rename_i hlt
    simp only at h
    split at h
    · cases h
    · cases h
      have hlt := UInt64.not_le.mp hlt
      have hle := UInt64.le_of_lt hlt
      refine ⟨hlt, ?_⟩
      rw [UInt64.toNat_sub_of_le _ _ hle]
      exact Nat.add_sub_cancel' (UInt64.le_iff_toNat_le.mp hle)

def Wsol (owner tokenProgram : Pubkey) (account : Option Account) (amount : UInt64) : Prop :=
  match account with
  | some account => parseWsolBalance account owner tokenProgram = .ok amount
  | none => amount = 0

theorem WsolWrapRequest.existing_ok (h : request.existing node account = .ok (existing, rent)) :
    Wsol request.owner request.tokenProgram account existing ∧
      Owed (request.allowAccountCreation ∧ request.feePayer = request.owner ∧ account = none)
        (node.fundingRent tokenAccountRentLen) rent := by
  cases account with
  | some account =>
    obtain ⟨amount, hamount, h⟩ := bind_ok.mp h
    cases h
    exact ⟨mapError_ok.mp hamount, fun hdue ↦ absurd hdue.2.2 (by simp), fun _ ↦ rfl⟩
  | none =>
    simp only [WsolWrapRequest.existing] at h
    split at h
    · rename_i hcreate
      split at h
      · rename_i hpayer
        obtain ⟨amount, hamount, h⟩ := bind_ok.mp h
        cases h
        exact ⟨rfl, fun _ ↦ mapError_ok.mp hamount, fun hdue ↦ absurd ⟨hcreate, hpayer, rfl⟩ hdue⟩
      · rename_i hpayer
        cases h
        exact ⟨rfl, fun hdue ↦ absurd hdue.2.1 hpayer, fun _ ↦ rfl⟩
    · cases h

theorem planWsolWrap_ok {plan : WrapPlan} (h : planWsolWrap node account request = .ok plan) :
    ∃ existing rent, request.existing node account = .ok (existing, rent) ∧
      (plan = .notNeeded ∧ request.expectedSettlement ≤ existing ∨
        ∃ wrap ataRent, existing < request.expectedSettlement ∧
          existing.toNat + wrap.toNat = request.expectedSettlement.toNat ∧
          ataRent.toNat = rent.toNat + request.additionalAtaRentLamports.toNat ∧
          plan = .wrap [buildSystemTransferIx request.owner request.fundingAta wrap,
            buildSyncNativeIx request.tokenProgram request.fundingAta]
            ⟨request.owner, wrap, ataRent, request.reserveLamports⟩) := by
  obtain ⟨⟨existing, rent⟩, hexisting, h⟩ := bind_ok.mp h
  refine ⟨existing, rent, hexisting, ?_⟩
  simp only at h
  split at h
  · rename_i hcovered
    cases h
    exact .inl ⟨rfl, hcovered⟩
  · rename_i hshort
    obtain ⟨balance, -, h⟩ := bind_ok.mp h
    split at h
    · rename_i hdecision
      exact absurd (decideWrap_notNeeded hdecision) hshort
    · cases h
    · rename_i wrap hdecision
      obtain ⟨hlt, hsum⟩ := decideWrap_wrap hdecision
      obtain ⟨ataRent, hrent, h⟩ := bind_ok.mp h
      cases h
      exact .inr ⟨wrap, ataRent, hlt, hsum, toNat_checkedAdd (okOr_ok.mp hrent), rfl⟩

end Budgets

section Funding

variable {P : Platform} {programId : Pubkey} {node : FundNode} {args : FundPositionArgs}
  {feePayer : Pubkey} {leg : TokenLeg}

def FundPositionArgs.Creates (args : FundPositionArgs) (feePayer : Pubkey)
    (account : Option Account) : Prop :=
  args.createAtas ∧ feePayer = args.holder ∧ account = none

theorem readFundingAccount_ok {fundingAccount : Option Account} {additional : UInt64}
    (h : readFundingAccount P node args feePayer leg = .ok (fundingAccount, additional)) :
    ∃ positionAccount,
      (if args.createAtas ∧ feePayer = args.holder then
        node.bothAccounts [leg.ata P args.positionPda, leg.ata P args.holder] =
          .ok [positionAccount, fundingAccount]
      else node.fundingAccount (leg.ata P args.holder) = .ok fundingAccount) ∧
      Owed (args.Creates feePayer positionAccount) (node.positionRent tokenAccountRentLen)
        additional := by
  unfold readFundingAccount at h
  simp only at h
  split at h
  · rename_i howner
    obtain ⟨accounts, haccounts, h⟩ := bind_ok.mp h
    have haccounts := mapError_ok.mp haccounts
    split at h
    · cases h
      refine ⟨some _, by rw [if_pos howner, haccounts], ?_⟩
      exact ⟨fun hdue ↦ absurd hdue.2.2 (by simp), fun _ ↦ rfl⟩
    · obtain ⟨rent, hrent, h⟩ := bind_ok.mp h
      cases h
      refine ⟨none, by rw [if_pos howner, haccounts], ?_⟩
      exact ⟨fun _ ↦ mapError_ok.mp hrent, fun hdue ↦ absurd ⟨howner.1, howner.2, rfl⟩ hdue⟩
    · cases h
  · rename_i howner
    obtain ⟨account, haccount, h⟩ := bind_ok.mp h
    cases h
    refine ⟨none, by rw [if_neg howner, mapError_ok.mp haccount], ?_⟩
    exact ⟨fun hdue ↦ absurd ⟨hdue.1, hdue.2.1⟩ howner, fun _ ↦ rfl⟩

def fundingIxs (P : Platform) (programId : Pubkey) (args : FundPositionArgs)
    (feePayer : Pubkey) (position : PositionInfo) (leg : TokenLeg)
    (between : List Instruction) : List Instruction :=
  (if args.createAtas then createFundingAtas P feePayer args.holder args.positionPda leg else []) ++
    between ++
    [depositFundsToPositionIx P programId args.holder args.positionPda position.marketPda leg]

variable {position : PositionInfo}

/-- The builder takes the contract's type byte, the client the terms: they mean one token. -/
theorem settlementLeg_of_fundingLeg {market : MarketInfo}
    (h : fundingLeg position.terms.toChain.positionType.toByte market = .ok leg) :
    settlementLeg position market = .ok leg := by
  unfold settlementLeg
  cases hterms : position.terms with
  | coveredCall | cashSecuredPut =>
    rw [hterms] at h
    exact h
  | cashPut | callSpread | putSpread =>
    rw [hterms] at h
    cases h

theorem fundInstructions_ok {market : MarketInfo} {marketAddress : Pubkey} {ixs : List Instruction}
    (h : PositionSnapshot.fundInstructions P programId
      ⟨args.positionPda, position, marketAddress, market⟩ args.holder feePayer args.createAtas =
        .ok ixs) :
    ∃ leg, settlementLeg position market = .ok leg ∧
      ixs = fundingIxs P programId args feePayer position leg [] := by
  obtain ⟨_, -, h⟩ := bind_ok.mp h
  obtain ⟨_, -, h⟩ := bind_ok.mp h
  obtain ⟨_, -, h⟩ := bind_ok.mp h
  obtain ⟨_, -, h⟩ := bind_ok.mp h
  unfold buildFundPositionIxs at h
  obtain ⟨leg, hleg, h⟩ := bind_ok.mp h
  cases h
  exact ⟨leg, settlementLeg_of_fundingLeg hleg, by rw [fundingIxs, List.append_nil]⟩

/-- What the node told of a position: `positionAccount` is its token account and `fundingAccount`
the holder's, `existing` the wSOL in it. -/
structure Seen where
  position : PositionInfo
  market : MarketInfo
  leg : TokenLeg
  required : UInt64
  positionAccount : Option Account
  fundingAccount : Option Account
  existing : UInt64

structure Decoded (programId : Pubkey) (node : FundNode) (args : FundPositionArgs)
    (position : PositionInfo) (market : MarketInfo) (leg : TokenLeg) : Prop where
  positionTold : ∃ account, node.position args.positionPda = .ok account ∧
    fromAccount account programId = .ok position
  marketTold : ∃ account, node.market position.marketPda = .ok account ∧
    marketFromAccount account programId = .ok market
  legTold : settlementLeg position market = .ok leg

/-- The position is funded in native SOL, and the accounts are as seen. The position's account
matters, and is read, only where the holder is to create it. -/
structure Seen.Read (P : Platform) (programId : Pubkey) (node : FundNode)
    (args : FundPositionArgs) (feePayer : Pubkey) (seen : Seen) : Prop where
  decoded : Decoded programId node args seen.position seen.market seen.leg
  native : seen.leg.mint = nativeMint
  required : requiredSettlement seen.position.terms.toChain.positionType.toByte
    seen.position.terms.strike seen.position.quantity seen.market.quoteDecimals
    seen.market.underlyingDecimals = .ok seen.required
  accounts : if args.createAtas ∧ feePayer = args.holder then
      node.bothAccounts [seen.leg.ata P args.positionPda, seen.leg.ata P args.holder] =
        .ok [seen.positionAccount, seen.fundingAccount]
    else node.fundingAccount (seen.leg.ata P args.holder) = .ok seen.fundingAccount
  existing : Wsol args.holder seen.leg.program seen.fundingAccount seen.existing

structure Planned (node : FundNode) (args : FundPositionArgs) (feePayer : Pubkey)
    (reserve : UInt64) (seen : Seen) (budget : NativeSolBudget)
    (positionRent fundingRent : UInt64) : Prop where
  owner : budget.owner = args.holder
  short : seen.existing < seen.required
  shortfall : seen.existing.toNat + budget.wrapLamports.toNat = seen.required.toNat
  positionOwed : Owed (args.Creates feePayer seen.positionAccount)
    (node.positionRent tokenAccountRentLen) positionRent
  fundingOwed : Owed (args.Creates feePayer seen.fundingAccount)
    (node.fundingRent tokenAccountRentLen) fundingRent
  rent : budget.ataRentLamports.toNat = positionRent.toNat + fundingRent.toNat
  reserve : budget.reserveLamports = reserve

def wrapIxs (P : Platform) (args : FundPositionArgs) (leg : TokenLeg) (lamports : UInt64) :
    List Instruction :=
  [buildSystemTransferIx args.holder (leg.ata P args.holder) lamports,
    buildSyncNativeIx leg.program (leg.ata P args.holder)]

def PreparedWrap (P : Platform) (programId : Pubkey) (node : FundNode) (args : FundPositionArgs)
    (feePayer : Pubkey) (reserve : UInt64) (prepared : PreparedFundPosition) : Prop :=
  ∃ seen budget positionRent fundingRent, seen.Read P programId node args feePayer ∧
    Planned node args feePayer reserve seen budget positionRent fundingRent ∧
    prepared = ⟨fundingIxs P programId args feePayer seen.position seen.leg
      (wrapIxs P args seen.leg budget.wrapLamports), some budget⟩

variable {prepared : PreparedFundPosition}

theorem prepareNativeSol_ok {market : MarketInfo} {reserve : UInt64}
    (hdecoded : Decoded programId node args position market leg)
    (h : prepareNativeSol P node args feePayer position market
      (fundingIxs P programId args feePayer position leg []) reserve = .ok prepared) :
    prepared = ⟨fundingIxs P programId args feePayer position leg [], none⟩ ∨
      PreparedWrap P programId node args feePayer reserve prepared := by
  obtain ⟨leg', hleg, h⟩ := bind_ok.mp h
  obtain rfl : leg = leg' := Except.ok.inj (hdecoded.legTold.symm.trans hleg)
  split at h
  · cases h
    exact .inl rfl
  · rename_i hnative
    obtain ⟨required, hrequired, h⟩ := bind_ok.mp h
    obtain ⟨_, -, h⟩ := bind_ok.mp h
    obtain ⟨_, -, h⟩ := bind_ok.mp h
    obtain ⟨⟨fundingAccount, additional⟩, hread, h⟩ := bind_ok.mp h
    obtain ⟨plan, hplan, h⟩ := bind_ok.mp h
    obtain ⟨positionAccount, haccounts, hadditional⟩ := readFundingAccount_ok hread
    obtain ⟨existing, rent, hexisting, hplan⟩ := planWsolWrap_ok hplan
    obtain ⟨hwsol, hrent⟩ := WsolWrapRequest.existing_ok hexisting
    rcases hplan with ⟨rfl, -⟩ | ⟨wrap, ataRent, hshort, hsum, hata, rfl⟩
    · cases h
      exact .inl rfl
    · obtain ⟨deposit, hdeposit, h⟩ := bind_ok.mp h
      cases h
      refine .inr ⟨⟨position, market, leg, required, positionAccount, fundingAccount, existing⟩,
        ⟨args.holder, wrap, ataRent, reserve⟩, additional, rent, ?_, ?_, ?_⟩
      · exact ⟨hdecoded, Decidable.not_not.mp hnative, hrequired, haccounts, hwsol⟩
      · exact ⟨rfl, hshort, hsum, hadditional, hrent, hata.trans (Nat.add_comm ..), rfl⟩
      · have hdeposit := okOr_ok.mp hdeposit
        rw [fundingIxs, List.getLast?_concat] at hdeposit
        cases hdeposit
        simp only [fundingIxs, List.dropLast_concat, List.append_nil]
        rfl

theorem prepareFundPosition_ok {reserve : UInt64}
    (hallowed : args.nativeSol = .wrapIfNeeded reserve)
    (h : prepareFundPosition P programId node args feePayer = .ok prepared) :
    (∃ position market leg, Decoded programId node args position market leg ∧
      prepared = ⟨fundingIxs P programId args feePayer position leg [], none⟩) ∨
      PreparedWrap P programId node args feePayer reserve prepared := by
  obtain ⟨positionData, hpositionData, h⟩ := bind_ok.mp h
  obtain ⟨position, hposition, h⟩ := bind_ok.mp h
  obtain ⟨marketData, hmarketData, h⟩ := bind_ok.mp h
  obtain ⟨market, hmarket, h⟩ := bind_ok.mp h
  obtain ⟨fundIxs, hfundIxs, h⟩ := bind_ok.mp h
  obtain ⟨leg, hleg, rfl⟩ := fundInstructions_ok hfundIxs
  have hdecoded : Decoded programId node args position market leg :=
    ⟨⟨positionData, mapError_ok.mp hpositionData, mapError_ok.mp hposition⟩,
      ⟨marketData, mapError_ok.mp hmarketData, mapError_ok.mp hmarket⟩, hleg⟩
  rw [hallowed] at h
  exact (prepareNativeSol_ok hdecoded h).imp_left fun hplain ↦
    ⟨position, market, leg, hdecoded, hplain⟩

theorem Decoded.unique {position position' : PositionInfo} {market market' : MarketInfo}
    {leg' : TokenLeg} (h : Decoded programId node args position market leg)
    (h' : Decoded programId node args position' market' leg') :
    position = position' ∧ market = market' ∧ leg = leg' := by
  obtain ⟨account, haccount, hposition⟩ := h.positionTold
  obtain ⟨account', haccount', hposition'⟩ := h'.positionTold
  cases haccount.symm.trans haccount'
  cases hposition.symm.trans hposition'
  obtain ⟨data, hdata, hmarket⟩ := h.marketTold
  obtain ⟨data', hdata', hmarket'⟩ := h'.marketTold
  cases hdata.symm.trans hdata'
  cases hmarket.symm.trans hmarket'
  exact ⟨rfl, rfl, Except.ok.inj (h.legTold.symm.trans h'.legTold)⟩

theorem Wsol.unique {owner tokenProgram : Pubkey} {account : Option Account}
    {amount amount' : UInt64} (h : Wsol owner tokenProgram account amount)
    (h' : Wsol owner tokenProgram account amount') : amount = amount' := by
  cases account with
  | some account => exact Except.ok.inj (h.symm.trans h')
  | none => exact h.trans h'.symm

theorem Seen.Read.unique {seen seen' : Seen} (h : seen.Read P programId node args feePayer)
    (h' : seen'.Read P programId node args feePayer) :
    seen.required = seen'.required ∧ seen.existing = seen'.existing := by
  obtain ⟨position, market, leg, required, positionAccount, fundingAccount, existing⟩ := seen
  obtain ⟨position', market', leg', required', positionAccount', fundingAccount', existing'⟩ :=
    seen'
  obtain ⟨rfl, rfl, rfl⟩ := h.decoded.unique h'.decoded
  refine ⟨Except.ok.inj (h.required.symm.trans h'.required), ?_⟩
  have haccount : fundingAccount = fundingAccount' := by
    have haccounts := h.accounts
    have haccounts' := h'.accounts
    split at haccounts
    · rw [if_pos ‹_›] at haccounts'
      cases haccounts.symm.trans haccounts'
      rfl
    · rw [if_neg ‹_›] at haccounts'
      exact Except.ok.inj (haccounts.symm.trans haccounts')
  subst haccount
  exact h.existing.unique h'.existing

theorem checkBudget_ok {message : Message} {budget : NativeSolBudget} {u : Unit}
    (h : checkBudget node feePayer message (some budget) = .ok u) :
    ∃ fee available needed, Owed (feePayer = budget.owner) (node.fee message) fee ∧
      node.availableBalance budget.owner = .ok available ∧
      budget.requiredLamports fee = .ok needed ∧ needed ≤ available := by
  obtain ⟨fee, hfee, h⟩ := bind_ok.mp h
  obtain ⟨available, havailable, h⟩ := bind_ok.mp h
  obtain ⟨needed, hneeded, hle⟩ := NativeSolBudget.validate_ok h
  refine ⟨fee, available, needed, ?_, mapError_ok.mp havailable, hneeded, hle⟩
  have hfee := mapError_ok.mp hfee
  split at hfee
  · exact ⟨fun _ ↦ hfee, fun hdue ↦ absurd ‹_› hdue⟩
  · exact ⟨fun hdue ↦ absurd hdue ‹_›, fun _ ↦ (Except.ok.inj hfee).symm⟩

variable {computeUnitLimit : Option UInt32}

theorem submitInstructions_ok {extraSigners : List Pubkey} {blockhash : Option (FixedBytes 32)}
    {message : Message} (h : submitInstructions node feePayer prepared extraSigners
      computeUnitLimit blockhash = .ok message) :
    message.instructions = computeUnitLimitIxs computeUnitLimit ++ prepared.instructions ∧
      checkBudget node feePayer message prepared.nativeBudget = .ok () := by
  obtain ⟨recent, -, h⟩ := bind_ok.mp h
  obtain ⟨_, hbudget, h⟩ := bind_ok.mp h
  obtain ⟨_, -, h⟩ := bind_ok.mp h
  cases h
  exact ⟨rfl, hbudget⟩

structure Bill where
  wrap : UInt64
  positionRent : UInt64
  fundingRent : UInt64
  fee : UInt64
  reserve : UInt64
  available : UInt64

def Bill.total (bill : Bill) : ℕ :=
  bill.wrap.toNat + bill.positionRent.toNat + bill.fundingRent.toNat + bill.fee.toNat +
    bill.reserve.toNat

/-- A submission that wraps `bill.wrap` lamports; `needed` is the sum as the client computes it. -/
structure Wrapped (P : Platform) (programId : Pubkey) (node : FundNode) (args : FundPositionArgs)
    (feePayer : Pubkey) (computeUnitLimit : Option UInt32) (seen : Seen) (bill : Bill)
    (message : Message) : Prop where
  shortfall : seen.existing.toNat + bill.wrap.toNat = seen.required.toNat
  positionOwed : Owed (args.Creates feePayer seen.positionAccount)
    (node.positionRent tokenAccountRentLen) bill.positionRent
  fundingOwed : Owed (args.Creates feePayer seen.fundingAccount)
    (node.fundingRent tokenAccountRentLen) bill.fundingRent
  feeOwed : Owed (feePayer = args.holder) (node.fee message) bill.fee
  available : node.availableBalance args.holder = .ok bill.available
  computed : ∃ rent needed, rent.toNat = bill.positionRent.toNat + bill.fundingRent.toNat ∧
    NativeSolBudget.requiredLamports ⟨args.holder, bill.wrap, rent, bill.reserve⟩ bill.fee =
      .ok needed ∧ needed.toNat = bill.total
  solvent : bill.total ≤ bill.available.toNat
  instructions : message.instructions = computeUnitLimitIxs computeUnitLimit ++
    fundingIxs P programId args feePayer seen.position seen.leg (wrapIxs P args seen.leg bill.wrap)

structure FundedNatively (P : Platform) (programId : Pubkey) (node : FundNode)
    (args : FundPositionArgs) (feePayer : Pubkey) (computeUnitLimit : Option UInt32)
    (reserve : UInt64) (message : Message) : Prop where
  wrapped : ∀ source target lamports,
    buildSystemTransferIx source target lamports ∈ message.instructions →
    ∃ seen bill, seen.Read P programId node args feePayer ∧ bill.wrap = lamports ∧
      bill.reserve = reserve ∧
      Wrapped P programId node args feePayer computeUnitLimit seen bill message
  covered : ∀ seen : Seen, seen.Read P programId node args feePayer →
    seen.required ≤ seen.existing →
    message.instructions = computeUnitLimitIxs computeUnitLimit ++
        fundingIxs P programId args feePayer seen.position seen.leg [] ∧
      ∀ source target lamports,
        buildSystemTransferIx source target lamports ∉ message.instructions

theorem transfer_mem {between : List Instruction} {source target : Pubkey} {lamports : UInt64}
    (h : buildSystemTransferIx source target lamports ∈ computeUnitLimitIxs computeUnitLimit ++
      fundingIxs P programId args feePayer position leg between) :
    buildSystemTransferIx source target lamports ∈ between := by
  rcases List.mem_append.mp h with hlimit | h
  · obtain ⟨limit, -, hlimit⟩ := List.mem_map.mp hlimit
    cases congrArg Instruction.accounts hlimit
  rcases List.mem_append.mp h with h | hdeposit
  · rcases List.mem_append.mp h with hcreate | h
    · split at hcreate
      · obtain ⟨owner, -, hcreate⟩ := List.mem_map.mp hcreate
        cases congrArg Instruction.accounts hcreate
      · cases hcreate
    · exact h
  · cases congrArg Instruction.accounts (List.mem_singleton.mp hdeposit)

theorem transfer_mem_wrapIxs {source target : Pubkey} {lamports wrap : UInt64}
    (h : buildSystemTransferIx source target lamports ∈ wrapIxs P args leg wrap) :
    lamports = wrap := by
  rcases List.mem_cons.mp h with h | h
  · have hdata := List.append_cancel_left (congrArg Instruction.data h)
    rw [← u64OfLe_toLe lamports, hdata, u64OfLe_toLe]
  · cases congrArg Instruction.accounts (List.mem_singleton.mp h)

theorem Planned.wrapped {reserve : UInt64} {message : Message} {seen : Seen}
    {budget : NativeSolBudget} {positionRent fundingRent : UInt64} {u : Unit}
    (h : Planned node args feePayer reserve seen budget positionRent fundingRent)
    (hbudget : checkBudget node feePayer message (some budget) = .ok u)
    (hinstructions : message.instructions = computeUnitLimitIxs computeUnitLimit ++
      fundingIxs P programId args feePayer seen.position seen.leg
        (wrapIxs P args seen.leg budget.wrapLamports)) :
    ∃ bill : Bill, bill.wrap = budget.wrapLamports ∧ bill.reserve = reserve ∧
      Wrapped P programId node args feePayer computeUnitLimit seen bill message := by
  obtain ⟨fee, available, needed, hfee, havailable, hneeded, hle⟩ := checkBudget_ok hbudget
  obtain ⟨owner, wrap, rent, reserve'⟩ := budget
  obtain rfl := h.owner
  obtain rfl := h.reserve
  have htotal : needed.toNat =
      Bill.total ⟨wrap, positionRent, fundingRent, fee, reserve', available⟩ := by
    have hsum := NativeSolBudget.requiredLamports_ok hneeded
    simp only [h.rent] at hsum
    simp only [Bill.total]
    omega
  refine ⟨⟨wrap, positionRent, fundingRent, fee, reserve', available⟩, rfl, rfl, h.shortfall,
    h.positionOwed, h.fundingOwed, hfee, havailable, ⟨rent, needed, h.rent, hneeded, htotal⟩, ?_,
    hinstructions⟩
  exact htotal ▸ UInt64.le_iff_toNat_le.mp hle

/-- A wrap is exactly of what is missing and leaves the reserve; without need there is none. -/
theorem submitFundPosition_wraps_shortfall {makerOwner : Pubkey}
    {computeUnitLimit : Option UInt32} {reserve : UInt64} {message : Message}
    (hallowed : args.nativeSol = .wrapIfNeeded reserve)
    (h : submitFundPosition P programId node args feePayer makerOwner computeUnitLimit =
      .ok message) :
    FundedNatively P programId node args feePayer computeUnitLimit reserve message := by
  obtain ⟨prepared, hprepared, h⟩ := bind_ok.mp h
  obtain ⟨hinstructions, hbudget⟩ := submitInstructions_ok h
  rcases prepareFundPosition_ok hallowed hprepared with
    ⟨position, market, leg, hdecoded, rfl⟩ | ⟨seen, budget, positionRent, fundingRent, hread,
      hplanned, rfl⟩
  · have hnone (source target : Pubkey) (lamports : UInt64) :
        buildSystemTransferIx source target lamports ∉ message.instructions := by
      intro hmem
      rw [hinstructions] at hmem
      cases transfer_mem hmem
    refine ⟨fun source target lamports hmem ↦ ?_, fun seen hread _ ↦ ?_⟩
    · exact absurd hmem (hnone source target lamports)
    · obtain ⟨rfl, -, rfl⟩ := hdecoded.unique hread.decoded
      exact ⟨hinstructions, hnone⟩
  · refine ⟨fun source target lamports hmem ↦ ?_, fun seen' hread' hcovered ↦ ?_⟩
    · obtain ⟨bill, hwrap, hreserve, hwrapped⟩ := hplanned.wrapped hbudget hinstructions
      rw [hinstructions] at hmem
      have hlamports := transfer_mem_wrapIxs (transfer_mem hmem)
      exact ⟨seen, bill, hread, hwrap.trans hlamports.symm, hreserve, hwrapped⟩
    · obtain ⟨hrequired, hexisting⟩ := hread.unique hread'
      have hshort := hplanned.short
      rw [hrequired, hexisting] at hshort
      exact absurd hcovered (UInt64.not_le.mpr hshort)

end Funding

namespace Sample

open Orders.Sample

def heldPut : Account where
  owner := program
  data := [1, 2, 0, 1, 1, 0, 0, 0] ++ taker.toList ++ maker.toList ++ Orders.Sample.market.toList ++
    u64ToLe strike ++ u64ToLe quantity ++ List.replicate 8 0 ++ physicalId.toList ++
    List.replicate 264 0

def solMarket : Account where
  owner := program
  data := [4, 1, 0, 9, 6, 1, 0, 0] ++ List.replicate 24 0 ++ nativeMint.toList ++
    quoteMint.toList ++ tokenProgramId.toList ++ tokenProgramId.toList ++ List.replicate 256 0

/-- Neither token account exists, and the balance is exactly what is needed. -/
def exactNode : FundNode where
  position _ := .ok heldPut
  market _ := .ok solMarket
  bothAccounts _ := .ok [none, none]
  fundingAccount _ := .ok none
  positionRent _ := .ok 2039280
  fundingRent _ := .ok 2039280
  plannedBalance _ := .ok 2006000000
  latestBlockhash := .ok (.ofList 32 [])
  fee _ := .ok 5000
  availableBalance _ := .ok 2005283560
  sign _ _ := .ok ()

def heldPutArgs : FundPositionArgs :=
  ⟨maker, Settle.Sample.position, true, .wrapIfNeeded 1200000⟩

def makerSol : Pubkey :=
  keyOfNat 0x2d30e571f70ad48d86804f687a725458a6e0ce392930cf4ba3d1de66a26c8d83

def submitted : Except FundError Message :=
  submitFundPosition Settle.Sample.platform program exactNode heldPutArgs maker maker (some 200000)

end Sample

open Sample in
theorem submitFundPosition_wraps_shortfall_exact :
    ∃ message, submitted = .ok message ∧
      buildSystemTransferIx Orders.Sample.maker makerSol 2000000000 ∈ message.instructions ∧
      FundedNatively Settle.Sample.platform Orders.Sample.program exactNode heldPutArgs
        Orders.Sample.maker (some 200000) 1200000 message := by
  have hrun : (submitted.map fun message ↦ decide (buildSystemTransferIx Orders.Sample.maker
      makerSol 2000000000 ∈ message.instructions)) = .ok true := by
    decide +kernel
  cases h : submitted with
  | error error =>
    rw [h] at hrun
    cases hrun
  | ok message =>
    rw [h] at hrun
    have hmem := of_decide_eq_true (Except.ok.inj hrun)
    exact ⟨message, rfl, hmem, submitFundPosition_wraps_shortfall rfl h⟩

end MakerSdk.Chain
