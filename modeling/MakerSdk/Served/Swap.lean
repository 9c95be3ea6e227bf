import MakerSdk.Base.Words
import MakerSdk.Served.Budget
import MakerSdk.Served.Hops
import MakerSdk.Vault.PriceRoute

namespace MakerSdk.Served

open Base Base.Bytes Base.Checks Base.Words Solana Vault

inductive VaultSwapMode where
  | rebalance
  | recovery
  | closing
deriving DecidableEq

inductive VaultSwapDirection where
  | mainToSecond
  | secondToMain
deriving DecidableEq

structure SwapQuoteData where
  requestId : FixedBytes 16
  vaultPda : Pubkey
  mode : VaultSwapMode
  direction : VaultSwapDirection
  amount : String
  slippageBps : UInt16

structure SwapQuoteResultData where
  requestId : FixedBytes 16
  mode : VaultSwapMode
  txBase64 : String
  inAmount : String
  quotedOutAmount : String
  minimumOutAmount : String
  validUntil : String
  staging : Option VaultStagingStep

structure PairPriceRoutes where
  main : PriceRoute
  second : PriceRoute
  staging : List PriceRoute
  shards : List UInt16

structure VaultSwapIntent where
  vault : VaultManager
  request : SwapQuoteData
  quote : SwapQuoteResultData
  priceRoutes : PairPriceRoutes
  minOutputFloor : UInt64
  account : VaultAccount

def bps : ℕ := 10000
def stagingGenerationOffset : ℕ := 27
def updateStakePoolBalanceTag : UInt8 := 7

def stakePoolProgramIds : List Pubkey :=
  [keyOfNat 0x6814ed4caf68a174672fdac86031a63e84ea15efa1d44b72293f6dbdb001650,
    keyOfNat 0x680ca0f99817dc68608c4ac5b9ca522a33a5929f16bda8244a41c0316b908ed]

example : stakePoolProgramIds = [pubkey "SPoo1Ku8WFXoNDMHPsrGSTSG1Y47rzgn41SLUNakuHy",
    pubkey "SPMBzsVUuoHA4Jm6KunbsotaahvVikZs1JyTW6iJvbn"] := by
  decide +kernel

def isWhitespace (c : Char) : Bool :=
  let n := c.toNat
  (9 ≤ n ∧ n ≤ 13) ∨ n = 0x20 ∨ n = 0x85 ∨ n = 0xa0 ∨ n = 0x1680 ∨ (0x2000 ≤ n ∧ n ≤ 0x200a) ∨
    n = 0x2028 ∨ n = 0x2029 ∨ n = 0x202f ∨ n = 0x205f ∨ n = 0x3000

def trim (cs : List Char) : List Char :=
  ((cs.dropWhile isWhitespace).reverse.dropWhile isWhitespace).reverse

def parseAmount (value field : String) : Except VaultIntentError UInt64 :=
  okOr (parseU64 (trim value.toList)) (.terms field)

def requestedKind : VaultSwapMode → VaultSwapDirection → Except VaultIntentError VaultSwapKind
  | .rebalance, .mainToSecond => .ok (.rebalance false)
  | .rebalance, .secondToMain => .ok (.rebalance true)
  | .recovery, .secondToMain => .ok .recovery
  | .closing, .secondToMain => .ok .closing
  | _, _ => .error (.terms "unsupported swap mode or direction")

namespace VaultSwapIntent

variable (P : Platform) (intent : VaultSwapIntent)

def requireInput (amountIn : UInt64) : Except VaultIntentError Unit :=
  match intent.quote.staging, intent.account.staging.openSlot with
  | some .unstage, some slot =>
    refuse (amountIn ≠ slot.amount) (.terms "an unstage must spend the whole staged amount")
  | some .unstage, none => .error (.terms "nothing is staged to unstage")
  | some .stage, some _ => .error (.terms "a stage needs an empty staging slot")
  | _, _ => do
    let requested ← parseAmount intent.request.amount "request amount"
    refuse (amountIn ≠ requested) (.terms "quoted input differs from request")

def requireOutput (quotedOut minimumOut : UInt64) : Except VaultIntentError Unit := do
  let slippage := intent.request.slippageBps.toNat
  refuse (slippage > bps ∨ quotedOut = 0 ∨ minimumOut = 0 ∨
      minimumOut.toNat < quotedOut.toNat * (bps - slippage) / bps)
    (.terms "minimum output exceeds the requested slippage")
  refuse (intent.quote.staging ≠ some .stage ∧ minimumOut < intent.minOutputFloor)
    (.terms "minimum output is below the operator's floor")

end VaultSwapIntent

def updateStakePoolBalance (P : Platform) (program pool validators reserve fee mint
    tokenProgram : Pubkey) : Instruction :=
  ⟨program, [
    .new pool false,
    .newReadonly (P.findProgramAddress [pool.toList, ascii "withdraw"] program).1 false,
    .new validators false,
    .newReadonly reserve false,
    .new fee false,
    .new mint false,
    .newReadonly tokenProgram false], [updateStakePoolBalanceTag]⟩

def setupKey (setup : Instruction) (position : ℕ) : Except VaultIntentError Pubkey :=
  okOr (setup.accounts[position]?.map AccountMeta.pubkey) (.setup "instruction is truncated")

def setupTokenProgram (setup : Instruction) (position : ℕ) : Except VaultIntentError Pubkey := do
  let program ← setupKey setup position
  refuse (program ≠ tokenProgramId ∧ program ≠ token2022ProgramId)
    (.setup "token program is not SPL Token")
  pure program

def PairPriceRoutes.pools (routes : PairPriceRoutes) : List Pubkey :=
  (routes.main :: routes.second :: routes.staging).flatMap
    (fun route ↦ route.accountRatios.map AccountRatioBrick.account)

def swapSetup (P : Platform) (vault : VaultManager) (routes : PairPriceRoutes) (payer : Pubkey)
    (setup : Instruction) : Except VaultIntentError Instruction := do
  if setup.programId = associatedTokenProgramId then
    let mint ← setupKey setup 3
    refuse (mint ∈ [vault.args.mainMint, vault.args.secondMint, vault.args.shareMint])
      (.setup "creates an account for a vault leg or share mint")
    let tokenProgram ← setupTokenProgram setup 5
    pure (createAtaIdempotent P payer vault.addresses.vault mint tokenProgram)
  else
    refuse (setup.programId ∉ stakePoolProgramIds) (.setup "unexpected instruction before the swap")
    let pool ← setupKey setup 0
    refuse (pool ∉ routes.pools) (.setup "updates a stake pool the vault's routes do not pin")
    let validators ← setupKey setup 2
    let reserve ← setupKey setup 3
    let fee ← setupKey setup 4
    let mint ← setupKey setup 5
    let tokenProgram ← setupTokenProgram setup 6
    pure (updateStakePoolBalance P setup.programId pool validators reserve fee mint tokenProgram)

def swapSetups (P : Platform) (vault : VaultManager) (routes : PairPriceRoutes) (payer : Pubkey) :
    List Instruction → Except VaultIntentError (List Instruction)
  | [] => pure []
  | setup :: rest =>
    if setup.programId ≠ vault.args.programId then do
      let setup ← swapSetup P vault routes payer setup
      let rest ← swapSetups P vault routes payer rest
      pure (setup :: rest)
    else pure []

structure PricedLeg where
  name : String
  address : Pubkey
  route : PriceRoute

def servedPriceSection (P : Platform) (shards : List UInt16) :
    List PricedLeg → List AccountMeta → Except VaultIntentError (List AccountMeta)
  | [], _ => pure []
  | leg :: legs, served => do
    let found ← okOr ((shards.map (leg.route.accounts P leg.address)).find? (fun expected ↦
        (served.take expected.length).map AccountMeta.pubkey = expected.map AccountMeta.pubkey))
      (.priceSection leg.name)
    let rest ← servedPriceSection P shards legs (served.drop found.length)
    pure (found ++ rest)

def stagingLeg : VaultStagingStep → VaultSwapDirection → VaultLeg
  | .stage, .mainToSecond | .unstage, .secondToMain => .main
  | _, _ => .second

namespace VaultSwapIntent

variable (P : Platform) (intent : VaultSwapIntent)

def mainLeg : PricedLeg :=
  ⟨"main", intent.vault.addresses.mainPriceRoute, intent.priceRoutes.main⟩

def secondLeg : PricedLeg :=
  ⟨"second", intent.vault.addresses.secondPriceRoute, intent.priceRoutes.second⟩

def stagingPricedLeg (route : PriceRoute) : PricedLeg :=
  ⟨"staging", (Pda.priceRoute P intent.vault.args.programId route.mint).1, route⟩

def expectedGeneration (step : VaultStagingStep) (mint : Pubkey) :
    Except VaultIntentError (Option UInt64) :=
  let slot := intent.account.staging
  match step, slot.openSlot with
  | .unstage, some staged => do
    refuse (staged.mint ≠ mint) (.terms "unstage names another staging mint")
    pure (some slot.generation)
  | .unstage, none => pure (some slot.generation)
  | .stage, _ =>
    pure (if slot.generation.toNat + 1 < 2 ^ 64 then some (slot.generation + 1) else none)

def servedGeneration (swap : Instruction) : Option UInt64 :=
  if stagingGenerationOffset + 8 ≤ swap.data.length then
    some (u64OfLe ((swap.data.drop stagingGenerationOffset).take 8))
  else none

def pricedKind (requested : VaultSwapKind) (swap : Instruction) :
    Except VaultIntentError (VaultSwapKind × List PricedLeg) :=
  match intent.quote.staging with
  | none => pure (requested, [intent.mainLeg, intent.secondLeg])
  | some step => do
    let short := VaultIntentError.route "swap instruction is shorter than its fixed layout"
    let mint ← okOr (swap.accounts[9]?.map AccountMeta.pubkey) short
    let tokenProgram ← okOr (swap.accounts[10]?.map AccountMeta.pubkey) short
    let route ← okOr (intent.priceRoutes.staging.find? (fun route ↦ route.mint = mint))
      (.priceSection "staging")
    let expected ← intent.expectedGeneration step mint
    let generation ← okOr
      (expected.filter (fun generation ↦ servedGeneration swap = some generation))
      (.terms "staging generation does not name the vault's slot")
    let leg := stagingLeg step intent.request.direction
    pure (.staging step leg ⟨mint, tokenProgram⟩ generation,
      [if leg = .second then intent.secondLeg else intent.mainLeg,
        intent.stagingPricedLeg P route])

/-- A stage during recovery carries the custody and the valuation of the main leg before its
hops. -/
def recoveryKind (kind : VaultSwapKind) (tailed : List AccountMeta) :
    Except VaultIntentError (VaultSwapKind × ℕ) :=
  match intent.request.mode, kind with
  | .recovery, .staging .stage _ asset generation => do
    refuse (tailed.length < 2) (.route "recovery tail is truncated")
    let mainPriceSection ← servedPriceSection P intent.priceRoutes.shards [intent.mainLeg]
      (tailed.drop 2)
    pure (.recoveryStage asset generation mainPriceSection, 2 + mainPriceSection.length)
  | _, _ => pure (kind, 0)

end VaultSwapIntent

def stagingMint : VaultSwapKind → Option Pubkey
  | .staging _ _ asset _ | .recoveryStage asset _ _ => some asset.mint
  | _ => none

def pinnedHops : List VaultSwapHop → List AccountMeta → List AccountMeta
  | [], _ => []
  | hop :: hops, accounts =>
    accounts.take 3 ++ pinnedHops hops (accounts.drop (3 + hop.accounts.length))

def pinnedAccounts (vault : VaultManager) (kind : VaultSwapKind) (tailLen : ℕ)
    (plan : VaultSwapPlan) (instruction : Instruction) : List AccountMeta :=
  let fixed := kind.fixedAccounts
  let position := fixed + plan.priceSection.length
  (instruction.accounts.take fixed).filter (fun account ↦
      ¬ (account.pubkey = vault.args.mainMint ∨ account.pubkey = vault.args.secondMint ∨
        some account.pubkey = stagingMint kind)) ++
    (instruction.accounts.drop position).take tailLen ++
      pinnedHops plan.hops (instruction.accounts.drop (position + tailLen))

def createdAtas (setup : List Instruction) : List Pubkey :=
  (setup.filter (fun ix ↦ ix.programId = associatedTokenProgramId)).filterMap
    (fun ix ↦ ix.accounts[1]?.map AccountMeta.pubkey)

def requireRouteAtas (hops : List VaultSwapHop) :
    List Pubkey → List Pubkey → Except VaultIntentError Unit
  | _, [] => pure ()
  | created, ata :: atas => do
    refuse (ata ∉ hops.dropLast.map VaultSwapHop.destination ∧
        ∀ hop ∈ hops, ata ∉ hop.accounts.map AccountMeta.pubkey)
      (.setup "creates an account the route does not use")
    refuse (ata ∈ created) (.setup "creates the same account twice")
    requireRouteAtas hops (created ++ [ata]) atas

def swapError : VaultChainError → VaultIntentError
  | .invalidInput reason => .route reason
  | other => .intent other

def verifyVaultSwap (P : Platform) (intent : VaultSwapIntent)
    (tables : List AddressLookupTableAccount) (bounds : ComputeBudgetBounds) :
    Except VaultIntentError VerifiedTransaction := do
  let vault := intent.vault
  let quote := intent.quote
  let routes := intent.priceRoutes
  (vault.ensureCurrent intent.account).mapError VaultIntentError.intent
  refuse (intent.request.vaultPda ≠ vault.addresses.vault)
    (.terms "request names a different vault")
  refuse (quote.requestId ≠ intent.request.requestId ∨ quote.mode ≠ intent.request.mode)
    (.terms "quote answers a different request or mode")
  let requested ← requestedKind intent.request.mode intent.request.direction
  let amountIn ← parseAmount quote.inAmount "quoted input"
  intent.requireInput amountIn
  let quotedOut ← parseAmount quote.quotedOutAmount "quoted output"
  let minimumOut ← parseAmount quote.minimumOutAmount "minimum output"
  intent.requireOutput quotedOut minimumOut
  let validUntil ← parseAmount quote.validUntil "valid_until"
  let served ← ServedMessage.decode P quote.txBase64 tables
  let payer := vault.args.actor
  let budget ← served.computeBudget bounds
  let setups ← swapSetups P vault routes payer (served.instructions.drop budget.length)
  let expected := budget ++ setups
  let swap ← okOr served.instructions[expected.length]?
    (.instructionCount (expected.length + 1) served.instructions.length)
  refuse (routes.main.mint ≠ vault.args.mainMint ∨ routes.second.mint ≠ vault.args.secondMint)
    (.intent (.invalidInput "price routes must price the vault's main and second mints"))
  let (kind, legs) ← intent.pricedKind P requested swap
  let (priced, hopData) ← fixedLayout kind swap
  let priceSection ← servedPriceSection P routes.shards legs priced
  let tailed := priced.drop priceSection.length
  let (swapKind, tailLen) ← intent.recoveryKind P kind tailed
  let hopAccounts := tailed.drop tailLen
  refuse (∃ account ∈ hopAccounts, account.pubkey = payer) (.route "route uses the fee payer")
  let shareAta := deriveAssociatedTokenAddress P vault.addresses.vault vault.args.shareMint
    tokenProgramId
  refuse (∃ account ∈ hopAccounts, account.pubkey = vault.args.shareMint ∨
      account.pubkey = shareAta)
    (.route "route touches the vault share mint or its share account")
  let hops ← servedHops (hopCount kind swap) hopData hopAccounts
  let plan : VaultSwapPlan := { priceSection, amountIn, minimumOut, validUntil, hops }
  let instruction ← (vault.swap P swapKind plan).mapError swapError
  refuse (∃ account ∈ hopAccounts, account.isWritable = true ∧
      ∃ fixed ∈ pinnedAccounts vault swapKind tailLen plan instruction,
        fixed.pubkey = account.pubkey ∧ fixed.isWritable = false)
    (.route "route makes a read-only account writable")
  requireRouteAtas hops [] (createdAtas expected)
  served.matches payer (expected ++ [instruction])

end MakerSdk.Served
