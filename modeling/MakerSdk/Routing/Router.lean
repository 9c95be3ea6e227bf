import MakerSdk.Solana.Transaction
import MakerSdk.Vault.PriceRoute
import MakerSdk.Venues.Registry

namespace MakerSdk.Routing

open Base.Bytes Base.Checks Base.Words Solana Vault Venues

inductive Intent where
  | buy (amount : UInt64)
  | sell (amount : UInt64)
  | redeem (amount : UInt64)
deriving DecidableEq

namespace Intent

def amount : Intent → UInt64
  | buy amount | sell amount | redeem amount => amount

def buying : Intent → Bool
  | buy _ => true
  | _ => false

end Intent

structure TxParts where
  instructions : List Instruction
  tables : List AddressLookupTableAccount
  kind : VaultSwapKind

inductive Plan where
  | single (tx : TxParts)
  | staged (stage unstage : TxParts)

namespace Plan

def first : Plan → TxParts
  | single tx => tx
  | staged stage _ => stage

def transactions : Plan → List TxParts
  | single tx => [tx]
  | staged stage unstage => [stage, unstage]

end Plan

section Fit

structure Fit where
  accountLocks : ℕ
  bytes : ℕ

def Fit.fits (fit : Fit) : Bool := fit.accountLocks ≤ 64 && fit.bytes ≤ 1232

/-- The version-0 compiler of the crates the SDK links: payer, instructions, tables and blockhash
to a message, which is a transaction without its signatures. -/
abbrev Compiler :=
  Pubkey → List Instruction → List AddressLookupTableAccount → FixedBytes 32 → Option Transaction

namespace TxParts

variable (compiler : Compiler) (tx : TxParts)

def compile (payer : Pubkey) (blockhash : FixedBytes 32) : Except VaultChainError Transaction :=
  okOr (compiler payer tx.instructions tx.tables blockhash)
    (invalid "v0 transaction compilation failed")

def fit (payer : Pubkey) : Except VaultChainError Fit := do
  let message ← tx.compile compiler payer (.ofList 32 [])
  refuse (message.versionZero = false) (invalid "expected v0 message")
  pure {
    accountLocks := message.staticKeys.length +
      (message.lookups.map fun l ↦ l.writable.length + l.readonly.length).sum
    bytes := 1 + 64 * message.requiredSigners.toNat + message.encodeMessage.length }

end TxParts

end Fit

section Prices

/-- The double-precision arithmetic that screens quotes. -/
structure Doubles where
  Double : Type
  ofU64 : UInt64 → Double
  ten : Double
  kept : Double
  mul : Double → Double → Double
  div : Double → Double → Double
  powi : Double → ℤ → Double
  lt : Double → Double → Bool
  isFinite : Double → Bool

structure OraclePrice (D : Doubles) where
  usd : D.Double
  decimals : UInt8

variable {D : Doubles}

def OraclePrice.value (price : OraclePrice D) (amount : UInt64) : D.Double :=
  D.div (D.mul (D.ofU64 amount) price.usd) (D.powi D.ten price.decimals.toNat)

/-- The output is worth at least the part of the input that has to be `kept`, 0.99. -/
def OraclePrice.checkQuote (input : OraclePrice D) (amount : UInt64) (to' : OraclePrice D)
    (output : UInt64) : Except VaultChainError Unit :=
  refuse (D.isFinite (input.value amount) = false ∨ D.isFinite (to'.value output) = false ∨
      D.lt (to'.value output) (D.mul (input.value amount) D.kept) = true)
    (invalid "Jupiter quote exceeds one percent oracle loss")

end Prices

def priceSection (P : Platform) (manager : VaultManager) (main second : PriceRoute)
    (shard : UInt16) : Except VaultChainError (List AccountMeta) := do
  refuse (main.mint ≠ manager.args.mainMint ∨ second.mint ≠ manager.args.secondMint)
    (.invalidInput "price routes must price the vault's main and second mints")
  pure (main.accounts P manager.addresses.mainPriceRoute shard ++
    second.accounts P manager.addresses.secondPriceRoute shard)

/-- Whether an open slot is completed into PT, or a fresh intent buys it. -/
def recoveryBuy (account : VaultAccount) (intent : Intent) (now maturity : UInt64) :
    Except VaultChainError Bool :=
  match account.staging.openSlot.map VaultStagedSlot.fromLeg with
  | some .main => pure (now ≤ maturity && account.safety = .normal && account.phase = .active &&
      now < account.activeExpiry)
  | some .second => pure false
  | none => do
    match intent with
    | .buy _ => refuse (now ≥ maturity) (invalid "cannot buy matured PT")
    | .sell _ => refuse (now > maturity) (invalid "use Redeem after maturity")
    | .redeem _ => refuse (now ≤ maturity) (invalid "PT redemption requires maturity")
    pure intent.buying

structure Router (D : Doubles) where
  manager : VaultManager
  account : VaultAccount
  main : PriceRoute
  second : PriceRoute
  staging : PriceRoute
  registry : SwapVenues
  market : Market
  sy : GenericSy
  core : CoreVault
  tables : List AddressLookupTableAccount
  shard : UInt16
  now : UInt64
  validUntil : UInt64
  baseProgram : Pubkey
  setup : List Instruction
  prices : Fin 3 → OraclePrice D

namespace Router

variable (P : Platform) (compiler : Compiler) {D : Doubles} (router : Router D)

def table (key : Pubkey) : Except VaultChainError (List Pubkey) :=
  okOr ((router.tables.find? (·.key = key)).map (·.addresses)) (invalid "Exponent ALT missing")

def asset : VaultStagingAsset := ⟨router.sy.base, router.baseProgram⟩

def owner : Pubkey := router.manager.addresses.vault

def pricesOf : VaultSwapKind → Except VaultChainError (List AccountMeta)
  | .staging _ leg _ _ =>
    let route := if leg = .main then router.main else router.second
    let address := fun route : PriceRoute ↦
      (Pda.priceRoute P router.manager.args.programId route.mint).1
    pure (route.accounts P (address route) router.shard ++
      router.staging.accounts P (address router.staging) router.shard)
  | _ => priceSection P router.manager router.main router.second router.shard

/-- Whether a setup instruction is kept: one that creates a token account only where a hop uses
it. Its second account is looked up as soon as there is an account to compare it with. -/
def needed (hops : List VaultSwapHop) (ix : Instruction) : Checked VaultChainError Bool :=
  if ix.programId ≠ associatedTokenProgramId then pure true
  else if hops.all (·.accounts.isEmpty) then pure false
  else match ix.accounts[1]? with
    | some created => pure (hops.any fun hop ↦ hop.accounts.any (·.pubkey = created.pubkey))
    | none => .error .panicked

def mergeTable (tables : List AddressLookupTableAccount) (table : AddressLookupTableAccount) :
    Except VaultChainError (List AddressLookupTableAccount) :=
  match tables.find? (·.key = table.key) with
  | some existing => do
    refuse (existing.addresses ≠ table.addresses) (invalid "conflicting lookup table contents")
    pure tables
  | none => pure (tables ++ [table])

def parts (kind : VaultSwapKind) (amount minimum : UInt64) (hops : List VaultSwapHop)
    (quote : Option Quote) : Checked VaultChainError TxParts := do
  lift (refuse (∃ hop ∈ hops, router.registry.allows hop = false)
    (invalid "hop not allowed by SwapVenues"))
  let setup ← router.setup.filterM (needed hops)
  let priceSection ← lift (router.pricesOf P kind)
  let swap ← lift (router.manager.swap P kind
    ⟨priceSection, amount, minimum, router.validUntil, hops⟩)
  let tables ← lift ((quote.elim [] (·.tables)).foldlM mergeTable router.tables)
  pure ⟨setup ++ [swap], tables, kind⟩

def stageKind (leg : VaultLeg) (step : VaultStagingStep) (generation : UInt64) : VaultSwapKind :=
  .staging step leg router.asset generation

def validate (intent : Intent) : Except VaultChainError Bool := do
  router.manager.ensureCurrent router.account
  refuse (router.validUntil ≤ router.now ∨
      (router.account.staging.openSlot = none ∧ intent.amount = 0))
    (invalid "invalid curator amount or deadline")
  refuse (∃ slot ∈ router.account.staging.openSlot, slot.mint ≠ router.sy.base)
    (invalid "unsupported open staging mint")
  recoveryBuy router.account intent router.now router.core.maturity

def singleFitting (tx : TxParts) : Except VaultChainError Plan := do
  let fit ← tx.fit compiler router.manager.args.actor
  refuse (fit.fits = false) (invalid "curator transaction does not fit")
  pure (.single tx)

def checkQuote (quote : Quote) (buy : Bool) (amount : UInt64) : Except VaultChainError Unit := do
  refuse (quote.request.amount ≠ amount) (invalid "Jupiter quote input mismatch")
  let (input, output) := if buy then (router.prices 0, router.prices 2)
    else (router.prices 2, router.prices 0)
  input.checkQuote amount output quote.output

def buyHops (amount : UInt64) (patch : Bool) : Checked VaultChainError (List VaultSwapHop) := do
  let mint ← router.sy.hop P router.owner router.baseProgram amount true patch
  let table ← lift (router.table router.market.lookupTable)
  let trade ← lift (router.market.trade P router.owner 0 true table true)
  pure [mint, trade]

/-- The hop that gives up PT for the standardised token: by redemption, or on the market. -/
def soldHop : Intent → Except VaultChainError VaultSwapHop
  | .redeem amount => do
    let table ← router.table router.core.lookupTable
    router.core.merge P router.owner amount router.now table
  | .buy amount | .sell amount => do
    let table ← router.table router.market.lookupTable
    router.market.trade P router.owner amount false table false

def sellHops (intent : Intent) : Checked VaultChainError (List VaultSwapHop) := do
  let sold ← lift (router.soldHop P intent)
  let redeemed ← router.sy.hop P router.owner router.baseProgram 0 false true
  pure [sold, redeemed]

def slotHops (buy : Bool) (quote : Option Quote) (slot : VaultStagedSlot) :
    Checked VaultChainError (VaultLeg × List VaultSwapHop) := do
  if buy then pure (.second, ← router.buyHops P slot.amount false)
  else
    let quote ← lift (okOr quote (invalid "Jupiter quote required for unstage to main"))
    lift (router.checkQuote quote false slot.amount)
    pure (.main, [← lift (quote.patchedHop false)])

def completeSlot (buy : Bool) (quote : Option Quote) (minimumOut : UInt64)
    (slot : VaultStagedSlot) : Checked VaultChainError Plan := do
  let (leg, hops) ← router.slotHops P buy quote slot
  let tx ← router.parts P (router.stageKind leg .unstage router.account.staging.generation)
    slot.amount minimumOut hops quote
  lift (router.singleFitting compiler tx)

section Fresh

variable (intent : Intent) (buy : Bool) (quote : Quote)

def stagedAmount : UInt64 := if buy then quote.output else quote.request.amount

def firstHops : Checked VaultChainError (List VaultSwapHop) := do
  if buy then pure [← lift (quote.patchedHop false)] else router.sellHops P intent

def tailHops (patch : Bool) : Checked VaultChainError (List VaultSwapHop) := do
  if buy then router.buyHops P (stagedAmount buy quote) patch
  else pure [← lift (quote.patchedHop patch)]

def stagedPlan (first : List VaultSwapHop) (minimumOut minimumStaged : UInt64) :
    Checked VaultChainError Plan := do
  lift (refuse (minimumStaged = 0) (invalid "staging minimum must be nonzero"))
  let generation ← narrow (invalid "staging generation overflow")
    (router.account.staging.generation.toNat + 1)
  let stage ← router.parts P (router.stageKind (if buy then .main else .second) .stage generation)
    intent.amount minimumStaged first (some quote)
  let tail ← router.tailHops P buy quote false
  let unstage ← router.parts P
    (router.stageKind (if buy then .second else .main) .unstage generation)
    (stagedAmount buy quote) minimumOut tail (some quote)
  let stageFit ← lift (stage.fit compiler router.manager.args.actor)
  lift (refuse (stageFit.fits = false) (invalid "curator transaction does not fit"))
  let unstageFit ← lift (unstage.fit compiler router.manager.args.actor)
  lift (refuse (unstageFit.fits = false) (invalid "curator transaction does not fit"))
  pure (.staged stage unstage)

def freshPlan (minimumOut minimumStaged : UInt64) : Checked VaultChainError Plan := do
  lift (router.checkQuote quote buy (if buy then intent.amount else quote.request.amount))
  let first ← router.firstHops P intent buy quote
  let tail ← router.tailHops P buy quote true
  let single ← attempt do
    let tx ← router.parts P (.rebalance (!buy)) intent.amount minimumOut (first ++ tail)
      (some quote)
    lift (router.singleFitting compiler tx)
  match single with
  | some plan => pure plan
  | none => router.stagedPlan P compiler intent buy quote first minimumOut minimumStaged

end Fresh

def plan (intent : Intent) (quote : Option Quote) (minimumOut minimumStaged : UInt64) :
    Checked VaultChainError Plan := do
  let buy ← lift (router.validate intent)
  lift (refuse (minimumOut = 0) (invalid "invalid curator amount or deadline"))
  match router.account.staging.openSlot with
  | some slot => router.completeSlot P compiler buy quote minimumOut slot
  | none => do
    let quote ← lift (okOr quote (invalid "Jupiter quote required"))
    router.freshPlan P compiler intent buy quote minimumOut minimumStaged

end Router

end MakerSdk.Routing
