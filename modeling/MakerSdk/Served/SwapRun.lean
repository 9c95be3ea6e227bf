import MakerSdk.Served.SwapTerms

namespace MakerSdk.Served

open Base Base.Bytes Base.Checks Base.Lists Solana Vault

/-- A swap as a transaction carries it: the compute budget, the setup and the instruction of a
plan, and that instruction with the privileges the transaction loads. -/
structure SwapRun where
  t : Transaction
  limit : UInt32
  price : UInt64
  setups : List Instruction
  kind : VaultSwapKind
  plan : VaultSwapPlan
  instruction : Instruction
  served : Instruction

namespace SwapRun

def setup (run : SwapRun) : List Instruction :=
  computeBudgetInstructions run.limit run.price ++ run.setups

def expected (run : SwapRun) : List Instruction := run.setup ++ [run.instruction]

/-- The transaction pays from the vault's actor, who alone signs, and holds exactly a budget within
bounds, accepted setup and the swap of the plan that it decodes to. -/
structure Carries (P : Platform) (intent : VaultSwapIntent)
    (tables : List AddressLookupTableAccount) (bounds : ComputeBudgetBounds)
    (transaction : VerifiedTransaction) (run : SwapRun) : Prop where
  bytes : P.base64Decode intent.quote.txBase64 = some transaction.bytes
  decoded : ∃ m p, decodeWith compact transaction.bytes = .ok (m, p) ∧ transactionOf m p = run.t ∧
    transaction.signaturesStart = m.signaturesStart ∧ transaction.messageStart = m.messageStart
  signers : transaction.signers = [intent.vault.args.actor] ∧
    run.t.staticKeys.take run.t.requiredSigners.toNat = [intent.vault.args.actor]
  feePayer : run.t.staticKeys.head? = some intent.vault.args.actor
  budget : bounds.Admits run.limit run.price
  setups : ∀ setup ∈ run.setups, Setup P intent setup ∧
    setup.programId ≠ intent.vault.args.programId
  built : intent.vault.swap P run.kind run.plan = .ok run.instruction
  instructions : run.t.instructions.map (CompiledInstruction.outline (run.t.loadedKeys tables)) =
    run.expected.map Instruction.outline
  served : ∃ c, run.t.instructions[run.setup.length]? = some c ∧
    c.Resolves (run.t.loadedKeys tables) run.served
  read : ∃ split, splitSwap run.kind run.plan.priceSection.length run.served = .ok split ∧
    split.hops = run.plan.hops
  supplied : ∀ l ∈ run.t.lookups, l.Supplied tables
  distinct : ((run.t.loadedKeys tables).map Prod.fst).Nodup
  used : ∀ key ∈ run.t.loadedKeys tables, Used intent.vault.args.actor run.expected key.1
  flags : ∀ key ∈ run.t.loadedKeys tables,
    key.2 = unionFlags intent.vault.args.actor run.expected key.1

end SwapRun

section Signers

variable {P : Platform} {intent : VaultSwapIntent} {kind : VaultSwapKind} {plan : VaultSwapPlan}

theorem Prices.readonly {shards : List UInt16} {legs : List PricedLeg} {accounts : List AccountMeta}
    (h : Prices P shards legs accounts) :
    ∀ account ∈ accounts, account.isWritable = false ∧ account.isSigner = false := by
  induction legs generalizing accounts with
  | nil =>
    obtain rfl : accounts = [] := h
    simp
  | cons leg legs ih =>
    obtain ⟨shard, -, rest, rfl, hrest⟩ := h
    intro account hmem
    rcases List.mem_append.mp hmem with hmem | hmem
    · exact PriceRoute.accounts_readonly account hmem
    · exact ih hrest account hmem

theorem priceSection_readonly (h : intent.Priced P plan kind) :
    ∀ account ∈ plan.priceSection, account.isWritable = false ∧ account.isSigner = false := by
  cases kind with
  | staging =>
    obtain ⟨route, -, -, hprices⟩ := h
    exact hprices.readonly
  | recoveryStage =>
    obtain ⟨route, -, -, hprices, -⟩ := h
    exact hprices.readonly
  | _ => exact Prices.readonly h

theorem signer_of_filter {accounts : List AccountMeta} {a : AccountMeta}
    (h : accounts.filter AccountMeta.isSigner = [a]) : ∀ account ∈ accounts,
      account.isSigner = true → account.pubkey = a.pubkey := by
  intro account hmem hsigner
  have hfilter := List.mem_filter.mpr ⟨hmem, hsigner⟩
  rw [h, List.mem_singleton] at hfilter
  rw [hfilter]

theorem swapAccounts_signer {manager : VaultManager} :
    ∀ account ∈ manager.swapAccounts P kind, account.isSigner = true →
      account.pubkey = manager.args.actor :=
  signer_of_filter (a := .newReadonly manager.args.actor true) (by cases kind <;> rfl)

theorem swapTail_signer {manager : VaultManager} (h : VaultManager.TailValid kind) :
    ∀ account ∈ manager.swapTail kind, account.isSigner = false := by
  intro account hmem
  cases kind with
  | recoveryStage asset generation mainPriceSection =>
    simp only [VaultManager.swapTail, VaultManager.recoveryTail, List.mem_cons] at hmem
    rcases hmem with rfl | rfl | hmem
    · rfl
    · rfl
    · exact (h.2 account hmem).2
  | _ => exact absurd hmem List.not_mem_nil

theorem encodeAccounts_signer {hop : VaultSwapHop} :
    ∀ account ∈ hop.encodeAccounts, account.isSigner = false := by
  intro account hmem
  simp only [VaultSwapHop.encodeAccounts, List.mem_cons, List.mem_map] at hmem
  rcases hmem with rfl | rfl | rfl | ⟨account, -, rfl⟩ <;> rfl

theorem swap_signer {manager : VaultManager} {ix : Instruction}
    (h : manager.swap P kind plan = .ok ix)
    (hprices : ∀ account ∈ plan.priceSection, account.isWritable = false ∧
      account.isSigner = false) :
    ∀ account ∈ ix.accounts, account.isSigner = true → account.pubkey = manager.args.actor := by
  obtain ⟨rfl, htail, -⟩ := layout_of_swap h
  intro account hmem hsigner
  simp only [VaultManager.swapLayout, List.mem_append, List.mem_flatMap] at hmem
  rcases hmem with hmem | hmem | hmem | ⟨hop, -, hmem⟩
  · exact swapAccounts_signer account hmem hsigner
  · rw [(hprices account hmem).2] at hsigner
    cases hsigner
  · rw [swapTail_signer htail account hmem] at hsigner
    cases hsigner
  · rw [encodeAccounts_signer account hmem] at hsigner
    cases hsigner

theorem Setup.signer {setup : Instruction} (h : Setup P intent setup) :
    ∀ account ∈ setup.accounts, account.isSigner = true →
      account.pubkey = intent.vault.args.actor := by
  cases h with
  | create => exact signer_of_filter (a := .new intent.vault.args.actor true) rfl
  | update =>
    intro account hmem hsigner
    have hfilter := List.mem_filter.mpr ⟨hmem, hsigner⟩
    exact absurd hfilter List.not_mem_nil

theorem expected_signer {run : SwapRun} (hsetups : ∀ setup ∈ run.setups, Setup P intent setup ∧
      setup.programId ≠ intent.vault.args.programId)
    (hbuilt : intent.vault.swap P run.kind run.plan = .ok run.instruction)
    (hpriced : intent.Priced P run.plan run.kind) : ∀ ix ∈ run.expected,
      ∀ account ∈ ix.accounts, account.isSigner = true →
        account.pubkey = intent.vault.args.actor := by
  intro ix hix account hmem hsigner
  simp only [SwapRun.expected, SwapRun.setup, computeBudgetInstructions, List.mem_append,
    List.mem_cons, List.not_mem_nil, or_false] at hix
  rcases hix with ((rfl | rfl) | hix) | rfl
  · exact absurd hmem List.not_mem_nil
  · exact absurd hmem List.not_mem_nil
  · exact (hsetups ix hix).1.signer account hmem hsigner
  · exact swap_signer hbuilt (priceSection_readonly hpriced) account hmem hsigner

end Signers

structure SwapRun.Checked (P : Platform) (intent : VaultSwapIntent) (run : SwapRun)
    (hopAccounts : List AccountMeta) : Prop where
  read : ∃ count data, servedHops count data hopAccounts = .ok run.plan.hops
  served : ∀ account ∈ hopAccounts, account ∈ run.served.accounts
  payer : ∀ account ∈ hopAccounts, account.pubkey ≠ intent.vault.args.actor
  share : ∀ account ∈ hopAccounts, account.pubkey ≠ intent.vault.args.shareMint ∧
    account.pubkey ≠ deriveAssociatedTokenAddress P intent.vault.addresses.vault
      intent.vault.args.shareMint tokenProgramId
  pinned : ∀ account ∈ hopAccounts, account.isWritable = true →
    ∀ fixed ∈ pinnedAccounts intent.vault run.kind (recoveryTailLen run.kind) run.plan
      run.instruction, fixed.pubkey = account.pubkey → fixed.isWritable = true
  atas : requireRouteAtas run.plan.hops [] (createdAtas run.setup) = .ok ()

theorem splitSwap_hops {kind kind' : VaultSwapKind} {swap : Instruction}
    {priced : List AccountMeta} {hopData : List UInt8} {hops : List VaultSwapHop} {n : ℕ}
    (hfixed : kind'.fixedAccounts = kind.fixedAccounts) (hheader : kind'.headerLen = kind.headerLen)
    (hlayout : fixedLayout kind swap = .ok (priced, hopData))
    (hread : servedHops (hopCount kind swap) hopData
      ((priced.drop n).drop (recoveryTailLen kind')) = .ok hops) :
    ∃ split, splitSwap kind' n swap = .ok split ∧ split.hops = hops := by
  simp only [servedHops, bind_ok, pure_ok] at hread
  obtain ⟨⟨hops, data, accounts⟩, hread, rfl⟩ := hread
  rw [fixedLayout, ← hfixed, ← hheader] at hlayout
  rw [hopCount, ← hheader] at hread
  simp only [splitSwap, fixedLayout, hlayout, bind_ok, pure_ok]
  exact ⟨_, ⟨_, rfl, _, hread, rfl⟩, rfl⟩

theorem verifyVaultSwap_run {P : Platform} {intent : VaultSwapIntent}
    {tables : List AddressLookupTableAccount} {bounds : ComputeBudgetBounds}
    {transaction : VerifiedTransaction}
    (h : verifyVaultSwap P intent tables bounds = .ok transaction) :
    ∃ run hopAccounts, SwapRun.Carries P intent tables bounds transaction run ∧
      intent.Terms P run.kind run.plan ∧ run.Checked P intent hopAccounts := by
  simp only [verifyVaultSwap, bind_ok, refuse_ok, exists_const, mapError_ok, computeBudget_ok,
    okOr_ok, ne_eq, not_not, not_or] at h
  obtain ⟨_, hcurrent, hvault, ⟨hid, hmode⟩, requested, hrequested, amountIn, hin, _, hinput,
    quotedOut, hquoted, minimumOut, hout, _, houtput, validUntil, hvalid, served, hserved, budget,
    hbudget, h⟩ := h
  obtain ⟨limit, price, hadm, -, -, rfl⟩ := hbudget
  obtain ⟨setups, hsetups, swap, hswap, ⟨hmain, hsecond⟩, ⟨kind, legs⟩, hkind, ⟨priced, hopData⟩,
    hlayout, priceSection, hprices, h⟩ := h
  obtain ⟨⟨swapKind, tailLen⟩, hrecovery, hpayer, hshare, hops, hhops, instruction, hbuilt, hpinned,
    _, hatas, hmatch⟩ := h
  obtain ⟨hm, rfl⟩ := (matches_ok (decode_account_mem hserved)).mp hmatch
  obtain ⟨bytes, m, p, hbytes, hread, hres, rfl, hsigs, hmsg, -⟩ :=
    ServedMessage.decode_ok.mp hserved
  have hheader := decodeWith_headerValid hread
  obtain ⟨hhead, hixs, hused, hflags⟩ := (hres.matches_iff hheader).mp hm
  have hdistinct := hres.distinct
  rw [hres.keys] at hdistinct
  obtain ⟨hfixed, hheaderLen, rfl⟩ := swapKind_layout hrequested hkind hrecovery
  let plan : VaultSwapPlan := ⟨priceSection, amountIn, minimumOut, validUntil, hops⟩
  have hswapKind : intent.Answers swapKind ∧ intent.Priced P plan swapKind :=
    swapKind_ok hrequested ⟨_, hinput⟩ hkind hprices hrecovery
  obtain ⟨hanswers, hpriced⟩ := hswapKind
  obtain ⟨⟨hslippage, -, hnonzero, hminimum⟩, hfloor⟩ := requireOutput_ok.mp houtput
  let run : SwapRun :=
    ⟨transactionOf m p, limit, price, setups, swapKind, plan, instruction, swap⟩
  have hsetups := swapSetups_ok hsetups
  have hexpected : ∀ ix ∈ run.expected, ∀ account ∈ ix.accounts, account.isSigner = true →
      account.pubkey = intent.vault.args.actor := expected_signer hsetups hbuilt hpriced
  have hsigners := hres.signers_eq hheader hm hexpected
  obtain ⟨c, hc, hresolves⟩ := getElem?_of_forall₂ hres.instructions hswap
  rw [hres.keys] at hresolves
  refine ⟨run, (priced.drop priceSection.length).drop (recoveryTailLen swapKind), ?_, ?_, ?_⟩
  · exact {
      bytes := hbytes
      decoded := ⟨m, p, hread, rfl, hsigs, hmsg⟩
      signers := ⟨hsigners, hres.signers ▸ hsigners⟩
      feePayer := hhead
      budget := hadm
      setups := hsetups
      built := hbuilt
      instructions := hixs
      served := ⟨c, hc, hresolves⟩
      read := splitSwap_hops hfixed hheaderLen hlayout hhops
      supplied := hres.supplied
      distinct := hdistinct
      used := hused
      flags := hflags }
  · exact {
      current := VaultManager.ensureCurrent_ok.mp hcurrent
      vault := hvault
      request := ⟨hid, hmode⟩
      amountIn := by
        rcases requireInput_ok hinput with ⟨hstep, hrequest, -⟩ | hunstage
        · exact .inl ⟨hstep, hrequest⟩
        · exact .inr hunstage
      minimumOut_ne_zero := hnonzero
      slippage := ⟨quotedOut, hquoted, hslippage, hminimum⟩
      floor := hfloor
      quoted := ⟨hin, hout, hvalid⟩
      answers := hanswers
      routes := ⟨hmain, hsecond⟩
      priced := hpriced }
  · simp only [not_exists, not_and, not_or, Bool.not_eq_false] at hpayer hshare hpinned
    exact {
      read := ⟨_, _, hhops⟩
      served := fun account hmem ↦ by
        simp only [fixedLayout, bind_ok, refuse_ok, exists_const, pure_ok, Prod.mk.injEq] at hlayout
        rw [← hlayout.2.1] at hmem
        exact List.mem_of_mem_drop (List.mem_of_mem_drop (List.mem_of_mem_drop hmem))
      payer := hpayer
      share := hshare
      pinned := hpinned
      atas := hatas }

/-- Swap verification is sound: an accepted transaction carries the swap of a plan whose terms
are those requested and quoted, for a kind that answers the request. -/
theorem verifyVaultSwap_sound {P : Platform} {intent : VaultSwapIntent}
    {tables : List AddressLookupTableAccount} {bounds : ComputeBudgetBounds}
    {transaction : VerifiedTransaction}
    (h : verifyVaultSwap P intent tables bounds = .ok transaction) :
    ∃ run, SwapRun.Carries P intent tables bounds transaction run ∧
      intent.Terms P run.kind run.plan := by
  obtain ⟨run, _, hcarries, hterms, -⟩ := verifyVaultSwap_run h
  exact ⟨run, hcarries, hterms⟩

namespace Recovery

def shareAta : Pubkey :=
  keyOfNat 0x28f64b658aab38213d417f62273f6a9e61e242dd9dc1d6232d58fb9df9873b21
def mainAta2022 : Pubkey :=
  keyOfNat 0x12b8bf755b40dde055972f9a31c7d26e3fff8fc66ee20753b0cd77b4e098626c
def secondAtaLegacy : Pubkey :=
  keyOfNat 0x85bf579e72bd5ea11df8b473a897d9bddc2c79077fc8337911337b86c0557dca
def stagingAta2022 : Pubkey :=
  keyOfNat 0xd03cdd6692f65cb8c2d2d80df37e829812c4ccd955973dbe781de490f09878d8
def mainFeed0 : Pubkey :=
  keyOfNat 0x3b0df400f2023e577090ab10e6717c405ab31c5fc2ec86d5683fe29a0e8d43b1
def secondFeed1 : Pubkey :=
  keyOfNat 0x8651f74fbd9620d7d5ae0d4291c008eb7541e293bc81d86d4d88b0166036f313
def stagingFeed0 : Pubkey :=
  keyOfNat 0x193289f094c51ad63d86df9fa84f6378eed4e03b5934e521f80d5f9fc35af0c5

def feed (byte : UInt8) : PythBrick := ⟨.ofList 32 (List.replicate 32 byte), 60, 0⟩

def ratio : AccountRatioBrick where
  account := pool
  owner := keyOfNat 0x680ca0f99817dc68608c4ac5b9ca522a33a5929f16bda8244a41c0316b908ed
  programData := poolProgramData
  deploySlot := 0
  discriminator := [1]
  minLen := 282
  mintAt := some 162
  numerator := ⟨258, 8⟩
  denominator := ⟨266, 8⟩
  scaleExp := 0
  minDenominator := 1
  min := 1
  max := 2999999999999999999
  freshness := some ⟨.epoch, 274, 1⟩

def routes : PairPriceRoutes where
  main := ⟨swapper.args.mainMint, 10, [.pyth (feed 0x11)], 0⟩
  second := ⟨swapper.args.secondMint, 10, [.pyth (feed 0x22)], 0⟩
  staging := [⟨stagingMint, 10, [.accountRatio ratio, .pyth (feed 0x44)], 0⟩]
  shards := [0, 1]

def text : String :=
  "AQAAAAAAAAAAAAAAAAAAAAAAAAAAAAAAAAAAAAAAAAAAAAAAAAAAAAAAAAAAAAAAAAAAAAAAAAAAAAAAAAAA" ++
    "AACAAQADBFUm90KUFxGzvFMLpE/29tqw8Ktxr4MvQaf+O5/a7ZxgAQEBAQEBAQEBAQEBAQEBAQEBAQEBAQEB" ++
    "AQEBAQEBAQEDBkZv5SEXMv/srbpyw5vnvIzlu8X3EmssQ5s6QAAAAIyXJY9OJInxuz0QKRSODYMLWhOZ2v8Q" ++
    "hASOe9jb6fhZCQkJCQkJCQkJCQkJCQkJCQkJCQkJCQkJCQkJCQkJCQkEAgAFAoAaBgACAAkD6AMAAAAAAAAD" ++
    "BgAHBA4ICwEBAR8ABBMXDwUJDAcOCxUYFBkRGw0cFgYLEhoKBQcQBQcELkwCAUBCDwAAAAAAxgcAAAAAAACk" ++
    "Qg8AAAAAAAMAAAAAAAAAAQQFAP//cm91dGUBY2NjY2NjY2NjY2NjY2NjY2NjY2NjY2NjY2NjY2NjY2MEAAEC" ++
    "AxUEBggJCgsMDQ4PEBITFBUWFxgZGhs="

def intent : VaultSwapIntent where
  vault := swapper
  request := ⟨.ofList 16 [], swapper.addresses.vault, .recovery, .secondToMain, "1000000", 50⟩
  quote := ⟨.ofList 16 [], .recovery, text, "1000000", "2000", "1990", "1000100", some .stage⟩
  priceRoutes := routes
  minOutputFloor := 1990
  account := ⟨swapper.args.vaultId, .active, .normal, 1900000000, swapper.args.mainMint,
    swapper.args.secondMint, token2022ProgramId, ⟨2, none⟩, 0⟩

def table : Pubkey := keyOfNat 0x6363636363636363636363636363636363636363636363636363636363636363

def tables : List AddressLookupTableAccount :=
  [⟨table, [swapper.addresses.vault, swapper.addresses.vaultSecondAta,
    swapper.addresses.vaultMainAta, stagingAta, systemProgramId, swapper.args.programId,
    swapper.args.secondMint, computeBudgetProgramId, venue, tokenProgramId, token2022ProgramId,
    pool, stagingMint, swapper.addresses.globalConfig, venueState, secondFeed,
    swapper.addresses.mainPriceRoute, associatedTokenProgramId, swapper.addresses.policy,
    swapper.addresses.swapVenues, swapper.args.shareMint, stagingFeed, swapper.addresses.delegate,
    swapper.addresses.managerStakeAta, swapper.addresses.secondPriceRoute, mainFeed, stagingRoute,
    poolProgramData]⟩]

def served : Transaction where
  signatures := [.ofList 64 []]
  versionZero := true
  requiredSigners := 1
  readonlySigned := 0
  readonlyUnsigned := 3
  staticKeys := [swapper.args.actor, swapper.args.programId, computeBudgetProgramId,
    associatedTokenProgramId]
  blockhash := .ofList 32 (List.replicate 32 9)
  instructions := [
    ⟨2, [], [2, 128, 26, 6, 0]⟩,
    ⟨2, [], [3, 232, 3, 0, 0, 0, 0, 0, 0]⟩,
    ⟨3, [0, 7, 4, 14, 8, 11], [1]⟩,
    ⟨1, [0, 4, 19, 23, 15, 5, 9, 12, 7, 14, 11, 21, 24, 20, 25, 17, 27, 13, 28, 22, 6, 11, 18, 26,
      10, 5, 7, 16, 5, 7, 4],
      [76, 2, 1, 64, 66, 15, 0, 0, 0, 0, 0, 198, 7, 0, 0, 0, 0, 0, 0, 164, 66, 15, 0, 0, 0, 0, 0,
        3, 0, 0, 0, 0, 0, 0, 0, 1, 4, 5, 0, 255, 255, 114, 111, 117, 116, 101]⟩]
  lookups := [⟨table, [0, 1, 2, 3],
    [4, 6, 8, 9, 10, 11, 12, 13, 14, 15, 16, 18, 19, 20, 21, 22, 23, 24, 25, 26, 27]⟩]

def pda (seeds : List (List UInt8)) (key : Pubkey) : List (List UInt8) × Pubkey × Pubkey :=
  (seeds, swapper.args.programId, key)

def tokenAccount (mint program key : Pubkey) : List (List UInt8) × Pubkey × Pubkey :=
  ([swapper.addresses.vault.toList, program.toList, mint.toList], associatedTokenProgramId, key)

def feedAccount (shard : UInt16) (byte : UInt8) (key : Pubkey) :
    List (List UInt8) × Pubkey × Pubkey :=
  ([u16ToLe shard, (feed byte).feedId.toList], pythPushOracleId, key)

def platform : Platform := .ofTables [
    tokenAccount stagingMint tokenProgramId stagingAta,
    tokenAccount stagingMint token2022ProgramId stagingAta2022,
    tokenAccount swapper.args.mainMint tokenProgramId swapper.addresses.vaultMainAta,
    tokenAccount swapper.args.mainMint token2022ProgramId mainAta2022,
    tokenAccount swapper.args.secondMint tokenProgramId secondAtaLegacy,
    tokenAccount swapper.args.secondMint token2022ProgramId swapper.addresses.vaultSecondAta,
    tokenAccount swapper.args.shareMint tokenProgramId shareAta,
    ([swapper.addresses.managerStakeAuthority.toList, tokenProgramId.toList,
      swapper.args.shareMint.toList], associatedTokenProgramId,
      swapper.addresses.managerStakeAta),
    pda [ascii "vault", swapper.args.vaultId.toList] swapper.addresses.vault,
    pda [ascii "vault_policy", swapper.addresses.vault.toList] swapper.addresses.policy,
    pda [ascii "vault_delegate", swapper.addresses.vault.toList,
      swapper.args.delegateAuthority.toList] swapper.addresses.delegate,
    pda [ascii "manager_stake", swapper.addresses.vault.toList]
      swapper.addresses.managerStakeAuthority,
    pda [ascii "global_config"] swapper.addresses.globalConfig,
    pda [ascii "swap_venues"] swapper.addresses.swapVenues,
    pda [ascii "price_route", swapper.args.mainMint.toList] swapper.addresses.mainPriceRoute,
    pda [ascii "price_route", swapper.args.secondMint.toList] swapper.addresses.secondPriceRoute,
    pda [ascii "price_route", stagingMint.toList] stagingRoute,
    feedAccount 0 0x11 mainFeed0, feedAccount 1 0x11 mainFeed,
    feedAccount 0 0x22 secondFeed, feedAccount 1 0x22 secondFeed1,
    feedAccount 0 0x44 stagingFeed0, feedAccount 1 0x44 stagingFeed]
  [] [(text, served.encode)] []

def verified : VerifiedTransaction := ⟨served.encode, 1, 65, [swapper.args.actor]⟩

theorem accepted : verifyVaultSwap platform intent tables ⟨400000, 1000⟩ = .ok verified := by
  decide +kernel

end Recovery

theorem verifyVaultSwap_sound_recovery :
    verifyVaultSwap Recovery.platform Recovery.intent Recovery.tables ⟨400000, 1000⟩ =
      .ok Recovery.verified ∧
    ∃ run, SwapRun.Carries Recovery.platform Recovery.intent Recovery.tables ⟨400000, 1000⟩
      Recovery.verified run ∧ Recovery.intent.Terms Recovery.platform run.kind run.plan :=
  ⟨Recovery.accepted, verifyVaultSwap_sound Recovery.accepted⟩

end MakerSdk.Served
