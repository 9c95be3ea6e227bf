import MakerSdk.Served.Swap

namespace MakerSdk.Served

open Base Base.Bytes Base.Checks Base.Lists Solana Vault

inductive Setup (P : Platform) (intent : VaultSwapIntent) : Instruction → Prop
  | create (mint tokenProgram : Pubkey)
      (hmint : mint ∉ [intent.vault.args.mainMint, intent.vault.args.secondMint,
        intent.vault.args.shareMint])
      (hprogram : tokenProgram = tokenProgramId ∨ tokenProgram = token2022ProgramId) :
      Setup P intent (createAtaIdempotent P intent.vault.args.actor intent.vault.addresses.vault
        mint tokenProgram)
  | update (program pool validators reserve fee mint tokenProgram : Pubkey)
      (hstake : program ∈ stakePoolProgramIds) (hpool : pool ∈ intent.priceRoutes.pools)
      (hprogram : tokenProgram = tokenProgramId ∨ tokenProgram = token2022ProgramId) :
      Setup P intent
        (updateStakePoolBalance P program pool validators reserve fee mint tokenProgram)

def Prices (P : Platform) (shards : List UInt16) : List PricedLeg → List AccountMeta → Prop
  | [], accounts => accounts = []
  | leg :: legs, accounts => ∃ shard ∈ shards, ∃ rest,
      accounts = leg.route.accounts P leg.address shard ++ rest ∧ Prices P shards legs rest

namespace VaultSwapIntent

variable (P : Platform) (intent : VaultSwapIntent)

def leg : VaultLeg → PricedLeg
  | .main => intent.mainLeg
  | .second => intent.secondLeg

inductive Answers : VaultSwapKind → Prop
  | whole {kind : VaultSwapKind} (hstaging : intent.quote.staging = none)
      (hkind : requestedKind intent.request.mode intent.request.direction = .ok kind) :
      Answers kind
  | stage {requested : VaultSwapKind} {asset : VaultStagingAsset} {generation : UInt64}
      (hstaging : intent.quote.staging = some .stage)
      (hkind : requestedKind intent.request.mode intent.request.direction = .ok requested)
      (hmode : intent.request.mode ≠ .recovery) (hslot : intent.account.staging.openSlot = none)
      (hgeneration : generation.toNat = intent.account.staging.generation.toNat + 1) :
      Answers (.staging .stage (stagingLeg .stage intent.request.direction) asset generation)
  | recoveryStage {asset : VaultStagingAsset} {generation : UInt64}
      {mainPriceSection : List AccountMeta} (hstaging : intent.quote.staging = some .stage)
      (hmode : intent.request.mode = .recovery)
      (hdirection : intent.request.direction = .secondToMain)
      (hslot : intent.account.staging.openSlot = none)
      (hgeneration : generation.toNat = intent.account.staging.generation.toNat + 1) :
      Answers (.recoveryStage asset generation mainPriceSection)
  | unstage {requested : VaultSwapKind} {asset : VaultStagingAsset} {staged : VaultStagedSlot}
      (hstaging : intent.quote.staging = some .unstage)
      (hkind : requestedKind intent.request.mode intent.request.direction = .ok requested)
      (hslot : intent.account.staging.openSlot = some staged) (hmint : staged.mint = asset.mint) :
      Answers (.staging .unstage (stagingLeg .unstage intent.request.direction) asset
        intent.account.staging.generation)

def Priced (plan : VaultSwapPlan) : VaultSwapKind → Prop
  | .staging _ leg asset _ => ∃ route ∈ intent.priceRoutes.staging, route.mint = asset.mint ∧
      Prices P intent.priceRoutes.shards [intent.leg leg, intent.stagingPricedLeg P route]
        plan.priceSection
  | .recoveryStage asset _ mainPriceSection => ∃ route ∈ intent.priceRoutes.staging,
      route.mint = asset.mint ∧
      Prices P intent.priceRoutes.shards [intent.secondLeg, intent.stagingPricedLeg P route]
        plan.priceSection ∧
      Prices P intent.priceRoutes.shards [intent.mainLeg] mainPriceSection
  | _ => Prices P intent.priceRoutes.shards [intent.mainLeg, intent.secondLeg] plan.priceSection

structure Terms (kind : VaultSwapKind) (plan : VaultSwapPlan) : Prop where
  current : intent.vault.Current intent.account
  vault : intent.request.vaultPda = intent.vault.addresses.vault
  request : intent.quote.requestId = intent.request.requestId ∧
    intent.quote.mode = intent.request.mode
  amountIn : (intent.quote.staging ≠ some .unstage ∧
      parseAmount intent.request.amount "request amount" = .ok plan.amountIn) ∨
    intent.quote.staging = some .unstage ∧ ∃ staged,
      intent.account.staging.openSlot = some staged ∧ plan.amountIn = staged.amount
  minimumOut_ne_zero : plan.minimumOut ≠ 0
  slippage : ∃ quotedOut, parseAmount intent.quote.quotedOutAmount "quoted output" = .ok quotedOut ∧
    intent.request.slippageBps.toNat ≤ 10000 ∧
    quotedOut.toNat * (10000 - intent.request.slippageBps.toNat) / 10000 ≤ plan.minimumOut.toNat
  floor : intent.quote.staging ≠ some .stage → intent.minOutputFloor ≤ plan.minimumOut
  quoted : parseAmount intent.quote.inAmount "quoted input" = .ok plan.amountIn ∧
    parseAmount intent.quote.minimumOutAmount "minimum output" = .ok plan.minimumOut ∧
    parseAmount intent.quote.validUntil "valid_until" = .ok plan.validUntil
  answers : intent.Answers kind
  routes : intent.priceRoutes.main.mint = intent.vault.args.mainMint ∧
    intent.priceRoutes.second.mint = intent.vault.args.secondMint
  priced : intent.Priced P plan kind

end VaultSwapIntent

section Steps

variable {P : Platform} {intent : VaultSwapIntent}

theorem setupTokenProgram_ok {setup : Instruction} {position : ℕ} {program : Pubkey}
    (h : setupTokenProgram setup position = .ok program) :
    program = tokenProgramId ∨ program = token2022ProgramId := by
  simp only [setupTokenProgram, bind_ok, refuse_ok, exists_const, pure_ok] at h
  obtain ⟨program, -, hprogram, rfl⟩ := h
  by_contra hnot
  exact hprogram (not_or.mp hnot)

theorem swapSetup_ok {setup ix : Instruction} (h : swapSetup P intent.vault intent.priceRoutes
    intent.vault.args.actor setup = .ok ix) :
    Setup P intent ix ∧ ix.programId = setup.programId := by
  rw [swapSetup] at h
  split at h
  · rename_i hprogram
    simp only [bind_ok, refuse_ok, exists_const, pure_ok] at h
    obtain ⟨mint, -, hmint, tokenProgram, htoken, rfl⟩ := h
    exact ⟨.create mint tokenProgram hmint (setupTokenProgram_ok htoken), hprogram.symm⟩
  · simp only [bind_ok, refuse_ok, exists_const, pure_ok, not_not] at h
    obtain ⟨hstake, pool, -, hpool, validators, -, reserve, -, fee, -, mint, -, tokenProgram,
      htoken, rfl⟩ := h
    exact ⟨.update _ pool validators reserve fee mint tokenProgram hstake hpool
      (setupTokenProgram_ok htoken), rfl⟩

theorem swapSetups_ok {ixs setups : List Instruction} (h : swapSetups P intent.vault
    intent.priceRoutes intent.vault.args.actor ixs = .ok setups) :
    ∀ setup ∈ setups, Setup P intent setup ∧
      setup.programId ≠ intent.vault.args.programId := by
  induction ixs generalizing setups with
  | nil =>
    obtain rfl := pure_ok.mp h
    simp
  | cons ix ixs ih =>
    rw [swapSetups] at h
    split at h
    · rename_i hprogram
      simp only [bind_ok, pure_ok] at h
      obtain ⟨setup, hsetup, rest, hrest, rfl⟩ := h
      intro setup' hmem
      rcases List.mem_cons.mp hmem with rfl | hmem
      · obtain ⟨hok, he⟩ := swapSetup_ok hsetup
        exact ⟨hok, he ▸ hprogram⟩
      · exact ih hrest setup' hmem
    · obtain rfl := pure_ok.mp h
      simp

variable {legs : List PricedLeg}

theorem servedPriceSection_ok {shards : List UInt16} {served accounts : List AccountMeta}
    (h : servedPriceSection P shards legs served = .ok accounts) :
    Prices P shards legs accounts := by
  induction legs generalizing served accounts with
  | nil => exact (pure_ok.mp h).symm
  | cons leg legs ih =>
    simp only [servedPriceSection, bind_ok, okOr_ok, pure_ok] at h
    obtain ⟨found, hfound, rest, hrest, rfl⟩ := h
    obtain ⟨shard, hshard, rfl⟩ := List.mem_map.mp (List.mem_of_find?_eq_some hfound)
    exact ⟨shard, hshard, rest, rfl, ih hrest⟩

theorem requireOutput_ok {quotedOut minimumOut : UInt64} {u : Unit} :
    intent.requireOutput quotedOut minimumOut = .ok u ↔
      (intent.request.slippageBps.toNat ≤ 10000 ∧ quotedOut ≠ 0 ∧ minimumOut ≠ 0 ∧
        quotedOut.toNat * (10000 - intent.request.slippageBps.toNat) / 10000 ≤
          minimumOut.toNat) ∧
      (intent.quote.staging ≠ some .stage → intent.minOutputFloor ≤ minimumOut) := by
  simp [VaultSwapIntent.requireOutput, bps]

theorem requireInput_ok {amountIn : UInt64} {u : Unit}
    (h : intent.requireInput amountIn = .ok u) :
    (intent.quote.staging ≠ some .unstage ∧
      parseAmount intent.request.amount "request amount" = .ok amountIn ∧
      (intent.quote.staging = some .stage → intent.account.staging.openSlot = none)) ∨
    intent.quote.staging = some .unstage ∧ ∃ staged,
      intent.account.staging.openSlot = some staged ∧ amountIn = staged.amount := by
  unfold VaultSwapIntent.requireInput at h
  cases hstep : intent.quote.staging with
  | none =>
    simp only [hstep, bind_ok, refuse_ok, ne_eq, not_not] at h
    obtain ⟨requested, hrequested, rfl⟩ := h
    exact .inl ⟨by simp, hrequested, by simp⟩
  | some step =>
    cases step with
    | unstage =>
      cases hslot : intent.account.staging.openSlot with
      | none => simp [hstep, hslot] at h
      | some staged =>
        simp only [hstep, hslot, refuse_ok, ne_eq, not_not] at h
        exact .inr ⟨rfl, staged, rfl, h⟩
    | stage =>
      cases hslot : intent.account.staging.openSlot with
      | some staged => simp [hstep, hslot] at h
      | none =>
        simp only [hstep, hslot, bind_ok, refuse_ok, ne_eq, not_not] at h
        obtain ⟨requested, hrequested, rfl⟩ := h
        exact .inl ⟨by simp, hrequested, by simp⟩

theorem expectedGeneration_ok {step : VaultStagingStep} {mint : Pubkey} {generation : UInt64}
    (h : intent.expectedGeneration step mint = .ok (some generation)) :
    (step = .stage → generation.toNat = intent.account.staging.generation.toNat + 1) ∧
    (step = .unstage → generation = intent.account.staging.generation ∧
      ∀ staged ∈ intent.account.staging.openSlot, staged.mint = mint) := by
  unfold VaultSwapIntent.expectedGeneration at h
  cases step with
  | stage =>
    refine ⟨fun _ ↦ ?_, by simp⟩
    simp only [pure_ok] at h
    split at h
    · rename_i hlt
      obtain rfl := Option.some.inj h
      rw [UInt64.toNat_add, UInt64.toNat_one, Nat.mod_eq_of_lt hlt]
    · cases h
  | unstage =>
    refine ⟨by simp, fun _ ↦ ?_⟩
    cases hslot : intent.account.staging.openSlot with
    | none =>
      simp only [hslot, pure_ok, Option.some.injEq] at h
      exact ⟨h.symm, by simp⟩
    | some staged =>
      simp only [hslot, bind_ok, refuse_ok, exists_const, pure_ok, ne_eq, not_not,
        Option.some.injEq] at h
      refine ⟨h.2.symm, ?_⟩
      intro staged' hmem
      obtain rfl := Option.some.inj hmem
      exact h.1

theorem pricedKind_ok {requested kind : VaultSwapKind} {swap : Instruction}
    (h : intent.pricedKind P requested swap = .ok (kind, legs)) :
    (intent.quote.staging = none ∧ kind = requested ∧
      legs = [intent.mainLeg, intent.secondLeg]) ∨
    ∃ step asset generation, ∃ route ∈ intent.priceRoutes.staging,
      intent.quote.staging = some step ∧ route.mint = asset.mint ∧
      kind = .staging step (stagingLeg step intent.request.direction) asset generation ∧
      legs = [intent.leg (stagingLeg step intent.request.direction),
        intent.stagingPricedLeg P route] ∧
      intent.expectedGeneration step asset.mint = .ok (some generation) := by
  unfold VaultSwapIntent.pricedKind at h
  cases hstep : intent.quote.staging with
  | none =>
    simp only [hstep, pure_ok, Prod.mk.injEq] at h
    exact .inl ⟨rfl, h.1.symm, h.2.symm⟩
  | some step =>
    simp only [hstep, bind_ok, okOr_ok, pure_ok, Prod.mk.injEq] at h
    obtain ⟨mint, -, tokenProgram, -, route, hroute, expected, hexpected, generation, hgeneration,
      rfl, rfl⟩ := h
    obtain ⟨rfl, -⟩ := Option.filter_eq_some_iff.mp hgeneration
    refine .inr ⟨step, ⟨mint, tokenProgram⟩, generation, route,
      List.mem_of_find?_eq_some hroute, rfl, by simpa using List.find?_some hroute, rfl, ?_,
      hexpected⟩
    cases stagingLeg step intent.request.direction <;> rfl

theorem recoveryKind_ok {kind swapKind : VaultSwapKind} {tailed : List AccountMeta} {tailLen : ℕ}
    (h : intent.recoveryKind P kind tailed = .ok (swapKind, tailLen)) :
    (swapKind = kind ∧ tailLen = 0 ∧ ∀ leg asset generation, intent.request.mode = .recovery →
      kind ≠ .staging .stage leg asset generation) ∨
    ∃ leg asset generation mainPriceSection, intent.request.mode = .recovery ∧
      kind = .staging .stage leg asset generation ∧
      swapKind = .recoveryStage asset generation mainPriceSection ∧
      tailLen = 2 + mainPriceSection.length ∧
      Prices P intent.priceRoutes.shards [intent.mainLeg] mainPriceSection := by
  unfold VaultSwapIntent.recoveryKind at h
  split at h
  · rename_i leg asset generation hmode
    simp only [bind_ok, refuse_ok, exists_const, pure_ok, Prod.mk.injEq] at h
    obtain ⟨-, mainPriceSection, hprices, rfl, rfl⟩ := h
    exact .inr ⟨leg, asset, generation, mainPriceSection, hmode, rfl, rfl, rfl,
      servedPriceSection_ok hprices⟩
  · rename_i hnot
    simp only [pure_ok, Prod.mk.injEq] at h
    exact .inl ⟨h.1.symm, h.2.symm, fun leg asset generation hmode hkind ↦
      hnot leg asset generation hmode hkind⟩

theorem requestedKind_plain {requested : VaultSwapKind} {mode : VaultSwapMode}
    {direction : VaultSwapDirection} (h : requestedKind mode direction = .ok requested) :
    stagingMint requested = none := by
  cases mode <;> cases direction <;> cases h <;> rfl

theorem swapKind_layout {requested kind swapKind : VaultSwapKind} {swap : Instruction}
    {tailed : List AccountMeta} {tailLen : ℕ}
    (hrequested : requestedKind intent.request.mode intent.request.direction = .ok requested)
    (hkind : intent.pricedKind P requested swap = .ok (kind, legs))
    (hrecovery : intent.recoveryKind P kind tailed = .ok (swapKind, tailLen)) :
    swapKind.fixedAccounts = kind.fixedAccounts ∧ swapKind.headerLen = kind.headerLen ∧
      recoveryTailLen swapKind = tailLen := by
  rcases recoveryKind_ok hrecovery with ⟨rfl, rfl, -⟩ | ⟨leg, asset, generation, main, -, rfl, rfl,
    rfl, -⟩
  · refine ⟨rfl, rfl, ?_⟩
    rcases pricedKind_ok hkind with ⟨-, rfl, -⟩ | ⟨step, asset, generation, route, -, -, -, rfl, -⟩
    · have hplain := requestedKind_plain hrequested
      cases swapKind <;> first | rfl | cases hplain
    · rfl
  · exact ⟨rfl, rfl, rfl⟩

theorem swapKind_ok {requested kind swapKind : VaultSwapKind} {swap : Instruction}
    {priced tailed : List AccountMeta} {tailLen : ℕ} {plan : VaultSwapPlan}
    (hrequested : requestedKind intent.request.mode intent.request.direction = .ok requested)
    (hinput : ∃ u, intent.requireInput plan.amountIn = .ok u)
    (hkind : intent.pricedKind P requested swap = .ok (kind, legs))
    (hprices : servedPriceSection P intent.priceRoutes.shards legs priced = .ok plan.priceSection)
    (hrecovery : intent.recoveryKind P kind tailed = .ok (swapKind, tailLen)) :
    intent.Answers swapKind ∧ intent.Priced P plan swapKind := by
  have hprices := servedPriceSection_ok hprices
  obtain ⟨u, hinput⟩ := hinput
  have hslot := requireInput_ok hinput
  rcases pricedKind_ok hkind with ⟨hnone, rfl, rfl⟩ | ⟨step, asset, generation, route, hroute,
    hstep, hmint, rfl, rfl, hgeneration⟩
  · rcases recoveryKind_ok hrecovery with ⟨rfl, -, -⟩ | ⟨leg, asset, generation, _, hmode, hk, -⟩
    · refine ⟨.whole hnone hrequested, ?_⟩
      revert hrequested
      rcases intent.request.mode <;> rcases intent.request.direction <;> intro hk <;>
        first | (cases hk; exact hprices) | cases hk
    · subst hk
      revert hrequested
      rcases intent.request.mode <;> rcases intent.request.direction <;> intro hk <;> cases hk
  · have hgen := expectedGeneration_ok hgeneration
    rcases recoveryKind_ok hrecovery with ⟨rfl, -, hnot⟩ | ⟨leg, asset', generation', main, hmode,
      hk, rfl, -, hmain⟩
    · refine ⟨?_, route, hroute, hmint, hprices⟩
      cases step with
      | stage =>
        refine .stage hstep hrequested (fun hmode ↦ hnot _ _ _ hmode rfl) ?_ (hgen.1 rfl)
        rcases hslot with ⟨-, -, hnone⟩ | ⟨hunstage, -⟩
        · exact hnone hstep
        · rw [hstep] at hunstage
          cases hunstage
      | unstage =>
        obtain ⟨rfl, hstaged⟩ := hgen.2 rfl
        rcases hslot with ⟨hne, -⟩ | ⟨-, staged, hstagedSlot, -⟩
        · exact absurd hstep hne
        · exact .unstage hstep hrequested hstagedSlot (hstaged staged hstagedSlot)
    · cases hk
      have hdirection : intent.request.direction = .secondToMain := by
        rw [hmode] at hrequested
        cases hd : intent.request.direction with
        | secondToMain => rfl
        | mainToSecond => rw [hd] at hrequested; cases hrequested
      rw [hdirection] at hprices
      refine ⟨?_, route, hroute, hmint, hprices, hmain⟩
      refine .recoveryStage hstep hmode hdirection ?_ (hgen.1 rfl)
      rcases hslot with ⟨-, -, hnone⟩ | ⟨hunstage, -⟩
      · exact hnone hstep
      · rw [hstep] at hunstage
        cases hunstage

end Steps

end MakerSdk.Served
