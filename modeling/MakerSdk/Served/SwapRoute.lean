import MakerSdk.Served.SwapRun
import MakerSdk.Vault.SwapChain

namespace MakerSdk.Served

open Base Base.Bytes Base.Checks Base.Lists Solana Vault

/-- The token accounts that one owner holds for different mints are different. -/
def TokenAccountsDiffer (P : Platform) (owner : Pubkey) (mints : List Pubkey) : Prop :=
  ∀ mint ∈ mints, ∀ mint' ∈ mints, ∀ program ∈ [tokenProgramId, token2022ProgramId],
    ∀ program' ∈ [tokenProgramId, token2022ProgramId], mint ≠ mint' →
      deriveAssociatedTokenAddress P owner mint program ≠
        deriveAssociatedTokenAddress P owner mint' program'

instance (P : Platform) (owner : Pubkey) (mints : List Pubkey) :
    Decidable (TokenAccountsDiffer P owner mints) :=
  inferInstanceAs (Decidable (∀ _ ∈ _, _))

def PairPriceRoutes.mints (routes : PairPriceRoutes) : List Pubkey :=
  routes.main.mint :: routes.second.mint :: routes.staging.map PriceRoute.mint

def hopKeys (hop : VaultSwapHop) : List Pubkey :=
  hop.program :: hop.source :: hop.destination :: hop.accounts.map AccountMeta.pubkey

/-- The fixed accounts other than the pair and staging mints, the recovery tail and the
programs of the hops. -/
def fixedAccounts (P : Platform) (vault : VaultManager) (kind : VaultSwapKind)
    (hops : List VaultSwapHop) : List AccountMeta :=
  (vault.swapAccounts P kind).filter (fun account ↦
      ¬ (account.pubkey = vault.args.mainMint ∨ account.pubkey = vault.args.secondMint ∨
        some account.pubkey = stagingMint kind)) ++
    vault.swapTail kind ++ hops.map (fun hop ↦ .newReadonly hop.program false)

def Routed (hops : List VaultSwapHop) (key : Pubkey) : Prop :=
  key ∈ hops.dropLast.map VaultSwapHop.destination ∨
    ∃ hop ∈ hops, key ∈ hop.accounts.map AccountMeta.pubkey

structure RouteIsolated (P : Platform) (intent : VaultSwapIntent) (run : SwapRun)
    (input output : Pubkey) : Prop where
  legs : intent.vault.swapLegs P run.kind = .ok (input, output)
  count : 1 ≤ run.plan.hops.length ∧ run.plan.hops.length ≤ 4
  chained : Chained input output input run.plan.hops
  own : ∀ hop ∈ run.plan.hops, ∀ account ∈ hop.accounts,
    account.pubkey = input ∨ account.pubkey = output →
      account.pubkey = hop.source ∨ account.pubkey = hop.destination
  input_first : ∀ i hop, run.plan.hops[i]? = some hop → Touches hop input → i = 0
  output_last : ∀ i hop, run.plan.hops[i]? = some hop → Touches hop output →
    i + 1 = run.plan.hops.length
  untouched : ∀ hop ∈ run.plan.hops, ∀ key ∈ hopKeys hop, key ≠ intent.vault.args.actor ∧
    key ≠ intent.vault.args.shareMint ∧
    key ≠ deriveAssociatedTokenAddress P intent.vault.addresses.vault intent.vault.args.shareMint
      tokenProgramId
  readonly : ∀ fixed ∈ fixedAccounts P intent.vault run.kind run.plan.hops,
    fixed.isWritable = false → ∀ hop ∈ run.plan.hops, hop.source ≠ fixed.pubkey ∧
      hop.destination ≠ fixed.pubkey ∧ ∀ account ∈ hop.accounts,
        account.pubkey = fixed.pubkey → account.isWritable = false
  setups : ∀ setup ∈ run.setups,
    (∃ mint tokenProgram, mint ∉ [intent.vault.args.mainMint, intent.vault.args.secondMint,
        intent.vault.args.shareMint] ∧
      setup = createAtaIdempotent P intent.vault.args.actor intent.vault.addresses.vault mint
        tokenProgram ∧
      Routed run.plan.hops
        (deriveAssociatedTokenAddress P intent.vault.addresses.vault mint tokenProgram)) ∨
    ∃ program pool validators reserve fee mint tokenProgram, program ∈ stakePoolProgramIds ∧
      pool ∈ intent.priceRoutes.pools ∧
      setup = updateStakePoolBalance P program pool validators reserve fee mint tokenProgram
  once : (createdAtas run.setups).Nodup

section Hops

variable {data rest : List UInt8} {accounts tail : List AccountMeta} {hop : VaultSwapHop}

theorem splitAtChecked_ok {α : Type} {n : ℕ} {l : List α} {p : List α × List α} :
    splitAtChecked n l = .ok p ↔ n ≤ l.length ∧ p = (l.take n, l.drop n) := by
  rw [splitAtChecked]
  split_ifs with h <;> simp [h, eq_comm]

def Supplies (accounts : List AccountMeta) (hop : VaultSwapHop) : Prop :=
  (∀ key ∈ [hop.program, hop.source, hop.destination], ∃ account ∈ accounts,
    account.pubkey = key) ∧ ∀ account ∈ hop.accounts, account ∈ accounts

theorem servedHop_supplies (h : servedHop data accounts = .ok (hop, rest, tail)) :
    Supplies accounts hop ∧ ∀ account ∈ tail, account ∈ accounts := by
  unfold servedHop at h
  split at h
  · simp only [bind_ok, splitAtChecked_ok] at h
    obtain ⟨_, -, _, -, h⟩ := h
    split at h
    · simp only [bind_ok, splitAtChecked_ok, pure_ok, Prod.mk.injEq] at h
      obtain ⟨_, ⟨-, rfl⟩, rfl, -, rfl⟩ := h
      refine ⟨⟨by simp, ?_⟩, ?_⟩
      · intro account hmem
        have := List.mem_of_mem_take hmem
        simp [this]
      · intro account hmem
        have := List.mem_of_mem_drop hmem
        simp [this]
    · cases h
  · cases h

theorem servedHopsRest_supplies {count : ℕ} {hops : List VaultSwapHop}
    (h : servedHopsRest count data accounts = .ok (hops, rest, tail)) :
    ∀ hop ∈ hops, Supplies accounts hop := by
  induction count generalizing data accounts hops with
  | zero =>
    simp only [servedHopsRest, pure_ok, Prod.mk.injEq] at h
    simp [← h.1]
  | succ count ih =>
    simp only [servedHopsRest, bind_ok, pure_ok, Prod.mk.injEq] at h
    obtain ⟨⟨hop, data', accounts'⟩, hhop, ⟨hops', rest'⟩, hhops, rfl, rfl⟩ := h
    obtain ⟨hsupplies, hsub⟩ := servedHop_supplies hhop
    intro hop' hmem
    rcases List.mem_cons.mp hmem with rfl | hmem
    · exact hsupplies
    · obtain ⟨hkeys, haccounts⟩ := ih hhops hop' hmem
      refine ⟨fun key hkey ↦ ?_, fun account haccount ↦ hsub account (haccounts account haccount)⟩
      obtain ⟨account, haccount, he⟩ := hkeys key hkey
      exact ⟨account, hsub account haccount, he⟩

theorem servedHops_supplies {count : UInt8} {hops : List VaultSwapHop}
    (h : servedHops count data accounts = .ok hops) : ∀ hop ∈ hops, Supplies accounts hop := by
  simp only [servedHops, bind_ok, pure_ok] at h
  obtain ⟨⟨hops, rest, tail⟩, hread, rfl⟩ := h
  exact servedHopsRest_supplies hread

theorem Supplies.exists_key (h : Supplies accounts hop) {key : Pubkey} (hkey : key ∈ hopKeys hop) :
    ∃ account ∈ accounts, account.pubkey = key := by
  simp only [hopKeys, List.mem_cons, List.mem_map] at hkey
  rcases hkey with rfl | rfl | rfl | ⟨account, hmem, rfl⟩
  · exact h.1 _ (by simp)
  · exact h.1 _ (by simp)
  · exact h.1 _ (by simp)
  · exact ⟨account, h.2 account hmem, rfl⟩

end Hops

theorem requireRouteAtas_ok {hops : List VaultSwapHop} {created atas : List Pubkey} {u : Unit}
    (h : requireRouteAtas hops created atas = .ok u) :
    (∀ ata ∈ atas, Routed hops ata ∧ ata ∉ created) ∧ atas.Nodup := by
  induction atas generalizing created with
  | nil => simp
  | cons ata atas ih =>
    simp only [requireRouteAtas, bind_ok, refuse_ok, exists_const] at h
    obtain ⟨hrouted, hnew, hrest⟩ := h
    obtain ⟨hall, hnodup⟩ := ih hrest
    have hroute : Routed hops ata := by
      by_contra hnot
      rw [Routed, not_or] at hnot
      exact hrouted ⟨hnot.1, fun hop hmem hacc ↦ hnot.2 ⟨hop, hmem, hacc⟩⟩
    refine ⟨?_, List.nodup_cons.mpr ⟨fun hmem ↦ (hall ata hmem).2 (by simp), hnodup⟩⟩
    intro ata' hmem
    rcases List.mem_cons.mp hmem with rfl | hmem
    · exact ⟨hroute, hnew⟩
    · obtain ⟨hr, hn⟩ := hall ata' hmem
      exact ⟨hr, fun hc ↦ hn (List.mem_append_left _ hc)⟩

theorem createdAtas_setup (run : SwapRun) : createdAtas run.setup = createdAtas run.setups := by
  have hne : computeBudgetProgramId ≠ associatedTokenProgramId := by decide +kernel
  simp [createdAtas, SwapRun.setup, computeBudgetInstructions, budgetInstruction, hne]

theorem pinnedHops_encode (hops : List VaultSwapHop) :
    pinnedHops hops (hops.flatMap VaultSwapHop.encodeAccounts) =
      hops.flatMap (fun hop ↦ [.newReadonly hop.program false, .new hop.source false,
        .new hop.destination false]) := by
  induction hops with
  | nil => rfl
  | cons hop hops ih =>
    have hlen : hop.encodeAccounts.length = 3 + hop.accounts.length := by
      simp only [VaultSwapHop.encodeAccounts, List.length_cons, List.length_map]
      omega
    rw [List.flatMap_cons, pinnedHops, ← hlen, List.drop_left, ih, List.flatMap_cons]
    rfl

theorem mem_pinnedAccounts {P : Platform} {vault : VaultManager} {kind : VaultSwapKind}
    {plan : VaultSwapPlan} {account : AccountMeta}
    (h : account ∈ fixedAccounts P vault kind plan.hops) :
    account ∈ pinnedAccounts vault kind (recoveryTailLen kind) plan
      (vault.swapLayout P kind plan) := by
  have hfixed := @VaultManager.length_swapAccounts P vault kind
  have htail := @recoveryTailLen_eq vault kind
  have hposition : (vault.swapLayout P kind plan).accounts.drop
      (kind.fixedAccounts + plan.priceSection.length) =
        vault.swapTail kind ++ plan.hops.flatMap VaultSwapHop.encodeAccounts := by
    rw [VaultManager.swapLayout, ← hfixed, ← List.drop_drop, List.drop_left, List.drop_left]
  have htake : (vault.swapLayout P kind plan).accounts.take kind.fixedAccounts =
      vault.swapAccounts P kind := by
    rw [VaultManager.swapLayout, ← hfixed, List.take_left]
  have hhops : (vault.swapLayout P kind plan).accounts.drop
      (kind.fixedAccounts + plan.priceSection.length + recoveryTailLen kind) =
        plan.hops.flatMap VaultSwapHop.encodeAccounts := by
    rw [← List.drop_drop, hposition, htail, List.drop_left]
  rw [pinnedAccounts, hposition, hhops, htake, htail, List.take_left, pinnedHops_encode]
  rw [fixedAccounts] at h
  rcases List.mem_append.mp h with h | h
  · exact List.mem_append_left _ h
  · obtain ⟨hop, hhop, rfl⟩ := List.mem_map.mp h
    exact List.mem_append_right _ (List.mem_flatMap.mpr ⟨hop, hhop, List.mem_cons_self⟩)

theorem legAta_eq {P : Platform} {vault : VaultManager} (h : vault.Built P) (leg : VaultLeg) :
    vault.legAta leg = deriveAssociatedTokenAddress P vault.addresses.vault (vault.legMint leg)
      (vault.legTokenProgram leg) := by
  have haddresses := h.addresses_eq
  cases leg <;> rw [VaultManager.legAta, haddresses] <;> rfl

section Legs

variable {P : Platform} {intent : VaultSwapIntent} {kind : VaultSwapKind} {plan : VaultSwapPlan}

theorem legMint_mem (h : intent.Terms P kind plan) (leg : VaultLeg) :
    intent.vault.legMint leg ∈ intent.priceRoutes.mints := by
  cases leg <;>
    simp [VaultManager.legMint, PairPriceRoutes.mints, ← h.routes.1, ← h.routes.2]

theorem legTokenProgram_mem (h : intent.vault.Built P) (leg : VaultLeg) :
    intent.vault.legTokenProgram leg ∈ [tokenProgramId, token2022ProgramId] := by
  have hprograms := h.token_programs
  cases leg
  · simpa [VaultManager.legTokenProgram] using hprograms.1
  · simpa [VaultManager.legTokenProgram] using hprograms.2

theorem legAta_ne_vaultAta (hbuilt : intent.vault.Built P) (hterms : intent.Terms P kind plan)
    (hdiffer : TokenAccountsDiffer P intent.vault.addresses.vault intent.priceRoutes.mints)
    {asset : VaultStagingAsset} (hroute : ∃ route ∈ intent.priceRoutes.staging,
      route.mint = asset.mint)
    (hmint : asset.mint ∉ [intent.vault.args.mainMint, intent.vault.args.secondMint,
      intent.vault.args.shareMint])
    (hprogram : asset.tokenProgram = tokenProgramId ∨ asset.tokenProgram = token2022ProgramId)
    (leg : VaultLeg) : intent.vault.legAta leg ≠ asset.vaultAta P intent.vault.addresses.vault := by
  rw [legAta_eq hbuilt]
  refine hdiffer _ (legMint_mem hterms leg) _ ?_ _ (legTokenProgram_mem hbuilt leg) _
    (by simpa using hprogram) ?_
  · obtain ⟨route, hmem, he⟩ := hroute
    rw [PairPriceRoutes.mints, ← he]
    exact List.mem_cons_of_mem _ (List.mem_cons_of_mem _ (List.mem_map_of_mem hmem))
  · simp only [List.mem_cons, List.not_mem_nil, or_false, not_or] at hmint
    cases leg
    · exact Ne.symm hmint.1
    · exact Ne.symm hmint.2.1

theorem legAta_main_ne_second (hbuilt : intent.vault.Built P) (hterms : intent.Terms P kind plan)
    (hdiffer : TokenAccountsDiffer P intent.vault.addresses.vault intent.priceRoutes.mints) :
    intent.vault.legAta .main ≠ intent.vault.legAta .second := by
  rw [legAta_eq hbuilt, legAta_eq hbuilt]
  exact hdiffer _ (legMint_mem hterms .main) _ (legMint_mem hterms .second) _
    (legTokenProgram_mem hbuilt .main) _ (legTokenProgram_mem hbuilt .second) hbuilt.mints_ne.1

theorem swapLegs_ne (hbuilt : intent.vault.Built P) (hterms : intent.Terms P kind plan)
    (hdiffer : TokenAccountsDiffer P intent.vault.addresses.vault intent.priceRoutes.mints)
    {input output : Pubkey} (hlegs : intent.vault.swapLegs P kind = .ok (input, output)) :
    input ≠ output := by
  have hpair := legAta_main_ne_second hbuilt hterms hdiffer
  have hpriced := hterms.priced
  cases kind with
  | rebalance secondToMain =>
    cases secondToMain <;> cases hlegs
    · exact hpair
    · exact hpair.symm
  | recovery =>
    cases hlegs
    exact hpair.symm
  | closing =>
    cases hlegs
    exact hpair.symm
  | recoveryStage asset generation mainPriceSection =>
    obtain ⟨route, hmem, he, -⟩ := hpriced
    rw [VaultManager.swapLegs] at hlegs
    obtain ⟨⟨hmint, hprogram⟩, heq⟩ := VaultManager.stagingLegs_ok.mp hlegs
    cases heq
    exact legAta_ne_vaultAta hbuilt hterms hdiffer ⟨route, hmem, he⟩ hmint hprogram .second
  | staging step leg asset generation =>
    obtain ⟨route, hmem, he, -⟩ := hpriced
    obtain ⟨⟨hmint, hprogram⟩, heq⟩ := VaultManager.stagingLegs_ok.mp hlegs
    have hne := legAta_ne_vaultAta hbuilt hterms hdiffer ⟨route, hmem, he⟩ hmint hprogram leg
    cases step <;> cases heq
    · exact hne
    · exact hne.symm

end Legs

theorem SwapRun.Carries.writable {P : Platform} {intent : VaultSwapIntent}
    {tables : List AddressLookupTableAccount} {bounds : ComputeBudgetBounds}
    {transaction : VerifiedTransaction} {run : SwapRun}
    (h : SwapRun.Carries P intent tables bounds transaction run) {account asked : AccountMeta}
    (hserved : account ∈ run.served.accounts) (hasked : asked ∈ run.instruction.accounts)
    (he : asked.pubkey = account.pubkey) (hw : asked.isWritable = true) :
    account.isWritable = true := by
  obtain ⟨c, -, hresolves⟩ := h.served
  obtain ⟨i, -, hi⟩ := exists_of_forall₂ hresolves.accounts hserved
  have hflags : (⟨account.isSigner, account.isWritable⟩ : Flags) =
      unionFlags intent.vault.args.actor run.expected account.pubkey :=
    h.flags _ (List.mem_of_getElem? hi)
  have hunion :
      (unionFlags intent.vault.args.actor run.expected account.pubkey).writable = true := by
    rw [unionFlags, decide_eq_true_eq]
    exact .inr ⟨run.instruction, List.mem_append_right _ (List.mem_singleton_self _), asked, hasked,
      he, hw⟩
  rw [← hflags] at hunion
  exact hunion

/-- Swap verification isolates the route, where the vault's token accounts of different mints
are different. -/
theorem verifyVaultSwap_isolates {P : Platform} {intent : VaultSwapIntent}
    {tables : List AddressLookupTableAccount} {bounds : ComputeBudgetBounds}
    {transaction : VerifiedTransaction} (hbuilt : intent.vault.Built P)
    (hdiffer : TokenAccountsDiffer P intent.vault.addresses.vault intent.priceRoutes.mints)
    (h : verifyVaultSwap P intent tables bounds = .ok transaction) :
    ∃ run input output, SwapRun.Carries P intent tables bounds transaction run ∧
      RouteIsolated P intent run input output := by
  obtain ⟨run, hopAccounts, hcarries, hterms, hchecked⟩ := verifyVaultSwap_run h
  obtain ⟨⟨input, output, hlegs, hvalid⟩, -, hlayout⟩ := VaultManager.swap_ok.mp hcarries.built
  have hne := swapLegs_ne hbuilt hterms hdiffer hlegs
  obtain ⟨count, data, hread⟩ := hchecked.read
  have hsupplies := servedHops_supplies hread
  obtain ⟨hrouted, honce⟩ := requireRouteAtas_ok hchecked.atas
  rw [createdAtas_setup] at hrouted honce
  refine ⟨run, input, output, hcarries, {
    legs := hlegs
    count := ⟨List.length_pos_of_ne_nil hvalid.count.1, hvalid.count.2⟩
    chained := hvalid.hops.chained hvalid.count.1
    own := hvalid.hops.own
    input_first := fun i hop hi ht ↦ hvalid.hops.input_first hne hi ht
    output_last := fun i hop hi ht ↦ hvalid.hops.output_last hne hi ht
    untouched := ?_
    readonly := ?_
    setups := ?_
    once := honce }⟩
  · intro hop hhop key hkey
    obtain ⟨account, hmem, rfl⟩ := (hsupplies hop hhop).exists_key hkey
    exact ⟨hchecked.payer account hmem, hchecked.share account hmem⟩
  · intro fixed hfixed hro hop hhop
    have hpinned := mem_pinnedAccounts hfixed
    rw [hlayout] at hpinned
    have hwritable : ∀ account ∈ hopAccounts, account.pubkey = fixed.pubkey →
        account.isWritable = false := by
      intro account hmem he
      by_contra hnot
      have := hchecked.pinned account hmem (Bool.not_eq_false _ ▸ hnot) fixed hpinned he.symm
      rw [hro] at this
      cases this
    have hsource : ∀ key, AccountMeta.new key false ∈ hop.encodeAccounts →
        key ∈ hopKeys hop → key ≠ fixed.pubkey := by
      intro key hmeta hkey he
      obtain ⟨account, hmem, hpub⟩ := (hsupplies hop hhop).exists_key hkey
      have hasked : AccountMeta.new key false ∈ run.instruction.accounts := by
        rw [← hlayout]
        simp only [VaultManager.swapLayout, List.mem_append, List.mem_flatMap]
        exact .inr (.inr (.inr ⟨hop, hhop, hmeta⟩))
      have hw := hcarries.writable (hchecked.served account hmem) hasked hpub.symm rfl
      rw [hwritable account hmem (hpub.trans he)] at hw
      cases hw
    refine ⟨hsource _ (by simp [VaultSwapHop.encodeAccounts]) (by simp [hopKeys]),
      hsource _ (by simp [VaultSwapHop.encodeAccounts]) (by simp [hopKeys]), ?_⟩
    intro account hmem he
    exact hwritable account ((hsupplies hop hhop).2 account hmem) he
  · intro setup hmem
    cases (hcarries.setups setup hmem).1 with
    | create mint tokenProgram hmint hprogram =>
      refine .inl ⟨mint, tokenProgram, hmint, rfl, (hrouted _ ?_).1⟩
      exact List.mem_filterMap.mpr
        ⟨_, List.mem_filter.mpr ⟨hmem, by simp [createAtaIdempotent]⟩, rfl⟩
    | update program pool validators reserve fee mint tokenProgram hstake hpool =>
      exact .inr ⟨program, pool, validators, reserve, fee, mint, tokenProgram, hstake, hpool, rfl⟩

theorem verifyVaultSwap_isolates_recovery :
    TokenAccountsDiffer Recovery.platform Recovery.swapper.addresses.vault
      Recovery.routes.mints ∧
    ∃ run input output, SwapRun.Carries Recovery.platform Recovery.intent Recovery.tables
      ⟨400000, 1000⟩ Recovery.verified run ∧
        RouteIsolated Recovery.platform Recovery.intent run input output := by
  have hdiffer : TokenAccountsDiffer Recovery.platform Recovery.swapper.addresses.vault
      Recovery.routes.mints := by decide +kernel
  have hbuilt :
      VaultManager.new Recovery.platform Recovery.swapper.args = .ok Recovery.swapper := by
    decide +kernel
  exact ⟨hdiffer, verifyVaultSwap_isolates hbuilt hdiffer Recovery.accepted⟩

/-- The legs whose custody a kind names: both, or the one that a staging half leaves or enters. -/
def Names : VaultSwapKind → VaultLeg → Prop
  | .staging _ named _ _, leg => leg = named
  | .recoveryStage .., leg => leg = .second
  | _, _ => True

/-- The hops isolate the legs that the kind names. A leg it does not name is isolated only
where no hop touches it. -/
structure LegsIsolated (P : Platform) (manager : VaultManager) (kind : VaultSwapKind)
    (plan : VaultSwapPlan) : Prop where
  named : ∀ leg, Names kind leg → LegIsolated plan.hops (manager.legAta leg)
  other : ∀ leg input output, manager.swapLegs P kind = .ok (input, output) →
    manager.legAta leg ≠ input → manager.legAta leg ≠ output →
      (LegIsolated plan.hops (manager.legAta leg) ↔
        ∀ hop ∈ plan.hops, ¬ Touches hop (manager.legAta leg))

theorem named_leg {P : Platform} {manager : VaultManager} {kind : VaultSwapKind}
    {input output : Pubkey} (hlegs : manager.swapLegs P kind = .ok (input, output)) {leg : VaultLeg}
    (hnames : Names kind leg) : manager.legAta leg = input ∨ manager.legAta leg = output := by
  cases kind with
  | rebalance secondToMain =>
    cases secondToMain <;> cases hlegs <;> cases leg <;> simp
  | recovery => cases hlegs; cases leg <;> simp
  | closing => cases hlegs; cases leg <;> simp
  | recoveryStage asset generation mainPriceSection =>
    obtain rfl : leg = .second := hnames
    rw [VaultManager.swapLegs] at hlegs
    cases (VaultManager.stagingLegs_ok.mp hlegs).2
    exact .inl rfl
  | staging step named asset generation =>
    obtain rfl : leg = named := hnames
    have heq := (VaultManager.stagingLegs_ok.mp hlegs).2
    cases step <;> cases heq
    · exact .inl rfl
    · exact .inr rfl

theorem legsIsolated_of_swap {P : Platform} {manager : VaultManager} {kind : VaultSwapKind}
    {plan : VaultSwapPlan} {ix : Instruction} (h : manager.swap P kind plan = .ok ix) :
    LegsIsolated P manager kind plan := by
  obtain ⟨⟨input, output, hlegs, hvalid⟩, -, -⟩ := VaultManager.swap_ok.mp h
  refine ⟨fun leg hnames ↦ hvalid.hops.isolated (named_leg hlegs hnames), ?_⟩
  intro leg input' output' hlegs' hin hout
  obtain ⟨rfl, rfl⟩ := Prod.mk.inj (Except.ok.inj (hlegs.symm.trans hlegs'))
  exact hvalid.hops.isolated_iff hin hout

/-- The legs a swap kind names are isolated in every plan that the builder or the verifier
accepts. -/
theorem swap_isolates_named_legs (P : Platform) (manager : VaultManager) :
    (∀ kind plan ix, manager.swap P kind plan = .ok ix → LegsIsolated P manager kind plan) ∧
    ∀ (intent : VaultSwapIntent) tables bounds transaction, intent.vault = manager →
      verifyVaultSwap P intent tables bounds = .ok transaction →
        ∃ run, SwapRun.Carries P intent tables bounds transaction run ∧
          LegsIsolated P manager run.kind run.plan := by
  refine ⟨fun kind plan ix h ↦ legsIsolated_of_swap h, ?_⟩
  intro intent tables bounds transaction rfl h
  obtain ⟨run, -, hcarries, -⟩ := verifyVaultSwap_run h
  exact ⟨run, hcarries, legsIsolated_of_swap hcarries.built⟩

theorem swap_isolates_named_legs_recovery :
    (Recovery.swapper.swap Recovery.platform Recovery.kind Recovery.plan).isOk = true ∧
      LegsIsolated Recovery.platform Recovery.swapper Recovery.kind Recovery.plan ∧
    ∃ run, SwapRun.Carries Recovery.platform Recovery.intent Recovery.tables ⟨400000, 1000⟩
      Recovery.verified run ∧
        LegsIsolated Recovery.platform Recovery.swapper run.kind run.plan := by
  have h : Recovery.swapper.swap Recovery.platform Recovery.kind Recovery.plan =
      .ok (Recovery.swapper.swapLayout Recovery.platform Recovery.kind Recovery.plan) := by
    decide +kernel
  obtain ⟨hswap, hverify⟩ := swap_isolates_named_legs Recovery.platform Recovery.swapper
  exact ⟨by rw [h]; rfl, hswap _ _ _ h, hverify _ _ _ _ rfl Recovery.accepted⟩

namespace Recovery

def scratchPlan : VaultSwapPlan :=
  { plan with hops := plan.hops.map (fun hop ↦ { hop with
      accounts := hop.accounts ++ [.new swapper.addresses.vaultMainAta false] }) }

def transitPlan : VaultSwapPlan :=
  { plan with hops := [
      { program := venue
        source := swapper.addresses.vaultSecondAta
        destination := swapper.addresses.vaultMainAta
        accounts := [.new swapper.addresses.vaultSecondAta false,
          .new swapper.addresses.vaultMainAta false, .new swapper.addresses.vault false]
        data := ascii "route"
        amountOffset := none },
      { program := venue
        source := swapper.addresses.vaultMainAta
        destination := stagingAta
        accounts := [.new swapper.addresses.vaultMainAta false, .new stagingAta false,
          .new swapper.addresses.vault false]
        data := ascii "route"
        amountOffset := none }] }

end Recovery

/-- A stage of the second leg passes the main leg to a hop, as a scratch account or as the
account between two hops. -/
theorem swap_passes_other_leg :
    ((Recovery.swapper.swap Recovery.platform Recovery.kind Recovery.scratchPlan).isOk = true ∧
      ¬ LegIsolated Recovery.scratchPlan.hops Recovery.swapper.addresses.vaultMainAta) ∧
    (Recovery.swapper.swap Recovery.platform (.staging .stage .second Recovery.asset 3)
        Recovery.transitPlan).isOk = true ∧
      ¬ LegIsolated Recovery.transitPlan.hops Recovery.swapper.addresses.vaultMainAta := by
  refine ⟨⟨by decide +kernel, fun hiso ↦ ?_⟩, by decide +kernel, fun hiso ↦ ?_⟩
  · have h := hiso.accounts _ List.mem_cons_self (by decide +kernel)
    revert h
    decide +kernel
  · have h := hiso.destination 0 _ rfl rfl
    cases h

end MakerSdk.Served
