import MakerSdk.Routing.Router
import MakerSdk.Vault.Capital

namespace MakerSdk.Routing

open Base.Bytes Base.Checks Base.Words Solana Vault Venues

section Meaning

variable (P : Platform) (compiler : Compiler) {D : Doubles} (router : Router D) (intent : Intent)

/-- The hop calls the CLMM in the direction that buys PT. -/
def BuysPt (hop : VaultSwapHop) : Prop := hop.program = clmm ∧ hop.data[9]? = some 1

/-- PT may be bought: for a fresh buy before maturity, or to complete what left the main leg while
the vault still runs. -/
def Router.MayBuy : Prop :=
  match router.account.staging.openSlot with
  | none => intent.buying = true ∧ router.now < router.core.maturity
  | some slot => slot.fromLeg = .main ∧ router.now ≤ router.core.maturity ∧
      router.account.safety = .normal ∧ router.account.phase = .active ∧
      router.now < router.account.activeExpiry

def Router.Fits (tx : TxParts) : Prop :=
  ∃ message, compiler router.manager.args.actor tx.instructions tx.tables (.ofList 32 []) =
      some message ∧
    message.staticKeys.length +
      (message.lookups.map fun l ↦ l.writable.length + l.readonly.length).sum ≤ 64 ∧
    1 + 64 * message.requiredSigners.toNat + message.encodeMessage.length ≤ 1232

/-- The hop is the quote's own, as it stands or with its amount left to the swap. -/
def OwnHop (quote : Option Quote) (hop : VaultSwapHop) : Prop :=
  ∃ own ∈ quote, ∃ patch, own.patchedHop patch = .ok hop

/-- No hop but the quote's own buys PT that may not by what it calls, and none at all, the vault's
accounts being distinct, by where it pays to. -/
def Router.Guards (quote : Option Quote) (hops : List VaultSwapHop) : Prop :=
  ∀ hop ∈ hops, (BuysPt hop → router.MayBuy intent ∨ OwnHop quote hop) ∧
    (hop.destination = router.manager.addresses.vaultSecondAta →
      router.manager.addresses.vaultSecondAta ≠ router.manager.addresses.vaultMainAta →
      router.manager.addresses.vaultSecondAta ≠ router.asset.vaultAta P router.owner →
      router.MayBuy intent)

/-- Of the setup, what creates a token account is left out unless a hop uses that account. -/
def uses (hops : List VaultSwapHop) (ix : Instruction) : Bool :=
  ix.programId ≠ associatedTokenProgramId ∨ ∃ created ∈ ix.accounts[1]?, ∃ hop ∈ hops,
    ∃ account ∈ hop.accounts, account.pubkey = created.pubkey

/-- The transaction is the setup that the hops use and then a swap of this kind that spends this
amount for no less than this minimum, over guarded hops. -/
structure Router.Performs (quote : Option Quote) (tx : TxParts) (kind : VaultSwapKind)
    (amount minimum : UInt64) : Prop where
  kind_eq : tx.kind = kind
  swap : ∃ ix priceSection hops, router.pricesOf P kind = .ok priceSection ∧
    router.manager.swap P kind ⟨priceSection, amount, minimum, router.validUntil, hops⟩ = .ok ix ∧
    tx.instructions = router.setup.filter (uses hops) ++ [ix] ∧
    router.Guards P intent quote hops

end Meaning

section Hops

variable {P : Platform} {hop : VaultSwapHop}

theorem clmm_ne : clmm ≠ genericSy ∧ clmm ≠ Venues.core ∧ clmm ≠ jupiterProgram := by
  decide +kernel

theorem trade_buysPt {market : Market} {owner : Pubkey} {amount : UInt64} {buy patch : Bool}
    {table : List Pubkey} (h : market.trade P owner amount buy table patch = .ok hop)
    (hbuys : BuysPt hop) : buy = true := by
  simp only [Market.trade, bind_ok, pure_ok] at h
  obtain ⟨resolved, -, rfl⟩ := h
  have hflag : some buy.toUInt8 = some 1 := hbuys.2
  cases buy with
  | true => rfl
  | false => cases hflag

theorem syHop_not_buysPt {sy : GenericSy} {owner baseProgram : Pubkey} {amount : UInt64}
    {mint patch : Bool} (h : sy.hop P owner baseProgram amount mint patch = .ok hop) :
    ¬BuysPt hop := by
  exact fun hbuys ↦ clmm_ne.1 (hbuys.1.symm.trans (syHop_program h))

theorem merge_not_buysPt {vault : CoreVault} {owner : Pubkey} {amount now : UInt64}
    {table : List Pubkey} (h : vault.merge P owner amount now table = .ok hop) : ¬BuysPt hop := by
  simp only [CoreVault.merge, bind_ok, pure_ok, refuse_ok, exists_const] at h
  obtain ⟨-, resolved, -, rfl⟩ := h
  exact fun hbuys ↦ clmm_ne.2.1 hbuys.1.symm

theorem patchedHop_not_buysPt {quote : Quote} {patch : Bool} (hown : ¬BuysPt quote.hop)
    (h : quote.patchedHop patch = .ok hop) : ¬BuysPt hop := by
  cases patch with
  | false =>
    cases h
    exact hown
  | true =>
    simp only [Quote.patchedHop, if_true, bind_ok, refuse_ok, exists_const, pure_ok] at h
    obtain ⟨at', -, -, rfl⟩ := h
    exact hown

theorem answers_not_buysPt {quote : Quote} {patch : Bool} (h : quote.Answers)
    (hhop : quote.patchedHop patch = .ok hop) : ¬BuysPt hop :=
  patchedHop_not_buysPt (fun hbuys ↦ clmm_ne.2.2 (hbuys.1.symm.trans h.calls)) hhop

theorem needed_ok {hops : List VaultSwapHop} {ix : Instruction} {kept : Bool}
    (h : Router.needed hops ix = .ok kept) : kept = uses hops ix := by
  unfold Router.needed at h
  unfold uses
  split at h
  · rename_i hprogram
    cases h
    simp [hprogram]
  · rename_i hprogram
    rw [not_not] at hprogram
    split at h
    · rename_i hempty
      cases h
      simp_all
    · split at h
      · rename_i created hcreated
        cases h
        simp only [hprogram, hcreated, ne_eq, not_true_eq_false, Option.mem_def,
          Option.some.injEq, exists_eq_left', false_or]
        rw [Bool.eq_iff_iff]
        simp only [List.any_eq_true, decide_eq_true_eq]
      · cases h

end Hops

section Chain

variable {vault input output key : Pubkey} {hops : List VaultSwapHop}

theorem not_paid (h : HopsValid vault input output input 0 hops) (hne : key ≠ output)
    (hkey : key = input ∨ hops.length = 1) : ∀ hop ∈ hops, hop.destination ≠ key := by
  intro hop hmem hdestination
  obtain ⟨i, hi⟩ := List.mem_iff_getElem?.mp hmem
  have hlast : i + 1 = hops.length := by
    rcases hkey with hkey | hlength
    · exact h.destination_last (.inl hkey) hi hdestination
    · have hlt := (List.getElem?_eq_some_iff.mp hi).1
      omega
  exact hne (hdestination.symm.trans (h.last_destination hi hlast))

end Chain

namespace Router

variable {P : Platform} {compiler : Compiler} {D : Doubles} {router : Router D} {intent : Intent}

section Parts

variable {kind : VaultSwapKind} {amount minimum : UInt64} {hops : List VaultSwapHop}
  {quote : Option Quote} {tx : TxParts}

theorem parts_ok (h : router.parts P kind amount minimum hops quote = .ok tx) :
    tx.kind = kind ∧ ∃ ix priceSection, router.pricesOf P kind = .ok priceSection ∧
      router.manager.swap P kind ⟨priceSection, amount, minimum, router.validUntil, hops⟩ =
        .ok ix ∧ tx.instructions = router.setup.filter (uses hops) ++ [ix] := by
  simp only [parts, bind_ok, lift_ok, pure_ok] at h
  obtain ⟨-, -, setup, hsetup, section', hsection, ix, hix, tables, -, rfl⟩ := h
  have hkept := filterM_ok (fun _ _ ↦ needed_ok) hsetup
  exact ⟨rfl, ix, section', hsection, hix, by rw [hkept]⟩

theorem swapValid_of_parts (h : router.parts P kind amount minimum hops quote = .ok tx) :
    ∃ input output, router.manager.swapLegs P kind = .ok (input, output) ∧
      HopsValid router.owner input output input 0 hops := by
  obtain ⟨-, ix, section', -, hix, -⟩ := parts_ok h
  obtain ⟨⟨input, output, hlegs, hvalid⟩, -⟩ := VaultManager.swap_ok.mp hix
  exact ⟨input, output, hlegs, hvalid.hops⟩

theorem hopsValid_of_parts {input output : Pubkey}
    (h : router.parts P kind amount minimum hops quote = .ok tx)
    (hlegs : router.manager.swapLegs P kind = .ok (input, output)) :
    HopsValid router.owner input output input 0 hops := by
  obtain ⟨input', output', hlegs', hvalid⟩ := swapValid_of_parts h
  rw [hlegs, Except.ok.injEq, Prod.mk.injEq] at hlegs'
  obtain ⟨rfl, rfl⟩ := hlegs'
  exact hvalid

theorem stagingLegs_of_parts {leg : VaultLeg} {step : VaultStagingStep} {generation : UInt64} :
    router.parts P (router.stageKind leg step generation) amount minimum hops quote = .ok tx →
    router.manager.swapLegs P (router.stageKind leg step generation) = .ok (match step with
      | .stage => (router.manager.legAta leg, router.asset.vaultAta P router.owner)
      | .unstage => (router.asset.vaultAta P router.owner, router.manager.legAta leg)) := by
  intro h
  obtain ⟨input, output, hlegs, -⟩ := swapValid_of_parts h
  exact hlegs.trans (congrArg Except.ok (VaultManager.stagingLegs_ok.mp hlegs).2.symm)

theorem performs_of_parts (h : router.parts P kind amount minimum hops quote = .ok tx)
    (hguards : router.Guards P intent quote hops) :
    router.Performs P intent quote tx kind amount minimum := by
  obtain ⟨hkind, ix, section', hsection, hix, hinstructions⟩ := parts_ok h
  exact ⟨hkind, ix, section', hops, hsection, hix, hinstructions, hguards⟩

theorem fits_of_fit {fit : Fit} (h : tx.fit compiler router.manager.args.actor = .ok fit)
    (hfits : fit.fits = true) : router.Fits compiler tx := by
  simp only [TxParts.fit, TxParts.compile, bind_ok, okOr_ok, refuse_ok, exists_const, pure_ok] at h
  obtain ⟨message, hmessage, -, rfl⟩ := h
  simp only [Fit.fits, Bool.and_eq_true, decide_eq_true_eq] at hfits
  exact ⟨message, hmessage, hfits.1, hfits.2⟩

theorem singleFitting_ok {plan : Plan} (h : router.singleFitting compiler tx = .ok plan) :
    plan = .single tx ∧ router.Fits compiler tx := by
  simp only [singleFitting, bind_ok, refuse_ok, exists_const, pure_ok,
    Bool.not_eq_false] at h
  obtain ⟨fit, hfit, hfits, rfl⟩ := h
  exact ⟨rfl, fits_of_fit hfit hfits⟩

end Parts

theorem validate_ok {buy : Bool} : router.validate intent = .ok buy ↔
    router.manager.Current router.account ∧
    ¬(router.validUntil ≤ router.now ∨
      router.account.staging.openSlot = none ∧ intent.amount = 0) ∧
    (∀ slot ∈ router.account.staging.openSlot, slot.mint = router.sy.base) ∧
    recoveryBuy router.account intent router.now router.core.maturity = .ok buy := by
  simp only [validate, bind_ok, refuse_ok, exists_const, VaultManager.ensureCurrent_ok, not_exists,
    not_and, ne_eq, not_not]

theorem recoveryBuy_fresh {buy : Bool} (hslot : router.account.staging.openSlot = none)
    (h : recoveryBuy router.account intent router.now router.core.maturity = .ok buy) :
    buy = intent.buying ∧ (buy = true → router.now < router.core.maturity) := by
  rw [recoveryBuy, hslot] at h
  cases intent with
  | buy amount =>
    simp only [Option.map_none, bind_ok, refuse_ok, exists_const, pure_ok, ge_iff_le] at h
    exact ⟨h.2.symm, fun _ ↦ UInt64.not_le.mp h.1⟩
  | sell amount =>
    simp only [Option.map_none, bind_ok, refuse_ok, exists_const, pure_ok] at h
    exact ⟨h.2.symm, fun hbuy ↦ by rw [← h.2] at hbuy; cases hbuy⟩
  | redeem amount =>
    simp only [Option.map_none, bind_ok, refuse_ok, exists_const, pure_ok] at h
    exact ⟨h.2.symm, fun hbuy ↦ by rw [← h.2] at hbuy; cases hbuy⟩

theorem recoveryBuy_slot {slot : VaultStagedSlot}
    (hslot : router.account.staging.openSlot = some slot)
    (h : recoveryBuy router.account intent router.now router.core.maturity = .ok true) :
    slot.fromLeg = .main ∧ router.now ≤ router.core.maturity ∧
      router.account.safety = .normal ∧ router.account.phase = .active ∧
      router.now < router.account.activeExpiry := by
  rw [recoveryBuy, hslot, Option.map_some] at h
  cases hleg : slot.fromLeg with
  | main =>
    simp only [hleg, pure_ok, Bool.and_eq_true, decide_eq_true_eq, and_assoc] at h
    exact ⟨rfl, h⟩
  | second =>
    rw [hleg] at h
    cases h

theorem mayBuy_of_validate (h : router.validate intent = .ok true) : router.MayBuy intent := by
  obtain ⟨-, -, -, h⟩ := validate_ok.mp h
  unfold MayBuy
  cases hslot : router.account.staging.openSlot with
  | none =>
    obtain ⟨hbuying, hmaturity⟩ := recoveryBuy_fresh hslot h
    exact ⟨hbuying.symm, hmaturity rfl⟩
  | some slot => exact recoveryBuy_slot hslot h

section Guards

variable {kind : VaultSwapKind} {amount minimum generation : UInt64} {hops : List VaultSwapHop}
  {quote : Option Quote} {tx : TxParts}

theorem guards_of_buy (h : router.validate intent = .ok true) : router.Guards P intent quote hops :=
  fun _ _ ↦ ⟨fun _ ↦ .inl (mayBuy_of_validate h), fun _ _ _ ↦ mayBuy_of_validate h⟩

def Quiet (quote : Option Quote) (hops : List VaultSwapHop) : Prop :=
  ∀ hop ∈ hops, BuysPt hop → OwnHop quote hop

theorem guards_of_quiet {input output : Pubkey} (hquiet : Quiet quote hops)
    (h : router.parts P kind amount minimum hops quote = .ok tx)
    (hlegs : router.manager.swapLegs P kind = .ok (input, output))
    (houtput : output = router.manager.addresses.vaultMainAta ∨
      output = router.asset.vaultAta P router.owner)
    (hinput : router.manager.addresses.vaultSecondAta = input ∨ hops.length = 1) :
    router.Guards P intent quote hops := by
  intro hop hmem
  refine ⟨fun hbuys ↦ .inr (hquiet hop hmem hbuys), fun hpays hmain hstaging ↦ ?_⟩
  have hvalid := hopsValid_of_parts h hlegs
  have hne : router.manager.addresses.vaultSecondAta ≠ output := by
    rcases houtput with rfl | rfl
    · exact hmain
    · exact hstaging
  exact absurd hpays (not_paid hvalid hne hinput hop hmem)

theorem guards_rebalance (hquiet : Quiet quote hops)
    (h : router.parts P (.rebalance true) amount minimum hops quote = .ok tx) :
    router.Guards P intent quote hops :=
  guards_of_quiet hquiet h rfl (.inl rfl) (.inl rfl)

theorem guards_stage (hquiet : Quiet quote hops)
    (h : router.parts P (router.stageKind .second .stage generation) amount minimum hops quote =
      .ok tx) : router.Guards P intent quote hops :=
  guards_of_quiet hquiet h (stagingLegs_of_parts h) (.inr rfl) (.inl rfl)

theorem guards_unstage (hquiet : Quiet quote hops) (hsingle : hops.length = 1)
    (h : router.parts P (router.stageKind .main .unstage generation) amount minimum hops quote =
      .ok tx) : router.Guards P intent quote hops :=
  guards_of_quiet hquiet h (stagingLegs_of_parts h) (.inl rfl) (.inr hsingle)

end Guards

section Slot

variable {quote : Option Quote} {minimumOut : UInt64} {slot : VaultStagedSlot} {plan : Plan}

theorem quiet_own {quote : Quote} {patch : Bool} {hop : VaultSwapHop}
    (h : quote.patchedHop patch = .ok hop) : Quiet (some quote) [hop] :=
  List.forall_mem_singleton.mpr fun _ ↦ ⟨quote, rfl, patch, h⟩

theorem slotHops_main {leg : VaultLeg} {hops : List VaultSwapHop}
    (h : router.slotHops P false quote slot = .ok (leg, hops)) :
    leg = .main ∧ Quiet quote hops ∧ hops.length = 1 := by
  simp only [slotHops, Bool.false_eq_true, if_false, bind_ok, lift_ok, okOr_ok, pure_ok,
    Prod.mk.injEq] at h
  obtain ⟨quote, rfl, -, -, hop, hhop, rfl, rfl⟩ := h
  exact ⟨rfl, quiet_own hhop, rfl⟩

theorem completeSlot_ok {buy : Bool} (hvalidate : router.validate intent = .ok buy)
    (h : router.completeSlot P compiler buy quote minimumOut slot = .ok plan) :
    ∃ tx leg, plan = .single tx ∧ router.Fits compiler tx ∧ router.Performs P intent quote tx
      (.staging .unstage leg router.asset router.account.staging.generation) slot.amount
      minimumOut := by
  simp only [completeSlot, bind_ok, lift_ok] at h
  obtain ⟨⟨leg, hops⟩, hhops, tx, htx, hfitting⟩ := h
  obtain ⟨rfl, hfits⟩ := singleFitting_ok hfitting
  refine ⟨tx, leg, rfl, hfits, performs_of_parts htx ?_⟩
  cases buy with
  | true => exact guards_of_buy hvalidate
  | false =>
    obtain ⟨rfl, hquiet, hsingle⟩ := slotHops_main hhops
    exact guards_unstage hquiet hsingle htx

end Slot

section Fresh

variable {quote : Quote} {minimumOut minimumStaged : UInt64} {plan : Plan}
  {hops first : List VaultSwapHop} {buy patch : Bool}

theorem soldHop_quiet {hop : VaultSwapHop} (h : router.soldHop P intent = .ok hop) :
    ¬BuysPt hop := by
  cases intent with
  | redeem amount =>
    obtain ⟨table, -, h⟩ := bind_ok.mp h
    exact merge_not_buysPt h
  | _ amount =>
    obtain ⟨table, -, h⟩ := bind_ok.mp h
    exact fun hbuys ↦ by cases trade_buysPt h hbuys

theorem sellHops_quiet {quote : Option Quote} (h : router.sellHops P intent = .ok hops) :
    Quiet quote hops := by
  simp only [sellHops, bind_ok, lift_ok, pure_ok] at h
  obtain ⟨sold, hsold, redeemed, hredeemed, rfl⟩ := h
  refine List.forall_mem_cons.mpr ⟨fun hbuys ↦ ?_, List.forall_mem_singleton.mpr fun hbuys ↦ ?_⟩
  · exact absurd hbuys (soldHop_quiet hsold)
  · exact absurd hbuys (syHop_not_buysPt hredeemed)

theorem tailHops_quiet (h : router.tailHops P false quote patch = .ok hops) :
    Quiet (some quote) hops ∧ hops.length = 1 := by
  simp only [tailHops, Bool.false_eq_true, if_false, bind_ok, lift_ok, pure_ok] at h
  obtain ⟨hop, hhop, rfl⟩ := h
  exact ⟨quiet_own hhop, rfl⟩

theorem single_guards {tail : List VaultSwapHop} {tx : TxParts} {amount : UInt64}
    (hvalidate : router.validate intent = .ok buy)
    (hfirst : router.firstHops P intent buy quote = .ok first)
    (htail : router.tailHops P buy quote patch = .ok tail)
    (h : router.parts P (.rebalance (!buy)) amount minimumOut (first ++ tail) (some quote) =
      .ok tx) : router.Guards P intent (some quote) (first ++ tail) := by
  cases buy with
  | true => exact guards_of_buy hvalidate
  | false =>
    exact guards_rebalance
      (List.forall_mem_append.mpr ⟨sellHops_quiet hfirst, (tailHops_quiet htail).1⟩) h

theorem stage_guards {tx : TxParts} {amount generation : UInt64}
    (hvalidate : router.validate intent = .ok buy)
    (hfirst : router.firstHops P intent buy quote = .ok first)
    (h : router.parts P (router.stageKind (if buy then .main else .second) .stage generation)
      amount minimumStaged first (some quote) = .ok tx) :
    router.Guards P intent (some quote) first := by
  cases buy with
  | true => exact guards_of_buy hvalidate
  | false => exact guards_stage (sellHops_quiet hfirst) h

theorem unstage_guards {tx : TxParts} {amount generation : UInt64} {tail : List VaultSwapHop}
    (hvalidate : router.validate intent = .ok buy)
    (htail : router.tailHops P buy quote patch = .ok tail)
    (h : router.parts P (router.stageKind (if buy then .second else .main) .unstage generation)
      amount minimumOut tail (some quote) = .ok tx) :
    router.Guards P intent (some quote) tail := by
  cases buy with
  | true => exact guards_of_buy hvalidate
  | false =>
    obtain ⟨hquiet, hsingle⟩ := tailHops_quiet htail
    exact guards_unstage hquiet hsingle h

/-- The two halves of a plan: opposite legs of one staging account, in the next generation. -/
structure Halves (P : Platform) (router : Router D) (intent : Intent) (quote : Quote)
    (minimumOut minimumStaged : UInt64) (stage unstage : TxParts) (leg leg' : VaultLeg)
    (generation : UInt64) : Prop where
  opposite : leg ≠ leg'
  next : generation.toNat = router.account.staging.generation.toNat + 1
  staging : router.Performs P intent (some quote) stage
    (.staging .stage leg router.asset generation) intent.amount minimumStaged
  unstaging : router.Performs P intent (some quote) unstage
    (.staging .unstage leg' router.asset generation) (stagedAmount intent.buying quote) minimumOut
  connected : ∃ account,
    router.manager.swapLegs P stage.kind = .ok (router.manager.legAta leg, account) ∧
    router.manager.swapLegs P unstage.kind = .ok (account, router.manager.legAta leg')

theorem stagedPlan_ok (hvalidate : router.validate intent = .ok buy)
    (hbuy : buy = intent.buying) (hfirst : router.firstHops P intent buy quote = .ok first)
    (h : router.stagedPlan P compiler intent buy quote first minimumOut minimumStaged = .ok plan) :
    ∃ stage unstage leg leg' generation, plan = .staged stage unstage ∧
      router.Fits compiler stage ∧ router.Fits compiler unstage ∧
      router.Halves P intent quote minimumOut minimumStaged stage unstage leg leg' generation := by
  subst hbuy
  simp only [stagedPlan, bind_ok, lift_ok, refuse_ok, exists_const, narrow_ok, pure_ok,
    Bool.not_eq_false] at h
  obtain ⟨-, generation, hgeneration, stage, hstage, tail, htail, unstage, hunstage, stageFit,
    hstageFit, hstageFits, unstageFit, hunstageFit, hunstageFits, rfl⟩ := h
  have hperforms := performs_of_parts hstage (stage_guards hvalidate hfirst hstage)
  have hperforms' := performs_of_parts hunstage (unstage_guards hvalidate htail hunstage)
  refine ⟨stage, unstage, _, _, generation, rfl, fits_of_fit hstageFit hstageFits,
    fits_of_fit hunstageFit hunstageFits, ?_, hgeneration, hperforms, hperforms',
    router.asset.vaultAta P router.owner, ?_, ?_⟩
  · split <;> decide
  · rw [hperforms.kind_eq]
    exact stagingLegs_of_parts hstage
  · rw [hperforms'.kind_eq]
    exact stagingLegs_of_parts hunstage

theorem freshPlan_ok (hvalidate : router.validate intent = .ok buy) (hbuy : buy = intent.buying)
    (h : router.freshPlan P compiler intent buy quote minimumOut minimumStaged = .ok plan) :
    (∃ tx, plan = .single tx ∧ router.Fits compiler tx ∧
      router.Performs P intent (some quote) tx (.rebalance (!buy)) intent.amount minimumOut) ∨
    ∃ stage unstage leg leg' generation, plan = .staged stage unstage ∧
      router.Fits compiler stage ∧ router.Fits compiler unstage ∧
      router.Halves P intent quote minimumOut minimumStaged stage unstage leg leg' generation := by
  simp only [freshPlan, bind_ok, lift_ok] at h
  obtain ⟨-, -, first, hfirst, tail, htail, single, hsingle, h⟩ := h
  cases single with
  | none => exact .inr (stagedPlan_ok hvalidate hbuy hfirst h)
  | some plan' =>
    cases h
    simp only [attempt_some, bind_ok, lift_ok] at hsingle
    obtain ⟨tx, htx, hfitting⟩ := hsingle
    obtain ⟨rfl, hfits⟩ := singleFitting_ok hfitting
    exact .inl ⟨tx, rfl, hfits, performs_of_parts htx (single_guards hvalidate hfirst htail htx)⟩

end Fresh

end Router

/-- A plan keeps to its router's state. No hop but the quote's own buys PT that may not, and that
does not in a quote that was made from a response. -/
theorem plan_consistent (P : Platform) (compiler : Compiler) {D : Doubles} (router : Router D)
    (intent : Intent) (quote : Option Quote) (minimumOut minimumStaged : UInt64) (plan : Plan)
    (h : router.plan P compiler intent quote minimumOut minimumStaged = .ok plan) :
    (∀ tx ∈ plan.transactions, router.Fits compiler tx) ∧
    (∀ slot ∈ router.account.staging.openSlot, router.asset.mint = slot.mint ∧
      ∃ tx leg, plan = .single tx ∧ router.Performs P intent quote tx
        (.staging .unstage leg router.asset router.account.staging.generation) slot.amount
        minimumOut) ∧
    (router.account.staging.openSlot = none → ∃ quote' ∈ quote,
      (∃ tx, plan = .single tx ∧ router.Performs P intent quote tx
        (.rebalance (!intent.buying)) intent.amount minimumOut) ∨
      ∃ stage unstage leg leg' generation, plan = .staged stage unstage ∧
        router.Halves P intent quote' minimumOut minimumStaged stage unstage leg leg'
          generation) ∧
    ∀ own ∈ quote, ∀ fromStr response request,
      BuildResponse.intoQuote P fromStr response request = .ok own →
        ∀ patch hop, own.patchedHop patch = .ok hop → ¬BuysPt hop := by
  have hanswers : ∀ own ∈ quote, ∀ fromStr response request,
      BuildResponse.intoQuote P fromStr response request = .ok own →
        ∀ patch hop, own.patchedHop patch = .ok hop → ¬BuysPt hop :=
    fun _ _ _ _ _ hown _ _ hhop ↦ answers_not_buysPt (BuildResponse.intoQuote_answers hown).2 hhop
  simp only [Router.plan, bind_ok, lift_ok] at h
  obtain ⟨buy, hvalidate, -, -, h⟩ := h
  obtain ⟨-, -, hmint, hrecovery⟩ := Router.validate_ok.mp hvalidate
  cases hslot : router.account.staging.openSlot with
  | some slot =>
    rw [hslot] at h
    obtain ⟨tx, leg, rfl, hfits, hperforms⟩ := Router.completeSlot_ok hvalidate h
    refine ⟨List.forall_mem_singleton.mpr hfits, fun slot' hslot' ↦ ?_, (fun h ↦ by cases h),
      hanswers⟩
    obtain rfl := Option.mem_some_iff.mp hslot'
    exact ⟨(hmint slot hslot).symm, tx, leg, rfl, hperforms⟩
  | none =>
    rw [hslot] at h
    obtain ⟨quote', hquote, h⟩ := bind_ok.mp h
    rw [lift_ok, okOr_ok] at hquote
    subst hquote
    obtain ⟨hbuy, -⟩ := Router.recoveryBuy_fresh hslot hrecovery
    rcases Router.freshPlan_ok hvalidate hbuy h with ⟨tx, rfl, hfits, hperforms⟩ |
      ⟨stage, unstage, leg, leg', generation, rfl, hstage, hunstage, hhalves⟩
    · rw [hbuy] at hperforms
      exact ⟨List.forall_mem_singleton.mpr hfits, (fun _ h ↦ by cases h),
        fun _ ↦ ⟨quote', rfl, .inl ⟨tx, rfl, hperforms⟩⟩, hanswers⟩
    · exact ⟨List.forall_mem_cons.mpr ⟨hstage, List.forall_mem_singleton.mpr hunstage⟩,
        (fun _ h ↦ by cases h),
        fun _ ↦ ⟨quote', rfl, .inr ⟨stage, unstage, leg, leg', generation, rfl, hhalves⟩⟩,
        hanswers⟩

section Sample

def sampleDoubles : Doubles where
  Double := ℚ
  ofU64 n := n.toNat
  ten := 10
  kept := 99 / 100
  mul := (· * ·)
  div := (· / ·)
  powi b e := b ^ e.toNat
  lt a b := a < b
  isFinite _ := true

def sampleVenue (program : Pubkey) (selector : List UInt8) : List UInt8 :=
  program.toList ++ [1, .ofNat selector.length] ++ selector ++
    List.replicate (71 - selector.length) 0

def sampleVenues : SwapVenues where
  venues := [(jupiterProgram, [exactInSelectors.getD 2 []]), (genericSy, [[1]]), (clmm, [[3]])]
  parsed := ⟨[16, 1, 0, 3] ++ sampleVenue jupiterProgram (exactInSelectors.getD 2 []) ++
    sampleVenue genericSy [1] ++ sampleVenue clmm [3] ++ List.replicate 3045 0, by decide +kernel⟩

def samplePlatform : Platform := .ofSearches (sampleAddresses ++ [
  samplePda [ascii "price_route", (keyOfNat 33).toList]
    0x4076df811533afa428e976684ceb22ff4241d6df7b3d372d8acf827fea8d37e8 250,
  sampleAta sampleVaultKey (keyOfNat 6) tokenProgramId
    0x65edc4903711783eb1ba53319bdfc60b9701db1213a9872acbda1f59834a852d 252,
  sampleAta sampleVaultKey (keyOfNat 32) tokenProgramId
    0x9390615b115056a4557f58460088ed6c4c438fa952d380eeaa6dee91a2382dfd 255,
  sampleAta sampleVaultKey (keyOfNat 33) tokenProgramId
    0x8864e3a6b847f21e502ea91cfc93b4890f612b0f8da8f447e2744002d37330d0 250,
  sampleAta sampleVaultKey (keyOfNat 34) tokenProgramId
    0x2ca087b4e874af68175616c47f342e187669c776898df57cc2b35b8eec7f7db5 254,
  sampleAta (keyOfNat 31) (keyOfNat 33) tokenProgramId
    0xeea058e0febe31c95f7918b98da53d373fb42319a07969e9af059f81463549c0 254,
  ([ascii "__event_authority"], clmm,
    keyOfNat 0x1cfee790bc2ff016414cc277da4e3e770101fd2c8c01b92ddc453d45df3ef29d, 253)])

def sampleManager : VaultManager :=
  let args := { sampleCapitalManager.args with secondTokenProgram := tokenProgramId }
  ⟨args, .derive samplePlatform args⟩

def sampleRoute (mint : Pubkey) : PriceRoute := ⟨mint, 0, [], 0⟩

def sampleCreate (mint : Pubkey) : Instruction :=
  ⟨associatedTokenProgramId, [.new (keyOfNat 3) true,
    .new (deriveAssociatedTokenAddress samplePlatform sampleVaultKey mint tokenProgramId) false,
    .newReadonly sampleVaultKey false, .newReadonly mint false, .newReadonly systemProgramId false,
    .newReadonly tokenProgramId false], [1]⟩

def sampleStagingAta : Pubkey :=
  keyOfNat 0x8864e3a6b847f21e502ea91cfc93b4890f612b0f8da8f447e2744002d37330d0

/-- The market's lookup table has the accounts that the manager and the venues name. -/
def sampleRouter : Router sampleDoubles where
  manager := sampleManager
  account := ⟨keyOfNat 2, .active, .normal, 1500, keyOfNat 5, keyOfNat 6, tokenProgramId,
    ⟨7, none⟩, 0⟩
  main := sampleRoute (keyOfNat 5)
  second := sampleRoute (keyOfNat 6)
  staging := sampleRoute (keyOfNat 33)
  registry := sampleVenues
  market := ⟨keyOfNat 41, keyOfNat 42, keyOfNat 6, keyOfNat 32, keyOfNat 43, keyOfNat 44,
    keyOfNat 45, keyOfNat 46, keyOfNat 47, keyOfNat 48, []⟩
  sy := ⟨keyOfNat 31, keyOfNat 32, keyOfNat 33, indexOne, [], [], by decide⟩
  core := ⟨keyOfNat 43, keyOfNat 32, keyOfNat 61, keyOfNat 6, keyOfNat 62, keyOfNat 63,
    keyOfNat 42, 2000, keyOfNat 64, []⟩
  tables := [⟨keyOfNat 42, [sampleVaultKey, sampleManager.addresses.policy,
    sampleManager.addresses.delegate, sampleManager.addresses.swapVenues,
    sampleManager.addresses.globalConfig, sampleManager.addresses.mainPriceRoute,
    sampleManager.addresses.secondPriceRoute, sampleManager.addresses.vaultMainAta,
    sampleManager.addresses.vaultSecondAta, sampleManager.addresses.managerStakeAta,
    sampleStagingAta, tokenProgramId, associatedTokenProgramId, genericSy, clmm] ++
      [5, 6, 7, 31, 32, 33, 41, 43, 44, 45, 46, 47, 48].map keyOfNat⟩]
  shard := 0
  now := 1000
  validUntil := 1100
  baseProgram := tokenProgramId
  setup := [sampleCreate (keyOfNat 32), sampleCreate (keyOfNat 34)]
  prices _ := ⟨(1 : ℚ), 6⟩

def sampleRequest : Request where
  owner := sampleVaultKey
  payer := keyOfNat 3
  inputMint := keyOfNat 5
  outputMint := keyOfNat 33
  source := sampleManager.addresses.vaultMainAta
  destination := sampleStagingAta
  amount := 10
  slippageBps := 50

/-- A quote over so many accounts that it does not fit together with the hops into PT. -/
def sampleQuote : Quote where
  request := sampleRequest
  output := 10
  minimum := 10
  hop := ⟨jupiterProgram, sampleRequest.source, sampleRequest.destination,
    [.new sampleVaultKey true, w sampleRequest.source, w sampleRequest.destination] ++
      (List.range 35).map fun n ↦ ro (keyOfNat (100 + n)),
    exactInSelectors.getD 2 [] ++ u64ToLe 10 ++ List.replicate 18 0, none⟩
  tables := [⟨keyOfNat 99, (List.range 35).map fun n ↦ keyOfNat (100 + n)⟩]

def rank (key : Pubkey) : ℕ := ofLe key.toList.reverse

structure KeyMeta where
  key : Pubkey
  signer : Bool
  writable : Bool
  invoked : Bool

def insertKey (key : KeyMeta) : List KeyMeta → List KeyMeta
  | [] => [key]
  | found :: keys =>
    if rank key.key < rank found.key then key :: found :: keys
    else if rank key.key = rank found.key then
      ⟨key.key, key.signer || found.signer, key.writable || found.writable,
        key.invoked || found.invoked⟩ :: keys
    else found :: insertKey key keys

def compileKeys (payer : Pubkey) (instructions : List Instruction) : List KeyMeta :=
  (⟨payer, true, true, false⟩ :: instructions.flatMap fun ix ↦ ⟨ix.programId, false, false, true⟩ ::
    ix.accounts.map fun account ↦ ⟨account.pubkey, account.isSigner, account.isWritable, false⟩)
    |>.foldr insertKey []

structure TableLookup where
  table : AddressLookupTableAccount
  writable : List Pubkey
  readonly : List Pubkey

/-- What each table resolves of the keys that neither sign nor are invoked, and the keys left. -/
def drainTables : List KeyMeta → List AddressLookupTableAccount → List KeyMeta × List TableLookup
  | keys, [] => (keys, [])
  | keys, table :: tables =>
    let (found, left) := keys.partition fun key ↦ ¬key.signer ∧ ¬key.invoked ∧
      table.addresses.any (rank · = rank key.key)
    let (writable, readonly) := found.partition KeyMeta.writable
    let (left, lookups) := drainTables left tables
    (left, if found.isEmpty then lookups
      else ⟨table, writable.map KeyMeta.key, readonly.map KeyMeta.key⟩ :: lookups)

/-- Compiles a version-0 message as the message crate does: the payer, the other signers and the
keys that no table resolves are static, writable ones first. -/
def sampleCompiler : Compiler := fun payer instructions tables blockhash ↦
  let (left, lookups) := drainTables (compileKeys payer instructions) tables
  let of := fun (signer writable : Bool) ↦ (left.filter fun key ↦ rank key.key ≠ rank payer ∧
    key.signer = signer ∧ key.writable = writable).map KeyMeta.key
  let staticKeys := payer :: (of true true ++ of true false ++ of false true ++ of false false)
  let keys := staticKeys ++ lookups.flatMap TableLookup.writable ++
    lookups.flatMap TableLookup.readonly
  let index := fun (keys : List Pubkey) (key : Pubkey) ↦
    UInt8.ofNat (keys.findIdx (rank · = rank key))
  if 256 < keys.length then none
  else some {
    signatures := []
    versionZero := true
    requiredSigners := .ofNat (1 + (of true true).length + (of true false).length)
    readonlySigned := .ofNat (of true false).length
    readonlyUnsigned := .ofNat (of false false).length
    staticKeys
    blockhash
    instructions := instructions.map fun ix ↦
      ⟨index keys ix.programId, ix.accounts.map fun account ↦ index keys account.pubkey, ix.data⟩
    lookups := lookups.map fun lookup ↦ ⟨lookup.table.key,
      lookup.writable.map (index lookup.table.addresses),
      lookup.readonly.map (index lookup.table.addresses)⟩ }

theorem plan_consistent_staged :
    ∃ stage unstage leg leg' generation, sampleRouter.plan samplePlatform sampleCompiler (.buy 10)
      (some sampleQuote) 9 9 = .ok (.staged stage unstage) ∧ sampleRouter.Halves samplePlatform
        (.buy 10) sampleQuote 9 9 stage unstage leg leg' generation := by
  have hrun : ((sampleRouter.plan samplePlatform sampleCompiler (.buy 10) (some sampleQuote) 9
      9).toOption.any fun plan ↦ plan.transactions.length = 2) = true := by
    decide +kernel
  obtain ⟨plan, hplan, hstaged⟩ := (Option.any_eq_true _ _).mp hrun
  obtain ⟨-, -, hfresh, -⟩ := plan_consistent _ _ _ _ _ _ _ plan (toOption_ok hplan)
  obtain ⟨quote, hquote, ⟨tx, rfl, -⟩ | ⟨stage, unstage, leg, leg', generation, rfl, hhalves⟩⟩ :=
    hfresh rfl
  · cases hstaged
  · obtain rfl := Option.some.inj hquote
    exact ⟨stage, unstage, leg, leg', generation, toOption_ok hplan, hhalves⟩

def slotRouter : Router sampleDoubles :=
  { sampleRouter with
    account := { sampleRouter.account with
      staging := ⟨7, some ⟨keyOfNat 33, .second, 10, 900⟩⟩ } }

/-- A quote that no response gives: its hop calls the CLMM. -/
def clmmQuote : Quote where
  request := { sampleRequest with
    inputMint := keyOfNat 33
    outputMint := keyOfNat 5
    source := sampleStagingAta
    destination := sampleManager.addresses.vaultMainAta }
  output := 10
  minimum := 10
  hop := ⟨clmm, sampleStagingAta, sampleManager.addresses.vaultMainAta,
    [.new sampleVaultKey true, w sampleStagingAta, w sampleManager.addresses.vaultMainAta],
    amountData 3 10 ++ [1, 0, 0], none⟩
  tables := []

def clmmPlan : Checked VaultChainError Plan :=
  slotRouter.plan samplePlatform sampleCompiler (.sell 10) (some clmmQuote) 9 9

def clmmSwap : Except VaultChainError Instruction :=
  slotRouter.manager.swap samplePlatform (.staging .unstage .main slotRouter.asset 7)
    ⟨[ro sampleManager.addresses.mainPriceRoute,
      ro (keyOfNat 0x4076df811533afa428e976684ceb22ff4241d6df7b3d372d8acf827fea8d37e8)],
      10, 9, 1100, [clmmQuote.hop]⟩

/-- What has left the second leg is completed by a hop that buys PT, where the quote's own hop is
such a call: the router asks only the registry, which allows it. -/
theorem plan_of_clmm_quote :
    (∃ tx ix, clmmPlan = .ok (.single tx) ∧ clmmSwap = .ok ix ∧ tx.instructions = [ix]) ∧
      BuysPt clmmQuote.hop ∧ ¬slotRouter.MayBuy (.sell 10) := by
  refine ⟨?_, ⟨rfl, rfl⟩, fun hmay ↦ by cases hmay.1⟩
  have hrun : (clmmPlan.toOption.any fun plan ↦ clmmSwap.toOption.any fun ix ↦
      plan.transactions.map TxParts.instructions = [[ix]]) = true := by
    decide +kernel
  obtain ⟨plan, hplan, hrun⟩ := (Option.any_eq_true _ _).mp hrun
  obtain ⟨ix, hswap, hrun⟩ := (Option.any_eq_true _ _).mp hrun
  cases plan with
  | single tx =>
    have hinstructions := (List.cons.inj (of_decide_eq_true hrun)).1
    exact ⟨tx, ix, toOption_ok hplan, toOption_ok hswap, hinstructions⟩
  | staged stage unstage =>
    have hnone := (List.cons.inj (of_decide_eq_true hrun)).2
    cases hnone

end Sample

end MakerSdk.Routing
