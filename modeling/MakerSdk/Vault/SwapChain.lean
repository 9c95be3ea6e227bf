import MakerSdk.Vault.Swap

namespace MakerSdk.Vault

open Base.Checks Solana

/-- The hops from `source` on lead to `output` through accounts that are neither leg. -/
def Chained (input output : Pubkey) : Pubkey → List VaultSwapHop → Prop
  | _, [] => False
  | source, [hop] => hop.source = source ∧ hop.destination = output
  | source, hop :: hops => hop.source = source ∧ hop.destination ≠ input ∧
      hop.destination ≠ output ∧ Chained input output hop.destination hops

def Touches (hop : VaultSwapHop) (key : Pubkey) : Prop :=
  hop.source = key ∨ hop.destination = key ∨ key ∈ hop.accounts.map AccountMeta.pubkey

structure LegIsolated (hops : List VaultSwapHop) (key : Pubkey) : Prop where
  source : ∀ i hop, hops[i]? = some hop → hop.source = key → i = 0
  destination : ∀ i hop, hops[i]? = some hop → hop.destination = key → i + 1 = hops.length
  accounts : ∀ hop ∈ hops, key ∈ hop.accounts.map AccountMeta.pubkey →
    hop.source = key ∨ hop.destination = key

section Chain

variable {vault input output source : Pubkey} {index : ℕ} {hops : List VaultSwapHop}

theorem HopsValid.chained (h : HopsValid vault input output source index hops) (hne : hops ≠ []) :
    Chained input output source hops := by
  induction hops generalizing source index with
  | nil => exact absurd rfl hne
  | cons hop hops ih =>
    obtain ⟨hhop, hhops⟩ := h
    cases hops with
    | nil => exact ⟨hhop.source, hhop.destination.1 rfl⟩
    | cons next rest =>
      obtain ⟨hin, hout⟩ := hhop.destination.2 rfl
      exact ⟨hhop.source, hin, hout, ih hhops (List.cons_ne_nil _ _)⟩

variable {hop : VaultSwapHop}

theorem HopsValid.of_mem (h : HopsValid vault input output source index hops) (hmem : hop ∈ hops) :
    ∃ source index last, HopValid vault input output source index last hop := by
  induction hops generalizing source index with
  | nil => cases hmem
  | cons first hops ih =>
    obtain ⟨hfirst, hhops⟩ := h
    rcases List.mem_cons.mp hmem with rfl | hmem
    · exact ⟨_, _, _, hfirst⟩
    · exact ih hhops hmem

theorem HopsValid.own (h : HopsValid vault input output source index hops) :
    ∀ hop ∈ hops, ∀ account ∈ hop.accounts, account.pubkey = input ∨ account.pubkey = output →
      account.pubkey = hop.source ∨ account.pubkey = hop.destination := by
  intro hop hmem
  obtain ⟨_, _, _, hhop⟩ := h.of_mem hmem
  exact hhop.legs

theorem HopsValid.source_zero (h : HopsValid vault input output source index hops) {key : Pubkey}
    (hkey : key = input ∨ key = output) {i : ℕ} (hi : hops[i]? = some hop) (he : hop.source = key) :
    i = 0 := by
  induction hops generalizing source index i with
  | nil => cases hi
  | cons first hops ih =>
    obtain ⟨hfirst, hhops⟩ := h
    cases i with
    | zero => rfl
    | succ i =>
      obtain rfl := ih hhops hi
      cases hops with
      | nil => cases hi
      | cons next rest =>
        -- the tail starts at a transit account, which is neither leg
        obtain rfl := Option.some.inj hi
        obtain ⟨hin, hout⟩ := hfirst.destination.2 rfl
        rw [← hhops.1.source, he] at hin hout
        rcases hkey with hkey | hkey
        · exact absurd hkey hin
        · exact absurd hkey hout

theorem HopsValid.destination_last (h : HopsValid vault input output source index hops)
    {key : Pubkey} (hkey : key = input ∨ key = output) {i : ℕ} (hi : hops[i]? = some hop)
    (he : hop.destination = key) : i + 1 = hops.length := by
  induction hops generalizing source index i with
  | nil => cases hi
  | cons first hops ih =>
    obtain ⟨hfirst, hhops⟩ := h
    cases i with
    | succ i => exact congrArg (· + 1) (ih hhops hi)
    | zero =>
      obtain rfl := Option.some.inj hi
      cases hops with
      | nil => rfl
      | cons next rest =>
        obtain ⟨hin, hout⟩ := hfirst.destination.2 rfl
        rcases hkey with hkey | hkey
        · exact absurd (he.trans hkey) hin
        · exact absurd (he.trans hkey) hout

theorem HopsValid.head_source (h : HopsValid vault input output source index hops)
    (hi : hops[0]? = some hop) : hop.source = source := by
  cases hops with
  | nil => cases hi
  | cons first hops =>
    obtain rfl := Option.some.inj hi
    exact h.1.source

theorem HopsValid.last_destination (h : HopsValid vault input output source index hops) {i : ℕ}
    (hi : hops[i]? = some hop) (hlast : i + 1 = hops.length) :
    hop.destination = output := by
  induction hops generalizing source index i with
  | nil => cases hi
  | cons first hops ih =>
    obtain ⟨hfirst, hhops⟩ := h
    cases i with
    | succ i => exact ih hhops hi (Nat.succ.inj hlast)
    | zero =>
      obtain rfl := Option.some.inj hi
      obtain rfl := List.length_eq_zero_iff.mp (Nat.succ.inj hlast).symm
      exact hfirst.destination.1 rfl

theorem HopsValid.isolated (h : HopsValid vault input output source index hops) {key : Pubkey}
    (hkey : key = input ∨ key = output) : LegIsolated hops key where
  source _ _ hi he := h.source_zero hkey hi he
  destination _ _ hi he := h.destination_last hkey hi he
  accounts hop hhop hmem := by
    obtain ⟨account, hacc, rfl⟩ := List.mem_map.mp hmem
    rcases h.own hop hhop account hacc hkey with he | he
    · exact .inl he.symm
    · exact .inr he.symm

theorem LegIsolated.of_touches {key : Pubkey} (h : LegIsolated hops key) {i : ℕ}
    (hi : hops[i]? = some hop) (ht : Touches hop key) :
    i = 0 ∧ hop.source = key ∨ i + 1 = hops.length ∧ hop.destination = key := by
  have hor : hop.source = key ∨ hop.destination = key := by
    rcases ht with hs | hd | hmem
    · exact .inl hs
    · exact .inr hd
    · exact h.accounts hop (List.mem_of_getElem? hi) hmem
  rcases hor with hs | hd
  · exact .inl ⟨h.source i hop hi hs, hs⟩
  · exact .inr ⟨h.destination i hop hi hd, hd⟩

theorem HopsValid.input_first (h : HopsValid vault input output source index hops)
    (hlegs : input ≠ output) {i : ℕ} (hi : hops[i]? = some hop) (ht : Touches hop input) :
    i = 0 := by
  rcases (h.isolated (.inl rfl)).of_touches hi ht with ⟨hzero, -⟩ | ⟨hlast, hd⟩
  · exact hzero
  · exact absurd (hd.symm.trans (h.last_destination hi hlast)) hlegs

theorem HopsValid.output_last (h : HopsValid vault input output source index hops)
    (hsource : source ≠ output) {i : ℕ} (hi : hops[i]? = some hop) (ht : Touches hop output) :
    i + 1 = hops.length := by
  rcases (h.isolated (.inr rfl)).of_touches hi ht with ⟨rfl, hs⟩ | ⟨hlast, -⟩
  · exact absurd ((h.head_source hi).symm.trans hs) hsource
  · exact hlast

theorem HopsValid.isolated_iff (h : HopsValid vault input output input index hops) {key : Pubkey}
    (hin : key ≠ input) (hout : key ≠ output) :
    LegIsolated hops key ↔ ∀ hop ∈ hops, ¬ Touches hop key := by
  constructor
  · intro hiso hop hmem ht
    obtain ⟨i, hi⟩ := List.mem_iff_getElem?.mp hmem
    rcases hiso.of_touches hi ht with ⟨rfl, hs⟩ | ⟨hlast, hd⟩
    · exact hin (hs.symm.trans (h.head_source hi))
    · exact hout (hd.symm.trans (h.last_destination hi hlast))
  · intro hnot
    refine ⟨fun i hop hi he ↦ ?_, fun i hop hi he ↦ ?_, fun hop hmem hacc ↦ ?_⟩
    · exact absurd (.inl he) (hnot hop (List.mem_of_getElem? hi))
    · exact absurd (.inr (.inl he)) (hnot hop (List.mem_of_getElem? hi))
    · exact absurd (.inr (.inr hacc)) (hnot hop hmem)

end Chain

theorem VaultManager.stagingLegs_ok {P : Platform} {manager : VaultManager}
    {step : VaultStagingStep} {leg : VaultLeg} {asset : VaultStagingAsset}
    {legs : Pubkey × Pubkey} : manager.stagingLegs P step leg asset = .ok legs ↔
      (asset.mint ∉ [manager.args.mainMint, manager.args.secondMint, manager.args.shareMint] ∧
        (asset.tokenProgram = tokenProgramId ∨ asset.tokenProgram = token2022ProgramId)) ∧
      (match step with
        | .stage => (manager.legAta leg, asset.vaultAta P manager.addresses.vault)
        | .unstage => (asset.vaultAta P manager.addresses.vault, manager.legAta leg)) = legs := by
  simp only [stagingLegs, bind_ok, refuse_ok, exists_const, not_and_or, ne_eq, not_not, and_assoc]
  cases step <;> simp only [pure_ok]

end MakerSdk.Vault
