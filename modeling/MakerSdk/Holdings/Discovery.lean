import MakerSdk.Holdings.Decode

namespace MakerSdk.Holdings

open Base.Bytes Base.Checks Solana Orders Quote Settle
open Sale (ChainError)

inductive RpcFilter where
  | dataSize (len : ℕ)
  | memcmp (offset : ℕ) (bytes : List UInt8)

def RpcFilter.accepts (data : List UInt8) : RpcFilter → Bool
  | .dataSize len => data.length = len
  | .memcmp offset bytes =>
    offset + bytes.length ≤ data.length ∧ slice data offset bytes.length = bytes

def programAccounts (chain : List (Pubkey × Account)) (programId : Pubkey)
    (filters : List RpcFilter) : List (Pubkey × Account) :=
  chain.filter fun entry ↦ entry.2.owner = programId ∧ filters.all (·.accepts entry.2.data)

def makerPositionFilters (owner : Pubkey) : List RpcFilter :=
  [.dataSize positionLen, .memcmp 0 [positionDiscriminator],
    .memcmp positionOffsetHolder owner.toList]

section Maker

variable (programId owner : Pubkey)

def makerRound (result : List (Pubkey × PositionInfo)) (entry : Pubkey × Account) :
    Except ChainError (List (Pubkey × PositionInfo)) := do
  let position ← fromAccount entry.2 programId
  refuse (position.holder ≠ owner) (.identity "maker owner")
  pure (if position.status = .opened ∨ position.status = .funded then
    result ++ [(entry.1, position)] else result)

def makerOpenPositions (found : List (Pubkey × Account)) :
    Except ChainError (List (Pubkey × PositionInfo)) :=
  found.foldlM (makerRound programId owner) []

end Maker

section Unfunded

end Unfunded

def OnChain (chain : List (Pubkey × Account)) (programId key : Pubkey) (info : PositionInfo) :
    Prop :=
  ∃ account, (key, account) ∈ chain ∧ fromAccount account programId = .ok info

/-- Every account of the program that is laid out as a position decodes. -/
def WellLaid (chain : List (Pubkey × Account)) (programId : Pubkey) : Prop :=
  ∀ entry ∈ chain, entry.2.owner = programId → entry.2.data.length = positionLen →
    entry.2.data[0]? = some positionDiscriminator → ∃ info, fromAccount entry.2 programId = .ok info

def Live (info : PositionInfo) : Prop := info.status = .opened ∨ info.status = .funded

/-- The maker is the holder on a sell and the writer on a buy. -/
def IsMaker (owner : Pubkey) (info : PositionInfo) : Prop :=
  if info.side.isTakerBuy then info.writer = owner else info.holder = owner

theorem isMaker_sell {owner : Pubkey} {info : PositionInfo} (h : info.side = .sell) :
    IsMaker owner info ↔ info.holder = owner := by
  simp [IsMaker, h, TakerSide.isTakerBuy]

theorem isMaker_buy {owner : Pubkey} {info : PositionInfo} (h : info.side = .buy) :
    IsMaker owner info ↔ info.writer = owner := by
  simp [IsMaker, h, TakerSide.isTakerBuy]

section Decoded

variable {account : Account} {programId : Pubkey} {info : PositionInfo}

structure Decoded (account : Account) (programId : Pubkey) (info : PositionInfo) : Prop where
  owner : account.owner = programId
  len : account.data.length = positionLen
  discriminator : account.data[0]? = some positionDiscriminator
  status : statusTryFrom (account.data.getD positionOffsetStatus 0) = .ok info.status
  holder : info.holder.toList = slice account.data positionOffsetHolder 32

theorem layout_of_ok {discriminator version : UInt8} {len : ℕ} {u : Unit}
    (h : currentLayout account programId discriminator version len = .ok u) :
    account.owner = programId ∧ account.data[0]? = some discriminator ∧
      account.data.length = len := by
  simp only [currentLayout, validateAccount, bind_ok, refuse_ok, okOr_ok, exists_const] at h
  obtain ⟨⟨howner, found, hfound, hdiscriminator, -⟩, hlayout⟩ := h
  rw [not_not] at howner hdiscriminator
  exact ⟨howner, hdiscriminator ▸ hfound, not_not.mp (not_or.mp hlayout).1⟩

theorem toList_readPubkey {data : List UInt8} {offset : ℕ} {key : Pubkey}
    (h : readPubkey data offset = .ok key) : key.toList = slice data offset 32 := by
  simp only [readPubkey, bind_ok, refuse_ok, exists_const, pure_ok] at h
  obtain ⟨hlen, rfl⟩ := h
  refine FixedBytes.toList_ofList ?_
  rw [slice, List.length_take, List.length_drop]
  omega

theorem decoded_of_ok (h : fromAccount account programId = .ok info) :
    Decoded account programId info := by
  simp only [fromAccount, bind_ok, pure_ok] at h
  obtain ⟨u, hlayout, product, -, strike, -, terms, -, status, hstatus, writer, -, holder, hholder,
    marketPda, -, quantity, -, rfl⟩ := h
  obtain ⟨howner, hdiscriminator, hlen⟩ := layout_of_ok hlayout
  exact ⟨howner, hlen, hdiscriminator, hstatus, toList_readPubkey hholder⟩

end Decoded

section Found

variable {chain : List (Pubkey × Account)} {programId owner : Pubkey} {entry : Pubkey × Account}

theorem mem_programAccounts {filters : List RpcFilter} :
    entry ∈ programAccounts chain programId filters ↔
      entry ∈ chain ∧ entry.2.owner = programId ∧
        ∀ filter ∈ filters, filter.accepts entry.2.data = true := by
  simp only [programAccounts, List.mem_filter, Bool.decide_and, Bool.and_eq_true,
    decide_eq_true_eq, List.all_eq_true]

theorem accepts_discriminator {data : List UInt8} :
    (RpcFilter.memcmp 0 [positionDiscriminator]).accepts data = true ↔
      data[0]? = some positionDiscriminator := by
  cases data with
  | nil => simp [RpcFilter.accepts]
  | cons b data => simp [RpcFilter.accepts, slice]

theorem accepts_holder {data : List UInt8} (hlen : data.length = positionLen) (key : Pubkey) :
    (RpcFilter.memcmp positionOffsetHolder key.toList).accepts data = true ↔
      slice data positionOffsetHolder 32 = key.toList := by
  have hkey : key.toList.length = 32 := key.2
  simp only [RpcFilter.accepts, hkey, hlen, positionLen, positionOffsetHolder, decide_eq_true_eq]
  exact and_iff_right (by decide)

theorem mem_makerAccounts (hlaid : WellLaid chain programId) :
    entry ∈ programAccounts chain programId (makerPositionFilters owner) ↔
      entry ∈ chain ∧ ∃ info, fromAccount entry.2 programId = .ok info ∧ info.holder = owner := by
  rw [mem_programAccounts]
  constructor
  · rintro ⟨hmem, howner, hfilters⟩
    have hlen : entry.2.data.length = positionLen := by
      have haccepts := hfilters (.dataSize positionLen) (by simp [makerPositionFilters])
      simpa [RpcFilter.accepts] using haccepts
    have hdiscriminator := accepts_discriminator.mp (hfilters _ (by simp [makerPositionFilters]))
    obtain ⟨info, hinfo⟩ := hlaid entry hmem howner hlen hdiscriminator
    have hholder := (accepts_holder hlen owner).mp (hfilters _ (by simp [makerPositionFilters]))
    exact ⟨hmem, info, hinfo, FixedBytes.ext ((decoded_of_ok hinfo).holder.trans hholder)⟩
  · rintro ⟨hmem, info, hinfo, rfl⟩
    have hdecoded := decoded_of_ok hinfo
    refine ⟨hmem, hdecoded.owner, fun filter hfilter ↦ ?_⟩
    simp only [makerPositionFilters, List.mem_cons, List.not_mem_nil, or_false] at hfilter
    rcases hfilter with rfl | rfl | rfl
    · simp [RpcFilter.accepts, hdecoded.len]
    · exact accepts_discriminator.mpr hdecoded.discriminator
    · exact (accepts_holder hdecoded.len _).mpr hdecoded.holder.symm

instance (info : PositionInfo) : Decidable (Live info) := inferInstanceAs (Decidable (_ ∨ _))

def kept (programId : Pubkey) (entry : Pubkey × Account) : Option (Pubkey × PositionInfo) :=
  match fromAccount entry.2 programId with
  | .ok info => if Live info then some (entry.1, info) else none
  | .error _ => none

theorem kept_eq_some {key : Pubkey} {info : PositionInfo} :
    kept programId entry = some (key, info) ↔
      entry.1 = key ∧ fromAccount entry.2 programId = .ok info ∧ Live info := by
  unfold kept
  cases hinfo : fromAccount entry.2 programId with
  | error e => simp
  | ok found =>
    by_cases hlive : Live found
    · simp only [hlive, if_true, Option.some.injEq, Prod.mk.injEq, Except.ok.injEq]
      constructor
      · rintro ⟨rfl, rfl⟩
        exact ⟨rfl, rfl, hlive⟩
      · rintro ⟨rfl, rfl, -⟩
        exact ⟨rfl, rfl⟩
    · simp only [hlive, if_false, reduceCtorEq, Except.ok.injEq, false_iff, not_and]
      rintro - rfl
      exact hlive

theorem makerRound_ok {result : List (Pubkey × PositionInfo)} {info : PositionInfo}
    (hinfo : fromAccount entry.2 programId = .ok info) (hholder : info.holder = owner) :
    makerRound programId owner result entry =
      .ok (result ++ (kept programId entry).toList) := by
  unfold makerRound kept Live
  rw [hinfo]
  by_cases hlive : info.status = .opened ∨ info.status = .funded
  · simp [hholder, hlive, refuse, bind, Except.bind, pure, Except.pure]
  · simp [hholder, hlive, refuse, bind, Except.bind, pure, Except.pure]

theorem makerFold_ok {accounts : List (Pubkey × Account)} {result : List (Pubkey × PositionInfo)}
    (h : ∀ entry ∈ accounts, ∃ info, fromAccount entry.2 programId = .ok info ∧
      info.holder = owner) :
    accounts.foldlM (makerRound programId owner) result =
      .ok (result ++ accounts.filterMap (kept programId)) := by
  induction accounts generalizing result with
  | nil => rw [List.filterMap_nil, List.append_nil]; rfl
  | cons entry accounts ih =>
    obtain ⟨info, hinfo, hholder⟩ := h entry List.mem_cons_self
    have htail := @ih (result ++ (kept programId entry).toList)
      fun e he ↦ h e (List.mem_cons_of_mem entry he)
    rw [List.foldlM_cons, makerRound_ok hinfo hholder]
    refine htail.trans ?_
    cases hkept : kept programId entry <;> simp [hkept]

end Found

section Discovery

variable {chain found : List (Pubkey × Account)} {programId owner : Pubkey}

/-- What the scan returns: the live positions that the owner holds, each once. -/
theorem makerOpenPositions_holder (hkeys : (chain.map Prod.fst).Nodup)
    (hlaid : WellLaid chain programId)
    (hfound : found.Perm (programAccounts chain programId (makerPositionFilters owner))) :
    ∃ result, makerOpenPositions programId owner found = .ok result ∧
      (result.map Prod.fst).Nodup ∧
      ∀ key info, (key, info) ∈ result ↔
        OnChain chain programId key info ∧ Live info ∧ info.holder = owner := by
  have hmem : ∀ entry, entry ∈ found ↔ entry ∈ chain ∧
      ∃ info, fromAccount entry.2 programId = .ok info ∧ info.holder = owner :=
    fun entry ↦ hfound.mem_iff.trans (mem_makerAccounts hlaid)
  refine ⟨found.filterMap (kept programId), ?_, ?_, fun key info ↦ ?_⟩
  · exact (makerFold_ok fun entry he ↦ ((hmem entry).mp he).2).trans rfl
  · have hnodup : (found.map Prod.fst).Nodup :=
      (hfound.map Prod.fst).nodup_iff.mpr ((List.filter_sublist.map Prod.fst).nodup hkeys)
    rw [List.Nodup, List.pairwise_map] at hnodup ⊢
    refine hnodup.filterMap _ fun entry entry' hne kept' hkept kept'' hkept' heq ↦ hne ?_
    rw [(kept_eq_some.mp hkept).1, (kept_eq_some.mp hkept').1, heq]
  · rw [List.mem_filterMap]
    constructor
    · rintro ⟨entry, hentry, hkept⟩
      obtain ⟨rfl, hinfo, hlive⟩ := kept_eq_some.mp hkept
      obtain ⟨hchain, info', hinfo', hholder⟩ := (hmem entry).mp hentry
      rw [hinfo, Except.ok.injEq] at hinfo'
      subst hinfo'
      exact ⟨⟨entry.2, hchain, hinfo⟩, hlive, hholder⟩
    · rintro ⟨⟨account, hchain, hinfo⟩, hlive, hholder⟩
      exact ⟨(key, account), (hmem _).mpr ⟨hchain, info, hinfo, hholder⟩,
        kept_eq_some.mpr ⟨rfl, hinfo, hlive⟩⟩

/-- Discovery returns exactly the live positions in which the owner is the maker if and only if the
owner writes the live taker buys that it holds and holds those that it writes. -/
theorem makerOpenPositions_sells (chain : List (Pubkey × Account)) (programId owner : Pubkey)
    (found : List (Pubkey × Account)) (hkeys : (chain.map Prod.fst).Nodup)
    (hlaid : WellLaid chain programId)
    (hfound : found.Perm (programAccounts chain programId (makerPositionFilters owner))) :
    (∃ result, makerOpenPositions programId owner found = .ok result ∧
      (result.map Prod.fst).Nodup ∧
      ∀ key info, (key, info) ∈ result ↔
        OnChain chain programId key info ∧ Live info ∧ IsMaker owner info) ↔
      ∀ key info, OnChain chain programId key info → Live info → info.side = .buy →
        (info.writer = owner ↔ info.holder = owner) := by
  obtain ⟨result, hresult, hnodup, hmem⟩ := makerOpenPositions_holder hkeys hlaid hfound
  constructor
  · rintro ⟨result', hresult', -, hmem'⟩ key info honchain hlive hside
    rw [hresult, Except.ok.injEq] at hresult'
    subst hresult'
    have hsame := (hmem' key info).symm.trans (hmem key info)
    simp only [honchain, hlive, true_and] at hsame
    rw [← isMaker_buy hside]
    exact hsame
  · intro hbuys
    refine ⟨result, hresult, hnodup, fun key info ↦ (hmem key info).trans ?_⟩
    refine and_congr_right fun honchain ↦ and_congr_right fun hlive ↦ ?_
    cases hside : info.side with
    | sell => exact (isMaker_sell hside).symm
    | buy => exact (hbuys key info honchain hlive hside).symm.trans (isMaker_buy hside).symm

end Discovery

section Sample

def sampleProgram : Pubkey := keyOfNat 1
def sampleOwner : Pubkey := keyOfNat 2
def sampleOther : Pubkey := keyOfNat 3

def sampleAccount (flags : UInt8) (writer holder : Pubkey) : Account where
  owner := sampleProgram
  data := [1, 2, 0, 0, 1, flags, 0, 0] ++ writer.toList ++ holder.toList ++ List.replicate 352 0

def sampleInfo (flags : UInt8) (side : TakerSide) (writer holder : Pubkey) : PositionInfo where
  terms := .coveredCall 0
  side
  flags
  flags2 := 0
  flags3 := 0
  status := .opened
  writer
  holder
  marketPda := .ofList 32 []
  quantity := 0
  orderId := .ofList 32 []

def sampleSell : List (Pubkey × Account) := [(keyOfNat 5, sampleAccount 0 sampleOther sampleOwner)]

theorem sampleSell_decodes : fromAccount (sampleAccount 0 sampleOther sampleOwner) sampleProgram =
    .ok (sampleInfo 0 .sell sampleOther sampleOwner) := by
  decide +kernel

theorem makerOpenPositions_sells_one :
    ∃ result, makerOpenPositions sampleProgram sampleOwner
        (programAccounts sampleSell sampleProgram (makerPositionFilters sampleOwner)) = .ok result ∧
      (keyOfNat 5, sampleInfo 0 .sell sampleOther sampleOwner) ∈ result := by
  have hlaid : WellLaid sampleSell sampleProgram := by
    intro entry hentry _ _ _
    rw [List.mem_singleton.mp hentry]
    exact ⟨_, sampleSell_decodes⟩
  have hsells : ∀ key info, OnChain sampleSell sampleProgram key info → Live info →
      info.side = .buy → (info.writer = sampleOwner ↔ info.holder = sampleOwner) := by
    rintro key info ⟨account, hmem, hinfo⟩ - hside
    obtain ⟨rfl, rfl⟩ := Prod.mk.inj (List.mem_singleton.mp hmem)
    rw [sampleSell_decodes, Except.ok.injEq] at hinfo
    subst hinfo
    cases hside
  obtain ⟨result, hresult, -, hmem⟩ := (makerOpenPositions_sells sampleSell sampleProgram
    sampleOwner _ (by decide +kernel) hlaid (List.Perm.refl _)).mpr hsells
  refine ⟨result, hresult, (hmem _ _).mpr ⟨⟨_, List.mem_singleton_self _, sampleSell_decodes⟩,
    .inl rfl, rfl⟩⟩

/-- One buy the owner writes and one the owner holds: discovery misses the first, in which the
owner is the maker, and returns the second, in which it is not. -/
theorem makerOpenPositions_buys :
    let written := sampleInfo 4 .buy sampleOwner sampleOther
    let held := sampleInfo 4 .buy sampleOther sampleOwner
    let chain := [(keyOfNat 5, sampleAccount 4 sampleOwner sampleOther),
      (keyOfNat 6, sampleAccount 4 sampleOther sampleOwner)]
    makerOpenPositions sampleProgram sampleOwner
        (programAccounts chain sampleProgram (makerPositionFilters sampleOwner)) =
      .ok [(keyOfNat 6, held)] ∧ ¬IsMaker sampleOwner held ∧
    fromAccount (sampleAccount 4 sampleOwner sampleOther) sampleProgram = .ok written ∧
    Live written ∧ IsMaker sampleOwner written := by
  refine ⟨by decide +kernel, ?_, by decide +kernel, .inl rfl, rfl⟩
  rw [isMaker_buy rfl]
  decide +kernel

end Sample

end MakerSdk.Holdings
