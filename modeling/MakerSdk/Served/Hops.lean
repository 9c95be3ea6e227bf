import MakerSdk.Base.Lists
import MakerSdk.Vault.Errors
import MakerSdk.Vault.Swap

namespace MakerSdk.Served

open Base.Bytes Base.Checks Solana Vault

def hopsTruncated : VaultIntentError := .route "swap hops are truncated"

def splitAtChecked {α : Type} (n : ℕ) (l : List α) : Except VaultIntentError (List α × List α) :=
  if n ≤ l.length then .ok (l.take n, l.drop n) else .error hopsTruncated

def servedAmountOffset (offset : UInt16) (rest : List UInt8) :
    Except VaultIntentError (Option VaultSwapAmountOffset × List UInt8) :=
  if offset = noAmountOffset then pure (none, rest) else do
    let (num, rest) ← splitAtChecked 8 rest
    let (den, rest) ← splitAtChecked 8 rest
    pure (some ⟨offset, u64OfLe num, u64OfLe den⟩, rest)

def servedHop : List UInt8 → List AccountMeta →
    Except VaultIntentError (VaultSwapHop × List UInt8 × List AccountMeta)
  | accountCount :: lo :: hi :: offsetLo :: offsetHi :: rest, accounts => do
    let (amountOffset, rest) ← servedAmountOffset (u16OfLe [offsetLo, offsetHi]) rest
    let (hopData, rest) ← splitAtChecked (u16OfLe [lo, hi]).toNat rest
    match accounts with
    | program :: source :: destination :: tail => do
      let (cpi, tail) ← splitAtChecked accountCount.toNat tail
      pure (⟨program.pubkey, source.pubkey, destination.pubkey, cpi, hopData, amountOffset⟩,
        rest, tail)
    | _ => .error hopsTruncated
  | _, _ => .error hopsTruncated

def servedHopsRest : ℕ → List UInt8 → List AccountMeta →
    Except VaultIntentError (List VaultSwapHop × List UInt8 × List AccountMeta)
  | 0, data, accounts => pure ([], data, accounts)
  | count + 1, data, accounts => do
    let (hop, data, accounts) ← servedHop data accounts
    let (hops, rest) ← servedHopsRest count data accounts
    pure (hop :: hops, rest)

def servedHops (count : UInt8) (data : List UInt8) (accounts : List AccountMeta) :
    Except VaultIntentError (List VaultSwapHop) := do
  let (hops, _) ← servedHopsRest count.toNat data accounts
  pure hops

def fixedLayout (kind : VaultSwapKind) (swap : Instruction) :
    Except VaultIntentError (List AccountMeta × List UInt8) := do
  refuse (swap.accounts.length < kind.fixedAccounts ∨ swap.data.length < kind.headerLen)
    (.route "swap instruction is shorter than its fixed layout")
  pure (swap.accounts.drop kind.fixedAccounts, swap.data.drop kind.headerLen)

/-- A hop as its CPI carries it: the signer flags of its accounts are cleared. -/
def clearSigners (hop : VaultSwapHop) : VaultSwapHop :=
  { hop with accounts := hop.accounts.map clearSigner }

structure HopEncodable (hop : VaultSwapHop) : Prop where
  accounts : hop.accounts.length < 256
  data : hop.data.length < 65536
  amount : ∀ amount ∈ hop.amountOffset, amount.offset ≠ noAmountOffset

theorem HopsValid.encodable {vault input output source : Pubkey} {index : ℕ}
    {hops : List VaultSwapHop} (h : HopsValid vault input output source index hops)
    (hdata : (hops.map (fun hop ↦ hop.data.length)).sum ≤ maxVaultSwapRouteData) :
    ∀ hop ∈ hops, HopEncodable hop := by
  induction hops generalizing source index with
  | nil => simp
  | cons hop hops ih =>
    obtain ⟨hhop, hhops⟩ := h
    simp only [List.map_cons, List.sum_cons, maxVaultSwapRouteData] at hdata ih
    intro hop' hmem
    rcases List.mem_cons.mp hmem with rfl | hmem
    · have haccounts := hhop.accounts.2
      simp only [maxVaultSwapRouteAccounts] at haccounts
      exact ⟨by omega, by omega, fun amount ha ↦ (hhop.amount amount ha).2.1⟩
    · exact ih hhops (by omega) hop' hmem

@[simp] theorem splitAtChecked_append {α : Type} {n : ℕ} {l l' : List α} (h : l.length = n) :
    splitAtChecked n (l ++ l') = .ok (l, l') := by
  subst h
  simp [splitAtChecked]

theorem exists_u16ToLe (x : UInt16) : ∃ lo hi, u16ToLe x = [lo, hi] ∧ u16OfLe [lo, hi] = x := by
  obtain ⟨lo, hi, h⟩ := List.length_eq_two.mp (length_u16ToLe x)
  exact ⟨lo, hi, h, by rw [← h, u16OfLe_toLe]⟩

theorem servedAmountOffset_encode {amountOffset : Option VaultSwapAmountOffset}
    (h : ∀ amount ∈ amountOffset, amount.offset ≠ noAmountOffset) (rest : List UInt8) :
    ∃ lo hi body, encodeAmountOffset amountOffset = lo :: hi :: body ∧
      servedAmountOffset (u16OfLe [lo, hi]) (body ++ rest) = .ok (amountOffset, rest) := by
  cases amountOffset with
  | none =>
    obtain ⟨lo, hi, he, hd⟩ := exists_u16ToLe noAmountOffset
    exact ⟨lo, hi, [], he, by rw [hd]; rfl⟩
  | some amount =>
    obtain ⟨lo, hi, he, hd⟩ := exists_u16ToLe amount.offset
    refine ⟨lo, hi, u64ToLe amount.num ++ u64ToLe amount.den, by simp [encodeAmountOffset, he], ?_⟩
    rw [hd, servedAmountOffset, if_neg (h amount rfl), List.append_assoc,
      splitAtChecked_append (length_u64ToLe _), Base.Checks.bind_ok]
    exact ⟨_, rfl, by simp⟩

theorem servedHop_encode {hop : VaultSwapHop} (h : HopEncodable hop) (data : List UInt8)
    (accounts : List AccountMeta) :
    servedHop (hop.encodeData ++ data) (hop.encodeAccounts ++ accounts) =
      .ok (clearSigners hop, data, accounts) := by
  obtain ⟨lo, hi, hlen, hlenOf⟩ := exists_u16ToLe (.ofNat hop.data.length)
  obtain ⟨offsetLo, offsetHi, body, hoffset, hamount⟩ :=
    servedAmountOffset_encode h.amount (hop.data ++ data)
  have hdata : (UInt16.ofNat hop.data.length).toNat = hop.data.length := by
    rw [UInt16.toNat_ofNat', Nat.mod_eq_of_lt h.data]
  have haccounts : (UInt8.ofNat hop.accounts.length).toNat = hop.accounts.length := by
    rw [UInt8.toNat_ofNat', Nat.mod_eq_of_lt h.accounts]
  simp only [VaultSwapHop.encodeData, VaultSwapHop.encodeAccounts, hlen, hoffset, List.cons_append,
    List.nil_append, List.append_assoc, servedHop, hamount, hlenOf, hdata, haccounts, bind_ok]
  refine ⟨_, rfl, _, splitAtChecked_append rfl, _, splitAtChecked_append (by simp), ?_⟩
  rfl

theorem servedHopsRest_encode {hops : List VaultSwapHop} (h : ∀ hop ∈ hops, HopEncodable hop)
    (data : List UInt8) (accounts : List AccountMeta) :
    servedHopsRest hops.length (hops.flatMap VaultSwapHop.encodeData ++ data)
      (hops.flatMap VaultSwapHop.encodeAccounts ++ accounts) =
      .ok (hops.map clearSigners, data, accounts) := by
  induction hops with
  | nil => rfl
  | cons hop hops ih =>
    have hhop := servedHop_encode (h hop List.mem_cons_self)
    have hhops := ih (fun hop' hmem ↦ h hop' (List.mem_cons_of_mem hop hmem))
    simp only [List.length_cons, List.flatMap_cons, List.append_assoc, servedHopsRest, bind_ok]
    exact ⟨_, hhop _ _, _, hhops, rfl⟩

/-- What the verifier takes out of a swap of known kind whose price section has a known length. -/
structure SwapSplit where
  amountIn : UInt64
  minimumOut : UInt64
  validUntil : UInt64
  generation : Option UInt64
  priceSection : List AccountMeta
  recoveryTail : List AccountMeta
  hops : List VaultSwapHop
  unreadData : List UInt8
  unreadAccounts : List AccountMeta

def recoveryTailLen : VaultSwapKind → ℕ
  | .recoveryStage _ _ mainPriceSection => 2 + mainPriceSection.length
  | _ => 0

def hopCount (kind : VaultSwapKind) (swap : Instruction) : UInt8 :=
  (swap.data.drop (kind.headerLen - 1)).headD 0

def splitSwap (kind : VaultSwapKind) (priceLen : ℕ) (swap : Instruction) :
    Except VaultIntentError SwapSplit := do
  let (priced, hopData) ← fixedLayout kind swap
  let tailed := priced.drop priceLen
  let hopAccounts := tailed.drop (recoveryTailLen kind)
  let (hops, unreadData, unreadAccounts) ←
    servedHopsRest (hopCount kind swap).toNat hopData hopAccounts
  let field (i : ℕ) := u64OfLe ((swap.data.drop (kind.leading.length + 8 * i)).take 8)
  pure {
    amountIn := field 0
    minimumOut := field 1
    validUntil := field 2
    generation := kind.generation.map (fun _ ↦ field 3)
    priceSection := priced.take priceLen
    recoveryTail := tailed.take (recoveryTailLen kind)
    hops, unreadData, unreadAccounts }

section Layout

variable {P : Platform} {manager : VaultManager} {kind kind' : VaultSwapKind}
  {plan plan' : VaultSwapPlan} {ix : Instruction}

theorem drop_header : (manager.swapLayout P kind plan).data.drop (kind.headerLen - 1) =
    .ofNat plan.hops.length :: plan.hops.flatMap VaultSwapHop.encodeData := by
  have hlen := @VaultManager.length_header kind
  have hdata : (manager.swapLayout P kind plan).data =
      (kind.leading ++ u64ToLe plan.amountIn ++ u64ToLe plan.minimumOut ++
        u64ToLe plan.validUntil ++ kind.generationBytes) ++
      .ofNat plan.hops.length :: plan.hops.flatMap VaultSwapHop.encodeData := by
    simp [VaultManager.swapLayout]
  rw [hdata]
  apply List.drop_left'
  simp only [List.length_append, length_u64ToLe]
  omega

theorem fixedLayout_swapLayout : fixedLayout kind (manager.swapLayout P kind plan) =
    .ok (plan.priceSection ++ (manager.swapTail kind ++
      plan.hops.flatMap VaultSwapHop.encodeAccounts),
      plan.hops.flatMap VaultSwapHop.encodeData) := by
  have hheader := @VaultManager.length_header kind
  have hdrop := @drop_header P manager kind plan
  have hlen := congrArg List.length hdrop
  have haccounts := @VaultManager.length_swapAccounts P manager kind
  have hdata := congrArg (List.drop 1) hdrop
  rw [List.drop_drop, show kind.headerLen - 1 + 1 = kind.headerLen by omega] at hdata
  simp only [List.length_drop, List.length_cons] at hlen
  simp only [fixedLayout, bind_ok, refuse_ok, pure_ok, exists_const, hdata]
  refine ⟨?_, ?_⟩
  · rw [not_or]
    refine ⟨?_, by omega⟩
    simp only [VaultManager.swapLayout, List.length_append]
    omega
  · rw [VaultManager.swapLayout, ← haccounts, List.drop_left]
    rfl

theorem u64OfLe_field {l b c : List UInt8} {n : ℕ} {x : UInt64}
    (hl : l = b ++ (u64ToLe x ++ c)) (hn : b.length = n) :
    u64OfLe ((l.drop n).take 8) = x := by
  rw [hl, List.drop_left' hn, List.take_left' (length_u64ToLe x), u64OfLe_toLe]

theorem recoveryTailLen_eq : recoveryTailLen kind = (manager.swapTail kind).length := by
  cases kind <;> simp [recoveryTailLen, VaultManager.swapTail, VaultManager.recoveryTail]
  omega

theorem splitSwap_swapLayout (hcount : plan.hops.length < 256)
    (hhops : ∀ hop ∈ plan.hops, HopEncodable hop) :
    splitSwap kind plan.priceSection.length (manager.swapLayout P kind plan) = .ok {
      amountIn := plan.amountIn
      minimumOut := plan.minimumOut
      validUntil := plan.validUntil
      generation := kind.generation
      priceSection := plan.priceSection
      recoveryTail := manager.swapTail kind
      hops := plan.hops.map clearSigners
      unreadData := []
      unreadAccounts := [] } := by
  have hread := servedHopsRest_encode hhops [] []
  have hlen : (UInt8.ofNat plan.hops.length).toNat = plan.hops.length := by
    rw [UInt8.toNat_ofNat', Nat.mod_eq_of_lt hcount]
  simp only [List.append_nil] at hread
  simp only [splitSwap, bind_ok, fixedLayout_swapLayout, hopCount, drop_header,
    List.headD_cons, hlen, @recoveryTailLen_eq manager kind, pure_ok]
  refine ⟨_, rfl, (plan.hops.map clearSigners, [], []), ?_, ?_⟩
  · simpa only [List.drop_left] using hread
  · simp only [List.drop_left, List.take_left, SwapSplit.mk.injEq, and_true]
    refine ⟨?_, ?_, ?_, ?_⟩
    · exact u64OfLe_field rfl rfl
    · exact u64OfLe_field (b := kind.leading ++ u64ToLe plan.amountIn)
        (by rw [List.append_assoc]; rfl) (by simp)
    · exact u64OfLe_field
        (b := kind.leading ++ (u64ToLe plan.amountIn ++ u64ToLe plan.minimumOut))
        (by simp only [List.append_assoc]; rfl) (by simp)
    · cases hg : kind.generation with
      | none => rfl
      | some generation =>
        exact congrArg some (u64OfLe_field
          (b := kind.leading ++ (u64ToLe plan.amountIn ++ (u64ToLe plan.minimumOut ++
            u64ToLe plan.validUntil)))
          (by simp only [List.append_assoc, VaultManager.swapLayout, VaultSwapKind.generationBytes,
            hg]; rfl)
          (by simp))

theorem encodeData_inj {hop hop' : VaultSwapHop} (h : HopEncodable hop) (h' : HopEncodable hop')
    {data data' : List UInt8} (he : hop.encodeData ++ data = hop'.encodeData ++ data') :
    hop.accounts.length = hop'.accounts.length ∧ data = data' := by
  simp only [VaultSwapHop.encodeData, List.cons_append, List.append_assoc] at he
  obtain ⟨hcount, he⟩ := List.cons.inj he
  obtain ⟨hlen, he⟩ := List.append_inj he (by simp)
  obtain ⟨lo, hi, body, hb, hread⟩ := servedAmountOffset_encode h.amount (hop.data ++ data)
  obtain ⟨lo', hi', body', hb', hread'⟩ := servedAmountOffset_encode h'.amount (hop'.data ++ data')
  simp only [hb, hb', List.cons_append, List.cons.injEq] at he
  obtain ⟨rfl, rfl, he⟩ := he
  rw [he, hread'] at hread
  have hrest := congrArg Prod.snd (Except.ok.inj hread)
  have hcount := congrArg UInt8.toNat hcount
  have hlen := congrArg UInt16.toNat (by simpa using congrArg u16OfLe hlen)
  simp only [UInt8.toNat_ofNat', UInt16.toNat_ofNat', Nat.mod_eq_of_lt h.accounts,
    Nat.mod_eq_of_lt h'.accounts, Nat.mod_eq_of_lt h.data, Nat.mod_eq_of_lt h'.data] at hcount hlen
  exact ⟨hcount, ((List.append_inj hrest hlen.symm).2).symm⟩

theorem length_encodeAccounts_eq {hops hops' : List VaultSwapHop}
    (h : ∀ hop ∈ hops, HopEncodable hop) (h' : ∀ hop ∈ hops', HopEncodable hop)
    (hlen : hops.length = hops'.length)
    (he : hops.flatMap VaultSwapHop.encodeData = hops'.flatMap VaultSwapHop.encodeData) :
    (hops.flatMap VaultSwapHop.encodeAccounts).length =
      (hops'.flatMap VaultSwapHop.encodeAccounts).length := by
  induction hops generalizing hops' with
  | nil =>
    obtain rfl := List.length_eq_zero_iff.mp hlen.symm
    rfl
  | cons hop hops ih =>
    obtain ⟨hop', hops', rfl⟩ := List.exists_cons_of_length_eq_add_one hlen.symm
    simp only [List.flatMap_cons, List.length_cons, Nat.add_right_cancel_iff] at he hlen
    rw [List.forall_mem_cons] at h h'
    obtain ⟨haccounts, hdata⟩ := encodeData_inj h.1 h'.1 he
    have hrest := ih h.2 h'.2 hlen hdata
    simp only [List.flatMap_cons, List.length_append, VaultSwapHop.encodeAccounts,
      List.length_cons, List.length_map, haccounts, hrest]

theorem leading_ne_nil : kind.leading ≠ [] := by
  cases kind <;> simp [VaultSwapKind.leading]

theorem widths_eq (h : kind.leading.head? = kind'.leading.head?) :
    kind.leading.length = kind'.leading.length ∧
      kind.generationBytes.length = kind'.generationBytes.length ∧
        kind.fixedAccounts = kind'.fixedAccounts := by
  cases kind <;> cases kind' <;>
    first | exact ⟨rfl, rfl, rfl⟩ | exact absurd h (by simp [VaultSwapKind.leading, VaultIx.toByte])

theorem stepByte_inj {step step' : VaultStagingStep}
    (h : VaultManager.stepByte step = VaultManager.stepByte step') : step = step' := by
  cases step <;> cases step' <;> simp_all [VaultManager.stepByte]

theorem legByte_inj {leg leg' : VaultLeg}
    (h : VaultManager.legByte leg = VaultManager.legByte leg') : leg = leg' := by
  cases leg <;> cases leg' <;> simp_all [VaultManager.legByte]

theorem stepByte_ne_two (step : VaultStagingStep) : VaultManager.stepByte step ≠ 2 := by
  cases step <;> decide

theorem stagingAccounts_inj {leg : VaultLeg} {asset asset' : VaultStagingAsset}
    (h : manager.stagingAccounts P leg asset ++ [manager.swapVenuesAccount] =
      manager.stagingAccounts P leg asset' ++ [manager.swapVenuesAccount]) : asset = asset' := by
  rw [List.append_left_inj] at h
  simp only [VaultManager.stagingAccounts, List.append_cancel_left_eq, List.cons.injEq,
    AccountMeta.newReadonly, AccountMeta.mk.injEq, and_true, true_and] at h
  cases asset
  cases asset'
  simp_all

theorem kind_eq (hleading : kind.leading = kind'.leading)
    (hgeneration : kind.generationBytes = kind'.generationBytes)
    (haccounts : manager.swapAccounts P kind = manager.swapAccounts P kind')
    (htail : manager.swapTail kind = manager.swapTail kind') : kind = kind' := by
  have hu64 {x y : UInt64} (h : u64ToLe x = u64ToLe y) : x = y := by
    simpa using congrArg u64OfLe h
  cases kind with
  | rebalance secondToMain =>
    cases kind' with
    | rebalance secondToMain' =>
      have h := (List.cons.inj (List.cons.inj hleading).2).1
      cases secondToMain <;> cases secondToMain' <;> simp_all [Bool.toUInt8]
    | _ => simp [VaultSwapKind.leading, VaultIx.toByte] at hleading
  | recovery => cases kind' <;> simp_all [VaultSwapKind.leading, VaultIx.toByte]
  | closing => cases kind' <;> simp_all [VaultSwapKind.leading, VaultIx.toByte]
  | recoveryStage asset generation mainPriceSection =>
    cases kind' with
    | recoveryStage asset' generation' mainPriceSection' =>
      obtain rfl := stagingAccounts_inj haccounts
      obtain rfl := hu64 hgeneration
      simp_all [VaultManager.swapTail, VaultManager.recoveryTail]
    | staging step' =>
      have h := (List.cons.inj (List.cons.inj hleading).2).1
      exact absurd h.symm (stepByte_ne_two step')
    | _ => simp [VaultSwapKind.leading, VaultIx.toByte] at hleading
  | staging step leg asset generation =>
    cases kind' with
    | staging step' leg' asset' generation' =>
      have h := (List.cons.inj hleading).2
      obtain rfl := stepByte_inj (List.cons.inj h).1
      obtain rfl := legByte_inj (List.cons.inj (List.cons.inj h).2).1
      obtain rfl := stagingAccounts_inj haccounts
      obtain rfl := hu64 hgeneration
      rfl
    | recoveryStage =>
      have h := (List.cons.inj (List.cons.inj hleading).2).1
      exact absurd h (stepByte_ne_two step)
    | _ => simp [VaultSwapKind.leading, VaultIx.toByte] at hleading

/-- The writable main custody account marks where the tail of a recovery stage begins. -/
theorem swapTail_inj (hleading : kind.leading = kind'.leading) (ht : VaultManager.TailValid kind)
    (ht' : VaultManager.TailValid kind') {a a' : List AccountMeta}
    (h : a ++ manager.swapTail kind = a' ++ manager.swapTail kind') :
    a = a' ∧ manager.swapTail kind = manager.swapTail kind' := by
  have hmarker {main : List AccountMeta} (hmain : ∀ account ∈ main, account.isWritable = false ∧
      account.isSigner = false) : AccountMeta.new manager.addresses.vaultMainAta false ∉
        .newReadonly manager.args.mainTokenProgram false :: main := by
    intro hmem
    rcases List.mem_cons.mp hmem with he | hmem
    · exact absurd (congrArg AccountMeta.isWritable he) (by simp [AccountMeta.new,
        AccountMeta.newReadonly])
    · exact absurd (hmain _ hmem).1 (by simp [AccountMeta.new])
  cases kind with
  | recoveryStage asset generation main =>
    cases kind' with
    | recoveryStage asset' generation' main' =>
      obtain ⟨rfl, htail⟩ := Base.Lists.append_cons_inj (hmarker ht.2) (hmarker ht'.2) h
      exact ⟨rfl, congrArg (List.cons _) htail⟩
    | staging step' =>
      have h := (List.cons.inj (List.cons.inj hleading).2).1
      exact absurd h.symm (stepByte_ne_two step')
    | _ => simp [VaultSwapKind.leading, VaultIx.toByte] at hleading
  | staging step =>
    cases kind' with
    | recoveryStage =>
      have h := (List.cons.inj (List.cons.inj hleading).2).1
      exact absurd h (stepByte_ne_two step)
    | _ => simpa [VaultManager.swapTail] using h
  | _ =>
    cases kind' with
    | recoveryStage => simp [VaultSwapKind.leading, VaultIx.toByte] at hleading
    | _ => simpa [VaultManager.swapTail] using h

def clearPlanSigners (plan : VaultSwapPlan) : VaultSwapPlan :=
  { plan with hops := plan.hops.map clearSigners }

theorem swapLayout_inj (hcount : plan.hops.length < 256) (hcount' : plan'.hops.length < 256)
    (hhops : ∀ hop ∈ plan.hops, HopEncodable hop) (hhops' : ∀ hop ∈ plan'.hops, HopEncodable hop)
    (ht : VaultManager.TailValid kind) (ht' : VaultManager.TailValid kind')
    (h : manager.swapLayout P kind plan = manager.swapLayout P kind' plan') :
    kind = kind' ∧ clearPlanSigners plan = clearPlanSigners plan' := by
  have hdata := congrArg Instruction.data h
  have haccounts := congrArg Instruction.accounts h
  simp only [VaultManager.swapLayout] at hdata haccounts
  -- the header, field by field
  have hhead : kind.leading.head? = kind'.leading.head? := by
    have hhead := congrArg List.head? hdata
    rwa [List.head?_append_of_ne_nil _ leading_ne_nil,
      List.head?_append_of_ne_nil _ leading_ne_nil] at hhead
  obtain ⟨hlen, hglen, hfixed⟩ := widths_eq hhead
  obtain ⟨hleading, hdata⟩ := List.append_inj hdata hlen
  obtain ⟨hin, hdata⟩ := List.append_inj hdata (by simp)
  obtain ⟨hout, hdata⟩ := List.append_inj hdata (by simp)
  obtain ⟨hvalid, hdata⟩ := List.append_inj hdata (by simp)
  obtain ⟨hgeneration, hdata⟩ := List.append_inj hdata hglen
  obtain ⟨hnum, hdata⟩ := List.cons.inj hdata
  have hnum := congrArg UInt8.toNat hnum
  simp only [UInt8.toNat_ofNat', Nat.mod_eq_of_lt hcount, Nat.mod_eq_of_lt hcount'] at hnum
  -- the records fix how many accounts belong to the hops, so the sections before them match
  obtain ⟨hsection, haccounts⟩ := List.append_inj haccounts
    (by simp only [VaultManager.length_swapAccounts, hfixed])
  rw [← List.append_assoc, ← List.append_assoc] at haccounts
  obtain ⟨hprice, haccounts⟩ := List.append_inj' haccounts
    (length_encodeAccounts_eq hhops hhops' hnum hdata)
  obtain ⟨hprice, htail⟩ := swapTail_inj hleading ht ht' hprice
  have hread := servedHopsRest_encode hhops [] []
  rw [hdata, haccounts, hnum, servedHopsRest_encode hhops' [] []] at hread
  have hhops := congrArg Prod.fst (Except.ok.inj hread)
  refine ⟨kind_eq hleading hgeneration hsection htail, ?_⟩
  have hin := congrArg u64OfLe hin
  have hout := congrArg u64OfLe hout
  have hvalid := congrArg u64OfLe hvalid
  simp only [u64OfLe_toLe] at hin hout hvalid
  simp only [clearPlanSigners, VaultSwapPlan.mk.injEq]
  exact ⟨hprice, hin, hout, hvalid, hhops.symm⟩

theorem layout_of_swap (h : manager.swap P kind plan = .ok ix) :
    manager.swapLayout P kind plan = ix ∧ VaultManager.TailValid kind ∧
      plan.hops.length < 256 ∧ ∀ hop ∈ plan.hops, HopEncodable hop := by
  obtain ⟨⟨input, output, _, hvalid⟩, ht, hix⟩ := VaultManager.swap_ok.mp h
  have hcount := hvalid.count.2
  simp only [maxVaultSwapHops] at hcount
  exact ⟨hix, ht, by omega, HopsValid.encodable hvalid.hops hvalid.caps.2⟩

end Layout

/-- Splitting a built swap returns what it was built from and leaves nothing unread, and the
instruction determines the kind and the plan up to the signer flags of hop accounts. -/
theorem swap_encoding (P : Platform) (manager : VaultManager) :
    (∀ kind plan ix, manager.swap P kind plan = .ok ix →
      splitSwap kind plan.priceSection.length ix = .ok {
        amountIn := plan.amountIn
        minimumOut := plan.minimumOut
        validUntil := plan.validUntil
        generation := kind.generation
        priceSection := plan.priceSection
        recoveryTail := manager.swapTail kind
        hops := plan.hops.map clearSigners
        unreadData := []
        unreadAccounts := [] }) ∧
    (∀ kind plan kind' plan' ix, manager.swap P kind plan = .ok ix →
      manager.swap P kind' plan' = .ok ix →
        kind = kind' ∧ clearPlanSigners plan = clearPlanSigners plan') ∧
    ∀ asset generation mainPriceSection plan step leg asset' generation' plan' ix ix',
      manager.swap P (.recoveryStage asset generation mainPriceSection) plan = .ok ix →
        manager.swap P (.staging step leg asset' generation') plan' = .ok ix' → ix ≠ ix' := by
  have hinj : ∀ kind plan kind' plan' ix, manager.swap P kind plan = .ok ix →
      manager.swap P kind' plan' = .ok ix →
        kind = kind' ∧ clearPlanSigners plan = clearPlanSigners plan' := by
    intro kind plan kind' plan' ix h h'
    obtain ⟨hix, ht, hcount, hhops⟩ := layout_of_swap h
    obtain ⟨hix', ht', hcount', hhops'⟩ := layout_of_swap h'
    exact swapLayout_inj hcount hcount' hhops hhops' ht ht' (hix.trans hix'.symm)
  refine ⟨?_, hinj, ?_⟩
  · intro kind plan ix h
    obtain ⟨rfl, _, hcount, hhops⟩ := layout_of_swap h
    exact splitSwap_swapLayout hcount hhops
  · intro asset generation mainPriceSection plan step leg asset' generation' plan' ix ix' h h' he
    have hkind := (hinj _ _ _ _ _ h (he ▸ h')).1
    cases hkind

/-! A recovery that stages the second leg through one venue. -/
namespace Recovery

def stagingMint : Pubkey :=
  keyOfNat 0xa7e91415898c7d41063db30d83d3769802969ad8b95f4f296cf94d06cc10b52
def stagingAta : Pubkey :=
  keyOfNat 0xa98fa05754f480df6c0c0b084db27bd6ca33a0f27377ca323aca266cb1156a0f
def secondFeed : Pubkey :=
  keyOfNat 0x665effdb2ee917a4cb43fcc715d67ae98c593e4ce7df4eb3d4a3a821c343ed77
def stagingRoute : Pubkey :=
  keyOfNat 0xfa956cefd199bc7c8592ff49ffef22e2d2f7f5208ad3467d5a6235f665d81745
def pool : Pubkey := keyOfNat 0xa7e913a8c3da843d32a9c9d6399aafc99784c66dd2790532fc929e9b6ee4fd3
def poolProgramData : Pubkey :=
  keyOfNat 0xfbddc199837471dd82a0ea89e2ed1bae157e4b25c41267b1be49e1e2dc808a04
def stagingFeed : Pubkey :=
  keyOfNat 0xc044abe4c4e7814a87555e2fc6605566e28b25151580c95cd78230a6607d702d
def mainFeed : Pubkey := keyOfNat 0xf7f677b5cb87425566468703daefff594bd252f6da5b447682a5122bdc886ca0
def venue : Pubkey := keyOfNat 0x479d55bf231c06eee74c56ece681507fdb1b2dea3f48e5102b1cda256bc138f
def venueState : Pubkey :=
  keyOfNat 0x4646464646464646464646464646464646464646464646464646464646464646

def swapper : VaultManager where
  args := {
    programId := keyOfNat 0x101010101010101010101010101010101010101010101010101010101010101
    vaultId := .ofList 32 (List.replicate 32 60)
    actor := keyOfNat 0x5526f742941711b3bc530ba44ff6f6dab0f0ab71af832f41a7fe3b9fdaed9c60
    delegateAuthority := keyOfNat 0x5526f742941711b3bc530ba44ff6f6dab0f0ab71af832f41a7fe3b9fdaed9c60
    mainMint := keyOfNat 0x202020202020202020202020202020202020202020202020202020202020202
    secondMint := keyOfNat 0x303030303030303030303030303030303030303030303030303030303030303
    shareMint := keyOfNat 0xa0a0a0a0a0a0a0a0a0a0a0a0a0a0a0a0a0a0a0a0a0a0a0a0a0a0a0a0a0a0a0a0
    mainTokenProgram := tokenProgramId
    secondTokenProgram := token2022ProgramId
    secondLegGeneration := 0 }
  addresses := {
    vault := keyOfNat 0x3ba4d72671be7b3db6606e77598565371a4966f2e146a8c2611a96954090cac5
    policy := keyOfNat 0x92aaace5bc9b00353f12eb3d5930b98522737d77e87fa6775ec9b0dc47dc166c
    delegate := keyOfNat 0xcf746b4ec25f86960943c3a1d3eac22d6e329d22ea2d89e711a2070bd225b53d
    globalConfig := keyOfNat 0x27a625d2b939f5ac2afe5e50edba6b5d64245a39935768a1f17c50d149870141
    swapVenues := keyOfNat 0x9413e902673d240bed5537980b7f2813bc3881720925c382d4285eec45f8e9de
    mainPriceRoute := keyOfNat 0x7b01c5b5261a736d43cafc2ccbe5c5e8e0658ce25e3f000dc99f508990f39675
    secondPriceRoute := keyOfNat 0xec276f75b24b50fff591d976bf27761f77ccfaa410beda3acb7cb0593817b0c2
    managerStakeAuthority :=
      keyOfNat 0x4c51d18f2d59bdc12813ce4216a50b8bf1da1379af61f17bec472a6af32c6b2d
    vaultMainAta := keyOfNat 0x90b532b7f21054c8d14b4c21401e1d85ff0cd5552605cccdd7d158de003f10e8
    vaultSecondAta := keyOfNat 0x6a4991d5a7aa02cb2890e1c65f54da64c0b056d3789ca408279a5c61afe58491
    managerStakeAta := keyOfNat 0xd1618732a7d6be8e75a6e37dd1e2b6a19c9cb383e9e11721d18828d3df3116ef }

def asset : VaultStagingAsset := ⟨stagingMint, tokenProgramId⟩

def readonly (keys : List Pubkey) : List AccountMeta := keys.map (AccountMeta.newReadonly · false)

def kind : VaultSwapKind :=
  .recoveryStage asset 3 (readonly [swapper.addresses.mainPriceRoute, mainFeed])

def plan : VaultSwapPlan where
  priceSection := readonly [swapper.addresses.secondPriceRoute, secondFeed, stagingRoute, pool,
    poolProgramData, stagingFeed]
  amountIn := 1000000
  minimumOut := 1990
  validUntil := 1000100
  hops := [{
    program := venue
    source := swapper.addresses.vaultSecondAta
    destination := stagingAta
    accounts := [.newReadonly venueState false, .new swapper.addresses.vaultSecondAta false,
      .new stagingAta false, .new swapper.addresses.vault false]
    data := ascii "route"
    amountOffset := none }]

def addresses : List (List (List UInt8) × Pubkey × Pubkey) :=
  [([swapper.addresses.vault.toList, tokenProgramId.toList, stagingMint.toList],
    associatedTokenProgramId, stagingAta)]

end Recovery

theorem swap_encoding_recovery :
    let P := Platform.ofTables Recovery.addresses [] [] []
    let ix := Recovery.swapper.swapLayout P Recovery.kind Recovery.plan
    Recovery.swapper.swap P Recovery.kind Recovery.plan = .ok ix ∧
      splitSwap Recovery.kind 6 ix = .ok {
        amountIn := 1000000
        minimumOut := 1990
        validUntil := 1000100
        generation := some 3
        priceSection := Recovery.plan.priceSection
        recoveryTail := Recovery.swapper.swapTail Recovery.kind
        hops := Recovery.plan.hops.map clearSigners
        unreadData := []
        unreadAccounts := [] } := by
  intro P ix
  have h : Recovery.swapper.swap P Recovery.kind Recovery.plan = .ok ix := by decide +kernel
  exact ⟨h, (swap_encoding P Recovery.swapper).1 _ _ _ h⟩

end MakerSdk.Served
