import MakerSdk.Crank.Withdrawals
import MakerSdk.Holdings.Discovery
import MakerSdk.Vault.Account

namespace MakerSdk.Crank

open Base Base.Bytes Base.Checks Base.Records Base.Words Solana Vault
open Holdings (Account RpcFilter programAccounts mem_programAccounts)
open Sale (ChainError)

structure PendingCapitalRequests where
  deposits : List Request
  withdrawals : List Request
deriving DecidableEq

def requestFilters (vault : Pubkey) (kind : VaultRequestKind) : List RpcFilter :=
  [.dataSize VaultRequest.len, .memcmp 0 [kind.discriminator],
    .memcmp VaultRequest.vaultOffset vault.toList]

section Model

variable (programId vault : Pubkey)

def requestRound (kind : VaultRequestKind) (requests : List Request) (entry : Pubkey × Account) :
    Checked ClientError (List Request) := do
  let request ← (VaultRequest.fromAccount entry.2 programId kind).mapError (Fault.map .vault)
  lift (refuse (request.vault ≠ vault) (.chain (.identity "request vault")))
  pure (if request.amount > 0 then requests ++ [(request.user, request.amount)] else requests)

def requests (kind : VaultRequestKind) (found : List (Pubkey × Account)) :
    Checked ClientError (List Request) :=
  found.foldlM (requestRound programId vault kind) []

def pendingCapitalRequests
    (found : VaultRequestKind → Except ChainError (List (Pubkey × Account))) :
    Checked ClientError PendingCapitalRequests := do
  let deposits ← requests programId vault .deposit (← lift ((found .deposit).mapError .chain))
  let withdrawals ← requests programId vault .withdraw (← lift ((found .withdraw).mapError .chain))
  pure ⟨deposits, withdrawals⟩

end Model

section Found

variable {programId vault : Pubkey} {kind : VaultRequestKind} {account : Account}
  {chain : List (Pubkey × Account)} {entry : Pubkey × Account}

theorem accepts_memcmp {data bytes : List UInt8} {offset : ℕ} :
    (RpcFilter.memcmp offset bytes).accepts data = true ↔ At data offset bytes := by
  simp only [RpcFilter.accepts, decide_eq_true_eq, At]

/-- An account laid out as a request to the vault, of whatever version. -/
structure Laid (programId vault : Pubkey) (kind : VaultRequestKind) (account : Account) : Prop where
  owner : account.owner = programId
  len : account.data.length = VaultRequest.len
  discriminator : At account.data 0 [kind.discriminator]
  vault : At account.data VaultRequest.vaultOffset vault.toList

theorem mem_requestAccounts :
    entry ∈ programAccounts chain programId (requestFilters vault kind) ↔
      entry ∈ chain ∧ Laid programId vault kind entry.2 := by
  rw [mem_programAccounts]
  simp only [requestFilters, List.forall_mem_cons, accepts_memcmp]
  constructor
  · rintro ⟨hmem, howner, hlen, hdiscriminator, hvault, -⟩
    exact ⟨hmem, howner, of_decide_eq_true hlen, hdiscriminator, hvault⟩
  · rintro ⟨hmem, howner, hlen, hdiscriminator, hvault⟩
    exact ⟨hmem, howner, decide_eq_true hlen, hdiscriminator, hvault, List.forall_mem_nil _⟩

theorem laid_of_ok {request : VaultRequest}
    (h : VaultRequest.fromAccount account programId kind = .ok request) :
    Laid programId request.vault kind account := by
  obtain ⟨⟨howner, hlen⟩, hspelled⟩ := (reads_requestAccount.ok request).mp h
  simp only [VaultRequest.spelling, spelled_cons] at hspelled
  obtain ⟨hdiscriminator, -, -, hvault, -⟩ := hspelled
  exact ⟨howner, hlen, hdiscriminator, hvault⟩

theorem fromAccount_laid (h : Laid programId vault kind account) : ∃ version,
    At account.data 1 [version] ∧
      (version = requestVersion → ∃ request, request.vault = vault ∧
        VaultRequest.fromAccount account programId kind = .ok request) ∧
      (version ≠ requestVersion →
        VaultRequest.fromAccount account programId kind = .error (.raised (.version version))) := by
  have hlen : account.data.length = 344 := h.len
  have hone : 1 < account.data.length := by omega
  have hversion : account.data[1]? = some account.data[1] := List.getElem?_eq_getElem hone
  refine ⟨account.data[1], at_iff_getElem?.mpr hversion, fun hcurrent ↦ ?_, fun hother ↦ ?_⟩
  · obtain ⟨user, huser⟩ : ∃ user : Pubkey, At account.data 8 user.toList :=
      exists_array_at (by omega)
    obtain ⟨amount, hamount⟩ : ∃ x, At account.data 72 (u64ToLe x) := exists_u64_at (by omega)
    obtain ⟨createdAt, hcreatedAt⟩ : ∃ x, At account.data 80 (u64ToLe x) :=
      exists_u64_at (by omega)
    refine ⟨⟨user, vault, amount, createdAt⟩, rfl, ?_⟩
    refine (reads_requestAccount.ok _).mpr ⟨⟨h.owner, h.len⟩, ?_⟩
    rw [hcurrent] at hversion
    simp only [VaultRequest.spelling, spelled_cons]
    exact ⟨h.discriminator, at_iff_getElem?.mpr hversion, huser, h.vault, hamount, hcreatedAt,
      spelled_nil⟩
  · have hkind := at_iff_getElem?.mp h.discriminator
    simp only [VaultRequest.fromAccount, VaultRequest.parse, header, refuse, index, lift,
      Except.mapError, ok_bind, h.owner, h.len, hkind, hversion, hother, ne_eq, not_true_eq_false,
      not_false_eq_true, if_true, if_false, Nat.lt_irrefl]
    rfl

end Found

/-- What an account of the chain asks of the vault, if it is a request to it of some amount. -/
def asks (programId vault : Pubkey) (kind : VaultRequestKind) (entry : Pubkey × Account) :
    Option Request :=
  match VaultRequest.fromAccount entry.2 programId kind with
  | .ok request =>
    if request.vault = vault ∧ request.amount > 0 then some (request.user, request.amount) else none
  | .error _ => none

def Current (account : Account) : Prop := At account.data 1 [requestVersion]

section Loop

variable {programId vault : Pubkey} {kind : VaultRequestKind} {entry : Pubkey × Account}
  {queue : List Request}

theorem requestRound_ok {request : VaultRequest} (hvault : request.vault = vault)
    (h : VaultRequest.fromAccount entry.2 programId kind = .ok request) :
    requestRound programId vault kind queue entry =
      .ok (queue ++ (asks programId vault kind entry).toList) := by
  simp only [requestRound, asks, h, hvault, Except.mapError, ok_bind, refuse, lift, ne_eq,
    not_true_eq_false, if_false, true_and]
  split
  · rfl
  · rw [Option.toList_none, List.append_nil]
    rfl

theorem requestRound_error {error : VaultChainError}
    (h : VaultRequest.fromAccount entry.2 programId kind = .error (.raised error)) :
    requestRound programId vault kind queue entry = .error (.raised (.vault error)) := by
  rw [requestRound, h]
  rfl

theorem requests_cases {found : List (Pubkey × Account)} (queue : List Request)
    (h : ∀ entry ∈ found, Laid programId vault kind entry.2) :
    (∀ entry ∈ found, Current entry.2) ∧
      found.foldlM (requestRound programId vault kind) queue =
        .ok (queue ++ found.filterMap (asks programId vault kind)) ∨
    ∃ entry ∈ found, ∃ version ≠ requestVersion, At entry.2.data 1 [version] ∧
      found.foldlM (requestRound programId vault kind) queue =
        .error (.raised (.vault (.version version))) := by
  induction found generalizing queue with
  | nil => exact .inl ⟨List.forall_mem_nil _, by rw [List.filterMap_nil, List.append_nil]; rfl⟩
  | cons entry found ih =>
    obtain ⟨hentry, hfound⟩ := List.forall_mem_cons.mp h
    obtain ⟨version, hversion, hcurrent, hother⟩ := fromAccount_laid hentry
    by_cases heq : version = requestVersion
    · subst heq
      obtain ⟨request, hvault, hrequest⟩ := hcurrent rfl
      rw [List.foldlM_cons, requestRound_ok hvault hrequest, ok_bind]
      rcases ih (queue ++ (asks programId vault kind entry).toList) hfound with
        ⟨hall, hok⟩ | ⟨bad, hbad, hfailed⟩
      · refine .inl ⟨List.forall_mem_cons.mpr ⟨hversion, hall⟩, ?_⟩
        rw [hok, List.filterMap_cons, List.append_assoc]
        cases asks programId vault kind entry <;> rfl
      · exact .inr ⟨bad, List.mem_cons_of_mem _ hbad, hfailed⟩
    · refine .inr ⟨entry, List.mem_cons_self, version, heq, hversion, ?_⟩
      rw [List.foldlM_cons, requestRound_error (hother heq)]
      rfl

theorem laid_of_asks {request : Request} (h : asks programId vault kind entry = some request) :
    Laid programId vault kind entry.2 := by
  unfold asks at h
  split at h
  · rename_i request hrequest
    obtain ⟨⟨rfl, -⟩, -⟩ := Option.ite_none_right_eq_some.mp h
    exact laid_of_ok hrequest
  · cases h

theorem filterMap_asks {chain : List (Pubkey × Account)} :
    (programAccounts chain programId (requestFilters vault kind)).filterMap
      (asks programId vault kind) = chain.filterMap (asks programId vault kind) := by
  rw [programAccounts, List.filterMap_filter]
  refine List.filterMap_congr fun entry hentry ↦ ?_
  split
  · rfl
  · rename_i hrefused
    cases hasks : asks programId vault kind entry with
    | none => rfl
    | some request =>
      have hmem := mem_requestAccounts.mpr ⟨hentry, laid_of_asks hasks⟩
      exact absurd (List.mem_filter.mp hmem).2 hrefused

theorem requests_found (chain : List (Pubkey × Account)) :
    (∀ entry ∈ chain, Laid programId vault kind entry.2 → Current entry.2) ∧
      requests programId vault kind
          (programAccounts chain programId (requestFilters vault kind)) =
        .ok (chain.filterMap (asks programId vault kind)) ∨
    ∃ entry ∈ chain, Laid programId vault kind entry.2 ∧
      ∃ version ≠ requestVersion, At entry.2.data 1 [version] ∧
        requests programId vault kind
            (programAccounts chain programId (requestFilters vault kind)) =
          .error (.raised (.vault (.version version))) := by
  have hlaid : ∀ entry ∈ programAccounts chain programId (requestFilters vault kind),
      Laid programId vault kind entry.2 := fun _ hentry ↦ (mem_requestAccounts.mp hentry).2
  rcases requests_cases [] hlaid with ⟨hcurrent, hok⟩ | ⟨entry, hentry, hversion⟩
  · refine .inl ⟨fun entry hentry hl ↦ ?_, ?_⟩
    · exact hcurrent entry (mem_requestAccounts.mpr ⟨hentry, hl⟩)
    · rw [requests, hok, filterMap_asks, List.nil_append]
  · obtain ⟨hmem, hl⟩ := mem_requestAccounts.mp hentry
    exact .inr ⟨entry, hmem, hl, hversion⟩

end Loop

/-- What the crank is told of the queues is what stands on the chain: every request account of
the vault once and no other, or the error of one that is of another version. -/
theorem pending_requests_exact {programId vault : Pubkey}
    {chain : VaultRequestKind → List (Pubkey × Account)}
    {found : VaultRequestKind → Except ChainError (List (Pubkey × Account))}
    (hfound : ∀ kind,
      found kind = .ok (programAccounts (chain kind) programId (requestFilters vault kind))) :
    (∀ kind, ∀ entry ∈ chain kind, Laid programId vault kind entry.2 → Current entry.2) ∧
      pendingCapitalRequests programId vault found =
        .ok ⟨(chain .deposit).filterMap (asks programId vault .deposit),
          (chain .withdraw).filterMap (asks programId vault .withdraw)⟩ ∨
    ∃ kind, ∃ entry ∈ chain kind, Laid programId vault kind entry.2 ∧
      ∃ version ≠ requestVersion, At entry.2.data 1 [version] ∧
        pendingCapitalRequests programId vault found =
          .error (.raised (.vault (.version version))) := by
  have hrun : pendingCapitalRequests programId vault found = (do
      let deposits ← requests programId vault .deposit
        (programAccounts (chain .deposit) programId (requestFilters vault .deposit))
      let withdrawals ← requests programId vault .withdraw
        (programAccounts (chain .withdraw) programId (requestFilters vault .withdraw))
      pure ⟨deposits, withdrawals⟩) := by
    rw [pendingCapitalRequests, hfound, hfound]
    rfl
  rw [hrun]
  rcases requests_found (chain .deposit) with
    ⟨hdeposits, hok⟩ | ⟨entry, hentry, hlaid, version, hne, hversion, hfailed⟩
  · rw [hok]
    rcases requests_found (chain .withdraw) with
      ⟨hwithdrawals, hok'⟩ | ⟨entry, hentry, hlaid, version, hne, hversion, hfailed⟩
    · rw [hok']
      refine .inl ⟨fun kind ↦ ?_, rfl⟩
      cases kind with
      | deposit => exact hdeposits
      | withdraw => exact hwithdrawals
    · rw [hfailed]
      exact .inr ⟨.withdraw, entry, hentry, hlaid, version, hne, hversion, rfl⟩
  · rw [hfailed]
    exact .inr ⟨.deposit, entry, hentry, hlaid, version, hne, hversion, rfl⟩

section Sample

/-- A chain with one deposit, its padding all zeros, and one request to another vault. -/
def sampleRequests : VaultRequestKind → List (Pubkey × Account)
  | .deposit =>
    [(keyOfNat 10, ⟨keyOfNat 1, writeAll (List.replicate 344 0)
      (VaultRequest.spelling .deposit ⟨keyOfNat 3, keyOfNat 2, 500, 7⟩)⟩),
    (keyOfNat 11, ⟨keyOfNat 1, writeAll (List.replicate 344 0)
      (VaultRequest.spelling .deposit ⟨keyOfNat 3, keyOfNat 4, 9, 7⟩)⟩)]
  | .withdraw => []

def sampleFound (kind : VaultRequestKind) : Except ChainError (List (Pubkey × Account)) :=
  .ok (programAccounts (sampleRequests kind) (keyOfNat 1) (requestFilters (keyOfNat 2) kind))

theorem pending_requests_exact_one :
    pendingCapitalRequests (keyOfNat 1) (keyOfNat 2) sampleFound = .ok ⟨[(keyOfNat 3, 500)], []⟩ ∧
    ∀ kind, ∀ entry ∈ sampleRequests kind,
      Laid (keyOfNat 1) (keyOfNat 2) kind entry.2 → Current entry.2 := by
  have hpending : pendingCapitalRequests (keyOfNat 1) (keyOfNat 2) sampleFound =
      .ok ⟨[(keyOfNat 3, 500)], []⟩ := by decide +kernel
  refine ⟨hpending, ?_⟩
  rcases @pending_requests_exact (keyOfNat 1) (keyOfNat 2) sampleRequests sampleFound
      fun _ ↦ rfl with
    ⟨hcurrent, -⟩ | ⟨_, _, _, _, _, _, _, hfailed⟩
  · exact hcurrent
  · cases hpending.symm.trans hfailed

end Sample

end MakerSdk.Crank
