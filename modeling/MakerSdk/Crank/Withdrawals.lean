import Mathlib.Data.List.Sort
import MakerSdk.Base.Words
import MakerSdk.Solana.Basic

namespace MakerSdk.Crank

open Base.Words Solana

abbrev Request := Pubkey × UInt64

structure WithdrawalPlan where
  partials : List Pubkey
  finalUser : Option Pubkey
deriving DecidableEq

def AtLeast (a b : Request) : Prop := b.2 ≤ a.2

instance : DecidableRel AtLeast := fun a b ↦ inferInstanceAs (Decidable (b.2 ≤ a.2))

instance : Std.Total AtLeast := ⟨fun a b ↦ UInt64.le_total b.2 a.2⟩

instance : IsTrans Request AtLeast := ⟨fun _ _ _ hab hbc ↦ UInt64.le_trans hbc hab⟩

/-- The largest request first; among equals the earlier one. -/
def bySharesDescending (requests : List Request) : List Request :=
  requests.insertionSort AtLeast

def queuedShares (requests : List Request) : UInt64 :=
  requests.foldl (fun sum request ↦ saturatingAdd sum request.2) 0

/-- A queue that would drain the supply holds its largest request back. -/
def planPartials (requests : List Request) (totalShares : UInt64) : WithdrawalPlan :=
  let ordered :=
    if requests ≠ [] ∧ totalShares ≤ queuedShares requests then
      (bySharesDescending requests).tail
    else requests
  ⟨ordered.map Prod.fst, none⟩

def planWithdrawals (requests : List Request) (totalShares : UInt64) : WithdrawalPlan :=
  match requests with
  | [(user, shares)] =>
    if shares = totalShares then ⟨[], some user⟩ else planPartials requests totalShares
  | _ => planPartials requests totalShares

namespace WithdrawalPlan

def users (plan : WithdrawalPlan) : List Pubkey := plan.partials ++ plan.finalUser.toList

def unserved (plan : WithdrawalPlan) (requests : List Request) : List Request :=
  requests.filter (·.1 ∉ plan.users)

def served (plan : WithdrawalPlan) (requests : List Request) : List Request :=
  requests.filter (·.1 ∈ plan.users)

end WithdrawalPlan

def sharesOf (requests : List Request) : ℕ := (requests.map (·.2.toNat)).sum

def supplyAfter (requests : List Request) (totalShares : UInt64) : UInt64 :=
  .ofNat (totalShares.toNat - sharesOf ((planWithdrawals requests totalShares).served requests))

section Queue

variable {requests : List Request} {totalShares : UInt64}

theorem sharesOf_perm {requests' : List Request} (h : requests.Perm requests') :
    sharesOf requests = sharesOf requests' :=
  (h.map _).sum_nat

theorem sharesOf_cons (request : Request) :
    sharesOf (request :: requests) = request.2.toNat + sharesOf requests :=
  List.sum_cons

theorem toNat_foldl_saturatingAdd {sum : UInt64} (h : sum.toNat + sharesOf requests < 2 ^ 64) :
    (requests.foldl (fun sum request ↦ saturatingAdd sum request.2) sum).toNat =
      sum.toNat + sharesOf requests := by
  induction requests generalizing sum with
  | nil => rfl
  | cons request requests ih =>
    rw [sharesOf_cons] at h ⊢
    have hadd : (saturatingAdd sum request.2).toNat = sum.toNat + request.2.toNat := by
      rw [toNat_saturatingAdd]
      omega
    rw [List.foldl_cons, ih (by omega), hadd, Nat.add_assoc]

theorem toNat_queuedShares (h : sharesOf requests < 2 ^ 64) :
    (queuedShares requests).toNat = sharesOf requests := by
  rw [queuedShares, toNat_foldl_saturatingAdd, UInt64.toNat_zero, Nat.zero_add]
  rwa [UInt64.toNat_zero, Nat.zero_add]

theorem exists_largest (h : requests ≠ []) : ∃ largest rest,
    bySharesDescending requests = largest :: rest ∧ (largest :: rest).Perm requests ∧
      ∀ request ∈ requests, request.2 ≤ largest.2 := by
  have hperm : (bySharesDescending requests).Perm requests := List.perm_insertionSort _ _
  have hsorted : (bySharesDescending requests).Pairwise AtLeast := List.pairwise_insertionSort _ _
  cases hordered : bySharesDescending requests with
  | nil =>
    rw [hordered] at hperm
    exact absurd hperm.symm.eq_nil h
  | cons largest rest =>
    rw [hordered] at hperm hsorted
    refine ⟨largest, rest, rfl, hperm, fun request hmem ↦ ?_⟩
    rcases List.mem_cons.mp (hperm.mem_iff.mpr hmem) with rfl | hmem
    · exact UInt64.le_refl _
    · exact List.rel_of_pairwise_cons hsorted hmem

theorem planWithdrawals_of_ne (h : ¬∃ user, requests = [(user, totalShares)]) :
    planWithdrawals requests totalShares = planPartials requests totalShares := by
  unfold planWithdrawals
  split
  · rename_i user shares
    exact if_neg fun hshares ↦ h ⟨user, by rw [hshares]⟩
  · rfl

theorem planWithdrawals_cases (hpos : 0 < totalShares)
    (hsum : sharesOf requests ≤ totalShares.toNat) :
    (∃ user, requests = [(user, totalShares)] ∧
      planWithdrawals requests totalShares = ⟨[], some user⟩) ∨
    (sharesOf requests < totalShares.toNat ∧
      planWithdrawals requests totalShares = ⟨requests.map Prod.fst, none⟩) ∨
    (sharesOf requests = totalShares.toNat ∧ ∃ largest rest, (largest :: rest).Perm requests ∧
      (∀ request ∈ requests, request.2 ≤ largest.2) ∧ rest ≠ [] ∧
      planWithdrawals requests totalShares = ⟨rest.map Prod.fst, none⟩) := by
  by_cases hsingle : ∃ user, requests = [(user, totalShares)]
  · obtain ⟨user, rfl⟩ := hsingle
    exact .inl ⟨user, rfl, if_pos rfl⟩
  right
  have hplan := planWithdrawals_of_ne hsingle
  have hqueued := toNat_queuedShares (hsum.trans_lt totalShares.toNat_lt)
  rcases Nat.lt_or_eq_of_le hsum with hlt | heq
  · left
    have hkeep : ¬(requests ≠ [] ∧ totalShares ≤ queuedShares requests) := by
      rintro ⟨-, hle⟩
      rw [UInt64.le_iff_toNat_le, hqueued] at hle
      omega
    rw [hplan, planPartials, if_neg hkeep]
    exact ⟨hlt, rfl⟩
  · right
    have hne : requests ≠ [] := by
      rintro rfl
      have hzero : 0 = totalShares.toNat := heq
      rw [UInt64.lt_iff_toNat_lt, ← hzero] at hpos
      exact absurd hpos (Nat.lt_irrefl _)
    obtain ⟨largest, rest, hordered, hperm, hlargest⟩ := exists_largest hne
    have hdrain : requests ≠ [] ∧ totalShares ≤ queuedShares requests := by
      refine ⟨hne, UInt64.le_iff_toNat_le.mpr ?_⟩
      rw [hqueued, heq]
    refine ⟨heq, largest, rest, hperm, hlargest, ?_, ?_⟩
    · rintro rfl
      obtain rfl := List.perm_singleton.mp hperm.symm
      have hshares : largest.2.toNat = totalShares.toNat := heq
      exact hsingle ⟨largest.1, by rw [← UInt64.toNat_inj.mp hshares]⟩
    · rw [hplan, planPartials, if_pos hdrain, hordered]
      rfl

end Queue

structure Serves (requests : List Request) (totalShares : UInt64) (plan : WithdrawalPlan) :
    Prop where
  distinct : plan.users.Nodup
  requesters : ∀ user ∈ plan.users, user ∈ requests.map Prod.fst
  leavesShares : sharesOf (requests.filter (·.1 ∈ plan.partials)) < totalShares.toNat
  withheld : plan.unserved requests = [] ∨ ∃ withheld ∈ requests,
    plan.unserved requests = [withheld] ∧ sharesOf requests = totalShares.toNat ∧
      ∀ request ∈ requests, request.2 ≤ withheld.2
  isFinal : ∀ user, plan.finalUser = some user ↔ requests = [(user, totalShares)]

section Plans

variable {requests rest : List Request} {largest : Request} {totalShares : UInt64}

theorem filter_mem_users : requests.filter (·.1 ∈ requests.map Prod.fst) = requests := by
  rw [List.filter_eq_self]
  intro request hmem
  exact decide_eq_true (List.mem_map_of_mem hmem)

theorem filter_not_mem_users : requests.filter (·.1 ∉ requests.map Prod.fst) = [] := by
  rw [List.filter_eq_nil_iff]
  intro request hmem
  rw [decide_eq_true_eq, not_not]
  exact List.mem_map_of_mem hmem

theorem serves_final {user : Pubkey} (hpos : 0 < totalShares) :
    Serves [(user, totalShares)] totalShares ⟨[], some user⟩ where
  distinct := List.nodup_singleton user
  requesters := fun _ h ↦ h
  leavesShares := UInt64.lt_iff_toNat_lt.mp hpos
  withheld := .inl (by simp [WithdrawalPlan.unserved, WithdrawalPlan.users])
  isFinal := by simp

theorem serves_whole (husers : (requests.map Prod.fst).Nodup)
    (hlt : sharesOf requests < totalShares.toNat) :
    Serves requests totalShares ⟨requests.map Prod.fst, none⟩ where
  distinct := by
    rw [WithdrawalPlan.users, Option.toList_none, List.append_nil]
    exact husers
  requesters := by
    rw [WithdrawalPlan.users, Option.toList_none, List.append_nil]
    exact fun _ h ↦ h
  leavesShares := by
    rw [filter_mem_users]
    exact hlt
  withheld := by
    left
    rw [WithdrawalPlan.unserved, WithdrawalPlan.users, Option.toList_none, List.append_nil,
      filter_not_mem_users]
  isFinal := by
    intro user
    refine ⟨(fun h ↦ by cases h), ?_⟩
    rintro rfl
    exact absurd hlt (Nat.lt_irrefl _)

section Withheld

variable (husers : (requests.map Prod.fst).Nodup) (hperm : (largest :: rest).Perm requests)

include husers hperm

theorem users_of_perm : largest.1 ∉ rest.map Prod.fst ∧ (rest.map Prod.fst).Nodup :=
  List.nodup_cons.mp ((hperm.map Prod.fst).nodup_iff.mpr husers)

theorem filter_withheld : requests.filter (·.1 ∉ rest.map Prod.fst) = [largest] := by
  have hfresh := (users_of_perm husers hperm).1
  have hfilter : ((largest :: rest).filter (·.1 ∉ rest.map Prod.fst)) = [largest] := by
    rw [List.filter_cons_of_pos, filter_not_mem_users]
    rw [decide_eq_true_eq]
    exact hfresh
  exact List.perm_singleton.mp (hfilter ▸ (hperm.filter _).symm)

theorem sharesOf_partials :
    sharesOf (requests.filter (·.1 ∈ rest.map Prod.fst)) = sharesOf rest := by
  have hfresh := (users_of_perm husers hperm).1
  rw [← sharesOf_perm (hperm.filter _), List.filter_cons_of_neg, filter_mem_users]
  rw [decide_eq_true_eq]
  exact hfresh

theorem serves_withheld (hlargest : ∀ request ∈ requests, request.2 ≤ largest.2)
    (hpos : 0 < largest.2) (hrest : rest ≠ []) (heq : sharesOf requests = totalShares.toNat) :
    Serves requests totalShares ⟨rest.map Prod.fst, none⟩ where
  distinct := by
    rw [WithdrawalPlan.users, Option.toList_none, List.append_nil]
    exact (users_of_perm husers hperm).2
  requesters := by
    rw [WithdrawalPlan.users, Option.toList_none, List.append_nil]
    intro user hmem
    exact (hperm.map Prod.fst).subset (List.mem_cons_of_mem _ hmem)
  leavesShares := by
    have hpos := UInt64.lt_iff_toNat_lt.mp hpos
    rw [sharesOf_partials husers hperm, ← heq, ← sharesOf_perm hperm, sharesOf_cons]
    exact Nat.lt_add_of_pos_left hpos
  withheld := by
    refine .inr ⟨largest, hperm.subset List.mem_cons_self, ?_, heq, hlargest⟩
    rw [WithdrawalPlan.unserved, WithdrawalPlan.users, Option.toList_none, List.append_nil,
      filter_withheld husers hperm]
  isFinal := by
    intro user
    refine ⟨(fun h ↦ by cases h), ?_⟩
    rintro rfl
    exact absurd (List.cons_eq_cons.mp (List.perm_singleton.mp hperm)).2 hrest

theorem supplyAfter_withheld (heq : sharesOf requests = totalShares.toNat)
    (hplan : planWithdrawals requests totalShares = ⟨rest.map Prod.fst, none⟩) :
    supplyAfter requests totalShares = largest.2 := by
  have hserved : sharesOf ((planWithdrawals requests totalShares).served requests) =
      sharesOf rest := by
    rw [hplan, WithdrawalPlan.served, WithdrawalPlan.users, Option.toList_none, List.append_nil,
      sharesOf_partials husers hperm]
  rw [supplyAfter, hserved, ← heq, ← sharesOf_perm hperm, sharesOf_cons, Nat.add_sub_cancel,
    UInt64.ofNat_toNat]

end Withheld

end Plans

/-- A withdrawal plan serves its queue but for at most one request, and a second plan, made after
the first is processed, leaves nobody. -/
theorem planWithdrawals_complete (requests : List Request) (totalShares : UInt64)
    (hpos : 0 < totalShares) (husers : (requests.map Prod.fst).Nodup)
    (hshares : ∀ request ∈ requests, 0 < request.2)
    (hsum : sharesOf requests ≤ totalShares.toNat) :
    let plan := planWithdrawals requests totalShares
    let queue := plan.unserved requests
    Serves requests totalShares plan ∧
      (planWithdrawals queue (supplyAfter requests totalShares)).unserved queue = [] := by
  intro plan queue
  rcases planWithdrawals_cases hpos hsum with ⟨user, rfl, hplan⟩ | ⟨hlt, hplan⟩ |
    ⟨heq, largest, rest, hperm, hlargest, hrest, hplan⟩
  · have hqueue : queue = [] := by
      simp [queue, plan, hplan, WithdrawalPlan.unserved, WithdrawalPlan.users]
    refine ⟨(show plan = _ from hplan) ▸ serves_final hpos, ?_⟩
    rw [hqueue]
    rfl
  · have hqueue : queue = [] := by
      simp only [queue, plan, hplan, WithdrawalPlan.unserved, WithdrawalPlan.users,
        Option.toList_none, List.append_nil, filter_not_mem_users]
    refine ⟨(show plan = _ from hplan) ▸ serves_whole husers hlt, ?_⟩
    rw [hqueue]
    rfl
  · have hqueue : queue = [largest] := by
      simp only [queue, plan, hplan, WithdrawalPlan.unserved, WithdrawalPlan.users,
        Option.toList_none, List.append_nil, filter_withheld husers hperm]
    have hlargestPos := hshares largest (hperm.subset List.mem_cons_self)
    refine ⟨(show plan = _ from hplan) ▸
      serves_withheld husers hperm hlargest hlargestPos hrest heq, ?_⟩
    have hnext : planWithdrawals [largest] largest.2 = ⟨[], some largest.1⟩ := if_pos rfl
    rw [hqueue, supplyAfter_withheld husers hperm heq hplan, hnext]
    simp [WithdrawalPlan.unserved, WithdrawalPlan.users]

section Sample

def sampleQueue : List Request := [(keyOfNat 1, 3), (keyOfNat 2, 5)]

theorem planWithdrawals_complete_drained :
    planWithdrawals sampleQueue 8 = ⟨[keyOfNat 1], none⟩ ∧
    Serves sampleQueue 8 (planWithdrawals sampleQueue 8) ∧
    supplyAfter sampleQueue 8 = 5 := by
  refine ⟨by decide +kernel, ?_, by decide +kernel⟩
  exact (planWithdrawals_complete sampleQueue 8 (by decide) (by decide +kernel)
    (by decide +kernel) (by decide +kernel)).1

end Sample

end MakerSdk.Crank
