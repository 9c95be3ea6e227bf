import MakerSdk.Base.Traced
import MakerSdk.Chain.Confirmation
import MakerSdk.Crank.Withdrawals
import MakerSdk.Crank.Window
import MakerSdk.Routing.Router
import MakerSdk.Vault.Capital

namespace MakerSdk.Crank

open Base Base.Bytes Base.Checks Base.Traced Base.Words Solana Vault
open Chain (chunks flatten_chunks)
open Holdings (Account)

inductive PassError where
  | rpc (text : String)
  | vault (error : VaultChainError)
deriving DecidableEq

/-- What the RPC answers during one pass; `send` by how many sends came before. -/
structure Node where
  vaultData : Except String (List UInt8)
  account : Pubkey → Except String Account
  requestData : VaultRequestKind → Except String (List (Option (List UInt8)))
  supply : Except String UInt64
  send : ℕ → Except String Unit

structure Sent where
  ix : Instruction
  units : Option UInt32
  confirmed : Bool
deriving DecidableEq

structure PassState where
  window : WindowTracker
  sends : ℕ

abbrev Pass (α : Type) := Traced PassState Sent (Fault PassError) α

def VaultView.ofVault (vault : VaultRecord) : VaultView where
  phase := vault.phase
  safety := vault.safety
  equityComputed := vault.equityComputed
  acceptingDeposits := vault.acceptingDeposits
  pendingDeposits := vault.pendingDepositCount
  pendingWithdrawals := vault.pendingWithdrawCount
  staging := vault.staging

namespace Node

variable (P : Platform) (node : Node)

def rpc {α : Type} (x : Except String α) : Checked PassError α := lift (x.mapError .rpc)

def vault {α : Type} (x : Checked VaultChainError α) : Checked PassError α :=
  x.mapError (Fault.map .vault)

def route (programId address : Pubkey) : Checked PassError PriceRoute := do
  let account ← rpc (node.account address)
  vault (PriceRoute.fromAccount account programId)

/-- Both legs' price routes, the Pyth bricks on shard 0. -/
def priceSection (programId : Pubkey) (manager : VaultManager) :
    Checked PassError (List AccountMeta) := do
  let main ← node.route programId manager.addresses.mainPriceRoute
  let second ← node.route programId manager.addresses.secondPriceRoute
  vault (lift (Routing.priceSection P manager main second 0))

def requests (kind : VaultRequestKind) : Checked PassError (List VaultRequest) := do
  let accounts ← rpc (node.requestData kind)
  accounts.mapM fun data ↦ do
    let data ← rpc (okOr data "undecodable request account")
    vault (VaultRequest.parse data kind)

def sendIx (ix : Instruction) (units : Option UInt32) : Pass Unit :=
  act (fun result ↦ ⟨ix, units, result.isOk⟩) fun s ↦
    (rpc (node.send s.sends), { s with sends := s.sends + 1 })

/-- The loop over the batches: each is built and sent before the next one is built. -/
def sendBatches (build : List Pubkey → Except VaultChainError Instruction)
    (shape : List Pubkey → CapitalBatchShape) : List (List Pubkey) → Pass Unit
  | [] => pure ()
  | batch :: batches => do
    let units := vaultCapitalBatchComputeUnits (shape batch)
    let ix ← ofExcept (vault (lift (build batch)))
    node.sendIx ix (some units)
    sendBatches build shape batches

def perform (programId : Pubkey) (vault : VaultRecord) (manager : VaultManager) :
    CapitalStep → Pass Unit
  | .closeDeposits => do
    if vault.pendingDepositCount > 0 ∨ vault.pendingWithdrawCount > 0 then
      let _ ← ofExcept (node.priceSection P programId manager)
    node.sendIx (manager.setAcceptingDeposits false) none
  | .openDeposits => node.sendIx (manager.setAcceptingDeposits true) none
  | .computeEquity => do
    let prices ← ofExcept (node.priceSection P programId manager)
    node.sendIx (manager.processEquity prices) none
  | .processDeposits => do
    let requests ← ofExcept (node.requests .deposit)
    let users := requests.map VaultRequest.user
    node.sendBatches (fun batch ↦ manager.processDeposits P (batch.map .new))
      (fun batch ↦ manager.depositBatchShape P batch batch.length batch.length)
      (chunks vaultCapitalBatchUsers users)
  | .processWithdrawals => do
    let requests ← ofExcept (node.requests .withdraw)
    let queued := requests.map fun request ↦ (request.user, request.amount)
    let supply ← ofExcept (rpc node.supply)
    let plan := planWithdrawals queued supply
    node.sendBatches (fun batch ↦ manager.processWithdrawals P (batch.map .new))
      (fun batch ↦ manager.withdrawalBatchShape P batch batch.length batch.length)
      (chunks vaultCapitalBatchUsers plan.partials)
    match plan.finalUser with
    | some user =>
      if vault.pendingDepositCount = 0 ∨ vault.safety = .withdrawOnly then
        node.sendIx (manager.processFinalWithdrawal P (.new user)) none
    | none => pure ()
  | .finalizeCycle => node.sendIx manager.finalizeCycle none

def turn (programId actor : Pubkey) (policy : WindowPolicy) (vault : VaultRecord)
    (clock : WindowClock) : Pass (Option CapitalStep) :=
  match (VaultView.ofVault vault).nextStep clock policy with
  | none => pure none
  | some step => do
    let manager ← ofExcept (Node.vault (lift (VaultManager.fromVault P programId actor vault)))
    node.perform P programId vault manager step
    pure (some step)

def pass (programId actor : Pubkey) (policy : WindowPolicy) (now : ℕ) :
    Pass (Option CapitalStep) := do
  let data ← ofExcept (rpc node.vaultData)
  let vault ← ofExcept (Node.vault (VaultRecord.parse data))
  let clock ← modifyGet fun s ↦
    let (window, clock) := s.window.observe vault.acceptingDeposits now
    (clock, { s with window })
  node.turn P programId actor policy vault clock

end Node

section Plans

abbrev Planned := Instruction × Option UInt32

def blocks : List AccountMeta → List Pubkey
  | user :: _ :: _ :: _ :: _ :: _ :: _ :: rest => user.pubkey :: blocks rest
  | _ => []

def payees (kind : VaultRequestKind) (ix : Instruction) : List Pubkey :=
  match kind with
  | .deposit => blocks (ix.accounts.drop 11)
  | .withdraw => blocks (ix.accounts.drop 10)

variable (P : Platform) (manager : VaultManager)

def batchIx (kind : VaultRequestKind) (users : List Pubkey) : Except VaultChainError Instruction :=
  match kind with
  | .deposit => manager.processDeposits P (users.map .new)
  | .withdraw => manager.processWithdrawals P (users.map .new)

/-- A batch that the manager builds for its users, with units for any of their accounts missing. -/
structure Batch (kind : VaultRequestKind) (planned : Planned) : Prop where
  valid : ValidBatch (payees kind planned.1)
  built : batchIx P manager kind (payees kind planned.1) = .ok planned.1
  units : planned.2 = some (vaultCapitalBatchComputeUnits (manager.batchShape P kind
    (payees kind planned.1) (payees kind planned.1).length (payees kind planned.1).length))

/-- What a step has to send, by what the RPC answers. The batches of a step pay the users of the
queue in its order. -/
inductive Agenda (node : Node) (programId : Pubkey) (vault : VaultRecord) :
    CapitalStep → List Planned → Prop
  | closeDeposits (hprices : (VaultView.ofVault vault).Pending →
      ∃ prices, node.priceSection P programId manager = .ok prices) :
      Agenda node programId vault .closeDeposits [(manager.setAcceptingDeposits false, none)]
  | openDeposits :
      Agenda node programId vault .openDeposits [(manager.setAcceptingDeposits true, none)]
  | computeEquity {prices : List AccountMeta}
      (hprices : node.priceSection P programId manager = .ok prices) :
      Agenda node programId vault .computeEquity [(manager.processEquity prices, none)]
  | processDeposits {requests : List VaultRequest} {batches : List Planned}
      (hrequests : node.requests .deposit = .ok requests)
      (hbatches : ∀ batch ∈ batches, Batch P manager .deposit batch)
      (hpaid : batches.flatMap (payees .deposit ·.1) = requests.map VaultRequest.user) :
      Agenda node programId vault .processDeposits batches
  | processWithdrawals {requests : List VaultRequest} {supply : UInt64} {plan : WithdrawalPlan}
      {batches last : List Planned} (hrequests : node.requests .withdraw = .ok requests)
      (hsupply : node.supply = .ok supply)
      (hplan : plan = planWithdrawals (requests.map fun r ↦ (r.user, r.amount)) supply)
      (hbatches : ∀ batch ∈ batches, Batch P manager .withdraw batch)
      (hpaid : batches.flatMap (payees .withdraw ·.1) = plan.partials)
      (hlast : last = if vault.pendingDepositCount = 0 ∨ vault.safety = .withdrawOnly then
        plan.finalUser.toList.map fun user ↦
          (manager.processFinalWithdrawal P (.new user), none) else []) :
      Agenda node programId vault .processWithdrawals (batches ++ last)
  | finalizeCycle : Agenda node programId vault .finalizeCycle [(manager.finalizeCycle, none)]

/-- A read of the step that fails, with the error that it ends in. -/
inductive Unread (node : Node) (programId : Pubkey) (vault : VaultRecord) :
    CapitalStep → PassError → Prop
  | closeDeposits {error : PassError} (hpending : (VaultView.ofVault vault).Pending)
      (hprices : node.priceSection P programId manager = .error (.raised error)) :
      Unread node programId vault .closeDeposits error
  | computeEquity {error : PassError}
      (hprices : node.priceSection P programId manager = .error (.raised error)) :
      Unread node programId vault .computeEquity error
  | depositRequests {error : PassError}
      (hrequests : node.requests .deposit = .error (.raised error)) :
      Unread node programId vault .processDeposits error
  | withdrawRequests {error : PassError}
      (hrequests : node.requests .withdraw = .error (.raised error)) :
      Unread node programId vault .processWithdrawals error
  | supply {requests : List VaultRequest} {text : String}
      (hrequests : node.requests .withdraw = .ok requests) (hsupply : node.supply = .error text) :
      Unread node programId vault .processWithdrawals (.rpc text)

end Plans

/-- What is sent of a plan, the node's answers counted from `n`. -/
inductive Sends (node : Node) :
    ℕ → List Planned → List Sent → Except (Fault PassError) Unit → Prop
  | nil {n : ℕ} : Sends node n [] [] (.ok ())
  | failed {n : ℕ} {planned : Planned} {plan : List Planned} {text : String}
      (hsend : node.send n = .error text) :
      Sends node n (planned :: plan) [⟨planned.1, planned.2, false⟩]
        (.error (.raised (.rpc text)))
  | confirmed {n : ℕ} {planned : Planned} {plan : List Planned} {log : List Sent}
      {result : Except (Fault PassError) Unit} (hsend : node.send n = .ok ())
      (hrest : Sends node (n + 1) plan log result) :
      Sends node n (planned :: plan) (⟨planned.1, planned.2, true⟩ :: log) result

section Sending

variable (node : Node)

def Sending (plan : List Planned) (x : Pass Unit) : Prop :=
  Leads x fun s log result s' ↦
    Sends node s.sends plan log result ∧ (result = .ok () → s'.sends = s.sends + plan.length)

variable {node} {n : ℕ} {plan plan' : List Planned}

theorem sends_append {log log' : List Sent} {result : Except (Fault PassError) Unit}
    (h : Sends node n plan log (.ok ())) (h' : Sends node (n + plan.length) plan' log' result) :
    Sends node n (plan ++ plan') (log ++ log') result := by
  generalize hdone : (Except.ok () : Except (Fault PassError) Unit) = done at h
  induction h with
  | nil => exact h'
  | failed => cases hdone
  | @confirmed n planned plan log result hsend _ ih =>
    rw [List.length_cons, Nat.add_comm plan.length, ← Nat.add_assoc] at h'
    exact .confirmed hsend (ih h' hdone)

theorem sends_append_error {log : List Sent} {e : Fault PassError}
    (h : Sends node n plan log (.error e)) : Sends node n (plan ++ plan') log (.error e) := by
  generalize hdone : (Except.error e : Except (Fault PassError) Unit) = done at h
  induction h with
  | nil => cases hdone
  | failed hsend => exact .failed hsend
  | confirmed hsend _ ih => exact .confirmed hsend (ih hdone)

theorem sending_pure : Sending node [] (pure ()) := leads_pure fun _ ↦ ⟨.nil, fun _ ↦ rfl⟩

theorem Sending.bind {x : Pass Unit} {f : Unit → Pass Unit} (hx : Sending node plan x)
    (hf : Sending node plan' (f ())) : Sending node (plan ++ plan') (x >>= f) := by
  refine Leads.bind hx (fun _ ↦ hf) (fun s log e s' h ↦ ?_) fun s log _ s' log' r s'' h h' ↦ ?_
  · exact ⟨sends_append_error h.1, fun herror ↦ by cases herror⟩
  · have hcount : s'.sends = s.sends + plan.length := h.2 rfl
    rw [hcount] at h'
    refine ⟨sends_append h.1 h'.1, fun hr ↦ ?_⟩
    rw [h'.2 hr, List.length_append, Nat.add_assoc]

theorem sending_sendIx (planned : Planned) :
    Sending node [planned] (node.sendIx planned.1 planned.2) := by
  intro s
  unfold Node.sendIx act
  cases hsend : node.send s.sends with
  | error text =>
    simp only [hsend, Node.rpc, Except.mapError, lift]
    exact ⟨.failed hsend, fun herror ↦ by cases herror⟩
  | ok u =>
    simp only [hsend, Node.rpc, Except.mapError, lift]
    exact ⟨.confirmed hsend .nil, fun _ ↦ rfl⟩

end Sending

section Batches

variable {P : Platform} {manager : VaultManager} {kind : VaultRequestKind} {users : List Pubkey}

theorem blocks_flatMap {α : Type} {f : α → List AccountMeta} {g : α → Pubkey}
    (h : ∀ a rest, blocks (f a ++ rest) = g a :: blocks rest) (l : List α) :
    blocks (l.flatMap f) = l.map g := by
  induction l with
  | nil => rfl
  | cons a l ih => rw [List.flatMap_cons, h, ih, List.map_cons]

theorem exists_batchIx (h : ValidBatch users) :
    ∃ ix, batchIx P manager kind users = .ok ix ∧ payees kind ix = users := by
  cases kind with
  | deposit =>
    have husers : (users.map DepositPayout.new).map DepositPayout.user = users := by
      rw [List.map_map]
      exact List.map_id _
    have hvalid : validateBatch ((users.map DepositPayout.new).map DepositPayout.user) = .ok () :=
      validateBatch_ok.mpr (husers.symm ▸ h)
    refine ⟨_, bind_ok.mpr ⟨(), hvalid, rfl⟩, ?_⟩
    exact (blocks_flatMap (fun _ _ ↦ rfl) (users.map DepositPayout.new)).trans husers
  | withdraw =>
    have husers : (users.map WithdrawalPayout.new).map WithdrawalPayout.user = users := by
      rw [List.map_map]
      exact List.map_id _
    have hvalid :
        validateBatch ((users.map WithdrawalPayout.new).map WithdrawalPayout.user) = .ok () :=
      validateBatch_ok.mpr (husers.symm ▸ h)
    refine ⟨_, bind_ok.mpr ⟨(), hvalid, rfl⟩, ?_⟩
    exact (blocks_flatMap (fun _ _ ↦ rfl) (users.map WithdrawalPayout.new)).trans husers

theorem validBatch_of_mem_chunks (hdistinct : users.Nodup) {batch : List Pubkey}
    (h : batch ∈ chunks vaultCapitalBatchUsers users) : ValidBatch batch := by
  obtain ⟨k, hk, rfl⟩ := List.mem_map.mp h
  have hlt : k * 3 < users.length := by
    have hk := List.mem_range.mp hk
    simp only [vaultCapitalBatchUsers] at hk
    omega
  refine ⟨?_, List.length_take_le .., ?_⟩
  · refine List.ne_nil_of_length_pos ?_
    simp only [vaultCapitalBatchUsers, List.length_take, List.length_drop]
    omega
  · exact hdistinct.sublist ((List.take_sublist ..).trans (List.drop_sublist ..))

theorem sending_sendBatches {node : Node} {batches : List (List Pubkey)}
    (h : ∀ users ∈ batches, ValidBatch users) :
    ∃ plan, (∀ batch ∈ plan, Batch P manager kind batch) ∧
      plan.flatMap (payees kind ·.1) = batches.flatten ∧
      Sending node plan (node.sendBatches (batchIx P manager kind)
        (fun batch ↦ manager.batchShape P kind batch batch.length batch.length) batches) := by
  induction batches with
  | nil => exact ⟨[], List.forall_mem_nil _, rfl, sending_pure⟩
  | cons users batches ih =>
    obtain ⟨husers, hbatches⟩ := List.forall_mem_cons.mp h
    obtain ⟨plan, hplan, hpaid, hsends⟩ := ih hbatches
    obtain ⟨ix, hix, hpayees⟩ : ∃ ix, batchIx P manager kind users = .ok ix ∧ _ :=
      exists_batchIx husers
    let units := vaultCapitalBatchComputeUnits
      (manager.batchShape P kind users users.length users.length)
    refine ⟨(ix, some units) :: plan, List.forall_mem_cons.mpr ⟨?_, hplan⟩, ?_, ?_⟩
    · exact ⟨hpayees.symm ▸ husers, hpayees.symm ▸ hix, by rw [hpayees]⟩
    · rw [List.flatMap_cons, hpayees, hpaid, List.flatten_cons]
    · rw [Node.sendBatches, hix]
      exact (sending_sendIx (ix, some units)).bind hsends

theorem nodup_partials {requests : List Request} {supply : UInt64}
    (h : (requests.map Prod.fst).Nodup) : (planWithdrawals requests supply).partials.Nodup := by
  have hpartials : (planPartials requests supply).partials.Nodup := by
    rw [planPartials]
    split
    · have hperm : (bySharesDescending requests).Perm requests := List.perm_insertionSort _ _
      exact ((hperm.map Prod.fst).nodup_iff.mpr h).sublist ((List.tail_sublist _).map Prod.fst)
    · exact h
  unfold planWithdrawals
  split
  · split
    · exact List.nodup_nil
    · exact hpartials
  · exact hpartials

end Batches

section Reads

variable {P : Platform} {node : Node} {programId : Pubkey} {manager : VaultManager}

theorem meets_rpc {α : Type} {x : Except String α} : Meets (fun _ ↦ True) (Node.rpc x) :=
  meets_lift fun _ _ ↦ trivial

theorem rpc_raised {α : Type} {x : Except String α} {error : PassError}
    (h : Node.rpc x = .error (.raised error)) : ∃ text, x = .error text ∧ error = .rpc text := by
  cases x with
  | error text =>
    cases h
    exact ⟨text, rfl, rfl⟩
  | ok a => cases h

theorem meets_requests {kind : VaultRequestKind} :
    Meets (fun _ ↦ True) (node.requests kind) := by
  refine meets_rpc.bind fun accounts _ ↦ ?_
  refine (meets_mapM (R := fun _ ↦ True) fun data _ ↦ ?_).mono fun _ _ _ ↦ trivial
  refine meets_rpc.bind fun data _ ↦ ?_
  exact (reads_request.meets.mono fun _ _ _ ↦ trivial).mapFault

theorem meets_route {address : Pubkey} :
    Meets (fun _ ↦ True) (node.route programId address) := by
  refine meets_rpc.bind fun account _ ↦ Meets.mapFault ?_
  exact (meets_lift fun _ _ ↦ trivial).bind fun _ (_ : True) ↦ PriceRoute.meets_parse

theorem meets_priceSection :
    Meets (fun _ ↦ True) (node.priceSection P programId manager) := by
  refine meets_route.bind fun main _ ↦ meets_route.bind fun second _ ↦ ?_
  exact Meets.mapFault (meets_lift fun _ _ ↦ trivial)

end Reads

section Performing

variable (P : Platform) (node : Node) (programId : Pubkey) (vault : VaultRecord)
  (manager : VaultManager)

def Performs (step : CapitalStep) (n : ℕ) (log : List Sent)
    (result : Except (Fault PassError) Unit) : Prop :=
  (log = [] ∧ ∃ error, Unread P manager node programId vault step error ∧
    result = .error (.raised error)) ∨
  ∃ plan, Agenda P manager node programId vault step plan ∧ Sends node n plan log result

def Performing (step : CapitalStep) (x : Pass Unit) : Prop :=
  Leads x fun s log result _ ↦ Performs P node programId vault manager step s.sends log result

/-- Every user has one request to the vault. -/
def Distinct : Prop :=
  ∀ kind requests, node.requests kind = .ok requests → (requests.map VaultRequest.user).Nodup

variable {P node programId vault manager}

theorem performing_of_agenda {step : CapitalStep} {plan : List Planned} {x : Pass Unit}
    (hplan : Agenda P manager node programId vault step plan) (h : Sending node plan x) :
    Performing P node programId vault manager step x :=
  h.mono fun _ _ _ _ hsends ↦ .inr ⟨plan, hplan, hsends.1⟩

theorem performing_read {step : CapitalStep} {α : Type} {y : Checked PassError α}
    {f : α → Pass Unit} (hy : Meets (fun _ ↦ True) y)
    (hunread : ∀ error, y = .error (.raised error) →
      Unread P manager node programId vault step error)
    (h : ∀ a, y = .ok a → Performing P node programId vault manager step (f a)) :
    Performing P node programId vault manager step (ofExcept y >>= f) := by
  refine leads_ofExcept_bind (fun e he s ↦ ?_) h
  cases e with
  | raised error => exact .inl ⟨rfl, error, hunread error he, rfl⟩
  | panicked => exact absurd he hy.ne_panicked

theorem performing_closeDeposits :
    Performing P node programId vault manager .closeDeposits
      (node.perform P programId vault manager .closeDeposits) := by
  by_cases hpending : (VaultView.ofVault vault).Pending
  · have hrun : node.perform P programId vault manager .closeDeposits =
        (ofExcept (node.priceSection P programId manager) >>= fun _ ↦
          node.sendIx (manager.setAcceptingDeposits false) none) := if_pos hpending
    rw [hrun]
    refine performing_read meets_priceSection (fun _ ↦ .closeDeposits hpending)
      fun prices hprices ↦ ?_
    exact performing_of_agenda (.closeDeposits fun _ ↦ ⟨prices, hprices⟩) (sending_sendIx _)
  · have hrun : node.perform P programId vault manager .closeDeposits =
        node.sendIx (manager.setAcceptingDeposits false) none := if_neg hpending
    rw [hrun]
    exact performing_of_agenda (.closeDeposits fun h ↦ absurd h hpending) (sending_sendIx _)

theorem performing_processDeposits (hdistinct : Distinct node) :
    Performing P node programId vault manager .processDeposits
      (node.perform P programId vault manager .processDeposits) := by
  refine performing_read meets_requests (fun _ ↦ .depositRequests) fun requests hrequests ↦ ?_
  obtain ⟨plan, hbatches, hpaid, hsends⟩ := @sending_sendBatches P manager .deposit node _
    fun users ↦ validBatch_of_mem_chunks (hdistinct .deposit requests hrequests)
  rw [flatten_chunks (by decide)] at hpaid
  exact performing_of_agenda (.processDeposits hrequests hbatches hpaid) hsends

theorem performing_processWithdrawals (hdistinct : Distinct node) :
    Performing P node programId vault manager .processWithdrawals
      (node.perform P programId vault manager .processWithdrawals) := by
  refine performing_read meets_requests (fun _ ↦ .withdrawRequests) fun requests hrequests ↦ ?_
  refine performing_read meets_rpc (fun error hsupply ↦ ?_) fun supply hsupply ↦ ?_
  · obtain ⟨text, htext, rfl⟩ := rpc_raised hsupply
    exact .supply hrequests htext
  have husers : ((requests.map fun r ↦ (r.user, r.amount)).map Prod.fst).Nodup := by
    rw [List.map_map]
    exact hdistinct .withdraw requests hrequests
  have hpartials : (planWithdrawals _ supply).partials.Nodup := nodup_partials husers
  obtain ⟨batches, hbatches, hpaid, hsends⟩ := @sending_sendBatches P manager .withdraw node _
    fun users ↦ validBatch_of_mem_chunks hpartials
  rw [flatten_chunks (by decide)] at hpaid
  have hsupply : node.supply = .ok supply := mapError_ok.mp (lift_ok.mp hsupply)
  refine performing_of_agenda (.processWithdrawals hrequests hsupply rfl hbatches hpaid rfl)
    (hsends.bind ?_)
  generalize planWithdrawals _ supply = plan
  cases plan.finalUser with
  | none =>
    rw [Option.toList_none, List.map_nil, ite_self]
    exact sending_pure
  | some user =>
    by_cases hopen : vault.pendingDepositCount = 0 ∨ vault.safety = .withdrawOnly
    · simp only [hopen, if_true]
      exact sending_sendIx _
    · simp only [hopen, if_false]
      exact sending_pure

theorem performing_perform (hdistinct : Distinct node) (step : CapitalStep) :
    Performing P node programId vault manager step
      (node.perform P programId vault manager step) := by
  cases step with
  | closeDeposits => exact performing_closeDeposits
  | openDeposits => exact performing_of_agenda .openDeposits (sending_sendIx _)
  | computeEquity =>
    exact performing_read meets_priceSection (fun _ ↦ .computeEquity) fun prices hprices ↦
      performing_of_agenda (.computeEquity hprices) (sending_sendIx _)
  | processWithdrawals => exact performing_processWithdrawals hdistinct
  | processDeposits => exact performing_processDeposits hdistinct
  | finalizeCycle => exact performing_of_agenda .finalizeCycle (sending_sendIx _)

end Performing

/-- The step that the window and the account that is read call for. -/
structure Chooses (node : Node) (policy : WindowPolicy) (now : ℕ) (window : WindowTracker)
    (vault : VaultRecord) (step : Option CapitalStep) : Prop where
  read : ∃ data, node.vaultData = .ok data ∧ VaultRecord.parse data = .ok vault
  next : (VaultView.ofVault vault).nextStep
    (window.observe vault.acceptingDeposits now).2 policy = step

inductive Passed (P : Platform) (node : Node) (programId actor : Pubkey) (policy : WindowPolicy)
    (now : ℕ) (s : PassState) : List Sent → Except (Fault PassError) (Option CapitalStep) → Prop
  | unread {text : String} (hdata : node.vaultData = .error text) :
      Passed P node programId actor policy now s [] (.error (.raised (.rpc text)))
  | malformed {data : List UInt8} {error : VaultChainError} (hdata : node.vaultData = .ok data)
      (hvault : VaultRecord.parse data = .error (.raised error)) :
      Passed P node programId actor policy now s [] (.error (.raised (.vault error)))
  | idle {vault : VaultRecord} (hchosen : Chooses node policy now s.window vault none) :
      Passed P node programId actor policy now s [] (.ok none)
  | unmanaged {vault : VaultRecord} {step : CapitalStep} {error : VaultChainError}
      (hchosen : Chooses node policy now s.window vault (some step))
      (hmanager : VaultManager.fromVault P programId actor vault = .error error) :
      Passed P node programId actor policy now s [] (.error (.raised (.vault error)))
  | stopped {vault : VaultRecord} {step : CapitalStep} {manager : VaultManager} {error : PassError}
      (hchosen : Chooses node policy now s.window vault (some step))
      (hmanager : VaultManager.fromVault P programId actor vault = .ok manager)
      (hunread : Unread P manager node programId vault step error) :
      Passed P node programId actor policy now s [] (.error (.raised error))
  | stepped {vault : VaultRecord} {step : CapitalStep} {manager : VaultManager}
      {plan : List Planned} {log : List Sent} {done : Except (Fault PassError) Unit}
      (hchosen : Chooses node policy now s.window vault (some step))
      (hmanager : VaultManager.fromVault P programId actor vault = .ok manager)
      (hplan : Agenda P manager node programId vault step plan)
      (hsends : Sends node s.sends plan log done) :
      Passed P node programId actor policy now s log (done.map fun _ ↦ some step)

section Passing

variable {P : Platform} {node : Node} {programId actor : Pubkey} {policy : WindowPolicy} {now : ℕ}
  {s : PassState} {vault : VaultRecord} {step : CapitalStep} {manager : VaultManager}

theorem passed_of_performs {log : List Sent} {done : Except (Fault PassError) Unit}
    (hchosen : Chooses node policy now s.window vault (some step))
    (hmanager : VaultManager.fromVault P programId actor vault = .ok manager)
    (h : Performs P node programId vault manager step s.sends log done) :
    Passed P node programId actor policy now s log (done.map fun _ ↦ some step) := by
  rcases h with ⟨rfl, error, hunread, rfl⟩ | ⟨plan, hplan, hsends⟩
  · exact .stopped hchosen hmanager hunread
  · exact .stepped hchosen hmanager hplan hsends

theorem passed_turn {data : List UInt8} (hdistinct : Distinct node)
    (hdata : node.vaultData = .ok data) (hvault : VaultRecord.parse data = .ok vault)
    (window : WindowTracker) :
    Passed P node programId actor policy now s
      (node.turn P programId actor policy vault
        (s.window.observe vault.acceptingDeposits now).2 { s with window }).2.1
      (node.turn P programId actor policy vault
        (s.window.observe vault.acceptingDeposits now).2 { s with window }).1 := by
  have hread : ∃ data, node.vaultData = .ok data ∧ VaultRecord.parse data = .ok vault :=
    ⟨data, hdata, hvault⟩
  unfold Node.turn
  cases hstep : (VaultView.ofVault vault).nextStep
    (s.window.observe vault.acceptingDeposits now).2 policy with
  | none => exact .idle ⟨hread, hstep⟩
  | some step =>
    cases hmanager : VaultManager.fromVault P programId actor vault with
    | error error => exact .unmanaged ⟨hread, hstep⟩ hmanager
    | ok manager =>
      dsimp only
      rw [show Node.vault (lift (.ok manager)) = .ok manager from rfl, ofExcept_ok_bind,
        bind_pure_run]
      exact passed_of_performs ⟨hread, hstep⟩ hmanager (performing_perform hdistinct step _)

/-- What a pass of the crank sends is decided by the account it reads, whatever the RPC answers:
the agenda of the step chosen for it, up to the first transaction that fails. It never panics. -/
theorem pass_follows_agenda (hdistinct : Distinct node) (s : PassState) :
    Passed P node programId actor policy now s (node.pass P programId actor policy now s).2.1
      (node.pass P programId actor policy now s).1 := by
  unfold Node.pass
  cases hdata : node.vaultData with
  | error text => exact .unread hdata
  | ok data =>
    rw [show Node.rpc (.ok data) = .ok data from rfl, ofExcept_ok_bind]
    cases hvault : VaultRecord.parse data with
    | error fault =>
      cases fault with
      | raised error => exact .malformed hdata hvault
      | panicked => exact absurd hvault reads_parse.meets.ne_panicked
    | ok vault =>
      rw [show Node.vault (.ok vault) = .ok vault from rfl, ofExcept_ok_bind, modifyGet_bind]
      exact passed_turn hdistinct hdata hvault _

end Passing

section Sample

def samplePassVault : VaultRecord :=
  { vaultId := keyOfNat 2, phase := .processingCapital, safety := .normal, equityComputed := true
    acceptingDeposits := false, governanceAuthority := keyOfNat 3, primaryDelegate := keyOfNat 4
    pendingGovernanceAuthority := keyOfNat 0, feeRecipient := keyOfNat 3, mainMint := keyOfNat 5
    secondMint := keyOfNat 6, shareMint := keyOfNat 7, mainTokenProgram := tokenProgramId
    secondTokenProgram := token2022ProgramId, activeExpiry := 0, openPositions := 0
    totalShares := 100, pendingDepositCount := 4, pendingWithdrawCount := 0
    capitalFallbackDelaySecs := 0, closingStartedAt := 0, boundaryEquity := 0, boundaryShares := 0
    staging := ⟨0, none⟩, secondLegGeneration := 0 }

def sampleDeposit (user : ℕ) : Option (List UInt8) :=
  some (writeAll (List.replicate 344 0)
    (VaultRequest.spelling .deposit ⟨keyOfNat user, keyOfNat 8, 500, 7⟩))

def sampleNode : Node where
  vaultData := .ok (writeAll (List.replicate 712 0) samplePassVault.spelling)
  account _ := .error "no account"
  requestData
    | .deposit => .ok ((List.range' 10 4).map sampleDeposit)
    | .withdraw => .ok []
  supply := .ok 100
  send n := if n = 0 then .ok () else .error "blockhash not found"

theorem sampleNode_distinct : Distinct sampleNode := by
  have hdeposits : (sampleNode.requests .deposit).map (·.map VaultRequest.user) =
      .ok [keyOfNat 10, keyOfNat 11, keyOfNat 12, keyOfNat 13] := by decide +kernel
  rintro (_ | _) requests h
  · rw [h] at hdeposits
    have husers : requests.map VaultRequest.user = _ := Except.ok.inj hdeposits
    rw [husers]
    decide +kernel
  · cases h
    exact List.nodup_nil

theorem pass_follows_agenda_deposits :
    let run := sampleNode.pass sampleSearches (keyOfNat 1) (keyOfNat 3) ⟨true, 0, 0⟩ 0 ⟨.new, 0⟩
    run.2.1.map (payees .deposit ·.ix) =
      [[keyOfNat 10, keyOfNat 11, keyOfNat 12], [keyOfNat 13]] ∧
    run.2.1.map Sent.confirmed = [true, false] ∧
    Passed sampleSearches sampleNode (keyOfNat 1) (keyOfNat 3) ⟨true, 0, 0⟩ 0 ⟨.new, 0⟩
      run.2.1 run.1 :=
  ⟨by decide +kernel, by decide +kernel, pass_follows_agenda sampleNode_distinct ⟨.new, 0⟩⟩

end Sample

end MakerSdk.Crank
