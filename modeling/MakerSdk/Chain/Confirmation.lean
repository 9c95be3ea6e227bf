import MakerSdk.Base.Lists
import MakerSdk.Base.Rendezvous
import MakerSdk.Base.Runs
import MakerSdk.Sale.Errors

namespace MakerSdk.Chain

open Base Base.Bytes Base.Checks Base.Rendezvous
open Sale (ChainError)

abbrev Signature := FixedBytes 64

inductive ConfirmationStatus where
  | confirmed
  | failed (error : String)
  | pending
deriving DecidableEq

inductive Value where
  | null
  | bool (value : Bool)
  | posInt (value : UInt64)
  | negInt (value : ℤ)
  | float (bits : UInt64)
  | string (text : String)
  | array (items : List Value)
  | object (members : List (String × Value))

namespace Value

def get (value : Value) (key : String) : Option Value :=
  match value with
  | object members => members.lookup key
  | _ => none

/-- `value[key]`, which is null where there is none. -/
def index (value : Value) (key : String) : Value := (value.get key).getD .null

def asU64 : Value → Option UInt64
  | posInt value => some value
  | _ => none

def isNull : Value → Bool
  | null => true
  | _ => false

def isString (text : String) : Value → Bool
  | string text' => text' == text
  | _ => false

end Value

/-- The RPC client. `statuses` is the answer to its `call`-th status read; the commitment and the
texts of errors and signatures are those of the node and of `serde_json`. -/
structure Rpc (τ : Type) where
  commitment : String
  satisfiesCommitment : τ → Bool
  err : τ → Option String
  statuses : (call : ℕ) → List Signature → Except ChainError (List (Option τ))
  signatureText : Signature → String
  errorText : Value → String

/-- What a frame of the socket tells: a subscription was made for a request, or it has a result. -/
inductive Report where
  | acknowledged (id subscription : UInt64)
  | notified (subscription : UInt64) (error : Option String)

/-- What the socket yields; a text frame as `serde_json` reads it, a ping with the result of its
answer. The end of the stream, and the end of the wait, is the end of the list. -/
inductive SocketEvent where
  | text (value : Except String Value)
  | ping (answered : Except String Unit)
  | close
  | other
  | failed (error : String)

/-- One wait: the connection attempt, the sends that were completed and what the socket yielded. -/
structure Wait where
  connect : Except String Unit
  sends : List (Except String Unit)
  events : List SocketEvent

def transport (error : String) : ChainError := .other ("confirmation transport: " ++ error)

def ConfirmationStatus.ofError : Option String → ConfirmationStatus
  | none => confirmed
  | some error => failed error

/-- The locals of `subscribe_signatures`, and the reports it has taken in. -/
structure Listening where
  results : List ConfirmationStatus
  subscriptions : AList fun _ : UInt64 ↦ ℕ
  early : AList fun _ : UInt64 ↦ ConfirmationStatus
  heard : List Report

section Model

variable {τ : Type}

def subscribeRequest (rpc : Rpc τ) (index : ℕ) (signature : Signature) : Value :=
  .object [("jsonrpc", .string "2.0"), ("id", .posInt (.ofNat index)),
    ("method", .string "signatureSubscribe"),
    ("params", .array [.string (rpc.signatureText signature),
      .object [("commitment", .string rpc.commitment)]])]

def subscribeRequests (rpc : Rpc τ) (signatures : List Signature) : List Value :=
  signatures.mapIdx (subscribeRequest rpc)

def Value.notification (rpc : Rpc τ) (value : Value) : Except ChainError Report := do
  let subscription ←
    okOr ((value.index "params").index "subscription").asU64 .invalidAccountData
  let error ←
    okOr ((((value.index "params").index "result").index "value").get "err") .invalidAccountData
  pure (.notified subscription (if error.isNull then none else some (rpc.errorText error)))

def Value.report (rpc : Rpc τ) (value : Value) : Except ChainError (Option Report) :=
  match (value.index "id").asU64, (value.index "result").asU64 with
  | some id, some subscription => pure (some (.acknowledged id subscription))
  | _, _ =>
    if (value.index "method").isString "signatureNotification" then
      (value.notification rpc).map some
    else pure none

namespace Listening

def start (count : ℕ) : Listening := ⟨List.replicate count .pending, ∅, ∅, []⟩

def note (count : ℕ) (s : Listening) : Report → Except ChainError Listening
  | .acknowledged id subscription => do
    refuse (count ≤ id.toNat) .invalidAccountData
    let heard := s.heard ++ [.acknowledged id subscription]
    match s.early.lookup subscription with
    | some status =>
      pure { s with
        heard
        early := s.early.erase subscription
        results := s.results.set id.toNat status }
    | none => pure { s with heard, subscriptions := s.subscriptions.insert subscription id.toNat }
  | .notified subscription error => do
    let heard := s.heard ++ [.notified subscription error]
    let status := ConfirmationStatus.ofError error
    match s.subscriptions.lookup subscription with
    | some index =>
      pure { s with
        heard
        subscriptions := s.subscriptions.erase subscription
        results := s.results.set index status }
    | none =>
      refuse (count ≤ s.early.keys.length) .invalidAccountData
      pure { s with heard, early := s.early.insert subscription status }

def take (rpc : Rpc τ) (count : ℕ) (s : Listening) (value : Value) :
    Except ChainError Listening := do
  match ← value.report rpc with
  | some report => s.note count report
  | none => pure s

def listen (rpc : Rpc τ) (count : ℕ) :
    Listening → List SocketEvent → Listening × Except ChainError Unit
  | s, [] | s, .close :: _ => (s, .ok ())
  | s, .failed error :: _ | s, .text (.error error) :: _ | s, .ping (.error error) :: _ =>
    (s, .error (transport error))
  | s, .ping (.ok ()) :: events | s, .other :: events => listen rpc count s events
  | s, .text (.ok value) :: events =>
    if (value.get "error").isSome then (s, .ok ())
    else
      match s.take rpc count value with
      | .error error => (s, .error error)
      | .ok s =>
        if s.results.all (· ≠ .pending) then (s, .ok ()) else listen rpc count s events

end Listening

def subscribeSignatures (rpc : Rpc τ) (signatures : List Signature) (wait : Wait) :
    Listening × Except ChainError Unit :=
  let start := Listening.start signatures.length
  match wait.connect, wait.sends.mapM id with
  | .error error, _ | .ok (), .error error => (start, .error (transport error))
  | .ok (), .ok sent =>
    if sent.length < (subscribeRequests rpc signatures).length then (start, .ok ())
    else start.listen rpc signatures.length wait.events

def chunks {α : Type} (size : ℕ) (l : List α) : List (List α) :=
  (List.range ((l.length + size - 1) / size)).map fun k ↦ (l.drop (k * size)).take size

def Rpc.status (rpc : Rpc τ) : Option τ → ConfirmationStatus
  | some status => if rpc.satisfiesCommitment status then .ofError (rpc.err status) else .pending
  | none => .pending

def signatureStatuses (rpc : Rpc τ) (signatures : List Signature) :
    Except ChainError (List ConfirmationStatus) := do
  let results ← (chunks 256 signatures).zipIdx.mapM fun (chunk, call) ↦ do
    let statuses ← rpc.statuses call chunk
    refuse (statuses.length ≠ chunk.length) .invalidAccountData
    pure (statuses.map rpc.status)
  pure results.flatten

def unresolved (results : List ConfirmationStatus) : List ℕ :=
  results.zipIdx.filterMap fun (status, index) ↦ if status = .pending then some index else none

def confirmSignatures (rpc : Rpc τ) (signatures : List Signature) (wait : Wait) :
    Except ChainError (List ConfirmationStatus) :=
  if signatures = [] then pure []
  else do
    let results := (subscribeSignatures rpc signatures wait).1.results
    let pending := (unresolved results).filterMap fun index ↦ signatures[index]?
    let statuses ← signatureStatuses rpc pending
    pure (((unresolved results).zip statuses).foldl (fun results (index, status) ↦
      results.set index status) results)

end Model

def Report.arrival : Report → Arrival UInt64 ℕ ConfirmationStatus
  | acknowledged id subscription => .left subscription id.toNat
  | notified subscription error => .right subscription (.ofError error)

def SocketEvent.report {τ : Type} (rpc : Rpc τ) : SocketEvent → Option Report
  | text (.ok value) =>
    match value.report rpc with
    | .ok report => report
    | .error _ => none
  | _ => none

/-- What the loop does not get past: the socket closes or fails, a frame cannot be read or answered,
tells an error or is refused. -/
inductive SocketEvent.Stops {τ : Type} (rpc : Rpc τ) (count : ℕ) (s : Listening) :
    SocketEvent → Prop
  | close : Stops rpc count s .close
  | failed (error : String) : Stops rpc count s (.failed error)
  | unread (error : String) : Stops rpc count s (.text (.error error))
  | unanswered (error : String) : Stops rpc count s (.ping (.error error))
  | told (value : Value) (h : (value.get "error").isSome) : Stops rpc count s (.text (.ok value))
  | refused (value : Value) (error : ChainError) (h : s.take rpc count value = .error error) :
    Stops rpc count s (.text (.ok value))

/-- Why the last of the socket's events go unread: there are none, every index has its status, or
the first of them stops the loop. -/
inductive Listening.Ended {τ : Type} (rpc : Rpc τ) (count : ℕ) (s : Listening) :
    List SocketEvent → Prop
  | read : Ended rpc count s []
  | resolved (unread : List SocketEvent) (h : .pending ∉ s.results) : Ended rpc count s unread
  | stopped (event : SocketEvent) (unread : List SocketEvent) (h : event.Stops rpc count s) :
    Ended rpc count s (event :: unread)

structure Wait.Subscribed (wait : Wait) (signatures : List Signature) : Prop where
  connect : wait.connect = .ok ()
  sends : ∀ sent ∈ wait.sends, sent = .ok ()
  all : signatures.length ≤ wait.sends.length

theorem index_subscribeRequest {τ : Type} {rpc : Rpc τ} {index : ℕ} {signature : Signature} :
    (subscribeRequest rpc index signature).index "id" = .posInt (.ofNat index) := rfl

theorem ConfirmationStatus.ofError_ne_pending {error : Option String} :
    ofError error ≠ pending := by
  cases error <;> simp [ofError]

namespace Listening

variable {τ : Type} {rpc : Rpc τ} {count : ℕ} {s t u : Listening} {report : Report}
  {history : List Report}

def desk (s : Listening) : Desk UInt64 ℕ ConfirmationStatus := ⟨s.subscriptions, s.early⟩

def settle (results : List ConfirmationStatus) :
    Option (ℕ × ConfirmationStatus) → List ConfirmationStatus
  | some (index, status) => results.set index status
  | none => results

theorem note_ok (h : s.note count report = .ok t) :
    t.heard = s.heard ++ [report] ∧ t.desk = (s.desk.arrive report.arrival).1 ∧
      t.results = settle s.results (s.desk.arrive report.arrival).2 ∧
      ∀ id subscription, report = .acknowledged id subscription → id.toNat < count := by
  cases report with
  | acknowledged id subscription =>
    obtain ⟨_, hcount, h⟩ := bind_ok.mp h
    have hid := Nat.lt_of_not_le (refuse_ok.mp hcount)
    cases hearly : s.early.lookup subscription with
    | some status =>
      rw [hearly] at h
      cases h
      simp [desk, Report.arrival, Desk.arrive, hearly, settle, hid]
    | none =>
      rw [hearly] at h
      cases h
      simp [desk, Report.arrival, Desk.arrive, hearly, settle, hid]
  | notified subscription error =>
    cases hsubscribed : s.subscriptions.lookup subscription with
    | some index =>
      simp only [note, hsubscribed] at h
      cases h
      simp [desk, Report.arrival, Desk.arrive, hsubscribed, settle]
    | none =>
      simp only [note, hsubscribed] at h
      obtain ⟨-, -, h⟩ := bind_ok.mp h
      cases h
      simp [desk, Report.arrival, Desk.arrive, hsubscribed, settle]

theorem arrivals_note (h : s.note count report = .ok t) :
    t.heard.map Report.arrival = s.heard.map Report.arrival ++ [report.arrival] := by
  rw [(note_ok h).1, List.map_append]
  rfl

def replay (count : ℕ) (s : Listening) (history : List Report) : Option Listening :=
  Runs.run (fun s report ↦ (s.note count report).toOption) s history

theorem notMem_pending {results : List ConfirmationStatus} :
    .pending ∉ results ↔ results.all (· ≠ .pending) := by
  simp only [List.all_eq_true, decide_eq_true_eq]
  exact List.forall_mem_ne'.symm

section Hears

variable {rpc : Rpc τ} {sent : Prop} {event : SocketEvent} {events : List SocketEvent}

/-- The reports of a first part of the events make `t` of `s`; if all was `sent`, what comes after
it says why it goes unread. -/
def Hears (rpc : Rpc τ) (count : ℕ) (sent : Prop) (s : Listening) (events : List SocketEvent)
    (t : Listening) : Prop :=
  ∃ taken unread, events = taken ++ unread ∧
    replay count s (taken.filterMap (SocketEvent.report rpc)) = some t ∧
    (sent → t.Ended rpc count unread)

theorem hears_none (h : sent → s.Ended rpc count events) : Hears rpc count sent s events s :=
  ⟨[], events, rfl, rfl, h⟩

theorem Hears.skip (h : Hears rpc count sent s events t) (hevent : event.report rpc = none) :
    Hears rpc count sent s (event :: events) t := by
  obtain ⟨taken, unread, hevents, hreplay, hended⟩ := h
  refine ⟨event :: taken, unread, congrArg _ hevents, ?_, hended⟩
  rwa [List.filterMap_cons_none hevent]

theorem Hears.note {u : Listening} (h : Hears rpc count sent u events t)
    (hevent : event.report rpc = some report) (hnote : s.note count report = .ok u) :
    Hears rpc count sent s (event :: events) t := by
  obtain ⟨taken, unread, hevents, hreplay, hended⟩ := h
  refine ⟨event :: taken, unread, congrArg _ hevents, ?_, hended⟩
  rw [List.filterMap_cons_some hevent]
  refine Runs.run_cons.mpr ⟨u, ?_, hreplay⟩
  rw [hnote]
  rfl

end Hears

/-- The loop replays the reports of the events it reads, and it reads them until it has to end. -/
theorem hears_listen (rpc : Rpc τ) (count : ℕ) (sent : Prop) (s : Listening)
    (events : List SocketEvent) :
    Hears rpc count sent s events (s.listen rpc count events).1 := by
  induction events generalizing s with
  | nil => exact hears_none fun _ ↦ .read
  | cons event events ih =>
    have hstop (hevent : event.Stops rpc count s) : Hears rpc count sent s (event :: events) s :=
      hears_none fun _ ↦ .stopped _ _ hevent
    rcases event with (error | value) | (error | _) | _ | _ | error
    · exact hstop (.unread error)
    · simp only [listen]
      split
      · rename_i htold
        exact hstop (.told value htold)
      split
      · rename_i error herror
        exact hstop (.refused value error herror)
      rename_i t ht
      have hrest : Hears rpc count sent t events
          (if t.results.all (· ≠ .pending) then (t, .ok ()) else t.listen rpc count events).1 := by
        split
        · rename_i hresolved
          exact hears_none fun _ ↦ .resolved _ (notMem_pending.mpr hresolved)
        · exact ih t
      obtain ⟨report, hreport, ht⟩ := bind_ok.mp ht
      have hevent : (SocketEvent.text (.ok value)).report rpc = report := by
        simp only [SocketEvent.report, hreport]
      cases report with
      | none =>
        cases ht
        exact hrest.skip hevent
      | some report => exact hrest.note hevent ht
    · exact hstop (.unanswered error)
    · exact (ih s).skip rfl
    · exact hstop .close
    · exact (ih s).skip rfl
    · exact hstop (.failed error)

structure Sound (count : ℕ) (s : Listening) : Prop where
  length : s.results.length = count
  kept : s.desk.Kept (s.heard.map Report.arrival)
  resolved : ∀ index status, s.results[index]? = some status → status = .pending ∨
    ∃ key, .left key index ∈ s.heard.map Report.arrival ∧
      .right key status ∈ s.heard.map Report.arrival

theorem sound_start : (start count).Sound count := by
  refine ⟨List.length_replicate, Desk.kept_empty, fun index status h ↦ .inl ?_⟩
  exact List.eq_of_mem_replicate (List.mem_of_getElem? h)

theorem Sound.note (hs : s.Sound count) (h : s.note count report = .ok t) : t.Sound count := by
  obtain ⟨-, hdesk, hresults, -⟩ := note_ok h
  have hmap := arrivals_note h
  have hold {index : ℕ} {status : ConfirmationStatus} (hi : s.results[index]? = some status) :
      status = .pending ∨ ∃ key, .left key index ∈ t.heard.map Report.arrival ∧
        .right key status ∈ t.heard.map Report.arrival := by
    refine (hs.resolved index status hi).imp_right ?_
    rintro ⟨key, hleft, hright⟩
    rw [hmap]
    exact ⟨key, List.mem_append_left _ hleft, List.mem_append_left _ hright⟩
  refine ⟨?_, ?_, fun index status hi ↦ ?_⟩
  · rw [hresults]
    cases (s.desk.arrive report.arrival).2 with
    | none => exact hs.length
    | some meeting => exact (List.length_set ..).trans hs.length
  · rw [hdesk, hmap]
    exact hs.kept.arrive
  · rw [hresults] at hi
    cases hmeeting : (s.desk.arrive report.arrival).2 with
    | none =>
      rw [hmeeting] at hi
      exact hold hi
    | some meeting =>
      obtain ⟨index', status'⟩ := meeting
      rw [hmeeting] at hi
      simp only [settle, List.getElem?_set] at hi
      split at hi
      · rename_i hindex
        subst hindex
        split at hi
        · cases hi
          rw [hmap]
          exact .inr (hs.kept.met hmeeting)
        · cases hi
      · exact hold hi

theorem sound_replay (hs : s.Sound count) (h : replay count s history = some t) :
    t.Sound count :=
  Runs.run_invariant (fun _ _ _ hs ht ↦ hs.note (toOption_ok ht)) hs h

theorem heard_replay (h : replay count s history = some t) : t.heard = s.heard ++ history := by
  induction history generalizing s with
  | nil =>
    cases h
    exact (List.append_nil _).symm
  | cons report history ih =>
    obtain ⟨u, hu, h⟩ := Runs.run_cons.mp h
    rw [ih h, (note_ok (toOption_ok hu)).1, List.append_assoc]
    rfl

theorem desk_replay (h : replay count s history = some t) :
    t.desk = s.desk.arriveAll (history.map Report.arrival) := by
  induction history generalizing s with
  | nil =>
    cases h
    rfl
  | cons report history ih =>
    obtain ⟨u, hu, h⟩ := Runs.run_cons.mp h
    rw [ih h, (note_ok (toOption_ok hu)).2.1]
    rfl

theorem left_mem {key : UInt64} {index : ℕ} (h : .left key index ∈ history.map Report.arrival) :
    ∃ id, .acknowledged id key ∈ history ∧ id.toNat = index := by
  obtain ⟨report, hmem, hreport⟩ := List.mem_map.mp h
  cases report with
  | acknowledged id =>
    cases hreport
    exact ⟨id, hmem, rfl⟩
  | notified => cases hreport

theorem right_mem {key : UInt64} {status : ConfirmationStatus}
    (h : .right key status ∈ history.map Report.arrival) :
    ∃ error, .notified key error ∈ history ∧ status = .ofError error := by
  obtain ⟨report, hmem, hreport⟩ := List.mem_map.mp h
  cases report with
  | acknowledged => cases hreport
  | notified subscription error =>
    cases hreport
    exact ⟨error, hmem, rfl⟩

theorem right_ne_pending {key : UInt64} {status : ConfirmationStatus}
    (h : .right key status ∈ history.map Report.arrival) : status ≠ .pending := by
  obtain ⟨error, -, rfl⟩ := right_mem h
  exact ConfirmationStatus.ofError_ne_pending

theorem resolved_note {index : ℕ} (hs : s.Sound count)
    (hresolved : ∃ status, s.results[index]? = some status ∧ status ≠ .pending)
    (h : s.note count report = .ok t) :
    ∃ status, t.results[index]? = some status ∧ status ≠ .pending := by
  obtain ⟨status, hstatus, hne⟩ := hresolved
  obtain ⟨-, -, hresults, -⟩ := note_ok h
  rw [hresults]
  cases hmeeting : (s.desk.arrive report.arrival).2 with
  | none => exact ⟨status, hstatus, hne⟩
  | some meeting =>
    obtain ⟨index', status'⟩ := meeting
    simp only [settle]
    by_cases hindex : index' = index
    · subst hindex
      obtain ⟨key, -, hright⟩ := hs.kept.met hmeeting
      rw [← arrivals_note h] at hright
      refine ⟨status', ?_, right_ne_pending hright⟩
      exact List.getElem?_set_self (List.getElem?_eq_some_iff.mp hstatus).1
    · exact ⟨status, (List.getElem?_set_ne hindex).trans hstatus, hne⟩

theorem resolved_replay {index : ℕ} (hs : s.Sound count)
    (hresolved : ∃ status, s.results[index]? = some status ∧ status ≠ .pending)
    (h : replay count s history = some t) :
    ∃ status, t.results[index]? = some status ∧ status ≠ .pending := by
  have hboth : t.Sound count ∧ ∃ status, t.results[index]? = some status ∧ status ≠ .pending :=
    Runs.run_invariant (I := fun s ↦ s.Sound count ∧
        ∃ status, s.results[index]? = some status ∧ status ≠ .pending)
      (fun _ _ _ hs ht ↦ ⟨hs.1.note (toOption_ok ht), resolved_note hs.1 hs.2 (toOption_ok ht)⟩)
      ⟨hs, hresolved⟩ h
  exact hboth.2

def latest (subscription : UInt64) (error : Option String) (reports : List Report) :
    Option String :=
  reports.foldl (fun error report ↦
    match report with
    | .acknowledged _ _ => error
    | .notified subscription' error' =>
      if subscription' = subscription then error' else error) error

theorem latest_arrivals {subscription : UInt64} {error : Option String} :
    Desk.latest subscription (.ofError error) (history.map Report.arrival) =
      .ofError (latest subscription error history) := by
  induction history generalizing error with
  | nil => rfl
  | cons report history ih =>
    cases report with
    | acknowledged => exact ih
    | notified subscription' error' =>
      simp only [Desk.latest, latest, List.map_cons, List.foldl_cons, Report.arrival]
      split
      · exact ih
      · exact ih

/-- A notification that finds no acknowledged subscription, or the last one in its place, reaches
the index of the next acknowledgement. -/
theorem early_delivered {between after : List Report} {id subscription : UInt64}
    {error : Option String} (hs : s.Sound count)
    (hearly : s.subscriptions.lookup subscription = none)
    (hbetween : ∀ id, .acknowledged id subscription ∉ between)
    (h : replay count s (.notified subscription error ::
      (between ++ .acknowledged id subscription :: after)) = some t) :
    (∃ u, replay count s (.notified subscription error ::
        (between ++ [.acknowledged id subscription])) = some u ∧
      u.results[id.toNat]? = some (.ofError (latest subscription error between))) ∧
    ∃ status, t.results[id.toNat]? = some status ∧ status ≠ .pending := by
  obtain ⟨s₁, h₁, h⟩ := Runs.run_cons.mp h
  obtain ⟨s₂, h₂, h⟩ := Runs.run_append.mp h
  obtain ⟨s₃, h₃, h⟩ := Runs.run_cons.mp h
  have hsound₂ : s₂.Sound count := sound_replay (hs.note (toOption_ok h₁)) h₂
  have hsound₃ := hsound₂.note (toOption_ok h₃)
  obtain ⟨-, -, hresults, hid⟩ := note_ok (toOption_ok h₃)
  have hmeets : (s₂.desk.arrive (.left subscription id.toNat)).2 =
      some (id.toNat, .ofError (latest subscription error between)) := by
    rw [desk_replay h₂, (note_ok (toOption_ok h₁)).2.1, ← latest_arrivals]
    apply Desk.early_meets hearly
    intro index hindex
    obtain ⟨id, hid, -⟩ := left_mem hindex
    exact hbetween id hid
  have hdelivered :
      s₃.results[id.toNat]? = some (.ofError (latest subscription error between)) := by
    rw [hresults, Report.arrival, hmeets]
    apply List.getElem?_set_self
    rw [hsound₂.length]
    exact hid id subscription rfl
  refine ⟨⟨s₃, ?_, hdelivered⟩, ?_⟩
  · exact Runs.run_cons.mpr ⟨s₁, h₁, Runs.run_concat h₂ h₃⟩
  · exact resolved_replay hsound₃ ⟨_, hdelivered, ConfirmationStatus.ofError_ne_pending⟩ h

theorem hears_subscribe (rpc : Rpc τ) (signatures : List Signature) (wait : Wait) :
    Hears rpc signatures.length (wait.Subscribed signatures) (start signatures.length)
      wait.events (subscribeSignatures rpc signatures wait).1 := by
  have hstart (hunsent : ¬ wait.Subscribed signatures) :
      Hears rpc signatures.length (wait.Subscribed signatures) (start signatures.length)
        wait.events (start signatures.length) :=
    hears_none fun h ↦ absurd h hunsent
  simp only [subscribeSignatures]
  split
  · rename_i error _ hconnect
    refine hstart fun h ↦ ?_
    rw [h.connect] at hconnect
    cases hconnect
  · rename_i error hconnect herror
    refine hstart fun h ↦ ?_
    have hsent : List.Forall₂ (fun sent u ↦ id sent = .ok u) wait.sends
        (wait.sends.map fun _ ↦ ()) := by
      rw [List.forall₂_map_right_iff, List.forall₂_same]
      exact h.sends
    rw [mapM_ok.mpr hsent] at herror
    cases herror
  rename_i sent _ hsent
  split
  · rename_i hlt
    refine hstart fun h ↦ ?_
    have hlength := (mapM_ok.mp hsent).length_eq
    rw [subscribeRequests, List.length_mapIdx] at hlt
    have hall := h.all
    omega
  · exact hears_listen ..

theorem Sound.origin {signatures : List Signature} {index : ℕ} {status : ConfirmationStatus}
    (rpc : Rpc τ) (hs : s.Sound signatures.length) (h : s.results[index]? = some status)
    (hne : status ≠ .pending) :
    ∃ request id subscription error, (subscribeRequests rpc signatures)[index]? = some request ∧
      request.index "id" = .posInt id ∧ id.toNat = index ∧
      .acknowledged id subscription ∈ s.heard ∧ .notified subscription error ∈ s.heard ∧
      status = .ofError error := by
  have hlt : index < signatures.length := hs.length ▸ (List.getElem?_eq_some_iff.mp h).1
  obtain hpending | ⟨subscription, hleft, hright⟩ := hs.resolved index status h
  · exact absurd hpending hne
  obtain ⟨id, hid, rfl⟩ := left_mem hleft
  obtain ⟨error, herror, rfl⟩ := right_mem hright
  refine ⟨subscribeRequest rpc id.toNat signatures[id.toNat], id, subscription, error, ?_, ?_, rfl,
    hid, herror, rfl⟩
  · simp [subscribeRequests, hlt]
  · rw [index_subscribeRequest, UInt64.ofNat_toNat]

end Listening

section Fallback

variable {τ : Type} {rpc : Rpc τ} {signatures : List Signature}
  {results statuses : List ConfirmationStatus} {index : ℕ}

theorem flatten_chunks {α : Type} {size : ℕ} {l : List α} (h : 0 < size) :
    (chunks size l).flatten = l := by
  have htake (m : ℕ) : ((List.range m).map fun k ↦ (l.drop (k * size)).take size).flatten =
      l.take (m * size) := by
    induction m with
    | zero => simp
    | succ m ih =>
      rw [List.range_succ, List.map_append, List.flatten_append, ih, Nat.succ_mul, List.take_add]
      simp
  have hlength := Nat.div_add_mod (l.length + size - 1) size
  have hmod := Nat.mod_lt (l.length + size - 1) h
  rw [Nat.mul_comm] at hlength
  rw [chunks, htake, List.take_of_length_le]
  omega

/-- A status read of one of the chunks that has as many answers as it asked for, and what it says
of a signature. -/
def Answered (rpc : Rpc τ) (queried : List Signature) (signature : Signature)
    (status : ConfirmationStatus) : Prop :=
  ∃ (call : ℕ) (asked : List Signature) (answers : List (Option τ)) (k : ℕ) (answer : Option τ),
    (chunks 256 queried)[call]? = some asked ∧
    rpc.statuses call asked = .ok answers ∧ answers.length = asked.length ∧
    asked[k]? = some signature ∧ answers[k]? = some answer ∧ status = rpc.status answer

theorem signatureStatuses_ok (h : signatureStatuses rpc signatures = .ok statuses) :
    List.Forall₂ (Answered rpc signatures) signatures statuses := by
  obtain ⟨lists, hlists, h⟩ := bind_ok.mp h
  cases h
  have hcalls := (List.forall₂_and_left _ _).mpr
    ⟨fun _ hmem ↦ List.mem_zipIdx_iff_getElem?.mp hmem, mapM_ok.mp hlists⟩
  have hchunks : List.Forall₂ (List.Forall₂ (Answered rpc signatures))
      ((chunks 256 signatures).zipIdx.map Prod.fst) lists := by
    rw [List.forall₂_map_left_iff]
    refine hcalls.imp ?_
    rintro ⟨asked, call⟩ statuses ⟨hasked, h⟩
    obtain ⟨answers, hanswers, h⟩ := bind_ok.mp h
    obtain ⟨_, hlength, h⟩ := bind_ok.mp h
    cases h
    have hlength := Decidable.not_not.mp (refuse_ok.mp hlength)
    refine List.forall₂_iff_get.mpr ⟨?_, fun k hk hk' ↦ ?_⟩
    · rw [List.length_map, hlength]
    · have hanswer : k < answers.length := by rwa [hlength]
      refine ⟨call, asked, answers, k, answers[k], hasked, hanswers, hlength, ?_, ?_, ?_⟩
      · exact List.getElem?_eq_getElem hk
      · exact List.getElem?_eq_getElem hanswer
      · exact List.getElem_map ..
  have hflat : (chunks 256 signatures).flatten = signatures := flatten_chunks (by decide)
  have hstatuses := List.rel_flatten hchunks
  rwa [List.zipIdx_map_fst, hflat] at hstatuses

theorem mem_unresolved : index ∈ unresolved results ↔ results[index]? = some .pending := by
  simp [unresolved, List.mem_zipIdx_iff_getElem?]

theorem nodup_unresolved : (unresolved results).Nodup := by
  apply List.Nodup.filterMap
  · rintro ⟨status, index⟩ ⟨status', index'⟩ index'' h h'
    simp only [Option.mem_def, Option.ite_none_right_eq_some, Option.some.injEq] at h h'
    rw [h.1, h.2, h'.1, h'.2]
  · apply List.Nodup.of_map Prod.snd
    rw [List.zipIdx_map_snd]
    exact List.nodup_range'

def queried (signatures : List Signature) (results : List ConfirmationStatus) : List Signature :=
  (unresolved results).filterMap fun index ↦ signatures[index]?

theorem queried_unresolved (h : results.length = signatures.length) :
    List.Forall₂ (fun index signature ↦ signatures[index]? = some signature)
      (unresolved results) (queried signatures results) := by
  apply Lists.forall₂_filterMap
  intro index hindex
  have hlt := (List.getElem?_eq_some_iff.mp (mem_unresolved.mp hindex)).1
  rw [List.getElem?_eq_getElem (h ▸ hlt)]
  rfl

end Fallback

section Results

variable {τ : Type} {rpc : Rpc τ} {signatures : List Signature} {wait : Wait}
  {results : List ConfirmationStatus}

/-- Among the reports heard, a notification that finds no acknowledged subscription, and the next
acknowledgement of that subscription. -/
structure EarlyNotice (count : ℕ) (heard before between : List Report) (id subscription : UInt64)
    (error : Option String) : Prop where
  heard : ∃ after, heard = before ++ .notified subscription error ::
    (between ++ .acknowledged id subscription :: after)
  early : ∀ s, Listening.replay count (.start count) before = some s →
    s.subscriptions.lookup subscription = none
  next : ∀ id, .acknowledged id subscription ∉ between

/-- The results, from what the socket `s` has heard in the wait. -/
structure Aligned (rpc : Rpc τ) (signatures : List Signature) (wait : Wait) (s : Listening)
    (results : List ConfirmationStatus) : Prop where
  length : results.length = signatures.length
  heard : ∃ taken unread, wait.events = taken ++ unread ∧
    s.heard = taken.filterMap (SocketEvent.report rpc) ∧
    (wait.Subscribed signatures → s.Ended rpc signatures.length unread)
  socket : ∀ (index : ℕ) status, s.results[index]? = some status → status ≠ .pending →
    results[index]? = some status ∧ ∃ request id subscription error,
      (subscribeRequests rpc signatures)[index]? = some request ∧
      request.index "id" = .posInt id ∧ id.toNat = index ∧
      .acknowledged id subscription ∈ s.heard ∧ .notified subscription error ∈ s.heard ∧
      status = .ofError error
  pending : (unresolved s.results).Nodup ∧ (∀ index, index ∈ unresolved s.results ↔
    index < signatures.length ∧ ¬ ∃ status, s.results[index]? = some status ∧ status ≠ .pending) ∧
    (chunks 256 (queried signatures s.results)).flatten = queried signatures s.results
  fallback : ∃ statuses, signatureStatuses rpc (queried signatures s.results) = .ok statuses ∧
    List.Forall₂ (Answered rpc (queried signatures s.results)) (queried signatures s.results)
      statuses ∧
    ∀ (k : ℕ) index, (unresolved s.results)[k]? = some index → ∃ signature status,
      signatures[index]? = some signature ∧
      (queried signatures s.results)[k]? = some signature ∧
      statuses[k]? = some status ∧ results[index]? = some status
  early : ∀ before between id subscription error,
    EarlyNotice signatures.length s.heard before between id subscription error →
    (∃ t, Listening.replay signatures.length (.start signatures.length)
        (before ++ .notified subscription error :: (between ++ [.acknowledged id subscription])) =
          some t ∧
      t.results[id.toNat]? = some (.ofError (Listening.latest subscription error between))) ∧
    ∃ status, s.results[id.toNat]? = some status ∧ status ≠ .pending

theorem confirmSignatures_ok (h : confirmSignatures rpc signatures wait = .ok results) :
    let s := (subscribeSignatures rpc signatures wait).1
    ∃ statuses, signatureStatuses rpc (queried signatures s.results) = .ok statuses ∧
      results =
        ((unresolved s.results).zip statuses).foldl (fun l u ↦ l.set u.1 u.2) s.results := by
  unfold confirmSignatures at h
  split at h
  · subst signatures
    obtain ⟨taken, -, -, hreplay, -⟩ := Listening.hears_subscribe rpc [] wait
    have hsound : Listening.Sound 0 _ := Listening.sound_replay Listening.sound_start hreplay
    have hnil := List.eq_nil_of_length_eq_zero hsound.length
    cases h
    refine ⟨[], ?_, ?_⟩ <;> rw [hnil] <;> rfl
  · obtain ⟨statuses, hstatuses, h⟩ := bind_ok.mp h
    cases h
    exact ⟨statuses, hstatuses, rfl⟩

/-- One status for each index: that of the socket, or else that of the fallback for the index's
own signature. -/
theorem confirmSignatures_aligned (h : confirmSignatures rpc signatures wait = .ok results) :
    Aligned rpc signatures wait (subscribeSignatures rpc signatures wait).1 results := by
  obtain ⟨statuses, hstatuses, hresults⟩ := confirmSignatures_ok h
  obtain ⟨taken, unread, hevents, hreplay, hended⟩ :=
    Listening.hears_subscribe rpc signatures wait
  generalize (subscribeSignatures rpc signatures wait).1 = s at *
  have hheard : s.heard = taken.filterMap (SocketEvent.report rpc) :=
    Listening.heard_replay hreplay
  have hsound : s.Sound signatures.length :=
    Listening.sound_replay Listening.sound_start hreplay
  have hqueried := queried_unresolved hsound.length
  have hanswered := signatureStatuses_ok hstatuses
  have hkeys : ((unresolved s.results).zip statuses).map Prod.fst = unresolved s.results :=
    List.map_fst_zip (Nat.le_of_eq (hqueried.length_eq.trans hanswered.length_eq))
  refine ⟨?_, ⟨taken, unread, hevents, hheard, hended⟩, fun index status hindex hne ↦ ⟨?_, ?_⟩,
    ⟨nodup_unresolved, fun index ↦ ?_, flatten_chunks (by decide)⟩,
    ⟨statuses, hstatuses, hanswered, fun k index hk ↦ ?_⟩, ?_⟩
  · rw [hresults]
    exact Lists.length_foldl_set.trans hsound.length
  · rw [hresults, ← hindex]
    apply Lists.getElem?_foldl_set_of_notMem
    rw [hkeys, mem_unresolved, hindex]
    simpa using hne
  · exact hsound.origin rpc hindex hne
  · rw [mem_unresolved, ← hsound.length]
    constructor
    · intro hindex
      refine ⟨(List.getElem?_eq_some_iff.mp hindex).1, ?_⟩
      rintro ⟨status, hstatus, hne⟩
      rw [hindex] at hstatus
      exact hne (Option.some.inj hstatus).symm
    · rintro ⟨hlt, hne⟩
      by_contra hindex
      refine hne ⟨s.results[index], List.getElem?_eq_getElem hlt, fun hpending ↦ hindex ?_⟩
      rw [← hpending, List.getElem?_eq_getElem hlt]
  · obtain ⟨signature, hsignature, hown⟩ := Lists.getElem?_of_forall₂ hqueried.flip hk
    obtain ⟨status, hstatus, -⟩ := Lists.getElem?_of_forall₂ hanswered.flip hsignature
    refine ⟨signature, status, hown, hsignature, hstatus, ?_⟩
    rw [hresults]
    apply Lists.getElem?_foldl_set
    · rw [hkeys]
      exact nodup_unresolved
    · exact List.mem_of_getElem? (List.getElem?_zip_eq_some.mpr ⟨hk, hstatus⟩)
    · have hpending := mem_unresolved.mp (List.mem_of_getElem? hk)
      exact (List.getElem?_eq_some_iff.mp hpending).1
  · intro before between id subscription error hearly
    obtain ⟨after, hafter⟩ := hearly.heard
    rw [← hheard, hafter] at hreplay
    obtain ⟨s₀, h₀, hrest⟩ := Runs.run_append.mp hreplay
    have hsound₀ : s₀.Sound signatures.length :=
      Listening.sound_replay Listening.sound_start h₀
    obtain ⟨⟨t, ht, hdelivered⟩, hfinal⟩ :=
      Listening.early_delivered hsound₀ (hearly.early s₀ h₀) hearly.next hrest
    exact ⟨⟨t, Runs.run_append.mpr ⟨s₀, h₀, ht⟩, hdelivered⟩, hfinal⟩

end Results

def settledRpc : Rpc Unit where
  commitment := "confirmed"
  satisfiesCommitment _ := true
  err _ := none
  statuses _ asked := .ok (asked.map fun _ ↦ some ())
  signatureText _ := ""
  errorText _ := "InsufficientFunds"

def twoSignatures : List Signature := [.ofList 64 [1], .ofList 64 [2]]

/-- The second signature's failure is told before its subscription, then the socket closes. -/
def toldEarly : Wait where
  connect := .ok ()
  sends := [.ok (), .ok ()]
  events := [
    .text (.ok (.object [("method", .string "signatureNotification"), ("params", .object
      [("subscription", .posInt 7), ("result", .object [("value", .object
        [("err", .string "InsufficientFunds")])])])])),
    .text (.ok (.object [("id", .posInt 1), ("result", .posInt 7)])),
    .close]

theorem confirmSignatures_aligned_toldEarly :
    confirmSignatures settledRpc twoSignatures toldEarly =
        .ok [.confirmed, .failed "InsufficientFunds"] ∧
      Aligned settledRpc twoSignatures toldEarly
        (subscribeSignatures settledRpc twoSignatures toldEarly).1
        [.confirmed, .failed "InsufficientFunds"] := by
  have h : confirmSignatures settledRpc twoSignatures toldEarly =
      .ok [.confirmed, .failed "InsufficientFunds"] := by decide +kernel
  exact ⟨h, confirmSignatures_aligned h⟩

end MakerSdk.Chain
