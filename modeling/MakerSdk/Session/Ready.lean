import MakerSdk.Paging
import MakerSdk.Session.Subscriptions
import Mathlib.Logic.Function.Basic

namespace MakerSdk.Session

open Paging Solana

inductive MakerWsEndpoint where
  | quote | data | vault
deriving DecidableEq

abbrev VaultDelegatePermissions := BitVec 32

namespace VaultDelegatePermissions

def signHolderQuotes : VaultDelegatePermissions := 1 <<< 1
def signWriterQuotes : VaultDelegatePermissions := 1 <<< 6

def contains (permissions other : VaultDelegatePermissions) : Bool := permissions &&& other = other

def canMaker (permissions : VaultDelegatePermissions) : Bool :=
  contains permissions signHolderQuotes

def canWriteBuys (permissions : VaultDelegatePermissions) : Bool :=
  contains permissions signWriterQuotes

end VaultDelegatePermissions

inductive MakerQuoteScope where
  | live | history

inductive PositionStatus where
  | open | funded | liquidated | settled

inductive QueryFilter (α : Type) where
  | all
  | only (value : α)

inductive TimeBound where
  | unbounded
  | bounded (value : ℕ)

structure PositionFilter where
  market : QueryFilter Pubkey
  underlyingMint : QueryFilter Pubkey
  status : List PositionStatus
  minExpiryTs : TimeBound

structure MarketFilter where
  underlyingMints : List Pubkey
  quoteMints : List Pubkey
  minExpiryTs : TimeBound
  maxExpiryTs : TimeBound
  isPut : QueryFilter Bool

inductive Query where
  | mmSummary
  | activeRfqs
  | myQuotes (scope : MakerQuoteScope)
  | myActiveRfqs
  | makerPositions (filter : PositionFilter)
  | positions (filter : PositionFilter)
  | myCaps
  | marketsForMaker (filter : MarketFilter)
  | tokens

def Query.variant : Query → ReadVariant
  | mmSummary => .mmSummary
  | activeRfqs => .activeRfqs
  | myQuotes _ => .myQuotes
  | myActiveRfqs => .myActiveRfqs
  | makerPositions _ => .makerPositions
  | positions _ => .positions
  | myCaps => .myCaps
  | marketsForMaker _ => .marketsForMaker
  | tokens => .tokens

structure ReadRequest where
  query : Query
  limit : ℕ
  cursor : Cursor
  requestId : Uuid

namespace ReadRequest

def variant (request : ReadRequest) : ReadVariant := request.query.variant

def first (query : Query) (requestId : Uuid) : ReadRequest := ⟨query, 200, .start, requestId⟩

def answeredBy (variant : ReadVariant) (requestId : Uuid) (request : ReadRequest) : Bool :=
  request.variant = variant ∧ request.requestId = requestId

end ReadRequest

structure GetSubscriptionsMessage where
  limit : ℕ
  cursor : Cursor
  requestId : Uuid

def livePositions : PositionFilter := ⟨.all, .all, [.open, .funded], .unbounded⟩

def allMarkets : MarketFilter := ⟨[], [], .unbounded, .unbounded, .all⟩

/-- What the readiness barrier of a connection is given. `ids` are the request ids it draws. -/
structure Establish where
  endpoint : MakerWsEndpoint
  subscriptions : DesiredSubscriptions
  vault : Option VaultDelegatePermissions
  ids : ℕ → Uuid

namespace Establish

variable (env : Establish)

def quoteReads (drawn : ℕ) : List ReadRequest :=
  [.first .activeRfqs (env.ids drawn), .first (.myQuotes .live) (env.ids (drawn + 1))]

def mmSummaryRead (drawn : ℕ) : ReadRequest := .first .mmSummary (env.ids drawn)

def reads (drawn : ℕ) : List ReadRequest :=
  match env.endpoint with
  | .quote => env.quoteReads drawn
  | .data => [env.mmSummaryRead drawn]
  | .vault =>
    [.first .myActiveRfqs (env.ids drawn),
      .first (.positions livePositions) (env.ids (drawn + 1))] ++
    if env.vault.any VaultDelegatePermissions.canMaker then
      env.mmSummaryRead (drawn + 2) :: env.quoteReads (drawn + 3)
    else []

def summaryReads (drawn : ℕ) : List ReadRequest :=
  [.first (.makerPositions livePositions) (env.ids drawn),
    .first (.myQuotes .live) (env.ids (drawn + 1)),
    .first .myCaps (env.ids (drawn + 2)),
    .first (.marketsForMaker allMarkets) (env.ids (drawn + 3)),
    .first .tokens (env.ids (drawn + 4))]

def reconciliationPages (drawn : ℕ) (request : ReadRequest) (nextCursor : Option String)
    (continuations : ReadVariant → Continuation) :
    Except SessionFailure (List ReadRequest × (ReadVariant → Continuation)) :=
  match request.query with
  | .mmSummary => .ok (if nextCursor.isSome then env.summaryReads drawn else [], continuations)
  | _ =>
    match (continuations request.variant).advance nextCursor with
    | .error error => .error (.retryable error.text)
    | .ok (next, continuation) =>
      .ok ((next.map fun cursor ↦ { request with requestId := env.ids drawn, cursor }).toList,
        Function.update continuations request.variant continuation)

end Establish

inductive ReadinessStep where
  | snapshot | recovery | reads

def ReadinessStep.name : ReadinessStep → String
  | snapshot => "subscription snapshot"
  | recovery => "subscription recovery"
  | reads => "reconciliation reads"

inductive BarrierStage where
  | snapshot (request : GetSubscriptionsMessage)
  | unsubscribing (requestId : Uuid) (subscribe : Option SubscribeScope)
  | subscribing (requestId : Uuid)
  | reconciling
  | done (result : Except SessionFailure Unit)

/-- The readiness barrier, with what it has asked for and what it was told kept beside it. -/
structure Barrier where
  stage : BarrierStage
  step : ReadinessStep
  actual : SubscriptionsMessage
  continuation : Continuation
  pending : List ReadRequest
  continuations : ReadVariant → Continuation
  drawn : ℕ
  snapshotAsked : List GetSubscriptionsMessage
  snapshotTold : List SubscriptionsMessage
  issued : List ReadRequest
  answered : List (ReadRequest × Option String)

def Uuid.text (id : Uuid) : String :=
  let digits := id.toHex.toList
  let group (start len : ℕ) := String.ofList ((digits.drop start).take len)
  group 0 8 ++ "-" ++ group 8 4 ++ "-" ++ group 12 4 ++ "-" ++ group 16 4 ++ "-" ++ group 20 12

def requestFailed (requestId : Uuid) (error : String) : SessionFailure :=
  .retryable ("readiness request " ++ Uuid.text requestId ++ " failed: " ++ error)

namespace Barrier

def fail (b : Barrier) (failure : SessionFailure) : Barrier :=
  { b with stage := .done (.error failure) }

/-- Requests are written; `write` is the error of the first that cannot be. -/
def send (b : Barrier) (write : Option String) : Barrier :=
  match write with
  | some text => b.fail (.retryable text)
  | none => b

variable (env : Establish)

def enterReads (b : Barrier) (write : Option String) : Barrier :=
  let reads := env.reads b.drawn
  { b with
    stage := .reconciling
    step := .reads
    pending := reads
    drawn := b.drawn + reads.length
    issued := b.issued ++ reads }.send write

def recover (b : Barrier) (recovery : SubscriptionRecovery) (write : Option String) : Barrier :=
  match recovery.unsubscribe, recovery.subscribe with
  | some data, subscribe => { b with stage := .unsubscribing data.requestId subscribe }.send write
  | none, some scope => { b with stage := .subscribing scope.requestId }.send write
  | none, none => b.enterReads env write

def new : Barrier where
  stage := .reconciling
  step := .snapshot
  actual := ⟨env.ids 0, none, [], [], []⟩
  continuation := .new
  pending := []
  continuations := fun _ ↦ .new
  drawn := 1
  snapshotAsked := []
  snapshotTold := []
  issued := []
  answered := []

/-- The vault feed is subscribed to without a snapshot and for every mint, or not at all. -/
def startVault (write : Option String) : Barrier :=
  let b := { new env with step := .recovery }
  if env.subscriptions.wantsVaultFeed then
    let recovery := env.subscriptions.recovery b.actual (env.ids 1) (env.ids 2)
    let subscribe := recovery.subscribe.map fun scope ↦
      { scope with underlyingMints := ∅, quoteMints := ∅ }
    { b with drawn := 3 }.recover env { recovery with subscribe } write
  else
    { b with stage := .unsubscribing (env.ids 1) none, drawn := 2 }.send write

def start (write : Option String) : Barrier :=
  match env.endpoint with
  | .quote =>
    let request : GetSubscriptionsMessage := ⟨200, .start, env.ids 0⟩
    { new env with stage := .snapshot request, snapshotAsked := [request] }.send write
  | .data => (new env).enterReads env write
  | .vault => startVault env write

def takeSnapshot (b : Barrier) (request : GetSubscriptionsMessage) (data : SubscriptionsMessage)
    (write : Option String) : Barrier :=
  let actual := { b.actual with
    nextCursor := data.nextCursor
    channels := b.actual.channels ++ data.channels
    underlyingMints := b.actual.underlyingMints ++ data.underlyingMints
    quoteMints := b.actual.quoteMints ++ data.quoteMints }
  let told := { b with actual, snapshotTold := b.snapshotTold ++ [data] }
  match b.continuation.advance actual.nextCursor with
  | .error error => told.fail (.retryable error.text)
  | .ok (none, continuation) =>
    let recovery :=
      env.subscriptions.recovery actual (env.ids b.drawn) (env.ids (b.drawn + 1))
    { told with continuation, step := .recovery, drawn := b.drawn + 2 }.recover env recovery write
  | .ok (some cursor, continuation) =>
    let request := { request with cursor, requestId := env.ids b.drawn }
    { told with
      stage := .snapshot request
      continuation
      drawn := b.drawn + 1
      snapshotAsked := b.snapshotAsked ++ [request] }.send write

def taken (b : Barrier) (request : ReadRequest) (rest next : List ReadRequest)
    (nextCursor : Option String) (continuations : ReadVariant → Continuation) (drawn : ℕ) :
    Barrier :=
  { b with
    stage := if rest ++ next = [] then .done (.ok ()) else .reconciling
    pending := rest ++ next
    continuations
    drawn
    issued := b.issued ++ next
    answered := b.answered ++ [(request, nextCursor)] }

/-- Quotes are read beside the summary already, but for the data endpoint. -/
def skips (request page : ReadRequest) : Bool :=
  page.variant = .myQuotes ∧ request.variant = .mmSummary ∧ env.endpoint ≠ .data

def takePage (b : Barrier) (request : ReadRequest) (rest : List ReadRequest)
    (nextCursor : Option String) (write : Option String) : Barrier :=
  match env.reconciliationPages b.drawn request nextCursor b.continuations with
  | .error failure => b.fail failure
  | .ok (pages, continuations) =>
    let next := pages.filter fun page ↦ !skips env request page
    let taken := b.taken request rest next nextCursor continuations (b.drawn + pages.length)
    if next = [] then taken else taken.send write

def reconcile (b : Barrier) (write : Option String) : ServerMessage → Barrier
  | .requestError id _ error =>
    if b.pending.any (·.requestId = id) then b.fail (requestFailed id error) else b
  | .page variant id nextCursor =>
    match b.pending.find? (ReadRequest.answeredBy variant id) with
    | none => b
    | some request =>
      b.takePage env request (b.pending.eraseP (ReadRequest.answeredBy variant id)) nextCursor write
  | _ => b

def handle (b : Barrier) (message : ServerMessage) (write : Option String) : Barrier :=
  match b.stage, message with
  | .snapshot request, .subscriptions data =>
    if data.requestId = request.requestId then b.takeSnapshot env request data write else b
  | .unsubscribing requestId subscribe, .unsubscribeAck id =>
    if id = requestId then b.recover env ⟨none, subscribe⟩ write else b
  | .subscribing requestId, .subscribeAck id =>
    if id = requestId then b.enterReads env write else b
  | .snapshot ⟨_, _, requestId⟩, .requestError id _ error
  | .unsubscribing requestId _, .requestError id _ error
  | .subscribing requestId, .requestError id _ error =>
    if id = requestId then b.fail (requestFailed id error) else b
  | .reconciling, message => b.reconcile env write message
  | _, _ => b

end Barrier

/-- What the barrier reads from the socket; `write` is what becomes of the requests that a
message leads to. -/
inductive Arrival where
  | message (message : ServerMessage) (write : Option String)
  | error (text : String)
  | closed

def Barrier.read (env : Establish) (b : Barrier) (arrival : Arrival) : Barrier :=
  match b.stage with
  | .done _ => b
  | _ =>
    match arrival with
    | .error text => b.fail (.retryable text)
    | .closed => b.fail (.retryable "connection closed during readiness barrier")
    | .message message write =>
      match SessionFailure.fromControl message with
      | some failure => b.fail failure
      | none => b.handle env message write

structure Transcript where
  env : Establish
  write : Option String
  arrivals : List Arrival

def Transcript.barrier (transcript : Transcript) : Barrier :=
  transcript.arrivals.foldl (Barrier.read transcript.env)
    (Barrier.start transcript.env transcript.write)

end MakerSdk.Session
