import MakerSdk.Auth.Challenge
import MakerSdk.Base.Refresh
import MakerSdk.Session.System
import Mathlib.Data.Finset.Basic

namespace MakerSdk.Fleet

open Base.Refresh
open Session (Instant Uuid seconds nextReconnectDelay)

def maxInterval : Instant := seconds 60

/-- The frames that a feed tells apart. What only the text of an error shows of a frame stands
here as that text. -/
inductive ServerMessage where
  | welcome (protocolVersion : String)
  | versionMismatch (mismatch : String)
  | authRequest (challenge : List UInt8)
  | authSuccess
  | authError (reason : String)
  | error (error : String)
  | subscribeAck (requestId : Uuid)
  | requestError (requestId : Uuid) (error : String)
  | vaultCatalogChanged
  | other (frame : String)

structure Config where
  bound : Instant
  retry : Instant
  protocolVersion : String
  operator : List UInt8
  base58 : Solana.Base58
  debug : ServerMessage → String

structure Vault where
  vaultPda : String

inductive FleetListing where
  | pending
  | listed (pdas : Finset String)
  | failed (reason : String)

def FleetListing.isFailed : FleetListing → Bool
  | failed _ => true
  | pending | listed _ => false

/-- What a listing under way ends with, `none` where it ran into its time limit. -/
abbrev Listed := Option (Except String (List Vault))

structure Listing where
  id : ℕ
  deadline : Instant
  answer : Option (Except String (List Vault))

inductive Event where
  | socket (message : Option (Except String ServerMessage))
  | listed (listed : Listed)
  | relist
  | probe
  | silent

inductive Notice where
  | acknowledged
  | changed

/-- The variables of a `session` past its handshake, with the frames that wait at its socket;
`none` is its end. -/
structure Feed where
  subscribeId : Uuid
  inbox : List (Option (Except String ServerMessage))
  probeAt : Option Instant
  relistAt : Option Instant
  silentAt : Instant
  listing : Option Listing
  wanted : Bool

def Feed.heard (feed : Feed) (silentAt : Instant) : Feed :=
  if feed.probeAt.isSome then { feed with silentAt } else feed

inductive Phase where
  | connecting (silentAt : Instant)
  | live (feed : Feed)
  | sleeping (wakeAt : Instant)

/-- The task of `follow`. The listings are numbered as they are started, and the history, which
nothing reads, says what has happened so far. -/
structure VaultFleet where
  time : Instant
  published : FleetListing
  delay : Instant
  phase : Phase
  listings : ℕ
  history : List (Entry Notice FleetListing)

def within {α : Type} (what : String) (result : Option (Except String α)) : Except String α :=
  result.getD (.error (what ++ " timed out"))

section Handshake

variable (config : Config)

def validateWelcome : Option (Except String ServerMessage) → Except String Unit
  | none => .error "connection closed before Welcome"
  | some (.error error) => .error error
  | some (.ok message) =>
    match message with
    | .welcome protocolVersion =>
      if protocolVersion = config.protocolVersion then .ok ()
      else .error ("expected Welcome, received " ++ config.debug message)
    | .versionMismatch mismatch => .error ("protocol version mismatch: " ++ mismatch)
    | .authError reason => .error ("auth rejected: " ++ reason)
    | .error error => .error ("server error: " ++ error)
    | _ => .error ("expected Welcome, received " ++ config.debug message)

structure Opening where
  took : Instant
  connect : Option (Except String Unit)
  hello : Option (Except String Unit)
  welcome : Option (Option (Except String ServerMessage))
  startAuth : Option (Except String Unit)
  subscribeId : Uuid

def Opening.handshake (opening : Opening) : Except String Unit := do
  within "connect" opening.connect
  within "hello" opening.hello
  within "welcome" (opening.welcome.map (validateWelcome config))
  within "start auth" opening.startAuth

end Handshake

section Events

variable (now : Instant)

def Listing.poll (listing : Listing) : Option Listed :=
  match listing.answer with
  | some answer => some (some answer)
  | none => if listing.deadline ≤ now then some none else none

def inFlight (listing : Option Listing) : Option Listed := listing.bind (·.poll now)

def isDueAt (instant : Option Instant) : Bool := instant.any fun instant ↦ instant ≤ now

/-- The first branch of the biased `select!` that is ready. -/
def Feed.nextEvent (feed : Feed) : Option Event :=
  match feed.inbox with
  | message :: _ => some (.socket message)
  | [] =>
    match inFlight now feed.listing with
    | some listed => some (.listed listed)
    | none =>
      if isDueAt now feed.relistAt then some .relist
      else if isDueAt now feed.probeAt then some .probe
      else if feed.silentAt ≤ now then some .silent
      else none

def publish (listed : Listed) (retry : Instant) : FleetListing × Option Instant :=
  match listed with
  | some (.ok vaults) => (.listed (vaults.map Vault.vaultPda).toFinset, none)
  | some (.error error) => (.failed error, some (now + retry))
  | none => (.failed "listing timed out", some (now + retry))

end Events

/-- How an iteration of the loop goes: the time it takes and the outcome of its write, if it makes
one. -/
structure Turn where
  took : Instant
  write : Option (Except String Unit)

namespace VaultFleet

variable (config : Config)

/-- The top of the loop. The request of the listing that starts here goes out later, when the
listing is first polled. -/
def resume (fleet : VaultFleet) (feed : Feed) : VaultFleet :=
  if feed.wanted ∧ feed.listing.isNone then
    { fleet with
      phase := .live
        { feed with
          listing := some ⟨fleet.listings, fleet.time + config.bound, none⟩
          wanted := false
          relistAt := none }
      listings := fleet.listings + 1
      history := fleet.history ++ [.started fleet.listings] }
  else { fleet with phase := .live feed }

def follow (fleet : VaultFleet) (inFlight : Option ℕ) (error : String) : VaultFleet :=
  let failed := .failed ("catalog feed: " ++ error)
  { fleet with
    published := failed
    phase := .sleeping (fleet.time + fleet.delay)
    history := fleet.history ++ [.ended inFlight, .published none failed] }

def noticed (fleet : VaultFleet) (notice : Notice) : VaultFleet :=
  { fleet with history := fleet.history ++ [.noticed notice] }

/-- The arms of the loop for a frame; `none` is a panic. -/
def onMessage (fleet : VaultFleet) (feed : Feed) (turn : Turn) (message : ServerMessage) :
    Option (Except String (VaultFleet × Feed)) :=
  let feed := feed.heard (fleet.time + config.bound * 2)
  match message with
  | .authRequest challenge =>
    (Auth.validateWalletAuthChallenge config.base58 challenge config.operator).map fun valid ↦ do
      valid.mapError Auth.SigningError.message
      within "auth challenge" turn.write
      return (fleet, feed)
  | .authSuccess =>
    some do
      within "subscribe" turn.write
      return (fleet, feed)
  | .subscribeAck requestId =>
    if requestId = feed.subscribeId then
      some (.ok ({ fleet.noticed .acknowledged with delay := config.retry },
        { feed with
          probeAt := some (fleet.time + config.bound)
          silentAt := fleet.time + config.bound * 2
          wanted := true }))
    else some (.ok (fleet, feed))
  | .vaultCatalogChanged => some (.ok (fleet.noticed .changed, { feed with wanted := true }))
  | .versionMismatch mismatch => some (.error ("protocol version mismatch: " ++ mismatch))
  | .authError reason => some (.error ("auth rejected: " ++ reason))
  | .requestError requestId error =>
    if requestId = feed.subscribeId then some (.error ("subscription rejected: " ++ error))
    else some (.ok (fleet, feed))
  | .welcome _ | .error _ | .other _ => some (.ok (fleet, feed))

def onEvent (fleet : VaultFleet) (feed : Feed) (turn : Turn) :
    Event → Option (Except String (VaultFleet × Feed))
  | .socket none => some (.error "closed")
  | .socket (some (.error error)) => some (.error error)
  | .socket (some (.ok message)) =>
    fleet.onMessage config { feed with inbox := feed.inbox.tail } turn message
  | .listed listed =>
    let (listing, relistAt) := publish fleet.time listed config.retry
    some (.ok
      ({ fleet with
          published := listing
          history := fleet.history ++ [.published (feed.listing.map Listing.id) listing] },
        { feed with listing := none, relistAt }))
  | .relist => some (.ok (fleet, { feed with wanted := true }))
  | .probe =>
    some do
      within "ping" turn.write
      return (fleet, { feed with probeAt := some (fleet.time + turn.took + config.bound) })
  | .silent =>
    some (.error (if feed.probeAt.isSome then "went silent" else "did not subscribe in time"))

def pass (fleet : VaultFleet) (elapsed : Instant) : VaultFleet :=
  { fleet with time := fleet.time + elapsed }

def turn (fleet : VaultFleet) (feed : Feed) (turn : Turn) : Option VaultFleet := do
  let event ← feed.nextEvent fleet.time
  match ← fleet.onEvent config feed turn event with
  | .ok (fleet, feed) => some ((fleet.pass turn.took).resume config feed)
  | .error error => some ((fleet.pass turn.took).follow (feed.listing.map Listing.id) error)

end VaultFleet

/-- The session gets through its handshake or fails in it, a frame arrives, a listing is answered,
the loop takes a turn, the pause between two sessions ends, and time passes. -/
inductive Label where
  | opened (opening : Opening)
  | arrive (message : Option (Except String ServerMessage))
  | answer (answer : Except String (List Vault))
  | turn (turn : Turn)
  | wake
  | tick

namespace VaultFleet

variable (config : Config)

def init : VaultFleet := ⟨0, .pending, config.retry, .connecting config.bound, 0, [.began]⟩

def step (fleet : VaultFleet) : Label → Option VaultFleet
  | .opened opening =>
    match fleet.phase with
    | .connecting silentAt =>
      let fleet := fleet.pass opening.took
      match opening.handshake config with
      | .ok () =>
        some (fleet.resume config ⟨opening.subscribeId, [], none, none, silentAt, none, false⟩)
      | .error error => some (fleet.follow none error)
    | _ => none
  | .arrive message =>
    match fleet.phase with
    | .live feed =>
      some { fleet with phase := .live { feed with inbox := feed.inbox ++ [message] } }
    | _ => none
  | .answer answer =>
    match fleet.phase with
    | .live feed =>
      feed.listing.bind fun listing ↦
        if listing.answer.isNone then
          some { fleet with
            phase := .live { feed with listing := some { listing with answer := some answer } } }
        else none
    | _ => none
  | .turn turn =>
    match fleet.phase with
    | .live feed => fleet.turn config feed turn
    | _ => none
  | .wake =>
    match fleet.phase with
    | .sleeping wakeAt =>
      if wakeAt ≤ fleet.time then
        some { fleet with
          delay := nextReconnectDelay fleet.delay maxInterval
          phase := .connecting (fleet.time + config.bound)
          history := fleet.history ++ [.began] }
      else none
    | _ => none
  | .tick => some (fleet.pass 1)

end VaultFleet

end MakerSdk.Fleet
