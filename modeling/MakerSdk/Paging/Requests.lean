import MakerSdk.Base.Lists
import MakerSdk.Paging.Fetch
import MakerSdk.Session.States
import Mathlib.Logic.Function.Basic

namespace MakerSdk.Paging

open Base.Bytes Base.Checks Base.Lists Solana Orders
open Session (Uuid ProductSet ManagedWsError SendAwaitError)

inductive Field where
  | positions | unrenderable | trades | quotes | markets | expiriesTs | tokens | rfqs | summaries
  | strikes | quoteLiabilities | notional | balances | assets | channels | underlyingMints
  | quoteMints | unrenderablePositions | activeQuotes | capsNotional | capsBalances
  | capsQuoteLiabilities | vaults | cycles | requests
deriving DecidableEq

/-- The requests of `paged_request!`. -/
inductive ListRequest where
  | makerPositions | myTrades | myQuotes | markets | marketDescriptors | expiries | tokens
  | activeRfqs | myActiveRfqs | positions | positionSummary | indicativePrices | marketsForMaker
  | tokenCaps | myCaps | earnSummary | subscriptions | mmSummary
deriving DecidableEq

namespace ListRequest

/-- The fields `append` extends, as the macro is called. -/
def appended : ListRequest → List Field
  | makerPositions => [.positions, .unrenderable]
  | myTrades => [.trades]
  | myQuotes => [.quotes]
  | markets => [.markets]
  | marketDescriptors => [.markets]
  | expiries => [.expiriesTs]
  | tokens => [.tokens]
  | activeRfqs => [.rfqs]
  | myActiveRfqs => [.rfqs]
  | positions => [.positions]
  | positionSummary => [.summaries]
  | indicativePrices => [.strikes]
  | marketsForMaker => [.markets]
  | tokenCaps => [.tokens, .markets, .quotes, .quoteLiabilities]
  | myCaps => [.notional, .balances, .quoteLiabilities]
  | earnSummary => [.assets]
  | subscriptions => [.channels, .underlyingMints, .quoteMints]
  | mmSummary => [.positions, .unrenderablePositions, .activeQuotes, .markets, .tokens,
    .capsNotional, .capsBalances, .capsQuoteLiabilities]

def lists : ListRequest → List Field
  | makerPositions => [.positions, .unrenderable]
  | myTrades => [.trades]
  | myQuotes => [.quotes]
  | markets => [.markets]
  | marketDescriptors => [.markets]
  | expiries => [.expiriesTs]
  | tokens => [.tokens]
  | activeRfqs => [.rfqs]
  | myActiveRfqs => [.rfqs]
  | positions => [.positions]
  | positionSummary => [.summaries]
  | indicativePrices => [.strikes]
  | marketsForMaker => [.markets]
  | tokenCaps => [.tokens, .markets, .quotes, .quoteLiabilities]
  | myCaps => [.notional, .balances, .quoteLiabilities]
  | earnSummary => [.assets]
  | subscriptions => [.channels, .underlyingMints, .quoteMints]
  | mmSummary => [.capsNotional, .capsBalances, .capsQuoteLiabilities, .positions, .activeQuotes,
    .markets, .tokens, .unrenderablePositions]

def responseType : ListRequest → String
  | makerPositions => "MakerPositions"
  | myTrades => "MyTrades"
  | myQuotes => "MyQuotes"
  | markets => "Markets"
  | marketDescriptors => "MarketDescriptors"
  | expiries => "Expiries"
  | tokens => "Tokens"
  | activeRfqs => "ActiveRfqs"
  | myActiveRfqs => "MyActiveRfqs"
  | positions => "Positions"
  | positionSummary => "PositionSummary"
  | indicativePrices => "IndicativePrices"
  | marketsForMaker => "MakerMarkets"
  | tokenCaps => "TokenCaps"
  | myCaps => "MyCaps"
  | earnSummary => "EarnSummary"
  | subscriptions => "Subscriptions"
  | mmSummary => "MmSummary"

theorem lists_subset_appended (r : ListRequest) : r.lists ⊆ r.appended := by
  cases r <;> decide

theorem nodup_appended (r : ListRequest) : r.appended.Nodup := by
  cases r <;> decide

end ListRequest

theorem map_head?_append {α β : Type} {f : α → β} {b : β} {l l' : List α}
    (h : l.head?.map f = some b) : (l ++ l').head?.map f = some b := by
  cases l with
  | nil => cases h
  | cons => exact h

/-- A page of lists; `rest` is what `append` leaves as the first page has it. -/
structure Listing (row : Field → Type) (ρ : Type) where
  nextCursor : Option String
  lists : (field : Field) → List (row field)
  rest : ρ

namespace Listing

variable {row : Field → Type} {ρ : Type}

def extend (page all : Listing row ρ) (field : Field) : Listing row ρ :=
  { all with lists := Function.update all.lists field (all.lists field ++ page.lists field) }

def append (fields : List Field) (all page : Listing row ρ) : Listing row ρ :=
  { fields.foldl page.extend all with nextCursor := page.nextCursor }

structure Combined (fields : List Field) (pages : List (Listing row ρ)) (all : Listing row ρ) :
    Prop where
  lists : ∀ field ∈ fields, all.lists field = pages.flatMap fun page ↦ page.lists field
  rest : pages.head?.map Listing.rest = some all.rest

variable {fields : List Field} {all page : Listing row ρ}

theorem append_cons {field : Field} :
    append (field :: fields) all page = append fields (page.extend all field) page := rfl

theorem lists_extend_of_ne {field field' : Field} (h : field ≠ field') :
    (page.extend all field').lists field = all.lists field :=
  Function.update_of_ne h ..

theorem rest_append : (append fields all page).rest = all.rest := by
  induction fields generalizing all with
  | nil => rfl
  | cons field fields ih =>
    rw [append_cons, ih]
    rfl

theorem lists_append_of_notMem {field : Field} (h : field ∉ fields) :
    (append fields all page).lists field = all.lists field := by
  induction fields generalizing all with
  | nil => rfl
  | cons field' fields ih =>
    obtain ⟨hne, hrest⟩ := not_or.mp (List.mem_cons.not.mp h)
    rw [append_cons, ih hrest, lists_extend_of_ne hne]

theorem lists_append {field : Field} (hnodup : fields.Nodup) (h : field ∈ fields) :
    (append fields all page).lists field = all.lists field ++ page.lists field := by
  induction fields generalizing all with
  | nil => cases h
  | cons field' fields ih =>
    obtain ⟨hfresh, hnodup⟩ := List.nodup_cons.mp hnodup
    rw [append_cons]
    rcases List.mem_cons.mp h with rfl | hmem
    · rw [lists_append_of_notMem hfresh]
      exact Function.update_self ..
    · have hne : field ≠ field' := by
        rintro rfl
        exact hfresh hmem
      rw [ih hnodup hmem, lists_extend_of_ne hne]

theorem combined_one (page : Listing row ρ) : Combined fields [page] page :=
  ⟨(fun field _ ↦ by rw [List.flatMap_singleton]), rfl⟩

theorem combined_append {lists : List Field} {pages : List (Listing row ρ)}
    (hnodup : fields.Nodup) (hsubset : lists ⊆ fields) (h : Combined lists pages all) :
    Combined lists (pages ++ [page]) (append fields all page) := by
  refine ⟨fun field hfield ↦ ?_, ?_⟩
  · rw [lists_append hnodup (hsubset hfield), h.lists field hfield, List.flatMap_append,
      List.flatMap_singleton]
  · rw [rest_append]
    exact map_head?_append h.rest

end Listing

structure IndicativeStrikeBest where
  strike : UInt64
  bestPrice : Option UInt64

structure TokenMarketIndicatives where
  positionType : PositionType
  updatedAt : ℕ
  isStale : Bool
  strikes : List IndicativeStrikeBest

structure TokenMarketEntry where
  products : ProductSet
  marketPda : Pubkey
  expiryTs : ℕ
  isPut : Bool
  indicatives : List TokenMarketIndicatives

structure TokenMarketsInfoData (ρ : Type) where
  nextCursor : Option String
  markets : List TokenMarketEntry
  rest : ρ

def TokenMarketIndicatives.extend (current indicative : TokenMarketIndicatives) :
    TokenMarketIndicatives :=
  { current with strikes := current.strikes ++ indicative.strikes }

def TokenMarketEntry.merge (existing market : TokenMarketEntry) : TokenMarketEntry :=
  { existing with
    indicatives := market.indicatives.foldl
      (upsert TokenMarketIndicatives.positionType TokenMarketIndicatives.extend)
      existing.indicatives }

def TokenMarketEntry.rows (market : TokenMarketEntry) :
    List (Pubkey × PositionType × IndicativeStrikeBest) :=
  market.indicatives.flatMap fun indicative ↦
    indicative.strikes.map fun strike ↦ (market.marketPda, indicative.positionType, strike)

theorem TokenMarketEntry.perm_rows_merge (existing market : TokenMarketEntry)
    (h : existing.marketPda = market.marketPda) :
    (existing.merge market).rows.Perm (existing.rows ++ market.rows) := by
  unfold rows
  rw [← h]
  apply perm_flatMap_foldl_upsert
  intro current indicative htype
  rw [TokenMarketIndicatives.extend, List.map_append, htype]

namespace TokenMarketsInfoData

variable {ρ : Type}

def append (all page : TokenMarketsInfoData ρ) : TokenMarketsInfoData ρ :=
  { all with
    markets := page.markets.foldl (upsert TokenMarketEntry.marketPda TokenMarketEntry.merge)
      all.markets
    nextCursor := page.nextCursor }

def rows (data : TokenMarketsInfoData ρ) : List (Pubkey × PositionType × IndicativeStrikeBest) :=
  data.markets.flatMap TokenMarketEntry.rows

structure Combined (pages : List (TokenMarketsInfoData ρ)) (all : TokenMarketsInfoData ρ) :
    Prop where
  rows : all.rows.Perm (pages.flatMap rows)
  rest : pages.head?.map TokenMarketsInfoData.rest = some all.rest

theorem perm_rows_append (all page : TokenMarketsInfoData ρ) :
    (all.append page).rows.Perm (all.rows ++ page.rows) :=
  perm_flatMap_foldl_upsert TokenMarketEntry.perm_rows_merge all.markets page.markets

theorem combined_one (page : TokenMarketsInfoData ρ) : Combined [page] page := by
  refine ⟨?_, rfl⟩
  rw [List.flatMap_singleton]

theorem combined_append {pages : List (TokenMarketsInfoData ρ)} {all page : TokenMarketsInfoData ρ}
    (h : Combined pages all) : Combined (pages ++ [page]) (all.append page) := by
  refine ⟨?_, ?_⟩
  · rw [List.flatMap_append, List.flatMap_singleton]
    exact (perm_rows_append all page).trans (h.rows.append_right _)
  · exact map_head?_append h.rest

end TokenMarketsInfoData

inductive DataRequest where
  | list (request : ListRequest)
  | tokenMarketsInfo
deriving DecidableEq

/-- The types of what the responses and requests hold and paging never looks at. -/
structure Schema where
  row : ListRequest → Field → Type
  rest : DataRequest → Type
  filter : DataRequest → Type

namespace DataRequest

variable {S : Schema}

def Response (S : Schema) : DataRequest → Type
  | list request => Listing (S.row request) (S.rest (.list request))
  | tokenMarketsInfo => TokenMarketsInfoData (S.rest .tokenMarketsInfo)

def responseType : DataRequest → String
  | list request => request.responseType
  | tokenMarketsInfo => "TokenMarketsInfo"

def cursor : (r : DataRequest) → r.Response S → Option String
  | list _ => Listing.nextCursor
  | tokenMarketsInfo => TokenMarketsInfoData.nextCursor

def append : (r : DataRequest) → r.Response S → r.Response S → r.Response S
  | list request => Listing.append request.appended
  | tokenMarketsInfo => TokenMarketsInfoData.append

def Combined : (r : DataRequest) → List (r.Response S) → r.Response S → Prop
  | list request => Listing.Combined request.lists
  | tokenMarketsInfo => TokenMarketsInfoData.Combined

end DataRequest

inductive DataMessage (S : Schema) where
  | requestError (requestId : Uuid) (error : String)
  | response (request : DataRequest) (data : request.Response S)
  | other (text : String)

inductive MakerDataRequestError (S : Schema) where
  | invalidPage
  | continuation (error : InvalidPage)
  | session (error : ManagedWsError)
  | transport (error : SendAwaitError)
  | rejected (requestId : Uuid) (response : DataMessage S)
  | unexpectedResponse (expected : String) (response : DataMessage S)

structure PageRequest (φ : Type) where
  requestId : Uuid
  limit : UInt32
  cursor : Cursor
  filter : φ

namespace PageRequest

variable {φ : Type}

def firstPage (id : Uuid) (request : PageRequest φ) : PageRequest φ :=
  { request with requestId := id, limit := 200, cursor := .start }

def requestCursor (id : Uuid) (cursor : Cursor) (request : PageRequest φ) : PageRequest φ :=
  { request with cursor, requestId := id }

end PageRequest

section DataClient

variable {S : Schema}

def DataRequest.intoResponse (r : DataRequest) :
    DataMessage S → Except (DataMessage S) (r.Response S)
  | .response request data =>
    if h : request = r then .ok (h ▸ data) else .error (.response request data)
  | message => .error message

/-- `request_page`, given what `send_await_ready` returned. -/
def requestPage (r : DataRequest) (answer : Except SendAwaitError (DataMessage S)) :
    Except (MakerDataRequestError S) (r.Response S) := do
  let message ← answer.mapError .transport
  match message with
  | .requestError requestId _ => .error (.rejected requestId message)
  | _ => (r.intoResponse message).mapError (.unexpectedResponse r.responseType)

abbrev DataServer (S : Schema) (r : DataRequest) :=
  List (PageRequest (S.filter r)) → PageRequest (S.filter r) →
    Except SendAwaitError (DataMessage S)

/-- What `all_pages` calls `fetch_all` with; `ids` are the ids it draws. -/
def allPages (r : DataRequest) (ids : ℕ → Uuid) (server : DataServer S r)
    (request : PageRequest (S.filter r)) : Pages (r.Response S) (MakerDataRequestError S) :=
  let next (k : ℕ) (cursor : Cursor) :=
    (request.firstPage (ids 0)).requestCursor (ids (k + 1)) cursor
  { load := fun asked cursor ↦
      requestPage r (server (asked.mapIdx next) (next asked.length cursor))
    next := r.cursor
    append := r.append
    invalidPage := .continuation }

theorem lawful_allPages (r : DataRequest) (ids : ℕ → Uuid) (server : DataServer S r)
    (request : PageRequest (S.filter r)) : (allPages r ids server request).Lawful r.Combined := by
  cases r with
  | list kind =>
    refine ⟨fun _ _ ↦ rfl, Listing.combined_one, fun _ _ _ h ↦ ?_⟩
    exact Listing.combined_append kind.nodup_appended kind.lists_subset_appended h
  | tokenMarketsInfo =>
    exact ⟨fun _ _ ↦ rfl, TokenMarketsInfoData.combined_one,
      fun _ _ _ h ↦ TokenMarketsInfoData.combined_append h⟩

end DataClient

structure MarketFilter where
  underlying : Option Pubkey
  quote : Option Pubkey
  expiry : Option UInt64
  isPut : Option Bool
  active : Option Bool

inductive Endpoint where
  | vaults
  | delegatedVaults (delegate : Pubkey)
  | vaultPositions (pda : Pubkey)
  | vaultCycles (pda : Pubkey)
  | vaultDepositRequests (pda : Pubkey)
  | vaultWithdrawRequests (pda : Pubkey)
  | vaultExposure (pda : Pubkey)
  | markets (filter : MarketFilter)
  | tokens

inductive HttpError where
  | request (error : String)
  | status (status : UInt16) (body : String)
  | decode (error : String)
  | invalidCursor
  | invalidPage (error : InvalidPage)

/-- A URL of the `url` crate, as far as `page_path` reads it. -/
structure Urls where
  Url : Type
  parse : String → Option Url
  appendPair : Url → String → String → Url
  path : Url → String
  query : Url → Option String

section Http

variable {row : Field → Type} {ρ : Type}

def MarketFilter.query (E : Encodings) (filter : MarketFilter) : String :=
  let key (key : Pubkey) : String := E.base58Encode key.toList
  let params := [
    filter.underlying.map fun underlying ↦ "underlying=" ++ key underlying,
    filter.quote.map fun quote ↦ "quote=" ++ key quote,
    filter.expiry.map fun expiry ↦ "expiry=" ++ toString expiry.toNat,
    filter.isPut.map fun isPut ↦ "is_put=" ++ toString isPut,
    filter.active.map fun active ↦ "active=" ++ toString active].reduceOption
  if params.isEmpty then "" else "?" ++ String.intercalate "&" params

namespace Endpoint

def path (E : Encodings) : Endpoint → String
  | vaults => "/api/v1/vaults"
  | delegatedVaults delegate => "/api/v1/vaults?delegate=" ++ E.base58Encode delegate.toList
  | vaultPositions pda =>
    "/api/v1/vaults/" ++ E.base58Encode pda.toList ++ "/positions?settled=false"
  | vaultCycles pda => "/api/v1/vaults/" ++ E.base58Encode pda.toList ++ "/cycles"
  | vaultDepositRequests pda =>
    "/api/v1/vaults/" ++ E.base58Encode pda.toList ++ "/deposit-requests"
  | vaultWithdrawRequests pda =>
    "/api/v1/vaults/" ++ E.base58Encode pda.toList ++ "/withdraw-requests"
  | vaultExposure pda => "/api/v1/vaults/" ++ E.base58Encode pda.toList ++ "/exposure"
  | markets filter => "/api/v1/markets" ++ filter.query E
  | tokens => "/api/v1/tokens"

def limit : Endpoint → UInt16
  | vaultDepositRequests _ | vaultWithdrawRequests _ => 100
  | _ => 200

/-- The list of the response. The totals of an exposure are of all its positions on every page. -/
def list : Endpoint → Field
  | vaults | delegatedVaults _ => .vaults
  | vaultPositions _ | vaultExposure _ => .positions
  | vaultCycles _ => .cycles
  | vaultDepositRequests _ | vaultWithdrawRequests _ => .requests
  | markets _ => .markets
  | tokens => .tokens

end Endpoint

def pagePath (U : Urls) (path : String) (limit : UInt16) (cursor : Cursor) :
    Except HttpError String := do
  let url ← okOr (U.parse ("http://localhost" ++ path)) .invalidCursor
  let url := U.appendPair url "limit" (toString limit.toNat)
  let url :=
    match cursor with
    | .start => url
    | .after id => U.appendPair url "cursor" id
  pure (U.path url ++ "?" ++ (U.query url).getD "")

/-- What `collect` and `vault_requests` call `fetch_all` with; `get` is the answer to a path, by
the pages asked for before it. -/
def collect (E : Encodings) (U : Urls) (endpoint : Endpoint)
    (get : List Cursor → String → Except HttpError (Listing row ρ)) :
    Pages (Listing row ρ) HttpError where
  load asked cursor := do get asked (← pagePath U (endpoint.path E) endpoint.limit cursor)
  next := Listing.nextCursor
  append := Listing.append [endpoint.list]
  invalidPage := .invalidPage

theorem lawful_collect (E : Encodings) (U : Urls) (endpoint : Endpoint)
    (get : List Cursor → String → Except HttpError (Listing row ρ)) :
    (collect E U endpoint get).Lawful (Listing.Combined [endpoint.list]) := by
  refine ⟨fun _ _ ↦ rfl, Listing.combined_one, fun _ _ _ h ↦ ?_⟩
  exact Listing.combined_append (List.nodup_singleton _) (List.Subset.refl _) h

end Http

/-- A list of the data connection or of the HTTP API is read whole, or there is an error. -/
theorem pages_whole :
    (∀ (S : Schema) (r : DataRequest) (ids : ℕ → Uuid) (server : DataServer S r)
      (request : PageRequest (S.filter r)),
      (allPages r ids server request).Whole r.Combined) ∧
    ∀ (row : Field → Type) (ρ : Type) (E : Encodings) (U : Urls) (endpoint : Endpoint)
      (get : List Cursor → String → Except HttpError (Listing row ρ)),
      (collect E U endpoint get).Whole (Listing.Combined [endpoint.list]) := by
  refine ⟨fun S r ids server request ↦ ?_, fun row ρ E U endpoint get ↦ ?_⟩
  · exact (lawful_allPages r ids server request).whole
  · exact (lawful_collect E U endpoint get).whole

end MakerSdk.Paging
