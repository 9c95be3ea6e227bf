import MakerSdk.Orders.Preimage
import Mathlib.Data.Finset.Insert
import Mathlib.Data.Finset.SDiff
import Mathlib.Data.Finset.Union

namespace MakerSdk.Session

open Base.Bytes Solana Orders

abbrev Uuid := BitVec 128
abbrev OrderId := FixedBytes 32

abbrev ProductSet := UInt8

inductive WsChannel where
  | stats | rfqs | trades | chainEvents | markets | vaults | takerBuyRfqs
deriving DecidableEq

structure SubscribeData where
  products : ProductSet
  requestId : Uuid
  channels : List WsChannel
  underlyingMints : List Pubkey
  quoteMints : List Pubkey

structure ChannelsData where
  requestId : Uuid
  channels : List WsChannel

structure MintsData where
  requestId : Uuid
  underlyingMints : List Pubkey
  quoteMints : List Pubkey

structure QuoteMessage where
  orderId : OrderId

structure RfqRequestMessage where
  requestId : Uuid
  side : TakerSide

/-- What the client sends. A message of which the session reads only the request id carries
just that. -/
inductive ClientMessage where
  | hello | startAuth | startVaultAuth | logout | authChallenge
  | resumeAuth (sessionId : String)
  | quote (message : QuoteMessage)
  | replaceQuote (message : QuoteMessage)
  | batchQuotes (quotes : List QuoteMessage)
  | cancelQuote (requestId : Uuid)
  | indicativePricesResponse
  | rfqRequest (message : RfqRequestMessage)
  | acceptQuote (requestId : Uuid)
  | submitSignedSponsoredTx (requestId : Uuid)
  | swapQuote (requestId : Uuid)
  | swapSubmit (requestId : Uuid)
  | getSwapStatus (requestId : Uuid)
  | cancelRfq (requestId : Uuid)
  | getIndicativePrices (requestId : Uuid)
  | getPositions (requestId : Uuid)
  | getPositionSummary (requestId : Uuid)
  | getMyActiveRfqs (requestId : Uuid)
  | getOrderStatus (requestId : Uuid)
  | getMarkets (requestId : Uuid)
  | getMarketDescriptors (requestId : Uuid)
  | getExpiries (requestId : Uuid)
  | getTokens (requestId : Uuid)
  | getActiveRfqs (requestId : Uuid)
  | getMakerPositions (requestId : Uuid)
  | getMyQuotes (requestId : Uuid)
  | getMarketsForMaker (requestId : Uuid)
  | getTokenCaps (requestId : Uuid)
  | getMyCaps (requestId : Uuid)
  | checkQuote (requestId : Uuid)
  | getMyTrades (requestId : Uuid)
  | getEarnSummary (requestId : Uuid)
  | getMmSummary (requestId : Uuid)
  | getTokenMarketsInfo (requestId : Uuid)
  | getSubscriptions (requestId : Uuid)
  | cancelAllQuotes (requestId : Uuid)
  | ping
  | subscribe (data : SubscribeData)
  | unsubscribe (data : ChannelsData)
  | addMints (data : MintsData)
  | removeMints (data : MintsData)
  | addChannels (data : ChannelsData)
  | removeChannels (data : ChannelsData)
  | redeemInvite (requestId : Uuid)
  | claimReferralCode (requestId : Uuid)
  | getMyReferralInfo (requestId : Uuid)

namespace ClientMessage

def requestId : ClientMessage → Option Uuid
  | hello | startAuth | startVaultAuth | resumeAuth _ | logout | authChallenge | quote _
  | replaceQuote _ | batchQuotes _ | indicativePricesResponse | ping => none
  | rfqRequest message => some message.requestId
  | subscribe data => some data.requestId
  | unsubscribe data | addChannels data | removeChannels data => some data.requestId
  | addMints data | removeMints data => some data.requestId
  | cancelQuote id | acceptQuote id | submitSignedSponsoredTx id | swapQuote id | swapSubmit id
  | getSwapStatus id | cancelRfq id | getIndicativePrices id | getPositions id
  | getPositionSummary id | getMyActiveRfqs id | getOrderStatus id | getMarkets id
  | getMarketDescriptors id | getExpiries id | getTokens id | getActiveRfqs id
  | getMakerPositions id | getMyQuotes id | getMarketsForMaker id | getTokenCaps id
  | getMyCaps id | checkQuote id | getMyTrades id | getEarnSummary id | getMmSummary id
  | getTokenMarketsInfo id | getSubscriptions id | cancelAllQuotes id | redeemInvite id
  | claimReferralCode id | getMyReferralInfo id => some id

def requiresReady : ClientMessage → Bool
  | quote _ | batchQuotes _ | replaceQuote _ | indicativePricesResponse | cancelQuote _
  | cancelAllQuotes _ | rfqRequest _ | acceptQuote _ | submitSignedSponsoredTx _ | cancelRfq _
  | swapQuote _ | swapSubmit _ | getSwapStatus _ | getOrderStatus _ | subscribe _
  | unsubscribe _ | addChannels _ | removeChannels _ | addMints _ | removeMints _ => true
  | _ => false

end ClientMessage

inductive Lane where
  | control | data
deriving DecidableEq

def ClientMessage.lane : ClientMessage → Lane
  | hello | startAuth | startVaultAuth | resumeAuth _ | authChallenge | logout | ping
  | cancelRfq _ => .control
  | _ => .data

inductive SubscriptionChange where
  | subscribe (data : SubscribeData)
  | unsubscribe (data : ChannelsData)
  | addChannels (data : ChannelsData)
  | removeChannels (data : ChannelsData)
  | addMints (data : MintsData)
  | removeMints (data : MintsData)

namespace SubscriptionChange

def fromMessage : ClientMessage → Option SubscriptionChange
  | .subscribe data => some (subscribe data)
  | .unsubscribe data => some (unsubscribe data)
  | .addChannels data => some (addChannels data)
  | .removeChannels data => some (removeChannels data)
  | .addMints data => some (addMints data)
  | .removeMints data => some (removeMints data)
  | _ => none

def requestId : SubscriptionChange → Uuid
  | subscribe data => data.requestId
  | unsubscribe data | addChannels data | removeChannels data => data.requestId
  | addMints data | removeMints data => data.requestId

end SubscriptionChange

/-- A message ready for the socket. `text` stands for the JSON text: the message it spells,
with its length in bytes. -/
structure PreparedClientMessage where
  text : ClientMessage
  len : ℕ
  lane : Lane
  subscription : Option SubscriptionChange

inductive OutboundMessageError where
  | takerBuyUnsupported
  | batchTooLarge (actual limit : ℕ)
  | messageTooLarge (actual limit : ℕ)
  | serialization

/-- Why an error frame of the server was sent, as far as the session tells codes apart. -/
inductive WsErrorCode where
  | sessionReplaced | unsupportedProtocolVersion | blacklisted | makerUnregistered
  | makerNotRegistered | invalidSignature | operatorMismatch | vaultOperatorUnauthorized
  | vaultSessionInvalidated | sessionExpired
  | other (text : String)
deriving DecidableEq

def WsErrorCode.asStr : WsErrorCode → String
  | sessionReplaced => "session_replaced"
  | unsupportedProtocolVersion => "unsupported_protocol_version"
  | blacklisted => "blacklisted"
  | makerUnregistered => "maker_unregistered"
  | makerNotRegistered => "maker_not_registered"
  | invalidSignature => "invalid_signature"
  | operatorMismatch => "operator_mismatch"
  | vaultOperatorUnauthorized => "vault_operator_unauthorized"
  | vaultSessionInvalidated => "vault_session_invalidated"
  | sessionExpired => "session_expired"
  | other text => text

inductive ServerError where
  | generic (code : WsErrorCode) (message : String)
  | serverShuttingDown
  | other

inductive Delivery where
  | notForwarded
  | unknown
deriving DecidableEq

inductive ReadVariant where
  | mmSummary | activeRfqs | myQuotes | myActiveRfqs | makerPositions | positions | myCaps
  | marketsForMaker | tokens
deriving DecidableEq

structure SubscriptionsMessage where
  requestId : Uuid
  nextCursor : Option String
  channels : List WsChannel
  underlyingMints : List Pubkey
  quoteMints : List Pubkey

/-- What the server sends. `reply` stands for every message of which the session reads only the
request id, `push` for every message it only hands on. -/
inductive ServerMessage where
  | pong
  | authRequest (challenge : String)
  | authSuccess (sessionId : String)
  | authError (reason : WsErrorCode) (message : String)
  | versionMismatch (requestedVersion serverVersion minSupportedVersion : String)
  | error (error : ServerError)
  | subscribeAck (requestId : Uuid)
  | unsubscribeAck (requestId : Uuid)
  | subscriptionUpdated (requestId : Uuid)
  | requestError (requestId : Uuid) (delivery : Option Delivery) (error : String)
  | subscriptions (data : SubscriptionsMessage)
  | page (variant : ReadVariant) (requestId : Uuid) (nextCursor : Option String)
  | quoteAcknowledged (orderId : OrderId)
  | quoteRejected (orderId : OrderId)
  | batchQuotesAck (orderIds : List OrderId)
  | commandAccepted (requestId : Uuid)
  | reply (requestId : Uuid)
  | push

def ServerMessage.requestId : ServerMessage → Option Uuid
  | subscribeAck id | unsubscribeAck id | subscriptionUpdated id | requestError id _ _
  | page _ id _ | commandAccepted id | reply id => some id
  | subscriptions data => some data.requestId
  | _ => none

end MakerSdk.Session
