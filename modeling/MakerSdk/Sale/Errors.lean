import MakerSdk.Quote.Binding
import MakerSdk.Sale.Terms
import MakerSdk.Session.States

namespace MakerSdk.Sale

open Base.Bytes Base.Checks Orders Vault Quote
open Session (Uuid Delivery ManagedWsError SendAwaitError ServerMessage)

inductive VaultRequestError where
  | takerBuyUnsupported
  | session (error : ManagedWsError)
  | transport (error : SendAwaitError)
  | rejected (requestId : Uuid) (response : ServerMessage)
  | unexpectedResponse (expected : String) (response : ServerMessage)
  | gated

namespace VaultRequestError

/-- Whether the command can have reached the server; `none` is the rejection of a command
without delivery semantics. -/
def delivery : VaultRequestError → Option Delivery
  | .rejected _ response =>
    match response with
    | .requestError _ delivery _ => delivery
    | _ => some .unknown
  | .session .notReady | .session .queueFull | .gated | .takerBuyUnsupported
  | .transport .subscriptionPending | .transport .notReady | .transport .noCorrelationKey
  | .transport .duplicateInFlight | .transport (.tooManyPending _) | .transport .queueFull
  | .transport (.invalidMessage _) => some .notForwarded
  | .session _ | .transport _ | .unexpectedResponse .. => some .unknown

end VaultRequestError

def correlated (response : ServerMessage) : Except VaultRequestError Unit :=
  match response with
  | .requestError requestId _ _ => .error (.rejected requestId response)
  | .commandAccepted _ => .ok ()
  | _ => .error (.unexpectedResponse "command_accepted" response)

inductive VaultTxError where
  | expired (field : String) (deadline now : ℕ)
  | clockBeforeEpoch
  | intent (error : VaultIntentError)

inductive ChainError where
  | identity (what : String)
  | invalidAccountData
  | accountOwnerMismatch (expected actual : Solana.Pubkey)
  | accountDiscriminatorMismatch (expected actual : UInt8)
  | uninitializedAccount
  | unknownPositionStatus (value : UInt8)
  | invalidPositionType (value : UInt8)
  | invalidSettlementState
  | spread (error : SpreadError)
  | other (text : String)
deriving DecidableEq

inductive ManagedReceiveError where
  | closed
  | gap (skipped : ℕ)

inductive SaleStage where
  | request | take | accept | sign
deriving DecidableEq

structure SignedSale where
  orderId : FixedBytes 32
  participantSignature : String
  lastValidBlockHeight : UInt64

inductive SaleOutcome where
  | unfilled
  | submitted (sale : SignedSale)

inductive SaleError (ε : Type) where
  | market
  | spread (error : SpreadError)
  | desk (error : ε)
  | rejected (stage : SaleStage) (error : VaultRequestError)
  | stream (error : ManagedReceiveError)
  | sessionChanged
  | unserved
  | timedOut (stage : SaleStage)
  | chain (error : ChainError)
  | sign (error : VaultTxError)
  | submit (sale : SignedSale) (error : VaultRequestError)

def SaleError.inFlight {ε : Type} : SaleError ε → Option SignedSale
  | .submit sale error => if error.delivery ≠ some .notForwarded then some sale else none
  | _ => none

def SaleTermsError.toSaleError {ε : Type} : SaleTermsError → SaleError ε
  | .market => .market
  | .spread error => .spread error

end MakerSdk.Sale
