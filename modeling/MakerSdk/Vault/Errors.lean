import MakerSdk.Solana.Basic

namespace MakerSdk.Vault

open Solana

inductive VaultChainError where
  | staged
  | governanceAuthorityRequired
  | coldAuthorityRequired
  | missingPriceSection
  | owner (expected actual : Pubkey)
  | accountTooShort (expected actual : ℕ)
  | accountLength (expected actual : ℕ)
  | discriminator (expected actual : UInt8)
  | version (found : UInt8)
  | unknownPhase (found : UInt8)
  | unknownSafety (found : UInt8)
  | unknownTokenProgramKind (found : UInt8)
  | unknownAccountingFlags (found : UInt32)
  | unknownStagedKind (found : UInt8)
  | unknownStagedLeg (found : UInt8)
  | priceRoute (reason : String)
  | secondLegRolled
  | batchTooLarge
  | invalidInput (reason : String)
deriving DecidableEq

inductive VaultIntentError where
  | invalidBase64
  | malformed (reason : String)
  | unsupportedVersion (version : UInt8)
  | openRequiresVersionZero
  | openRequiresLookupTable
  | openRequiresStaticAccount (account : Pubkey)
  | openTransactionTooLarge (actual maximum : ℕ)
  | missingLookupTable (table : Pubkey)
  | lookupIndex (table : Pubkey) (index : UInt8)
  | feePayer (expected found : Pubkey)
  | instructionCount (expected found : ℕ)
  | program (index : ℕ) (expected found : Pubkey)
  | accountCount (index expected found : ℕ)
  | account (index position : ℕ) (expected : Pubkey) (expectedSigner expectedWritable : Bool)
      (found : Pubkey) (foundSigner foundWritable : Bool)
  | data (index offset : ℕ)
  | privilege (key : Pubkey) (expectedWritable foundWritable : Bool)
  | signerNotRequired (key : Pubkey)
  | participantSigner (expected found : Pubkey)
  | unexpectedSigner (key : Pubkey)
  | unexpectedAccount (key : Pubkey)
  | computeUnitLimit (limit max : UInt32)
  | computeUnitPrice (price max : UInt64)
  | computeBudget (index : ℕ)
  | quoteSignature (reason : String)
  | orderId
  | route (reason : String)
  | terms (reason : String)
  | priceSection (leg : String)
  | setup (reason : String)
  | intent (error : VaultChainError)
deriving DecidableEq

end MakerSdk.Vault
