import MakerSdk.Orders.Preimage
import MakerSdk.Vault.Manager

namespace MakerSdk.Vault

open Base.Bytes Base.Checks Orders Solana

def instructionsSysvarId : Pubkey :=
  keyOfNat 0x6a7d517187bd16635dad40455fdc2c0c124c68f215675a5dbbacb5f08000000

example : instructionsSysvarId = pubkey "Sysvar1nstructions1111111111111111111111111" := by
  decide +kernel

structure VaultTradeTerms where
  underlyingMint : Pubkey
  quoteMint : Pubkey
  expiryTs : UInt64
  isPut : Bool
  side : TakerSide
  strike : UInt64
  quantity : UInt64
  price : UInt64
  validUntil : UInt64
  nonce : UInt64
deriving DecidableEq

structure VaultSpreadTerms where
  underlyingMint : Pubkey
  quoteMint : Pubkey
  expiryTs : UInt64
  kind : SpreadType
  side : TakerSide
  lowerStrike : UInt64
  upperStrike : UInt64
  quantity : UInt64
  price : UInt64
  validUntil : UInt64
  nonce : UInt64
deriving DecidableEq

inductive VaultSaleTerms where
  | physical (terms : VaultTradeTerms)
  | spread (terms : VaultSpreadTerms)
deriving DecidableEq

structure VaultPositionAddresses where
  market : Pubkey
  position : Pubkey
  collateralMint : Pubkey
  collateralTokenProgram : Pubkey
  collateralAta : Pubkey
  config : Pubkey
  protocolFeeAta : Pubkey
deriving DecidableEq

structure VaultOpenPosition where
  orderId : FixedBytes 32
  addresses : VaultPositionAddresses
  instruction : Instruction
deriving DecidableEq

structure Asset where
  mint : Pubkey
  program : Pubkey
  vaultAta : Pubkey
deriving DecidableEq

structure MarketLegs where
  underlying : Asset
  quote : Asset
deriving DecidableEq

def MarketLegs.bind (manager : VaultManager) (underlyingMint quoteMint : Pubkey) :
    Except VaultChainError MarketLegs :=
  let main : Asset := ⟨manager.args.mainMint, manager.args.mainTokenProgram,
    manager.addresses.vaultMainAta⟩
  let second : Asset := ⟨manager.args.secondMint, manager.args.secondTokenProgram,
    manager.addresses.vaultSecondAta⟩
  if main.mint = underlyingMint ∧ second.mint = quoteMint then .ok ⟨main, second⟩
  else if main.mint = quoteMint ∧ second.mint = underlyingMint then .ok ⟨second, main⟩
  else .error (.invalidInput "market mints must be the vault's main and second mints")

def MarketLegs.collateral (legs : MarketLegs) (isPut : Bool) : Asset :=
  if isPut then legs.quote else legs.underlying

namespace VaultTradeTerms

variable (terms : VaultTradeTerms)

def validate : Except VaultChainError Unit := do
  refuse (terms.expiryTs = 0 ∨ terms.strike = 0 ∨ terms.quantity = 0 ∨ terms.price = 0 ∨
      terms.validUntil = 0)
    (.invalidInput "vault trade terms require non-zero expiry and economic fields")
  refuse (terms.validUntil > terms.expiryTs)
    (.invalidInput "vault trade quote cannot outlive its market")

def market (P : Platform) (programId : Pubkey) : Pubkey :=
  marketPda P programId terms.underlyingMint terms.quoteMint terms.expiryTs terms.isPut

def orderId (P : Platform) (programId maker taker : Pubkey) : FixedBytes 32 :=
  hashOrderPreimage P (buildPhysicalOrderPreimage {
    chainId := 0
    programId := programId
    side := terms.side
    positionType := if terms.isPut then .cashSecuredPut else .coveredCall
    market := terms.market P programId
    strike := terms.strike
    quantity := terms.quantity
    grossPrice := terms.price
    validUntil := terms.validUntil
    maker := maker
    taker := taker
    nonce := terms.nonce } terms.isPut)

def args (orderId : FixedBytes 32) : List UInt8 :=
  terms.isPut.toUInt8 :: ([terms.strike, terms.quantity, terms.price, terms.validUntil,
    terms.nonce].flatMap u64ToLe ++ orderId.toList)

end VaultTradeTerms

namespace VaultSpreadTerms

variable (terms : VaultSpreadTerms)

def validate : Except VaultChainError Unit := do
  (validatePremium terms.kind terms.lowerStrike terms.upperStrike terms.quantity
    terms.price).mapError (fun _ ↦ .invalidInput
      "vault spread requires ordered strikes, positive call lower strike, and 0 < price < width")
  refuse (terms.expiryTs = 0 ∨ terms.validUntil = 0 ∨ terms.validUntil > terms.expiryTs)
    (.invalidInput "vault spread quote must be valid before its market expiry")

def market (P : Platform) (programId : Pubkey) : Pubkey :=
  marketPda P programId terms.underlyingMint terms.quoteMint terms.expiryTs
    (terms.kind = .putSpread)

def orderId (P : Platform) (programId maker taker : Pubkey) :
    Except VaultChainError (FixedBytes 32) :=
  (computeSpreadOrderId P {
    chainId := 0
    programId := programId
    side := terms.side
    positionType := terms.kind
    market := terms.market P programId
    lowerStrike := terms.lowerStrike
    upperStrike := terms.upperStrike
    quantity := terms.quantity
    grossPrice := terms.price
    validUntil := terms.validUntil
    maker := maker
    taker := taker
    nonce := terms.nonce }).mapError (fun _ ↦ .invalidInput "invalid vault spread order")

def args (orderId : FixedBytes 32) : List UInt8 :=
  terms.kind.toByte :: ([terms.lowerStrike, terms.quantity, terms.price, terms.validUntil,
    terms.nonce].flatMap u64ToLe ++ (orderId.toList ++ u64ToLe terms.upperStrike))

end VaultSpreadTerms

def requireSide (side route : TakerSide) : Except VaultChainError Unit :=
  if side = route then .ok ()
  else .error (.invalidInput
    (if route.isTakerBuy then "taker_sell_unsupported" else "taker_buy_unsupported"))

inductive WriterHolder where
  | maker (maker : Pubkey)
  | wallet (wallet : Pubkey)

namespace VaultManager

variable (P : Platform) (manager : VaultManager)

def positionAddresses (legs : MarketLegs) (terms : VaultTradeTerms) (orderId : FixedBytes 32) :
    VaultPositionAddresses :=
  let programId := manager.args.programId
  let position := (Pda.position P programId orderId).1
  let config := (Pda.premiumConfig P programId legs.quote.mint).1
  let collateral := legs.collateral terms.isPut
  { market := terms.market P programId
    position := position
    collateralMint := collateral.mint
    collateralTokenProgram := collateral.program
    collateralAta := deriveAssociatedTokenAddress P position collateral.mint collateral.program
    config := config
    protocolFeeAta := deriveAssociatedTokenAddress P config legs.quote.mint legs.quote.program }

def spreadAddresses (legs : MarketLegs) (terms : VaultSpreadTerms) (orderId : FixedBytes 32) :
    VaultPositionAddresses :=
  let programId := manager.args.programId
  let position := (Pda.position P programId orderId).1
  let config := (Pda.premiumConfig P programId legs.quote.mint).1
  { market := terms.market P programId
    position := position
    collateralMint := legs.quote.mint
    collateralTokenProgram := legs.quote.program
    collateralAta := deriveAssociatedTokenAddress P position legs.quote.mint legs.quote.program
    config := config
    protocolFeeAta := deriveAssociatedTokenAddress P config legs.quote.mint legs.quote.program }

def marketTail (legs : MarketLegs) : List AccountMeta :=
  [.newReadonly instructionsSysvarId false,
    .newReadonly legs.underlying.mint false,
    .newReadonly legs.quote.mint false,
    .newReadonly legs.underlying.program false,
    .newReadonly legs.quote.program false,
    .newReadonly systemProgramId false,
    .newReadonly manager.addresses.globalConfig false]

def openAsWriter (ix : VaultIx) (keeper : Pubkey) (holder : WriterHolder) (legs : MarketLegs)
    (orderId : FixedBytes 32) (addresses : VaultPositionAddresses) (args : List UInt8) :
    VaultOpenPosition :=
  let (participant, counterparty, holderKind) : Pubkey × Pubkey × UInt8 := match holder with
    | .maker maker => (manager.args.actor, maker, 0)
    | .wallet wallet => (wallet, wallet, 1)
  let a := manager.addresses
  let accounts := [
    AccountMeta.new keeper true,
    .new participant true,
    .new a.vault false,
    .newReadonly a.policy false,
    .newReadonly a.delegate false,
    .new a.vaultMainAta false,
    .new a.vaultSecondAta false,
    .newReadonly counterparty false,
    .new (deriveAssociatedTokenAddress P counterparty legs.quote.mint legs.quote.program) false,
    .new addresses.market false,
    .new addresses.position false,
    .new addresses.collateralAta false,
    .newReadonly addresses.config false,
    .new addresses.protocolFeeAta false] ++ manager.marketTail legs ++ [
    .newReadonly manager.args.shareMint false,
    .newReadonly a.managerStakeAta false]
  ⟨orderId, addresses, manager.instruction ix accounts (args ++ [holderKind])⟩

def openAsHolder (ix : VaultIx) (keeper taker : Pubkey) (legs : MarketLegs)
    (orderId : FixedBytes 32) (addresses : VaultPositionAddresses) (args : List UInt8) :
    VaultOpenPosition :=
  let a := manager.addresses
  let accounts := [
    AccountMeta.new keeper true,
    .new taker true,
    .new a.vault false,
    .newReadonly a.policy false,
    .newReadonly a.delegate false,
    .new legs.quote.vaultAta false,
    .new (deriveAssociatedTokenAddress P taker legs.underlying.mint legs.underlying.program) false,
    .new (deriveAssociatedTokenAddress P taker legs.quote.mint legs.quote.program) false,
    .new addresses.market false,
    .new addresses.position false,
    .new addresses.collateralAta false,
    .newReadonly addresses.config false,
    .new addresses.protocolFeeAta false] ++ manager.marketTail legs ++ [
    .newReadonly manager.args.shareMint false,
    .newReadonly a.managerStakeAta false]
  ⟨orderId, addresses, manager.instruction ix accounts args⟩

def openBetweenVaults (ix : VaultIx) (keeper : Pubkey) (holder : VaultManager)
    (holderLegs legs : MarketLegs) (orderId : FixedBytes 32) (addresses : VaultPositionAddresses)
    (args : List UInt8) : VaultOpenPosition :=
  let w := manager.addresses
  let h := holder.addresses
  let accounts := [
    AccountMeta.new keeper true,
    .new manager.args.actor true,
    .new w.vault false,
    .newReadonly w.policy false,
    .newReadonly w.delegate false,
    .new w.vaultMainAta false,
    .new w.vaultSecondAta false,
    .new h.vault false,
    .newReadonly h.policy false,
    .newReadonly h.delegate false,
    .new holderLegs.quote.vaultAta false,
    .new addresses.market false,
    .new addresses.position false,
    .new addresses.collateralAta false,
    .newReadonly addresses.config false,
    .new addresses.protocolFeeAta false] ++ manager.marketTail legs ++ [
    .newReadonly manager.args.shareMint false,
    .newReadonly w.managerStakeAta false,
    .newReadonly holder.args.shareMint false,
    .newReadonly h.managerStakeAta false]
  ⟨orderId, addresses, manager.instruction ix accounts args⟩

def requireVaultPair (holder : VaultManager) (legs holderLegs : MarketLegs) :
    Except VaultChainError Unit :=
  refuse (manager.addresses.vault = holder.addresses.vault ∨
      manager.args.programId ≠ holder.args.programId ∨
        holderLegs.underlying.program ≠ legs.underlying.program ∨
          holderLegs.quote.program ≠ legs.quote.program)
    (.invalidInput
      "vault-to-vault requires two distinct vaults on the same program and token pair")

def openPositionAsWriter (keeper makerOwner : Pubkey) (terms : VaultTradeTerms) :
    Except VaultChainError VaultOpenPosition := do
  terms.validate
  requireSide terms.side .sell
  let legs ← MarketLegs.bind manager terms.underlyingMint terms.quoteMint
  let orderId := terms.orderId P manager.args.programId makerOwner manager.addresses.vault
  let addresses := manager.positionAddresses P legs terms orderId
  let maker := (makerPdaWithProgramId P manager.args.programId makerOwner).1
  pure (manager.openAsWriter P .openPositionForVaultWriter keeper (.maker maker) legs orderId
    addresses (terms.args orderId))

def openPositionForWalletHolder (keeper holder : Pubkey) (terms : VaultTradeTerms) :
    Except VaultChainError VaultOpenPosition := do
  terms.validate
  requireSide terms.side .buy
  let legs ← MarketLegs.bind manager terms.underlyingMint terms.quoteMint
  let orderId := terms.orderId P manager.args.programId manager.addresses.vault holder
  let addresses := manager.positionAddresses P legs terms orderId
  pure (manager.openAsWriter P .openPositionForVaultWriter keeper (.wallet holder) legs orderId
    addresses (terms.args orderId))

def openPositionAsHolder (keeper taker : Pubkey) (terms : VaultTradeTerms) :
    Except VaultChainError VaultOpenPosition := do
  terms.validate
  requireSide terms.side .sell
  let legs ← MarketLegs.bind manager terms.underlyingMint terms.quoteMint
  let orderId := terms.orderId P manager.args.programId manager.addresses.vault taker
  let addresses := manager.positionAddresses P legs terms orderId
  pure (manager.openAsHolder P .openPositionForVaultHolder keeper taker legs orderId addresses
    (terms.args orderId))

def openPositionWithVaultHolder (keeper : Pubkey) (holder : VaultManager)
    (terms : VaultTradeTerms) : Except VaultChainError VaultOpenPosition := do
  terms.validate
  requireSide terms.side .sell
  let legs ← MarketLegs.bind manager terms.underlyingMint terms.quoteMint
  let holderLegs ← MarketLegs.bind holder terms.underlyingMint terms.quoteMint
  manager.requireVaultPair holder legs holderLegs
  let orderId := terms.orderId P manager.args.programId holder.addresses.vault
    manager.addresses.vault
  let addresses := manager.positionAddresses P legs terms orderId
  pure (manager.openBetweenVaults .openPositionBetweenVaults keeper holder holderLegs legs orderId
    addresses (terms.args orderId))

def openSpreadAsWriter (keeper makerOwner : Pubkey) (terms : VaultSpreadTerms) :
    Except VaultChainError VaultOpenPosition := do
  terms.validate
  requireSide terms.side .sell
  let legs ← MarketLegs.bind manager terms.underlyingMint terms.quoteMint
  let orderId ← terms.orderId P manager.args.programId makerOwner manager.addresses.vault
  let addresses := manager.spreadAddresses P legs terms orderId
  let maker := (makerPdaWithProgramId P manager.args.programId makerOwner).1
  pure (manager.openAsWriter P .openSpreadForVaultWriter keeper (.maker maker) legs orderId
    addresses (terms.args orderId))

def openSpreadForWalletHolder (keeper holder : Pubkey) (terms : VaultSpreadTerms) :
    Except VaultChainError VaultOpenPosition := do
  terms.validate
  requireSide terms.side .buy
  let legs ← MarketLegs.bind manager terms.underlyingMint terms.quoteMint
  let orderId ← terms.orderId P manager.args.programId manager.addresses.vault holder
  let addresses := manager.spreadAddresses P legs terms orderId
  pure (manager.openAsWriter P .openSpreadForVaultWriter keeper (.wallet holder) legs orderId
    addresses (terms.args orderId))

def openSpreadAsHolder (keeper taker : Pubkey) (terms : VaultSpreadTerms) :
    Except VaultChainError VaultOpenPosition := do
  terms.validate
  requireSide terms.side .sell
  let legs ← MarketLegs.bind manager terms.underlyingMint terms.quoteMint
  let orderId ← terms.orderId P manager.args.programId manager.addresses.vault taker
  let addresses := manager.spreadAddresses P legs terms orderId
  pure (manager.openAsHolder P .openSpreadForVaultHolder keeper taker legs orderId addresses
    (terms.args orderId))

def openSpreadWithVaultHolder (keeper : Pubkey) (holder : VaultManager)
    (terms : VaultSpreadTerms) : Except VaultChainError VaultOpenPosition := do
  terms.validate
  requireSide terms.side .sell
  let legs ← MarketLegs.bind manager terms.underlyingMint terms.quoteMint
  let holderLegs ← MarketLegs.bind holder terms.underlyingMint terms.quoteMint
  manager.requireVaultPair holder legs holderLegs
  let orderId ← terms.orderId P manager.args.programId holder.addresses.vault
    manager.addresses.vault
  let addresses := manager.spreadAddresses P legs terms orderId
  pure (manager.openBetweenVaults .openSpreadBetweenVaults keeper holder holderLegs legs orderId
    addresses (terms.args orderId))

end VaultManager

end MakerSdk.Vault
