import MakerSdk.Served.Budget
import MakerSdk.Vault.Open

namespace MakerSdk.Served

open Base Base.Bytes Base.Checks Orders Solana Vault

def maxTransactionWireBytes : ℕ := 1232

inductive VaultOpenIntent where
  | sale (keeper : Pubkey) (writer : VaultManager) (makerOwner makerQuoteSigner : Pubkey)
      (terms : VaultSaleTerms)
  | betweenVaults (keeper : Pubkey) (writer holder : VaultManager) (terms : VaultSaleTerms)
  | fill (keeper : Pubkey) (holder : VaultManager) (taker : Pubkey) (terms : VaultSaleTerms)
  | buy (keeper : Pubkey) (writer : VaultManager) (holder : Pubkey) (terms : VaultSaleTerms)

structure SponsoredTxToSignData where
  orderId : FixedBytes 32
  txBase64 : String

namespace VaultOpenIntent

def keeper : VaultOpenIntent → Pubkey
  | .sale keeper .. => keeper
  | .betweenVaults keeper .. => keeper
  | .fill keeper .. => keeper
  | .buy keeper .. => keeper

def participant : VaultOpenIntent → Pubkey
  | .sale _ writer _ _ _ => writer.args.actor
  | .betweenVaults _ writer _ _ => writer.args.actor
  | .fill _ _ taker _ => taker
  | .buy _ _ holder _ => holder

def quoteSigner : VaultOpenIntent → Pubkey
  | .sale _ _ _ makerQuoteSigner _ => makerQuoteSigner
  | .betweenVaults _ _ holder _ => holder.args.delegateAuthority
  | .fill _ holder _ _ => holder.args.delegateAuthority
  | .buy _ writer _ _ => writer.args.delegateAuthority

def openPosition (P : Platform) : VaultOpenIntent → Except VaultChainError VaultOpenPosition
  | .sale keeper writer makerOwner _ (.physical terms) =>
    writer.openPositionAsWriter P keeper makerOwner terms
  | .sale keeper writer makerOwner _ (.spread terms) =>
    writer.openSpreadAsWriter P keeper makerOwner terms
  | .betweenVaults keeper writer holder (.physical terms) =>
    writer.openPositionWithVaultHolder P keeper holder terms
  | .betweenVaults keeper writer holder (.spread terms) =>
    writer.openSpreadWithVaultHolder P keeper holder terms
  | .fill keeper holder taker (.physical terms) => holder.openPositionAsHolder P keeper taker terms
  | .fill keeper holder taker (.spread terms) => holder.openSpreadAsHolder P keeper taker terms
  | .buy keeper writer holder (.physical terms) =>
    writer.openPositionForWalletHolder P keeper holder terms
  | .buy keeper writer holder (.spread terms) =>
    writer.openSpreadForWalletHolder P keeper holder terms

/-- The taker of a fill may lack the account its premium is paid to. -/
def takerQuoteAta (P : Platform) : VaultOpenIntent → List Instruction
  | .fill keeper holder taker terms =>
    let quoteMint := match terms with
      | .physical terms => terms.quoteMint
      | .spread terms => terms.quoteMint
    let (quoteMint, quoteProgram) :=
      if holder.args.mainMint = quoteMint then (holder.args.mainMint, holder.args.mainTokenProgram)
      else (holder.args.secondMint, holder.args.secondTokenProgram)
    [createAtaIdempotent P keeper taker quoteMint quoteProgram]
  | _ => []

end VaultOpenIntent

def ServedMessage.requireVaultOpenWireShape (served : ServedMessage) :
    Except VaultIntentError Unit := do
  refuse (¬ served.isVersionZero) .openRequiresVersionZero
  refuse (¬ served.hasLookupTable) .openRequiresLookupTable
  refuse (served.wireLen > maxTransactionWireBytes)
    (.openTransactionTooLarge served.wireLen maxTransactionWireBytes)

def ServedMessage.requireStaticAccounts (served : ServedMessage) (accounts : List Pubkey) :
    Except VaultIntentError Unit :=
  match accounts.find? (fun account ↦ account ∉ served.staticKeys) with
  | some account => .error (.openRequiresStaticAccount account)
  | none => .ok ()

def openStaticAccounts (intent : VaultOpenIntent) (position : VaultOpenPosition)
    (expected : List Instruction) : List Pubkey :=
  [intent.keeper, intent.participant, position.addresses.position,
    position.addresses.collateralAta] ++ expected.map Instruction.programId ++
      ((expected.flatMap Instruction.accounts).filter AccountMeta.isSigner).map AccountMeta.pubkey

def verifyVaultOpen (P : Platform) (toSign : SponsoredTxToSignData) (intent : VaultOpenIntent)
    (tables : List AddressLookupTableAccount) (bounds : ComputeBudgetBounds) :
    Except VaultIntentError VerifiedTransaction := do
  let served ← ServedMessage.decode P toSign.txBase64 tables
  served.requireVaultOpenWireShape
  let keeper := intent.keeper
  let position ← (intent.openPosition P).mapError VaultIntentError.intent
  refuse (position.orderId ≠ toSign.orderId) .orderId
  let collateralAta := createAtaIdempotent P keeper position.addresses.position
    position.addresses.collateralMint position.addresses.collateralTokenProgram
  let budget ← served.computeBudget bounds
  let expected := budget ++ intent.takerQuoteAta P ++ [collateralAta]
  let signature ← served.quoteSignature P expected.length intent.quoteSigner position.orderId
  let expected := expected ++ [signature, position.instruction]
  served.requireStaticAccounts (openStaticAccounts intent position expected)
  served.matches keeper expected

def expectedOpen (P : Platform) (intent : VaultOpenIntent) (position : VaultOpenPosition)
    (limit : UInt32) (price : UInt64) (signature : FixedBytes 64) : List Instruction :=
  computeBudgetInstructions limit price ++ intent.takerQuoteAta P ++
    [createAtaIdempotent P intent.keeper position.addresses.position
        position.addresses.collateralMint position.addresses.collateralTokenProgram] ++
      [ed25519Instruction intent.quoteSigner signature position.orderId, position.instruction]

theorem requireVaultOpenWireShape_ok {served : ServedMessage} :
    served.requireVaultOpenWireShape = .ok () ↔ served.isVersionZero = true ∧
      served.hasLookupTable = true ∧ served.wireLen ≤ 1232 := by
  simp [ServedMessage.requireVaultOpenWireShape, maxTransactionWireBytes]

theorem requireStaticAccounts_ok {served : ServedMessage} {accounts : List Pubkey} :
    served.requireStaticAccounts accounts = .ok () ↔
      ∀ account ∈ accounts, account ∈ served.staticKeys := by
  rw [ServedMessage.requireStaticAccounts]
  cases h : accounts.find? (fun account ↦ account ∉ served.staticKeys) with
  | none => simpa [List.find?_eq_none] using h
  | some account =>
    have hmem := List.mem_of_find?_eq_some h
    have hnot := List.find?_some h
    simp only [reduceCtorEq, false_iff, not_forall]
    exact ⟨account, hmem, by simpa using hnot⟩

theorem verifyVaultOpen_ok {P : Platform} {toSign : SponsoredTxToSignData}
    {intent : VaultOpenIntent} {tables : List AddressLookupTableAccount}
    {bounds : ComputeBudgetBounds} {transaction : VerifiedTransaction} :
    verifyVaultOpen P toSign intent tables bounds = .ok transaction ↔
      ∃ served position limit price signature,
        ServedMessage.decode P toSign.txBase64 tables = .ok served ∧
        (served.isVersionZero = true ∧ served.hasLookupTable = true ∧ served.wireLen ≤ 1232) ∧
        intent.openPosition P = .ok position ∧ position.orderId = toSign.orderId ∧
        bounds.Admits limit price ∧
        verifyOrderIdSignatureBytes P position.orderId signature intent.quoteSigner = .ok () ∧
        (∀ account ∈ openStaticAccounts intent position
          (expectedOpen P intent position limit price signature), account ∈ served.staticKeys) ∧
        Matches intent.keeper (expectedOpen P intent position limit price signature) served ∧
          transaction = served.transaction := by
  simp only [verifyVaultOpen, bind_ok, refuse_ok, exists_const, mapError_ok, computeBudget_ok,
    quoteSignature_ok, ne_eq, not_not]
  constructor
  · rintro ⟨served, hserved, _, hshape, position, hposition, horder, budget,
      ⟨limit, price, hadm, hlimit, hprice, rfl⟩, sig, ⟨signature, rfl, hsig, hverify⟩, _, hstatic,
      hmatch⟩
    obtain ⟨hm, rfl⟩ := (matches_ok (decode_account_mem hserved)).mp hmatch
    exact ⟨served, position, limit, price, signature, hserved,
      requireVaultOpenWireShape_ok.mp hshape, hposition, horder, hadm, hverify,
      requireStaticAccounts_ok.mp hstatic, hm, rfl⟩
  · rintro ⟨served, position, limit, price, signature, hserved, hshape, hposition, horder, hadm,
      hverify, hstatic, hm, rfl⟩
    refine ⟨served, hserved, (), requireVaultOpenWireShape_ok.mpr hshape, position, hposition,
      horder, _, ⟨limit, price, hadm, hm.getElem?_eq rfl rfl, hm.getElem?_eq rfl rfl, rfl⟩, _,
      ⟨signature, rfl, hm.getElem?_eq ?_ rfl, hverify⟩, (), requireStaticAccounts_ok.mpr hstatic,
      (matches_ok (decode_account_mem hserved)).mpr ⟨hm, rfl⟩⟩
    rw [expectedOpen, List.getElem?_append_right le_rfl, Nat.sub_self]
    rfl

/-- A version-0 transaction that pays from the keeper and holds exactly the instructions of an open,
each key with exactly the privileges they ask for. -/
structure OpenShape (P : Platform) (intent : VaultOpenIntent) (position : VaultOpenPosition)
    (limit : UInt32) (price : UInt64) (signature : FixedBytes 64)
    (tables : List AddressLookupTableAccount) (t : Transaction) : Prop where
  versionZero : t.versionZero = true
  lookup : ∃ l ∈ t.lookups, l.writable ≠ [] ∨ l.readonly ≠ []
  feePayer : t.staticKeys.head? = some intent.keeper
  instructions : t.instructions.map (CompiledInstruction.outline (t.loadedKeys tables)) =
    (expectedOpen P intent position limit price signature).map Instruction.outline
  distinct : ((t.loadedKeys tables).map Prod.fst).Nodup
  used : ∀ key ∈ t.loadedKeys tables,
    Used intent.keeper (expectedOpen P intent position limit price signature) key.1
  flags : ∀ key ∈ t.loadedKeys tables,
    key.2 = unionFlags intent.keeper (expectedOpen P intent position limit price signature) key.1
  static : ∀ account ∈ openStaticAccounts intent position
    (expectedOpen P intent position limit price signature), account ∈ t.staticKeys

/-- An accepted open is a transaction of at most 1232 bytes with the shape of its intent,
for a compute budget within bounds and a quote signature that verifies. -/
theorem verifyVaultOpen_sound {P : Platform} {toSign : SponsoredTxToSignData}
    {intent : VaultOpenIntent} {tables : List AddressLookupTableAccount}
    {bounds : ComputeBudgetBounds} {transaction : VerifiedTransaction}
    (h : verifyVaultOpen P toSign intent tables bounds = .ok transaction) :
    ∃ m p position limit price signature,
      P.base64Decode toSign.txBase64 = some transaction.bytes ∧
      transaction.bytes.length ≤ 1232 ∧
      decodeWith compact transaction.bytes = .ok (m, p) ∧
      intent.openPosition P = .ok position ∧ position.orderId = toSign.orderId ∧
      bounds.Admits limit price ∧
      verifyOrderIdSignatureBytes P position.orderId signature intent.quoteSigner = .ok () ∧
      (∀ l ∈ (transactionOf m p).lookups, l.Supplied tables) ∧
      OpenShape P intent position limit price signature tables (transactionOf m p) ∧
      transaction.signaturesStart = m.signaturesStart ∧
      transaction.messageStart = m.messageStart ∧
      transaction.signers = m.staticKeys.take m.requiredSigners := by
  obtain ⟨served, position, limit, price, signature, hserved, ⟨hzero, htable, hsize⟩, hposition,
    horder, hadm, hverify, hstatic, hm, rfl⟩ := verifyVaultOpen_ok.mp h
  obtain ⟨bytes, m, p, hbytes, hread, hres, rfl, hsigs, hmsg, hwire⟩ :=
    ServedMessage.decode_ok.mp hserved
  obtain ⟨hpayer, hixs, hused, hflags⟩ := (hres.matches_iff (decodeWith_headerValid hread)).mp hm
  have hdistinct := hres.distinct
  rw [hres.keys] at hdistinct
  have hcounts := ShortVec.toNat_ofNat (decodeWith_counts hread).1
  refine ⟨m, p, position, limit, price, signature, hbytes, hwire ▸ hsize, hread, hposition, horder,
    hadm, hverify, hres.supplied, ?_, hsigs, hmsg, ?_⟩
  · exact ⟨hres.isVersionZero ▸ hzero, hres.hasLookupTable.mp htable, hpayer, hixs, hdistinct,
      hused, hflags, hres.staticKeys ▸ hstatic⟩
  · rw [hres.signers]
    simp only [transactionOf, hcounts]

namespace Sale

def keeper : Pubkey := keyOfNat 0xfefefefefefefefefefefefefefefefefefefefefefefefefefefefefefefefe
def makerOwner : Pubkey :=
  keyOfNat 0x20828bf5c5bdcacb684863336c202fb5599da48be5596615742170705beca9f7
def quoteSigner : Pubkey :=
  keyOfNat 0x20828bf5c5bdcacb684863336c202fb5599da48be5596615742170705beca9f7
def maker : Pubkey := keyOfNat 0xc782f3e91f8a279dd859e09cd350eab179916faeba5f8d416cf8179a8b566b32
def market : Pubkey := keyOfNat 0xbb24cac9f13670949c9e2bc3c9b3753b00064c922c7b7a3fc86d8e3ca8c7b33f
def position : Pubkey := keyOfNat 0x1633c53ef27158e797a060b63fbbc34a70fc4810169758e5065f85a54b57abc
def config : Pubkey := keyOfNat 0x41422a96980e16690434fae55d7bc1d93527ea46f3d31f50ac0d594e7d1e69b5
def collateralAta : Pubkey :=
  keyOfNat 0xeb4cf53d320db20fdbfc87f578fd45ba8a4424f40d52eaf125b49dfb052503a0
def protocolFeeAta : Pubkey :=
  keyOfNat 0x879c6c96d3304b1136dcfd805ddc0efbf96f297c85a5ee54e9c35fa37898dccc
def makerQuoteAta : Pubkey :=
  keyOfNat 0x547107df227e171101b850569dd8be8f5728370aebf8ede52f4c5ce08005d359
def table : Pubkey := keyOfNat 0x6363636363636363636363636363636363636363636363636363636363636363

def writer : VaultManager where
  args := {
    programId := keyOfNat 0x101010101010101010101010101010101010101010101010101010101010101
    vaultId := .ofList 32 (List.replicate 32 10)
    actor := keyOfNat 0x43a72e714401762df66b68c26dfbdf2682aaec9f2474eca4613e424a0fbafd3c
    delegateAuthority := keyOfNat 0x43a72e714401762df66b68c26dfbdf2682aaec9f2474eca4613e424a0fbafd3c
    mainMint := keyOfNat 0x202020202020202020202020202020202020202020202020202020202020202
    secondMint := keyOfNat 0x303030303030303030303030303030303030303030303030303030303030303
    shareMint := keyOfNat 0x6e6e6e6e6e6e6e6e6e6e6e6e6e6e6e6e6e6e6e6e6e6e6e6e6e6e6e6e6e6e6e6e
    mainTokenProgram := tokenProgramId
    secondTokenProgram := token2022ProgramId
    secondLegGeneration := 0 }
  addresses := {
    vault := keyOfNat 0x62f7232b27f50dadc46b99781e30f81b64d51f90cbed1dee50f3bc916565bbfa
    policy := keyOfNat 0xd3e36a998800490653870e06cc151c6f13e9fc4ad4606991e91e058895174639
    delegate := keyOfNat 0x5b06adf0b52e228a8215a24b046ba6c93ab53228fac8f640b1083a0765f15428
    globalConfig := keyOfNat 0x27a625d2b939f5ac2afe5e50edba6b5d64245a39935768a1f17c50d149870141
    swapVenues := keyOfNat 0x9413e902673d240bed5537980b7f2813bc3881720925c382d4285eec45f8e9de
    mainPriceRoute := keyOfNat 0x7b01c5b5261a736d43cafc2ccbe5c5e8e0658ce25e3f000dc99f508990f39675
    secondPriceRoute := keyOfNat 0xec276f75b24b50fff591d976bf27761f77ccfaa410beda3acb7cb0593817b0c2
    managerStakeAuthority :=
      keyOfNat 0x37f1ef1e8558894307414f82d7f09233eaedc2c35221d23d37c9609696718891
    vaultMainAta := keyOfNat 0xbc38762d86569cfdd34930cfc7c31a8e593ba0b3ad655b931f268106f5c82ad
    vaultSecondAta := keyOfNat 0x1145b25fb948b0e56861ef6049e1a90de4144b55e731c47a973a1386fb3280cf
    managerStakeAta := keyOfNat 0x440ab0402f97a414ba3844a11f0642ff9cf5c10fc4dbea3861d402943eabcd05 }

def terms : VaultTradeTerms where
  underlyingMint := writer.args.mainMint
  quoteMint := writer.args.secondMint
  expiryTs := 2000000000
  isPut := false
  side := .sell
  strike := 150000000000
  quantity := 2000000000
  price := 3000000000
  validUntil := 1900000000
  nonce := 77

def intent : VaultOpenIntent := .sale keeper writer makerOwner quoteSigner (.physical terms)

def orderId : FixedBytes 32 := .ofList 32
  [214, 141, 148, 234, 151, 253, 46, 97, 11, 48, 122, 205, 27, 177, 93, 31, 35, 181, 104, 112,
    157, 73, 240, 70, 219, 128, 102, 122, 114, 65, 171, 116]

def signature : FixedBytes 64 := .ofList 64
  [227, 128, 218, 65, 35, 12, 196, 238, 123, 141, 148, 155, 151, 229, 29, 112, 2, 135, 221,
    244, 48, 16, 207, 108, 0, 129, 137, 226, 114, 1, 36, 52, 45, 140, 187, 177, 37, 232, 241,
    245, 207, 36, 230, 47, 40, 183, 168, 4, 58, 22, 225, 136, 210, 149, 151, 19, 121, 125, 154,
    189, 173, 250, 200, 12]

def tables : List AddressLookupTableAccount :=
  [⟨table, [writer.addresses.vaultMainAta, writer.addresses.vaultSecondAta, makerQuoteAta,
    writer.addresses.vault, protocolFeeAta, market, systemProgramId, writer.args.programId,
    writer.args.mainMint, writer.args.secondMint, computeBudgetProgramId, ed25519ProgramId,
    instructionsSysvarId, tokenProgramId, token2022ProgramId, writer.addresses.globalConfig,
    config, writer.addresses.managerStakeAta, writer.addresses.delegate, writer.args.shareMint,
    associatedTokenProgramId, maker, writer.addresses.policy]⟩]

def served : Transaction where
  signatures := [.ofList 64 [], .ofList 64 []]
  versionZero := true
  requiredSigners := 2
  readonlySigned := 0
  readonlyUnsigned := 4
  staticKeys := [keeper, writer.args.actor, position, collateralAta, writer.args.programId,
    computeBudgetProgramId, ed25519ProgramId, associatedTokenProgramId]
  blockhash := .ofList 32 (List.replicate 32 9)
  instructions := [
    ⟨5, [], [2, 128, 26, 6, 0]⟩,
    ⟨5, [], [3, 232, 3, 0, 0, 0, 0, 0, 0]⟩,
    ⟨7, [0, 3, 2, 15, 14, 18], [1]⟩,
    ⟨6, [], ed25519Header ++ (quoteSigner.toList ++ (signature.toList ++ orderId.toList))⟩,
    ⟨4, [0, 1, 11, 26, 23, 8, 9, 25, 10, 13, 2, 3, 21, 12, 17, 15, 16, 18, 19, 14, 20, 24, 22],
      41 :: (terms.args orderId ++ [0])⟩]
  lookups := [⟨table, [0, 1, 2, 3, 4, 5],
    [6, 8, 9, 12, 13, 14, 15, 16, 17, 18, 19, 21, 22]⟩]

def messageText : String :=
  "gAIABAj+/v7+/v7+/v7+/v7+/v7+/v7+/v7+/v7+/v7+/v7+/kOnLnFEAXYt9mtowm373yaCquyfJHTspGE+QkoP" ++
    "uv08AWM8U+8nFY55egYLY/u8NKcPxIEBaXWOUGX4WlS1erzrTPU9Mg2yD9v8h/V4/UW6ikQk9A1S6vEltJ37" ++
    "BSUDoAEBAQEBAQEBAQEBAQEBAQEBAQEBAQEBAQEBAQEBAQEBAwZGb+UhFzL/7K26csOb57yM5bvF9xJrLEOb" ++
    "OkAAAAADfUbWfJP7vhL5Qo+DjUD/BXB0SSf0imT8ynBEgAAAAIyXJY9OJInxuz0QKRSODYMLWhOZ2v8QhASO" ++
    "e9jb6fhZCQkJCQkJCQkJCQkJCQkJCQkJCQkJCQkJCQkJCQkJCQkFBQAFAoAaBgAFAAkD6AMAAAAAAAAHBgAD" ++
    "Ag8OEgEBBgCQAQEAMAD//xAA//9wACAA//8ggov1xb3Ky2hIYzNsIC+1WZ2ki+VZZhV0IXBwW+yp9+OA2kEj" ++
    "DMTue42Um5flHXACh930MBDPbACBieJyASQ0LYy7sSXo8fXPJOYvKLeoBDoW4YjSlZcTeX2ava36yAzWjZTq" ++
    "l/0uYQswes0bsV0fI7VocJ1J8EbbgGZ6ckGrdAQXAAELGhcICRkKDQIDFQwRDxASEw4UGBZLKQAAXLLsIgAA" ++
    "AACUNXcAAAAAAF7QsgAAAAAAsz9xAAAAAE0AAAAAAAAA1o2U6pf9LmELMHrNG7FdHyO1aHCdSfBG24BmenJB" ++
    "q3QAAWNjY2NjY2NjY2NjY2NjY2NjY2NjY2NjY2NjY2NjY2NjBgABAgMEBQ0GCAkMDQ4PEBESExUW"

def text : String :=
  "AgAAAAAAAAAAAAAAAAAAAAAAAAAAAAAAAAAAAAAAAAAAAAAAAAAAAAAAAAAAAAAAAAAAAAAAAAAAAAAAAAAAAAAA" ++
    "AAAAAAAAAAAAAAAAAAAAAAAAAAAAAAAAAAAAAAAAAAAAAAAAAAAAAAAAAAAAAAAAAAAAAAAAAAAAAAAAAAAA" ++
    messageText

def platform : Platform := .ofTables [
    ([ascii "market", terms.underlyingMint.toList, terms.quoteMint.toList, u64ToLe terms.expiryTs,
      [0]], writer.args.programId, market),
    ([ascii "position", orderId.toList], writer.args.programId, position),
    ([ascii "config", terms.quoteMint.toList], writer.args.programId, config),
    ([ascii "maker", makerOwner.toList], writer.args.programId, maker),
    ([position.toList, tokenProgramId.toList, terms.underlyingMint.toList],
      associatedTokenProgramId, collateralAta),
    ([config.toList, token2022ProgramId.toList, terms.quoteMint.toList],
      associatedTokenProgramId, protocolFeeAta),
    ([maker.toList, token2022ProgramId.toList, terms.quoteMint.toList],
      associatedTokenProgramId, makerQuoteAta)]
  [(ascii "ACTA" ++ (List.replicate 8 0 ++ (writer.args.programId.toList ++ ([0, 0] ++
    (market.toList ++ (u64ToLe terms.strike ++ (u64ToLe terms.quantity ++ (u64ToLe terms.price ++
      (u64ToLe terms.validUntil ++ (makerOwner.toList ++ (writer.addresses.vault.toList ++
        u64ToLe terms.nonce)))))))))), orderId)]
  [(text, served.encode)] [(quoteSigner, orderId.toList, signature)]

end Sale

theorem verifyVaultOpen_sound_sale :
    verifyVaultOpen Sale.platform ⟨Sale.orderId, Sale.text⟩ Sale.intent Sale.tables
      ⟨400000, 1000⟩ = .ok ⟨Sale.served.encode, 1, 129, [Sale.keeper, Sale.writer.args.actor]⟩ ∧
    ∃ m p position limit price signature,
      decodeWith compact Sale.served.encode = .ok (m, p) ∧
        OpenShape Sale.platform Sale.intent position limit price signature Sale.tables
          (transactionOf m p) := by
  have h : verifyVaultOpen Sale.platform ⟨Sale.orderId, Sale.text⟩ Sale.intent Sale.tables
      ⟨400000, 1000⟩ = .ok ⟨Sale.served.encode, 1, 129, [Sale.keeper, Sale.writer.args.actor]⟩ := by
    decide +kernel
  obtain ⟨m, p, position, limit, price, signature, -, -, hread, -, -, -, -, -, hshape, -⟩ :=
    verifyVaultOpen_sound h
  exact ⟨h, m, p, position, limit, price, signature, hread, hshape⟩

/-- Every canonical encoding of a transaction with the shape of an intent is accepted. -/
theorem verifyVaultOpen_complete {P : Platform} {intent : VaultOpenIntent}
    {position : VaultOpenPosition} {limit : UInt32} {price : UInt64} {signature : FixedBytes 64}
    {tables : List AddressLookupTableAccount} {bounds : ComputeBudgetBounds} {t : Transaction}
    {text : String} (hposition : intent.openPosition P = .ok position)
    (hadm : bounds.Admits limit price)
    (hverify : verifyOrderIdSignatureBytes P position.orderId signature intent.quoteSigner = .ok ())
    (ht : t.WellFormed tables) (htext : P.base64Decode text = some t.encode)
    (hsize : t.encode.length ≤ 1232)
    (hshape : OpenShape P intent position limit price signature tables t) :
    ∃ transaction, verifyVaultOpen P ⟨position.orderId, text⟩ intent tables bounds =
      .ok transaction ∧ transaction.bytes = t.encode := by
  obtain ⟨served, hserved, hres, hwire⟩ := decode_of_wellFormed ht htext
  obtain ⟨bytes, _, _, hbytes, -, -, hb, -⟩ := ServedMessage.decode_ok.mp hserved
  have hbytes' : bytes = t.encode := Option.some.inj (hbytes.symm.trans htext)
  have hm := (hres.matches_iff ht.header).mpr
    ⟨hshape.feePayer, hshape.instructions, hshape.used, hshape.flags⟩
  refine ⟨served.transaction, verifyVaultOpen_ok.mpr ⟨served, position, limit, price, signature,
    hserved, ⟨?_, ?_, ?_⟩, hposition, rfl, hadm, hverify, ?_, hm, rfl⟩, hb.trans hbytes'⟩
  · rw [hres.isVersionZero, hshape.versionZero]
  · exact hres.hasLookupTable.mpr hshape.lookup
  · rw [hwire]
    exact hsize
  · rw [hres.staticKeys]
    exact hshape.static

namespace Sale

def opened : VaultOpenPosition :=
  writer.openAsWriter platform .openPositionForVaultWriter keeper (.maker maker)
    ⟨⟨terms.underlyingMint, tokenProgramId, writer.addresses.vaultMainAta⟩,
      ⟨terms.quoteMint, token2022ProgramId, writer.addresses.vaultSecondAta⟩⟩ orderId
    ⟨market, position, terms.underlyingMint, tokenProgramId, collateralAta, config,
      protocolFeeAta⟩ (terms.args orderId)

theorem served_wellFormed : served.WellFormed tables where
  encodable := ⟨by decide, by decide, by decide, by decide, by decide +kernel, by decide +kernel⟩
  header := ⟨by decide, by decide, by decide, by decide⟩
  supplied := by
    intro l hl
    obtain rfl := List.mem_singleton.mp hl
    exact ⟨⟨_, List.mem_singleton_self _, rfl⟩, by decide +kernel⟩
  distinct := by decide +kernel
  indexes := by decide +kernel

theorem served_shape : OpenShape platform intent opened 400000 1000 signature tables served where
  versionZero := rfl
  lookup := ⟨_, List.mem_singleton_self _, .inl (by decide)⟩
  feePayer := rfl
  instructions := by decide +kernel
  distinct := served_wellFormed.distinct
  used := by decide +kernel
  flags := by decide +kernel
  static := by decide +kernel

end Sale

theorem verifyVaultOpen_complete_sale :
    ∃ transaction, verifyVaultOpen Sale.platform ⟨Sale.opened.orderId, Sale.text⟩ Sale.intent
      Sale.tables ⟨400000, 1000⟩ = .ok transaction ∧ transaction.bytes = Sale.served.encode := by
  have hposition : Sale.intent.openPosition Sale.platform = .ok Sale.opened := by decide +kernel
  have htext : Sale.platform.base64Decode Sale.text = some Sale.served.encode := by
    simp [Sale.platform, Platform.ofTables]
  have hverify : verifyOrderIdSignatureBytes Sale.platform Sale.opened.orderId Sale.signature
      Sale.intent.quoteSigner = .ok () := by decide +kernel
  exact verifyVaultOpen_complete hposition ⟨by decide, by decide, by decide, by decide⟩ hverify
    Sale.served_wellFormed htext (by decide +kernel) Sale.served_shape

end MakerSdk.Served
