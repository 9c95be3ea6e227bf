import MakerSdk.Base.Lists
import MakerSdk.Served.RoundTrip

namespace MakerSdk.Served

open Base Base.Bytes Base.Checks Base.Lists Solana Vault

structure VerifiedTransaction where
  bytes : List UInt8
  signaturesStart : ℕ
  messageStart : ℕ
  signers : List Pubkey
deriving DecidableEq

structure ServedMessage where
  keys : List (Pubkey × Flags)
  instructions : List Instruction
  transaction : VerifiedTransaction
  staticKeys : List Pubkey
  isVersionZero : Bool
  hasLookupTable : Bool
  wireLen : ℕ

def CompiledMessage.staticFlags (message : CompiledMessage) (index : ℕ) : Flags :=
  if index < message.requiredSigners then
    ⟨true, index < message.requiredSigners - message.readonlySigned⟩
  else ⟨false, index < message.staticKeys.length - message.readonlyUnsigned⟩

def lookupKeys (tables : List AddressLookupTableAccount) (writable : Bool) (lookup : Lookup) :
    Except VaultIntentError (List (Pubkey × Flags)) := do
  let table ← okOr (tables.find? (fun table ↦ table.key = lookup.table))
    (.missingLookupTable lookup.table)
  (if writable then lookup.writable else lookup.readonly).mapM (fun index ↦ do
    let key ← okOr table.addresses[index.toNat]? (.lookupIndex lookup.table index)
    pure (key, ⟨false, writable⟩))

def keyAt (keys : List (Pubkey × Flags)) (index : UInt8) :
    Except VaultIntentError (Pubkey × Flags) :=
  okOr keys[index.toNat]? (.malformed "account index out of range")

def resolveAccount (keys : List (Pubkey × Flags)) (index : UInt8) :
    Except VaultIntentError AccountMeta := do
  let (pubkey, flags) ← keyAt keys index
  pure ⟨pubkey, flags.signer, flags.writable⟩

def resolveInstruction (keys : List (Pubkey × Flags)) (compiled : CompiledInstruction) :
    Except VaultIntentError Instruction := do
  let (programId, _) ← keyAt keys compiled.program
  let accounts ← compiled.accounts.mapM (resolveAccount keys)
  pure ⟨programId, accounts, compiled.data⟩

def ServedMessage.decode (P : Platform) (txBase64 : String)
    (tables : List AddressLookupTableAccount) : Except VaultIntentError ServedMessage := do
  let bytes ← okOr (P.base64Decode txBase64) .invalidBase64
  let message ← CompiledMessage.decode bytes
  let writable ← message.lookups.mapM (lookupKeys tables true)
  let readonly ← message.lookups.mapM (lookupKeys tables false)
  let keys := message.staticKeys.mapIdx (fun index key ↦ (key, message.staticFlags index)) ++
    (writable.flatten ++ readonly.flatten)
  refuse (¬ (keys.map Prod.fst).Nodup) (.malformed "duplicate account key")
  let instructions ← message.instructions.mapM (resolveInstruction keys)
  pure {
    keys := keys
    instructions := instructions
    transaction := ⟨bytes, message.signaturesStart, message.messageStart,
      message.staticKeys.take message.requiredSigners⟩
    staticKeys := message.staticKeys
    isVersionZero := message.isVersionZero
    hasLookupTable := message.lookups.any
      (fun lookup ↦ !lookup.writable.isEmpty || !lookup.readonly.isEmpty)
    wireLen := bytes.length }

def servedLookupTableKeys (P : Platform) (txBase64 : String) :
    Except VaultIntentError (List Pubkey) := do
  let bytes ← okOr (P.base64Decode txBase64) .invalidBase64
  let message ← CompiledMessage.decode bytes
  pure (message.lookups.map Lookup.table)

variable {keys : List (Pubkey × Flags)}

theorem mapM_key_ok {addresses : List Pubkey} {table : Pubkey} {flags : Flags}
    {indexes : List UInt8} :
    indexes.mapM (fun index ↦ (do
      let key ← okOr addresses[index.toNat]? (.lookupIndex table index)
      pure (key, flags) : Except VaultIntentError _)) = .ok keys ↔
      (∀ i ∈ indexes, i.toNat < addresses.length) ∧
        keys = (indexes.filterMap (fun i ↦ addresses[i.toNat]?)).map (fun key ↦ (key, flags)) := by
  induction indexes generalizing keys with
  | nil => simp only [List.mapM_nil, pure_ok]; simp [eq_comm]
  | cons i indexes ih =>
    simp only [List.mapM_cons, bind_ok, pure_ok, okOr_ok, ih, List.forall_mem_cons]
    constructor
    · rintro ⟨_, ⟨key, hkey, rfl⟩, keys, ⟨hall, rfl⟩, rfl⟩
      exact ⟨⟨(List.getElem?_eq_some_iff.mp hkey).1, hall⟩, by simp [hkey]⟩
    · rintro ⟨⟨hi, hall⟩, rfl⟩
      exact ⟨_, ⟨_, List.getElem?_eq_getElem hi, rfl⟩, _, ⟨hall, rfl⟩,
        by simp [List.getElem?_eq_getElem hi]⟩

variable {tables : List AddressLookupTableAccount}

theorem lookupKeys_ok {writable : Bool} {l : Lookup} :
    lookupKeys tables writable l = .ok keys ↔
      (∃ table ∈ tables, table.key = l.table) ∧
        (∀ i ∈ (if writable then l.writable else l.readonly),
          i.toNat < (tableAddresses tables l.table).length) ∧
            keys = l.loaded tables writable := by
  simp only [lookupKeys, bind_ok, okOr_ok, mapM_key_ok, Lookup.loaded, tableAddresses]
  cases hf : tables.find? (fun table ↦ table.key = l.table) with
  | none =>
    have hnone : ¬ ∃ table ∈ tables, table.key = l.table := by
      simpa [List.find?_eq_none] using hf
    simp [hnone]
  | some table =>
    have hsome : ∃ table ∈ tables, table.key = l.table :=
      ⟨table, List.mem_of_find?_eq_some hf, by simpa using List.find?_some hf⟩
    simp [hsome]

theorem lookupKeys_of_supplied {l : Lookup} (h : l.Supplied tables) (writable : Bool) :
    lookupKeys tables writable l = .ok (l.loaded tables writable) := by
  refine lookupKeys_ok.mpr ⟨h.1, fun i hi ↦ h.2 i ?_, rfl⟩
  cases writable <;> simp_all

theorem supplied_of_lookupKeys {l : Lookup} {writable readonly : List (Pubkey × Flags)}
    (hw : lookupKeys tables true l = .ok writable) (hr : lookupKeys tables false l = .ok readonly) :
    l.Supplied tables ∧ writable = l.loaded tables true ∧ readonly = l.loaded tables false := by
  obtain ⟨htable, hwi, hw⟩ := lookupKeys_ok.mp hw
  obtain ⟨-, hri, hr⟩ := lookupKeys_ok.mp hr
  exact ⟨⟨htable, fun i hi ↦ (List.mem_append.mp hi).elim (hwi i) (hri i)⟩, hw, hr⟩

theorem mapM_lookupKeys_ok {ls : List Lookup} {writable readonly : List (List (Pubkey × Flags))} :
    (ls.mapM (lookupKeys tables true) = .ok writable ∧
      ls.mapM (lookupKeys tables false) = .ok readonly) ↔
      (∀ l ∈ ls, l.Supplied tables) ∧ writable = ls.map (fun l ↦ l.loaded tables true) ∧
        readonly = ls.map (fun l ↦ l.loaded tables false) := by
  induction ls generalizing writable readonly with
  | nil => simp only [List.mapM_nil, pure_ok]; simp [eq_comm]
  | cons l ls ih =>
    simp only [List.mapM_cons, bind_ok, pure_ok, List.forall_mem_cons, List.map_cons]
    constructor
    · rintro ⟨⟨w, hw, ws, hws, rfl⟩, r, hr, rs, hrs, rfl⟩
      obtain ⟨hl, rfl, rfl⟩ := supplied_of_lookupKeys hw hr
      obtain ⟨hls, rfl, rfl⟩ := ih.mp ⟨hws, hrs⟩
      exact ⟨⟨hl, hls⟩, rfl, rfl⟩
    · rintro ⟨⟨hl, hls⟩, rfl, rfl⟩
      obtain ⟨hws, hrs⟩ := ih.mpr ⟨hls, rfl, rfl⟩
      exact ⟨⟨_, lookupKeys_of_supplied hl true, _, hws, rfl⟩,
        _, lookupKeys_of_supplied hl false, _, hrs, rfl⟩

theorem resolveAccount_ok {index : UInt8} {account : AccountMeta} :
    resolveAccount keys index = .ok account ↔
      keys[index.toNat]? = some (account.pubkey, ⟨account.isSigner, account.isWritable⟩) := by
  simp only [resolveAccount, keyAt, bind_ok, okOr_ok, pure_ok]
  constructor
  · rintro ⟨_, h, rfl⟩
    exact h
  · intro h
    exact ⟨_, h, rfl⟩

theorem resolveInstruction_ok {c : CompiledInstruction} {ix : Instruction} :
    resolveInstruction keys c = .ok ix ↔ c.Resolves keys ix := by
  simp only [resolveInstruction, keyAt, bind_ok, okOr_ok, pure_ok, mapM_ok, resolveAccount_ok]
  constructor
  · rintro ⟨_, hp, accounts, ha, rfl⟩
    exact ⟨by simp [hp], ha, rfl⟩
  · rintro ⟨hp, ha, hd⟩
    obtain ⟨key, hkey, hp⟩ := Option.map_eq_some_iff.mp hp
    exact ⟨key, hkey, _, ha, by rw [hp, ← hd]⟩

structure Resolved (tables : List AddressLookupTableAccount) (t : Transaction)
    (served : ServedMessage) : Prop where
  supplied : ∀ l ∈ t.lookups, l.Supplied tables
  keys : served.keys = t.loadedKeys tables
  distinct : (served.keys.map Prod.fst).Nodup
  instructions : List.Forall₂ (CompiledInstruction.Resolves served.keys) t.instructions
    served.instructions
  signers : served.transaction.signers = t.staticKeys.take t.requiredSigners.toNat
  staticKeys : served.staticKeys = t.staticKeys
  isVersionZero : served.isVersionZero = t.versionZero
  hasLookupTable : served.hasLookupTable = true ↔
    ∃ l ∈ t.lookups, l.writable ≠ [] ∨ l.readonly ≠ []

theorem decodeWith_counts {bytes : List UInt8} {m : CompiledMessage} {p : Passed}
    (h : decodeWith compact bytes = .ok (m, p)) :
    m.requiredSigners < 256 ∧ m.readonlySigned < 256 ∧ m.readonlyUnsigned < 256 := by
  obtain ⟨n, w, s, b, r, -, -, -, -, -, -, rfl⟩ := transaction_ok spells_compact h
  exact ⟨b.header.requiredSigners.toNat_lt, b.header.readonlySigned.toNat_lt,
    b.header.readonlyUnsigned.toNat_lt⟩

theorem staticFlags_transactionOf {bytes : List UInt8} {m : CompiledMessage} {p : Passed}
    (h : decodeWith compact bytes = .ok (m, p)) :
    m.staticFlags = (transactionOf m p).staticFlags := by
  obtain ⟨h₁, h₂, h₃⟩ := decodeWith_counts h
  funext i
  simp only [CompiledMessage.staticFlags, Transaction.staticFlags, transactionOf,
    ShortVec.toNat_ofNat h₁, ShortVec.toNat_ofNat h₂, ShortVec.toNat_ofNat h₃]

theorem ServedMessage.decode_ok {P : Platform} {text : String} {served : ServedMessage} :
    ServedMessage.decode P text tables = .ok served ↔
      ∃ bytes m p, P.base64Decode text = some bytes ∧ decodeWith compact bytes = .ok (m, p) ∧
        Resolved tables (transactionOf m p) served ∧ served.transaction.bytes = bytes ∧
          served.transaction.signaturesStart = m.signaturesStart ∧
            served.transaction.messageStart = m.messageStart ∧
              served.wireLen = bytes.length := by
  constructor
  · intro h
    simp only [ServedMessage.decode, bind_ok, okOr_ok, refuse_ok, pure_ok, exists_const,
      decode_eq_ok, not_not] at h
    obtain ⟨bytes, hb, m, ⟨p, hm⟩, writable, hw, readonly, hr, hdist, ixs, hixs, rfl⟩ := h
    obtain ⟨hsup, rfl, rfl⟩ := mapM_lookupKeys_ok.mp ⟨hw, hr⟩
    have hix := mapM_ok.mp hixs
    simp only [resolveInstruction_ok] at hix
    refine ⟨bytes, m, p, hb, hm, ⟨hsup, ?_, hdist, hix, ?_, rfl, rfl, ?_⟩, rfl, rfl, rfl, rfl⟩
    · simp only [Transaction.loadedKeys, ← staticFlags_transactionOf hm]
      rfl
    · simp only [transactionOf, ShortVec.toNat_ofNat (decodeWith_counts hm).1]
    · simp [transactionOf]
  · rintro ⟨bytes, m, p, hb, hm, hres, h₁, h₂, h₃, h₄⟩
    obtain ⟨keys, ixs, ⟨_, _, _, signers⟩, statics, zero, table, wire⟩ := served
    obtain ⟨hsup, hkeys, hdist, hix, hsig, hstat, hzero, htab⟩ := hres
    simp only at h₁ h₂ h₃ h₄ hkeys hdist hix hsig hstat hzero htab
    subst h₁ h₂ h₃ h₄ hkeys hsig hstat hzero
    obtain ⟨hw, hr⟩ := mapM_lookupKeys_ok.mpr ⟨hsup, rfl, rfl⟩
    simp only [Transaction.loadedKeys, ← staticFlags_transactionOf hm, List.flatMap] at hdist hix
    simp only [ServedMessage.decode, bind_ok, okOr_ok, refuse_ok, pure_ok, exists_const,
      decode_eq_ok, not_not]
    refine ⟨_, hb, m, ⟨p, hm⟩, _, hw, _, hr, hdist, ixs, mapM_ok.mpr ?_, ?_⟩
    · simp only [resolveInstruction_ok]
      exact hix
    · simp only [ServedMessage.mk.injEq, VerifiedTransaction.mk.injEq, true_and, and_true]
      refine ⟨?_, ?_, rfl, rfl, ?_⟩
      · simp only [Transaction.loadedKeys, ← staticFlags_transactionOf hm]
        rfl
      · simp only [transactionOf, ShortVec.toNat_ofNat (decodeWith_counts hm).1]
      · rw [Bool.eq_iff_iff, htab]
        simp [transactionOf]

theorem chunks_flatMap (signatures : List (FixedBytes 64)) :
    chunks signatures.length (signatures.flatMap FixedBytes.toList) = signatures := by
  induction signatures with
  | nil => rfl
  | cons s signatures ih =>
    simp [chunks, s.length_toList, ih]

theorem transactionOf_compiledOf {t : Transaction} (h : t.HeaderValid) :
    transactionOf (compiledOf t) (passedOf t) = t := by
  have hs := chunks_flatMap t.signatures
  rw [h.signatures] at hs
  simp [transactionOf, compiledOf, passedOf, hs]

theorem exists_resolves {c : CompiledInstruction}
    (h : ∀ i ∈ c.program :: c.accounts, i.toNat < keys.length) : ∃ ix, c.Resolves keys ix := by
  have hp := List.getElem?_eq_getElem (h c.program List.mem_cons_self)
  obtain ⟨accounts, ha⟩ := exists_forall₂ (l := c.accounts)
    (R := fun i account ↦ keys[UInt8.toNat i]? =
      some (AccountMeta.pubkey account, ⟨account.isSigner, account.isWritable⟩))
    (fun i hi ↦ ⟨⟨_, _, _⟩, List.getElem?_eq_getElem (h i (List.mem_cons_of_mem _ hi))⟩)
  exact ⟨⟨_, accounts, c.data⟩, by rw [hp]; rfl, ha, rfl⟩

theorem decode_of_wellFormed {P : Platform} {t : Transaction} {text : String}
    (ht : t.WellFormed tables) (htext : P.base64Decode text = some t.encode) :
    ∃ served, ServedMessage.decode P text tables = .ok served ∧ Resolved tables t served ∧
      served.wireLen = t.encode.length := by
  obtain ⟨ixs, hixs⟩ := exists_forall₂
    (fun c hc ↦ exists_resolves (fun i hi ↦ ht.indexes c hc i hi))
  let served : ServedMessage := {
    keys := t.loadedKeys tables
    instructions := ixs
    transaction := ⟨t.encode, (compiledOf t).signaturesStart, (compiledOf t).messageStart,
      t.staticKeys.take t.requiredSigners.toNat⟩
    staticKeys := t.staticKeys
    isVersionZero := t.versionZero
    hasLookupTable := t.lookups.any (fun l ↦ !l.writable.isEmpty || !l.readonly.isEmpty)
    wireLen := t.encode.length }
  have hres : Resolved tables t served :=
    ⟨ht.supplied, rfl, ht.distinct, hixs, rfl, rfl, rfl, by simp [served]⟩
  have hdec := decodeWith_encode (fun n hn ↦ reads_compact hn) ht.encodable ht.header
  refine ⟨served, ServedMessage.decode_ok.mpr ⟨_, _, _, htext, hdec, ?_, rfl, rfl, rfl, rfl⟩,
    hres, rfl⟩
  rwa [transactionOf_compiledOf ht.header]

/-- Decoding a canonical encoding gives the transaction back, its accounts loaded in the
order of the network and its instructions resolved against them. -/
theorem decode_encode {P : Platform} {tables : List AddressLookupTableAccount} {t : Transaction}
    {text : String} (ht : t.WellFormed tables) (htext : P.base64Decode text = some t.encode) :
    ∃ served, ServedMessage.decode P text tables = .ok served ∧
      served.keys = t.loadedKeys tables ∧
        List.Forall₂ (CompiledInstruction.Resolves (t.loadedKeys tables)) t.instructions
          served.instructions := by
  obtain ⟨served, hs, hres, -⟩ := decode_of_wellFormed ht htext
  have hix := hres.instructions
  rw [hres.keys] at hix
  exact ⟨served, hs, hres.keys, hix⟩

def lookupTransaction : Transaction where
  signatures := [.ofList 64 []]
  versionZero := true
  requiredSigners := 1
  readonlySigned := 0
  readonlyUnsigned := 1
  staticKeys := [.ofList 32 [1], .ofList 32 [2]]
  blockhash := .ofList 32 []
  instructions := [⟨1, [0, 2, 3], [7]⟩]
  lookups := [⟨.ofList 32 [3], [0], [1]⟩]

def lookupTransactionTables : List AddressLookupTableAccount :=
  [⟨.ofList 32 [3], [.ofList 32 [4], .ofList 32 [5]]⟩]

def lookupTransactionText : String :=
  "AQAAAAAAAAAAAAAAAAAAAAAAAAAAAAAAAAAAAAAAAAAAAAAAAAAAAAAAAAAAAAAAAAAAAAAAAAAAAAAAAAAAAACA" ++
    "AQABAgEAAAAAAAAAAAAAAAAAAAAAAAAAAAAAAAAAAAAAAAAAAgAAAAAAAAAAAAAAAAAAAAAAAAAAAAAAAAAAAAAA" ++
      "AAAAAAAAAAAAAAAAAAAAAAAAAAAAAAAAAAAAAAAAAAAAAAEBAwACAwEHAQMAAAAAAAAAAAAAAAAAAAAAAAAAAAAA" ++
        "AAAAAAAAAAAAAQABAQ=="

def lookupTransactionPlatform : Platform where
  findProgramAddress _ key := (key, 255)
  sha256 := .ofList 32
  verifyingKey _ := .ok ()
  verify _ _ _ := true
  base64Decode text := if text = lookupTransactionText then some lookupTransaction.encode else none

theorem decode_encode_lookup : ∃ served,
    ServedMessage.decode lookupTransactionPlatform lookupTransactionText lookupTransactionTables =
      .ok served ∧
      served.keys = [(.ofList 32 [1], ⟨true, true⟩), (.ofList 32 [2], ⟨false, false⟩),
        (.ofList 32 [4], ⟨false, true⟩), (.ofList 32 [5], ⟨false, false⟩)] := by
  have hsup : ∀ l ∈ lookupTransaction.lookups, l.Supplied lookupTransactionTables := by
    intro l hl
    obtain rfl := List.mem_singleton.mp hl
    exact ⟨⟨_, List.mem_singleton_self _, rfl⟩, by decide +kernel⟩
  have ht : lookupTransaction.WellFormed lookupTransactionTables :=
    ⟨⟨by decide, by decide, by decide, by decide, by decide, by decide⟩,
      ⟨by decide, by decide, by decide, by decide⟩, hsup, by decide +kernel,
      by decide +kernel⟩
  have htext : lookupTransactionPlatform.base64Decode lookupTransactionText =
      some lookupTransaction.encode := by simp only [lookupTransactionPlatform, ↓reduceIte]
  obtain ⟨served, hs, hkeys, -⟩ := decode_encode ht htext
  exact ⟨served, hs, hkeys.trans (by decide)⟩

end MakerSdk.Served
