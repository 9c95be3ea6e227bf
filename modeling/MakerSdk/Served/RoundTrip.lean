import MakerSdk.Served.Decode

namespace MakerSdk.Served

open Base Base.Bytes Base.ByteReader Base.Checks Solana Vault

theorem compactFrom_eq (value : ℕ) (shifts : List ℕ) :
    compactFrom value shifts =
      ShortVec.readGroups truncated tooLong (fun _ _ _ ↦ false) value shifts := by
  induction shifts generalizing value with
  | nil => rfl
  | cons shift shifts ih =>
    simp only [compactFrom, ShortVec.readGroups, ih, Bool.false_eq_true, ↓reduceIte]
    rfl

theorem reads_compact {n : ℕ} (hn : n ≤ 65535) : Reads compact (ShortVec.encode n) n := by
  rw [compact, compactFrom_eq]
  exact ShortVec.reads_encode truncated tooLong hn (fun _ _ _ _ _ ↦ rfl)

theorem reads_key (k : Pubkey) : Reads key k.toList k := by
  have h := (reads_take truncated k.length_toList).map (FixedBytes.ofList 32)
  rwa [FixedBytes.ofList_toList] at h

theorem versioned_zero (pre s : List UInt8) :
    versioned (.between pre (0x80 :: s)) = .ok (true, .between (pre ++ [0x80]) s) := by
  rw [versioned, bind_of_ok (peek_between pre _)]
  have h : Reads (do
      let b ← byte
      let version := b &&& 0x7f
      if version ≠ 0 then throw (.unsupportedVersion version) else pure true) [0x80] true :=
    (reads_byte truncated 0x80).bind (reads_pure true)
  exact h pre s

theorem versioned_legacy (pre s : List UInt8) {b : UInt8} (hb : b.toNat < 128) :
    versioned (.between pre (b :: s)) = .ok (false, .between pre (b :: s)) := by
  rw [versioned, bind_of_ok (peek_between pre _)]
  simp [(ShortVec.high_bit b).mpr hb]

def Header.encode (h : Header) : List UInt8 :=
  (if h.versioned then [0x80] else []) ++
    [h.requiredSigners, h.readonlySigned, h.readonlyUnsigned]

theorem reads_header (h : Header) (hl : h.versioned = false → h.requiredSigners.toNat < 128) :
    Reads header h.encode h := by
  have hc : Reads (do
      let requiredSigners ← byte
      let readonlySigned ← byte
      let readonlyUnsigned ← byte
      pure (⟨h.versioned, requiredSigners, readonlySigned, readonlyUnsigned⟩ : Header))
      [h.requiredSigners, h.readonlySigned, h.readonlyUnsigned] h :=
    (reads_byte truncated _).bind ((reads_byte truncated _).bind ((reads_byte truncated _).map _))
  intro pre s
  cases hv : h.versioned with
  | false =>
    rw [hv] at hc
    simp only [header, Header.encode, hv, Bool.false_eq_true, ↓reduceIte, List.nil_append,
      List.cons_append]
    rw [bind_of_ok (versioned_legacy pre _ (hl hv))]
    exact hc pre s
  | true =>
    rw [hv] at hc
    simp only [header, Header.encode, hv, ↓reduceIte, List.cons_append, List.nil_append]
    rw [bind_of_ok (versioned_zero pre _)]
    have hs := hc (pre ++ [0x80]) s
    rw [List.append_assoc pre] at hs
    exact hs

section Canonical

variable {len : Read VaultIntentError ℕ}

theorem reads_vec (hlen : ∀ n ≤ 65535, Reads len (ShortVec.encode n) n) {v : List UInt8}
    (hv : v.length ≤ 65535) : Reads (vec len) (encodeVec v) v :=
  (hlen _ hv).bind (reads_take truncated rfl)

theorem reads_compiledInstruction (hlen : ∀ n ≤ 65535, Reads len (ShortVec.encode n) n)
    {ix : CompiledInstruction} (h : ix.accounts.length ≤ 65535 ∧ ix.data.length ≤ 65535) :
    Reads (compiledInstruction len) ix.encode ix :=
  (reads_byte truncated ix.program).bind
    ((reads_vec hlen h.1).bind ((reads_vec hlen h.2).map _))

theorem reads_lookup (hlen : ∀ n ≤ 65535, Reads len (ShortVec.encode n) n)
    {l : Lookup} (h : l.writable.length ≤ 65535 ∧ l.readonly.length ≤ 65535) :
    Reads (lookup len) l.encode l :=
  (reads_key l.table).bind ((reads_vec hlen h.1).bind ((reads_vec hlen h.2).map _))

theorem reads_lookups (hlen : ∀ n ≤ 65535, Reads len (ShortVec.encode n) n) {t : Transaction}
    (he : t.Encodable) (hh : t.HeaderValid) :
    Reads (lookups len t.versionZero) t.encodeLookups t.lookups := by
  cases hv : t.versionZero with
  | false =>
    rw [(hh.legacy hv).1, Transaction.encodeLookups, hv]
    exact reads_pure []
  | true =>
    rw [Transaction.encodeLookups, hv]
    exact (hlen _ he.lookups).bind
      (reads_many t.lookups (fun l hl ↦ reads_lookup hlen (he.lookup l hl)))

def headerOf (t : Transaction) : Header :=
  ⟨t.versionZero, t.requiredSigners, t.readonlySigned, t.readonlyUnsigned⟩

theorem not_invalidHeader {t : Transaction} (h : t.HeaderValid) :
    ¬ invalidHeader t.signatures.length (headerOf t) t.staticKeys.length := by
  have h₁ := h.signatures
  have h₂ := h.payer
  have h₃ := h.keys
  simp only [invalidHeader, headerOf]
  omega

theorem reads_body (hlen : ∀ n ≤ 65535, Reads len (ShortVec.encode n) n) {t : Transaction}
    (he : t.Encodable) (hh : t.HeaderValid) :
    Reads (body len t.signatures.length) t.encodeMessage
      ⟨headerOf t, t.staticKeys, t.blockhash.toList, t.instructions, t.lookups⟩ := by
  refine (reads_header (headerOf t) (fun hv ↦ (hh.legacy hv).2)).bind ?_
  refine (hlen _ he.staticKeys).bind ?_
  refine (reads_many t.staticKeys (fun k _ ↦ reads_key k)).bind ?_
  rw [if_neg (not_invalidHeader hh)]
  refine (reads_take truncated t.blockhash.length_toList).bind ?_
  refine (hlen _ he.instructions).bind ?_
  refine (reads_many t.instructions
    (fun ix hix ↦ reads_compiledInstruction hlen (he.instruction ix hix))).bind ?_
  exact (reads_lookups hlen he hh).map _

def compiledOf (t : Transaction) : CompiledMessage where
  signaturesStart := (ShortVec.encode t.signatures.length).length
  messageStart := (ShortVec.encode t.signatures.length).length + t.signatures.length * 64
  requiredSigners := t.requiredSigners.toNat
  readonlySigned := t.readonlySigned.toNat
  readonlyUnsigned := t.readonlyUnsigned.toNat
  staticKeys := t.staticKeys
  instructions := t.instructions
  lookups := t.lookups
  isVersionZero := t.versionZero

def passedOf (t : Transaction) : Passed :=
  ⟨t.signatures.flatMap FixedBytes.toList, t.blockhash.toList⟩

theorem position_between {ε : Type} (pre s : List UInt8) :
    (position : Read ε ℕ) (.between pre s) = .ok (pre.length, .between pre s) := rfl

theorem finished_between (pre s : List UInt8) :
    finished (.between pre s) = .ok (s.isEmpty, .between pre s) := by
  cases s <;> simp [finished, Reader.between]

theorem length_flatMap_toList {n : ℕ} (l : List (FixedBytes n)) :
    (l.flatMap FixedBytes.toList).length = l.length * n := by
  simp [List.length_flatMap, FixedBytes.length_toList]

theorem decodeWith_encode (hlen : ∀ n ≤ 65535, Reads len (ShortVec.encode n) n)
    {t : Transaction} (he : t.Encodable) (hh : t.HeaderValid) :
    decodeWith len t.encode = .ok (compiledOf t, passedOf t) := by
  have hsig := length_flatMap_toList t.signatures
  have h₁ := hlen _ he.signatures [] (t.signatures.flatMap FixedBytes.toList ++ t.encodeMessage)
  have h₂ := reads_take truncated hsig (ShortVec.encode t.signatures.length) t.encodeMessage
  have h₃ := reads_body hlen he hh
    (ShortVec.encode t.signatures.length ++ t.signatures.flatMap FixedBytes.toList) []
  rw [List.append_nil] at h₃
  have h : transaction len (.between [] t.encode) =
      .ok ((compiledOf t, passedOf t), .between (t.encode ++ []) []) := by
    rw [transaction, Transaction.encode, bind_of_ok h₁, bind_of_ok (position_between _ _),
      List.nil_append, bind_of_ok h₂, bind_of_ok (position_between _ _), bind_of_ok h₃,
      bind_of_ok (finished_between _ _)]
    simp [compiledOf, passedOf, headerOf, hsig]
  rw [decodeWith, show (⟨t.encode, 0⟩ : Reader) = .between [] t.encode from rfl, h]
  rfl

end Canonical

section Strict

variable {len : Read VaultIntentError ℕ}

theorem spells_key : Spells key (fun k w ↦ True ∧ w = FixedBytes.toList k) := by
  refine ((spells_take truncated 32).map (FixedBytes.ofList 32)).mono ?_
  rintro _ w ⟨_, rfl, rfl, hw⟩
  exact ⟨trivial, (FixedBytes.toList_ofList hw).symm⟩

theorem spells_vec (hlen : Spells len (fun n w ↦ n ≤ 65535 ∧ w = ShortVec.encode n)) :
    Spells (vec len) (fun v w ↦ v.length ≤ 65535 ∧ w = encodeVec v) := by
  refine hlen.bind (fun n ↦ spells_take truncated n) ?_
  rintro n v _ _ ⟨hn, rfl⟩ ⟨rfl, rfl⟩
  exact ⟨hn, rfl⟩

theorem spells_compiledInstruction
    (hlen : Spells len (fun n w ↦ n ≤ 65535 ∧ w = ShortVec.encode n)) :
    Spells (compiledInstruction len) (fun ix w ↦
      (ix.accounts.length ≤ 65535 ∧ ix.data.length ≤ 65535) ∧ w = ix.encode) := by
  intro pre s ix r h
  obtain ⟨program, _, _, rfl, rfl, h⟩ := (spells_byte truncated).peel h
  obtain ⟨accounts, _, _, rfl, ⟨ha, rfl⟩, h⟩ := (spells_vec hlen).peel h
  obtain ⟨data, _, t, rfl, ⟨hd, rfl⟩, h⟩ := (spells_vec hlen).peel h
  cases h
  exact ⟨_, t, by simp [CompiledInstruction.encode], by simp [CompiledInstruction.encode],
    ⟨ha, hd⟩, rfl⟩

theorem spells_lookup (hlen : Spells len (fun n w ↦ n ≤ 65535 ∧ w = ShortVec.encode n)) :
    Spells (lookup len) (fun l w ↦
      (l.writable.length ≤ 65535 ∧ l.readonly.length ≤ 65535) ∧ w = l.encode) := by
  intro pre s l r h
  obtain ⟨table, _, _, rfl, ⟨-, rfl⟩, h⟩ := spells_key.peel h
  obtain ⟨writable, _, _, rfl, ⟨hw, rfl⟩, h⟩ := (spells_vec hlen).peel h
  obtain ⟨readonly, _, t, rfl, ⟨hr, rfl⟩, h⟩ := (spells_vec hlen).peel h
  cases h
  exact ⟨_, t, by simp [Lookup.encode], by simp [Lookup.encode], ⟨hw, hr⟩, rfl⟩

theorem spells_versioned {pre s : List UInt8} {v : Bool} {r : Reader}
    (h : versioned (.between pre s) = .ok (v, r)) :
    (v = true ∧ ∃ t, s = 0x80 :: t ∧ r = .between (pre ++ [0x80]) t) ∨
      (v = false ∧ r = .between pre s ∧ ∀ b ∈ s.head?, b.toNat < 128) := by
  rw [versioned, bind_of_ok (peek_between pre s)] at h
  split at h
  · rename_i hb
    obtain ⟨b, w, t, rfl, rfl, h⟩ := (spells_byte truncated).peel h
    have hhigh : ¬ b.toNat < 128 := by simpa [ShortVec.high_bit] using hb
    simp only [ne_eq, ite_not] at h
    split at h
    · rename_i hlow
      have hb' : b = 0x80 := by
        have hlow' := congrArg UInt8.toNat hlow
        rw [ShortVec.low_bits, UInt8.toNat_zero] at hlow'
        have hlt := b.toNat_lt
        rw [← UInt8.toNat_inj]
        change b.toNat = 128
        omega
      cases h
      exact .inl ⟨rfl, t, by rw [hb']; rfl, by rw [hb']⟩
    · simp at h
  · rename_i hb
    cases h
    refine .inr ⟨rfl, rfl, fun b hb' ↦ ?_⟩
    have hhead : s.head? = some b := hb'
    simpa [hhead, ShortVec.high_bit] using hb

theorem spells_header : Spells header (fun h w ↦
    (h.versioned = false → h.requiredSigners.toNat < 128) ∧ w = h.encode) := by
  intro pre s h r hr
  obtain ⟨v, r', hv, hr⟩ := bind_ok hr
  rcases spells_versioned hv with ⟨rfl, t, rfl, rfl⟩ | ⟨rfl, rfl, hlow⟩
  all_goals
    obtain ⟨q, _, _, rfl, rfl, hr⟩ := (spells_byte truncated).peel hr
    obtain ⟨n, _, _, rfl, rfl, hr⟩ := (spells_byte truncated).peel hr
    obtain ⟨u, _, t, rfl, rfl, hr⟩ := (spells_byte truncated).peel hr
    cases hr
  · exact ⟨_, t, by simp [Header.encode], by simp [Header.encode], by simp, rfl⟩
  · exact ⟨_, t, by simp [Header.encode], by simp [Header.encode], fun _ ↦ hlow q rfl, rfl⟩

theorem spells_lookups (hlen : Spells len (fun n w ↦ n ≤ 65535 ∧ w = ShortVec.encode n))
    (v : Bool) : Spells (lookups len v) (fun ls w ↦ ls.length ≤ 65535 ∧
      (∀ l ∈ ls, l.writable.length ≤ 65535 ∧ l.readonly.length ≤ 65535) ∧
        (v = false → ls = []) ∧
          w = if v then ShortVec.encode ls.length ++ ls.flatMap Lookup.encode else []) := by
  cases v with
  | false => exact spells_pure [] ⟨by simp, by simp, fun _ ↦ rfl, rfl⟩
  | true =>
    refine hlen.bind (fun n ↦ spells_many (spells_lookup hlen) n) ?_
    rintro n ls _ _ ⟨hn, rfl⟩ ⟨rfl, hls, rfl⟩
    exact ⟨hn, hls, by simp, rfl⟩

def Body.transaction (b : Body) (signatures : List (FixedBytes 64)) : Transaction where
  signatures := signatures
  versionZero := b.header.versioned
  requiredSigners := b.header.requiredSigners
  readonlySigned := b.header.readonlySigned
  readonlyUnsigned := b.header.readonlyUnsigned
  staticKeys := b.staticKeys
  blockhash := .ofList 32 b.blockhash
  instructions := b.instructions
  lookups := b.lookups

theorem spells_body (hlen : Spells len (fun n w ↦ n ≤ 65535 ∧ w = ShortVec.encode n))
    (signatures : List (FixedBytes 64)) (hsig : signatures.length ≤ 65535) :
    Spells (body len signatures.length) (fun b w ↦ (b.transaction signatures).Encodable ∧
      (b.transaction signatures).HeaderValid ∧ b.blockhash.length = 32 ∧
        w = (b.transaction signatures).encodeMessage) := by
  intro pre s b r h
  obtain ⟨hd, _, _, rfl, ⟨hleg, rfl⟩, h⟩ := spells_header.peel h
  obtain ⟨keyCount, _, _, rfl, ⟨hkc, rfl⟩, h⟩ := hlen.peel h
  obtain ⟨keys, _, _, rfl, ⟨rfl, -, rfl⟩, h⟩ := (spells_many spells_key keyCount).peel h
  split at h
  · simp at h
  rename_i hvalid
  obtain ⟨blockhash, _, _, rfl, ⟨rfl, hbh⟩, h⟩ := (spells_take truncated 32).peel h
  obtain ⟨count, _, _, rfl, ⟨hc, rfl⟩, h⟩ := hlen.peel h
  obtain ⟨ixs, _, _, rfl, ⟨rfl, hixs, rfl⟩, h⟩ :=
    (spells_many (spells_compiledInstruction hlen) count).peel h
  obtain ⟨ls, w, t, rfl, ⟨hls, hl, hempty, hw⟩, h⟩ := (spells_lookups hlen hd.versioned).peel h
  cases h
  have henc : (Body.transaction ⟨hd, keys, blockhash, ixs, ls⟩ signatures).encodeMessage =
      hd.encode ++ (ShortVec.encode keys.length ++ (keys.flatMap FixedBytes.toList ++
        (blockhash ++ (ShortVec.encode ixs.length ++
          (ixs.flatMap CompiledInstruction.encode ++ w))))) := by
    simp only [Transaction.encodeMessage, Body.transaction, FixedBytes.toList_ofList hbh, hw]
    rfl
  simp only [invalidHeader] at hvalid
  refine ⟨_, t, ?_, ?_, ⟨hsig, hkc, hc, hls, hixs, hl⟩,
    ⟨by simp only [Body.transaction]; omega, by simp only [Body.transaction]; omega,
      by simp only [Body.transaction]; omega, fun hv ↦ ⟨hempty hv, hleg hv⟩⟩, hbh, rfl⟩
  all_goals simp only [henc, List.append_assoc]

theorem transaction_ok {L : ℕ → List UInt8 → Prop} (hlen : Spells len L) {bytes : List UInt8}
    {m : CompiledMessage} {p : Passed} (h : decodeWith len bytes = .ok (m, p)) :
    ∃ n w s b r, L n w ∧ p.signatures.length = n * 64 ∧ bytes = w ++ (p.signatures ++ s) ∧
      body len n (.between (w ++ p.signatures) s) = .ok (b, r) ∧ r.pos = r.bytes.length ∧
        p.blockhash = b.blockhash ∧
          m = ⟨w.length, w.length + n * 64, b.header.requiredSigners.toNat,
            b.header.readonlySigned.toNat, b.header.readonlyUnsigned.toNat, b.staticKeys,
            b.instructions, b.lookups, b.header.versioned⟩ := by
  obtain ⟨r, h⟩ : ∃ r, transaction len (.between [] bytes) = .ok ((m, p), r) := by
    change (transaction len (.between [] bytes)).map Prod.fst = _ at h
    cases ht : transaction len (.between [] bytes) with
    | error e => simp [ht, Except.map] at h
    | ok z => exact ⟨z.2, by simpa [ht, Except.map, Prod.ext_iff] using h⟩
  obtain ⟨n, w, _, rfl, hw, h⟩ := hlen.peel h
  rw [bind_of_ok (position_between _ _)] at h
  obtain ⟨sig, _, s, rfl, ⟨rfl, hsig⟩, h⟩ := (spells_take truncated (n * 64)).peel h
  rw [bind_of_ok (position_between _ _)] at h
  obtain ⟨b, r', hb, h⟩ := bind_ok h
  rw [bind_of_ok (rfl : finished r' = .ok (r'.pos == r'.bytes.length, r'))] at h
  split at h
  · rename_i hfin
    simp only [pure_apply, Except.ok.injEq, Prod.mk.injEq] at h
    obtain ⟨⟨rfl, rfl⟩, -⟩ := h
    exact ⟨n, w, s, b, r', hw, hsig, rfl, hb, by simpa using hfin, rfl, by simp [hsig]⟩
  · simp at h

end Strict

def chunks : ℕ → List UInt8 → List (FixedBytes 64)
  | 0, _ => []
  | n + 1, l => .ofList 64 (l.take 64) :: chunks n (l.drop 64)

@[simp] theorem length_chunks (n : ℕ) (l : List UInt8) : (chunks n l).length = n := by
  induction n generalizing l with
  | zero => rfl
  | succ n ih => simp [chunks, ih]

theorem flatMap_chunks {n : ℕ} {l : List UInt8} (h : l.length = n * 64) :
    (chunks n l).flatMap FixedBytes.toList = l := by
  induction n generalizing l with
  | zero => simp_all [chunks]
  | succ n ih =>
    have htake : (l.take 64).length = 64 := by simp only [List.length_take]; omega
    have hdrop : (l.drop 64).length = n * 64 := by simp only [List.length_drop]; omega
    rw [chunks, List.flatMap_cons, FixedBytes.toList_ofList htake, ih hdrop,
      List.take_append_drop]

def transactionOf (m : CompiledMessage) (p : Passed) : Transaction where
  signatures := chunks m.requiredSigners p.signatures
  versionZero := m.isVersionZero
  requiredSigners := .ofNat m.requiredSigners
  readonlySigned := .ofNat m.readonlySigned
  readonlyUnsigned := .ofNat m.readonlyUnsigned
  staticKeys := m.staticKeys
  blockhash := .ofList 32 p.blockhash
  instructions := m.instructions
  lookups := m.lookups

theorem canonicalDecode_ok {bytes : List UInt8} {m : CompiledMessage} {p : Passed}
    (h : canonicalDecode bytes = .ok (m, p)) :
    (transactionOf m p).Encodable ∧ (transactionOf m p).HeaderValid ∧
      (transactionOf m p).encode = bytes ∧
        (compiledOf (transactionOf m p), passedOf (transactionOf m p)) = (m, p) := by
  have hlen := ShortVec.spells_read truncated tooLong
  obtain ⟨n, w, s, b, r, ⟨hn, rfl⟩, hsig, rfl, hb, hr, hbh, rfl⟩ := transaction_ok hlen h
  obtain ⟨v, t, rfl, rfl, he, hh, hbl, rfl⟩ := by
    have hs := spells_body hlen (chunks n p.signatures) (by rwa [length_chunks])
    rw [length_chunks] at hs
    exact hs _ _ _ _ hb
  have hn' : n = b.header.requiredSigners.toNat :=
    (length_chunks n p.signatures).symm.trans hh.signatures
  have ht : t = [] := by
    simp only [Reader.between, List.length_append] at hr
    exact List.eq_nil_of_length_eq_zero (by omega)
  obtain ⟨sig, bh⟩ := p
  simp only at hbh hsig
  subst hbh ht
  have heq : transactionOf ⟨(ShortVec.encode n).length, (ShortVec.encode n).length + n * 64,
      b.header.requiredSigners.toNat, b.header.readonlySigned.toNat,
      b.header.readonlyUnsigned.toNat, b.staticKeys, b.instructions, b.lookups,
      b.header.versioned⟩ ⟨sig, b.blockhash⟩ = b.transaction (chunks n sig) := by
    simp [transactionOf, Body.transaction, hn']
  rw [heq]
  refine ⟨he, hh, ?_, ?_⟩
  · simp [Transaction.encode, Body.transaction, flatMap_chunks hsig]
  · simp [compiledOf, passedOf, Body.transaction, flatMap_chunks hsig,
      FixedBytes.toList_ofList hbl]

theorem spells_compact : Spells compact (fun _ _ ↦ True) := by
  suffices h : ∀ shifts value, Spells (compactFrom value shifts) (fun _ _ ↦ True) from h _ 0
  intro shifts
  induction shifts with
  | nil => exact fun _ ↦ spells_error tooLong _
  | cons shift shifts ih =>
    intro value
    refine (spells_byte truncated).bind (T := fun _ _ _ ↦ True) (fun b ↦ ?_)
      (fun _ _ _ _ _ _ ↦ trivial)
    dsimp only
    split
    · exact spells_pure _ trivial
    · exact ih _

theorem body_header {len : Read VaultIntentError ℕ} (hlen : Spells len (fun _ _ ↦ True)) {n : ℕ}
    {pre s : List UInt8} {b : Body} {r : Reader}
    (h : body len n (.between pre s) = .ok (b, r)) :
    ¬ invalidHeader n b.header b.staticKeys.length ∧
      (b.header.versioned = false → b.lookups = [] ∧ b.header.requiredSigners.toNat < 128) := by
  obtain ⟨hd, _, _, rfl, ⟨hleg, -⟩, h⟩ := spells_header.peel h
  obtain ⟨keyCount, _, _, rfl, -, h⟩ := hlen.peel h
  obtain ⟨keys, _, _, rfl, ⟨-, -⟩, h⟩ := (spells_many spells_key keyCount).peel h
  split at h
  · simp at h
  rename_i hvalid
  obtain ⟨blockhash, _, -, h⟩ := bind_ok h
  obtain ⟨count, _, -, h⟩ := bind_ok h
  obtain ⟨ixs, _, -, h⟩ := bind_ok h
  obtain ⟨ls, r', hls, h⟩ := bind_ok h
  cases h
  refine ⟨hvalid, fun hv ↦ ⟨?_, hleg hv⟩⟩
  have hv' : hd.versioned = false := hv
  rw [hv'] at hls
  cases hls
  rfl

theorem decodeWith_headerValid {bytes : List UInt8} {m : CompiledMessage} {p : Passed}
    (h : decodeWith compact bytes = .ok (m, p)) : (transactionOf m p).HeaderValid := by
  obtain ⟨n, w, s, b, r, -, hsig, rfl, hb, -, -, rfl⟩ := transaction_ok spells_compact h
  obtain ⟨hvalid, hleg⟩ := body_header spells_compact hb
  simp only [invalidHeader] at hvalid
  refine ⟨?_, ?_, ?_, fun hv ↦ ?_⟩
  · simp [transactionOf]
  · simp only [transactionOf, UInt8.ofNat_toNat]
    omega
  · simp only [transactionOf, UInt8.ofNat_toNat]
    omega
  · simpa [transactionOf] using hleg hv

theorem decode_eq_ok {bytes : List UInt8} {m : CompiledMessage} :
    CompiledMessage.decode bytes = .ok m ↔ ∃ p, decodeWith compact bytes = .ok (m, p) := by
  rw [CompiledMessage.decode]
  cases decodeWith compact bytes with
  | error e => simp [Except.map]
  | ok z => simp [Except.map, Prod.ext_iff]

/-- An accepted string is the canonical encoding of what it decodes to exactly when the
network's decoder accepts it, and strings of this kind decode to different transactions. -/
theorem decode_reencodes_iff {bytes : List UInt8} {m : CompiledMessage}
    (h : CompiledMessage.decode bytes = .ok m) :
    ∃ p, decodeWith compact bytes = .ok (m, p) ∧
      ((transactionOf m p).Encodable ∧ (transactionOf m p).encode = bytes ↔
        ∃ q, canonicalDecode bytes = .ok q) ∧
      ∀ bytes' m' p', decodeWith compact bytes' = .ok (m', p') →
        (∃ q, canonicalDecode bytes = .ok q) → (∃ q, canonicalDecode bytes' = .ok q) →
          transactionOf m p = transactionOf m' p' → bytes = bytes' := by
  have hcan : ∀ {bytes m p}, decodeWith compact bytes = .ok (m, p) →
      (∃ q, canonicalDecode bytes = .ok q) →
        (transactionOf m p).Encodable ∧ (transactionOf m p).encode = bytes := by
    rintro bytes m p hp ⟨⟨m', p'⟩, hq⟩
    obtain ⟨he, hh, henc, heq⟩ := canonicalDecode_ok hq
    have hp' := decodeWith_encode (fun n hn ↦ reads_compact hn) he hh
    rw [henc, heq, hp] at hp'
    cases hp'
    exact ⟨he, henc⟩
  obtain ⟨p, hp⟩ := decode_eq_ok.mp h
  refine ⟨p, hp, ⟨?_, hcan hp⟩, fun bytes' m' p' hp' hq hq' heq ↦ ?_⟩
  · rintro ⟨he, henc⟩
    have hs := decodeWith_encode (fun n hn ↦ ShortVec.reads_read truncated tooLong hn) he
      (decodeWith_headerValid hp)
    rw [henc] at hs
    exact ⟨_, hs⟩
  · rw [← (hcan hp hq).2, ← (hcan hp' hq').2, heq]

/-- The data of the first instruction takes a length prefix of two bytes. -/
def loadingTransaction : Transaction where
  signatures := [.ofList 64 [], .ofList 64 []]
  versionZero := true
  requiredSigners := 2
  readonlySigned := 1
  readonlyUnsigned := 2
  staticKeys := [keyOfNat 1, keyOfNat 2, systemProgramId, tokenProgramId]
  blockhash := keyOfNat 3
  instructions := [⟨3, [], List.replicate 144 7⟩,
    ⟨2, [0, 4], [2, 0, 0, 0, 232, 3, 0, 0, 0, 0, 0, 0]⟩]
  lookups := [⟨keyOfNat 4, [9], [0, 130]⟩]

theorem decode_reencodes_iff_loading :
    (∃ q, canonicalDecode loadingTransaction.encode = .ok q) ∧
      ∃ m p, decodeWith compact loadingTransaction.encode = .ok (m, p) ∧
        (transactionOf m p).encode = loadingTransaction.encode := by
  have hq : canonicalDecode loadingTransaction.encode =
      .ok (compiledOf loadingTransaction, passedOf loadingTransaction) := by decide +kernel
  have hm : CompiledMessage.decode loadingTransaction.encode =
      .ok (compiledOf loadingTransaction) := by decide +kernel
  obtain ⟨p, hp, hiff, -⟩ := decode_reencodes_iff hm
  exact ⟨⟨_, hq⟩, _, p, hp, (hiff.mpr ⟨_, hq⟩).2⟩

def minimalTransaction : Transaction where
  signatures := [.ofList 64 []]
  versionZero := false
  requiredSigners := 1
  readonlySigned := 0
  readonlyUnsigned := 0
  staticKeys := [.ofList 32 []]
  blockhash := .ofList 32 []
  instructions := []
  lookups := []

/-- The minimal transaction with its signature count padded to two bytes. -/
def paddedTransaction : List UInt8 := [0x81, 0] ++ minimalTransaction.encode.tail

theorem decode_padded_count :
    ∃ m p m' p', CompiledMessage.decode paddedTransaction = .ok m ∧
      decodeWith compact paddedTransaction = .ok (m, p) ∧
      decodeWith compact minimalTransaction.encode = .ok (m', p') ∧
      paddedTransaction ≠ minimalTransaction.encode ∧
      transactionOf m p = transactionOf m' p' ∧
      (transactionOf m p).encode ≠ paddedTransaction ∧
      canonicalDecode paddedTransaction = .error tooLong :=
  ⟨{ compiledOf minimalTransaction with signaturesStart := 2, messageStart := 66 },
    passedOf minimalTransaction, compiledOf minimalTransaction, passedOf minimalTransaction,
    by decide +kernel⟩

end MakerSdk.Served
