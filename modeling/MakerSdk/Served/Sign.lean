import MakerSdk.Base.Splice
import MakerSdk.Orders.Preimage
import MakerSdk.Served.Message

namespace MakerSdk.Served

open Base Base.Bytes Base.ByteReader Base.Checks Solana Orders Vault

namespace VerifiedTransaction

variable (t : VerifiedTransaction) (signer : SignerLike)

def slot (index : ℕ) : ℕ := t.signaturesStart + index * 64

def signAt (index : ℕ) : VerifiedTransaction :=
  let signature := signer.signMessage (t.bytes.drop t.messageStart)
  { t with bytes := writeAt t.bytes (t.slot index) signature.toList }

def signWithParticipantSignature (E : Encodings) : Except VaultIntentError (String × String) := do
  let key := signer.pubkeyBytes
  let index ← okOr (t.signers.idxOf? key) (.signerNotRequired key)
  let signature := signer.signMessage (t.bytes.drop t.messageStart)
  pure (E.base64Encode (t.signAt signer index).bytes, E.base58Encode signature.toList)

def sign (E : Encodings) : Except VaultIntentError String :=
  (t.signWithParticipantSignature signer E).map Prod.fst

end VerifiedTransaction

section Exact

theorem exact_compactFrom (value : ℕ) (shifts : List ℕ) : Exact (compactFrom value shifts) := by
  induction shifts generalizing value with
  | nil => exact exact_throw tooLong
  | cons shift shifts ih =>
    refine (exact_byte truncated).bind (fun b ↦ ?_)
    dsimp only
    split
    · exact exact_pure _
    · exact ih _

theorem exact_compact : Exact compact := exact_compactFrom 0 [0, 7, 14]

theorem exact_key : Exact key := (exact_take truncated 32).bind (fun _ ↦ exact_pure _)

/-- The version is looked at before it is read, so the header is exact only as a whole. -/
theorem exact_header : Exact header := by
  refine spells_header.mono ?_
  rintro h w ⟨hlegacy, rfl⟩
  exact reads_header h hlegacy

variable {len : Read VaultIntentError ℕ}

theorem exact_vec (hlen : Exact len) : Exact (vec len) :=
  hlen.bind (fun n ↦ exact_take truncated n)

theorem exact_compiledInstruction (hlen : Exact len) : Exact (compiledInstruction len) :=
  (exact_byte truncated).bind (fun _ ↦ (exact_vec hlen).bind
    (fun _ ↦ (exact_vec hlen).bind (fun _ ↦ exact_pure _)))

theorem exact_lookup (hlen : Exact len) : Exact (lookup len) :=
  exact_key.bind (fun _ ↦ (exact_vec hlen).bind
    (fun _ ↦ (exact_vec hlen).bind (fun _ ↦ exact_pure _)))

theorem exact_lookups (hlen : Exact len) (isVersioned : Bool) :
    Exact (lookups len isVersioned) := by
  cases isVersioned with
  | false => exact exact_pure []
  | true => exact hlen.bind (fun n ↦ exact_many (exact_lookup hlen) n)

theorem exact_body (hlen : Exact len) (signatures : ℕ) : Exact (body len signatures) := by
  refine exact_header.bind (fun h ↦ hlen.bind (fun n ↦ (exact_many exact_key n).bind ?_))
  intro keys
  split
  · exact exact_throw _
  · refine (exact_take truncated 32).bind (fun _ ↦ hlen.bind (fun count ↦ ?_))
    exact (exact_many (exact_compiledInstruction hlen) count).bind
      (fun _ ↦ (exact_lookups hlen h.versioned).bind (fun _ ↦ exact_pure _))

end Exact

structure Parts (bytes : List UInt8) (m : CompiledMessage) (p : Passed)
    (count message : List UInt8) : Prop where
  bytes : bytes = count ++ (p.signatures ++ message)
  start : m.signaturesStart = count.length
  signatures : p.signatures.length = m.requiredSigners * 64
  message : m.messageStart = count.length + m.requiredSigners * 64

variable {m : CompiledMessage}

theorem decodeWith_resign {bytes : List UInt8} {p : Passed}
    (h : decodeWith compact bytes = .ok (m, p)) :
    ∃ count message, Parts bytes m p count message ∧
      ∀ signatures : List UInt8, signatures.length = p.signatures.length →
        decodeWith compact (count ++ (signatures ++ message)) =
          .ok (m, { p with signatures := signatures }) := by
  obtain ⟨n, w, s, b, r, hw, hsig, rfl, hb, hr, hbh, rfl⟩ := transaction_ok exact_compact h
  have hhead := (body_header spells_compact hb).1
  obtain ⟨v, t, rfl, rfl, hv⟩ := exact_body exact_compact n _ _ _ _ hb
  have ht : t = [] := by
    simp only [Reader.between, List.length_append] at hr
    exact List.eq_nil_of_length_eq_zero (by omega)
  have hn : n = b.header.requiredSigners.toNat := by
    simp only [invalidHeader] at hhead
    omega
  subst ht
  refine ⟨w, v ++ [], ⟨rfl, rfl, by rw [hsig, hn], by rw [hn]⟩, fun signatures hlen ↦ ?_⟩
  have h₁ := hw [] (signatures ++ (v ++ []))
  have h₂ := reads_take truncated (hlen.trans hsig) w (v ++ [])
  have h₃ := hv (w ++ signatures) []
  have htx : transaction compact (.between [] (w ++ (signatures ++ (v ++ [])))) =
      .ok ((⟨w.length, w.length + n * 64, b.header.requiredSigners.toNat,
        b.header.readonlySigned.toNat, b.header.readonlyUnsigned.toNat, b.staticKeys,
        b.instructions, b.lookups, b.header.versioned⟩, ⟨signatures, b.blockhash⟩),
        .between (w ++ signatures ++ v) []) := by
    rw [transaction, bind_of_ok h₁, bind_of_ok (position_between _ _), List.nil_append,
      bind_of_ok h₂, bind_of_ok (position_between _ _), bind_of_ok h₃,
      bind_of_ok (finished_between _ _)]
    simp [hlen, hsig]
  have hdec : decodeWith compact (w ++ (signatures ++ (v ++ []))) =
      (transaction compact (.between [] (w ++ (signatures ++ (v ++ []))))).map Prod.fst := rfl
  rw [hdec, htx, hbh]
  rfl

/-- The transaction that is offered for signing once a message is decoded. -/
def CompiledMessage.verified (m : CompiledMessage) (bytes : List UInt8) : VerifiedTransaction :=
  ⟨bytes, m.signaturesStart, m.messageStart, m.staticKeys.take m.requiredSigners⟩

/-- The bytes `signed` are those of `t` but for the signature in the slot of one signer, which
lies in the signature area. -/
structure OwnSlot (t : VerifiedTransaction) (index : ℕ) (signature : FixedBytes 64)
    (signed : List UInt8) : Prop where
  area : t.signaturesStart ≤ t.slot index ∧ t.slot index + 64 ≤ t.messageStart ∧
    t.messageStart ≤ t.bytes.length
  length : signed.length = t.bytes.length
  outside : ∀ i, i < t.slot index ∨ t.slot index + 64 ≤ i → signed[i]? = t.bytes[i]?
  slot : slice signed (t.slot index) 64 = signature.toList
  message : signed.drop t.messageStart = t.bytes.drop t.messageStart

theorem ownSlot_writeAt {t : VerifiedTransaction} {index : ℕ} (signature : FixedBytes 64)
    (hslot : t.slot index + 64 ≤ t.messageStart) (hmsg : t.messageStart ≤ t.bytes.length) :
    OwnSlot t index signature (writeAt t.bytes (t.slot index) signature.toList) := by
  have hlen := signature.length_toList
  have hin : t.slot index + signature.toList.length ≤ t.bytes.length := by omega
  refine ⟨⟨Nat.le_add_right _ _, hslot, hmsg⟩, length_writeAt hin, fun i hi ↦ ?_, ?_,
    drop_writeAt hin (by omega)⟩
  · rw [getElem?_writeAt hin, if_neg (by omega)]
  · have h := slice_writeAt hin
    rwa [hlen] at h

theorem slot_le_messageStart {bytes : List UInt8} (hm : CompiledMessage.decode bytes = .ok m)
    {index : ℕ} {key : Pubkey} (hindex : (m.verified bytes).signers[index]? = some key) :
    (m.verified bytes).slot index + 64 ≤ m.messageStart ∧ m.messageStart ≤ bytes.length := by
  obtain ⟨p, hp⟩ := decode_eq_ok.mp hm
  obtain ⟨count, message, hparts, -⟩ := decodeWith_resign hp
  have hlt : index < m.requiredSigners := by
    have h := (List.getElem?_eq_some_iff.mp hindex).1
    simp only [CompiledMessage.verified, List.length_take] at h
    omega
  have hlen := congrArg List.length hparts.bytes
  have hstart := hparts.start
  have hsig := hparts.signatures
  have hmsg := hparts.message
  simp only [List.length_append] at hlen
  simp only [VerifiedTransaction.slot, CompiledMessage.verified]
  omega

theorem decode_writeAt {bytes : List UInt8} (hm : CompiledMessage.decode bytes = .ok m) {index : ℕ}
    {key : Pubkey} (hindex : (m.verified bytes).signers[index]? = some key)
    (signature : FixedBytes 64) :
    CompiledMessage.decode
      (writeAt bytes ((m.verified bytes).slot index) signature.toList) = .ok m := by
  have hslot := (slot_le_messageStart hm hindex).1
  obtain ⟨p, hp⟩ := decode_eq_ok.mp hm
  obtain ⟨count, message, hparts, hresign⟩ := decodeWith_resign hp
  have hin : index * 64 + signature.toList.length ≤ p.signatures.length := by
    have hstart := hparts.start
    have hsig := hparts.signatures
    have hmsg := hparts.message
    simp only [VerifiedTransaction.slot, CompiledMessage.verified] at hslot
    rw [signature.length_toList]
    omega
  have hwrite : writeAt bytes ((m.verified bytes).slot index) signature.toList =
      count ++ (writeAt p.signatures (index * 64) signature.toList ++ message) := by
    rw [VerifiedTransaction.slot, CompiledMessage.verified, hparts.start, hparts.bytes,
      writeAt_append_right, writeAt_append_left message hin]
  rw [hwrite, decode_eq_ok]
  exact ⟨_, hresign _ (length_writeAt hin)⟩

theorem ServedMessage.decode_congr {P : Platform} {text text' : String}
    {tables : List AddressLookupTableAccount} {served : ServedMessage} {bytes bytes' : List UInt8}
    (h : ServedMessage.decode P text tables = .ok served) (htext : P.base64Decode text = some bytes)
    (htext' : P.base64Decode text' = some bytes') (hm : CompiledMessage.decode bytes = .ok m)
    (hm' : CompiledMessage.decode bytes' = .ok m) (hlen : bytes'.length = bytes.length) :
    served.transaction = m.verified bytes ∧
      ServedMessage.decode P text' tables =
        .ok { served with transaction := m.verified bytes' } := by
  simp only [ServedMessage.decode, Checks.bind_ok, okOr_ok, refuse_ok, pure_ok, exists_const,
    htext, Option.some.injEq] at h
  obtain ⟨_, rfl, _, hm₁, writable, hw, readonly, hr, hdist, ixs, hixs, rfl⟩ := h
  cases hm.symm.trans hm₁
  refine ⟨rfl, ?_⟩
  simp only [ServedMessage.decode, Checks.bind_ok, okOr_ok, refuse_ok, pure_ok, exists_const]
  refine ⟨bytes', htext', m, hm', writable, hw, readonly, hr, hdist, ixs, hixs, ?_⟩
  rw [hlen]
  rfl

theorem signWithParticipantSignature_of_idxOf {t : VerifiedTransaction} {signer : SignerLike}
    {index : ℕ} (E : Encodings) (h : t.signers.idxOf? signer.pubkeyBytes = some index) :
    t.signWithParticipantSignature signer E = .ok (E.base64Encode (t.signAt signer index).bytes,
      E.base58Encode (signer.signMessage (t.bytes.drop t.messageStart)).toList) := by
  rw [VerifiedTransaction.signWithParticipantSignature, h]
  rfl

theorem sign_of_idxOf {t : VerifiedTransaction} {signer : SignerLike} {index : ℕ} (E : Encodings)
    (h : t.signers.idxOf? signer.pubkeyBytes = some index) :
    t.sign signer E = .ok (E.base64Encode (t.signAt signer index).bytes) := by
  rw [VerifiedTransaction.sign, signWithParticipantSignature_of_idxOf E h]
  rfl

theorem exists_idxOf_signer {signers : List Pubkey} {key : Pubkey} (h : key ∈ signers) :
    ∃ index, signers.idxOf? key = some index ∧ signers[index]? = some key := by
  obtain ⟨index, hindex⟩ := Option.isSome_iff_exists.mp (List.isSome_idxOf?.mpr h)
  obtain ⟨hlt, heq, -⟩ := List.idxOf?_eq_some_iff.mp hindex
  exact ⟨index, hindex, by rw [List.getElem?_eq_getElem hlt, heq]⟩

theorem signAt_comm {t : VerifiedTransaction} {signer other : SignerLike} {i j : ℕ} (hne : i ≠ j)
    (hi : t.slot i + 64 ≤ t.messageStart) (hj : t.slot j + 64 ≤ t.messageStart)
    (hmsg : t.messageStart ≤ t.bytes.length) :
    ((t.signAt signer i).signAt other j).bytes = ((t.signAt other j).signAt signer i).bytes := by
  have hown := ownSlot_writeAt (signer.signMessage (t.bytes.drop t.messageStart)) hi hmsg
  have hown' := ownSlot_writeAt (other.signMessage (t.bytes.drop t.messageStart)) hj hmsg
  have hlen := (signer.signMessage (t.bytes.drop t.messageStart)).length_toList
  have hlen' := (other.signMessage (t.bytes.drop t.messageStart)).length_toList
  simp only [VerifiedTransaction.signAt, hown.message, hown'.message]
  apply writeAt_comm
  · omega
  · simp only [VerifiedTransaction.slot] at hj ⊢
    omega
  · simp only [VerifiedTransaction.slot]
    omega

/-- A signature changes the slot of its signer and nothing else, and signatures of different signers
can be added in any order. -/
theorem sign_own_slot {E : Encodings} {bytes : List UInt8} {m : CompiledMessage}
    (hm : CompiledMessage.decode bytes = .ok m) {signer : SignerLike}
    (hsigner : signer.pubkeyBytes ∈ (m.verified bytes).signers) :
    ∃ index signed, (m.verified bytes).signers[index]? = some signer.pubkeyBytes ∧
      (m.verified bytes).signWithParticipantSignature signer E =
        .ok (E.base64Encode signed,
          E.base58Encode (signer.signMessage (bytes.drop m.messageStart)).toList) ∧
      OwnSlot (m.verified bytes) index (signer.signMessage (bytes.drop m.messageStart)) signed ∧
      CompiledMessage.decode signed = .ok m ∧
      (∀ (P : Platform) text text' tables served, P.base64Decode text = some bytes →
        P.base64Decode text' = some signed → ServedMessage.decode P text tables = .ok served →
          served.transaction = m.verified bytes ∧
            ServedMessage.decode P text' tables =
              .ok { served with transaction := m.verified signed }) ∧
      ∀ other : SignerLike, other.pubkeyBytes ∈ (m.verified bytes).signers →
        other.pubkeyBytes ≠ signer.pubkeyBytes →
          ∃ signed' both, (m.verified bytes).sign other E = .ok (E.base64Encode signed') ∧
            CompiledMessage.decode signed' = .ok m ∧
            (m.verified signed).sign other E = .ok (E.base64Encode both) ∧
            (m.verified signed').sign signer E = .ok (E.base64Encode both) := by
  obtain ⟨index, hindex, hget⟩ := exists_idxOf_signer hsigner
  obtain ⟨hslot, hmsg⟩ := slot_le_messageStart hm hget
  have hown := ownSlot_writeAt (signer.signMessage (bytes.drop m.messageStart)) hslot hmsg
  have hdec := decode_writeAt hm hget (signer.signMessage (bytes.drop m.messageStart))
  refine ⟨index, _, hget, signWithParticipantSignature_of_idxOf E hindex, hown, hdec,
    fun P text text' tables served htext htext' hserved ↦ ?_, fun other hother hne ↦ ?_⟩
  · exact ServedMessage.decode_congr hserved htext htext' hm hdec hown.length
  · obtain ⟨index', hindex', hget'⟩ := exists_idxOf_signer hother
    have hslot' := (slot_le_messageStart hm hget').1
    have hindexes : index ≠ index' := by
      rintro rfl
      exact hne (Option.some.inj (hget'.symm.trans hget))
    have hdec' := decode_writeAt hm hget' (other.signMessage (bytes.drop m.messageStart))
    have hboth := @signAt_comm _ signer other _ _ hindexes hslot hslot' hmsg
    refine ⟨_, _, sign_of_idxOf E hindex', hdec',
      sign_of_idxOf (t := (m.verified bytes).signAt signer index) E hindex', ?_⟩
    rw [hboth]
    exact sign_of_idxOf (t := (m.verified bytes).signAt other index') E hindex

namespace Pair

def firstSigner : SignerLike where
  pubkeyBytes := keyOfNat 0xd75a980182b10ab7d54bfed3c964073a0ee172f3daa62325af021a68f707511a
  signMessage _ :=
    signatureOf 0x2487df53b4bccf17ff3fb2d1a62fab8965fb47eafa3e06b3cdd3687a67de65c0
      0xc381488a3765b6a7006cebc3e2b9267c4deac2573f59610e7b845ed2ff4d6906

def secondSigner : SignerLike where
  pubkeyBytes := keyOfNat 0x3d4017c3e843895a92b70aa74d1b7ebc9c982ccf2ec4968cc0cd55f12af4660c
  signMessage _ :=
    signatureOf 0x545cb9a8f4adb080b2622cce910178450b16a0f82bebe6665253aa4735b15781
      0x5b9ddd323fa97198d17282f983d7d048fd9a886d1f5b30a5037e631d5617080a

/-- A transfer of a thousand lamports that both keys have to sign. Both signers' answers are their
signatures of its message. -/
def transfer (first second : FixedBytes 64) : Transaction where
  signatures := [first, second]
  versionZero := false
  requiredSigners := 2
  readonlySigned := 0
  readonlyUnsigned := 1
  staticKeys := [firstSigner.pubkeyBytes, secondSigner.pubkeyBytes, systemProgramId]
  blockhash := keyOfNat 0x395bf727f9aac5e80911591073fcf9c826f428804131ca089beba3869421749a
  instructions := [⟨2, [0, 1], [2, 0, 0, 0, 232, 3, 0, 0, 0, 0, 0, 0]⟩]
  lookups := []

def unsigned : List UInt8 := (transfer (.ofList 64 []) (.ofList 64 [])).encode

def signedSecond : List UInt8 :=
  (transfer (.ofList 64 []) (secondSigner.signMessage [])).encode

def messageText : String :=
  "AgABA9damAGCsQq31Uv+08lkBzoO4XLz2qYjJa8CGmj3B1EaPUAXw+hDiVqStwqnTRt+vJyYLM8uxJaMwM1V8Sr0" ++
    "ZgwAAAAAAAAAAAAAAAAAAAAAAAAAAAAAAAAAAAAAAAAAADlb9yf5qsXoCRFZEHP8+cgm9CiAQTHKCJvro4aUIX" ++
    "SaAQICAAEMAgAAAOgDAAAAAAAA"

def text : String :=
  "AgAAAAAAAAAAAAAAAAAAAAAAAAAAAAAAAAAAAAAAAAAAAAAAAAAAAAAAAAAAAAAAAAAAAAAAAAAAAAAAAAAAAAAA" ++
    "AAAAAAAAAAAAAAAAAAAAAAAAAAAAAAAAAAAAAAAAAAAAAAAAAAAAAAAAAAAAAAAAAAAAAAAAAAAAAAAAAAAA" ++
    messageText

def textFirst : String :=
  "AiSH31O0vM8X/z+y0aYvq4ll+0fq+j4Gs83TaHpn3mXAw4FIijdltqcAbOvD4rkmfE3qwlc/WWEOe4Re0v9NaQYA" ++
    "AAAAAAAAAAAAAAAAAAAAAAAAAAAAAAAAAAAAAAAAAAAAAAAAAAAAAAAAAAAAAAAAAAAAAAAAAAAAAAAAAAAA" ++
    messageText

def textSecond : String :=
  "AgAAAAAAAAAAAAAAAAAAAAAAAAAAAAAAAAAAAAAAAAAAAAAAAAAAAAAAAAAAAAAAAAAAAAAAAAAAAAAAAAAAAABU" ++
    "XLmo9K2wgLJiLM6RAXhFCxag+Cvr5mZSU6pHNbFXgVud3TI/qXGY0XKC+YPX0Ej9mohtH1swpQN+Yx1WFwgK" ++
    messageText

def textBoth : String :=
  "AiSH31O0vM8X/z+y0aYvq4ll+0fq+j4Gs83TaHpn3mXAw4FIijdltqcAbOvD4rkmfE3qwlc/WWEOe4Re0v9NaQZU" ++
    "XLmo9K2wgLJiLM6RAXhFCxag+Cvr5mZSU6pHNbFXgVud3TI/qXGY0XKC+YPX0Ej9mohtH1swpQN+Yx1WFwgK" ++
    messageText

def secondSignature : String :=
  "2gpxhk8ctJGGFGdWBdpqurmFtvX3SmLwm9i8pDnAeYTeGXq2ULFuN5tu53XRS1TfS7tvXbnSL4MEXRRxjoMPwEiV"

def platform : Platform := .ofTables [] [] [(text, unsigned), (textSecond, signedSecond)] []

def encodings : Encodings := .ofTables
  [(textFirst, (transfer (firstSigner.signMessage []) (.ofList 64 [])).encode),
    (textSecond, signedSecond),
    (textBoth, (transfer (firstSigner.signMessage []) (secondSigner.signMessage [])).encode)]
  [(secondSignature, (secondSigner.signMessage []).toList)]

end Pair

open Pair in
theorem sign_own_slot_pair : ∃ m served signed',
    CompiledMessage.decode unsigned = .ok m ∧
      OwnSlot (m.verified unsigned) 1 (secondSigner.signMessage []) signedSecond ∧
      ServedMessage.decode platform text [] = .ok served ∧
      ServedMessage.decode platform textSecond [] =
        .ok { served with transaction := m.verified signedSecond } ∧
      (m.verified signedSecond).sign firstSigner encodings = .ok textBoth ∧
      (m.verified unsigned).sign firstSigner encodings = .ok (encodings.base64Encode signed') ∧
      (m.verified signed').sign secondSigner encodings = .ok textBoth := by
  let m := compiledOf (transfer (.ofList 64 []) (.ofList 64 []))
  have hm : CompiledMessage.decode unsigned = .ok m := by decide +kernel
  obtain ⟨index, signed, hget, hsigned, hown, -, hserved, hcomm⟩ :=
    @sign_own_slot encodings _ _ hm secondSigner (by decide +kernel)
  have hindex : index = 1 := by
    have hsigners : (m.verified unsigned).signers =
      [firstSigner.pubkeyBytes, secondSigner.pubkeyBytes] := rfl
    rw [hsigners] at hget
    rcases index with _ | _ | n
    · exact absurd hget (by decide +kernel)
    · rfl
    · simp at hget
  subst hindex
  have heval : (m.verified unsigned).signWithParticipantSignature secondSigner encodings =
      .ok (textSecond, secondSignature) := by decide +kernel
  have htext : encodings.base64Encode signed = textSecond :=
    congrArg Prod.fst (Except.ok.inj (hsigned.symm.trans heval))
  obtain rfl : signed = signedSecond := by
    have hmem := Encodings.mem_of_base64Encode (by decide +kernel) htext
    have hfirst : textSecond ≠ textFirst := by decide +kernel
    have hboth : textSecond ≠ textBoth := by decide +kernel
    simpa [hfirst, hboth] using hmem
  obtain ⟨signed', both, hsign, -, hfirst, hsecond⟩ :=
    hcomm firstSigner (by decide +kernel) (by decide +kernel)
  have hboth : (m.verified signedSecond).sign firstSigner encodings = .ok textBoth := by
    decide +kernel
  obtain ⟨served, hserve⟩ : ∃ served, ServedMessage.decode platform text [] = .ok served := by
    have hok : (ServedMessage.decode platform text []).isOk = true := by decide +kernel
    cases hdecode : ServedMessage.decode platform text [] with
    | ok served => exact ⟨served, rfl⟩
    | error e =>
      rw [hdecode] at hok
      cases hok
  have hresult := (hserved platform text textSecond [] served (by decide +kernel)
    (by decide +kernel) hserve).2
  rw [Except.ok.inj (hfirst.symm.trans hboth)] at hsecond
  exact ⟨m, served, signed', hm, hown, hserve, hresult, hboth, hsign, hsecond⟩

end MakerSdk.Served
