import Mathlib.Computability.Language
import MakerSdk.Auth.Time

namespace MakerSdk.Auth

open Base.Bytes Base.Checks Solana

section Languages

def word (w : List UInt8) : Language UInt8 := {w}

def nonce : Language UInt8 := {w | w.length = 64 ∧ ∀ b ∈ w, b ∈ ascii "0123456789abcdef"}

def utcTime : Language UInt8 := Set.range UtcTime.text

def nonceAndTime : Language UInt8 :=
  word (ascii "Nonce: ") * (nonce * (word (ascii "\nIssued At: ") * (utcTime * word (ascii "\n"))))

def makerChallenge : Language UInt8 := word authPrefix * nonceAndTime

def walletChallenge (wallet : List UInt8) : Language UInt8 :=
  word authPrefix * (word (ascii "Wallet: ") * (word wallet * (word (ascii "\n") * nonceAndTime)))

def vaultChallenge (C : Base58) (operator vault : Pubkey) : Language UInt8 :=
  walletChallenge (C.encode operator.toList) *
    (word (ascii "\nVault: ") * word (C.encode vault.toList))

variable {p w : List UInt8} {l : Language UInt8}

theorem mem_word_mul : w ∈ word p * l ↔ ∃ r ∈ l, w = p ++ r := by
  rw [Language.mem_mul]
  constructor
  · rintro ⟨a, rfl, r, hr, rfl⟩
    exact ⟨r, hr, rfl⟩
  · rintro ⟨r, hr, rfl⟩
    exact ⟨p, rfl, r, hr, rfl⟩

theorem mem_mul_word : w ∈ l * word p ↔ ∃ r ∈ l, w = r ++ p := by
  rw [Language.mem_mul]
  constructor
  · rintro ⟨r, hr, a, rfl, rfl⟩
    exact ⟨r, hr, rfl⟩
  · rintro ⟨r, hr, rfl⟩
    exact ⟨r, hr, p, rfl, rfl⟩

end Languages

section Validators

variable {p s l challenge body wallet : List UInt8} {operator vault : Pubkey} {C : Base58}

theorem dropPrefix?_iff : l.dropPrefix? p = some s ↔ l = p ++ s := by
  simp [List.dropPrefix?_eq_some_iff]

theorem dropSuffix?_iff : l.dropSuffix? p = some s ↔ l = s ++ p := by
  simp [List.dropSuffix?_eq_some_iff]

theorem dropInfix?_of_notMem {front back pattern : List UInt8} {c : UInt8} (h : c ∉ front) :
    (front ++ ((c :: pattern) ++ back)).dropInfix? (c :: pattern) = some (front, back) := by
  rw [List.dropInfix?_eq_some_iff]
  refine ⟨⟨c :: pattern, by simp, by simp⟩, fun front' found back' heq hfound ↦ ?_⟩
  by_contra hlt
  rw [eq_of_beq hfound, List.append_assoc] at heq
  rcases List.append_eq_append_iff.mp heq with ⟨m, rfl, -⟩ | ⟨m, rfl, hm⟩
  · simp at hlt
  · cases m with
    | nil => simp at hlt
    | cons d m =>
      cases (List.cons.inj hm).1
      simp at h

theorem elim_eq_true {o : Option (List UInt8)} {f : List UInt8 → Option Bool} :
    o.elim (some false) f = some true ↔ ∃ a, o = some a ∧ f a = some true := by
  cases o <;> simp

theorem elim_isSome {o : Option (List UInt8)} {f : List UInt8 → Option Bool}
    (hf : ∀ a, (f a).isSome = true) : (o.elim (some false) f).isSome = true := by
  cases o <;> simp [hf]

theorem verdict_ok {valid : Option Bool} {message : String} :
    valid.map (verdict message) = some (.ok ()) ↔ valid = some true := by
  rcases valid with _ | _ | _ <;> simp [verdict]

theorem isNonceByte_iff {b : UInt8} :
    isNonceByte b = true ↔ b ∈ ascii "0123456789abcdef" := by
  have hall : ∀ n < 256, isNonceByte (.ofNat n) = true ↔
      UInt8.ofNat n ∈ ascii "0123456789abcdef" := by
    decide +kernel
  have hb := hall b.toNat b.toNat_lt
  rwa [UInt8.ofNat_toNat] at hb

theorem validNonceAndTime_isSome (body : List UInt8) : (validNonceAndTime body).isSome = true := by
  unfold validNonceAndTime
  split
  · rfl
  · split
    · exact elim_isSome isUtcSeconds_isSome
    · rfl

theorem validNonceAndTime_iff : validNonceAndTime body = some true ↔ body ∈ nonceAndTime := by
  constructor
  · intro h
    unfold validNonceAndTime at h
    split at h
    · cases h
    · rename_i nonce timestamp hsplit
      split at h
      · rename_i hnonce
        obtain ⟨rest, hrest, hinfix⟩ := Option.bind_eq_some_iff.mp hsplit
        obtain ⟨text, htext, htime⟩ := elim_eq_true.mp h
        obtain ⟨⟨_, rfl, hpattern⟩, -⟩ := List.dropInfix?_eq_some_iff.mp hinfix
        rw [dropPrefix?_iff, eq_of_beq hpattern] at hrest
        rw [dropSuffix?_iff] at htext
        obtain ⟨t, rfl⟩ := isUtcSeconds_iff.mp htime
        rw [hrest, htext, List.append_assoc]
        refine mem_word_mul.mpr ⟨_, ?_, rfl⟩
        refine Language.mem_mul.mpr ⟨nonce, ⟨hnonce.1, fun b hb ↦ ?_⟩, _, ?_, rfl⟩
        · exact isNonceByte_iff.mp (List.all_eq_true.mp hnonce.2 b hb)
        · exact mem_word_mul.mpr ⟨_, mem_mul_word.mpr ⟨_, ⟨t, rfl⟩, rfl⟩, rfl⟩
      · cases h
  · intro h
    obtain ⟨rest, hrest, rfl⟩ := mem_word_mul.mp h
    obtain ⟨nonce, ⟨hlen, hhex⟩, issued, hissued, rfl⟩ := Language.mem_mul.mp hrest
    obtain ⟨line, hline, rfl⟩ := mem_word_mul.mp hissued
    obtain ⟨_, ⟨t, rfl⟩, rfl⟩ := mem_mul_word.mp hline
    have hnewline : (10 : UInt8) ∉ nonce := fun hmem ↦ absurd (hhex 10 hmem) (by decide)
    have hsplit : (nonce ++ (ascii "\nIssued At: " ++ (t.text ++ ascii "\n"))).dropInfix?
        (ascii "\nIssued At: ") = some (nonce, t.text ++ ascii "\n") :=
      dropInfix?_of_notMem hnewline
    have hbytes : nonce.all isNonceByte = true :=
      List.all_eq_true.mpr fun b hb ↦ isNonceByte_iff.mpr (hhex b hb)
    rw [validNonceAndTime, dropPrefix?_iff.mpr rfl, Option.bind_some, hsplit]
    dsimp only
    rw [if_pos ⟨hlen, hbytes⟩, elim_eq_true]
    exact ⟨t.text, dropSuffix?_iff.mpr rfl, isUtcSeconds_iff.mpr ⟨t, rfl⟩⟩

theorem mem_walletChallenge : challenge ∈ walletChallenge wallet ↔ ∃ body ∈ nonceAndTime,
    challenge = authPrefix ++ (ascii "Wallet: " ++ (wallet ++ (ascii "\n" ++ body))) := by
  simp only [walletChallenge, mem_word_mul]
  constructor
  · rintro ⟨_, ⟨_, ⟨_, ⟨body, hbody, rfl⟩, rfl⟩, rfl⟩, rfl⟩
    exact ⟨body, hbody, rfl⟩
  · rintro ⟨body, hbody, rfl⟩
    exact ⟨_, ⟨_, ⟨_, ⟨body, hbody, rfl⟩, rfl⟩, rfl⟩, rfl⟩

theorem mem_vaultChallenge : challenge ∈ vaultChallenge C operator vault ↔ ∃ body ∈ nonceAndTime,
    challenge = authPrefix ++ (ascii "Wallet: " ++ (C.encode operator.toList ++
      (ascii "\n" ++ (body ++ (ascii "\nVault: " ++ C.encode vault.toList))))) := by
  simp only [vaultChallenge, Language.mem_mul, mem_walletChallenge]
  constructor
  · rintro ⟨_, ⟨body, hbody, rfl⟩, _, ⟨_, rfl, _, rfl, rfl⟩, rfl⟩
    exact ⟨body, hbody, by simp only [List.append_assoc]⟩
  · rintro ⟨body, hbody, rfl⟩
    exact ⟨_, ⟨body, hbody, rfl⟩, _, ⟨_, rfl, _, rfl, rfl⟩, by simp only [List.append_assoc]⟩

theorem afterWallet_iff : afterWallet challenge wallet = some body ↔
    challenge = authPrefix ++ (ascii "Wallet: " ++ (wallet ++ (ascii "\n" ++ body))) := by
  simp only [afterWallet, Option.bind_eq_bind, Option.bind_eq_some_iff, dropPrefix?_iff]
  constructor
  · rintro ⟨_, rfl, _, rfl, _, rfl, rfl⟩
    rfl
  · rintro rfl
    exact ⟨_, rfl, _, rfl, _, rfl, rfl⟩

theorem validateMaker_iff :
    validateMakerAuthChallenge challenge = some (.ok ()) ↔ challenge ∈ makerChallenge := by
  rw [validateMakerAuthChallenge, verdict_ok, elim_eq_true, makerChallenge, mem_word_mul]
  simp only [dropPrefix?_iff, validNonceAndTime_iff, and_comm]

theorem validateWallet_iff : validateWalletAuthChallenge C challenge wallet = some (.ok ()) ↔
    (C.decodeFixed 32 wallet).isOk = true ∧ challenge ∈ walletChallenge wallet := by
  rw [validateWalletAuthChallenge, verdict_ok]
  split
  · rename_i hkey
    simp only [hkey, true_and, elim_eq_true, mem_walletChallenge, afterWallet_iff,
      validNonceAndTime_iff, and_comm]
  · rename_i hkey
    simp [hkey]

theorem validateVault_iff : validateVaultAuthChallenge C challenge operator vault = some (.ok ()) ↔
    challenge ∈ vaultChallenge C operator vault := by
  rw [validateVaultAuthChallenge, verdict_ok, elim_eq_true, mem_vaultChallenge]
  simp only [Option.bind_eq_bind, Option.bind_eq_some_iff, afterWallet_iff, dropSuffix?_iff,
    validNonceAndTime_iff]
  constructor
  · rintro ⟨body, ⟨_, rfl, _, rfl, rfl⟩, hbody⟩
    exact ⟨body, hbody, by simp only [List.append_assoc]⟩
  · rintro ⟨body, hbody, rfl⟩
    exact ⟨body, ⟨_, rfl, _, by simp only [← List.append_assoc], rfl⟩, hbody⟩

end Validators

inductive Endpoint where
  | maker
  | wallet (text : List UInt8)
  | vault (operator address : Pubkey)

namespace Endpoint

variable (C : Base58)

def validate (challenge : List UInt8) : Endpoint → Option (Except SigningError Unit)
  | maker => validateMakerAuthChallenge challenge
  | wallet text => validateWalletAuthChallenge C challenge text
  | vault operator address => validateVaultAuthChallenge C challenge operator address

/-- The challenges that an endpoint may send; a wallet is the text of a key. -/
def language : Endpoint → Language UInt8
  | maker => makerChallenge
  | wallet text =>
    {challenge | (C.decodeFixed 32 text).isOk = true ∧ challenge ∈ walletChallenge text}
  | vault operator address => vaultChallenge C operator address

def walletText : Endpoint → Option (List UInt8)
  | maker => none
  | wallet text => some text
  | vault operator _ => some (C.encode operator.toList)

def tail : Endpoint → List UInt8
  | maker | wallet _ => []
  | vault _ address => ascii "\nVault: " ++ C.encode address.toList

def walletLine (endpoint : Endpoint) : List UInt8 :=
  (endpoint.walletText C).elim [] fun text ↦ ascii "Wallet: " ++ (text ++ ascii "\n")

end Endpoint

section Endpoints

variable {C : Base58} {challenge : List UInt8} {endpoint other : Endpoint}

theorem validate_iff :
    endpoint.validate C challenge = some (.ok ()) ↔ challenge ∈ endpoint.language C := by
  cases endpoint with
  | maker => exact validateMaker_iff
  | wallet text => exact validateWallet_iff
  | vault operator address => exact validateVault_iff

theorem validate_isSome : (endpoint.validate C challenge).isSome = true := by
  cases endpoint with
  | maker =>
    rw [Endpoint.validate, validateMakerAuthChallenge, Option.isSome_map]
    exact elim_isSome validNonceAndTime_isSome
  | wallet text =>
    rw [Endpoint.validate, validateWalletAuthChallenge, Option.isSome_map]
    split
    · exact elim_isSome validNonceAndTime_isSome
    · rfl
  | vault operator address =>
    rw [Endpoint.validate, validateVaultAuthChallenge, Option.isSome_map]
    exact elim_isSome validNonceAndTime_isSome

theorem exists_lines (h : challenge ∈ endpoint.language C) : ∃ body ∈ nonceAndTime,
    challenge = authPrefix ++ (endpoint.walletLine C ++ (body ++ endpoint.tail C)) := by
  cases endpoint with
  | maker =>
    obtain ⟨body, hbody, rfl⟩ := mem_word_mul.mp h
    exact ⟨body, hbody, by rw [Endpoint.tail, List.append_nil]; rfl⟩
  | wallet text =>
    obtain ⟨body, hbody, rfl⟩ := mem_walletChallenge.mp h.2
    exact ⟨body, hbody, by simp [Endpoint.walletLine, Endpoint.walletText, Endpoint.tail]⟩
  | vault operator address =>
    obtain ⟨body, hbody, rfl⟩ := mem_vaultChallenge.mp h
    exact ⟨body, hbody, by simp [Endpoint.walletLine, Endpoint.walletText, Endpoint.tail]⟩

theorem newline_notMem_alphabet : (10 : UInt8) ∉ base58Alphabet := by decide

theorem newline_notMem_wallet (h : challenge ∈ endpoint.language C) :
    ∀ text ∈ endpoint.walletText C, (10 : UInt8) ∉ text := by
  intro text htext hmem
  cases endpoint with
  | maker => cases htext
  | wallet text =>
    cases htext
    have hkey := h.1
    rw [Base58.decodeFixed] at hkey
    cases hdecode : C.decode text with
    | error error =>
      rw [hdecode] at hkey
      cases hkey
    | ok bytes => exact newline_notMem_alphabet (C.alphabet _ _ hdecode 10 hmem)
  | vault operator address =>
    cases htext
    exact newline_notMem_alphabet (C.encode_alphabet 10 hmem)

theorem line_inj {a b rest rest' : List UInt8} (ha : (10 : UInt8) ∉ a) (hb : (10 : UInt8) ∉ b)
    (h : a ++ 10 :: rest = b ++ 10 :: rest') : a = b ∧ rest = rest' := by
  have htake : ∀ {a rest : List UInt8}, (10 : UInt8) ∉ a →
      (a ++ 10 :: rest).takeWhile (· ≠ 10) = a := by
    intro a rest ha
    have hne : ∀ c ∈ a, decide (c ≠ 10) = true := by
      intro c hc
      exact decide_eq_true fun heq ↦ ha (heq ▸ hc)
    rw [List.takeWhile_append_of_pos hne]
    simp
  have hab : a = b := by rw [← htake ha, h, htake hb]
  subst hab
  exact ⟨rfl, (List.cons.inj (List.append_cancel_left h)).2⟩

theorem length_nonceAndTime {body : List UInt8} (h : body ∈ nonceAndTime) : body.length = 104 := by
  obtain ⟨rest, hrest, rfl⟩ := mem_word_mul.mp h
  obtain ⟨nonce, ⟨hlen, -⟩, issued, hissued, rfl⟩ := Language.mem_mul.mp hrest
  obtain ⟨line, hline, rfl⟩ := mem_word_mul.mp hissued
  obtain ⟨_, ⟨t, rfl⟩, rfl⟩ := mem_mul_word.mp hline
  simp [hlen, ascii, UtcTime.text, stamp, two]

theorem lines_inj {body body' : List UInt8} (hbody : body ∈ nonceAndTime)
    (hbody' : body' ∈ nonceAndTime) (hwallet : ∀ text ∈ endpoint.walletText C, (10 : UInt8) ∉ text)
    (hwallet' : ∀ text ∈ other.walletText C, (10 : UInt8) ∉ text)
    (h : endpoint.walletLine C ++ (body ++ endpoint.tail C) =
      other.walletLine C ++ (body' ++ other.tail C)) :
    endpoint.walletText C = other.walletText C ∧ endpoint.tail C = other.tail C := by
  have htail : ∀ {tail tail' : List UInt8}, body ++ tail = body' ++ tail' → tail = tail' :=
    fun heq ↦ (List.append_inj heq
      ((length_nonceAndTime hbody).trans (length_nonceAndTime hbody').symm)).2
  have hnonce : ∀ {body rest rest' : List UInt8}, body ∈ nonceAndTime →
      body ++ rest ≠ ascii "Wallet: " ++ rest' := by
    intro body rest rest' hbody heq
    obtain ⟨line, -, rfl⟩ := mem_word_mul.mp hbody
    exact absurd (List.cons.inj heq).1 (by decide)
  unfold Endpoint.walletLine at h
  cases he : endpoint.walletText C with
  | none =>
    rw [he] at h
    cases ho : other.walletText C with
    | none =>
      rw [ho] at h
      exact ⟨rfl, htail h⟩
    | some text =>
      rw [ho, Option.elim_none, List.nil_append, Option.elim_some, List.append_assoc] at h
      exact absurd h (hnonce hbody)
  | some text =>
    rw [he, Option.elim_some, List.append_assoc, List.append_assoc] at h
    cases ho : other.walletText C with
    | none =>
      rw [ho, Option.elim_none, List.nil_append] at h
      exact absurd h.symm (hnonce hbody')
    | some text' =>
      rw [ho, Option.elim_some, List.append_assoc, List.append_assoc] at h
      obtain ⟨rfl, hrest⟩ := line_inj (hwallet text he) (hwallet' text' ho)
        (List.append_cancel_left h)
      exact ⟨rfl, htail hrest⟩

theorem endpoint_unique (h : challenge ∈ endpoint.language C) (h' : challenge ∈ other.language C) :
    endpoint = other := by
  obtain ⟨body, hbody, rfl⟩ := exists_lines h
  obtain ⟨body', hbody', heq⟩ := exists_lines h'
  obtain ⟨hwallet, htail⟩ := lines_inj hbody hbody' (newline_notMem_wallet h)
    (newline_notMem_wallet h') (List.append_cancel_left heq)
  have hkey : ∀ {a b : Pubkey}, C.encode a.toList = C.encode b.toList → a = b :=
    fun heq ↦ FixedBytes.ext (C.encode_injective heq)
  cases endpoint with
  | maker => cases other with
    | maker => rfl
    | wallet text | vault operator address => cases hwallet
  | wallet text => cases other with
    | maker => cases hwallet
    | wallet text' =>
      cases hwallet
      rfl
    | vault operator address => cases htail
  | vault operator address => cases other with
    | maker => cases hwallet
    | wallet text => cases htail
    | vault operator' address' =>
      rw [hkey (Option.some.inj hwallet), hkey (List.append_cancel_left htail)]

theorem length_challenge (h : challenge ∈ endpoint.language C) : 32 < challenge.length := by
  obtain ⟨body, hbody, rfl⟩ := exists_lines h
  have hlen := length_nonceAndTime hbody
  simp only [List.length_append]
  omega

/-- What the validators do with a challenge: each accepts exactly its own language, a challenge in
two of them is for one endpoint, none has the length of an order id, and no check overflows. -/
structure Unambiguous (C : Base58) (challenge : List UInt8) : Prop where
  accepted : ∀ endpoint : Endpoint,
    endpoint.validate C challenge = some (.ok ()) ↔ challenge ∈ endpoint.language C
  addressed : ∀ endpoint other : Endpoint,
    challenge ∈ endpoint.language C → challenge ∈ other.language C → endpoint = other
  notOrder : ∀ (endpoint : Endpoint) (orderId : FixedBytes 32),
    challenge ∈ endpoint.language C → challenge.length ≠ 32 ∧ challenge ≠ orderId.toList
  total : (∀ endpoint : Endpoint, (endpoint.validate C challenge).isSome = true) ∧
    ∀ timestamp, (isUtcSeconds timestamp).isSome = true

theorem challenges_unambiguous (C : Base58) (challenge : List UInt8) :
    Unambiguous C challenge where
  accepted _ := validate_iff
  addressed _ _ := endpoint_unique
  notOrder endpoint orderId h := by
    have hlen := length_challenge h
    refine ⟨by omega, fun heq ↦ ?_⟩
    rw [heq, orderId.length_toList] at hlen
    omega
  total := ⟨fun _ ↦ validate_isSome, isUtcSeconds_isSome⟩

def canonicalChallenge : List UInt8 :=
  authPrefix ++ ascii "Nonce: 0123456789abcdef0123456789abcdef0123456789abcdef0123456789abcdef\n" ++
    ascii "Issued At: 2024-02-29T23:59:59Z\n"

theorem challenges_unambiguous_canonical :
    Endpoint.maker.validate .standard canonicalChallenge = some (.ok ()) ∧
      ∀ endpoint : Endpoint, canonicalChallenge ∈ endpoint.language .standard →
        endpoint = .maker := by
  have hvalid : ((Endpoint.maker.validate .standard canonicalChallenge).any Except.isOk) =
      true := by
    decide +kernel
  obtain ⟨result, hresult, hok⟩ := (Option.any_eq_true _ _).mp hvalid
  have hmaker : Endpoint.maker.validate .standard canonicalChallenge = some (.ok ()) := by
    rw [hresult]
    cases result with
    | ok => rfl
    | error => cases hok
  have h := challenges_unambiguous .standard canonicalChallenge
  exact ⟨hmaker, fun endpoint he ↦ h.addressed endpoint .maker he ((h.accepted .maker).mp hmaker)⟩

end Endpoints

end MakerSdk.Auth
