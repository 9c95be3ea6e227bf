import MakerSdk.Solana.Base58

namespace MakerSdk.Auth

open Base.Bytes Solana

structure SigningError where
  message : String

def authPrefix : List UInt8 :=
  ascii "Acta RFQ Authentication\n\nSign this message to authenticate your wallet.\n\n"

section Time

def fits (bits : ℕ) (value : ℤ) : Option ℕ :=
  if 0 ≤ value ∧ value < 2 ^ bits then some value.toNat else none

def isAsciiDigit (b : UInt8) : Bool := 48 ≤ b ∧ b ≤ 57

/-- What stands at a place of `YYYY-MM-DDTHH:MM:SSZ`. -/
def shape (i : ℕ) (byte : UInt8) : Bool :=
  match i with
  | 4 | 7 => byte = 45
  | 10 => byte = 84
  | 13 | 16 => byte = 58
  | 19 => byte = 90
  | _ => isAsciiDigit byte

def shaped (b : List UInt8) : Bool := b.zipIdx.all fun entry ↦ shape entry.2 entry.1

/-- The `u8` expression `(b[i] - b'0') * 10 + b[i + 1] - b'0'`. -/
def pair (b : List UInt8) (i : ℕ) : Option ℕ := do
  let first ← b[i]?
  let tens ← fits 8 (first.toNat - 48)
  let scaled ← fits 8 (tens * 10)
  let second ← b[i + 1]?
  let sum ← fits 8 (scaled + second.toNat)
  fits 8 (sum - 48)

/-- The `u16` expression `u16::from(pair(0)) * 100 + u16::from(pair(2))`. -/
def yearOf (b : List UInt8) : Option ℕ := do
  let hundreds ← fits 16 ((← pair b 0) * 100)
  fits 16 (hundreds + (← pair b 2))

def daysIn (year : ℕ) : ℕ → Option ℕ
  | 4 | 6 | 9 | 11 => some 30
  | 2 => some (if year % 4 = 0 ∧ (year % 100 ≠ 0 ∨ year % 400 = 0) then 29 else 28)
  | 1 | 3 | 5 | 7 | 8 | 10 | 12 => some 31
  | _ => none

/-- The check of a timestamp; `none` where its arithmetic would overflow. -/
def isUtcSeconds (b : List UInt8) : Option Bool :=
  if b.length ≠ 20 ∨ ¬shaped b then some false
  else do
    match daysIn (← yearOf b) (← pair b 5) with
    | none => some false
    | some days =>
      let day ← pair b 8
      let hour ← pair b 11
      let minute ← pair b 14
      let second ← pair b 17
      some (1 ≤ day ∧ day ≤ days ∧ hour < 24 ∧ minute < 60 ∧ second < 60)

end Time

def isNonceByte (b : UInt8) : Bool := isAsciiDigit b ∨ (97 ≤ b ∧ b ≤ 102)

def validNonceAndTime (body : List UInt8) : Option Bool :=
  match (body.dropPrefix? (ascii "Nonce: ")).bind (·.dropInfix? (ascii "\nIssued At: ")) with
  | none => some false
  | some (nonce, timestamp) =>
    if nonce.length = 64 ∧ nonce.all isNonceByte then
      (timestamp.dropSuffix? (ascii "\n")).elim (some false) isUtcSeconds
    else some false

def verdict (message : String) (valid : Bool) : Except SigningError Unit :=
  if valid then .ok () else .error ⟨message⟩

def validateMakerAuthChallenge (challenge : List UInt8) : Option (Except SigningError Unit) :=
  ((challenge.dropPrefix? authPrefix).elim (some false) validNonceAndTime).map
    (verdict "invalid maker authentication challenge")

def afterWallet (challenge wallet : List UInt8) : Option (List UInt8) := do
  let rest ← challenge.dropPrefix? authPrefix
  let rest ← rest.dropPrefix? (ascii "Wallet: ")
  let rest ← rest.dropPrefix? wallet
  rest.dropPrefix? (ascii "\n")

section Addressed

variable (C : Base58)

def validateWalletAuthChallenge (challenge wallet : List UInt8) :
    Option (Except SigningError Unit) :=
  let body := afterWallet challenge wallet
  let valid :=
    if (C.decodeFixed 32 wallet).isOk then body.elim (some false) validNonceAndTime
    else some false
  valid.map (verdict "invalid wallet authentication challenge")

def validateVaultAuthChallenge (challenge : List UInt8) (operator vault : Pubkey) :
    Option (Except SigningError Unit) :=
  let body := do
    let rest ← afterWallet challenge (C.encode operator.toList)
    let rest ← rest.dropSuffix? (C.encode vault.toList)
    rest.dropSuffix? (ascii "\nVault: ")
  (body.elim (some false) validNonceAndTime).map
    (verdict "invalid vault authentication challenge")

end Addressed

end MakerSdk.Auth
