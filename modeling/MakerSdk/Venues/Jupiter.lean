import MakerSdk.Base.Lists
import MakerSdk.Vault.SwapChain
import MakerSdk.Venues.Exponent

namespace MakerSdk.Venues

open Base.Bytes Base.Checks Base.Lists Base.Words Solana Vault

def jupiterProgram : Pubkey := pubkey "JUP6LkbZbjS1jKKwapdHNy74zcZ3tLUZoi5QNyVTaV4"

def exactInSelectors : List (List UInt8) := [
  [0xe5, 0x17, 0xcb, 0x97, 0x7a, 0xe3, 0xad, 0x2a],
  [0xc1, 0x20, 0x9b, 0x33, 0x41, 0xd6, 0x9c, 0x81],
  [187, 100, 250, 204, 49, 196, 175, 20],
  [209, 152, 83, 147, 124, 254, 216, 233]]

/-- The legacy route plan precedes a fixed suffix of 19 bytes; the second version puts the amounts
before the route plan. -/
def amountPosition (kind len : ℕ) : Except VaultChainError ℕ :=
  match kind with
  | 0 | 1 => pure (len - 19)
  | 2 => pure 8
  | 3 => pure 9
  | _ => .error (invalid "unsupported Jupiter ExactIn selector")

def inputOffset (data : List UInt8) : Except VaultChainError ℕ := do
  let kind ← okOr (exactInSelectors.findIdx? (·.isPrefixOf data))
    (invalid "unsupported Jupiter ExactIn selector")
  refuse (data.length < [31, 32, 34, 35].getD kind 0) (invalid "truncated Jupiter ExactIn data")
  amountPosition kind data.length

structure Request where
  owner : Pubkey
  payer : Pubkey
  inputMint : Pubkey
  outputMint : Pubkey
  source : Pubkey
  destination : Pubkey
  amount : UInt64
  slippageBps : UInt16

structure WireAccount where
  pubkey : String
  isSigner : Bool
  isWritable : Bool

structure WireInstruction where
  programId : String
  accounts : List WireAccount
  data : String

/-- The lookup tables come in the order of their texts. -/
structure BuildResponse where
  inAmount : String
  outAmount : String
  otherAmountThreshold : String
  slippageBps : UInt16
  swapMode : Option String
  swapInstruction : WireInstruction
  cleanupInstruction : Option WireInstruction
  tipInstruction : Option WireInstruction
  otherInstructions : List WireInstruction
  addressesByLookupTableAddress : Option (List (String × List String))

/-- The fields are public: besides `intoQuote` a caller may set them to anything. -/
structure Quote where
  request : Request
  output : UInt64
  minimum : UInt64
  hop : VaultSwapHop
  tables : List AddressLookupTableAccount

/-- The quoted hop, with its amount left to the swap where `patch` says so. -/
def Quote.patchedHop (quote : Quote) (patch : Bool) : Except VaultChainError VaultSwapHop := do
  if patch then
    let at' ← inputOffset quote.hop.data
    refuse (at' ≥ 2 ^ 16) (invalid "Jupiter data too large")
    pure { quote.hop with amountOffset := some ⟨.ofNat at', 1, 1⟩ }
  else pure quote.hop

def parseAmount (text : String) : Except VaultChainError UInt64 :=
  okOr (parseU64 text.toList) (invalid "invalid Jupiter amount")

section IntoQuote

/- `fromStr` is `Pubkey::from_str` of the key crate. -/
variable (P : Platform) (fromStr : String → Option Pubkey)

def key (text : String) : Except VaultChainError Pubkey :=
  okOr (fromStr text) (invalid "invalid Jupiter public key")

def BuildResponse.intoQuote (response : BuildResponse) (request : Request) :
    Except VaultChainError Quote := do
  let output ← parseAmount response.outAmount
  let minimum ← parseAmount response.otherAmountThreshold
  refuse (request.amount = 0) (invalid "Jupiter quote does not match ExactIn request")
  let input ← parseAmount response.inAmount
  refuse (input ≠ request.amount ∨ response.slippageBps ≠ request.slippageBps ∨
      (∃ mode ∈ response.swapMode, mode ≠ "ExactIn") ∨ minimum = 0 ∨ minimum > output ∨
      minimum.toNat < output.toNat * (10000 - request.slippageBps.toNat) / 10000)
    (invalid "Jupiter quote does not match ExactIn request")
  refuse (response.cleanupInstruction.isSome ∨ response.tipInstruction.isSome ∨
      response.otherInstructions.isEmpty = false)
    (invalid "unsupported Jupiter side instruction")
  let wire := response.swapInstruction
  let program ← key fromStr wire.programId
  refuse (program ≠ jupiterProgram) (invalid "unexpected Jupiter program")
  let data ← okOr (P.base64Decode wire.data) (invalid "invalid Jupiter instruction base64")
  let at' ← inputOffset data
  refuse (u64OfLe (slice data at' 8) ≠ request.amount)
    (invalid "Jupiter instruction input differs from quote")
  let accounts ← wire.accounts.mapM fun account ↦ do
    pure (⟨← key fromStr account.pubkey, account.isSigner, account.isWritable⟩ : AccountMeta)
  let tables ← (response.addressesByLookupTableAddress.getD []).mapM fun entry ↦ do
    let tableKey ← key fromStr entry.1
    pure (⟨tableKey, ← entry.2.mapM (key fromStr)⟩ : AddressLookupTableAccount)
  pure {
    request
    output
    minimum
    hop := ⟨jupiterProgram, request.source, request.destination, accounts, data, none⟩
    tables }

end IntoQuote

/-- What a response has to carry to become a quote: its hop calls Jupiter between the accounts of
the request with the request's amount, and its minimum keeps to the request's slippage. -/
structure Quote.Answers (quote : Quote) : Prop where
  calls : quote.hop.program = jupiterProgram
  source : quote.hop.source = quote.request.source
  destination : quote.hop.destination = quote.request.destination
  spends : ∃ at', inputOffset quote.hop.data = .ok at' ∧
    u64OfLe (slice quote.hop.data at' 8) = quote.request.amount
  positive : quote.request.amount ≠ 0 ∧ quote.minimum ≠ 0
  minimum : quote.minimum ≤ quote.output
  slippage : quote.output.toNat * (10000 - quote.request.slippageBps.toNat) / 10000 ≤
    quote.minimum.toNat

theorem BuildResponse.intoQuote_answers {P : Platform} {fromStr : String → Option Pubkey}
    {response : BuildResponse} {request : Request} {quote : Quote}
    (h : response.intoQuote P fromStr request = .ok quote) :
    quote.request = request ∧ quote.Answers := by
  simp only [intoQuote, bind_ok, refuse_ok, exists_const, pure_ok, not_or, not_not, ne_eq] at h
  obtain ⟨output, -, minimum, -, hamount, input, -, ⟨-, -, -, hpositive, hminimum, hslippage⟩, -,
    program, -, -, data, -, at', hat, hspends, accounts, -, tables, -, rfl⟩ := h
  exact ⟨rfl, rfl, rfl, rfl, ⟨at', hat, hspends⟩, ⟨hamount, hpositive⟩,
    UInt64.not_lt.mp hminimum, Nat.not_lt.mp hslippage⟩

example :
    let text := "u2T6zDHErxQKAAAAAAAAAAAAAAAAAAAAAAAAAAAAAAAAAA=="
    let data := exactInSelectors.getD 2 [] ++ u64ToLe 10 ++ List.replicate 18 0
    (BuildResponse.intoQuote (.ofTables [] [] [(text, data)] []) (fun text ↦ some (pubkey text))
      ⟨"10", "20", "19", 500, some "ExactIn",
        ⟨"JUP6LkbZbjS1jKKwapdHNy74zcZ3tLUZoi5QNyVTaV4", [], text⟩, none, none, [], none⟩
      ⟨keyOfNat 1, keyOfNat 2, keyOfNat 3, keyOfNat 4, keyOfNat 5, keyOfNat 6, 10, 500⟩).map
        (fun quote ↦ (quote.hop.program, quote.output, quote.minimum, quote.hop.data)) =
      .ok (jupiterProgram, 20, 19, data) := by
  decide +kernel

theorem length_selector {s : List UInt8} (h : s ∈ exactInSelectors) : s.length = 8 := by
  revert s
  decide

theorem inputOffset_ok {data : List UInt8} {at' : ℕ} :
    inputOffset data = .ok at' ↔
      ∃ kind, exactInSelectors.findIdx? (·.isPrefixOf data) = some kind ∧
        [31, 32, 34, 35].getD kind 0 ≤ data.length ∧ amountPosition kind data.length = .ok at' := by
  simp only [inputOffset, bind_ok, okOr_ok, refuse_ok, exists_const, not_lt]

theorem amountPosition_bounds {kind len at' : ℕ} (hlen : [31, 32, 34, 35].getD kind 0 ≤ len)
    (h : amountPosition kind len = .ok at') : 8 ≤ at' ∧ at' + 8 ≤ len := by
  unfold amountPosition at h
  split at h
  · cases h
    simp only [List.getD_cons_zero] at hlen
    omega
  · cases h
    simp only [List.getD_cons_zero, List.getD_cons_succ] at hlen
    omega
  · cases h
    simp only [List.getD_cons_zero, List.getD_cons_succ] at hlen
    omega
  · cases h
    simp only [List.getD_cons_zero, List.getD_cons_succ] at hlen
    omega
  · cases h

/-- The amount lies behind the selector, so writing it changes neither which selector leads the
data nor its length. -/
theorem inputOffset_patch {data : List UInt8} {at' : ℕ} (h : inputOffset data = .ok at')
    (amount : UInt64) : inputOffset (writeAt data at' (u64ToLe amount)) = .ok at' := by
  obtain ⟨kind, hkind, hlen, hposition⟩ := inputOffset_ok.mp h
  obtain ⟨hselector, hbound⟩ := amountPosition_bounds hlen hposition
  have hsize : (writeAt data at' (u64ToLe amount)).length = data.length :=
    length_writeAt (by rw [length_u64ToLe]; exact hbound)
  refine inputOffset_ok.mpr ⟨kind, ?_, by rwa [hsize], by rwa [hsize]⟩
  rw [← hkind]
  refine findIdx?_congr fun s hs ↦ ?_
  have hle : s.length ≤ at' := by rw [length_selector hs]; exact hselector
  rw [Bool.eq_iff_iff, List.isPrefixOf_iff_prefix, List.isPrefixOf_iff_prefix,
    prefix_writeAt_iff (by omega) hle]

end MakerSdk.Venues
