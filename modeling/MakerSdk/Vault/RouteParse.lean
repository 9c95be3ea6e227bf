import MakerSdk.Base.Codec
import MakerSdk.Base.Splice
import MakerSdk.Base.Words
import MakerSdk.Vault.PriceRoute

namespace MakerSdk.Vault

open Base Base.Bytes Base.Checks Base.Codec Base.Words Solana
open Base.ByteReader (Read Reader take byte)

def maxPriceBricks : ℕ := 6
def maxPriceRouteBytes : ℕ := 640
def maxRatioDiscriminatorLen : ℕ := 8

def header (data : List UInt8) (len : ℕ) (discriminator version : UInt8) :
    Checked VaultChainError (List UInt8) := do
  lift (refuse (data.length < len) (.accountTooShort len data.length))
  let kind ← index data 0
  lift (refuse (kind ≠ discriminator) (.discriminator discriminator kind))
  let found ← index data 1
  lift (refuse (found ≠ version) (.version found))
  pure (data.take len)

section Reader

def brickTruncated : VaultChainError := .priceRoute "brick is truncated"

def readField : Read VaultChainError RatioField := do
  let position ← readU16 brickTruncated
  let width ← byte brickTruncated
  pure ⟨position, width⟩

def optional {α : Type} (p : Read VaultChainError α) : Read VaultChainError (Option α) :=
  readOption brickTruncated (.priceRoute "option tag must be 0 or 1") p

def readI8 : Read VaultChainError Int8 := do
  let bits ← byte brickTruncated
  pure bits.toInt8

def readDiscriminator : Read VaultChainError (List UInt8) := do
  let len ← byte brickTruncated
  if len.toNat > maxRatioDiscriminatorLen then
    throw (.priceRoute "ratio discriminator exceeds 8 bytes")
  else take brickTruncated len.toNat

def readUnit : Read VaultChainError FreshnessUnit := do
  let tag ← byte brickTruncated
  match tag with
  | 0 => pure .epoch
  | 1 => pure .slot
  | 2 => pure .unixSecond
  | _ => throw (.priceRoute "unknown freshness unit")

def readFreshness : Read VaultChainError RatioFreshness := do
  let unit ← readUnit
  let position ← readU16 brickTruncated
  let maxLag ← readU32 brickTruncated
  pure ⟨unit, position, maxLag⟩

def readSource : Read VaultChainError MaturitySource := do
  let brick ← byte brickTruncated
  let startAt ← readU16 brickTruncated
  let durationAt ← readU16 brickTruncated
  pure ⟨brick, startAt, durationAt⟩

def readPyth : Read VaultChainError PythBrick := do
  let feedId ← readArray brickTruncated 32
  let maxAgeSecs ← readU32 brickTruncated
  let minBandPpm ← readU32 brickTruncated
  pure ⟨feedId, maxAgeSecs, minBandPpm⟩

def readAccountRatio : Read VaultChainError AccountRatioBrick := do
  let account ← readArray brickTruncated 32
  let owner ← readArray brickTruncated 32
  let programData ← readArray brickTruncated 32
  let deploySlot ← readU64 brickTruncated
  let discriminator ← readDiscriminator
  let minLen ← readU16 brickTruncated
  let mintAt ← optional (readU16 brickTruncated)
  let numerator ← readField
  let denominator ← readField
  let scaleExp ← readI8
  let minDenominator ← readU64 brickTruncated
  let min ← readU128 brickTruncated
  let max ← readU128 brickTruncated
  let freshness ← optional readFreshness
  pure ⟨account, owner, programData, deploySlot, discriminator, minLen, mintAt, numerator,
    denominator, scaleExp, minDenominator, min, max, freshness⟩

def readMaturityDiscount : Read VaultChainError MaturityDiscountBrick := do
  let maturity ← readU64 brickTruncated
  let apyLowPpm ← readU32 brickTruncated
  let apyMidPpm ← readU32 brickTruncated
  let apyHighPpm ← readU32 brickTruncated
  let maturitySource ← optional readSource
  pure ⟨maturity, apyLowPpm, apyMidPpm, apyHighPpm, maturitySource⟩

def readGrowthCap : Read VaultChainError GrowthCapBrick := do
  let anchorRate ← readU128 brickTruncated
  let anchorTs ← readU64 brickTruncated
  let maxGrowthPpm ← readU32 brickTruncated
  let maxAnchorAgeSecs ← readU32 brickTruncated
  pure ⟨anchorRate, anchorTs, maxGrowthPpm, maxAnchorAgeSecs⟩

def PriceBrick.decode : Read VaultChainError PriceBrick := do
  let kind ← byte brickTruncated
  match kind with
  | 0 => do
    let brick ← readPyth
    pure (.pyth brick)
  | 1 => do
    let brick ← readAccountRatio
    pure (.accountRatio brick)
  | 2 => do
    let brick ← readMaturityDiscount
    pure (.maturityDiscount brick)
  | 3 => do
    let max ← readU128 brickTruncated
    pure (.clampMax max)
  | 4 => do
    let brick ← readGrowthCap
    pure (.growthCap brick)
  | _ => throw (.priceRoute "unknown brick kind")

end Reader

def PriceBrick.accountCount : PriceBrick → ℕ
  | .pyth _ => 1
  | .accountRatio _ => 2
  | .maturityDiscount _ | .clampMax _ | .growthCap _ => 0

namespace PriceRoute

def len : ℕ := 696

def parse (data : List UInt8) : Checked VaultChainError PriceRoute := do
  lift (refuse (data.length ≠ len) (.accountLength len data.length))
  let data ← header data len 15 1
  let brickLen ← window data 4 2
  let brickLen := (u16OfLe brickLen).toNat
  lift (refuse (brickLen > maxPriceRouteBytes) (.priceRoute "bricks exceed 640 bytes"))
  let area ← window data 48 brickLen
  let read ← lift
    (readAll (.priceRoute "more than 6 bricks") PriceBrick.decode maxPriceBricks ⟨area, 0⟩)
  let bricks := read.1
  lift (refuse (bricks = []) (.priceRoute "route has no bricks"))
  let declared ← index data 3
  lift (refuse ((bricks.map PriceBrick.accountCount).sum ≠ declared.toNat)
    (.priceRoute "account count does not match the bricks"))
  let mint ← window data 8 32
  let maxSkewSecs ← window data 40 4
  let updatedSlot ← window data 688 8
  pure ⟨.ofList 32 mint, u32OfLe maxSkewSecs, bricks, u64OfLe updatedSlot⟩

end PriceRoute

section Encode

def RatioField.encode (field : RatioField) : List UInt8 := u16ToLe field.position ++ [field.width]

def FreshnessUnit.tag : FreshnessUnit → UInt8
  | .epoch => 0
  | .slot => 1
  | .unixSecond => 2

def RatioFreshness.encode (freshness : RatioFreshness) : List UInt8 :=
  [freshness.unit.tag] ++ (u16ToLe freshness.position ++ u32ToLe freshness.maxLag)

def MaturitySource.encode (source : MaturitySource) : List UInt8 :=
  [source.brick] ++ (u16ToLe source.startAt ++ u16ToLe source.durationAt)

def PythBrick.encode (brick : PythBrick) : List UInt8 :=
  brick.feedId.toList ++ (u32ToLe brick.maxAgeSecs ++ u32ToLe brick.minBandPpm)

def encodeDiscriminator (discriminator : List UInt8) : List UInt8 :=
  [.ofNat discriminator.length] ++ discriminator

def AccountRatioBrick.encode (brick : AccountRatioBrick) : List UInt8 :=
  brick.account.toList ++ (brick.owner.toList ++ (brick.programData.toList ++
  (u64ToLe brick.deploySlot ++ (encodeDiscriminator brick.discriminator ++
  (u16ToLe brick.minLen ++ (optionToBytes u16ToLe brick.mintAt ++
  (brick.numerator.encode ++ (brick.denominator.encode ++ ([brick.scaleExp.toUInt8] ++
  (u64ToLe brick.minDenominator ++ (u128ToLe brick.min ++ (u128ToLe brick.max ++
  optionToBytes RatioFreshness.encode brick.freshness))))))))))))

def MaturityDiscountBrick.encode (brick : MaturityDiscountBrick) : List UInt8 :=
  u64ToLe brick.maturity ++ (u32ToLe brick.apyLowPpm ++ (u32ToLe brick.apyMidPpm ++
  (u32ToLe brick.apyHighPpm ++ optionToBytes MaturitySource.encode brick.maturitySource)))

def GrowthCapBrick.encode (brick : GrowthCapBrick) : List UInt8 :=
  u128ToLe brick.anchorRate ++ (u64ToLe brick.anchorTs ++
  (u32ToLe brick.maxGrowthPpm ++ u32ToLe brick.maxAnchorAgeSecs))

namespace PriceBrick

def kind : PriceBrick → UInt8
  | .pyth _ => 0
  | .accountRatio _ => 1
  | .maturityDiscount _ => 2
  | .clampMax _ => 3
  | .growthCap _ => 4

def payload : PriceBrick → List UInt8
  | .pyth brick => brick.encode
  | .accountRatio brick => brick.encode
  | .maturityDiscount brick => brick.encode
  | .clampMax max => u128ToLe max
  | .growthCap brick => brick.encode

def encode (brick : PriceBrick) : List UInt8 := [brick.kind] ++ brick.payload

def WellFormed : PriceBrick → Prop
  | .accountRatio brick => brick.discriminator.length ≤ maxRatioDiscriminatorLen
  | _ => True

end PriceBrick

end Encode

section Bricks

theorem decodes_field : Decodes readField (fun _ ↦ True) RatioField.encode := by
  refine (decodes_u16 _).next RatioField.position fun position ↦ ?_
  refine (decodes_byte _).case (RatioField.mk position) (fun field ↦ ?_) fun _ _ ↦ rfl
  cases field
  simp [eq_comm]

theorem decodes_i8 : Decodes readI8 (fun _ ↦ True) (fun x ↦ [x.toUInt8]) := by
  refine (decodes_byte _).case UInt8.toInt8 (fun x ↦ ?_) fun _ _ ↦ rfl
  exact ⟨fun _ ↦ ⟨x.toUInt8, trivial, rfl⟩, fun _ ↦ trivial⟩

theorem decodes_discriminator : Decodes readDiscriminator
    (fun discriminator ↦ discriminator.length ≤ maxRatioDiscriminatorLen)
    encodeDiscriminator := by
  refine (decodes_byte _).next (fun discriminator : List UInt8 ↦ .ofNat discriminator.length)
    fun len ↦ ?_
  split
  · rename_i hlen
    refine decodes_throw _ fun discriminator h ↦ ?_
    obtain ⟨h, rfl⟩ := h
    rw [UInt8.toNat_ofNat'] at hlen
    simp only [maxRatioDiscriminatorLen] at h hlen
    omega
  · rename_i hlen
    refine (decodes_take _ len.toNat).of_iff fun discriminator ↦ ?_
    rw [← UInt8.toNat_inj, UInt8.toNat_ofNat']
    have hlt := len.toNat_lt
    simp only [maxRatioDiscriminatorLen] at hlen ⊢
    constructor <;> omega

theorem decodes_unit : Decodes readUnit (fun _ ↦ True) (fun unit ↦ [unit.tag] ++ []) := by
  refine (decodes_byte _).next FreshnessUnit.tag fun tag ↦ ?_
  split
  · refine decodes_pure fun unit ↦ ?_
    cases unit <;> decide
  · refine decodes_pure fun unit ↦ ?_
    cases unit <;> decide
  · refine decodes_pure fun unit ↦ ?_
    cases unit <;> decide
  · rename_i h0 h1 h2
    refine decodes_throw _ fun unit h ↦ ?_
    cases unit with
    | epoch => exact h0 h.2.symm
    | slot => exact h1 h.2.symm
    | unixSecond => exact h2 h.2.symm

theorem decodes_freshness : Decodes readFreshness (fun _ ↦ True) RatioFreshness.encode := by
  refine decodes_unit.next RatioFreshness.unit fun unit ↦ ?_
  refine (decodes_u16 _).next RatioFreshness.position fun position ↦ ?_
  refine (decodes_u32 _).case (RatioFreshness.mk unit position) (fun freshness ↦ ?_) fun _ _ ↦ rfl
  cases freshness
  simp [eq_comm]

theorem decodes_source : Decodes readSource (fun _ ↦ True) MaturitySource.encode := by
  refine (decodes_byte _).next MaturitySource.brick fun brick ↦ ?_
  refine (decodes_u16 _).next MaturitySource.startAt fun startAt ↦ ?_
  refine (decodes_u16 _).case (MaturitySource.mk brick startAt) (fun source ↦ ?_) fun _ _ ↦ rfl
  cases source
  simp [eq_comm]

theorem decodes_pyth : Decodes readPyth (fun _ ↦ True) PythBrick.encode := by
  refine (decodes_array _ 32).next PythBrick.feedId fun feedId ↦ ?_
  refine (decodes_u32 _).next PythBrick.maxAgeSecs fun maxAgeSecs ↦ ?_
  refine (decodes_u32 _).case (PythBrick.mk feedId maxAgeSecs) (fun brick ↦ ?_) fun _ _ ↦ rfl
  cases brick
  simp [eq_comm]

theorem decodes_optional {α : Type} {p : Read VaultChainError α} {enc : α → List UInt8}
    (hp : Decodes p (fun _ ↦ True) enc) :
    Decodes (optional p) (fun _ ↦ True) (optionToBytes enc) :=
  (decodes_option _ _ hp).of_iff fun _ ↦ ⟨fun _ _ _ ↦ trivial, fun _ ↦ trivial⟩

theorem decodes_accountRatio : Decodes readAccountRatio
    (fun brick ↦ brick.discriminator.length ≤ maxRatioDiscriminatorLen)
    AccountRatioBrick.encode := by
  refine (decodes_array _ 32).next AccountRatioBrick.account fun account ↦ ?_
  refine (decodes_array _ 32).next AccountRatioBrick.owner fun owner ↦ ?_
  refine (decodes_array _ 32).next AccountRatioBrick.programData fun programData ↦ ?_
  refine (decodes_u64 _).next AccountRatioBrick.deploySlot fun deploySlot ↦ ?_
  refine decodes_discriminator.field AccountRatioBrick.discriminator (fun _ h ↦ ?_)
    fun discriminator hlen ↦ ?_
  · exact h.1.1.1.1
  refine (decodes_u16 _).next AccountRatioBrick.minLen fun minLen ↦ ?_
  refine (decodes_optional (decodes_u16 _)).next AccountRatioBrick.mintAt fun mintAt ↦ ?_
  refine decodes_field.next AccountRatioBrick.numerator fun numerator ↦ ?_
  refine decodes_field.next AccountRatioBrick.denominator fun denominator ↦ ?_
  refine decodes_i8.next AccountRatioBrick.scaleExp fun scaleExp ↦ ?_
  refine (decodes_u64 _).next AccountRatioBrick.minDenominator fun minDenominator ↦ ?_
  refine (decodes_u128 _).next AccountRatioBrick.min fun min ↦ ?_
  refine (decodes_u128 _).next AccountRatioBrick.max fun max ↦ ?_
  refine (decodes_optional decodes_freshness).case (AccountRatioBrick.mk account owner programData
    deploySlot discriminator minLen mintAt numerator denominator scaleExp minDenominator min max)
    (fun brick ↦ ?_) fun _ _ ↦ rfl
  constructor
  · intro h
    cases brick
    simp_all
  · rintro ⟨freshness, -, rfl⟩
    simpa using hlen

theorem decodes_maturityDiscount :
    Decodes readMaturityDiscount (fun _ ↦ True) MaturityDiscountBrick.encode := by
  refine (decodes_u64 _).next MaturityDiscountBrick.maturity fun maturity ↦ ?_
  refine (decodes_u32 _).next MaturityDiscountBrick.apyLowPpm fun apyLowPpm ↦ ?_
  refine (decodes_u32 _).next MaturityDiscountBrick.apyMidPpm fun apyMidPpm ↦ ?_
  refine (decodes_u32 _).next MaturityDiscountBrick.apyHighPpm fun apyHighPpm ↦ ?_
  refine (decodes_optional decodes_source).case
    (MaturityDiscountBrick.mk maturity apyLowPpm apyMidPpm apyHighPpm) (fun brick ↦ ?_)
    fun _ _ ↦ rfl
  cases brick
  simp [eq_comm, and_assoc]

theorem decodes_growthCap : Decodes readGrowthCap (fun _ ↦ True) GrowthCapBrick.encode := by
  refine (decodes_u128 _).next GrowthCapBrick.anchorRate fun anchorRate ↦ ?_
  refine (decodes_u64 _).next GrowthCapBrick.anchorTs fun anchorTs ↦ ?_
  refine (decodes_u32 _).next GrowthCapBrick.maxGrowthPpm fun maxGrowthPpm ↦ ?_
  refine (decodes_u32 _).case (GrowthCapBrick.mk anchorRate anchorTs maxGrowthPpm)
    (fun brick ↦ ?_) fun _ _ ↦ rfl
  cases brick
  simp [eq_comm, and_assoc]

theorem decodes_brick : Decodes PriceBrick.decode PriceBrick.WellFormed PriceBrick.encode := by
  refine (decodes_byte _).next PriceBrick.kind fun kind ↦ ?_
  split
  · refine decodes_pyth.case PriceBrick.pyth (fun brick ↦ ?_) fun _ _ ↦ rfl
    cases brick <;> simp [PriceBrick.kind, PriceBrick.WellFormed]
  · refine decodes_accountRatio.case PriceBrick.accountRatio (fun brick ↦ ?_) fun _ _ ↦ rfl
    cases brick <;> simp [PriceBrick.kind, PriceBrick.WellFormed]
  · refine decodes_maturityDiscount.case PriceBrick.maturityDiscount (fun brick ↦ ?_) fun _ _ ↦ rfl
    cases brick <;> simp [PriceBrick.kind, PriceBrick.WellFormed]
  · refine (decodes_u128 _).case PriceBrick.clampMax (fun brick ↦ ?_) fun _ _ ↦ rfl
    cases brick <;> simp [PriceBrick.kind, PriceBrick.WellFormed]
  · refine decodes_growthCap.case PriceBrick.growthCap (fun brick ↦ ?_) fun _ _ ↦ rfl
    cases brick <;> simp [PriceBrick.kind, PriceBrick.WellFormed]
  · rename_i h0 h1 h2 h3 h4
    refine decodes_throw _ fun brick h ↦ ?_
    cases brick with
    | pyth => exact h0 h.2.symm
    | accountRatio => exact h1 h.2.symm
    | maturityDiscount => exact h2 h.2.symm
    | clampMax => exact h3 h.2.symm
    | growthCap => exact h4 h.2.symm

theorem encode_ne_nil (brick : PriceBrick) : brick.encode ≠ [] := List.cons_ne_nil _ _

theorem length_accounts (P : Platform) (shard : UInt16) (brick : PriceBrick) :
    (brick.accounts P shard).length = brick.accountCount := by
  cases brick <;> rfl

end Bricks

namespace PriceRoute

def declaredLen (data : List UInt8) : ℕ := (u16OfLe (slice data 4 2)).toNat

def brickArea (data : List UInt8) : List UInt8 := slice data 48 (declaredLen data)

structure Spelled (data : List UInt8) (bricks : List PriceBrick) : Prop where
  length : data.length = len
  discriminator : data[0]? = some 15
  version : data[1]? = some 1
  fits : declaredLen data ≤ maxPriceRouteBytes
  some : 1 ≤ bricks.length
  few : bricks.length ≤ maxPriceBricks
  wellFormed : ∀ brick ∈ bricks, brick.WellFormed
  area : brickArea data = bricks.flatMap PriceBrick.encode
  accounts : data[3]?.map UInt8.toNat = .some (bricks.map PriceBrick.accountCount).sum

section Parse

variable {data : List UInt8} {route : PriceRoute}

theorem header_ok {len : ℕ} {discriminator version : UInt8} {data' : List UInt8} :
    header data len discriminator version = .ok data' ↔
      len ≤ data.length ∧ data[0]? = some discriminator ∧ data[1]? = some version ∧
        data.take len = data' := by
  simp only [header, bind_ok, lift_ok, refuse_ok, index_ok, pure_ok, Nat.not_lt, not_not]
  constructor
  · rintro ⟨-, hlen, kind, hkind, -, rfl, found, hfound, -, rfl, rfl⟩
    exact ⟨hlen, hkind, hfound, rfl⟩
  · rintro ⟨hlen, hkind, hfound, rfl⟩
    exact ⟨(), hlen, _, hkind, (), rfl, _, hfound, (), rfl, rfl⟩

theorem readBricks_ok {full : VaultChainError} {area : List UInt8} {bricks : List PriceBrick}
    {r : Reader} :
    readAll full PriceBrick.decode maxPriceBricks ⟨area, 0⟩ = .ok (bricks, r) ↔
      bricks.length ≤ maxPriceBricks ∧ (∀ brick ∈ bricks, brick.WellFormed) ∧
        area = bricks.flatMap PriceBrick.encode ∧ r = .between area [] :=
  @readAll_ok _ _ _ _ _ full decodes_brick (fun brick _ ↦ encode_ne_nil brick) _ [] area bricks r

theorem spelled_of_parse (h : parse data = .ok route) : Spelled data route.bricks := by
  simp only [parse, bind_ok, lift_ok, refuse_ok, window_ok, index_ok, pure_ok, header_ok,
    not_not, Nat.not_lt] at h
  obtain ⟨-, hlen, data', ⟨-, hkind, hversion, rfl⟩, brickLen, ⟨-, rfl⟩, -, hle, area, ⟨-, rfl⟩,
    ⟨bricks, r⟩, hread, -, hne, declared, hdeclared, -, hsum, mint, -, skew, -, slot, -, rfl⟩ := h
  rw [← hlen, List.take_length] at hle hread hdeclared
  obtain ⟨hfew, hwellFormed, harea, -⟩ := readBricks_ok.mp hread
  refine ⟨hlen, hkind, hversion, hle, ?_, hfew, hwellFormed, harea, ?_⟩
  · exact Nat.pos_of_ne_zero fun h ↦ hne (List.eq_nil_of_length_eq_zero h)
  · rw [hdeclared, hsum]
    rfl

theorem parse_of_spelled {bricks : List PriceBrick} (h : Spelled data bricks) :
    parse data = .ok ⟨.ofList 32 (slice data 8 32), u32OfLe (slice data 40 4), bricks,
      u64OfLe (slice data 688 8)⟩ := by
  have hlen : data.length = 696 := h.length
  have hle : declaredLen data ≤ 640 := h.fits
  have hheader : header data len 15 1 = .ok data :=
    header_ok.mpr ⟨Nat.le_of_eq hlen.symm, h.discriminator, h.version,
      List.take_of_length_le (Nat.le_of_eq hlen)⟩
  obtain ⟨declared, hdeclared, hsum⟩ := Option.map_eq_some_iff.mp h.accounts
  have hread : readAll (.priceRoute "more than 6 bricks") PriceBrick.decode maxPriceBricks
      ⟨brickArea data, 0⟩ = .ok (bricks, .between (brickArea data) []) :=
    readBricks_ok.mpr ⟨h.few, h.wellFormed, h.area, rfl⟩
  have hne : bricks ≠ [] := List.ne_nil_of_length_pos h.some
  simp only [parse, bind_ok, lift_ok, refuse_ok, window_ok, index_ok, pure_ok, not_not, Nat.not_lt]
  exact ⟨(), hlen, data, hheader, slice data 4 2, ⟨by omega, rfl⟩, (), hle, brickArea data,
    ⟨by change 48 + declaredLen data ≤ _; omega, rfl⟩, _, hread, (), hne, declared, hdeclared, (),
    hsum.symm, slice data 8 32, ⟨by omega, rfl⟩, slice data 40 4, ⟨by omega, rfl⟩,
    slice data 688 8, ⟨by omega, rfl⟩, rfl⟩

theorem meets_header {len : ℕ} {discriminator version : UInt8} (h : 2 ≤ len) :
    Meets (fun data' ↦ data' = data.take len ∧ len ≤ data.length)
      (header data len discriminator version) := by
  refine (meets_lift fun _ h ↦ refuse_ok.mp h).bind fun _ hlen ↦ ?_
  rw [Nat.not_lt] at hlen
  refine (meets_index (by omega)).bind fun _ _ ↦ ?_
  refine (meets_lift fun _ _ ↦ trivial).bind fun _ (_ : True) ↦ ?_
  refine (meets_index (by omega)).bind fun _ _ ↦ ?_
  refine (meets_lift fun _ _ ↦ trivial).bind fun _ (_ : True) ↦ ?_
  exact meets_pure ⟨rfl, hlen⟩

theorem meets_parse : Meets (fun _ ↦ True) (parse data) := by
  refine (meets_lift fun _ _ ↦ trivial).bind fun _ (_ : True) ↦ ?_
  refine (meets_header (by decide)).bind fun data' hdata ↦ ?_
  have hlen : data'.length = 696 := by
    rw [hdata.1, List.length_take_of_le hdata.2]
    rfl
  refine (meets_window (by omega)).bind fun brickLen _ ↦ ?_
  refine (meets_lift fun _ h ↦ refuse_ok.mp h).bind fun _ hle ↦ ?_
  have hle : (u16OfLe brickLen).toNat ≤ 640 := Nat.not_lt.mp hle
  refine (meets_window (by omega)).bind fun area _ ↦ ?_
  refine (meets_lift fun _ _ ↦ trivial).bind fun read (_ : True) ↦ ?_
  refine (meets_lift fun _ _ ↦ trivial).bind fun _ (_ : True) ↦ ?_
  refine (meets_index (by omega)).bind fun declared _ ↦ ?_
  refine (meets_lift fun _ _ ↦ trivial).bind fun _ (_ : True) ↦ ?_
  refine (meets_window (by omega)).bind fun mint _ ↦ ?_
  refine (meets_window (by omega)).bind fun maxSkewSecs _ ↦ ?_
  refine (meets_window (by omega)).bind fun updatedSlot _ ↦ ?_
  exact meets_pure trivial

section Trailing

variable {data' : List UInt8} {bricks : List PriceBrick}

def Agree (data' data : List UInt8) : Prop :=
  data'.take (48 + declaredLen data) = data.take (48 + declaredLen data)

theorem Agree.slice_eq {n m : ℕ} (h : Agree data' data) (hnm : n + m ≤ 48 + declaredLen data) :
    slice data' n m = slice data n m := by
  have hslice := congrArg (fun l : List UInt8 ↦ (l.drop n).take m) h
  simpa only [slice, List.drop_take, List.take_take, Nat.min_eq_left
    (show m ≤ 48 + declaredLen data - n by omega)] using hslice

theorem Agree.getElem?_eq {i : ℕ} (h : Agree data' data) (hi : i < 48) : data'[i]? = data[i]? := by
  have hget := congrArg (·[i]?) h
  simpa only [List.getElem?_take, if_pos (show i < 48 + declaredLen data by omega)] using hget

theorem Agree.declaredLen_eq (h : Agree data' data) : declaredLen data' = declaredLen data := by
  rw [declaredLen, h.slice_eq (by omega)]
  rfl

theorem Agree.symm (h : Agree data' data) : Agree data data' := by
  rw [Agree, h.declaredLen_eq]
  exact Eq.symm h

theorem Agree.spelled (h : Agree data' data) (hlen : data'.length = data.length)
    (hdata : Spelled data bricks) : Spelled data' bricks := by
  refine ⟨hlen.trans hdata.length, (h.getElem?_eq (by decide)).trans hdata.discriminator,
    (h.getElem?_eq (by decide)).trans hdata.version, h.declaredLen_eq ▸ hdata.fits, hdata.some,
    hdata.few, hdata.wellFormed, ?_, ?_⟩
  · rw [brickArea, h.declaredLen_eq, h.slice_eq (Nat.le_refl _)]
    exact hdata.area
  · rw [h.getElem?_eq (by decide)]
    exact hdata.accounts

end Trailing

end Parse

/-- A price route is parsed exactly where it is spelled, whatever follows its bricks. Its accounts
are its own address and as many more as it declares. -/
theorem parse_exact (data : List UInt8) :
    parse data ≠ .error .panicked ∧
    ((∃ route, parse data = .ok route) ↔ ∃ bricks, Spelled data bricks) ∧
    (∀ bricks bricks' : List PriceBrick, (∀ brick ∈ bricks, brick.WellFormed) →
      (∀ brick ∈ bricks', brick.WellFormed) →
      bricks.flatMap PriceBrick.encode = bricks'.flatMap PriceBrick.encode → bricks = bricks') ∧
    (∀ data' : List UInt8, data'.length = data.length →
      Agree data' data → ∀ bricks, Spelled data' bricks ↔ Spelled data bricks) ∧
    ∀ route, parse data = .ok route →
      Spelled data route.bricks ∧
      ∀ P address shard,
        data[3]?.map (fun declared ↦ 1 + declared.toNat) =
          some (route.accounts P address shard).length ∧
        (route.accounts P address shard).head? = some (.newReadonly address false) := by
  refine ⟨meets_parse.ne_panicked, ⟨?_, ?_⟩, ?_,
    fun data' hlen h bricks ↦ ⟨h.symm.spelled hlen.symm, h.spelled hlen⟩, fun route h ↦ ?_⟩
  · rintro ⟨route, h⟩
    exact ⟨route.bricks, spelled_of_parse h⟩
  · rintro ⟨bricks, h⟩
    exact ⟨_, parse_of_spelled h⟩
  · intro bricks bricks' hbricks hbricks' heq
    exact decodes_brick.flatMap_injective (fun brick _ ↦ encode_ne_nil brick) hbricks hbricks' heq
  · have hspelled := spelled_of_parse h
    refine ⟨hspelled, fun P address shard ↦ ⟨?_, rfl⟩⟩
    obtain ⟨declared, hdeclared, hsum⟩ := Option.map_eq_some_iff.mp hspelled.accounts
    have hcounts : (route.bricks.map fun brick ↦ (brick.accounts P shard).length) =
        route.bricks.map PriceBrick.accountCount :=
      List.map_congr_left fun brick _ ↦ length_accounts P shard brick
    rw [hdeclared, accounts, List.length_cons, List.length_flatMap, hcounts, ← hsum, Nat.add_comm]
    rfl

section Sample

def sampleRouteData : List UInt8 :=
  [15, 1, 0, 1] ++ u16ToLe 41 ++ List.replicate 2 0 ++ List.replicate 40 7 ++ [0] ++
    List.replicate 40 1 ++ List.replicate 607 9

theorem parse_exact_pyth : ∃ route, parse sampleRouteData = .ok route ∧
    route.bricks = [.pyth ⟨.ofList 32 (List.replicate 32 1), 0x1010101, 0x1010101⟩] ∧
    ∀ P address shard, (route.accounts P address shard).length = 2 := by
  obtain ⟨-, -, -, -, haccounts⟩ := parse_exact sampleRouteData
  have hparse : parse sampleRouteData = .ok ⟨.ofList 32 (List.replicate 32 7), 0x7070707,
      [.pyth ⟨.ofList 32 (List.replicate 32 1), 0x1010101, 0x1010101⟩], 0x909090909090909⟩ := by
    decide +kernel
  refine ⟨_, hparse, rfl, fun P address shard ↦ ?_⟩
  obtain ⟨hlen, -⟩ := (haccounts _ hparse).2 P address shard
  exact (Option.some_inj.mp hlen).symm

end Sample

end PriceRoute

end MakerSdk.Vault
