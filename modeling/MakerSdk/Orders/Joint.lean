import MakerSdk.Base.Splice
import MakerSdk.Orders.Preimage
import Mathlib.Data.Set.Function

namespace MakerSdk.Orders

open Base.Bytes Base.Checks Solana

section Fields

theorem u64ToLe_injective {x y : UInt64} (h : u64ToLe x = u64ToLe y) : x = y := by
  rw [← u64OfLe_toLe x, h, u64OfLe_toLe]

theorem toUInt8_injective {a b : Bool} (h : a.toUInt8 = b.toUInt8) : a = b := by
  revert a b
  decide

theorem isTakerBuy_injective {a b : TakerSide} (h : a.isTakerBuy = b.isTakerBuy) : a = b := by
  cases a <;> cases b <;> simp_all [TakerSide.isTakerBuy]

theorem toByte_injective {a b : SpreadType} (h : a.toByte = b.toByte) : a = b := by
  cases a <;> cases b <;> simp_all [SpreadType.toByte]

variable {len : ℕ} (layout : List Range) (hlayout : Layout len layout)

include hlayout

theorem fill_injective {fields fields' : List (ℕ × List UInt8)} (h : ranges fields = layout)
    (h' : ranges fields' = layout) (heq : fill len fields = fill len fields') :
    fields = fields' := by
  have hlen : Layout (List.replicate len (0 : UInt8)).length (ranges fields) := by
    rw [List.length_replicate, h]
    exact hlayout
  exact writeAll_injective hlen (h.trans h'.symm) heq

theorem length_fill {fields : List (ℕ × List UInt8)} (h : ranges fields = layout) :
    (fill len fields).length = len := by
  have hin : ∀ r ∈ ranges fields, r.1 + r.2 ≤ (List.replicate len (0 : UInt8)).length := by
    rw [List.length_replicate, h]
    exact hlayout.1
  exact (length_writeAll hin).trans List.length_replicate

end Fields

def physicalLayout : List Range :=
  [(0, 4), (4, 8), (12, 32), (44, 1), (45, 1), (46, 32), (78, 8), (86, 8), (94, 8), (102, 8),
    (110, 32), (142, 32), (174, 8)]

def spreadLayout : List Range :=
  [(0, 4), (4, 8), (12, 32), (44, 1), (45, 1), (46, 32), (78, 8), (86, 8), (94, 8), (102, 8),
    (174, 8), (182, 8), (110, 32), (142, 32)]

theorem length_buildPhysicalOrderPreimage (args : OrderPreimageArgs) (isPut : Bool) :
    (buildPhysicalOrderPreimage args isPut).length = orderPreimageLen := by
  apply length_fill physicalLayout (by decide)
  simp only [ranges, List.map, length_u64ToLe, FixedBytes.length_toList]
  rfl

theorem buildPhysicalOrderPreimage_injective {args args' : OrderPreimageArgs} {isPut isPut' : Bool}
    (h : buildPhysicalOrderPreimage args isPut = buildPhysicalOrderPreimage args' isPut') :
    isPut = isPut' ∧ { args with positionType := args'.positionType } = args' := by
  have hfields := fill_injective physicalLayout (by decide)
    (by simp only [ranges, List.map, length_u64ToLe, FixedBytes.length_toList]; rfl)
    (by simp only [ranges, List.map, length_u64ToLe, FixedBytes.length_toList]; rfl) h
  simp only [List.cons.injEq, Prod.mk.injEq, true_and, and_true] at hfields
  obtain ⟨hchain, hprogram, hside, hput, hmarket, hstrike, hquantity, hprice, huntil, hmaker,
    htaker, hnonce⟩ := hfields
  refine ⟨toUInt8_injective hput, ?_⟩
  cases args
  cases args'
  simp only [OrderPreimageArgs.mk.injEq]
  exact ⟨u64ToLe_injective hchain, FixedBytes.ext hprogram,
    isTakerBuy_injective (toUInt8_injective hside), trivial, FixedBytes.ext hmarket,
    u64ToLe_injective hstrike, u64ToLe_injective hquantity, u64ToLe_injective hprice,
    u64ToLe_injective huntil, FixedBytes.ext hmaker, FixedBytes.ext htaker,
    u64ToLe_injective hnonce⟩

variable {preimage : List UInt8}

theorem buildOrderPreimage_ok {args : OrderPreimageArgs} :
    buildOrderPreimage args = .ok preimage ↔ args.positionType.isSpread = false ∧
      buildPhysicalOrderPreimage args (args.positionType = .cashSecuredPut) = preimage := by
  simp only [buildOrderPreimage, bind_ok, refuse_ok, pure_ok, exists_const, Bool.not_eq_true]

theorem positionType_eq_of_isPut {a b : PositionType} (ha : a.isSpread = false)
    (hb : b.isSpread = false)
    (h : decide (a = .cashSecuredPut) = decide (b = .cashSecuredPut)) : a = b := by
  cases a <;> cases b <;> simp_all [PositionType.isSpread]

theorem buildOrderPreimage_injective {args args' : OrderPreimageArgs}
    (h : buildOrderPreimage args = .ok preimage) (h' : buildOrderPreimage args' = .ok preimage) :
    args = args' := by
  obtain ⟨hkind, heq⟩ := buildOrderPreimage_ok.mp h
  obtain ⟨hkind', heq'⟩ := buildOrderPreimage_ok.mp h'
  obtain ⟨hput, hargs⟩ := buildPhysicalOrderPreimage_injective (heq.trans heq'.symm)
  rw [← positionType_eq_of_isPut hkind hkind' hput] at hargs
  exact hargs

theorem buildSpreadOrderPreimage_length {args : SpreadOrderPreimageArgs}
    (h : buildSpreadOrderPreimage args = .ok preimage) :
    preimage.length = spreadOrderPreimageLen := by
  simp only [buildSpreadOrderPreimage, bind_ok, pure_ok] at h
  obtain ⟨_, -, rfl⟩ := h
  apply length_fill spreadLayout (by decide)
  simp only [ranges, List.map, length_u64ToLe, FixedBytes.length_toList]
  rfl

theorem buildSpreadOrderPreimage_injective {args args' : SpreadOrderPreimageArgs}
    (h : buildSpreadOrderPreimage args = .ok preimage)
    (h' : buildSpreadOrderPreimage args' = .ok preimage) : args = args' := by
  simp only [buildSpreadOrderPreimage, bind_ok, pure_ok] at h h'
  obtain ⟨_, -, heq⟩ := h
  obtain ⟨_, -, heq'⟩ := h'
  have hfields := fill_injective spreadLayout (by decide)
    (by simp only [ranges, List.map, length_u64ToLe, FixedBytes.length_toList]; rfl)
    (by simp only [ranges, List.map, length_u64ToLe, FixedBytes.length_toList]; rfl)
    (heq.trans heq'.symm)
  simp only [List.cons.injEq, Prod.mk.injEq, true_and, and_true] at hfields
  obtain ⟨hchain, hprogram, hside, hkind, hmarket, hlower, hquantity, hprice, huntil, hnonce,
    hupper, hmaker, htaker⟩ := hfields
  cases args
  cases args'
  simp only [SpreadOrderPreimageArgs.mk.injEq]
  exact ⟨u64ToLe_injective hchain, FixedBytes.ext hprogram,
    isTakerBuy_injective (toUInt8_injective hside), toByte_injective hkind,
    FixedBytes.ext hmarket, u64ToLe_injective hlower, u64ToLe_injective hupper,
    u64ToLe_injective hquantity, u64ToLe_injective hprice, u64ToLe_injective huntil,
    FixedBytes.ext hmaker, FixedBytes.ext htaker, u64ToLe_injective hnonce⟩

inductive OrderTerms where
  | physical (args : OrderPreimageArgs)
  | spread (args : SpreadOrderPreimageArgs)

namespace OrderTerms

def Preimage : OrderTerms → List UInt8 → Prop
  | .physical args, preimage => buildOrderPreimage args = .ok preimage
  | .spread args, preimage => buildSpreadOrderPreimage args = .ok preimage

def OrderId (P : Platform) : OrderTerms → FixedBytes 32 → Prop
  | .physical args, orderId => computeOrderId P args = .ok orderId
  | .spread args, orderId => computeSpreadOrderId P args = .ok orderId

/-- No two of these orders have preimages that the hash confuses. -/
def CollisionFree (P : Platform) (orders : Set OrderTerms) : Prop :=
  Set.InjOn P.sha256 { preimage | ∃ order ∈ orders, order.Preimage preimage }

/-- No signature is valid under this key for the ids of two of these orders. -/
def SignatureBinds (P : Platform) (orders : Set OrderTerms) (key : FixedBytes 32) : Prop :=
  ∀ signature, Set.Subsingleton { orderId | (∃ order ∈ orders, order.OrderId P orderId) ∧
    verifyOrderIdSignatureBytes P orderId signature key = .ok () }

theorem orderId_iff {P : Platform} {order : OrderTerms} {orderId : FixedBytes 32} :
    order.OrderId P orderId ↔
      ∃ preimage, order.Preimage preimage ∧ P.sha256 preimage = orderId := by
  cases order with
  | physical args =>
    simp only [OrderId, Preimage, computeOrderId, bind_ok, pure_ok, hashOrderPreimage]
  | spread args => simp only [OrderId, Preimage, computeSpreadOrderId, bind_ok, pure_ok]

theorem preimage_injective {a b : OrderTerms} {preimage : List UInt8} (ha : a.Preimage preimage)
    (hb : b.Preimage preimage) : a = b := by
  -- The two families differ in length, and within a family the layout determines every field.
  have hlen : ∀ {args : OrderPreimageArgs} {args' : SpreadOrderPreimageArgs},
      buildOrderPreimage args = .ok preimage → buildSpreadOrderPreimage args' ≠ .ok preimage := by
    intro args args' h h'
    have hspread := buildSpreadOrderPreimage_length h'
    rw [← (buildOrderPreimage_ok.mp h).2, length_buildPhysicalOrderPreimage] at hspread
    exact absurd hspread (by decide)
  cases a with
  | physical args =>
    cases b with
    | physical args' => exact congrArg physical (buildOrderPreimage_injective ha hb)
    | spread args' => exact absurd hb (hlen ha)
  | spread args =>
    cases b with
    | physical args' => exact absurd ha (hlen hb)
    | spread args' => exact congrArg spread (buildSpreadOrderPreimage_injective ha hb)

theorem orderId_injective {P : Platform} {orders : Set OrderTerms} (h : CollisionFree P orders)
    {a b : OrderTerms} (ha : a ∈ orders) (hb : b ∈ orders) {orderId : FixedBytes 32}
    (hid : a.OrderId P orderId) (hid' : b.OrderId P orderId) : a = b := by
  obtain ⟨preimage, hpre, hhash⟩ := orderId_iff.mp hid
  obtain ⟨preimage', hpre', hhash'⟩ := orderId_iff.mp hid'
  have heq := h ⟨a, ha, hpre⟩ ⟨b, hb, hpre'⟩ (hhash.trans hhash'.symm)
  subst heq
  exact preimage_injective hpre hpre'

end OrderTerms

/-- A preimage determines its family and every field; so does an order id among orders whose
preimages the hash keeps apart. -/
theorem order_terms_bound (P : Platform) :
    (∀ a b preimage, OrderTerms.Preimage a preimage → OrderTerms.Preimage b preimage → a = b) ∧
    (∀ args isPut args' isPut',
      buildPhysicalOrderPreimage args isPut = buildPhysicalOrderPreimage args' isPut' →
        isPut = isPut' ∧ { args with positionType := args'.positionType } = args') ∧
    ∀ orders, OrderTerms.CollisionFree P orders →
      (∀ a ∈ orders, ∀ b ∈ orders, ∀ orderId, a.OrderId P orderId → b.OrderId P orderId →
        a = b) ∧
      ∀ args args' orderId orderId' key signature, .physical args ∈ orders →
        .spread args' ∈ orders → computeOrderId P args = .ok orderId →
          computeSpreadOrderId P args' = .ok orderId' → OrderTerms.SignatureBinds P orders key →
            verifyOrderIdSignatureBytes P orderId signature key = .ok () →
              verifyOrderIdSignatureBytes P orderId' signature key ≠ .ok () := by
  refine ⟨fun a b preimage ↦ OrderTerms.preimage_injective,
    fun args isPut args' isPut' ↦ buildPhysicalOrderPreimage_injective,
    fun orders hfree ↦ ⟨fun a ha b hb orderId ↦ OrderTerms.orderId_injective hfree ha hb, ?_⟩⟩
  intro args args' orderId orderId' key signature hmem hmem' hid hid' hbinds hverify hverify'
  have hsame : orderId = orderId' :=
    hbinds signature ⟨⟨_, hmem, hid⟩, hverify⟩ ⟨⟨_, hmem', hid'⟩, hverify'⟩
  subst hsame
  cases OrderTerms.orderId_injective hfree hmem hmem' hid hid'

namespace Sample

def program : FixedBytes 32 :=
  keyOfNat 0x1e4a5cd73de4261df2495d470c691c0db3f94ba2fbd50d157831c9746bf3eae5
def underlyingMint : FixedBytes 32 :=
  keyOfNat 0x69b8857feab8184fb687f634618c035dac439dc1aeb3b5598a0f00000000001
def quoteMint : FixedBytes 32 :=
  keyOfNat 0xc6fa7af3bedbad3a3d65f36aabc97431b1bbe4c2d2f6e0e47ca60203452f5d61
def market : FixedBytes 32 :=
  keyOfNat 0x6d4b1f0dc03689dda927960646a3ac0f0b7fea8006b2110c3a7004068f04d855
def maker : FixedBytes 32 :=
  keyOfNat 0xd75a980182b10ab7d54bfed3c964073a0ee172f3daa62325af021a68f707511a
def taker : FixedBytes 32 :=
  keyOfNat 0x3d4017c3e843895a92b70aa74d1b7ebc9c982ccf2ec4968cc0cd55f12af4660c

def expiryTs : UInt64 := 1799395200
def validUntil : UInt64 := 1798185600
def strike : UInt64 := 150000000000
def quantity : UInt64 := 2000000000
def price : UInt64 := 3000000000

/-- The same put, once as a cash secured put and once as a spread down to zero. -/
def physical : OrderPreimageArgs :=
  ⟨0, program, .sell, .cashSecuredPut, market, strike, quantity, price, validUntil, maker, taker,
    77⟩

def spread : SpreadOrderPreimageArgs :=
  ⟨0, program, .sell, .putSpread, market, 0, strike, quantity, price, validUntil, maker, taker,
    77⟩

def physicalId : FixedBytes 32 :=
  keyOfNat 0x14a4388af073894d68b843d4da8e4e4e1bbdd902e69cd049896bb445b080c09b
def spreadId : FixedBytes 32 :=
  keyOfNat 0x6a7a61934b28c783bbd0e223271d6f58a30902514f737c0642912745391a784c

def physicalSignature : FixedBytes 64 :=
  signatureOf 0xa8202aa910e41d5929c667d6a2cc04f7a434a1aaf94c1ea33fcac97a151aca4f
    0xf5d378b9590721abce6e6f42836ff78a29e5082b4275a147180bc62b9526ca0b
def spreadSignature : FixedBytes 64 :=
  signatureOf 0xcba3decd887b6f33da9d5a9cbed9eadbcc9fa28366e1b5de3b38472b9383b583
    0xdac3e9ef6cba497c130341842c4e2e8179c4bb5918f6d06fc8947b79aba44700

def platform : Platform :=
  .ofTables
    [([ascii "market", underlyingMint.toList, quoteMint.toList, u64ToLe expiryTs, [1]], program,
      market)]
    [(buildPhysicalOrderPreimage physical true, physicalId),
      ((buildSpreadOrderPreimage spread).toOption.getD [], spreadId)]
    []
    [(maker, physicalId.toList, physicalSignature), (maker, spreadId.toList, spreadSignature)]

def orders : Set OrderTerms := {.physical physical, .spread spread}

theorem computeOrderId_physical : computeOrderId platform physical = .ok physicalId := by
  decide +kernel

theorem computeSpreadOrderId_spread : computeSpreadOrderId platform spread = .ok spreadId := by
  decide +kernel

theorem orderId_cases {order : OrderTerms} {orderId : FixedBytes 32} (horder : order ∈ orders)
    (hid : order.OrderId platform orderId) :
    order = .physical physical ∧ orderId = physicalId ∨
      order = .spread spread ∧ orderId = spreadId := by
  rcases horder with rfl | rfl
  · exact .inl ⟨rfl, Except.ok.inj (hid.symm.trans computeOrderId_physical)⟩
  · exact .inr ⟨rfl, Except.ok.inj (hid.symm.trans computeSpreadOrderId_spread)⟩

theorem physicalId_ne : physicalId ≠ spreadId := by decide +kernel

theorem collisionFree : OrderTerms.CollisionFree platform orders := by
  rintro p ⟨a, ha, hp⟩ q ⟨b, hb, hq⟩ heq
  rcases orderId_cases ha (OrderTerms.orderId_iff.mpr ⟨p, hp, rfl⟩) with
    ⟨rfl, hid⟩ | ⟨rfl, hid⟩ <;>
  rcases orderId_cases hb (OrderTerms.orderId_iff.mpr ⟨q, hq, rfl⟩) with
    ⟨rfl, hid'⟩ | ⟨rfl, hid'⟩
  · exact Except.ok.inj (hp.symm.trans hq)
  · exact absurd (hid.symm.trans (heq.trans hid')) physicalId_ne
  · exact absurd (hid'.symm.trans (heq.symm.trans hid)) physicalId_ne
  · exact Except.ok.inj (hp.symm.trans hq)

theorem signature_of_verify {orderId : FixedBytes 32} {signature : FixedBytes 64}
    (h : verifyOrderIdSignatureBytes platform orderId signature maker = .ok ()) :
    orderId = physicalId ∧ signature = physicalSignature ∨
      orderId = spreadId ∧ signature = spreadSignature := by
  simp only [verifyOrderIdSignatureBytes, bind_ok, mapError_ok, refuse_ok, not_not, platform,
    Platform.ofTables, List.mem_cons, List.not_mem_nil, or_false, Prod.mk.injEq, true_and,
    decide_eq_true_eq] at h
  obtain ⟨-, ⟨hid, hsignature⟩ | ⟨hid, hsignature⟩⟩ := h
  · exact .inl ⟨FixedBytes.ext hid, hsignature⟩
  · exact .inr ⟨FixedBytes.ext hid, hsignature⟩

theorem signatureBinds : OrderTerms.SignatureBinds platform orders maker := by
  rintro signature orderId ⟨-, h⟩ orderId' ⟨-, h'⟩
  have hne : physicalSignature ≠ spreadSignature := by decide +kernel
  rcases signature_of_verify h with ⟨rfl, rfl⟩ | ⟨rfl, rfl⟩ <;>
  rcases signature_of_verify h' with ⟨rfl, hsame⟩ | ⟨rfl, hsame⟩
  · rfl
  · exact absurd hsame hne
  · exact absurd hsame.symm hne
  · rfl

end Sample

theorem order_terms_bound_sample :
    verifyOrderIdSignatureBytes Sample.platform Sample.physicalId Sample.physicalSignature
        Sample.maker = .ok () ∧
      verifyOrderIdSignatureBytes Sample.platform Sample.spreadId Sample.physicalSignature
        Sample.maker ≠ .ok () := by
  have hverify : verifyOrderIdSignatureBytes Sample.platform Sample.physicalId
      Sample.physicalSignature Sample.maker = .ok () := by decide +kernel
  exact ⟨hverify, ((order_terms_bound Sample.platform).2.2 _ Sample.collisionFree).2 _ _ _ _ _ _
    (.inl rfl) (.inr rfl) Sample.computeOrderId_physical Sample.computeSpreadOrderId_spread
    Sample.signatureBinds hverify⟩

end MakerSdk.Orders
