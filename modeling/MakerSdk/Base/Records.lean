import MakerSdk.Base.Splice
import MakerSdk.Base.Words

namespace MakerSdk.Base.Records

open Bytes Checks Words

def At (data : List UInt8) (offset : ℕ) (bytes : List UInt8) : Prop :=
  offset + bytes.length ≤ data.length ∧ slice data offset bytes.length = bytes

def Spelled (data : List UInt8) (fields : List (ℕ × List UInt8)) : Prop :=
  ∀ field ∈ fields, At data field.1 field.2

section Fields

variable {data : List UInt8} {fields : List (ℕ × List UInt8)} {offset : ℕ}

@[simp] theorem spelled_nil : Spelled data [] := fun _ h ↦ absurd h List.not_mem_nil

@[simp] theorem spelled_cons {field : ℕ × List UInt8} :
    Spelled data (field :: fields) ↔ At data field.1 field.2 ∧ Spelled data fields :=
  List.forall_mem_cons

@[simp] theorem spelled_append {fields' : List (ℕ × List UInt8)} :
    Spelled data (fields ++ fields') ↔ Spelled data fields ∧ Spelled data fields' :=
  List.forall_mem_append

theorem At.writeAt {bytes : List UInt8} (h : At data offset bytes) :
    writeAt data offset bytes = data := by
  apply List.ext_getElem?
  intro i
  rw [getElem?_writeAt h.1]
  split
  · rename_i hi
    have hget := congrArg (fun l ↦ l[i - offset]?) h.2
    rw [← hget]
    simp only [slice]
    rw [List.getElem?_take_of_lt (by omega), List.getElem?_drop]
    congr 1
    omega
  · rfl

theorem Spelled.writeAll (h : Spelled data fields) : writeAll data fields = data := by
  induction fields with
  | nil => rfl
  | cons field fields ih =>
    obtain ⟨hfield, hfields⟩ := spelled_cons.mp h
    change Bytes.writeAll (Bytes.writeAt data field.1 field.2) fields = data
    rw [hfield.writeAt]
    exact ih hfields

theorem spelled_iff_exists {len : ℕ} (h : Layout len (ranges fields)) :
    data.length = len ∧ Spelled data fields ↔
      ∃ padding : List UInt8, padding.length = len ∧ data = Bytes.writeAll padding fields := by
  constructor
  · rintro ⟨hlen, hspelled⟩
    exact ⟨data, hlen, hspelled.writeAll.symm⟩
  · rintro ⟨padding, rfl, rfl⟩
    have hlen := length_writeAll h.1
    refine ⟨hlen, fun field hfield ↦ ⟨?_, slice_writeAll h hfield⟩⟩
    rw [hlen]
    exact h.1 (field.1, field.2.length) (List.mem_map_of_mem hfield)

theorem spelled_take {n : ℕ} (h : n ≤ data.length)
    (hfields : ∀ field ∈ fields, field.1 + field.2.length ≤ n) :
    Spelled (data.take n) fields ↔ Spelled data fields := by
  refine forall₂_congr fun field hfield ↦ ?_
  have hle := hfields field hfield
  rw [At, At, List.length_take, Nat.min_eq_left h, slice, slice, List.drop_take, List.take_take,
    Nat.min_eq_left (by omega)]
  exact and_congr_left' ⟨fun _ ↦ Nat.le_trans hle h, fun _ ↦ hle⟩

end Fields

section Readers

variable {ε : Type} {data : List UInt8} {offset : ℕ}

def arrayAt (n : ℕ) (data : List UInt8) (offset : ℕ) : Checked ε (FixedBytes n) := do
  let bytes ← window data offset n
  pure (.ofList n bytes)

def u32At (data : List UInt8) (offset : ℕ) : Checked ε UInt32 := do
  let bytes ← window data offset 4
  pure (u32OfLe bytes)

def u64At (data : List UInt8) (offset : ℕ) : Checked ε UInt64 := do
  let bytes ← window data offset 8
  pure (u64OfLe bytes)

theorem at_iff_getElem? {b : UInt8} : At data offset [b] ↔ data[offset]? = some b := by
  constructor
  · rintro ⟨hlen, hslice⟩
    have hget := congrArg (fun l ↦ l[0]?) hslice
    simpa [slice] using hget
  · intro h
    obtain ⟨hlt, hget⟩ := List.getElem?_eq_some_iff.mp h
    refine ⟨hlt, ?_⟩
    rw [slice, List.length_singleton, List.drop_eq_getElem_cons hlt, hget]
    rfl

theorem index_eq_ok {b : UInt8} :
    (index data offset : Checked ε UInt8) = .ok b ↔ At data offset [b] :=
  index_ok.trans at_iff_getElem?.symm

theorem read_eq_ok {α : Type} {n : ℕ} {dec : List UInt8 → α} {enc : α → List UInt8} {a : α}
    (hlen : ∀ a, (enc a).length = n) (hdec : ∀ a, dec (enc a) = a)
    (henc : ∀ bytes, bytes.length = n → enc (dec bytes) = bytes) :
    (do let bytes ← window data offset n; pure (dec bytes) : Checked ε α) = .ok a ↔
      At data offset (enc a) := by
  simp only [bind_ok, window_ok, pure_ok]
  constructor
  · rintro ⟨bytes, ⟨hfits, hbytes⟩, rfl⟩
    have hlength : bytes.length = n := by
      rw [← hbytes, List.length_take, List.length_drop]
      omega
    refine ⟨by rwa [hlen], ?_⟩
    rw [hlen, henc bytes hlength]
    exact hbytes
  · rintro ⟨hfits, hslice⟩
    rw [hlen] at hfits hslice
    exact ⟨enc a, ⟨hfits, hslice⟩, hdec a⟩

theorem arrayAt_ok {n : ℕ} {a : FixedBytes n} :
    (arrayAt n data offset : Checked ε (FixedBytes n)) = .ok a ↔ At data offset a.toList :=
  read_eq_ok FixedBytes.length_toList FixedBytes.ofList_toList fun _ ↦ FixedBytes.toList_ofList

theorem u32At_ok {x : UInt32} :
    (u32At data offset : Checked ε UInt32) = .ok x ↔ At data offset (u32ToLe x) :=
  read_eq_ok length_u32ToLe u32OfLe_toLe fun _ ↦ u32ToLe_ofLe

theorem u64At_ok {x : UInt64} :
    (u64At data offset : Checked ε UInt64) = .ok x ↔ At data offset (u64ToLe x) :=
  read_eq_ok length_u64ToLe u64OfLe_toLe fun _ ↦ u64ToLe_ofLe

theorem exists_at {α : Type} {n : ℕ} {dec : List UInt8 → α} {enc : α → List UInt8}
    (hlen : ∀ a, (enc a).length = n) (henc : ∀ bytes, bytes.length = n → enc (dec bytes) = bytes)
    (h : offset + n ≤ data.length) : ∃ a, At data offset (enc a) := by
  have hslice : (slice data offset n).length = n := by
    rw [slice, List.length_take, List.length_drop]
    omega
  refine ⟨dec (slice data offset n), ?_⟩
  rw [At, hlen, henc _ hslice]
  exact ⟨h, rfl⟩

theorem exists_array_at {n : ℕ} (h : offset + n ≤ data.length) :
    ∃ a : FixedBytes n, At data offset a.toList :=
  exists_at FixedBytes.length_toList (fun _ ↦ FixedBytes.toList_ofList) h

theorem exists_u64_at (h : offset + 8 ≤ data.length) : ∃ x, At data offset (u64ToLe x) :=
  exists_at length_u64ToLe (fun _ ↦ u64ToLe_ofLe) h

theorem window_panicked {n : ℕ} {fault : Fault ε}
    (h : (window data offset n : Checked ε (List UInt8)) = .error fault) :
    data.length < offset + n := by
  by_contra hle
  rw [window, if_pos (Nat.not_lt.mp hle)] at h
  cases h

theorem index_panicked {fault : Fault ε}
    (h : (index data offset : Checked ε UInt8) = .error fault) : data.length < offset + 1 := by
  by_contra hle
  rw [index, List.getElem?_eq_getElem (by omega)] at h
  cases h

end Readers

/-- The computation returns exactly the values that are well formed and spelled in the buffer, and
fails only with errors of a kind. -/
structure Reads {ε α : Type} (Fine : ε → Prop) (data : List UInt8) (p : Except ε α)
    (V : α → Prop) (spell : α → List (ℕ × List UInt8)) : Prop where
  ok : ∀ a, p = .ok a ↔ V a ∧ Spelled data (spell a)
  fine : ∀ e, p = .error e → Fine e

section Rules

variable {ε α β : Type} {Fine : ε → Prop} {data : List UInt8} {p : Except ε α}
  {q : α → Except ε β} {V : α → Prop} {W : β → Prop} {spell : α → List (ℕ × List UInt8)}
  {rest : β → List (ℕ × List UInt8)}

theorem Reads.field (part : β → α) (hp : Reads Fine data p V spell) (hV : ∀ b, W b → V (part b))
    (hq : ∀ a, V a → Reads Fine data (q a) (fun b ↦ W b ∧ part b = a) rest) :
    Reads Fine data (p >>= q) W (fun b ↦ spell (part b) ++ rest b) where
  ok b := by
    rw [bind_ok, spelled_append]
    constructor
    · rintro ⟨a, ha, hb⟩
      obtain ⟨ha, hspell⟩ := (hp.ok a).mp ha
      obtain ⟨⟨hW, rfl⟩, hrest⟩ := ((hq a ha).ok b).mp hb
      exact ⟨hW, hspell, hrest⟩
    · rintro ⟨hW, hspell, hrest⟩
      have ha := hV b hW
      exact ⟨part b, (hp.ok _).mpr ⟨ha, hspell⟩, ((hq _ ha).ok b).mpr ⟨⟨hW, rfl⟩, hrest⟩⟩
  fine e h := by
    rcases bind_error.mp h with h | ⟨a, ha, h⟩
    · exact hp.fine e h
    · exact (hq a ((hp.ok a).mp ha).1).fine e h

theorem Reads.next {offset : ℕ} {enc : α → List UInt8} (part : β → α)
    (hp : Reads Fine data p (fun _ ↦ True) (fun a ↦ [(offset, enc a)]))
    (hq : ∀ a, Reads Fine data (q a) (fun b ↦ W b ∧ part b = a) rest) :
    Reads Fine data (p >>= q) W (fun b ↦ (offset, enc (part b)) :: rest b) :=
  hp.field part (fun _ _ ↦ trivial) fun a _ ↦ hq a

theorem Reads.value (part : β → α) (hp : Reads Fine data p V (fun _ ↦ []))
    (hV : ∀ b, W b → V (part b))
    (hq : ∀ a, V a → Reads Fine data (q a) (fun b ↦ W b ∧ part b = a) rest) :
    Reads Fine data (p >>= q) W rest :=
  hp.field part hV hq

theorem reads_pure {a : α} (h : ∀ b, V b ↔ a = b) :
    Reads Fine data (pure a) V (fun _ ↦ []) where
  ok b := by
    rw [pure_ok, h]
    exact (and_iff_left spelled_nil).symm
  fine e h := by cases h

theorem reads_of_ok {y : Except ε α} (h : ∀ a, y = .ok a ↔ V a)
    (hfine : ∀ e, y = .error e → Fine e) : Reads Fine data y V (fun _ ↦ []) where
  ok a := (h a).trans (and_iff_left spelled_nil).symm
  fine := hfine

theorem Reads.guard {c : Prop} [Decidable c] {e : ε} {k : Except ε β} (hfine : Fine e)
    (hc : c → ∀ b, ¬W b) (hk : ¬c → Reads Fine data k W rest) :
    Reads Fine data (refuse c e >>= fun _ ↦ k) W rest := by
  by_cases h : c
  · rw [refuse, if_pos h]
    refine ⟨fun b ↦ ⟨fun hb ↦ ?_, fun hb ↦ absurd hb.1 (hc h b)⟩, fun e' he ↦ ?_⟩
    · cases hb
    · cases he
      exact hfine
  · rw [refuse, if_neg h]
    exact hk h

theorem Reads.congr {V' : α → Prop} {spell' : α → List (ℕ × List UInt8)}
    (hp : Reads Fine data p V spell) (hV : ∀ a, V' a ↔ V a)
    (h : ∀ a, V a → (Spelled data (spell' a) ↔ Spelled data (spell a))) :
    Reads Fine data p V' spell' where
  ok a := by
    rw [hp.ok, hV]
    exact and_congr_right fun ha ↦ (h a ha).symm
  fine := hp.fine

theorem Reads.of_take {n : ℕ} (hp : Reads Fine (data.take n) p V spell) (h : n ≤ data.length)
    (hspell : ∀ a, ∀ field ∈ spell a, field.1 + field.2.length ≤ n) :
    Reads Fine data p V spell where
  ok a := (hp.ok a).trans (and_congr_right' (spelled_take h (hspell a)))
  fine := hp.fine

theorem Reads.some (hp : Reads Fine data p V spell) :
    Reads Fine data (p >>= fun a ↦ pure (some a)) (fun o ↦ ∃ a, o = some a ∧ V a)
      (fun o ↦ o.elim [] spell) where
  ok o := by
    simp only [bind_ok, pure_ok]
    constructor
    · rintro ⟨a, ha, rfl⟩
      obtain ⟨ha, hspell⟩ := (hp.ok a).mp ha
      exact ⟨⟨a, rfl, ha⟩, hspell⟩
    · rintro ⟨⟨a, rfl, ha⟩, hspell⟩
      exact ⟨a, (hp.ok a).mpr ⟨ha, hspell⟩, rfl⟩
  fine e h := by
    rcases bind_error.mp h with h | ⟨a, _, h⟩
    · exact hp.fine e h
    · cases h

end Rules

section Checked

variable {ε : Type} {data : List UInt8} {offset : ℕ}

def NoPanic (fault : Fault ε) : Prop := fault ≠ .panicked

theorem Reads.meets {α : Type} {p : Checked ε α} {V : α → Prop}
    {spell : α → List (ℕ × List UInt8)} (h : Reads NoPanic data p V spell) : Meets V p := by
  cases p with
  | error fault =>
    cases fault with
    | raised e => exact meets_raise e
    | panicked => exact h.fine _ rfl rfl
  | ok a => exact ((h.ok a).mp rfl).1

theorem reads_at {α : Type} {Fine : ε → Prop} {p : Except ε α} {enc : α → List UInt8}
    (hok : ∀ a, p = .ok a ↔ At data offset (enc a)) (hfine : ∀ e, p = .error e → Fine e) :
    Reads Fine data p (fun _ ↦ True) (fun a ↦ [(offset, enc a)]) where
  ok a := by rw [hok, spelled_cons, and_iff_left spelled_nil, true_and]
  fine := hfine

theorem reads_byte (h : offset + 1 ≤ data.length) :
    Reads (NoPanic : Fault ε → Prop) data (index data offset) (fun _ ↦ True)
      (fun b ↦ [(offset, [b])]) :=
  reads_at (fun _ ↦ index_eq_ok) fun _ he ↦ absurd (index_panicked he) (Nat.not_lt.mpr h)

theorem noPanic_read {α : Type} {n : ℕ} {dec : List UInt8 → α} {fault : Fault ε}
    (h : offset + n ≤ data.length)
    (he : (do let bytes ← window data offset n; pure (dec bytes) : Checked ε α) = .error fault) :
    NoPanic fault := by
  rcases bind_error.mp he with he | ⟨_, _, he⟩
  · exact absurd (window_panicked he) (Nat.not_lt.mpr h)
  · cases he

theorem reads_array {n : ℕ} (h : offset + n ≤ data.length) :
    Reads (NoPanic : Fault ε → Prop) data (arrayAt n data offset) (fun _ ↦ True)
      (fun a ↦ [(offset, a.toList)]) :=
  reads_at (fun _ ↦ arrayAt_ok) fun _ ↦ noPanic_read h

theorem reads_u32 (h : offset + 4 ≤ data.length) :
    Reads (NoPanic : Fault ε → Prop) data (u32At data offset) (fun _ ↦ True)
      (fun x ↦ [(offset, u32ToLe x)]) :=
  reads_at (fun _ ↦ u32At_ok) fun _ ↦ noPanic_read h

theorem reads_u64 (h : offset + 8 ≤ data.length) :
    Reads (NoPanic : Fault ε → Prop) data (u64At data offset) (fun _ ↦ True)
      (fun x ↦ [(offset, u64ToLe x)]) :=
  reads_at (fun _ ↦ u64At_ok) fun _ ↦ noPanic_read h

theorem reads_lift {α : Type} {V : α → Prop} {y : Except ε α} (h : ∀ a, y = .ok a ↔ V a) :
    Reads (NoPanic : Fault ε → Prop) data (lift y) V (fun _ ↦ []) := by
  refine reads_of_ok (fun a ↦ lift_ok.trans (h a)) fun e he ↦ ?_
  obtain ⟨_, _, rfl⟩ := mapError_error.mp he
  exact fun hfault ↦ by cases hfault

theorem Reads.check {β : Type} {c : Prop} [Decidable c] {e : ε} {k : Checked ε β} {W : β → Prop}
    {rest : β → List (ℕ × List UInt8)} (hc : c → ∀ b, ¬W b)
    (hk : ¬c → Reads NoPanic data k W rest) :
    Reads NoPanic data (lift (refuse c e) >>= fun _ ↦ k) W rest := by
  have hlift : lift (refuse c e) = refuse c (.raised e) := by
    by_cases h : c <;> simp only [refuse, h, if_true, if_false] <;> rfl
  rw [hlift]
  exact Reads.guard (fun h ↦ by cases h) hc hk

def expect {α : Type} [DecidableEq α] (p : Checked ε α) (a : α) (e : ε) : Checked ε Unit := do
  let found ← p
  lift (refuse (found ≠ a) e)

theorem Reads.expect {α β : Type} [DecidableEq α] {p : Checked ε α} {a : α} {e : ε}
    {k : Checked ε β} {W : β → Prop} {enc : α → List UInt8} {rest : β → List (ℕ × List UInt8)}
    (hp : Reads NoPanic data p (fun _ ↦ True) (fun a ↦ [(offset, enc a)]))
    (hk : Reads NoPanic data k W rest) :
    Reads NoPanic data (Records.expect p a e >>= fun _ ↦ k) W
      (fun b ↦ (offset, enc a) :: rest b) := by
  have hassoc : (Records.expect p a e >>= fun _ ↦ k) =
      p >>= fun found ↦ lift (refuse (found ≠ a) e) >>= fun _ ↦ k := by
    cases p <;> rfl
  rw [hassoc]
  refine Reads.next (fun _ ↦ a) hp fun found ↦ ?_
  refine Reads.check (fun hc b hb ↦ hc hb.2.symm) fun hc ↦ ?_
  exact hk.congr (fun b ↦ and_iff_left (not_not.mp hc).symm) fun _ _ ↦ Iff.rfl

end Checked

end MakerSdk.Base.Records
