import MakerSdk.Base.Bytes
import Mathlib.Data.List.Pairwise

namespace MakerSdk.Base.Bytes

section Write

variable {buf src : List UInt8} {offset : ℕ}

theorem getElem?_writeAt (h : offset + src.length ≤ buf.length) (i : ℕ) :
    (writeAt buf offset src)[i]? =
      if offset ≤ i ∧ i < offset + src.length then src[i - offset]? else buf[i]? := by
  have hlen : (buf.take offset).length = offset := by
    rw [List.length_take]
    omega
  rw [writeAt, List.append_assoc]
  by_cases hlo : i < offset
  · rw [List.getElem?_append_left (by omega), List.getElem?_take_of_lt hlo, if_neg (by omega)]
  · rw [List.getElem?_append_right (by omega), hlen]
    by_cases hhi : i < offset + src.length
    · rw [List.getElem?_append_left (by omega), if_pos (by omega)]
    · rw [List.getElem?_append_right (by omega), List.getElem?_drop, if_neg (by omega)]
      congr 1
      omega

theorem length_writeAt (h : offset + src.length ≤ buf.length) :
    (writeAt buf offset src).length = buf.length := by
  simp only [writeAt, List.length_append, List.length_take, List.length_drop]
  omega

theorem drop_writeAt (h : offset + src.length ≤ buf.length) {n : ℕ}
    (hn : offset + src.length ≤ n) : (writeAt buf offset src).drop n = buf.drop n := by
  apply List.ext_getElem?
  intro i
  rw [List.getElem?_drop, List.getElem?_drop, getElem?_writeAt h, if_neg (by omega)]

theorem prefix_writeAt_iff {s : List UInt8} (h : offset ≤ buf.length) (hs : s.length ≤ offset) :
    s <+: writeAt buf offset src ↔ s <+: buf := by
  have htake : (writeAt buf offset src).take offset = buf.take offset := by
    rw [writeAt, List.append_assoc, List.take_append_of_le_length (by rw [List.length_take]; omega),
      List.take_take, Nat.min_self]
  rw [← and_iff_left hs (a := s <+: writeAt buf offset src), ← and_iff_left hs (a := s <+: buf),
    ← List.prefix_take_iff, ← List.prefix_take_iff, htake]

theorem writeAt_append_right (front : List UInt8) (buf src : List UInt8) (offset : ℕ) :
    writeAt (front ++ buf) (front.length + offset) src = front ++ writeAt buf offset src := by
  simp [writeAt, List.take_length_add_append, List.drop_length_add_append, Nat.add_assoc]

theorem writeAt_append_left (back : List UInt8) (h : offset + src.length ≤ buf.length) :
    writeAt (buf ++ back) offset src = writeAt buf offset src ++ back := by
  have hoffset : offset ≤ buf.length := by omega
  simp [writeAt, List.take_append_of_le_length hoffset, List.drop_append_of_le_length h]

theorem writeAt_comm {other : List UInt8} {at' : ℕ} (h : offset + src.length ≤ buf.length)
    (h' : at' + other.length ≤ buf.length)
    (hdisj : offset + src.length ≤ at' ∨ at' + other.length ≤ offset) :
    writeAt (writeAt buf offset src) at' other = writeAt (writeAt buf at' other) offset src := by
  apply List.ext_getElem?
  intro i
  rw [getElem?_writeAt (by rwa [length_writeAt h]), getElem?_writeAt h,
    getElem?_writeAt (by rwa [length_writeAt h']), getElem?_writeAt h']
  by_cases hi : offset ≤ i ∧ i < offset + src.length
  · rw [if_pos hi, if_neg (by omega), if_pos hi]
  · rw [if_neg hi, if_neg hi]

end Write

def slice (buf : List UInt8) (offset len : ℕ) : List UInt8 := (buf.drop offset).take len

theorem slice_writeAt {buf src : List UInt8} {offset : ℕ}
    (h : offset + src.length ≤ buf.length) :
    slice (writeAt buf offset src) offset src.length = src := by
  apply List.ext_getElem?
  intro i
  by_cases hi : i < src.length
  · rw [slice, List.getElem?_take_of_lt hi, List.getElem?_drop, getElem?_writeAt h,
      if_pos (by omega), Nat.add_sub_cancel_left]
  · rw [slice, List.getElem?_take_eq_none (by omega), List.getElem?_eq_none (by omega)]

abbrev Range := ℕ × ℕ

def Range.Apart (r s : Range) : Prop := r.1 + r.2 ≤ s.1 ∨ s.1 + s.2 ≤ r.1

instance (r s : Range) : Decidable (r.Apart s) := inferInstanceAs (Decidable (_ ∨ _))

theorem slice_writeAt_apart {buf src : List UInt8} {r : Range} {offset : ℕ}
    (h : offset + src.length ≤ buf.length) (hr : r.Apart (offset, src.length)) :
    slice (writeAt buf offset src) r.1 r.2 = slice buf r.1 r.2 := by
  simp only [Range.Apart] at hr
  apply List.ext_getElem?
  intro i
  by_cases hi : i < r.2
  · rw [slice, slice, List.getElem?_take_of_lt hi, List.getElem?_take_of_lt hi,
      List.getElem?_drop, List.getElem?_drop, getElem?_writeAt h, if_neg (by omega)]
  · rw [slice, slice, List.getElem?_take_eq_none (by omega),
      List.getElem?_take_eq_none (by omega)]

def Layout (len : ℕ) (ranges : List Range) : Prop :=
  (∀ r ∈ ranges, r.1 + r.2 ≤ len) ∧ ranges.Pairwise Range.Apart

instance (len : ℕ) (ranges : List Range) : Decidable (Layout len ranges) :=
  inferInstanceAs (Decidable (_ ∧ _))

theorem Layout.tail {len : ℕ} {r : Range} {ranges : List Range} (h : Layout len (r :: ranges)) :
    Layout len ranges :=
  ⟨fun s hs ↦ h.1 s (List.mem_cons_of_mem r hs), (List.pairwise_cons.mp h.2).2⟩

def ranges (fields : List (ℕ × List UInt8)) : List Range :=
  fields.map (fun field ↦ (field.1, field.2.length))

def writeAll (buf : List UInt8) (fields : List (ℕ × List UInt8)) : List UInt8 :=
  fields.foldl (fun buf field ↦ writeAt buf field.1 field.2) buf

variable {fields : List (ℕ × List UInt8)}

theorem length_writeAll {buf : List UInt8} (h : ∀ r ∈ ranges fields, r.1 + r.2 ≤ buf.length) :
    (writeAll buf fields).length = buf.length := by
  induction fields generalizing buf with
  | nil => rfl
  | cons field fields ih =>
    have hlen := length_writeAt (h _ List.mem_cons_self)
    calc (writeAll (writeAt buf field.1 field.2) fields).length
        = (writeAt buf field.1 field.2).length :=
          ih (fun r hr ↦ hlen.symm ▸ h r (List.mem_cons_of_mem _ hr))
      _ = buf.length := hlen

theorem slice_writeAll_apart {buf : List UInt8} {r : Range}
    (h : ∀ s ∈ ranges fields, s.1 + s.2 ≤ buf.length) (hr : ∀ s ∈ ranges fields, r.Apart s) :
    slice (writeAll buf fields) r.1 r.2 = slice buf r.1 r.2 := by
  induction fields generalizing buf with
  | nil => rfl
  | cons field fields ih =>
    have hf := h _ List.mem_cons_self
    have hfr := hr _ List.mem_cons_self
    have hlen := length_writeAt hf
    calc slice (writeAll (writeAt buf field.1 field.2) fields) r.1 r.2
        = slice (writeAt buf field.1 field.2) r.1 r.2 :=
          ih (fun s hs ↦ hlen.symm ▸ h s (List.mem_cons_of_mem _ hs))
            (fun s hs ↦ hr s (List.mem_cons_of_mem _ hs))
      _ = slice buf r.1 r.2 := slice_writeAt_apart hf hfr

theorem slice_writeAll {buf : List UInt8} (h : Layout buf.length (ranges fields))
    {field : ℕ × List UInt8} (hfield : field ∈ fields) :
    slice (writeAll buf fields) field.1 field.2.length = field.2 := by
  induction fields generalizing buf with
  | nil => simp at hfield
  | cons first fields ih =>
    have hf := h.1 _ List.mem_cons_self
    have htail : Layout (writeAt buf first.1 first.2).length (ranges fields) := by
      rw [length_writeAt hf]
      exact h.tail
    rcases List.mem_cons.mp hfield with rfl | hlater
    · have hap := (List.pairwise_cons.mp h.2).1
      calc slice (writeAll (writeAt buf field.1 field.2) fields) field.1 field.2.length
          = slice (writeAt buf field.1 field.2) field.1 field.2.length :=
            slice_writeAll_apart htail.1 hap
        _ = field.2 := slice_writeAt hf
    · exact ih htail hlater

theorem writeAll_injective {buf : List UInt8} {fields fields' : List (ℕ × List UInt8)}
    (h : Layout buf.length (ranges fields)) (hshape : ranges fields = ranges fields')
    (heq : writeAll buf fields = writeAll buf fields') : fields = fields' := by
  have hlen : fields.length = fields'.length := by
    simpa [ranges] using congrArg List.length hshape
  apply List.ext_getElem hlen
  intro i hi hi'
  have hrange : (fields[i].1, fields[i].2.length) = (fields'[i].1, fields'[i].2.length) := by
    have hget := congrArg (fun l ↦ l[i]?) hshape
    simpa [ranges, hi, hi'] using hget
  obtain ⟨hoffset, hsize⟩ := Prod.mk.inj hrange
  have hleft := slice_writeAll h (List.getElem_mem hi)
  have hright := slice_writeAll (hshape ▸ h) (List.getElem_mem hi')
  rw [heq, hoffset, hsize, hright] at hleft
  exact Prod.ext hoffset hleft.symm

end MakerSdk.Base.Bytes
