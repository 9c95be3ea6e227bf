import Mathlib.Data.Nat.Digits.Lemmas

namespace MakerSdk.Base.Radix

variable {a b : ℕ} {digits : List ℕ}

/-- The same number in another radix, most significant digit first; each leading zero stays a
digit of its own. -/
def recode (a b : ℕ) (digits : List ℕ) : List ℕ :=
  digits.takeWhile (· = 0) ++ (Nat.digits b (Nat.ofDigits a digits.reverse)).reverse

theorem exists_leading (digits : List ℕ) :
    ∃ zeros rest, digits = List.replicate zeros 0 ++ rest ∧ ∀ d ∈ rest.head?, d ≠ 0 := by
  induction digits with
  | nil => exact ⟨0, [], rfl, fun _ h ↦ by cases h⟩
  | cons d digits ih =>
    by_cases hd : d = 0
    · obtain ⟨zeros, rest, rfl, hhead⟩ := ih
      exact ⟨zeros + 1, rest, by rw [hd, List.replicate_succ, List.cons_append], hhead⟩
    · exact ⟨0, d :: digits, rfl, fun e he ↦ by cases he; exact hd⟩

theorem recode_leading {zeros : ℕ} {rest : List ℕ} (h : ∀ d ∈ rest.head?, d ≠ 0) :
    recode a b (List.replicate zeros 0 ++ rest) =
      List.replicate zeros 0 ++ (Nat.digits b (Nat.ofDigits a rest.reverse)).reverse := by
  have htake : (List.replicate zeros 0 ++ rest).takeWhile (· = 0) = List.replicate zeros 0 := by
    rw [List.takeWhile_append_of_pos (by simp)]
    cases rest with
    | nil => simp
    | cons d rest => simp [h d rfl]
  rw [recode, htake, List.reverse_append, List.reverse_replicate,
    Nat.ofDigits_append_replicate_zero]

theorem head?_digits (b n : ℕ) : ∀ d ∈ (Nat.digits b n).reverse.head?, d ≠ 0 := by
  intro d hd
  rw [List.head?_reverse] at hd
  have hne : Nat.digits b n ≠ [] := List.ne_nil_of_mem (List.mem_of_getLast? hd)
  rw [List.getLast?_eq_some_getLast hne] at hd
  cases hd
  exact Nat.getLast_digit_ne_zero b (Nat.digits_ne_nil_iff_ne_zero.mp hne)

theorem recode_lt (hb : 1 < b) : ∀ d ∈ recode a b digits, d < b := by
  intro d hd
  obtain ⟨zeros, rest, rfl, hhead⟩ := exists_leading digits
  rw [recode_leading hhead] at hd
  rcases List.mem_append.mp hd with hd | hd
  · have hzero := List.eq_of_mem_replicate hd
    omega
  · exact Nat.digits_lt_base hb (List.mem_reverse.mp hd)

theorem recode_recode (ha : 1 < a) (h : ∀ d ∈ digits, d < a) :
    recode b a (recode a b digits) = digits := by
  obtain ⟨zeros, rest, rfl, hhead⟩ := exists_leading digits
  have hrest : Nat.digits a (Nat.ofDigits a rest.reverse) = rest.reverse := by
    refine Nat.digits_ofDigits a ha _ (fun d hd ↦ ?_) (fun hne ↦ ?_)
    · exact h d (List.mem_append_right _ (List.mem_reverse.mp hd))
    · refine hhead _ ?_
      rw [← List.getLast?_reverse]
      exact List.getLast?_eq_some_getLast hne
  rw [recode_leading hhead, recode_leading (head?_digits b _), List.reverse_reverse,
    Nat.ofDigits_digits, hrest, List.reverse_reverse]

end MakerSdk.Base.Radix
