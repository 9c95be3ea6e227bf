import MakerSdk.Auth.Challenge

namespace MakerSdk.Auth

def IsLeap (year : ℕ) : Prop := 4 ∣ year ∧ (100 ∣ year → 400 ∣ year)

instance (year : ℕ) : Decidable (IsLeap year) := inferInstanceAs (Decidable (_ ∧ _))

/-- The months alternate between 31 and 30 days, anew from August, but for February. -/
def monthLength (year month : ℕ) : ℕ :=
  if month = 2 then if IsLeap year then 29 else 28
  else 30 + (month + month / 8) % 2

/-- A day of the Gregorian calendar and a second of it, in a year of four digits. -/
structure UtcTime where
  year : ℕ
  month : ℕ
  day : ℕ
  hour : ℕ
  minute : ℕ
  second : ℕ
  year_lt : year < 10000
  month_mem : 1 ≤ month ∧ month ≤ 12
  day_mem : 1 ≤ day ∧ day ≤ monthLength year month
  hour_lt : hour < 24
  minute_lt : minute < 60
  second_lt : second < 60

def digit (n : ℕ) : UInt8 := .ofNat (48 + n)

def two (n : ℕ) : List UInt8 := [digit (n / 10), digit (n % 10)]

def stamp (century year month day hour minute second : ℕ) : List UInt8 :=
  two century ++ two year ++ 45 :: two month ++ 45 :: two day ++ 84 :: two hour ++
    58 :: two minute ++ 58 :: two second ++ [90]

def UtcTime.text (t : UtcTime) : List UInt8 :=
  stamp (t.year / 100) (t.year % 100) t.month t.day t.hour t.minute t.second

section Pairs

variable {b : List UInt8} {i n : ℕ}

theorem fits_eq {bits n : ℕ} {value : ℤ} (hvalue : value = n) (h : n < 2 ^ bits) :
    fits bits value = some n := by
  subst hvalue
  have hlt : (n : ℤ) < 2 ^ bits := by exact_mod_cast h
  simp [fits, hlt]

theorem toNat_digit (h : n < 10) : (digit n).toNat = 48 + n := by
  rw [digit, UInt8.toNat_ofNat']
  omega

structure TwoAt (b : List UInt8) (i n : ℕ) : Prop where
  lt : n < 100
  first : b[i]? = some (digit (n / 10))
  second : b[i + 1]? = some (digit (n % 10))

theorem TwoAt.pair (h : TwoAt b i n) : pair b i = some n := by
  have hn := h.lt
  have htens : (digit (n / 10)).toNat = 48 + n / 10 := toNat_digit (by omega)
  have hunits : (digit (n % 10)).toNat = 48 + n % 10 := toNat_digit (by omega)
  have hfits : fits 8 ((digit (n / 10)).toNat - 48) = some (n / 10) :=
    fits_eq (by rw [htens]; omega) (by omega)
  have hscaled : fits 8 ((n / 10 : ℕ) * 10) = some (n / 10 * 10) :=
    fits_eq (by omega) (by omega)
  have hsum : fits 8 ((n / 10 * 10 : ℕ) + (digit (n % 10)).toNat) = some (n + 48) :=
    fits_eq (by rw [hunits]; omega) (by omega)
  have hlast : fits 8 ((n + 48 : ℕ) - 48) = some n :=
    fits_eq (by omega) (by omega)
  simp only [Auth.pair, h.first, h.second, Option.bind_eq_bind, Option.bind_some, hfits, hscaled,
    hsum, hlast]

theorem isAsciiDigit_iff {c : UInt8} : isAsciiDigit c = true ↔ ∃ x < 10, c = digit x := by
  have hiff : isAsciiDigit c = true ↔ 48 ≤ c.toNat ∧ c.toNat ≤ 57 := by
    simp [isAsciiDigit, UInt8.le_iff_toNat_le]
  rw [hiff]
  constructor
  · intro hc
    refine ⟨c.toNat - 48, by omega, ?_⟩
    rw [← UInt8.toNat_inj, toNat_digit (by omega)]
    omega
  · rintro ⟨x, hx, rfl⟩
    rw [toNat_digit hx]
    omega

end Pairs

section Stamps

variable {b : List UInt8} {century year month day hour minute second : ℕ}

theorem shaped_iff : shaped b = true ↔ ∀ i c, b[i]? = some c → shape i c = true := by
  simp only [shaped, List.all_eq_true, Prod.forall, List.mem_zipIdx_iff_getElem?]
  exact forall_comm

theorem exists_twoAt (hlen : b.length = 20) (hshape : shaped b = true) {i : ℕ} (hi : i + 1 < 20)
    (hfirst : shape i = isAsciiDigit) (hsecond : shape (i + 1) = isAsciiDigit) :
    ∃ n, TwoAt b i n := by
  have hdigit : ∀ j < 20, shape j = isAsciiDigit → ∃ x < 10, b[j]? = some (digit x) := by
    intro j hj hdigit
    have hget := List.getElem?_eq_getElem (hlen ▸ hj : j < b.length)
    obtain ⟨x, hx, hbyte⟩ := isAsciiDigit_iff.mp (hdigit ▸ shaped_iff.mp hshape j _ hget)
    exact ⟨x, hx, hbyte ▸ hget⟩
  obtain ⟨x, hx, hfirst⟩ := hdigit i (by omega) hfirst
  obtain ⟨y, hy, hsecond⟩ := hdigit (i + 1) hi hsecond
  have hdiv : (10 * x + y) / 10 = x := by omega
  have hmod : (10 * x + y) % 10 = y := by omega
  exact ⟨10 * x + y, by omega, by rw [hdiv, hfirst], by rw [hmod, hsecond]⟩

structure Numbers (b : List UInt8) (century year month day hour minute second : ℕ) : Prop where
  century : TwoAt b 0 century
  year : TwoAt b 2 year
  month : TwoAt b 5 month
  day : TwoAt b 8 day
  hour : TwoAt b 11 hour
  minute : TwoAt b 14 minute
  second : TwoAt b 17 second

theorem exists_numbers (hlen : b.length = 20) (hshape : shaped b = true) :
    ∃ century year month day hour minute second,
      Numbers b century year month day hour minute second := by
  obtain ⟨century, hcentury⟩ := exists_twoAt hlen hshape (i := 0) (by decide) rfl rfl
  obtain ⟨year, hyear⟩ := exists_twoAt hlen hshape (i := 2) (by decide) rfl rfl
  obtain ⟨month, hmonth⟩ := exists_twoAt hlen hshape (i := 5) (by decide) rfl rfl
  obtain ⟨day, hday⟩ := exists_twoAt hlen hshape (i := 8) (by decide) rfl rfl
  obtain ⟨hour, hhour⟩ := exists_twoAt hlen hshape (i := 11) (by decide) rfl rfl
  obtain ⟨minute, hminute⟩ := exists_twoAt hlen hshape (i := 14) (by decide) rfl rfl
  obtain ⟨second, hsecond⟩ := exists_twoAt hlen hshape (i := 17) (by decide) rfl rfl
  exact ⟨_, _, _, _, _, _, _, hcentury, hyear, hmonth, hday, hhour, hminute, hsecond⟩

theorem Numbers.eq_stamp (h : Numbers b century year month day hour minute second)
    (hlen : b.length = 20) (hshape : shaped b = true) :
    b = stamp century year month day hour minute second := by
  have hmark : ∀ i c, i < 20 → (∀ byte, shape i byte = true → byte = c) → b[i]? = some c := by
    intro i c hi hc
    have hget := List.getElem?_eq_getElem (hlen ▸ hi : i < b.length)
    exact hc _ (shaped_iff.mp hshape i _ hget) ▸ hget
  have h4 : b[4]? = some 45 := hmark 4 45 (by decide) (by simp [shape])
  have h7 : b[7]? = some 45 := hmark 7 45 (by decide) (by simp [shape])
  have h10 : b[10]? = some 84 := hmark 10 84 (by decide) (by simp [shape])
  have h13 : b[13]? = some 58 := hmark 13 58 (by decide) (by simp [shape])
  have h16 : b[16]? = some 58 := hmark 16 58 (by decide) (by simp [shape])
  have h19 : b[19]? = some 90 := hmark 19 90 (by decide) (by simp [shape])
  obtain ⟨⟨-, h0, h1⟩, ⟨-, h2, h3⟩, ⟨-, h5, h6⟩, ⟨-, h8, h9⟩, ⟨-, h11, h12⟩, ⟨-, h14, h15⟩,
    ⟨-, h17, h18⟩⟩ := h
  refine List.ext_getElem? fun i ↦ ?_
  by_cases hi : i < 20
  · interval_cases i <;> assumption
  · rw [List.getElem?_eq_none (by omega), List.getElem?_eq_none (by simp [stamp, two]; omega)]

theorem stamp_numbers (hcentury : century < 100) (hyear : year < 100) (hmonth : month < 100)
    (hday : day < 100) (hhour : hour < 100) (hminute : minute < 100) (hsecond : second < 100) :
    Numbers (stamp century year month day hour minute second)
      century year month day hour minute second :=
  ⟨⟨hcentury, rfl, rfl⟩, ⟨hyear, rfl, rfl⟩, ⟨hmonth, rfl, rfl⟩, ⟨hday, rfl, rfl⟩,
    ⟨hhour, rfl, rfl⟩, ⟨hminute, rfl, rfl⟩, ⟨hsecond, rfl, rfl⟩⟩

theorem isLeap_iff : IsLeap year ↔ year % 4 = 0 ∧ (year % 100 ≠ 0 ∨ year % 400 = 0) := by
  rw [IsLeap, Nat.dvd_iff_mod_eq_zero, Nat.dvd_iff_mod_eq_zero, Nat.dvd_iff_mod_eq_zero,
    imp_iff_not_or]

theorem daysIn_eq : daysIn year month =
    if 1 ≤ month ∧ month ≤ 12 then some (monthLength year month) else none := by
  by_cases hmonth : month ≤ 12
  · interval_cases month <;> simp [daysIn, monthLength, isLeap_iff]
  · obtain ⟨k, rfl⟩ : ∃ k, month = k + 13 := ⟨month - 13, by omega⟩
    rw [if_neg (by omega)]
    rfl

theorem Numbers.yearOf (h : Numbers b century year month day hour minute second) :
    yearOf b = some (century * 100 + year) := by
  have hc := h.century.lt
  have hy := h.year.lt
  have hhundreds : fits 16 ((century : ℤ) * 100) = some (century * 100) :=
    fits_eq (by omega) (by norm_num; omega)
  have hsum : fits 16 (((century * 100 : ℕ) : ℤ) + year) = some (century * 100 + year) :=
    fits_eq (by omega) (by norm_num; omega)
  rw [Auth.yearOf, h.century.pair, h.year.pair, Option.bind_eq_bind, Option.bind_some, hhundreds,
    Option.bind_some, Option.bind_some, hsum]

theorem Numbers.isUtcSeconds (h : Numbers b century year month day hour minute second)
    (hlen : b.length = 20) (hshape : shaped b = true) :
    isUtcSeconds b = some (decide ((1 ≤ month ∧ month ≤ 12) ∧
      (1 ≤ day ∧ day ≤ monthLength (century * 100 + year) month) ∧ hour < 24 ∧ minute < 60 ∧
        second < 60)) := by
  have hstart : ¬(b.length ≠ 20 ∨ ¬shaped b = true) := by simp [hlen, hshape]
  rw [Auth.isUtcSeconds, if_neg hstart]
  simp only [h.yearOf, h.month.pair, h.day.pair, h.hour.pair, h.minute.pair, h.second.pair,
    Option.bind_eq_bind, Option.bind_some, daysIn_eq]
  split_ifs with hmonth
  · simp [hmonth, and_assoc]
  · simp [hmonth]

theorem isUtcSeconds_isSome (b : List UInt8) : (isUtcSeconds b).isSome = true := by
  by_cases h : b.length = 20 ∧ shaped b = true
  · obtain ⟨_, _, _, _, _, _, _, hnumbers⟩ := exists_numbers h.1 h.2
    rw [hnumbers.isUtcSeconds h.1 h.2]
    rfl
  · rw [isUtcSeconds, if_pos (by tauto)]
    rfl

theorem Numbers.shaped (h : Numbers (stamp century year month day hour minute second)
      century year month day hour minute second) :
    shaped (stamp century year month day hour minute second) = true := by
  have hdigits : ∀ n < 100, isAsciiDigit (digit (n / 10)) = true ∧
      isAsciiDigit (digit (n % 10)) = true := fun n hn ↦
    ⟨isAsciiDigit_iff.mpr ⟨n / 10, by omega, rfl⟩, isAsciiDigit_iff.mpr ⟨n % 10, by omega, rfl⟩⟩
  obtain ⟨⟨hcentury, -⟩, ⟨hyear, -⟩, ⟨hmonth, -⟩, ⟨hday, -⟩, ⟨hhour, -⟩, ⟨hminute, -⟩,
    ⟨hsecond, -⟩⟩ := h
  simp [Auth.shaped, stamp, two, List.zipIdx_cons, shape, *]

theorem isUtcSeconds_iff : isUtcSeconds b = some true ↔ ∃ t : UtcTime, t.text = b := by
  constructor
  · intro h
    have hstart : b.length = 20 ∧ shaped b = true := by
      by_contra hnot
      rw [isUtcSeconds, if_pos (by tauto)] at h
      cases h
    obtain ⟨century, year, month, day, hour, minute, second, hnumbers⟩ :=
      exists_numbers hstart.1 hstart.2
    rw [hnumbers.isUtcSeconds hstart.1 hstart.2, Option.some_inj, decide_eq_true_eq] at h
    obtain ⟨hmonth, hday, hhour, hminute, hsecond⟩ := h
    have hc := hnumbers.century.lt
    have hy := hnumbers.year.lt
    have hdiv : (century * 100 + year) / 100 = century := by omega
    have hmod : (century * 100 + year) % 100 = year := by omega
    refine ⟨⟨century * 100 + year, month, day, hour, minute, second, by omega, hmonth, hday, hhour,
      hminute, hsecond⟩, ?_⟩
    rw [UtcTime.text, hdiv, hmod, ← hnumbers.eq_stamp hstart.1 hstart.2]
  · rintro ⟨t, rfl⟩
    have hlength : monthLength t.year t.month ≤ 31 := by
      unfold monthLength
      split_ifs <;> omega
    have hyear := t.year_lt
    have hmonth := t.month_mem
    have hday := t.day_mem
    have hhour := t.hour_lt
    have hminute := t.minute_lt
    have hsecond := t.second_lt
    have hnumbers := @stamp_numbers (t.year / 100) (t.year % 100) t.month t.day t.hour t.minute
      t.second (by omega) (by omega) (by omega) (by omega) (by omega) (by omega) (by omega)
    have hsame : t.year / 100 * 100 + t.year % 100 = t.year := by omega
    rw [UtcTime.text, hnumbers.isUtcSeconds rfl hnumbers.shaped, hsame]
    simp [hmonth, hday, hhour, hminute, hsecond]

end Stamps

end MakerSdk.Auth
