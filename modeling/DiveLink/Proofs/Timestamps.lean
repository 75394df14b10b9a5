import DiveLink.Calendar.Rfc3339
import DiveLink.Proofs.Days
import DiveLink.Proofs.Digits

/-!
# A time that was printed is read as that time

The reader takes the parts of a time one after the other from the front of the text. Each part has
a lemma: behind what was printed for the part the reader finds its value and the rest of the text.

1. `number_digits` is that lemma for a run of digits; `field_padded`, `signedYear_year` and
   `nanos_fraction` are those for the numbers of a date and a time of day.
2. `parts_dateTime` puts them together for a whole time, `instant_partsOf` looks it up.
3. `read_utc` and `read_offset`: both prints of an instant are read as that instant, in every year
   of the calendar, with every width of the fraction and in a leap second.
-/

namespace DiveLink

/-- A step that gave a value hands it to the next step. -/
theorem ok_bind {ε α β : Type} (a : α) (f : α → Except ε β) : (Except.ok a >>= f) = f a := rfl

namespace Rfc3339

/-! ## §1 Numbers at the front of a text -/

theorem number_digits {most : Nat} {ds rest : List Char} (hsome : ds ≠ [])
    (hds : ∀ c ∈ ds, c.isDigit = true) (hmost : ds.length ≤ most)
    (hend : ds.length = most ∨ Decimal.NoDigitNext rest) :
    number most (ds ++ rest) = .ok (Decimal.value ds, rest) := by
  -- behind the digits no more characters are wanted, or no digit comes
  have hnext : Decimal.NoDigitNext (rest.take (most - ds.length)) := by
    rcases hend with hfull | hnone
    · rw [hfull, Nat.sub_self, List.take_zero]
      simp [Decimal.NoDigitNext]
    · intro c hc
      rw [List.head?_take] at hc
      split at hc
      · simp at hc
      · exact hnone c hc
  have htaken : ((ds ++ rest).take most).takeWhile Char.isDigit = ds := by
    rw [List.take_append, List.take_of_length_le hmost, Decimal.takeWhile_digits hds hnext]
  simp only [number, htaken]
  rw [if_pos hsome, List.drop_left]

/-- Blanks are no digits, so none are taken off in front of one. -/
theorem trimStart_digits {ds rest : List Char} (hsome : ds ≠ [])
    (hds : ∀ c ∈ ds, c.isDigit = true) : Blank.trimStart (ds ++ rest) = ds ++ rest := by
  cases ds with
  | nil => exact absurd rfl hsome
  | cons c ds =>
    -- no blank has a code from 48 to 57
    have hblank : Blank.isBlank c = false := by
      have hdigit := hds c List.mem_cons_self
      simp only [Char.isDigit, Bool.and_eq_true, decide_eq_true_eq, UInt32.le_iff_toNat_le]
        at hdigit
      change 48 ≤ c.toNat ∧ c.toNat ≤ 57 at hdigit
      simp only [Blank.isBlank, Bool.or_eq_false_iff, Bool.and_eq_false_iff,
        decide_eq_false_iff_not, beq_eq_false_iff_ne]
      omega
    rw [Blank.trimStart, List.cons_append, List.dropWhile_cons_of_neg (by rw [hblank]; decide)]

theorem field_padded {low high n : Nat} {rest : List Char} (hlow : low ≤ n) (hhigh : n ≤ high)
    (htwo : high < 100) : field low high (Decimal.padded 2 n ++ rest) = .ok (n, rest) := by
  have hlength : (Decimal.padded 2 n).length = 2 := Decimal.length_padded (by decide) (by omega)
  have hdigits : ∀ c ∈ Decimal.padded 2 n, c.isDigit = true :=
    fun _ => Decimal.isDigit_of_mem_padded
  rw [field, trimStart_digits (Decimal.padded_ne_nil 2 n) hdigits,
    number_digits (Decimal.padded_ne_nil 2 n) hdigits (by omega) (.inl hlength), ranged, ok_bind,
    Decimal.value_padded]
  simp only [hlow, hhigh, and_self, if_true]
  rfl

theorem mark_cons {c : Char} {rest : List Char} (hblank : Blank.isBlank c = false) :
    mark c (c :: rest) = .ok rest := by
  rw [mark, Blank.trimStart, List.dropWhile_cons_of_neg (by rw [hblank]; decide)]
  simp only [if_true]

/-! ## §2 Years -/

/-- Behind a sign there may be any number of digits. -/
theorem number_year {n : Nat} {rest : List Char} (hrest : Decimal.NoDigitNext rest) :
    number (Decimal.padded 4 n ++ rest).length (Decimal.padded 4 n ++ rest) = .ok (n, rest) := by
  rw [number_digits (Decimal.padded_ne_nil 4 n) (fun _ => Decimal.isDigit_of_mem_padded)
    (by rw [List.length_append]; omega) (.inr hrest), Decimal.value_padded]

/-- A digit is no sign. -/
theorem signedYear_digits {n : Nat} {ds rest behind : List Char} (hsome : ds ≠ [])
    (hds : ∀ c ∈ ds, c.isDigit = true) (hnumber : number 4 (ds ++ rest) = .ok (n, behind)) :
    signedYear (ds ++ rest) = .ok ((n : Int), behind) := by
  obtain ⟨c, cs, rfl⟩ := List.exists_cons_of_ne_nil hsome
  have hdigit := hds c List.mem_cons_self
  rw [signedYear, trimStart_digits hsome hds]
  split
  · rename_i heq
    rw [(List.cons.inj heq).1] at hdigit
    exact absurd hdigit (by decide)
  · rename_i heq
    rw [(List.cons.inj heq).1] at hdigit
    exact absurd hdigit (by decide)
  · rw [hnumber]
    rfl

/-- A year of the calendar, with a sign or without one. -/
theorem signedYear_year {y : Int} {rest : List Char} (hlow : -262143 ≤ y) (hhigh : y ≤ 262142)
    (hrest : Decimal.NoDigitNext rest) : signedYear (year y ++ rest) = .ok (y, rest) := by
  rw [year]
  split_ifs with hplain hbelow
  · -- four digits without a sign
    have hdigits : ∀ c ∈ Decimal.padded 4 y.toNat, c.isDigit = true :=
      fun _ => Decimal.isDigit_of_mem_padded
    have hlength : (Decimal.padded 4 y.toNat).length = 4 :=
      Decimal.length_padded (by decide) (by omega)
    have hnumber : number 4 (Decimal.padded 4 y.toNat ++ rest) = .ok (_, rest) :=
      number_digits (Decimal.padded_ne_nil 4 _) hdigits (Nat.le_of_eq hlength) (.inl hlength)
    rw [signedYear_digits (Decimal.padded_ne_nil 4 _) hdigits hnumber, Decimal.value_padded,
      Int.toNat_of_nonneg hplain.1]
  · rw [List.cons_append, signedYear, Blank.trimStart, List.dropWhile_cons_of_neg (by decide)]
    simp only [number_year hrest, ranged, ok_bind]
    rw [if_pos ⟨Nat.zero_le _, by omega⟩]
    have hy : (-(y.natAbs : Int)) = y := by omega
    exact congrArg (fun y => Except.ok (y, rest)) hy
  · rw [List.cons_append, signedYear, Blank.trimStart, List.dropWhile_cons_of_neg (by decide)]
    simp only [number_year hrest, ranged, ok_bind]
    rw [if_pos ⟨Nat.zero_le _, by omega⟩]
    have hy : (y.natAbs : Int) = y := by omega
    exact congrArg (fun y => Except.ok (y, rest)) hy

/-! ## §3 Fractions of a second -/

/-- Digits behind the point count for as many places as there are. -/
theorem nanos_padded {width n : Nat} {rest : List Char} (hsome : 0 < width) (hnine : width ≤ 9)
    (hn : n < 10 ^ width) (hrest : Decimal.NoDigitNext rest) :
    nanos ('.' :: Decimal.padded width n ++ rest) = .ok (n * 10 ^ (9 - width), rest) := by
  have hdigits : ∀ c ∈ Decimal.padded width n, c.isDigit = true :=
    fun _ => Decimal.isDigit_of_mem_padded
  have hlength := Decimal.length_padded hsome hn
  have hleft : ([] ++ rest).dropWhile Char.isDigit = rest :=
    Decimal.dropWhile_digits (by simp) hrest
  rw [List.nil_append] at hleft
  rw [List.cons_append, nanos, number_digits (Decimal.padded_ne_nil width n) hdigits (by omega)
    (.inr hrest), ok_bind, Decimal.value_padded]
  simp only [List.length_append, hlength, Nat.add_sub_cancel, hleft]
  rfl

/-- Without a point there is no fraction. -/
theorem nanos_none {rest : List Char} (hrest : rest.head? ≠ some '.') :
    nanos rest = .ok (0, rest) := by
  rw [nanos]
  rintro others rfl
  exact hrest rfl

/-- A fraction is read whole, whichever of its four widths it has. -/
theorem nanos_fraction {nano : Nat} {rest : List Char} (hnano : nano < nanosPerSecond)
    (hdigit : Decimal.NoDigitNext rest) (hpoint : rest.head? ≠ some '.') :
    nanos (fraction nano ++ rest) = .ok (nano, rest) := by
  unfold nanosPerSecond at hnano
  -- the digits that are left out are zeros
  rw [fraction]
  split_ifs with hzero hmilli hmicro
  · rw [hzero, List.nil_append, nanos_none hpoint]
  · rw [nanos_padded (by decide) (by decide) (by omega) hdigit]
    have hplaces : nano / 1000000 * 10 ^ (9 - 3) = nano := by omega
    rw [hplaces]
  · rw [nanos_padded (by decide) (by decide) (by omega) hdigit]
    have hplaces : nano / 1000 * 10 ^ (9 - 6) = nano := by omega
    rw [hplaces]
  · rw [nanos_padded (by decide) (by decide) (by omega) hdigit]
    have hplaces : nano * 10 ^ (9 - 9) = nano := by omega
    rw [hplaces]

/-! ## §4 Whole times -/

/-- What the text of an instant says: a leap second is the second 60. -/
def partsOf (instant : Instant) : Parts where
  date := Calendar.dateOf instant.day
  hour := instant.second / 3600
  minute := instant.second / 60 % 60
  second := if nanosPerSecond ≤ instant.nano then instant.second % 60 + 1 else instant.second % 60
  nano := if nanosPerSecond ≤ instant.nano then instant.nano - nanosPerSecond else instant.nano
  offset := 0

/-- A text that is read as a zero offset, and with which no number before it goes on. -/
structure IsUtc (suffix : List Char) : Prop where
  zone_eq : zone suffix = .ok (0, [])
  no_digit : Decimal.NoDigitNext suffix
  no_point : suffix.head? ≠ some '.'

theorem isUtc_z : IsUtc ['Z'] where
  zone_eq := rfl
  no_digit := Decimal.noDigitNext_cons rfl
  no_point := by decide

theorem isUtc_offset : IsUtc "+00:00".toList where
  zone_eq := rfl
  no_digit := Decimal.noDigitNext_cons rfl
  no_point := by decide

/-- A time is printed part after part. -/
theorem dateTime_append (instant : Instant) (suffix : List Char) :
    dateTime instant ++ suffix =
      year (partsOf instant).date.year ++ '-' :: (Decimal.padded 2 (partsOf instant).date.month ++
        '-' :: (Decimal.padded 2 (partsOf instant).date.day ++
        'T' :: (Decimal.padded 2 (partsOf instant).hour ++
        ':' :: (Decimal.padded 2 (partsOf instant).minute ++
        ':' :: (Decimal.padded 2 (partsOf instant).second ++
        (fraction (partsOf instant).nano ++ suffix)))))) := by
  simp only [dateTime, date, timeOfDay, partsOf, List.append_assoc, List.cons_append]

theorem second_partsOf_le (instant : Instant) : (partsOf instant).second ≤ 60 := by
  simp only [partsOf]
  split <;> omega

theorem nano_partsOf_lt (instant : Instant) : (partsOf instant).nano < nanosPerSecond := by
  have := instant.nano_lt
  simp only [partsOf]
  split <;> omega

/-- The parts of a printed time. -/
theorem parts_dateTime (instant : Instant) {suffix : List Char} (hsuffix : IsUtc suffix) :
    parts (dateTime instant ++ suffix) = .ok (partsOf instant, []) := by
  have hdate : Calendar.isDate (partsOf instant).date = true := Calendar.isDate_dateOf instant.day
  obtain ⟨hmonth, hday⟩ := Calendar.month_day_bounds hdate
  have hyear (rest : List Char) : signedYear (year (partsOf instant).date.year ++ '-' :: rest) =
      .ok ((partsOf instant).date.year, '-' :: rest) := by
    obtain ⟨hlow, hhigh⟩ := Calendar.year_dateOf instant.firstDay_le instant.le_lastDay
    exact signedYear_year hlow hhigh (Decimal.noDigitNext_cons rfl)
  have hhour : (partsOf instant).hour ≤ 23 := by
    have := instant.second_lt
    simp only [partsOf]
    omega
  have hminute : (partsOf instant).minute ≤ 59 := by
    simp only [partsOf]
    omega
  have hdash (rest : List Char) : mark '-' ('-' :: rest) = .ok rest := mark_cons rfl
  have hcolon (rest : List Char) : mark ':' (':' :: rest) = .ok rest := mark_cons rfl
  -- every part is read by its lemma, and what is behind it is left for the next one
  rw [dateTime_append]
  simp only [parts, hyear, field_padded hmonth.1 hmonth.2 (show 12 < 100 by decide),
    field_padded hday.1 hday.2 (show 31 < 100 by decide),
    field_padded (Nat.zero_le _) hhour (show 23 < 100 by decide),
    field_padded (Nat.zero_le _) hminute (show 59 < 100 by decide),
    field_padded (Nat.zero_le _) (second_partsOf_le instant) (show 60 < 100 by decide),
    nanos_fraction (nano_partsOf_lt instant) hsuffix.no_digit hsuffix.no_point, hsuffix.zone_eq,
    hdash, hcolon, ok_bind, pure_bind, true_or, if_true]
  rfl

/-- The parts of an instant make that instant. -/
theorem ofParts?_self (instant : Instant) :
    Instant.ofParts? instant.day instant.second instant.nano = some instant := by
  rw [Instant.ofParts?, dif_pos ⟨instant.firstDay_le, instant.le_lastDay, instant.second_lt,
    instant.nano_lt, instant.leap_at_minute_end⟩]

/-- The calendar gives the instant back. -/
theorem instant_partsOf (instant : Instant) : (partsOf instant).instant = .ok instant := by
  have hsecond := instant.second_lt
  have hnano := instant.nano_lt
  have hfirst := instant.firstDay_le
  have hlast := instant.le_lastDay
  -- hour, minute and second count the seconds of the day, with 59 in place of 60
  have hseconds : ((partsOf instant).hour * 3600 + (partsOf instant).minute * 60 +
      (if (partsOf instant).second = 60 then 59 else (partsOf instant).second) -
      (partsOf instant).offset : Int) = instant.second := by
    have := instant.leap_at_minute_end
    simp only [partsOf]
    split_ifs <;> omega
  have hwhole : (if (partsOf instant).second = 60 then nanosPerSecond + (partsOf instant).nano
      else (partsOf instant).nano) = instant.nano := by
    have := instant.leap_at_minute_end
    simp only [partsOf]
    split_ifs <;> omega
  have hday : Calendar.dayNumber (partsOf instant).date = instant.day :=
    Calendar.dayNumber_dateOf instant.day
  have hdate : Calendar.isDate (partsOf instant).date = true :=
    Calendar.isDate_dateOf instant.day
  simp only [Parts.instant, hday, hdate]
  rw [if_neg (by simp only [not_true_eq_false, false_or]; omega),
    if_neg (by simp only [partsOf]; omega)]
  have hquotient : instant.day + (instant.second : Int) / 86400 = instant.day := by omega
  have hrest : ((instant.second : Int) % 86400).toNat = instant.second := by omega
  rw [hseconds, hwhole, hquotient, hrest, ofParts?_self]

/-- A printed time is read as the instant. -/
theorem read_dateTime (instant : Instant) {suffix : List Char} (hsuffix : IsUtc suffix) :
    read (dateTime instant ++ suffix) = .ok instant := by
  rw [read, parts_dateTime instant hsuffix, ok_bind]
  exact instant_partsOf instant

/-- **The short print of an instant is read as that instant.** -/
theorem read_utc (instant : Instant) : read (utc instant).toList = .ok instant := by
  rw [utc, String.toList_ofList]
  exact read_dateTime instant isUtc_z

/-- **The print with a zero offset is read as that instant as well.** -/
theorem read_offset (instant : Instant) : read (offset instant).toList = .ok instant := by
  rw [offset, String.toList_ofList]
  exact read_dateTime instant isUtc_offset

end Rfc3339

end DiveLink
