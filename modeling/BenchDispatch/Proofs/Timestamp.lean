import BenchDispatch.Time.Text
import BenchDispatch.Proofs.Calendar

/-! Timestamps read back from the text they are written as. Each field of the text is a run of
digits that the reader takes whole, because a separator or the zone follows it: two digits for
the month, the day and the time, a year padded to four digits with a sign outside 0000 to 9999, and
a fraction of three, six or nine digits that scales back to the nanoseconds. The date read back
counts the instant's days again, and the time of day its seconds, a leap second as the 59th second
with its nanoseconds past a whole second. The reader takes years from -262144 to 262143, the
years every instant falls in, so every instant reads back. -/

set_option autoImplicit false

namespace BenchDispatch

/-- Binding a known value feeds it on: the step a reader's do block takes for each field it has
read, stated on the monadic bind the do notation builds. -/
theorem some_bind {α β : Type} (a : α) (f : α → Option β) : (some a >>= f) = f a :=
  rfl

end BenchDispatch

namespace BenchDispatch.Instant

open BenchDispatch.Text

/-! ## Runs of digits -/

/-- Digits valued as `readNumeral` values them. -/
theorem foldl_digits (cs : List Char) :
    cs.foldl (fun acc c => acc * 10 + (c.toNat - '0'.toNat)) 0 = Nat.ofDigitChars 10 cs 0 := by
  have digitValue : (fun acc (c : Char) => acc * 10 + (c.toNat - '0'.toNat)) =
      fun acc c => 10 * acc + (c.toNat - '0'.toNat) := by
    funext acc c
    rw [Nat.mul_comm]
  rw [digitValue]
  rfl

theorem isWhiteSpace_of_isDigit {c : Char} (digit : c.isDigit = true) : isWhiteSpace c = false := by
  have bounds := Char.isDigit_iff_toNat.1 digit
  simp only [isWhiteSpace, Bool.or_eq_false_iff, Bool.and_eq_false_iff, beq_eq_false_iff_ne, ne_eq,
    decide_eq_false_iff_not, Nat.not_le]
  simp only [Char.reduceToNat] at bounds
  omega

/-- A run of digits that a non-digit ends, no longer than the bound, is read whole. -/
theorem readNumeral_digits {most : Option Nat} {digits rest : List Char} (nonempty : digits ≠ [])
    (allDigits : ∀ c ∈ digits, c.isDigit = true) (ends : ∀ c ∈ rest.head?, c.isDigit = false)
    (bounded : ∀ bound ∈ most, digits.length ≤ bound) :
    readNumeral most (digits ++ rest) = some (Nat.ofDigitChars 10 digits 0, rest) := by
  have run : (digits ++ rest).takeWhile Char.isDigit = digits := by
    rw [List.takeWhile_append_of_pos allDigits]
    cases rest with
    | nil => simp
    | cons c rest => simp [ends c rfl]
  unfold readNumeral
  rw [run]
  cases most with
  | none =>
    simp only [List.isEmpty_iff, nonempty, if_false, List.drop_left]
    rw [foldl_digits]
  | some bound =>
    have taken : digits.take bound = digits := List.take_of_length_le (bounded bound rfl)
    simp only [taken, List.isEmpty_iff, nonempty, if_false, List.drop_left]
    rw [foldl_digits]

/-! ## The fields of the text -/

theorem digit_char : ∀ k < 10, (Char.ofNat (k + '0'.toNat)).isDigit = true ∧
    (Char.ofNat (k + '0'.toNat)).toNat - '0'.toNat = k := by
  decide

theorem readField_twoDigitText {n : Nat} (small : n < 100) {rest : List Char}
    (ends : ∀ c ∈ rest.head?, c.isDigit = false) :
    readField ((twoDigitText n).toList ++ rest) = some (n, rest) := by
  obtain ⟨tensDigit, tens⟩ := digit_char (n / 10) (by omega)
  obtain ⟨onesDigit, ones⟩ := digit_char (n % 10) (by omega)
  unfold readField
  simp only [twoDigitText, String.toList_ofList, List.cons_append, List.nil_append]
  rw [dropWhiteSpace, List.dropWhile_cons_of_neg (by rw [isWhiteSpace_of_isDigit tensDigit]; decide),
    show ∀ a b : Char, a :: b :: rest = [a, b] ++ rest from fun _ _ => rfl,
    readNumeral_digits (by simp) (List.forall_mem_cons.2 ⟨tensDigit, List.forall_mem_singleton.2 onesDigit⟩) ends
      (by simp)]
  simp only [Nat.ofDigitChars_cons, Nat.ofDigitChars_nil, tens, ones]
  congr 2
  omega

/-- The digits of a number padded with zeros to at least four, and its padding kept apart from
its digits' value. -/
theorem padded_digits (n : Nat) :
    let padded := List.replicate (4 - (Nat.toDigits 10 n).length) '0' ++ Nat.toDigits 10 n
    padded ≠ [] ∧ (∀ c ∈ padded, c.isDigit = true) ∧ Nat.ofDigitChars 10 padded 0 = n := by
  intro padded
  refine ⟨by simp [padded], ?_, ?_⟩
  · intro c member
    simp only [padded, List.mem_append, List.mem_replicate] at member
    rcases member with ⟨-, rfl⟩ | member
    · rfl
    · exact Nat.isDigit_of_mem_toDigits (by decide) (by decide) member
  · simp [padded, Nat.ofDigitChars_append]

theorem toList_yearText (year : Int) :
    (yearText year).toList =
      (if 0 ≤ year ∧ year ≤ 9999 then [] else [if year < 0 then '-' else '+']) ++
        (List.replicate (4 - (Nat.toDigits 10 year.natAbs).length) '0' ++ Nat.toDigits 10 year.natAbs) := by
  have lengths : year.natAbs.repr.length = (Nat.toDigits 10 year.natAbs).length := by
    rw [← String.length_toList, Nat.toList_repr]
  unfold yearText
  by_cases within : 0 ≤ year ∧ year ≤ 9999
  · simp [within, String.toList_append, lengths]
  · by_cases negative : year < 0 <;> simp [within, negative, String.toList_append, lengths]

/-- A year reads back from its text: four digits from 0000 to 9999, else a sign and its digits. -/
theorem readYear_yearText (year : Int) {rest : List Char} (ends : ∀ c ∈ rest.head?, c.isDigit = false) :
    readYear ((yearText year).toList ++ rest) = some (year, rest) := by
  obtain ⟨nonempty, allDigits, value⟩ := padded_digits year.natAbs
  have short : 0 ≤ year ∧ year ≤ 9999 →
      (List.replicate (4 - (Nat.toDigits 10 year.natAbs).length) '0' ++ Nat.toDigits 10 year.natAbs).length ≤ 4 := by
    intro within
    have fewDigits : (Nat.toDigits 10 year.natAbs).length ≤ 4 :=
      (Nat.length_toDigits_le_iff (by decide) (by decide)).2 (by simp only [Nat.reducePow]; omega)
    simp only [List.length_append, List.length_replicate]
    omega
  rw [toList_yearText]
  generalize List.replicate (4 - (Nat.toDigits 10 year.natAbs).length) '0' ++ Nat.toDigits 10 year.natAbs =
    padded at nonempty allDigits value short
  unfold readYear
  by_cases within : 0 ≤ year ∧ year ≤ 9999
  · -- four digits and no sign
    obtain ⟨first, others, written⟩ := List.exists_cons_of_ne_nil nonempty
    have firstDigit := allDigits first (written ▸ List.mem_cons_self)
    rw [if_pos within, List.nil_append, written, List.cons_append, dropWhiteSpace,
      List.dropWhile_cons_of_neg (by rw [isWhiteSpace_of_isDigit firstDigit]; decide)]
    split
    · next after sign =>
      rw [List.cons.injEq] at sign
      rw [sign.1] at firstDigit
      exact absurd firstDigit (by decide)
    · next after sign =>
      rw [List.cons.injEq] at sign
      rw [sign.1] at firstDigit
      exact absurd firstDigit (by decide)
    · rw [← List.cons_append, ← written, readNumeral_digits nonempty allDigits ends (by simpa using short within),
        value]
      simp only [Option.map_some]
      congr 2
      omega
  · rw [if_neg within]
    by_cases negative : year < 0
    · simp only [negative, if_true, List.cons_append, List.nil_append, dropWhiteSpace,
        List.dropWhile_cons_of_neg (show ¬ isWhiteSpace '-' = true by decide)]
      rw [readNumeral_digits nonempty allDigits ends (by simp), value]
      simp only [Option.map_some]
      congr 2
      omega
    · simp only [negative, if_false, List.cons_append, List.nil_append, dropWhiteSpace,
        List.dropWhile_cons_of_neg (show ¬ isWhiteSpace '+' = true by decide)]
      rw [readNumeral_digits nonempty allDigits ends (by simp), value]
      simp only [Option.map_some]
      congr 2
      omega

theorem ofDigitChars_lt {digits : List Char} (allDigits : ∀ c ∈ digits, c.isDigit = true) :
    Nat.ofDigitChars 10 digits 0 < 10 ^ digits.length := by
  induction digits with
  | nil => simp
  | cons c others ih =>
    have digit := Char.isDigit_iff_toNat.1 (allDigits c List.mem_cons_self)
    have rest := ih fun d member => allDigits d (List.mem_cons_of_mem c member)
    simp only [Char.reduceToNat] at digit
    rw [Nat.ofDigitChars_cons, Nat.ofDigitChars_eq_ofDigitChars_zero, List.length_cons, Nat.pow_succ]
    calc 10 ^ others.length * (10 * 0 + (c.toNat - '0'.toNat)) + Nat.ofDigitChars 10 others 0
        < 10 ^ others.length * 9 + 10 ^ others.length := by
          have : 10 * 0 + (c.toNat - '0'.toNat) ≤ 9 := by simp only [Char.reduceToNat]; omega
          have := Nat.mul_le_mul_left (10 ^ others.length) this
          omega
      _ = 10 ^ others.length * 10 := by omega

/-- The first digits of a run of digits are worth the run's value cut to their places. -/
theorem ofDigitChars_take {digits : List Char} (allDigits : ∀ c ∈ digits, c.isDigit = true) (k : Nat) :
    Nat.ofDigitChars 10 (digits.take k) 0 = Nat.ofDigitChars 10 digits 0 / 10 ^ (digits.length - k) := by
  have split := Nat.ofDigitChars_append (b := 10) (l := digits.take k) (m := digits.drop k) 0
  rw [List.take_append_drop, Nat.ofDigitChars_eq_ofDigitChars_zero (l := digits.drop k)] at split
  have low : Nat.ofDigitChars 10 (digits.drop k) 0 < 10 ^ (digits.drop k).length :=
    ofDigitChars_lt fun c member => allDigits c (List.mem_of_mem_drop member)
  rw [List.length_drop] at split low
  rw [split, Nat.mul_add_div (Nat.pow_pos (by decide)), Nat.div_eq_of_lt low, Nat.add_zero]

/-- The nine digits after the leading one of `nano + 10^9`: the nanoseconds to nine places. -/
theorem nineDigits_spec {nano : Nat} (small : nano < 1000000000) :
    ∃ digits : List Char, (toString (nano + 1000000000) |>.drop 1 |>.toString).toList = digits ∧
      digits.length = 9 ∧ (∀ c ∈ digits, c.isDigit = true) ∧ Nat.ofDigitChars 10 digits 0 = nano := by
  have tenDigits : (Nat.toDigits 10 (nano + 1000000000)).length = 10 := by
    have atMost := (Nat.length_toDigits_le_iff (b := 10) (n := nano + 1000000000) (k := 10) (by decide)
      (by decide)).2 (by simp only [Nat.reducePow]; omega)
    have notFewer := mt (Nat.length_toDigits_le_iff (b := 10) (n := nano + 1000000000) (k := 9) (by decide)
      (by decide)).1 (by simp only [Nat.reducePow]; omega)
    omega
  obtain ⟨first, digits, written⟩ := List.exists_cons_of_ne_nil (Nat.toDigits_ne_nil (b := 10) (n := nano + 1000000000))
  have allDigits : ∀ c ∈ first :: digits, c.isDigit = true := fun c member =>
    Nat.isDigit_of_mem_toDigits (by decide) (by decide) (written ▸ member)
  refine ⟨digits, ?_, ?_, fun c member => allDigits c (List.mem_cons_of_mem first member), ?_⟩
  · simp [String.Slice.toString_eq, written]
  · rw [written] at tenDigits
    simpa using tenDigits
  · -- the leading digit is one, worth `10^9`, and the nine after it are worth less
    have value := Nat.ofDigitChars_ten_toDigits (n := nano + 1000000000)
    have low := ofDigitChars_lt fun c member => allDigits c (List.mem_cons_of_mem first member)
    have leading := Char.isDigit_iff_toNat.1 (allDigits first List.mem_cons_self)
    rw [written] at tenDigits value
    have nine : digits.length = 9 := by simpa using tenDigits
    rw [Nat.ofDigitChars_cons, Nat.ofDigitChars_eq_ofDigitChars_zero, nine] at value
    rw [nine] at low
    simp only [Nat.reducePow, Char.reduceToNat] at value low leading
    omega

/-- A run of at most nine digits reads as a fraction of a second: their value to nine places. -/
theorem readFraction_digits {digits rest : List Char} (nonempty : digits ≠ [])
    (allDigits : ∀ c ∈ digits, c.isDigit = true) (short : digits.length ≤ 9)
    (ends : ∀ c ∈ rest.head?, c.isDigit = false) :
    readFraction (digits ++ rest) = some (Nat.ofDigitChars 10 digits 0 * 10 ^ (9 - digits.length), rest) := by
  have kept : rest.dropWhile Char.isDigit = rest := by
    cases rest with
    | nil => rfl
    | cons c rest => simp [ends c rfl]
  unfold readFraction
  rw [readNumeral_digits nonempty allDigits ends (by simpa using short)]
  simp [kept, Nat.pow_eq]

theorem fractionText_zero : (fractionText 0).toList = [] := by
  simp [fractionText]

/-- The fraction written for nanoseconds other than zero, after its point, reads back as them: the
first three, six or nine of their nine digits, scaled back by the places left out. -/
theorem fractionText_spec {nano : Nat} (small : nano < 1000000000) (positive : nano ≠ 0) :
    ∃ digits, (fractionText nano).toList = '.' :: digits ∧
      ∀ rest : List Char, (∀ c ∈ rest.head?, c.isDigit = false) → readFraction (digits ++ rest) = some (nano, rest) := by
  obtain ⟨nine, written, nineLong, allDigits, value⟩ := nineDigits_spec small
  -- the first `k` of the nine digits, worth the nanoseconds cut to `k` places
  have first : ∀ k, 0 < k → k ≤ 9 → nano % 10 ^ (9 - k) = 0 → ∀ rest : List Char,
      (∀ c ∈ rest.head?, c.isDigit = false) → readFraction (nine.take k ++ rest) = some (nano, rest) := by
    intro k positiveK atMostNine exact rest ends
    have taken : (nine.take k).length = k := by simp [nineLong]; omega
    rw [readFraction_digits (List.length_pos_iff.1 (by rw [taken]; exact positiveK))
      (fun c member => allDigits c (List.mem_of_mem_take member)) (by omega) ends,
      ofDigitChars_take allDigits, taken, value, nineLong, Nat.div_mul_cancel (Nat.dvd_of_mod_eq_zero exact)]
  rw [String.Slice.toString_eq] at written
  have point : ".".toList = ['.'] := rfl
  unfold fractionText
  simp only [positive, if_false]
  split_ifs with millis micros
  · refine ⟨nine.take 3, ?_, first 3 (by decide) (by decide) millis⟩
    simp only [String.toList_append, String.Slice.toString_eq, String.toList_copy_take, written, point,
      List.singleton_append]
  · refine ⟨nine.take 6, ?_, first 6 (by decide) (by decide) micros⟩
    simp only [String.toList_append, String.Slice.toString_eq, String.toList_copy_take, written, point,
      List.singleton_append]
  · refine ⟨nine, ?_, fun rest ends => ?_⟩
    · simp only [String.toList_append, String.Slice.toString_eq, written, point, List.singleton_append]
    have whole : nine.take 9 = nine := List.take_of_length_le (by omega)
    simpa [whole] using first 9 (by decide) (by decide) (Nat.mod_one nano) rest ends

/-- What follows the seconds as the reader meets it: a point and digits that read back as the
nanoseconds before the zone, or the zone alone when they are zero. -/
theorem fractionText_zone {nano : Nat} (small : nano < 1000000000) :
    (∃ digits, (fractionText nano).toList ++ ['Z'] = '.' :: digits ∧ readFraction digits = some (nano, ['Z'])) ∨
      nano = 0 ∧ (fractionText nano).toList ++ ['Z'] = ['Z'] := by
  by_cases zero : nano = 0
  · exact Or.inr ⟨zero, by simp [zero, fractionText_zero]⟩
  · obtain ⟨digits, written, reads⟩ := fractionText_spec small zero
    exact Or.inl ⟨digits ++ ['Z'], by simp [written], reads ['Z'] (by simp)⟩

/-! ## Whole timestamps -/

/-- The text of an instant, field by field: the second written 60 in a leap second, and the
nanoseconds past it. -/
theorem toList_render (t : Instant) :
    (render t).toList =
      (yearText t.date.year).toList ++ '-' :: (twoDigitText t.date.month).toList ++ '-' ::
        (twoDigitText t.date.day).toList ++ 'T' :: (twoDigitText (t.second / 3600)).toList ++ ':' ::
        (twoDigitText (t.second / 60 % 60)).toList ++ ':' ::
        (twoDigitText (t.second % 60 + if t.nano ≥ 1000000000 then 1 else 0)).toList ++
        (fractionText (if t.nano ≥ 1000000000 then t.nano - 1000000000 else t.nano)).toList ++ ['Z'] := by
  simp [render, String.toList_append]

theorem expectAfterSpace_cons {c : Char} (unblank : isWhiteSpace c = false) (rest : List Char) :
    expectAfterSpace c (c :: rest) = some rest := by
  simp [expectAfterSpace, dropWhiteSpace, unblank]

theorem readOffset_zulu : readOffset (dropWhiteSpace ['Z']) = some (0, []) := by
  decide

/-- The second and nanoseconds an instant is written with: a leap second as second 60, with the
nanoseconds past it, which the reader adds back to the 59th second. -/
theorem writtenSecond_spec (t : Instant) :
    let second := t.second % 60 + if t.nano ≥ 1000000000 then 1 else 0
    let nano := if t.nano ≥ 1000000000 then t.nano - 1000000000 else t.nano
    second ≤ 60 ∧ min second 59 = t.second % 60 ∧ nano < 1000000000 ∧
      (if second = 60 then nano + 1000000000 else nano) = t.nano := by
  intro second nano
  have leap := t.leap
  have nanoRange := t.nano_lt
  simp only [second, nano]
  split_ifs <;> omega

theorem ofParts?_self (t : Instant) : ofParts? t.day t.second t.nano = some t := by
  simp [ofParts?, t.day_ge, t.day_le, t.second_lt, t.nano_lt, t.leap]

/-- Every instant reads back from its text. The reader takes the fields one by one, each ended by
the separator after it; the checks on the fields all pass, and the date and the time of day count
the instant's day and seconds again. -/
theorem parse?_render (t : Instant) : parse? t.render = some t := by
  have valid : t.date.isValid = true := CivilDate.isValid_ofDays t.day
  have toDays : t.date.toDays = t.day := CivilDate.toDays_ofDays t.day
  have years : -262144 ≤ t.date.year ∧ t.date.year ≤ 262143 := CivilDate.year_ofDays_range t.day_ge t.day_le
  obtain ⟨monthLow, monthHigh, dayLow, dayHigh⟩ := CivilDate.range_of_isValid valid
  have clockRange := t.second_lt
  unfold parse?
  rw [toList_render]
  simp only [List.append_assoc, List.cons_append]
  obtain ⟨secondHigh, secondMin, nanoSmall, nanoBack⟩ := writtenSecond_spec t
  generalize t.second % 60 + (if t.nano ≥ 1000000000 then 1 else 0) = second at *
  generalize (if t.nano ≥ 1000000000 then t.nano - 1000000000 else t.nano) = nano at *
  -- what each field reads, whatever follows it; the field texts then stand as variables, so that
  -- the rest of the text stays small in each step of the reader
  have readYearText : ∀ rest : List Char, (∀ c ∈ rest.head?, c.isDigit = false) →
      readYear ((yearText t.date.year).toList ++ rest) = some (t.date.year, rest) :=
    fun _ ends => readYear_yearText t.date.year ends
  have readTwoDigits : ∀ n < 100, ∀ rest : List Char, (∀ c ∈ rest.head?, c.isDigit = false) →
      readField ((twoDigitText n).toList ++ rest) = some (n, rest) :=
    fun _ small _ ends => readField_twoDigitText small ends
  have readMonth := readTwoDigits t.date.month (by omega)
  have readDay := readTwoDigits t.date.day (by omega)
  have readHour := readTwoDigits (t.second / 3600) (by omega)
  have readMinute := readTwoDigits (t.second / 60 % 60) (by omega)
  have readSecond := readTwoDigits second (by omega)
  have zoneForms := fractionText_zone nanoSmall
  generalize (yearText t.date.year).toList = yearPart at readYearText ⊢
  generalize (twoDigitText t.date.month).toList = monthPart at readMonth ⊢
  generalize (twoDigitText t.date.day).toList = dayPart at readDay ⊢
  generalize (twoDigitText (t.second / 3600)).toList = hourPart at readHour ⊢
  generalize (twoDigitText (t.second / 60 % 60)).toList = minutePart at readMinute ⊢
  generalize (twoDigitText second).toList = secondPart at readSecond ⊢
  generalize (fractionText nano).toList ++ ['Z'] = zone at zoneForms ⊢
  have zoneHead : ∀ c ∈ zone.head?, c.isDigit = false := by
    rcases zoneForms with ⟨digits, rfl, -⟩ | ⟨-, rfl⟩ <;> simp
  -- the date
  rw [readYearText _ (by simp), some_bind]
  rw [expectAfterSpace_cons (by decide), some_bind]
  rw [readMonth _ (by simp), some_bind]
  rw [expectAfterSpace_cons (by decide), some_bind]
  rw [readDay _ (by simp), some_bind]
  dsimp only
  split
  case h_2 _ _ wrong | h_3 _ _ wrong => exact absurd (List.cons.inj wrong).1 (by decide)
  case h_4 _ undivided _ _ => exact (undivided _ rfl).elim
  rename_i rest divided
  obtain ⟨-, rfl⟩ := List.cons.inj divided
  -- the time of day
  rw [some_bind, readHour _ (by simp), some_bind]
  rw [expectAfterSpace_cons (by decide), some_bind]
  rw [readMinute _ (by simp), some_bind]
  rw [expectAfterSpace_cons (by decide), some_bind]
  rw [readSecond _ zoneHead, some_bind]
  dsimp only
  -- the fraction, which both of its forms read as the nanoseconds
  split
  case' h_1 =>
    obtain ⟨digits, pointed, reads⟩ :=
      zoneForms.resolve_right fun ⟨_, wrong⟩ => absurd (List.cons.inj wrong).1 (by decide)
    obtain ⟨-, rfl⟩ := List.cons.inj pointed
    rw [reads, some_bind]
  case' h_2 _ unpointed =>
    obtain ⟨rfl, rfl⟩ := zoneForms.resolve_left fun ⟨digits, pointed, _⟩ => unpointed digits pointed
    rw [some_bind]
  -- the zone, the checks and the count of days and seconds
  all_goals
    rw [readOffset_zulu, some_bind]
    have eta : ({ year := t.date.year, month := t.date.month, day := t.date.day } : CivilDate) = t.date := rfl
    dsimp only
    rw [eta, toDays, secondMin, nanoBack]
    have clock : t.day * 86400 + ((t.second / 3600 : Nat) : Int) * 3600 + ((t.second / 60 % 60 : Nat) : Int) * 60 +
        ((t.second % 60 : Nat) : Int) - 0 = t.day * 86400 + t.second := by omega
    have dayBack : (t.day * 86400 + t.second) / 86400 = t.day := by omega
    have secondBack : ((t.day * 86400 + t.second) % 86400).toNat = t.second := by omega
    rw [clock, dayBack, secondBack, ofParts?_self]
    have hourHigh : t.second / 3600 ≤ 23 := by omega
    have minuteHigh : t.second / 60 % 60 ≤ 59 := by omega
    simp [valid, monthLow, monthHigh, dayLow, dayHigh, hourHigh, minuteHigh, secondHigh, years.1, years.2,
      show dropWhiteSpace [] = [] from rfl]

end BenchDispatch.Instant
