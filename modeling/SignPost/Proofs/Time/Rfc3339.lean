import SignPost.Proofs.Text.Decimal
import SignPost.Time.Rfc3339
import Mathlib.Tactic.SplitIfs

/-!
# Reading back moments

`Moment.parse_stored`: a moment is read back from the text that is written for it, if it is valid
and in a year that can be read (`Moment.Storable`). `Moment.storable_of_parse`: every moment that is
read is one of these, whatever the offset in its text.

Proof. Reading takes one part after the other off the front of a text. For each part there is a
lemma that takes what was written for it and leaves the rest. Parts of a fixed width end by their
width; those of any width are followed by a mark that is no digit.
-/

namespace SignPost.Time

/-- Moments that have a text: valid ones, in a year that can be read. -/
def Moment.Storable (m : Moment) : Prop :=
  m.valid = true ∧ yearInRange m.date.year = true

/-! ## Neighbouring days -/

theorem Date.valid_iff {year : Int} {month day : Nat} :
    Date.valid ⟨year, month, day⟩ = true ↔
      1 ≤ month ∧ month ≤ 12 ∧ 1 ≤ day ∧ day ≤ daysInMonth year month := by
  simp only [Date.valid, Bool.and_eq_true, decide_eq_true_eq, and_assoc]

theorem daysInMonth_bounds (year : Int) (month : Nat) :
    28 ≤ daysInMonth year month ∧ daysInMonth year month ≤ 31 := by
  unfold daysInMonth
  split_ifs <;> decide

theorem Date.valid_next {d : Date} (h : d.valid = true) : d.next.valid = true := by
  obtain ⟨year, month, day⟩ := d
  obtain ⟨hmonth, hmonths, -, -⟩ := Date.valid_iff.1 h
  simp only [Date.next]
  split_ifs with hinner hyear
  · exact Date.valid_iff.2 ⟨hmonth, hmonths, Nat.le_add_left 1 day, hinner⟩
  · have hdays := (daysInMonth_bounds year (month + 1)).1
    exact Date.valid_iff.2 ⟨Nat.le_add_left 1 month, hyear, Nat.le_refl 1, by omega⟩
  · have hdays := (daysInMonth_bounds (year + 1) 1).1
    exact Date.valid_iff.2 ⟨Nat.le_refl 1, by omega, Nat.le_refl 1, by omega⟩

theorem Date.valid_previous {d : Date} (h : d.valid = true) : d.previous.valid = true := by
  obtain ⟨year, month, day⟩ := d
  obtain ⟨hmonth, hmonths, -, hdays⟩ := Date.valid_iff.1 h
  simp only [Date.previous]
  split_ifs with hinner hyear
  · exact Date.valid_iff.2 ⟨hmonth, hmonths, Nat.le_sub_one_of_lt hinner, by omega⟩
  · have hlast := (daysInMonth_bounds year (month - 1)).1
    exact Date.valid_iff.2 ⟨Nat.le_sub_one_of_lt hyear, by omega, by omega, Nat.le_refl _⟩
  · exact Date.valid_iff.2 ⟨by omega, Nat.le_refl 12, by omega, Nat.le_refl 31⟩

theorem Moment.valid_iff {m : Moment} :
    m.valid = true ↔
      m.date.valid = true ∧ m.hour ≤ 23 ∧ m.minute ≤ 59 ∧ m.second ≤ 60 ∧
        m.nanosecond < 1000000000 := by
  simp only [Moment.valid, Bool.and_eq_true, decide_eq_true_eq, and_assoc]

/-- Moving to universal time keeps the seconds, and hours and minutes within a day. -/
theorem Moment.valid_minus {m : Moment} (h : m.valid = true) (minutes : Int) :
    (m.minus minutes).valid = true := by
  obtain ⟨hdate, -, -, hsecond, hnano⟩ := Moment.valid_iff.1 h
  refine Moment.valid_iff.2 ⟨?_, ?_, ?_, hsecond, hnano⟩
  · simp only [Moment.minus]
    split_ifs
    · exact Date.valid_previous hdate
    · exact hdate
    · exact Date.valid_next hdate
  · simp only [Moment.minus]
    omega
  · simp only [Moment.minus]
    omega

theorem Moment.minus_zero {m : Moment} (h : m.valid = true) : m.minus 0 = m := by
  obtain ⟨-, hhour, hminute, -, -⟩ := Moment.valid_iff.1 h
  obtain ⟨date, hour, minute, second, nanosecond⟩ := m
  simp only at hhour hminute
  have hfirst : ¬(hour * 60 + minute : Nat) - (0 : Int) < 0 := by omega
  have hlast : (hour * 60 + minute : Nat) - (0 : Int) < 1440 := by omega
  have hofDay : (((hour * 60 + minute : Nat) - (0 : Int)) % 1440).toNat = hour * 60 + minute := by
    omega
  have hhours : (hour * 60 + minute) / 60 = hour := by omega
  have hminutes : (hour * 60 + minute) % 60 = minute := by omega
  simp only [Moment.minus, Int.ofNat_eq_natCast, if_neg hfirst, if_pos hlast, hofDay, hhours,
    hminutes]

/-! ## Taking what was written -/

theorem isDigit_eq (c : Char) : isDigit c = c.isDigit := by
  rw [Bool.eq_iff_iff, Char.isDigit_iff_toNat]
  simp [isDigit]

theorem isDigit_of_mem_padded {width n : Nat} {c : Char}
    (h : c ∈ (Decimal.padded width n).toList) : isDigit c = true := by
  rw [isDigit_eq]
  exact Decimal.isDigit_of_mem_padded h

theorem takeWhile_padded (width n : Nat) {c : Char} (hc : isDigit c = false) (rest : List Char) :
    ((Decimal.padded width n).toList ++ c :: rest).takeWhile isDigit =
      (Decimal.padded width n).toList := by
  rw [List.takeWhile_append_of_pos fun _ => isDigit_of_mem_padded,
    List.takeWhile_cons_of_neg (by simp [hc]), List.append_nil]

theorem dropWhile_padded (width n : Nat) {c : Char} (hc : isDigit c = false) (rest : List Char) :
    ((Decimal.padded width n).toList ++ c :: rest).dropWhile isDigit = c :: rest := by
  rw [List.dropWhile_append_of_pos fun _ => isDigit_of_mem_padded,
    List.dropWhile_cons_of_neg (by simp [hc])]

theorem takeAllDigits_padded (width n : Nat) {c : Char} (hc : isDigit c = false)
    (rest : List Char) :
    takeAllDigits ((Decimal.padded width n).toList ++ c :: rest) = some (n, c :: rest) := by
  rw [takeAllDigits, takeWhile_padded width n hc, Decimal.ofDigits_padded,
    dropWhile_padded width n hc]

theorem takeDigits_padded {width n : Nat} (hwidth : 0 < width) (h : n < 10 ^ width)
    (rest : List Char) :
    takeDigits width ((Decimal.padded width n).toList ++ rest) = some (n, rest) := by
  have hlength := Decimal.length_padded hwidth h
  have htake : ((Decimal.padded width n).toList ++ rest).take width =
      (Decimal.padded width n).toList := List.take_left' hlength
  have hdigits : (Decimal.padded width n).toList.takeWhile isDigit =
      (Decimal.padded width n).toList :=
    List.takeWhile_eq_self_iff.2 fun _ => isDigit_of_mem_padded
  simp only [takeDigits, htake, hdigits, Decimal.ofDigits_padded, List.drop_left]

/-- A number begins with a digit, so no blank is skipped before it and it has no sign. -/
theorem exists_padded (width n : Nat) :
    ∃ c more, (Decimal.padded width n).toList = c :: more ∧ c.isDigit = true := by
  obtain ⟨c, more, hcons⟩ := List.exists_cons_of_ne_nil (Decimal.padded_ne_nil width n)
  have hmem : c ∈ (Decimal.padded width n).toList := by
    rw [hcons]
    exact List.mem_cons_self
  exact ⟨c, more, hcons, Decimal.isDigit_of_mem_padded hmem⟩

theorem skipBlank_padded (width n : Nat) (rest : List Char) :
    skipBlank ((Decimal.padded width n).toList ++ rest) =
      (Decimal.padded width n).toList ++ rest := by
  obtain ⟨c, more, hcons, hdigit⟩ := exists_padded width n
  rw [hcons, List.cons_append, skipBlank,
    List.dropWhile_cons_of_neg (by simp [Decimal.isBlank_of_isDigit hdigit])]

theorem takePart_padded {n : Nat} (h : n < 100) (rest : List Char) :
    takePart ((Decimal.padded 2 n).toList ++ rest) = some (n, rest) := by
  rw [takePart, skipBlank_padded, takeDigits_padded (by decide) h]

theorem takeYear_of_digit {c : Char} (hc : c.isDigit = true) (rest : List Char) :
    takeYear (c :: rest) =
      (takeDigits 4 (c :: rest)).map fun (n, rest) => (Int.ofNat n, rest) := by
  have hskip : skipBlank (c :: rest) = c :: rest :=
    List.dropWhile_cons_of_neg (by simp [Decimal.isBlank_of_isDigit hc])
  rw [takeYear, hskip]
  split
  next heq =>
    obtain ⟨rfl, -⟩ := List.cons.inj heq
    cases hc
  next heq =>
    obtain ⟨rfl, -⟩ := List.cons.inj heq
    cases hc
  next => rfl

theorem takeYear_yearText (year : Int) {c : Char} (hc : isDigit c = false) (rest : List Char) :
    takeYear ((yearText year).toList ++ c :: rest) = some (year, c :: rest) := by
  unfold yearText
  split_ifs with hfour hnegative
  · obtain ⟨d, more, hcons, hd⟩ := exists_padded 4 year.toNat
    have hwidth : year.toNat < 10 ^ 4 := by omega
    have htake := takeDigits_padded (by decide) hwidth (c :: rest)
    have hyear : Int.ofNat year.toNat = year := Int.toNat_of_nonneg hfour.1
    rw [hcons, List.cons_append] at htake ⊢
    rw [takeYear_of_digit hd, htake]
    simp only [Option.map_some, hyear]
  · have hyear : -Int.ofNat year.natAbs = year := by
      rw [Int.ofNat_eq_natCast]
      omega
    have htake := takeAllDigits_padded 4 year.natAbs hc rest
    rw [String.toList_append]
    show (takeAllDigits ((Decimal.padded 4 year.natAbs).toList ++ c :: rest)).map
      (fun taken => (-Int.ofNat taken.1, taken.2)) = some (year, c :: rest)
    rw [htake, Option.map_some, hyear]
  · have hyear : Int.ofNat year.natAbs = year := by
      rw [Int.ofNat_eq_natCast]
      omega
    have htake := takeAllDigits_padded 4 year.natAbs hc rest
    rw [String.toList_append]
    show (takeAllDigits ((Decimal.padded 4 year.natAbs).toList ++ c :: rest)).map
      (fun taken => (Int.ofNat taken.1, taken.2)) = some (year, c :: rest)
    rw [htake, Option.map_some, hyear]

theorem takeDate_written {d : Date} (hvalid : d.valid = true) (hyear : yearInRange d.year = true)
    (rest : List Char) :
    takeDate ((yearText d.year).toList ++ '-' :: ((Decimal.padded 2 d.month).toList ++
      '-' :: ((Decimal.padded 2 d.day).toList ++ rest))) = some (d, rest) := by
  obtain ⟨-, hmonths, -, hdays⟩ := Date.valid_iff.1 hvalid
  have hbound := (daysInMonth_bounds d.year d.month).2
  have hmark : ∀ rest, takeMark '-' ('-' :: rest) = some rest := fun _ => rfl
  have hmonth : d.month < 100 := by omega
  have hday : d.day < 100 := by omega
  simp only [takeDate, takeYear_yearText d.year (show isDigit '-' = false from rfl), hmark,
    takePart_padded hmonth, takePart_padded hday, Option.bind_eq_bind, Option.bind_some, hvalid,
    hyear, Bool.and_self, if_true]

/-- A fraction of at most nine digits counts as many nanoseconds as its last digit stands for. -/
theorem takeFraction_padded {width n nano : Nat} (hpos : 0 < width) (hwidth : width ≤ 9)
    (h : n < 10 ^ width) (hnano : n * 10 ^ (9 - width) = nano) {c : Char}
    (hc : isDigit c = false) (rest : List Char) :
    takeFraction (("." ++ Decimal.padded width n).toList ++ c :: rest) =
      some (nano, c :: rest) := by
  have hlength := Decimal.length_padded hpos h
  have htake : (Decimal.padded width n).toList.take 9 = (Decimal.padded width n).toList :=
    List.take_of_length_le (by omega)
  have hvalue : nanoseconds (Decimal.padded width n).toList = nano := by
    rw [nanoseconds, htake, Decimal.ofDigits_padded, Option.getD_some, hlength]
    exact hnano
  have hne : (Decimal.padded width n).toList.isEmpty = false := by
    simpa using Decimal.padded_ne_nil width n
  have hpoint : ".".toList = ['.'] := rfl
  rw [String.toList_append, hpoint, List.singleton_append, List.cons_append]
  simp only [takeFraction, takeWhile_padded width n hc, dropWhile_padded width n hc, hne, hvalue]
  rfl

theorem takeFraction_fractionText {nano : Nat} (h : nano < 1000000000) {c : Char}
    (hc : isDigit c = false) (hpoint : c ≠ '.') (rest : List Char) :
    takeFraction ((fractionText nano).toList ++ c :: rest) = some (nano, c :: rest) := by
  unfold fractionText
  split_ifs with hzero hmilli hmicro
  · subst hzero
    show takeFraction (c :: rest) = some (0, c :: rest)
    unfold takeFraction
    split
    next heq => exact absurd (List.cons.inj heq).1 hpoint
    next => rfl
  · exact takeFraction_padded (by decide) (by decide) (by omega) (by omega) hc rest
  · exact takeFraction_padded (by decide) (by decide) (by omega) (by omega) hc rest
  · exact takeFraction_padded (by decide) (by decide) h (Nat.mul_one nano) hc rest

theorem Moment.toList_stored (m : Moment) :
    m.stored.toList = (yearText m.date.year).toList ++ '-' ::
      ((Decimal.padded 2 m.date.month).toList ++ '-' :: ((Decimal.padded 2 m.date.day).toList ++
        'T' :: ((Decimal.padded 2 m.hour).toList ++ ':' :: ((Decimal.padded 2 m.minute).toList ++
          ':' :: ((Decimal.padded 2 m.second).toList ++
            ((fractionText m.nanosecond).toList ++ ['Z'])))))) := by
  have hdash : "-".toList = ['-'] := rfl
  have hbreak : "T".toList = ['T'] := rfl
  have hcolon : ":".toList = [':'] := rfl
  have hzone : "Z".toList = ['Z'] := rfl
  simp only [Moment.stored, Moment.render, String.toList_append, hdash, hbreak, hcolon, hzone,
    List.append_assoc, List.cons_append, List.nil_append]

/-- A moment is read back from the text that is written for it. -/
theorem Moment.parse_stored {m : Moment} (h : m.Storable) : Moment.parse m.stored = some m := by
  obtain ⟨hvalid, hyear⟩ := h
  obtain ⟨hdate, hhour, hminute, hsecond, hnano⟩ := Moment.valid_iff.1 hvalid
  have hbreak : ∀ rest, takeBreak ('T' :: rest) = some rest := fun _ => rfl
  have hmark : ∀ rest, takeMark ':' (':' :: rest) = some rest := fun _ => rfl
  have hfraction := takeFraction_fractionText hnano (c := 'Z') rfl (by decide) []
  have hoffset : takeOffset (skipBlank ['Z']) = some (0, []) := rfl
  have hend : (skipBlank []).isEmpty = true := rfl
  simp only [Moment.parse, Moment.toList_stored, takeDate_written hdate hyear, hbreak, hmark,
    takePart_padded (show m.hour < 100 by omega), takePart_padded (show m.minute < 100 by omega),
    takePart_padded (show m.second < 100 by omega), hfraction, hoffset, Option.bind_eq_bind,
    Option.bind_some, Moment.minus_zero hvalid, hend, hhour, hminute, hsecond, hyear,
    decide_true, Bool.and_self, if_true]

/-! ## What is read -/

theorem nanoseconds_lt (digits : List Char) : nanoseconds digits < 1000000000 := by
  have hpos : 0 < Nat.pow 10 (9 - digits.length) := Nat.pow_pos (by decide)
  unfold nanoseconds
  cases hvalue : Decimal.ofDigits (digits.take 9) with
  | none => simp
  | some n =>
    have hn := Decimal.lt_of_ofDigits hvalue
    have hwidth : (digits.take 9).length + (9 - digits.length) = 9 := by
      rw [List.length_take]
      omega
    calc n * Nat.pow 10 (9 - digits.length)
        < 10 ^ (digits.take 9).length * Nat.pow 10 (9 - digits.length) :=
          Nat.mul_lt_mul_of_pos_right hn hpos
      _ = 10 ^ ((digits.take 9).length + (9 - digits.length)) := (Nat.pow_add 10 _ _).symm
      _ = 10 ^ 9 := by rw [hwidth]
      _ = 1000000000 := by decide

theorem nanosecond_lt_of_takeFraction {text rest : List Char} {nano : Nat}
    (h : takeFraction text = some (nano, rest)) : nano < 1000000000 := by
  unfold takeFraction at h
  split at h
  · simp only at h
    split_ifs at h
    obtain ⟨rfl, -⟩ := Prod.mk.inj (Option.some.inj h)
    exact nanoseconds_lt _
  · obtain ⟨rfl, -⟩ := Prod.mk.inj (Option.some.inj h)
    decide

theorem valid_of_takeDate {text rest : List Char} {d : Date} (h : takeDate text = some (d, rest)) :
    d.valid = true := by
  simp only [takeDate, Option.bind_eq_bind, Option.bind_eq_some_iff] at h
  obtain ⟨⟨year, text₁⟩, -, text₂, -, ⟨month, text₃⟩, -, text₄, -, ⟨day, text₅⟩, -, hdate⟩ := h
  split_ifs at hdate with hvalid
  obtain ⟨rfl, -⟩ := Prod.mk.inj (Option.some.inj hdate)
  exact (Bool.and_eq_true _ _ ▸ hvalid).1

/-- Whatever offset a text has, the moment that is read from it has a text of its own. -/
theorem Moment.storable_of_parse {text : String} {m : Moment} (h : Moment.parse text = some m) :
    m.Storable := by
  simp only [Moment.parse, Option.bind_eq_bind, Option.bind_eq_some_iff] at h
  obtain ⟨⟨date, text₁⟩, hdate, text₂, -, ⟨hour, text₃⟩, -, text₄, -, ⟨minute, text₅⟩, -, text₆, -,
    ⟨second, text₇⟩, -, ⟨nano, text₈⟩, hnano, ⟨offset, text₉⟩, -, hmoment⟩ := h
  split_ifs at hmoment with hbounds
  simp only [Bool.and_eq_true, decide_eq_true_eq] at hbounds
  obtain ⟨⟨⟨⟨-, hhour⟩, hminute⟩, hsecond⟩, hyear⟩ := hbounds
  obtain rfl := Option.some.inj hmoment
  refine ⟨Moment.valid_minus (Moment.valid_iff.2 ?_) offset, hyear⟩
  exact ⟨valid_of_takeDate hdate, hhour, hminute, hsecond, nanosecond_lt_of_takeFraction hnano⟩

end SignPost.Time
