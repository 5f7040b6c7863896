import GridQuery.Proofs.Calendar.DayNumber
import GridQuery.Proofs.Calendar.ShortForm

/-!
# The Internet Form of Timestamps

Which texts are read in the internet form, and what is read of them.

The form has a grammar of its own: a date with a year of four digits, one of three separators, an
hour, a minute and a second of two digits, a fraction with a point before its digits or none, and a
letter or an offset. Every part is a number padded to its width or one of a few characters, so that
a record of the parts has one text, and digits of one width are known by their number, so that a
text that is read gives its parts back. The reader accepts the texts of the records and no others.

The second 60 is allowed in every minute, and is the second 59 with a full second in its fraction.
The fraction may have any number of digits. Those after the ninth are dropped, which divides the
number of all digits by the power of ten that they stand for, and rounds down.

The offset is taken off, which is a subtraction as long as the calendar has the day. Four digits of
a year are far from both ends of the calendar and an offset is less than a day, so there always is
one, be it before the year 0 or after the year 9999.

## Main definitions

* `Zone`, `InternetTime`: The parts of a text.
* `InternetTime.text`: The text of the parts.
* `InternetTime.shown`: What the clocks of the zone show.

## Theorems

* `Decimal.eq_of_ofDigits_eq`: Digits of one width are known by their number.
* `Decimal.readNat?_eq_some_iff_padded`: Digits of a width are a number padded to it.
* `Decimal.ofDigits_take_append_zeros`: What is left of a number when digits are dropped.
* `Timestamp.readOffset?_text`, `Timestamp.exists_zone`: The zones that are read.
* `Timestamp.takeFraction?_append`, `Timestamp.exists_fractionText`: The fractions that are taken.
* `Timestamp.minusSeconds?_eq_some_iff`: To take off seconds is to subtract them.
* `Timestamp.readInternet?_text`, `Timestamp.exists_internetTime`: The texts that are read.
* `InternetTime.exists_minusSeconds?`: An offset takes no text of the form out of the calendar.
* `Timestamp.isSome_readInternet?_iff`: The grammar is exact.
-/

namespace GridQuery

namespace Decimal

/-! ## Digits of one width -/

theorem ofDigits_append (cs ds : List Char) :
    ofDigits (cs ++ ds) = ofDigits cs * 10 ^ ds.length + ofDigits ds := by
  rw [ofDigits, Nat.ofDigitChars_append, Nat.ofDigitChars_eq_ofDigitChars_zero, Nat.mul_comm,
    ofDigits, ofDigits]

theorem ofDigits_cons (c : Char) (cs : List Char) :
    ofDigits (c :: cs) = ofDigits [c] * 10 ^ cs.length + ofDigits cs :=
  ofDigits_append [c] cs

/-- A digit is known by its number. -/
theorem ofDigits_singleton {c : Char} (h : c.isDigit = true) :
    c.toNat = ofDigits [c] + 48 ∧ ofDigits [c] < 10 := by
  have hrange : 48 ≤ c.toNat ∧ c.toNat ≤ 57 := Char.isDigit_iff_toNat.mp h
  have hvalue : ofDigits [c] = 10 * 0 + (c.toNat - 48) := rfl
  omega

theorem ofDigits_lt {cs : List Char} (h : cs.all Char.isDigit = true) :
    ofDigits cs < 10 ^ cs.length := by
  induction cs with
  | nil => exact Nat.zero_lt_one
  | cons c cs ih =>
      rw [List.all_cons, Bool.and_eq_true] at h
      have hfirst : ofDigits [c] + 1 ≤ 10 := (ofDigits_singleton h.1).2
      calc ofDigits (c :: cs)
          = ofDigits [c] * 10 ^ cs.length + ofDigits cs := ofDigits_cons c cs
        _ < ofDigits [c] * 10 ^ cs.length + 10 ^ cs.length := Nat.add_lt_add_left (ih h.2) _
        _ = (ofDigits [c] + 1) * 10 ^ cs.length := (Nat.succ_mul _ _).symm
        _ ≤ 10 * 10 ^ cs.length := Nat.mul_le_mul_right _ hfirst
        _ = 10 ^ (c :: cs).length := (Nat.pow_succ').symm

/-- To drop digits at the end is to divide. -/
theorem ofDigits_append_div (cs : List Char) {ds : List Char} (h : ds.all Char.isDigit = true) :
    ofDigits (cs ++ ds) / 10 ^ ds.length = ofDigits cs := by
  rw [ofDigits_append, Nat.mul_comm, Nat.mul_add_div (Nat.pow_pos (by decide)),
    Nat.div_eq_of_lt (ofDigits_lt h), Nat.add_zero]

/-- Digits of one width are known by their number. -/
theorem eq_of_ofDigits_eq {cs ds : List Char} (hlength : cs.length = ds.length)
    (hcs : cs.all Char.isDigit = true) (hds : ds.all Char.isDigit = true)
    (h : ofDigits cs = ofDigits ds) : cs = ds := by
  induction cs generalizing ds with
  | nil => exact (List.length_eq_zero_iff.mp hlength.symm).symm
  | cons c cs ih =>
      rcases ds with _ | ⟨d, ds⟩
      · exact nomatch hlength
      · rw [List.all_cons, Bool.and_eq_true] at hcs hds
        have hrest : cs.length = ds.length := Nat.succ.inj hlength
        -- The lengths are equal, so the first digit is the quotient and the rest the remainder.
        have hfirst : ofDigits [c] = ofDigits [d] := by
          rw [← ofDigits_append_div [c] hcs.2, ← ofDigits_append_div [d] hds.2, hrest]
          exact congrArg (· / 10 ^ ds.length) h
        rw [ofDigits_cons c, ofDigits_cons d, hfirst, hrest] at h
        have hc := ofDigits_singleton hcs.1
        have hd := ofDigits_singleton hds.1
        obtain rfl : c = d := Char.toNat_inj.mp (by omega)
        rw [ih hrest hcs.2 hds.2 (Nat.add_left_cancel h)]

/-- Digits of a width are a number padded to it. -/
theorem readNat?_eq_some_iff_padded {cs : List Char} {width n : Nat} (hwidth : 0 < width)
    (hlength : cs.length = width) :
    readNat? cs = some n ↔ n < 10 ^ width ∧ cs = padded width n := by
  rw [readNat?_eq_some_iff]
  constructor
  · rintro ⟨-, hdigits, rfl⟩
    have hlt := hlength ▸ ofDigits_lt hdigits
    refine ⟨hlt, eq_of_ofDigits_eq ?_ hdigits (all_isDigit_padded _ _) (ofDigits_padded _ _).symm⟩
    rw [hlength, length_padded hwidth hlt]
  · rintro ⟨-, rfl⟩
    exact ⟨padded_ne_nil width n, all_isDigit_padded width n, ofDigits_padded width n⟩

/-- Digits up to a place, and zeros where there are none, are the number of all digits, moved to the
place and cut there. -/
theorem ofDigits_take_append_zeros {ds : List Char} (h : ds.all Char.isDigit = true) (k : Nat) :
    ofDigits (ds.take k ++ List.replicate (k - ds.length) '0') =
      ofDigits ds * 10 ^ k / 10 ^ ds.length := by
  rcases Nat.le_total ds.length k with hle | hle
  · -- There are too few digits, and zeros are added.
    have hpow : 10 ^ k = 10 ^ (k - ds.length) * 10 ^ ds.length := by
      rw [← Nat.pow_add, Nat.sub_add_cancel hle]
    rw [List.take_of_length_le hle, ofDigits_append_zeros, hpow, ← Nat.mul_assoc,
      Nat.mul_div_cancel _ (Nat.pow_pos (by decide))]
  · -- There are too many, and those behind the place are cut off.
    have hdrop : (ds.drop k).all Char.isDigit = true := by
      rw [← List.take_append_drop k ds, List.all_append, Bool.and_eq_true] at h
      exact h.2
    have hpow : 10 ^ ds.length = 10 ^ (ds.drop k).length * 10 ^ k := by
      rw [← Nat.pow_add, List.length_drop, Nat.sub_add_cancel hle]
    rw [Nat.sub_eq_zero_of_le hle, List.replicate_zero, List.append_nil, hpow,
      Nat.mul_div_mul_right _ _ (Nat.pow_pos (by decide)), ← ofDigits_append_div _ hdrop,
      List.take_append_drop]

end Decimal

/-- A year of four digits is written without a sign. -/
theorem Date.yearText_natCast {n : Nat} (h : n < 10000) :
    yearText (n : Int) = Decimal.padded 4 n := by
  rw [yearText, if_neg (by omega), if_neg (by omega), Int.natAbs_natCast]

/-! ## Texts and their parts -/

/-- What ends a text of the internet form: a letter for universal time, or an offset from it. -/
inductive Zone
  | universal (letter : Char) (hletter : letter ∈ ['Z', 'z'])
  | offset (sign : Char) (hour minute : Nat) (hsign : sign ∈ ['+', '-', '\u2212'])
      (hclock : hour < 24 ∧ minute < 60)

namespace Zone

def text : Zone → List Char
  | universal letter _ => [letter]
  | offset sign hour minute _ _ =>
    sign :: (Decimal.padded 2 hour ++ ':' :: Decimal.padded 2 minute)

/-- The seconds by which the clocks of a zone are ahead of universal time. -/
def seconds : Zone → Int
  | universal _ _ => 0
  | offset sign hour minute _ _ =>
    if sign = '+' then hour * 3600 + minute * 60 else -(hour * 3600 + minute * 60)

/-- A zone does not begin like a fraction or go on like one. -/
theorem head?_text {z : Zone} {c : Char} (h : c ∈ z.text.head?) :
    c.isDigit = false ∧ c ≠ '.' := by
  cases z with
  | universal letter hletter =>
      obtain rfl : letter = c := Option.some.inj h
      simp only [List.mem_cons, List.not_mem_nil, or_false] at hletter
      rcases hletter with rfl | rfl <;> decide
  | offset sign hour minute hsign hclock =>
      obtain rfl : sign = c := Option.some.inj h
      simp only [List.mem_cons, List.not_mem_nil, or_false] at hsign
      rcases hsign with rfl | rfl | rfl <;> decide

theorem seconds_lt (z : Zone) : -86400 < z.seconds ∧ z.seconds < 86400 := by
  cases z with
  | universal _ _ =>
      rw [seconds]
      decide
  | offset sign hour minute _ hclock =>
      rw [seconds]
      split <;> omega

end Zone

/-- The parts of a text of the internet form; without digits the fraction has no point either. -/
structure InternetTime where
  date : Date
  separator : Char
  hour : Nat
  minute : Nat
  second : Nat
  fraction : List Char
  zone : Zone
  year : 0 ≤ date.year ∧ date.year ≤ 9999
  separates : separator ∈ ['T', 't', ' ']
  clock : hour < 24 ∧ minute < 60 ∧ second ≤ 60
  digits : fraction.all Char.isDigit = true

namespace InternetTime

/-- The digits of a fraction after their point. -/
def fractionText (fraction : List Char) : List Char :=
  if fraction = [] then [] else '.' :: fraction

def text (x : InternetTime) : String :=
  .ofList (x.date.text ++ x.separator :: (Decimal.padded 2 x.hour ++ ':' ::
    (Decimal.padded 2 x.minute ++ ':' :: (Decimal.padded 2 x.second ++
      (fractionText x.fraction ++ x.zone.text)))))

/-- What the clocks of the zone show. -/
def shown (x : InternetTime) : Timestamp where
  date := x.date
  second := x.hour * 3600 + x.minute * 60 + min x.second 59
  nano :=
    let billionths := Decimal.ofDigits x.fraction * 10 ^ 9 / 10 ^ x.fraction.length
    if x.second = 60 then billionths + Timestamp.secondNanos else billionths

end InternetTime

namespace Timestamp

/-! ## The parts of the internet form -/

theorem twoDigits?_eq_some_iff {a b : Char} {n : Nat} :
    twoDigits? a b = some n ↔ n < 100 ∧ [a, b] = Decimal.padded 2 n :=
  Decimal.readNat?_eq_some_iff_padded Nat.two_pos rfl

theorem readNat?_four_eq_some_iff {a b c d : Char} {n : Nat} :
    Decimal.readNat? [a, b, c, d] = some n ↔ n < 10000 ∧ [a, b, c, d] = Decimal.padded 4 n :=
  Decimal.readNat?_eq_some_iff_padded (by decide : 0 < 4) rfl

theorem exists_twoDigits {n : Nat} (h : n < 100) :
    ∃ a b, Decimal.padded 2 n = [a, b] ∧ twoDigits? a b = some n := by
  rcases List.length_eq_two.mp (Decimal.length_padded Nat.two_pos h) with ⟨a, b, hab⟩
  exact ⟨a, b, hab, twoDigits?_eq_some_iff.mpr ⟨h, hab.symm⟩⟩

theorem exists_fourDigits {n : Nat} (h : n < 10000) :
    ∃ a b c d, Decimal.padded 4 n = [a, b, c, d] ∧ Decimal.readNat? [a, b, c, d] = some n := by
  have hlength : (Decimal.padded 4 n).length = 4 := Decimal.length_padded (by decide) h
  match hdigits : Decimal.padded 4 n, hlength with
  | [a, b, c, d], _ =>
      exact ⟨a, b, c, d, rfl, readNat?_four_eq_some_iff.mpr ⟨h, hdigits.symm⟩⟩

theorem readOffset?_text (z : Zone) : readOffset? z.text = some z.seconds := by
  cases z with
  | universal letter hletter =>
      simp only [List.mem_cons, List.not_mem_nil, or_false] at hletter
      exact if_pos hletter
  | offset sign hour minute hsign hclock =>
      -- An hour and a minute are two digits each, whose numbers give the seconds.
      rcases exists_twoDigits (by omega : hour < 100) with ⟨a, b, hab, hhour⟩
      rcases exists_twoDigits (by omega : minute < 100) with ⟨c, d, hcd, hminute⟩
      have hbounds : ¬((':' : Char) ≠ ':' ∨ 23 < hour ∨ 59 < minute) := by
        simp only [ne_eq, not_true_eq_false, false_or]
        omega
      simp only [Zone.text, Zone.seconds, hab, hcd, List.cons_append, List.nil_append,
        readOffset?, hhour, hminute, Option.bind_eq_bind, Option.bind_some, if_neg hbounds]
      simp only [List.mem_cons, List.not_mem_nil, or_false] at hsign
      split
      · rfl
      · next hplus => exact if_pos (hsign.resolve_left hplus)

/-- Every offset that is read is that of a zone. -/
theorem exists_zone {cs : List Char} {seconds : Int} (h : readOffset? cs = some seconds) :
    ∃ z : Zone, z.text = cs := by
  unfold readOffset? at h
  -- Either one letter, or a sign and four digits around a colon.
  split at h
  · next letter =>
      have hletter : letter ∈ ['Z', 'z'] := by
        simpa only [List.mem_cons, List.not_mem_nil, or_false] using
          (Option.ite_none_right_eq_some.mp h).1
      exact ⟨.universal letter hletter, rfl⟩
  · next sign a b colon c d =>
      simp only [Option.bind_eq_bind, Option.bind_eq_some_iff, twoDigits?_eq_some_iff,
        Option.ite_none_left_eq_some, not_or, not_not, Nat.not_lt] at h
      rcases h with ⟨hour, ⟨-, hhour⟩, minute, ⟨-, hminute⟩, ⟨rfl, hhours, hminutes⟩, h⟩
      have hclock : hour < 24 ∧ minute < 60 := by omega
      have hsign : sign ∈ ['+', '-', '\u2212'] := by
        simp only [List.mem_cons, List.not_mem_nil, or_false]
        split at h
        · next hplus => exact .inl hplus
        · exact .inr (Option.ite_none_right_eq_some.mp h).1
      refine ⟨.offset sign hour minute hsign hclock, ?_⟩
      rw [Zone.text, ← hhour, ← hminute]
      rfl
  · exact absurd h (by simp only [reduceCtorEq, not_false_eq_true])

/-- A fraction is taken up to what follows it, and its digits up to the ninth. -/
theorem takeFraction?_append {ds rest : List Char} (hdigits : ds.all Char.isDigit = true)
    (hrest : ∀ c ∈ rest.head?, c.isDigit = false ∧ c ≠ '.') :
    takeFraction? (InternetTime.fractionText ds ++ rest) =
      some (Decimal.ofDigits ds * 10 ^ 9 / 10 ^ ds.length, rest) := by
  rw [InternetTime.fractionText]
  by_cases hds : ds = []
  · -- Without a fraction no point follows, and nothing is taken.
    have hpoint : Text.after? '.' rest = none := by
      cases rest with
      | nil => rfl
      | cons c rest => exact if_neg (hrest c rfl).2
    rw [if_pos hds, List.nil_append, takeFraction?, hpoint, hds]
    rfl
  · rcases Text.run_append hdigits fun c hc => (hrest c hc).1 with ⟨htake, hdrop⟩
    have hpoint : Text.after? '.' ('.' :: ds ++ rest) = some (ds ++ rest) := rfl
    simp only [if_neg hds, takeFraction?, hpoint, htake, hdrop, List.isEmpty_eq_false_iff.mpr hds,
      Bool.false_eq_true, if_false, Decimal.ofDigits_take_append_zeros hdigits]

/-- Every fraction that is taken is one of digits. -/
theorem exists_fractionText {cs rest : List Char} {n : Nat}
    (h : takeFraction? cs = some (n, rest)) : ∃ ds : List Char, ds.all Char.isDigit = true ∧
      cs = InternetTime.fractionText ds ++ rest := by
  unfold takeFraction? at h
  split at h
  · cases h
    exact ⟨[], rfl, rfl⟩
  · next digits hpoint =>
      simp only [Option.ite_none_left_eq_some, Option.some.injEq, Prod.mk.injEq] at h
      rcases h with ⟨hne, -, hrest⟩
      refine ⟨digits.takeWhile Char.isDigit, List.all_takeWhile, ?_⟩
      rw [Text.after?_eq_some_iff.mp hpoint, InternetTime.fractionText,
        if_neg (mt List.isEmpty_iff.mpr hne), ← hrest, List.cons_append,
        List.takeWhile_append_dropWhile]

/-! ## Moving a timestamp -/

/-- To take off seconds is to subtract them, as long as the calendar has the day. -/
theorem minusSeconds?_eq_some_iff {t u : Timestamp} {seconds : Int} :
    t.minusSeconds? seconds = some u ↔ u.second < daySeconds ∧ u.nano = t.nano ∧
      u.date.dayNumber * daySeconds + u.second =
        t.date.dayNumber * daySeconds + t.second - seconds := by
  unfold minusSeconds? daySeconds
  simp only [Option.map_eq_some_iff, Date.addDays?_eq_some_iff]
  constructor
  · rintro ⟨d, hd, rfl⟩
    dsimp only
    omega
  · rintro ⟨hsecond, hnano, htotal⟩
    -- The second of the day is the remainder, and the day is the quotient.
    have hrest : ((t.second - seconds) % (86400 : Nat)).toNat = u.second := by omega
    refine ⟨u.date, by omega, ?_⟩
    rw [hrest, ← hnano]

/-- The text shows the parts, and its seconds are taken off what the clocks of the zone show. -/
theorem readInternet?_text (x : InternetTime) :
    readInternet? x.text = x.shown.minusSeconds? x.zone.seconds := by
  rcases x.date.existing with ⟨-, hmonths, hdays⟩
  have hlength := Date.monthLength_le x.date.year x.date.month
  have hyears := x.year
  rcases x.clock with ⟨hhours, hminutes, hseconds⟩
  -- All fields but the fraction and the zone have a fixed number of digits, and are taken apart one
  -- by one.
  have hnatAbs : (x.date.year.natAbs : Int) = x.date.year := by omega
  have hyearText : Date.yearText x.date.year = Decimal.padded 4 x.date.year.natAbs := by
    rw [← Date.yearText_natCast (by omega), hnatAbs]
  rcases exists_fourDigits (by omega : x.date.year.natAbs < 10000) with ⟨y, e, a, r, hfour, hyear⟩
  rcases exists_twoDigits (by omega : x.date.month < 100) with ⟨m, n, hmn, hmonth⟩
  rcases exists_twoDigits (by omega : x.date.day < 100) with ⟨d, f, hdf, hday⟩
  rcases exists_twoDigits (by omega : x.hour < 100) with ⟨h, i, hhi, hhour⟩
  rcases exists_twoDigits (by omega : x.minute < 100) with ⟨j, k, hjk, hminute⟩
  rcases exists_twoDigits (by omega : x.second < 100) with ⟨p, q, hpq, hsecond⟩
  have htext : x.text.toList = y :: e :: a :: r :: '-' :: m :: n :: '-' :: d :: f ::
      x.separator :: h :: i :: ':' :: j :: k :: ':' :: p :: q ::
        (InternetTime.fractionText x.fraction ++ x.zone.text) := by
    rw [InternetTime.text, String.toList_ofList, Date.text, hyearText, hfour, hmn, hdf, hhi, hjk,
      hpq]
    rfl
  -- The leap second is read as the one before it, with its fraction past the second.
  have hclock : secondOfDay? x.hour x.minute (if x.second = 60 then 59 else x.second) =
      some (x.hour * 3600 + x.minute * 60 + min x.second 59) := by
    rw [secondOfDay?_eq_some_iff]
    split <;> omega
  have hseparator : ¬(x.separator ≠ 'T' ∧ x.separator ≠ 't' ∧ x.separator ≠ ' ') := by
    have hmem := x.separates
    simp only [List.mem_cons, List.not_mem_nil, or_false] at hmem
    tauto
  have hfraction := takeFraction?_append x.digits fun _ => Zone.head?_text (z := x.zone)
  unfold readInternet?
  simp only [htext, hyear, hmonth, hday, hhour, hminute, hsecond, hnatAbs, Date.ofCivil?_self,
    hclock, hfraction, readOffset?_text, if_neg hseparator, Option.bind_eq_bind, Option.bind_some,
    ne_eq, not_true_eq_false, or_self, if_false, InternetTime.shown]

/-- Every text that is read has parts. -/
theorem exists_internetTime {s : String} {t : Timestamp} (h : readInternet? s = some t) :
    ∃ x : InternetTime, x.text = s := by
  unfold readInternet? at h
  split at h
  · next y e a r hyphen m n hyphen' d f separator h i colon j k colon' p q rest htext =>
      -- Every field that was read is one of the form, and spells the digits that stood there.
      simp only [Option.bind_eq_bind, Option.bind_eq_some_iff, twoDigits?_eq_some_iff,
        Option.ite_none_left_eq_some, not_or, not_and_or, not_not, Date.ofCivil?_eq_some_iff,
        secondOfDay?_eq_some_iff] at h
      rcases h with ⟨⟨rfl, rfl, rfl, rfl⟩, hseparator, year, hyear, month, ⟨-, hmonth⟩, day,
        ⟨-, hday⟩, date, ⟨hdyear, hdmonth, hdday⟩, second, ⟨-, hsecond⟩, hour, ⟨-, hhour⟩, minute,
        ⟨-, hminute⟩, -, ⟨hclock, -⟩, ⟨nano, ending⟩, hfraction, offset, hoffset, -⟩
      rcases exists_fractionText hfraction with ⟨fraction, hdigits, hrest⟩
      rcases exists_zone hoffset with ⟨zone, hzone⟩
      rcases readNat?_four_eq_some_iff.mp hyear with ⟨hlt, hfour⟩
      have hseparates : separator ∈ ['T', 't', ' '] := by
        simpa only [List.mem_cons, List.not_mem_nil, or_false] using hseparator
      have hseconds : second ≤ 60 := by
        rcases hclock with ⟨-, -, hsecond⟩
        split at hsecond <;> omega
      refine ⟨⟨date, separator, hour, minute, second, fraction, zone, by omega, hseparates,
        ⟨hclock.1, hclock.2.1, hseconds⟩, hdigits⟩, ?_⟩
      rw [← String.ofList_toList (s := s), htext, InternetTime.text]
      dsimp only
      rw [Date.text, hdyear, Date.yearText_natCast hlt, hdmonth, hdday, ← hfour, ← hmonth, ← hday,
        ← hhour, ← hminute, ← hsecond, hzone, ← hrest]
      rfl
  · exact absurd h (by simp only [reduceCtorEq, not_false_eq_true])

end Timestamp

namespace InternetTime

/-- The years of the form are far from the ends of the calendar. -/
theorem dayNumber_mem (x : InternetTime) :
    Date.first.dayNumber < x.date.dayNumber ∧ x.date.dayNumber < Date.last.dayNumber := by
  have hyears := x.year
  -- Years of four digits are far from both ends of the calendar.
  have hmin : Date.minYear < x.date.year := by
    rw [Date.minYear]
    omega
  have hmax : x.date.year + 1 < Date.maxYear + 1 := by
    rw [Date.maxYear]
    omega
  have hbegin := Date.daysBeforeYear_lt_iff.mpr hmin
  have hend := Date.daysBeforeYear_lt_iff.mpr hmax
  have hyear := Date.mem_yearOf x.date.dayNumber
  rw [Date.yearOf_dayNumber] at hyear
  rw [Date.dayNumber_first, Date.dayNumber_last]
  omega

/-- An offset takes no text of the form out of the calendar. -/
theorem exists_minusSeconds? (x : InternetTime) :
    ∃ t, x.shown.minusSeconds? x.zone.seconds = some t := by
  have hzone := x.zone.seconds_lt
  have hdays := x.dayNumber_mem
  have hsecond : x.shown.second < 86400 := by
    have hclock := x.clock
    simp only [shown]
    omega
  -- A zone is less than a day away, and there is a day on either side.
  have hmoved : Date.first.dayNumber ≤
        x.date.dayNumber + (x.shown.second - x.zone.seconds) / Timestamp.daySeconds ∧
      x.date.dayNumber + (x.shown.second - x.zone.seconds) / Timestamp.daySeconds ≤
        Date.last.dayNumber := by
    simp only [Timestamp.daySeconds]
    omega
  rcases Date.exists_dayNumber_iff.mpr hmoved with ⟨d, hd⟩
  exact ⟨_, Option.map_eq_some_iff.mpr ⟨d, Date.addDays?_eq_some_iff.mpr hd, rfl⟩⟩

end InternetTime

/-- The texts that are read in the internet form are those that have parts. -/
theorem Timestamp.isSome_readInternet?_iff {s : String} :
    (readInternet? s).isSome = true ↔ ∃ x : InternetTime, x.text = s := by
  constructor
  · intro h
    rcases Option.isSome_iff_exists.mp h with ⟨t, ht⟩
    exact exists_internetTime ht
  · rintro ⟨x, rfl⟩
    rcases x.exists_minusSeconds? with ⟨t, ht⟩
    rw [readInternet?_text, ht, Option.isSome_some]

end GridQuery
