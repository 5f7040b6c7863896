import GridQuery.Proofs.Calendar.InternetForm
import GridQuery.Proofs.ComparisonLaws
import Mathlib.Algebra.Order.Floor.Semifield
import Mathlib.Data.Rat.Floor

/-!
# System Times by Moment

Comparisons of system times go by the moments that their texts denote.

A moment is a count of seconds of universal time and the exact part of a second that has passed
since; a leap second goes on past the full second. Moments are ordered by the count first, so that a
leap second is behind all of the second before it and ahead of the next. Offset, fraction and
spelling are gone from it, and two texts of one moment need not have a character in common.

A text is read as the place of its moment on the line of time, where less than a billionth is cut
off. Cutting keeps an order but may make equal what was not, so that of two moments the later one is
never placed before the earlier; and a value that is compared with has full seconds, where nothing
is cut off. A comparison sees of a timestamp no more than its place.

## Main definitions

* `Instant`: A moment.
* `InternetTime.instant`, `Timestamp.instant`: The moments of a text and of a timestamp.
* `Instant.key`: The place of a moment on the line of time.
* `InternetTime.cell`: The cell with a text.

## Theorems

* `Instant.key_le_of_lt`, `Instant.key_lt_iff_of_past_eq_zero`: Moments keep their order.
* `InternetTime.exists_read?`: A text is read as the moment that it denotes.
* `Cell.compare_eq_of_key_eq`, `Cell.compare_less`: What a comparison sees of a timestamp.
* `Cell.compare_by_instant`: Comparisons of system times go by moments.
-/

namespace GridQuery

/-! ## Moments -/

/-- A moment: the seconds of universal time counted up to it, and how much has passed of the last,
which is one second or more in a leap second. -/
structure Instant where
  seconds : Int
  past : ℚ
  deriving DecidableEq

namespace Instant

instance : LT Instant :=
  ⟨fun a b => a.seconds < b.seconds ∨ a.seconds = b.seconds ∧ a.past < b.past⟩

instance (a b : Instant) : Decidable (a < b) :=
  inferInstanceAs (Decidable (_ ∨ _))

end Instant

namespace InternetTime

/-- The moment that a text denotes. The second 60 is a leap second behind the second 59. -/
def instant (x : InternetTime) : Instant where
  seconds := x.date.dayNumber * 86400 + x.hour * 3600 + x.minute * 60 + min x.second 59 -
    x.zone.seconds
  past := (if x.second = 60 then 1 else 0) +
    (Decimal.ofDigits x.fraction : ℚ) / 10 ^ x.fraction.length

end InternetTime

namespace Timestamp

/-- The moment of a timestamp of universal time. -/
def instant (t : Timestamp) : Instant where
  seconds := t.date.dayNumber * 86400 + t.second
  past := t.nano / 10 ^ 9

end Timestamp

/-! ## Moments on the line of time -/

namespace Instant

/-- The place of a moment on the line of time, with room for a leap second behind each second. What
is less than a billionth is cut off. -/
def key (i : Instant) : Int :=
  i.seconds * (2 * Timestamp.secondNanos) + ⌊i.past * 10 ^ 9⌋₊

variable {a b : Instant}

theorem floor_past_lt (h : a.past < 2) : ⌊a.past * 10 ^ 9⌋₊ < 2 * Timestamp.secondNanos := by
  rw [Nat.floor_lt' (by decide)]
  have hbound : a.past * 10 ^ 9 < 2 * 10 ^ 9 := by gcongr
  refine hbound.trans_eq ?_
  norm_num [Timestamp.secondNanos]

/-- Moments keep their order, but for what is cut off. -/
theorem key_le_of_lt (ha : a.past < 2) (h : a < b) : a.key ≤ b.key := by
  have hfloor := floor_past_lt ha
  unfold key
  rcases h with hseconds | ⟨hseconds, hpast⟩
  · simp only [Timestamp.secondNanos] at hfloor ⊢
    omega
  · have hmono : ⌊a.past * 10 ^ 9⌋₊ ≤ ⌊b.past * 10 ^ 9⌋₊ := by gcongr
    rw [hseconds]
    omega

/-- Before a full second nothing is cut off that matters. -/
theorem key_lt_iff_of_past_eq_zero (ha : 0 ≤ a.past ∧ a.past < 2) (hb : b.past = 0) :
    a.key < b.key ↔ a < b := by
  have hfloor := floor_past_lt ha.2
  have hlt : a < b ↔ a.seconds < b.seconds := by
    refine ⟨fun h => h.resolve_right fun ⟨_, hpast⟩ => ?_, .inl⟩
    exact absurd hpast (by rw [hb]; exact not_lt.mpr ha.1)
  rw [hlt, key, key, hb, zero_mul, Nat.floor_zero]
  simp only [Timestamp.secondNanos] at hfloor ⊢
  omega

end Instant

namespace Timestamp

/-- The short form has no fraction. -/
theorem nano_of_readShort? {s : String} {t : Timestamp} (h : readShort? s = some t) :
    t.nano = 0 := by
  unfold readShort? at h
  split at h
  · rcases Option.map_eq_some_iff.mp h with ⟨d, -, rfl⟩
    rfl
  · simp only [Option.bind_eq_bind, Option.bind_eq_some_iff, Option.some.injEq] at h
    rcases h with ⟨d, -, fields, -, second, -, rfl⟩
    rfl
  · exact nomatch h

theorem past_eq_zero {t : Timestamp} (h : t.nano = 0) : t.instant.past = 0 := by
  rw [instant, h, Nat.cast_zero, zero_div]

theorem key_eq_of_nano_eq_zero {t : Timestamp} (h : t.nano = 0) : t.key = t.instant.key := by
  rw [Instant.key, past_eq_zero h, key, h, zero_mul, Nat.floor_zero]
  rfl

end Timestamp

/-- A value of a column of times has full seconds. -/
theorem Input.nano_of_coerce {kind : ColumnKind} {text : String} {v : Timestamp}
    (hkind : kind = .date ∨ kind = .ctime ∨ kind = .mtime)
    (h : coerce kind text = .ok (.timestamp v)) : v.nano = 0 := by
  have htext : text ≠ "" := by
    rintro rfl
    rcases hkind with rfl | rfl | rfl <;> exact nomatch h
  rw [coerce_time hkind htext, elim_eq_ok_iff, Option.map_eq_some_iff] at h
  rcases h with ⟨t, hread, ht⟩
  rw [← Input.timestamp.inj ht, Timestamp.nano_of_readShort? hread]

namespace InternetTime

theorem past_mem (x : InternetTime) : 0 ≤ x.instant.past ∧ x.instant.past < 2 := by
  have hlt : (Decimal.ofDigits x.fraction : ℚ) < 10 ^ x.fraction.length := by
    exact_mod_cast Decimal.ofDigits_lt x.digits
  have hfraction : (Decimal.ofDigits x.fraction : ℚ) / 10 ^ x.fraction.length < 1 :=
    (div_lt_one (by positivity)).mpr hlt
  have hnonneg : 0 ≤ (Decimal.ofDigits x.fraction : ℚ) / 10 ^ x.fraction.length := by positivity
  rw [instant]
  dsimp only
  split <;> constructor <;> linarith

/-- The clocks of the zone show the fraction up to billionths. -/
theorem shown_nano (x : InternetTime) : x.shown.nano = ⌊x.instant.past * 10 ^ 9⌋₊ := by
  -- Digits beyond the ninth are cut off, and a leap second is one second past the last.
  have hfloor : ⌊(Decimal.ofDigits x.fraction : ℚ) / 10 ^ x.fraction.length * 10 ^ 9⌋₊ =
      Decimal.ofDigits x.fraction * 10 ^ 9 / 10 ^ x.fraction.length := by
    rw [div_mul_eq_mul_div]
    exact_mod_cast Nat.floor_div_eq_div (K := ℚ) _ _
  have hleap : ((1 : ℚ) + Decimal.ofDigits x.fraction / 10 ^ x.fraction.length) * 10 ^ 9 =
      (Decimal.ofDigits x.fraction : ℚ) / 10 ^ x.fraction.length * 10 ^ 9 +
        (Timestamp.secondNanos : ℕ) := by
    norm_num [Timestamp.secondNanos]
    ring
  simp only [shown, instant]
  split
  · rw [hleap, Nat.floor_add_natCast (by positivity), hfloor]
  · rw [zero_add, hfloor]

/-- A text of the form is read as the moment that it denotes. -/
theorem exists_read? (x : InternetTime) :
    ∃ t, Timestamp.read? x.text = some t ∧ t.key = x.instant.key := by
  rcases x.exists_minusSeconds? with ⟨t, ht⟩
  refine ⟨t, by rw [Timestamp.read?, Timestamp.readInternet?_text, ht, Option.some_or], ?_⟩
  rcases Timestamp.minusSeconds?_eq_some_iff.mp ht with ⟨-, hnano, htotal⟩
  have hseconds : x.instant.seconds =
      x.shown.date.dayNumber * Timestamp.daySeconds + x.shown.second - x.zone.seconds := by
    simp only [instant, shown, Timestamp.daySeconds]
    push_cast
    ring
  rw [Timestamp.key, Instant.key, htotal, hnano, shown_nano, hseconds]

/-- The cell with the text. -/
def cell (kind : ColumnKind) (x : InternetTime) : Cell :=
  ⟨kind, some (.string x.text)⟩

end InternetTime

theorem ColumnKind.isSystemTime_iff {kind : ColumnKind} :
    kind.isSystemTime = true ↔ kind = .ctime ∨ kind = .mtime := by
  rw [isSystemTime, Bool.or_eq_true, beq_iff_eq, beq_iff_eq]

namespace Cell

variable {kind : ColumnKind} {a b : InternetTime} {comparison : Comparison} {input : Input}

/-- A system time that is read is what its cell holds. -/
theorem ordered_systemTime {s : String} {t : Timestamp} (hkind : kind.isSystemTime = true)
    (h : Timestamp.read? s = some t) : ordered ⟨kind, some (.string s)⟩ = .ok (.timestamp t) := by
  have hne : s ≠ "" := by
    rintro rfl
    have hnone : Timestamp.read? "" = none := by decide
    exact nomatch hnone.symm.trans h
  have hempty : ¬Empty (some (.string s)) := by
    simp only [Empty, reduceCtorEq, Option.some.injEq, Json.string.injEq, hne, or_self,
      not_false_eq_true]
  rw [ordered_of_not_empty hempty, if_pos (.inr (ColumnKind.isSystemTime_iff.mp hkind)), timestamp,
    hkind]
  simp only [Json.string?, Option.getD_some, if_true, h]

section Timestamps

variable {raw raw' : Option Json} {t t' : Timestamp} (hfamily : kind.family = .ordered)
  (h : ordered ⟨kind, raw⟩ = .ok (.timestamp t))

include hfamily h

/-- Of a timestamp a comparison sees only its place on the line of time. -/
theorem compare_eq_of_key_eq (h' : ordered ⟨kind, raw'⟩ = .ok (.timestamp t'))
    (hkey : t.key = t'.key) :
    compare ⟨kind, raw⟩ comparison input = compare ⟨kind, raw'⟩ comparison input := by
  -- The answer depends on the key only, whatever the value is.
  have horder : orderTo? (.timestamp t) input = orderTo? (.timestamp t') input := by
    cases input with
    | timestamp v => rw [orderTo?, orderTo?, hkey]
    | blank | text _ | number _ | bool _ => rfl
  have hcompare : compareOrdered ⟨kind, raw⟩ comparison input =
      compareOrdered ⟨kind, raw'⟩ comparison input := by
    rw [compareOrdered, compareOrdered, h, h']
    simp only [bind, Except.bind, horder]
    rfl
  simp only [compare, hfamily, hcompare]

theorem compare_less_of_ne_blank (hinput : input ≠ .blank) :
    compare ⟨kind, raw⟩ .less input = .ok (orderTo? (.timestamp t) input == some .lt) := by
  have hlike : Comparison.less ≠ .like := nofun
  rw [compare_ordered hfamily hlike hinput, h]
  rfl

theorem compare_less (v : Timestamp) :
    compare ⟨kind, raw⟩ .less (.timestamp v) = .ok (decide (t.key < v.key)) := by
  have hlt : (orderTo? (.timestamp t) (.timestamp v) == some .lt) = decide (t.key < v.key) := by
    rw [Bool.eq_iff_iff, decide_eq_true_iff, ← compare_lt_iff_lt, orderTo?, beq_iff_eq,
      Option.some.injEq]
  have hinput : Input.timestamp v ≠ .blank := by simp only [ne_eq, reduceCtorEq, not_false_eq_true]
  rw [compare_less_of_ne_blank hfamily h hinput, hlt]

/-- A timestamp is less than later ones only. -/
theorem compare_less_eq_ok_true_iff :
    compare ⟨kind, raw⟩ .less input = .ok true ↔ ∃ v, input = .timestamp v ∧ t.key < v.key := by
  -- The empty value is refused, and a timestamp is in no order to a value that is no instant.
  cases input with
  | blank =>
      have hambiguous : compare ⟨kind, raw⟩ .less .blank = .error (.ambiguousComparison .less) := by
        rw [compare, hfamily]
        rfl
      simp only [hambiguous, reduceCtorEq, false_and, exists_false]
  | timestamp v =>
      simp only [compare_less hfamily h, Except.ok.injEq, decide_eq_true_eq, Input.timestamp.injEq,
        exists_eq_left']
  | text _ | number _ | bool _ =>
      rw [compare_less_of_ne_blank hfamily h
        (by simp only [ne_eq, reduceCtorEq, not_false_eq_true])]
      simp only [orderTo?, Except.ok.injEq, beq_iff_eq, reduceCtorEq, false_and, exists_false]

end Timestamps

theorem exists_ordered_cell (hkind : kind.isSystemTime = true) (x : InternetTime) :
    ∃ t, ordered (x.cell kind) = .ok (.timestamp t) ∧ t.key = x.instant.key := by
  rcases x.exists_read? with ⟨t, hread, hkey⟩
  exact ⟨t, ordered_systemTime hkind hread, hkey⟩

/-- The texts of system times are those of the internet form, and comparisons go by the moments that
they denote. What is compared with two texts of one moment has one outcome, whatever the comparison
and the value. Of two moments the earlier one is less than what the later one is less than. And a
text is less than a value, which has full seconds, if and only if its moment is before the value. -/
theorem compare_by_instant (hkind : kind.isSystemTime = true) :
    (∀ s, (Timestamp.readInternet? s).isSome = true ↔ ∃ x : InternetTime, x.text = s) ∧
    (∀ a b : InternetTime, a.instant = b.instant → ∀ comparison input,
      (a.cell kind).compare comparison input = (b.cell kind).compare comparison input) ∧
    (∀ a b : InternetTime, a.instant < b.instant → ∀ input,
      (b.cell kind).compare .less input = .ok true →
        (a.cell kind).compare .less input = .ok true) ∧
    ∀ (a : InternetTime) text v, Input.coerce kind text = .ok (.timestamp v) →
      (a.cell kind).compare .less (.timestamp v) = .ok (decide (a.instant < v.instant)) := by
  have hsystem : kind = .ctime ∨ kind = .mtime := ColumnKind.isSystemTime_iff.mp hkind
  have hfamily : kind.family = .ordered := by rcases hsystem with rfl | rfl <;> rfl
  refine ⟨fun s => Timestamp.isSome_readInternet?_iff, fun a b hinstant comparison input => ?_,
    fun a b hlt input hb => ?_, fun a text v hinput => ?_⟩
  · -- The same instant has the same key.
    rcases exists_ordered_cell hkind a with ⟨t, ht, hkey⟩
    rcases exists_ordered_cell hkind b with ⟨u, hu, hkey'⟩
    exact compare_eq_of_key_eq hfamily ht hu (by rw [hkey, hkey', hinstant])
  · -- An earlier instant has no larger key, as both are cut off in the same way.
    rcases exists_ordered_cell hkind a with ⟨t, ht, hkey⟩
    rcases exists_ordered_cell hkind b with ⟨u, hu, hkey'⟩
    rcases (compare_less_eq_ok_true_iff hfamily hu).mp hb with ⟨v, rfl, hless⟩
    have hle := Instant.key_le_of_lt a.past_mem.2 hlt
    exact (compare_less_eq_ok_true_iff hfamily ht).mpr ⟨v, rfl, by omega⟩
  · -- The value has whole seconds, so nothing was cut off that could decide.
    rcases exists_ordered_cell hkind a with ⟨t, ht, hkey⟩
    have hnano := Input.nano_of_coerce (.inr hsystem) hinput
    have hiff := Instant.key_lt_iff_of_past_eq_zero a.past_mem (Timestamp.past_eq_zero hnano)
    rw [InternetTime.cell, compare_less hfamily ht, hkey, Timestamp.key_eq_of_nano_eq_zero hnano,
      decide_eq_decide.mpr hiff]

/-- A leap second in two zones, of which one has the new year already, and the midnight after it. -/
theorem compare_by_instant_leap :
    let a : InternetTime := ⟨⟨2017, 1, 1, by decide⟩, 'T', 5, 29, 60, ['5'],
      .offset '+' 5 30 (by decide) (by decide), by decide, by decide, by decide, by decide⟩
    let b : InternetTime := ⟨⟨2016, 12, 31, by decide⟩, 't', 23, 59, 60, "5000000000".toList,
      .universal 'z' (by decide), by decide, by decide, by decide, by decide⟩
    let c : InternetTime := ⟨⟨2016, 12, 31, by decide⟩, ' ', 0, 1, 0, [],
      .offset '-' 23 59 (by decide) (by decide), by decide, by decide, by decide, by decide⟩
    let v : Timestamp := ⟨⟨2017, 1, 1, by decide⟩, 1, 0⟩
    a.text = "2017-01-01T05:29:60.5+05:30" ∧ b.text = "2016-12-31t23:59:60.5000000000z" ∧
      c.text = "2016-12-31 00:01:00-23:59" ∧
      ColumnKind.ctime.isSystemTime = true ∧ a.instant = b.instant ∧ b.instant < c.instant ∧
      (a.cell .ctime).compare .equal (.timestamp v) =
        (b.cell .ctime).compare .equal (.timestamp v) ∧
      (c.cell .ctime).compare .less (.timestamp v) = .ok true ∧
      (b.cell .ctime).compare .less (.timestamp v) = .ok true := by
  intro a b c v
  have hinstant : a.instant = b.instant := by decide +kernel
  have hlt : b.instant < c.instant := by decide +kernel
  have hinput : Input.coerce .ctime "2017-01-01 0:0:1" = .ok (.timestamp v) := by decide +kernel
  have hbefore : c.instant < v.instant := by decide +kernel
  rcases compare_by_instant (rfl : ColumnKind.ctime.isSystemTime = true) with
    ⟨-, hequal, horder, hvalue⟩
  have hc : (c.cell .ctime).compare .less (.timestamp v) = .ok true := by
    rw [hvalue c _ v hinput, decide_eq_true hbefore]
  exact ⟨by decide +kernel, by decide +kernel, by decide +kernel, rfl, hinstant, hlt,
    hequal a b hinstant _ _, hc, horder b c hlt _ hc⟩

end Cell

end GridQuery
