import Mathlib.Data.Char
import Tabular.Column.Display
import Tabular.Proofs.Calendar.Date
import Tabular.Proofs.Text.Numeral

/-!
# Instants as text

The text of an instant is fields of digits, each as wide as its numbers can get and with a mark
behind it. So the fields are found again by where they stand, and because they are written from the
year down to the microseconds, texts are in order as the instants are.

## Main definitions

- `Layout.write`, `Layout.read` — numbers in fields of fixed widths
- `Moment` — the fields of an instant, `Moment.microseconds` — the instant they stand for
- `Moment.ofIso` — the fields of a text, `Moment.HasIsoForm` — where it has digits and where marks
- `Timestamp.moment` — the fields of a timestamp

## Main statements

- `Layout.compare_write` — numbers in fields are in order of their texts
- `Moment.compare_microseconds` — instants are in order of their fields
- `Timestamp.microseconds_moment` — the fields of a timestamp lose less than a microsecond
- `Timestamp.iso_exact` — the text of a timestamp, and the order of two
-/

namespace Tabular

/-! ### Numbers in fields -/

/-- The widths of fields, and the marks behind them. -/
abbrev Layout := List (Nat × Char)

namespace Layout

/-- Numbers written into fields, behind zeros. -/
def write : Layout → List Nat → List Char
  | (width, mark) :: layout, n :: ns => Timestamp.padded width n ++ mark :: write layout ns
  | _, _ => []

/-- The numbers in the fields of a text. -/
def read : Layout → List Char → List Nat
  | [], _ => []
  | (width, _) :: layout, text =>
    Nat.ofDigitChars 10 (text.take width) 0 :: read layout (text.drop (width + 1))

/-- A text that has a zero for every digit. -/
def form (layout : Layout) : List Char :=
  layout.flatMap fun field => List.replicate field.1 '0' ++ [field.2]

/-- The numbers have room in their fields. -/
def Fits (layout : Layout) (ns : List Nat) : Prop :=
  List.Forall₂ (fun field n => 0 < field.1 ∧ n < 10 ^ field.1) layout ns

/-- A zero of a form stands for any digit, and everything else for itself. -/
def MatchesForm (c form : Char) : Prop := if form = '0' then c.isDigit = true else c = form

variable {width m n : Nat} {xs ys us vs : List Char} {layout : Layout} {ms ns : List Nat}

theorem length_padded (hwidth : 0 < width) (hn : n < 10 ^ width) :
    (Timestamp.padded width n).length = width := by
  have hle := (Nat.length_toDigits_le_iff (by omega) hwidth).2 hn
  rw [Timestamp.padded, List.length_leftpad]
  exact Nat.max_eq_left hle

theorem isDigit_of_mem_padded {c : Char} (h : c ∈ Timestamp.padded width n) : c.isDigit = true :=
  Numeral.isDigit_of_mem_leftpad
    (fun _ hd => Nat.isDigit_of_mem_toDigits (by decide) (by decide) hd) h

theorem ofDigitChars_padded (width n : Nat) :
    Nat.ofDigitChars 10 (Timestamp.padded width n) 0 = n := by
  rw [Timestamp.padded, Numeral.ofDigitChars_leftpad, Nat.ofDigitChars_ten_toDigits]

theorem toNat_of_isDigit {c : Char} (h : c.isDigit = true) :
    '0'.toNat ≤ c.toNat ∧ c.toNat < '0'.toNat + 10 := by
  obtain ⟨hlow, hhigh⟩ := Bool.and_eq_true_iff.1 h
  exact ⟨of_decide_eq_true hlow, Nat.lt_succ_of_le (of_decide_eq_true hhigh)⟩

/-- Digits behind a number are in order of the number, and then of themselves. -/
theorem compare_ofDigitChars (hxs : ∀ c ∈ xs, c.isDigit = true) (hys : ∀ c ∈ ys, c.isDigit = true)
    (hlength : xs.length = ys.length) (m n : Nat) :
    compare (Nat.ofDigitChars 10 xs m) (Nat.ofDigitChars 10 ys n) =
      (compare m n).then (compare xs ys) := by
  -- The numbers take up the digits from the left, so that the first two that differ decide.
  induction xs generalizing ys m n with
  | nil =>
    obtain rfl := List.eq_nil_of_length_eq_zero hlength.symm
    exact (Ordering.then_eq ..).symm
  | cons x xs ih =>
    cases ys with
    | nil => cases hlength
    | cons y ys =>
      obtain ⟨hx, hx'⟩ := toNat_of_isDigit (hxs x List.mem_cons_self)
      obtain ⟨hy, hy'⟩ := toNat_of_isDigit (hys y List.mem_cons_self)
      have hstep : compare (10 * m + (x.toNat - '0'.toNat)) (10 * n + (y.toNat - '0'.toNat)) =
          (compare m n).then (compare x y) := by
        have hlt : ∀ c d : Char, c < d → c.toNat < d.toNat := fun _ _ h => h
        refine compare_eq_then (fun h => ?_) (fun h => ?_) fun hmn hxy => by rw [hmn, hxy]
        · have h' := h.imp_right (And.imp_right (hlt x y))
          omega
        · have h' := h.imp_right (And.imp_right (hlt y x))
          omega
      rw [Nat.ofDigitChars_cons, Nat.ofDigitChars_cons, List.compare_cons_cons,
        ih (fun c hc => hxs c (List.mem_cons_of_mem x hc))
          (fun c hc => hys c (List.mem_cons_of_mem y hc)) (Nat.succ.inj hlength), hstep,
        Ordering.then_assoc]

theorem compare_padded (hwidth : 0 < width) (hm : m < 10 ^ width) (hn : n < 10 ^ width) :
    compare (Timestamp.padded width m) (Timestamp.padded width n) = compare m n := by
  have hlength : (Timestamp.padded width m).length = (Timestamp.padded width n).length := by
    rw [length_padded hwidth hm, length_padded hwidth hn]
  have hcompare := compare_ofDigitChars (fun c => isDigit_of_mem_padded)
    (fun c => isDigit_of_mem_padded) hlength 0 0
  rw [ofDigitChars_padded, ofDigitChars_padded] at hcompare
  exact hcompare.symm

theorem compare_append (hlength : xs.length = ys.length) :
    compare (xs ++ us) (ys ++ vs) = (compare xs ys).then (compare us vs) := by
  induction xs generalizing ys with
  | nil =>
    obtain rfl := List.eq_nil_of_length_eq_zero hlength.symm
    rfl
  | cons x xs ih =>
    cases ys with
    | nil => cases hlength
    | cons y ys =>
      rw [List.cons_append, List.cons_append, List.compare_cons_cons, List.compare_cons_cons,
        ih (Nat.succ.inj hlength), Ordering.then_assoc]

theorem read_write (h : layout.Fits ns) : layout.read (layout.write ns) = ns := by
  induction h with
  | nil => rfl
  | @cons field n layout ns hfits _ ih =>
    obtain ⟨width, mark⟩ := field
    have hlength := length_padded hfits.1 hfits.2
    rw [write, read, List.take_left' hlength, ofDigitChars_padded, ← List.drop_drop,
      List.drop_left' hlength, List.drop_one, List.tail_cons, ih]

/-- The text has digits and marks where the form has zeros and marks. -/
theorem forall₂_write (h : layout.Fits ns) (hmarks : ∀ field ∈ layout, field.2 ≠ '0') :
    List.Forall₂ MatchesForm (layout.write ns) layout.form := by
  induction h with
  | nil => exact .nil
  | @cons field n layout ns hfits _ ih =>
    obtain ⟨width, mark⟩ := field
    have hmark : MatchesForm mark mark := (if_neg (hmarks _ List.mem_cons_self)).mpr rfl
    have hdigits : List.Forall₂ MatchesForm (Timestamp.padded width n)
        (List.replicate width '0') := by
      rw [List.forall₂_iff_get]
      refine ⟨by rw [length_padded hfits.1 hfits.2, List.length_replicate], fun i hi hi' => ?_⟩
      rw [List.get_eq_getElem, List.get_eq_getElem, List.getElem_replicate]
      exact (if_pos rfl).mpr (isDigit_of_mem_padded (List.getElem_mem hi))
    rw [write, form, List.flatMap_cons, List.append_assoc]
    exact List.rel_append hdigits
      (.cons hmark (ih fun field hfield => hmarks field (List.mem_cons_of_mem _ hfield)))

/-- Texts of numbers in fields are in order of the numbers. -/
theorem compare_write (hm : layout.Fits ms) (hn : layout.Fits ns) :
    compare (layout.write ms) (layout.write ns) = compare ms ns := by
  induction hm generalizing ns with
  | nil =>
    cases hn
    rfl
  | @cons field m layout ms hfits _ ih =>
    obtain ⟨width, mark⟩ := field
    cases hn with
    | @cons _ n _ ns hfits' hn =>
      have hlength : (Timestamp.padded width m).length = (Timestamp.padded width n).length := by
        rw [length_padded hfits.1 hfits.2, length_padded hfits'.1 hfits'.2]
      rw [write, write, compare_append hlength, compare_padded hfits.1 hfits.2 hfits'.2,
        List.compare_cons_cons, List.compare_cons_cons, compare_eq_iff_eq.2 (Eq.refl mark), ih hn]
      rfl

end Layout

/-! ### Moments -/

/-- A date and a time of day to the microsecond, field by field. -/
structure Moment where
  date : Date
  hour : Nat
  minute : Nat
  second : Nat
  microsecond : Nat
deriving DecidableEq

namespace Moment

/-- The date exists and the time of day does. -/
def IsValid (m : Moment) : Prop :=
  m.date.IsValid ∧ m.hour < 24 ∧ m.minute < 60 ∧ m.second < 60 ∧ m.microsecond < 1000000

/-- The seconds since midnight. -/
def secondOfDay (m : Moment) : Nat := (m.hour * 60 + m.minute) * 60 + m.second

/-- The microseconds since midnight. -/
def microsecondOfDay (m : Moment) : Nat := m.secondOfDay * 1000000 + m.microsecond

/-- The microseconds since 1970-01-01T00:00:00. -/
def microseconds (m : Moment) : Int := m.date.toDays * 86400000000 + m.microsecondOfDay

/-- The text of an instant: `YYYY-MM-DDThh:mm:ss.ffffffZ`. -/
def HasIsoForm (text : List Char) : Prop :=
  List.Forall₂ Layout.MatchesForm text "0000-00-00T00:00:00.000000Z".toList

/-- The fields of a text, by where they stand. -/
def ofIso (text : List Char) : Moment :=
  let field (start width : Nat) := Nat.ofDigitChars 10 ((text.drop start).take width) 0
  ⟨⟨field 0 4, field 5 2, field 8 2⟩, field 11 2, field 14 2, field 17 2, field 20 6⟩

/-- The fields of a text, from the year to the microsecond. -/
def layout : Layout :=
  [(4, '-'), (2, '-'), (2, 'T'), (2, ':'), (2, ':'), (2, '.'), (6, 'Z')]

/-- The fields as numbers. -/
def fields (m : Moment) : List Nat :=
  [m.date.year.toNat, m.date.month, m.date.day, m.hour, m.minute, m.second, m.microsecond]

/-- The year has four digits. -/
def HasShortYear (m : Moment) : Prop := 0 ≤ m.date.year ∧ m.date.year < 10000

variable {m n : Moment}

theorem fits_fields (h : m.IsValid) (hyear : m.HasShortYear) : layout.Fits m.fields := by
  obtain ⟨hdate, hhour, hminute, hsecond, hmicrosecond⟩ := h
  obtain ⟨hpos, hlt⟩ := hyear
  have hmonth : m.date.month ≤ 12 := hdate.2.1
  have hday : m.date.day ≤ 31 := Nat.le_trans hdate.day_le.2 (Date.monthLength_le _ _)
  refine .cons ⟨by decide, ?_⟩ (.cons ⟨by decide, ?_⟩ (.cons ⟨by decide, ?_⟩ (.cons ⟨by decide, ?_⟩
    (.cons ⟨by decide, ?_⟩ (.cons ⟨by decide, ?_⟩ (.cons ⟨by decide, ?_⟩ .nil))))))
  all_goals
    dsimp only
    omega

theorem ofIso_eq_of_read {text : List Char} (h : layout.read text = m.fields)
    (hpos : 0 ≤ m.date.year) : ofIso text = m := by
  simp only [layout, Layout.read, List.drop_drop, fields, List.cons.injEq] at h
  obtain ⟨hyear, hmonth, hday, hhour, hminute, hsecond, hmicrosecond, -⟩ := h
  have hyear' : (m.date.year.toNat : Int) = m.date.year := Int.toNat_of_nonneg hpos
  rw [← hyear] at hyear'
  obtain ⟨⟨year, month, day⟩, hour, minute, second, microsecond⟩ := m
  simp only [ofIso, Moment.mk.injEq, Date.mk.injEq]
  exact ⟨⟨hyear', hmonth, hday⟩, hhour, hminute, hsecond, hmicrosecond⟩

theorem ofIso_write (h : m.IsValid) (hyear : m.HasShortYear) :
    ofIso (layout.write m.fields) = m :=
  ofIso_eq_of_read (Layout.read_write (fits_fields h hyear)) hyear.1

theorem hasIsoForm_write (h : m.IsValid) (hyear : m.HasShortYear) :
    HasIsoForm (layout.write m.fields) :=
  Layout.forall₂_write (fits_fields h hyear) (by decide)

theorem compare_microsecondOfDay (hm : m.IsValid) (hn : n.IsValid) :
    compare m.microsecondOfDay n.microsecondOfDay =
      (compare m.hour n.hour).then ((compare m.minute n.minute).then
        ((compare m.second n.second).then (compare m.microsecond n.microsecond))) := by
  obtain ⟨-, -, hminute, hsecond, hmicrosecond⟩ := hm
  obtain ⟨-, -, hminute', hsecond', hmicrosecond'⟩ := hn
  have hminutes : compare (m.hour * 60 + m.minute) (n.hour * 60 + n.minute) =
      (compare m.hour n.hour).then (compare m.minute n.minute) :=
    compare_eq_then (by omega) (by omega) (by omega)
  have hseconds : compare m.secondOfDay n.secondOfDay =
      (compare (m.hour * 60 + m.minute) (n.hour * 60 + n.minute)).then
        (compare m.second n.second) := by
    rw [secondOfDay, secondOfDay]
    exact compare_eq_then (by omega) (by omega) (by omega)
  have hmicroseconds : compare m.microsecondOfDay n.microsecondOfDay =
      (compare m.secondOfDay n.secondOfDay).then (compare m.microsecond n.microsecond) := by
    rw [microsecondOfDay, microsecondOfDay]
    exact compare_eq_then (by omega) (by omega) (by omega)
  rw [hmicroseconds, hseconds, hminutes, Ordering.then_assoc, Ordering.then_assoc]

theorem microsecondOfDay_lt (h : m.IsValid) : m.microsecondOfDay < 86400000000 := by
  obtain ⟨-, hhour, hminute, hsecond, hmicrosecond⟩ := h
  rw [microsecondOfDay, secondOfDay]
  omega

/-- Instants are in order of their fields. -/
theorem compare_microseconds (hm : m.IsValid) (hn : n.IsValid) (hyear : 0 ≤ m.date.year)
    (hyear' : 0 ≤ n.date.year) :
    compare m.microseconds n.microseconds = compare m.fields n.fields := by
  -- A time of day never makes up for a day.
  have hlt := microsecondOfDay_lt hm
  have hlt' := microsecondOfDay_lt hn
  have hdays : compare m.microseconds n.microseconds =
      (compare m.date.toDays n.date.toDays).then
        (compare m.microsecondOfDay n.microsecondOfDay) := by
    rw [microseconds, microseconds]
    exact compare_eq_then (by omega) (by omega) (by omega)
  have hyears : compare m.date.year.toNat n.date.year.toNat = compare m.date.year n.date.year := by
    rcases lt_trichotomy m.date.year n.date.year with hlt | heq | hgt
    · rw [compare_lt_iff_lt.2 hlt, compare_lt_iff_lt.2 (by omega)]
    · rw [compare_eq_iff_eq.2 heq, compare_eq_iff_eq.2 (by omega)]
    · rw [compare_gt_iff_gt.2 hgt, compare_gt_iff_gt.2 (by omega)]
  rw [hdays, Date.compare_toDays hm.1 hn.1, compare_microsecondOfDay hm hn, ← hyears]
  simp only [fields, List.compare_cons_cons, List.compare_nil_nil, Ordering.then_assoc,
    Ordering.then_eq]

end Moment

/-! ### Timestamps -/

namespace Timestamp

/-- The fields of a timestamp, to the microsecond. -/
def moment (t : Timestamp) : Moment :=
  ⟨t.date, t.hour, t.minute, t.second, t.fraction / 1000⟩

theorem isoChars_eq {t : Timestamp} (h : 0 ≤ t.date.year) :
    t.isoChars = Moment.layout.write t.moment.fields := by
  have hyear : yearText t.date.year = padded 4 t.date.year.toNat := by
    rw [yearText, if_neg (Int.not_lt.2 h), List.nil_append]
    exact congrArg (padded 4) (by omega)
  simp only [isoChars, dateText, timeText, hyear, List.append_assoc, List.cons_append]
  rfl

theorem isValid_moment (ns : Int) : (ofNanoseconds ns).moment.IsValid := by
  have hlt : (ofNanoseconds ns).nanosecond < 86400000000000 := by
    show (ns % (86400 * 1000000000 : Nat)).toNat < _
    omega
  refine ⟨Date.isValid_ofDays _, ?_, ?_, ?_, ?_⟩
  · show (ofNanoseconds ns).nanosecond / 1000000000 / 3600 < 24
    omega
  · exact Nat.mod_lt _ (by decide)
  · exact Nat.mod_lt _ (by decide)
  · show (ofNanoseconds ns).nanosecond % 1000000000 / 1000 < 1000000
    omega

/-- Nothing is lost but what is less than a microsecond. -/
theorem microseconds_moment (ns : Int) : (ofNanoseconds ns).moment.microseconds = ns / 1000 := by
  show (Date.ofDays (ns / (86400 * 1000000000 : Nat))).toDays * 86400000000 + _ = _
  rw [Date.toDays_ofDays]
  simp only [Moment.microsecondOfDay, Moment.secondOfDay, moment, hour, minute, second, fraction,
    ofNanoseconds, dayLength]
  omega

/-- The instants that a count of 64 bits reaches have years of four digits. -/
theorem hasShortYear_moment {ns : Int} (hlow : -2 ^ 63 ≤ ns) (hhigh : ns < 2 ^ 63) :
    (ofNanoseconds ns).moment.HasShortYear := by
  have hfirst : Date.daysBeforeYear 0 = -366 := rfl
  have hlast : Date.daysBeforeYear 10000 = 3652059 := rfl
  have hdays : -106752 ≤ ns / dayLength ∧ ns / dayLength ≤ 106751 := by
    rw [dayLength]
    omega
  refine ⟨Date.le_year_ofDays_iff.2 ?_, Int.not_le.1 fun hle => ?_⟩
  · rw [hfirst, Date.epoch]
    omega
  · have hdays' := Date.le_year_ofDays_iff.1 hle
    rw [hlast, Date.epoch] at hdays'
    omega

theorem toList_iso {ns : Int} (hlow : -2 ^ 63 ≤ ns) (hhigh : ns < 2 ^ 63) :
    (iso ns).toList = Moment.layout.write (ofNanoseconds ns).moment.fields := by
  rw [iso, String.toList_ofList, isoChars_eq (hasShortYear_moment hlow hhigh).1]

/-- What a datetime column shows of an instant, before or after 1970, is a date that exists and a
time of day, in as many digits as the form has; read back they are the instant, rounded down to the
microsecond. Two texts are in order, character by character, as their microseconds are. -/
theorem iso_exact {ns : Int} (hlow : -2 ^ 63 ≤ ns) (hhigh : ns < 2 ^ 63) :
    (∀ (s : Series) (values : List (Option Int)) (row : Nat), s.cells = .datetime values →
      values[row]? = some (some ns) →
      (ColumnType.datetime.display s)[row]? = some (some (iso ns))) ∧
    Moment.HasIsoForm (iso ns).toList ∧ (Moment.ofIso (iso ns).toList).IsValid ∧
    (Moment.ofIso (iso ns).toList).microseconds = ns / 1000 ∧
    ∀ other : Int, -2 ^ 63 ≤ other → other < 2 ^ 63 →
      compare (iso ns).toList (iso other).toList = compare (ns / 1000) (other / 1000) := by
  have hvalid := isValid_moment ns
  have hyear := hasShortYear_moment hlow hhigh
  have htext := toList_iso hlow hhigh
  have hread : Moment.ofIso (iso ns).toList = (ofNanoseconds ns).moment := by
    rw [htext, Moment.ofIso_write hvalid hyear]
  refine ⟨?_, ?_, ?_, ?_, fun other hlow' hhigh' => ?_⟩
  · rintro ⟨name, cells⟩ values row rfl hrow
    show (values.map fun v => v.map iso)[row]? = _
    rw [List.getElem?_map, hrow]
    rfl
  · rw [htext]
    exact Moment.hasIsoForm_write hvalid hyear
  · rw [hread]
    exact hvalid
  · rw [hread, microseconds_moment]
  · have hvalid' := isValid_moment other
    have hyear' := hasShortYear_moment hlow' hhigh'
    rw [htext, toList_iso hlow' hhigh',
      Layout.compare_write (Moment.fits_fields hvalid hyear) (Moment.fits_fields hvalid' hyear'),
      ← Moment.compare_microseconds hvalid hvalid' hyear.1 hyear'.1, microseconds_moment,
      microseconds_moment]

theorem iso_exact_before_epoch :
    (-2 ^ 63 ≤ (-1 : Int) ∧ (-1 : Int) < 2 ^ 63) ∧ iso (-1) = "1969-12-31T23:59:59.999999Z" ∧
    (ColumnType.datetime.display ⟨"a", .datetime [none, some (-1)]⟩)[1]? = some (some (iso (-1))) ∧
    Moment.HasIsoForm (iso (-1)).toList ∧ (Moment.ofIso (iso (-1)).toList).IsValid ∧
    (Moment.ofIso (iso (-1)).toList).microseconds = -1 ∧
    iso (-2 ^ 63) = "1677-09-21T00:12:43.145224Z" ∧
    compare (iso (-1)).toList (iso (-2 ^ 63)).toList = .gt := by
  obtain ⟨hshown, hform, hvalid, hmicroseconds, horder⟩ := @iso_exact (-1) (by decide) (by decide)
  exact ⟨⟨by decide, by decide⟩, by decide +kernel, hshown _ _ 1 rfl rfl, hform, hvalid,
    hmicroseconds, by decide +kernel, horder (-2 ^ 63) (by decide) (by decide)⟩

end Timestamp

end Tabular
