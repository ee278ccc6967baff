import Mathlib.Tactic.NormNum
import Tabular.Proofs.Numeric.Rounding

/-!
# The fewest digits read back

Between the midpoints to its neighbours, everything rounds to a binary number. The decimal of fewest
digits is looked for there, and seventeen digits are enough to find one, so that every double is
read back from the digits that it is written with.

## Main definitions

- `Neighbourhood.Holds` — a rational lies between the midpoints

## Main statements

- `Floating.round_of_holds` — everything between the midpoints rounds to the number
- `Neighbourhood.holds_shortest` — the decimal of fewest digits lies between them
- `Floating.round_shortest` — that decimal reads back
-/

namespace Tabular

namespace FloatWidth

theorem hiddenBit_eq (w : FloatWidth) : w.hiddenBit = 2 ^ w.fractionBits := Nat.one_shiftLeft _

theorem hiddenBit_pos (w : FloatWidth) : 0 < w.hiddenBit := by
  rw [hiddenBit_eq]
  positivity

end FloatWidth

namespace Ratio

theorem lt_iff (a b : Ratio) : a.lt b = true ↔ a.value < b.value := by
  have ha : (0 : ℚ) < a.den := Nat.cast_pos.2 a.den_pos
  have hb : (0 : ℚ) < b.den := Nat.cast_pos.2 b.den_pos
  rw [lt, decide_eq_true_iff, value, value, div_lt_div_iff₀ ha hb]
  exact_mod_cast Iff.rfl

end Ratio

namespace Decimal

/-- Zeros at the end of the coefficient do not change the number. -/
theorem value_trimZeros (fuel : ℕ) (d : Decimal) :
    (d.trimZeros fuel).ratio.value = d.ratio.value := by
  induction fuel generalizing d with
  | zero => rfl
  | succ fuel ih =>
    rw [trimZeros]
    split
    · next h =>
      have hsplit : d.coefficient = d.coefficient / 10 * 10 := by omega
      rw [ih, value_ratio, value_ratio, zpow_add_one₀ (by norm_num)]
      conv_rhs => rw [hsplit]
      push_cast
      ring
    · rfl

theorem value_trim (d : Decimal) : d.trim.ratio.value = d.ratio.value := value_trimZeros _ d

end Decimal

namespace Neighbourhood

variable {w : FloatWidth} {m : ℕ} {e : ℤ} {q : ℚ} {tie : Tie} {count : ℕ} {d : Decimal}

/-- A rational lies between the midpoints, and is one of them only if these round to the number. -/
def Holds (n : Neighbourhood) (q : ℚ) : Prop :=
  if n.closed then n.lower.value ≤ q ∧ q ≤ n.upper.value
  else n.lower.value < q ∧ q < n.upper.value

theorem contains_iff (n : Neighbourhood) (d : Decimal) :
    n.contains d = true ↔ n.Holds d.ratio.value := by
  rw [contains, Holds]
  split
  · rw [Bool.and_eq_true, Ratio.le_iff, Ratio.le_iff]
  · rw [Bool.and_eq_true, Ratio.lt_iff, Ratio.lt_iff]

/-! ### Midpoints -/

theorem quarters (a : ℚ) (e : ℤ) : a * 2 ^ (e - 2) = a / 4 * 2 ^ e := by
  rw [zpow_sub₀ two_ne_zero]
  norm_num
  ring

theorem value_upper (w : FloatWidth) (m : ℕ) (e : ℤ) :
    (ofFinite w m e).upper.value = (m + 1 / 2) * 2 ^ e := by
  rw [ofFinite, Datum.value_ratio, quarters]
  push_cast
  ring

/-- Below a power of two the midpoint is half as far away. -/
theorem value_lower (w : FloatWidth) (hm : 0 < m) (e : ℤ) : (ofFinite w m e).lower.value =
    (m - if m = w.hiddenBit ∧ w.minExponent < e then 1 / 4 else 1 / 2) * 2 ^ e := by
  rw [ofFinite, Datum.value_ratio, quarters]
  split
  · rw [Nat.cast_sub (by omega)]
    push_cast
    ring
  · rw [Nat.cast_sub (by omega)]
    push_cast
    ring

theorem closed_iff (w : FloatWidth) (m : ℕ) (e : ℤ) :
    (ofFinite w m e).closed = true ↔ Even m := by
  rw [ofFinite, decide_eq_true_iff, Nat.even_iff]

/-- The distance to the lower midpoint, in units of the last place. -/
theorem Holds.lower_le (hm : 0 < m) (h : (ofFinite w m e).Holds q) :
    (m - if m = w.hiddenBit ∧ w.minExponent < e then 1 / 4 else 1 / 2 : ℚ) ≤ q * 2 ^ (-e) := by
  have hlow : (ofFinite w m e).lower.value ≤ q := by
    rw [Holds] at h
    split at h
    · exact h.1
    · exact h.1.le
  have hunit : (0 : ℚ) < 2 ^ e := by positivity
  rwa [zpow_neg, ← div_eq_mul_inv, le_div_iff₀ hunit, ← value_lower w hm]

/-- In units of the last place, what lies between the midpoints is nearest to the significand. -/
theorem Holds.isNearest (hm : 0 < m) (h : (ofFinite w m e).Holds q) :
    IsNearest (q * 2 ^ (-e)) m := by
  have hunit : (0 : ℚ) < 2 ^ e := by positivity
  have hscaled : ∀ a : ℚ, a ≤ q * 2 ^ (-e) ↔ a * 2 ^ e ≤ q := fun a => by
    rw [zpow_neg, ← div_eq_mul_inv, le_div_iff₀ hunit]
  have hscaled' : ∀ a : ℚ, q * 2 ^ (-e) ≤ a ↔ q ≤ a * 2 ^ e := fun a => by
    rw [zpow_neg, ← div_eq_mul_inv, div_le_iff₀ hunit]
  have hlow := h.lower_le hm
  have hhigh : q * 2 ^ (-e) ≤ m + 1 / 2 := by
    rw [hscaled', ← value_upper w]
    rw [Holds] at h
    split at h
    · exact h.2
    · exact h.2.le
  have hhalf : (m : ℚ) - 1 / 2 ≤
      m - if m = w.hiddenBit ∧ w.minExponent < e then 1 / 4 else 1 / 2 := by
    split <;> linarith
  refine ⟨abs_le.2 ⟨by linarith, by linarith⟩, fun hmiddle => ?_⟩
  by_contra hodd
  rw [Holds, if_neg (by rwa [closed_iff]), value_lower w hm, value_upper] at h
  obtain ⟨hbelow, habove⟩ := h
  have hlow' := not_le.1 (mt (hscaled' _).1 (not_le.2 hbelow))
  have hhigh' := not_le.1 (mt (hscaled _).1 (not_le.2 habove))
  rcases abs_eq (by norm_num) |>.1 hmiddle with heq | heq
  · linarith
  · linarith

/-- What is nearer than the midpoints lies between them. -/
theorem holds_of_lt (hm : 0 < m)
    (hlow : (m - if m = w.hiddenBit ∧ w.minExponent < e then 1 / 4 else 1 / 2 : ℚ) < q * 2 ^ (-e))
    (hhigh : q * 2 ^ (-e) < m + 1 / 2) : (ofFinite w m e).Holds q := by
  have hunit : (0 : ℚ) < 2 ^ e := by positivity
  rw [zpow_neg, ← div_eq_mul_inv, lt_div_iff₀ hunit, ← value_lower w hm] at hlow
  rw [zpow_neg, ← div_eq_mul_inv, div_lt_iff₀ hunit, ← value_upper w] at hhigh
  rw [Holds]
  split
  · exact ⟨hlow.le, hhigh.le⟩
  · exact ⟨hlow, hhigh⟩

/-! ### The leading bit -/

theorem log_lt_iff (hq : 0 < q) (e k : ℤ) : Int.log 2 q < e + k ↔ q * 2 ^ (-e) < 2 ^ k := by
  have hunit : (0 : ℚ) < 2 ^ e := by positivity
  rw [zpow_neg, ← div_eq_mul_inv, div_lt_iff₀ hunit, ← zpow_add₀ two_ne_zero, add_comm k]
  exact (Int.lt_zpow_iff_log_lt (by decide) hq).symm

theorem cast_hiddenBit (w : FloatWidth) :
    ((w.hiddenBit : ℕ) : ℚ) = 2 ^ (w.fractionBits : ℤ) := by
  rw [FloatWidth.hiddenBit_eq, zpow_natCast, Nat.cast_pow, Nat.cast_ofNat]

theorem Holds.pos (hm : 0 < m) (h : (ofFinite w m e).Holds q) : 0 < q := by
  have hone : (1 : ℚ) ≤ m := by exact_mod_cast hm
  have hscaled : 0 < q * 2 ^ (-e) := by linarith [(abs_le.1 (h.isNearest hm).near).1]
  exact pos_of_mul_pos_left hscaled (by positivity)

/-- What lies between the midpoints has no more bits than a full significand. -/
theorem Holds.log_lt (hm : 0 < m) (h : (ofFinite w m e).Holds q) (hwidth : m < 2 * w.hiddenBit) :
    Int.log 2 q < e + (w.fractionBits + 1) := by
  have hcast : (m : ℚ) + 1 ≤ (2 * w.hiddenBit : ℕ) := by exact_mod_cast hwidth
  have hhigh := (abs_le.1 (h.isNearest hm).near).2
  rw [log_lt_iff (h.pos hm), zpow_add_one₀ two_ne_zero, ← cast_hiddenBit]
  push_cast at hcast
  linarith

/-- What has fewer bits than a full significand is below a power of two. There the place is one less,
and twice the significand is nearest. -/
theorem Holds.isNearest_double (hm : 0 < m) (h : (ofFinite w m e).Holds q)
    (hfull : w.hiddenBit ≤ m) (hleast : w.minExponent < e)
    (hless : Int.log 2 q < e + w.fractionBits) :
    m = w.hiddenBit ∧ Int.log 2 q = e + w.fractionBits - 1 ∧
      IsNearest (q * 2 ^ (-(e - 1))) (2 * m) := by
  have hcut := (log_lt_iff (h.pos hm) e _).1 hless
  rw [← cast_hiddenBit] at hcut
  have hm' : m = w.hiddenBit := Nat.le_antisymm ((h.isNearest hm).ge_of_ge hcut.le) hfull
  have hlow := h.lower_le hm
  rw [if_pos ⟨hm', hleast⟩] at hlow
  rw [← hm'] at hcut
  have hlast : ¬ Int.log 2 q < e + (w.fractionBits - 1) := by
    have hone : (1 : ℚ) ≤ m := by exact_mod_cast hm
    rw [log_lt_iff (h.pos hm), zpow_sub_one₀ two_ne_zero, ← cast_hiddenBit, ← hm']
    linarith
  have hdouble : q * 2 ^ (-(e - 1)) = 2 * (q * 2 ^ (-e)) := by
    rw [neg_sub, sub_eq_add_neg, zpow_add₀ two_ne_zero, zpow_one]
    ring
  refine ⟨hm', by omega, ?_, fun _ => even_two_mul m⟩
  rw [hdouble, abs_le]
  push_cast
  constructor <;> linarith

/-! ### The search -/

/-- A decimal that is found lies between the midpoints. -/
theorem contains_of_shortestOf {n : Neighbourhood} (h : n.shortestOf tie count = some d) :
    n.contains d = true := by
  unfold shortestOf at h
  dsimp only at h
  split at h
  · cases h
  · next hlower _ =>
    obtain rfl := Option.some.inj h
    exact hlower
  · next _ hupper =>
    obtain rfl := Option.some.inj h
    exact hupper
  · next hlower hupper =>
    split at h
    · obtain rfl := Option.some.inj h
      exact hlower
    split at h
    · obtain rfl := Option.some.inj h
      exact hupper
    cases tie with
    | up =>
      obtain rfl := Option.some.inj h
      exact hupper
    | even =>
      obtain rfl := Option.some.inj h
      split
      · exact hlower
      · exact hupper

/-- The error of seventeen digits, in units of the last place: half a unit of the last digit. -/
theorem abs_toSignificant_sub_le (hm : 0 < m) (e : ℤ) :
    |((Datum.ratio m e).toSignificant 17).ratio.value * 2 ^ (-e) - m| ≤ m / 10 ^ 16 / 2 := by
  have hunit : (0 : ℚ) < 2 ^ e := by positivity
  have hmq : (0 : ℚ) < m := by exact_mod_cast hm
  have hvalue : (Datum.ratio m e).value = m * 2 ^ e := Datum.value_ratio m e
  have hpos : 0 < (Datum.ratio m e).value := by
    rw [hvalue]
    positivity
  have hlog : (10 : ℚ) ^ Int.log 10 (Datum.ratio m e).value ≤ (Datum.ratio m e).value :=
    Int.zpow_log_le_self (by decide) hpos
  obtain ⟨n, hn, hround⟩ :=
    Ratio.isSignificant_toSignificant (Ratio.num_pos_of_value_pos hpos) 16
  rw [hround]
  rw [hvalue] at hn hlog ⊢
  have hdigit : (10 : ℚ) ^ (Int.log 10 ((m : ℚ) * 2 ^ e) - (17 - 1 : ℕ)) ≤
      m * 2 ^ e / 10 ^ 16 := by
    rw [zpow_sub₀ (by norm_num)]
    exact div_le_div_of_nonneg_right hlog (by positivity)
  have hdigitPos : (0 : ℚ) < 10 ^ (Int.log 10 ((m : ℚ) * 2 ^ e) - (17 - 1 : ℕ)) := by positivity
  generalize (10 : ℚ) ^ (Int.log 10 ((m : ℚ) * 2 ^ e) - (17 - 1 : ℕ)) = digit at *
  have hfactor : (n : ℚ) * digit * 2 ^ (-e) - m =
      -((m * 2 ^ e / digit - n) * (digit * 2 ^ (-e))) := by
    rw [zpow_neg]
    field_simp
    ring
  have hscale : digit * 2 ^ (-e) ≤ m / 10 ^ 16 := by
    rw [zpow_neg, ← div_eq_mul_inv, div_le_iff₀ hunit]
    linarith
  rw [hfactor, abs_neg, abs_mul, abs_of_pos (by positivity : (0 : ℚ) < digit * 2 ^ (-e))]
  calc |m * 2 ^ e / digit - n| * (digit * 2 ^ (-e))
      ≤ 1 / 2 * (m / 10 ^ 16) := by gcongr; exact hn.near
    _ = m / 10 ^ 16 / 2 := by ring

/-- Seventeen digits are nearer to a double than the midpoints, as `2 ^ 53` is below `10 ^ 16`. -/
theorem holds_toSignificant (hm : 0 < m) (hd : (Datum.finite false m e).Canonical .double) :
    (ofFinite .double m e).Holds ((Datum.ratio m e).toSignificant 17).ratio.value := by
  obtain ⟨hlow, hhigh⟩ := abs_le.1 (abs_toSignificant_sub_le hm e)
  have hwidth : (m : ℚ) < 2 ^ 53 := by exact_mod_cast hd.2.1
  refine holds_of_lt hm ?_ (by linarith)
  split
  · next hdense =>
    have hhidden : (m : ℚ) = 2 ^ 52 := by exact_mod_cast hdense.1
    rw [hhidden] at hlow ⊢
    linarith
  · linarith

/-- The decimal of fewest digits lies between the midpoints. -/
theorem holds_shortest (hm : 0 < m) (hd : (Datum.finite false m e).Canonical .double) (tie : Tie) :
    (ofFinite .double m e).Holds ((ofFinite .double m e).shortest tie).ratio.value := by
  rw [shortest, Decimal.value_trim]
  cases hfound : (List.range 17).findSome?
      fun k => (ofFinite .double m e).shortestOf tie (k + 1) with
  | none => exact holds_toSignificant hm hd
  | some d =>
    obtain ⟨k, -, hk⟩ := List.exists_of_findSome?_eq_some hfound
    exact (contains_iff _ d).1 (contains_of_shortestOf hk)

end Neighbourhood

namespace Floating

variable {w : FloatWidth} {negative : Bool} {m n : ℕ} {e quantum : ℤ} {r : Ratio}

/-- A pattern is its sign bit, its exponent field and its fraction. -/
theorem toNat_pattern (p : BitVec w.bits) : p.toNat = (if p.msb then w.signBit else 0) +
    (p.toNat / w.hiddenBit % (w.fullField + 1) * w.hiddenBit + p.toNat % w.hiddenBit) := by
  have hlt := p.isLt
  rw [BitVec.msb_eq_decide]
  simp only [decide_eq_true_eq]
  cases w with
  | half | single | double =>
    simp only [FloatWidth.bits, FloatWidth.signBit, FloatWidth.hiddenBit, FloatWidth.fullField,
      FloatWidth.exponentBits, FloatWidth.fractionBits, Nat.one_shiftLeft] at hlt ⊢
    norm_num at hlt ⊢
    split <;> omega

/-- The bits of a finite number, put together again. -/
theorem ofMagnitude_of_datum {x : Floating w} (hx : x.datum = .finite negative m e) :
    ofMagnitude negative ((e - w.minExponent).toNat * w.hiddenBit + m) = x ∧
      (e - w.minExponent).toNat * w.hiddenBit + m ≤ w.infinityMagnitude := by
  obtain ⟨p⟩ := x
  have hsplit := toNat_pattern p
  have hfraction := Nat.mod_lt p.toNat w.hiddenBit_pos
  have hfield := Nat.mod_lt (p.toNat / w.hiddenBit) w.fullField.succ_pos
  rw [datum] at hx
  dsimp only at hx
  generalize p.toNat % w.hiddenBit = fraction at hsplit hfraction hx
  generalize p.toNat / w.hiddenBit % (w.fullField + 1) = field at hsplit hfield hx
  have hbits : p.msb = negative ∧ field < w.fullField ∧
      (e - w.minExponent).toNat * w.hiddenBit + m = field * w.hiddenBit + fraction := by
    split at hx
    · split at hx <;> cases hx
    next hfull =>
    split at hx
    · next hzero =>
      cases hx
      refine ⟨rfl, by omega, ?_⟩
      rw [sub_self, hzero]
      rfl
    · next hzero =>
      cases hx
      refine ⟨rfl, by omega, ?_⟩
      have hcount : (w.minExponent + ((field - 1 : ℕ) : ℤ) - w.minExponent).toNat + 1 = field := by
        omega
      conv_rhs => rw [← hcount, Nat.add_mul, Nat.one_mul]
      omega
  obtain ⟨rfl, hbelow, hmagnitude⟩ := hbits
  rw [hmagnitude]
  constructor
  · rw [ofMagnitude, ← hsplit, BitVec.ofNat_toNat, BitVec.setWidth_eq]
  · calc field * w.hiddenBit + fraction ≤ (field + 1) * w.hiddenBit := by
          rw [Nat.add_mul]
          omega
      _ ≤ w.infinityMagnitude := Nat.mul_le_mul_right _ hbelow

/-- Rounding at a place gives the nearest significand there. -/
theorem round_of_isNearest (hr : 0 < r.num)
    (hquantum : max (Int.log 2 r.value - w.fractionBits) w.minExponent = quantum)
    (hn : IsNearest (r.value * 2 ^ (-quantum)) n) :
    (round negative r : Floating w) = ofMagnitude negative
      (min ((quantum - w.minExponent).toNat * w.hiddenBit + n) w.infinityMagnitude) := by
  have hnearest := Ratio.isNearest_roundHalfEven (r.scale .two (-quantum))
  rw [Ratio.value_scale] at hnearest
  have hlog : max (r.exponent .two - w.fractionBits) w.minExponent = quantum := by
    rw [Ratio.exponent_eq_log .two hr]
    exact hquantum
  rw [round, if_neg hr.ne']
  dsimp only
  rw [hlog, hnearest.unique hn]

/-- Everything between the midpoints rounds to the number. -/
theorem round_of_holds {x : Floating w} (hx : x.datum = .finite negative m e) (hm : 0 < m)
    (h : (Neighbourhood.ofFinite w m e).Holds r.value) : round negative r = x := by
  obtain ⟨hbits, hfinite⟩ := ofMagnitude_of_datum hx
  obtain ⟨hleast, hwidth, hfull⟩ : (Datum.finite negative m e).Canonical w :=
    hx ▸ canonical_datum x
  have hr : 0 < r.num := Ratio.num_pos_of_value_pos (h.pos hm)
  have hlog := h.log_lt hm hwidth
  by_cases hquantum : max (Int.log 2 r.value - w.fractionBits) w.minExponent = e
  · rw [round_of_isNearest hr hquantum (h.isNearest hm), Nat.min_eq_left hfinite, hbits]
  · obtain ⟨hm', hlast, hnear⟩ := h.isNearest_double hm (by omega) (by omega) (by omega)
    have hquantum' : max (Int.log 2 r.value - w.fractionBits) w.minExponent = e - 1 := by omega
    -- the carry out of the significand lands in the next binade
    have hcarry : (e - 1 - w.minExponent).toNat * w.hiddenBit + 2 * m =
        (e - w.minExponent).toNat * w.hiddenBit + m := by
      have hstep : (e - w.minExponent).toNat = (e - 1 - w.minExponent).toNat + 1 := by omega
      rw [hstep, Nat.add_mul, hm']
      omega
    rw [round_of_isNearest hr hquantum' hnear, hcarry, Nat.min_eq_left hfinite, hbits]

/-- The decimal of fewest digits reads back. -/
theorem round_shortest {x : Double} (hx : x.datum = .finite negative m e) (hm : 0 < m) (tie : Tie)
    (hr : r.value = ((Neighbourhood.ofFinite .double m e).shortest tie).ratio.value) :
    round negative r = x := by
  have hd : (Datum.finite negative m e).Canonical .double := hx ▸ canonical_datum x
  refine round_of_holds hx hm ?_
  rw [hr]
  exact Neighbourhood.holds_shortest hm hd tie

end Floating

end Tabular
