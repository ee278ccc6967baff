import Mathlib.Data.Nat.Digits.Defs

/-!
# Digits read in a base

The digits of a number in a base of at most sixteen, read back from left to right. The letters of
either case are digits, and zeros in front do not count.

## Main definitions

- `Digits.value?` — the value of a digit
- `Digits.read?` — the number of some digits in a base

## Main statements

- `Digits.read?_toDigits` — the digits of a number are read as the number, in either case
-/

namespace Tabular.Digits

/-- The value of a digit. Letters stand for ten to fifteen. -/
def value? (c : Char) : Option Nat :=
  if c.isDigit then some (c.toNat - '0'.toNat)
  else if 'a' ≤ c ∧ c ≤ 'f' then some (c.toNat - 'a'.toNat + 10)
  else if 'A' ≤ c ∧ c ≤ 'F' then some (c.toNat - 'A'.toNat + 10)
  else none

/-- Reads on from a number, as long as digits of the base follow. -/
def readFrom? (base n : Nat) : List Char → Option Nat
  | [] => some n
  | c :: rest =>
    match value? c with
    | some digit => if digit < base then readFrom? base (base * n + digit) rest else none
    | none => none

/-- The number of some digits in a base. -/
def read? (base : Nat) (digits : List Char) : Option Nat :=
  if digits = [] then none else readFrom? base 0 digits

variable {base n m : Nat} {digits rest : List Char} {c : Char}

theorem readFrom?_append (base n : Nat) (digits rest : List Char) :
    readFrom? base n (digits ++ rest) =
      (readFrom? base n digits).bind fun m => readFrom? base m rest := by
  induction digits generalizing n with
  | nil => rfl
  | cons c digits ih =>
    rw [List.cons_append, readFrom?, readFrom?]
    cases value? c with
    | none => rfl
    | some digit =>
      dsimp only
      split
      · exact ih (base * n + digit)
      · rfl

theorem readFrom?_singleton {digit : Nat} (hvalue : value? c = some digit) (hless : digit < base) :
    readFrom? base n [c] = some (base * n + digit) := by
  rw [readFrom?, hvalue]
  exact if_pos hless

/-- Both cases of a digit have its value. -/
theorem value?_digitChar {digit : Nat} (h : digit < 16) :
    value? digit.digitChar = some digit ∧ value? digit.digitChar.toUpper = some digit := by
  revert digit
  decide

/-- The digits of a number are read as the number, also after their characters are replaced by others
of the same value. -/
theorem readFrom?_map_toDigits (hbase : 1 < base) (hle : base ≤ 16) {replace : Char → Char}
    (hreplace : ∀ digit < 16, value? (replace digit.digitChar) = some digit) (n : Nat) :
    readFrom? base 0 ((Nat.toDigits base n).map replace) = some n := by
  induction n using Nat.strongRecOn with
  | ind n ih =>
    by_cases hsingle : n < base
    · rw [Nat.toDigits_of_lt_base hsingle, List.map_singleton,
        readFrom?_singleton (hreplace n (by omega)) hsingle, Nat.mul_zero, Nat.zero_add]
    · have hmore : base ≤ n := Nat.not_lt.1 hsingle
      have hlast : n % base < base := Nat.mod_lt n (by omega)
      rw [Nat.toDigits_of_base_le hbase hmore, List.map_append, readFrom?_append,
        ih (n / base) (Nat.div_lt_self (by omega) hbase), Option.bind_some, List.map_singleton,
        readFrom?_singleton (hreplace _ (by omega)) hlast, Nat.div_add_mod]

theorem read?_toDigits (hbase : 1 < base) (hle : base ≤ 16) (n : Nat) :
    read? base (Nat.toDigits base n) = some n := by
  have hsame : ∀ digit < 16, value? (id digit.digitChar) = some digit :=
    fun digit h => (value?_digitChar h).1
  have hread := readFrom?_map_toDigits hbase hle hsame n
  rw [List.map_id] at hread
  rw [read?, if_neg Nat.toDigits_ne_nil, hread]

theorem read?_map_toUpper (hbase : 1 < base) (hle : base ≤ 16) (n : Nat) :
    read? base ((Nat.toDigits base n).map Char.toUpper) = some n := by
  have hne : (Nat.toDigits base n).map Char.toUpper ≠ [] :=
    fun h => Nat.toDigits_ne_nil (List.map_eq_nil_iff.1 h)
  rw [read?, if_neg hne, readFrom?_map_toDigits hbase hle fun digit h => (value?_digitChar h).2]

/-- Zeros in front do not count. -/
theorem read?_replicate_append (hbase : 0 < base) (hne : digits ≠ []) (zeros : Nat) :
    read? base (List.replicate zeros '0' ++ digits) = read? base digits := by
  have hvalue : value? '0' = some 0 := rfl
  have hzeros : readFrom? base 0 (List.replicate zeros '0') = some 0 := by
    induction zeros with
    | zero => rfl
    | succ zeros ih =>
      rw [List.replicate_succ', readFrom?_append, ih, Option.bind_some,
        readFrom?_singleton hvalue hbase, Nat.mul_zero]
  rw [read?, read?, if_neg (List.append_ne_nil_of_right_ne_nil _ hne), if_neg hne, readFrom?_append,
    hzeros, Option.bind_some]

theorem isSome_value?_of_readFrom? (h : readFrom? base n digits = some m) (hc : c ∈ digits) :
    (value? c).isSome = true := by
  induction digits generalizing n with
  | nil => cases hc
  | cons d rest ih =>
    rw [readFrom?] at h
    cases hvalue : value? d with
    | none =>
      rw [hvalue] at h
      cases h
    | some digit =>
      rw [hvalue] at h
      dsimp only at h
      split at h
      · rcases List.mem_cons.1 hc with rfl | hc
        · rw [hvalue]
          rfl
        · exact ih h hc
      · cases h

/-- A number is written in digits. -/
theorem isDigit_of_mem_toString (h : c ∈ (toString n).toList) : c.isDigit = true := by
  rw [Nat.toString_eq_repr, Nat.toList_repr] at h
  exact Nat.isDigit_of_mem_toDigits (by omega) (by omega) h

/-- What is read holds digits only. -/
theorem isSome_value?_of_read? (h : read? base digits = some m) (hc : c ∈ digits) :
    (value? c).isSome = true := by
  rw [read?, if_neg (List.ne_nil_of_mem hc)] at h
  exact isSome_value?_of_readFrom? h hc

end Tabular.Digits
