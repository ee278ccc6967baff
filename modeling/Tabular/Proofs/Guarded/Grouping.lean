import Tabular.Proofs.Format.Grouping
import Tabular.Proofs.Guarded.Basic

/-!
# Digits grouped in one loop

The loop that writes grouped digits from the right. It takes the digits first and zeros after them,
and behind a full group it writes a separator when more digits follow; the separator owes a digit, so
that none comes first. The loop ends, and it writes what `Grouping.group` writes.

## Main definitions

- `Grouping.Writer` — what the loop has written and what it has to go on with
- `Guarded.groupStep`, `Guarded.groupFrom` — one turn of the loop and all turns
- `Grouping.Written` — the loop has written some digits

## Main statements

- `Guarded.exists_groupStep` — a turn writes one digit more and leaves less to do
- `Guarded.group_eq` — all turns write the grouped digits
-/

namespace Tabular

namespace Grouping

/-- The state of the loop. -/
structure Writer where
  /-- The position of the next digit, from the right. -/
  next : Nat
  /-- The digits in the last group. -/
  inGroup : Nat
  /-- A digit has to follow. -/
  owed : Bool
  /-- What has been written, from left to right. -/
  written : List Char

end Grouping

open Grouping (Writer)

namespace Guarded

variable {ε : Type}

/-- The next digit and the position behind it, unless the text is complete. -/
def nextDigit (source : List Char) (width : Nat) (w : Writer) : Guarded ε (Option (Char × Nat)) :=
  if w.next < source.length then do
    let c ← read source w.next
    return some (c, w.next + 1)
  else if w.owed ∨ w.written.length < width then return some ('0', w.next)
  else return none

/-- One turn of the loop. -/
def groupStep (source : List Char) (separator : Char) (size width : Nat) (w : Writer) :
    Guarded ε (Option Writer) :=
  nextDigit source width w >>= fun taken =>
    match taken with
    | none => pure none
    | some (digit, next) =>
      if w.inGroup + 1 = size ∧ (next < source.length ∨ w.written.length + 1 < width) then
        pure (some ⟨next, 0, true, separator :: digit :: w.written⟩)
      else pure (some ⟨next, w.inGroup + 1, false, digit :: w.written⟩)

/-- What is left to do: digits, cells of the width, and a digit that is owed. -/
def pending (source : List Char) (width : Nat) (w : Writer) : Nat :=
  2 * (source.length - w.next) + 2 * (width - w.written.length) + w.owed.toNat

/-- All turns of the loop. -/
def groupFrom (source : List Char) (separator : Char) (size width : Nat) (w : Writer) :
    Guarded ε (List Char) :=
  groupStep source separator size width w >>= fun after =>
    match after with
    | none => pure w.written
    | some w' =>
      if pending source width w' < pending source width w then
        groupFrom source separator size width w'
      else trap .stuck
termination_by pending source width w

/-- The loop over the digits from the right. -/
def group (digits : List Char) (separator : Char) (size width : Nat) : Guarded ε (List Char) :=
  groupFrom digits.reverse separator size width ⟨0, 0, false, []⟩

end Guarded

namespace Grouping

variable {separator : Char} {size width k : Nat} {digits : List Char}

/-- The digits from the right, and the zeros that fill the width behind them. -/
def supply (digits : List Char) (size width : Nat) : List Char :=
  digits.reverse ++ List.replicate (digitsFor size width - digits.length) '0'

/-- The last `k` digits of the grouped text, in groups. -/
def lastDigits (digits : List Char) (separator : Char) (size width k : Nat) : List Char :=
  separate separator size k ((supply digits size width).take k).reverse

/-- The loop has written `k` digits, and a separator in front of them if more are to come behind a
full group. -/
structure Written (digits : List Char) (separator : Char) (size width k : Nat) (w : Writer) :
    Prop where
  next : w.next = min k digits.length
  inGroup : k < (supply digits size width).length → w.inGroup = k % size
  owed : w.owed = true ↔ (k ≠ 0 ∧ k % size = 0) ∧ k < (supply digits size width).length
  written : w.written = (if w.owed then [separator] else []) ++
    lastDigits digits separator size width k

theorem length_supply (digits : List Char) (size width : Nat) :
    (supply digits size width).length = max digits.length (digitsFor size width) := by
  rw [supply, List.length_append, List.length_reverse, List.length_replicate]
  omega

/-- All digits in groups are the grouped text. -/
theorem lastDigits_length (digits : List Char) (separator : Char) (size width : Nat) :
    lastDigits digits separator size width (supply digits size width).length =
      group digits separator size width := by
  rw [lastDigits, List.take_length, group, List.leftpad, supply, List.reverse_append,
    List.reverse_reverse, List.reverse_replicate, List.length_append, List.length_append,
    List.length_reverse, Nat.add_comm]

theorem length_lastDigits (hk : k ≤ (supply digits size width).length) :
    (lastDigits digits separator size width k).length = k + (k - 1) / size := by
  have hlength : (((supply digits size width).take k).reverse).length = k := by
    rw [List.length_reverse, List.length_take_of_le hk]
  have hseparate := length_separate separator size ((supply digits size width).take k).reverse
  rwa [hlength] at hseparate

/-- One digit more comes in front of the last ones, behind a separator if they fill their groups. -/
theorem lastDigits_succ (hk : k < (supply digits size width).length) :
    lastDigits digits separator size width (k + 1) = (supply digits size width)[k] ::
      ((if k ≠ 0 ∧ k % size = 0 then [separator] else []) ++
        lastDigits digits separator size width k) := by
  rw [lastDigits, List.take_succ_eq_append_getElem hk, List.reverse_append, List.reverse_singleton,
    List.singleton_append, separate]
  split <;> rfl

/-- Digits are to come as long as some are left or the width is not filled. -/
theorem lt_length_supply_iff (hsize : 0 < size) : k < (supply digits size width).length ↔
    k < digits.length ∨ k + (k - 1) / size < width := by
  rw [length_supply, lt_max_iff, lt_digitsFor_iff hsize]

theorem succ_mod (hsize : 0 < size) (k : Nat) :
    (k + 1) % size = if k % size + 1 = size then 0 else k % size + 1 := by
  have hless := Nat.mod_lt k hsize
  rw [← Nat.mod_add_mod]
  split
  · next hfull => rw [hfull, Nat.mod_self]
  · next hopen => exact Nat.mod_eq_of_lt (by omega)

end Grouping

namespace Guarded

open Grouping (Written supply)

variable {ε : Type} {separator : Char} {size width k : Nat} {digits source : List Char}
  {w w' : Writer}

/-- A turn leaves less to do: a digit less, a cell less, or no digit owed any more. -/
theorem pending_lt {written : List Char} {next inGroup : Nat} {owed : Bool}
    (hnext : next = min (k + 1) source.length) (hw : w.next = min k source.length)
    (hwritten : w.written.length < written.length)
    (hmore : k < source.length ∨ w.owed = true ∨ w.written.length < width)
    (howed : owed = true → next < source.length ∨ w.written.length + 1 < width) :
    pending source width ⟨next, inGroup, owed, written⟩ < pending source width w := by
  have hbit := owed.toNat_le
  rw [pending, pending]
  dsimp only
  rw [hw, hnext]
  rw [hnext] at howed
  rcases hmore with hleft | howing | hcells
  · omega
  -- a zero that was only owed pays the debt, and no separator follows it to owe another
  · have hone : w.owed.toNat = 1 := Bool.toNat_eq_one.2 howing
    cases howed' : owed with
    | true =>
      have hahead := howed howed'
      have : true.toNat = 1 := rfl
      omega
    | false =>
      have : false.toNat = 0 := rfl
      omega
  · omega

/-- As long as digits are to come, one is left, owed, or needed for the width. -/
theorem more_of_written (h : Written digits separator size width k w) (hsize : 0 < size)
    (hk : k < (supply digits size width).length) :
    k < digits.length ∨ w.owed = true ∨ w.written.length < width := by
  by_cases howed : w.owed = true
  · exact .inr (.inl howed)
  have hlength : w.written.length = k + (k - 1) / size := by
    rw [h.written, if_neg howed, List.nil_append, Grouping.length_lastDigits (Nat.le_of_lt hk)]
  rw [hlength]
  exact ((Grouping.lt_length_supply_iff hsize).1 hk).imp_right .inr

theorem nextDigit_eq (h : Written digits separator size width k w) (hsize : 0 < size)
    (hk : k < (supply digits size width).length) :
    (nextDigit digits.reverse width w : Guarded ε _) =
      pure (some ((supply digits size width)[k], min (k + 1) digits.length)) := by
  have hnext := h.next
  rw [nextDigit]
  by_cases hleft : k < digits.length
  · have hsource : k < digits.reverse.length := by rwa [List.length_reverse]
    have hdigit : (supply digits size width)[k] = digits.reverse[k] := List.getElem_append_left hsource
    rw [Nat.min_eq_left (Nat.le_of_lt hleft)] at hnext
    rw [hnext, if_pos hsource, read_eq (List.getElem?_eq_getElem hsource), pure_bind, hdigit,
      Nat.min_eq_left hleft]
  · have hsource : digits.reverse.length ≤ k := by
      rw [List.length_reverse]
      omega
    have hdigit : (supply digits size width)[k] = '0' := by
      have hsome := List.getElem?_eq_getElem hk
      unfold supply at hsome
      rw [List.getElem?_append_right hsource] at hsome
      exact List.eq_of_mem_replicate (List.mem_of_getElem? hsome)
    rw [Nat.min_eq_right (Nat.not_lt.1 hleft)] at hnext
    rw [hnext, List.length_reverse, if_neg (Nat.lt_irrefl _),
      if_pos ((more_of_written h hsize hk).resolve_left hleft), hdigit, Nat.min_eq_right (by omega)]

theorem cons_written (h : Written digits separator size width k w)
    (hk : k < (supply digits size width).length) : (supply digits size width)[k] :: w.written =
      Grouping.lastDigits digits separator size width (k + 1) := by
  rw [Grouping.lastDigits_succ hk, h.written]
  simp only [h.owed, hk, and_true]

/-- A turn ends in a separator when a group is full and more digits are to come. -/
theorem separates_iff (h : Written digits separator size width k w) (hsize : 0 < size)
    (hk : k < (supply digits size width).length) :
    (w.inGroup + 1 = size ∧ (min (k + 1) digits.length < digits.reverse.length ∨
      w.written.length + 1 < width)) ↔
        (k + 1) % size = 0 ∧ k + 1 < (supply digits size width).length := by
  have hfull : w.inGroup + 1 = size ↔ (k + 1) % size = 0 := by
    rw [h.inGroup hk, Grouping.succ_mod hsize]
    split
    · next heq => exact iff_of_true heq rfl
    · next hne => exact iff_of_false hne (Nat.succ_ne_zero _)
  have hlength : w.written.length + 1 = k + 1 + (k + 1 - 1) / size := by
    have hlast : (Grouping.lastDigits digits separator size width (k + 1)).length =
        k + 1 + (k + 1 - 1) / size := Grouping.length_lastDigits hk
    rwa [← cons_written h hk, List.length_cons] at hlast
  refine and_congr hfull ?_
  rw [Grouping.lt_length_supply_iff hsize, hlength, List.length_reverse, min_lt_iff]
  simp

/-- A turn writes one digit more and leaves less to do. -/
theorem exists_groupStep (h : Written digits separator size width k w) (hsize : 0 < size)
    (hk : k < (supply digits size width).length) :
    ∃ w', (groupStep digits.reverse separator size width w : Guarded ε _) = pure (some w') ∧
      Written digits separator size width (k + 1) w' ∧
      pending digits.reverse width w' < pending digits.reverse width w := by
  have hwritten := cons_written h hk
  have hseparates := separates_iff h hsize hk
  have hnext : min (k + 1) digits.length = min (k + 1) digits.reverse.length := by
    rw [List.length_reverse]
  have hnow : w.next = min k digits.reverse.length := by rw [h.next, List.length_reverse]
  have hmore : k < digits.reverse.length ∨ w.owed = true ∨ w.written.length < width := by
    rw [List.length_reverse]
    exact more_of_written h hsize hk
  rw [groupStep, nextDigit_eq h hsize hk, pure_bind]
  dsimp only
  by_cases hseparate : w.inGroup + 1 = size ∧ (min (k + 1) digits.length < digits.reverse.length ∨
      w.written.length + 1 < width)
  · obtain ⟨hmod, hlt⟩ := hseparates.1 hseparate
    rw [if_pos hseparate]
    refine ⟨_, rfl, ⟨rfl, fun _ => hmod.symm, ?_, ?_⟩, ?_⟩
    · exact iff_of_true rfl ⟨⟨Nat.succ_ne_zero k, hmod⟩, hlt⟩
    · rw [if_pos rfl, hwritten]
      rfl
    · refine pending_lt hnext hnow ?_ hmore fun _ => hseparate.2
      exact Nat.lt_succ_of_lt (Nat.lt_succ_self _)
  · rw [if_neg hseparate]
    rw [hseparates] at hseparate
    refine ⟨_, rfl, ⟨rfl, fun hlt => ?_, ?_, ?_⟩, ?_⟩
    · have hopen : ¬ k % size + 1 = size := fun heq => by
        have hmod : (k + 1) % size = 0 := by rw [Grouping.succ_mod hsize, if_pos heq]
        exact hseparate ⟨hmod, hlt⟩
      rw [h.inGroup hk, Grouping.succ_mod hsize, if_neg hopen]
    · exact iff_of_false Bool.false_ne_true fun hand => hseparate ⟨hand.1.2, hand.2⟩
    · rw [if_neg Bool.false_ne_true, hwritten]
      rfl
    · refine pending_lt hnext hnow ?_ hmore fun hfalse => absurd hfalse Bool.false_ne_true
      exact Nat.lt_succ_self _

/-- The loop ends when all digits are written. -/
theorem groupStep_eq_none (h : Written digits separator size width k w) (hsize : 0 < size)
    (hk : ¬ k < (supply digits size width).length) (hlast : k ≤ (supply digits size width).length) :
    (groupStep digits.reverse separator size width w : Guarded ε _) = pure none := by
  have howed : ¬ w.owed = true := fun hnow => hk (h.owed.1 hnow).2
  have hlength : w.written.length = k + (k - 1) / size := by
    rw [h.written, if_neg howed, List.nil_append, Grouping.length_lastDigits hlast]
  rw [Grouping.lt_length_supply_iff hsize, not_or, ← hlength] at hk
  have hnext : ¬ w.next < digits.reverse.length := by
    rw [h.next, List.length_reverse]
    omega
  have hmore : ¬ (w.owed = true ∨ w.written.length < width) := not_or.2 ⟨howed, hk.2⟩
  rw [groupStep, nextDigit, if_neg hnext, if_neg hmore]
  rfl

/-- From any turn on, the loop meets no trap and writes the grouped digits. -/
theorem groupFrom_eq (h : Written digits separator size width k w) (hsize : 0 < size)
    (hk : k ≤ (supply digits size width).length) :
    (groupFrom digits.reverse separator size width w : Guarded ε _) =
      pure (Grouping.group digits separator size width) := by
  induction hn : (supply digits size width).length - k generalizing k w with
  | zero =>
    have hend : k = (supply digits size width).length := by omega
    have hdone : ¬ k < (supply digits size width).length := by omega
    have howed : ¬ w.owed = true := fun hnow => hdone (h.owed.1 hnow).2
    rw [groupFrom, groupStep_eq_none h hsize hdone hk, pure_bind, h.written, if_neg howed,
      List.nil_append, hend, Grouping.lastDigits_length]
  | succ n ih =>
    obtain ⟨w', hstep, hwritten, hless⟩ := exists_groupStep (ε := ε) h hsize (by omega)
    rw [groupFrom, hstep, pure_bind]
    dsimp only
    rw [if_pos hless]
    exact ih hwritten (by omega) (by omega)

/-- The loop meets no trap, and writes the grouped digits. -/
theorem group_eq (digits : List Char) (separator : Char) (hsize : 0 < size) (width : Nat) :
    (group digits separator size width : Guarded ε _) =
      pure (Grouping.group digits separator size width) := by
  have hstart : Written digits separator size width 0 ⟨0, 0, false, []⟩ := by
    refine ⟨(Nat.zero_min _).symm, fun _ => (Nat.zero_mod size).symm, ?_, rfl⟩
    exact iff_of_false Bool.false_ne_true fun hand => hand.1.1 rfl
  exact groupFrom_eq hstart hsize (Nat.zero_le _)

end Guarded

end Tabular
