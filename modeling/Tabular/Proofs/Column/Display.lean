import Tabular.Column.Display
import Tabular.Proofs.Table.Contents

/-!
# What is shown of missing cells

A series is shown row by row. Number and datetime columns show nothing where a cell is missing, and a
text column shows nothing where a text is missing. But whatever is no text is cast to one in a text
column, and there a missing number, instant or duration has a text of its own.

## Main definitions

- `ColumnType.shownMissing` — what stands for a missing cell

## Main statements

- `ColumnType.length_display` — every row is shown
- `ColumnType.display_of_missing` — what is shown in a row where the cell is missing
-/

namespace Tabular

variable {α β : Type}

/-- The rows of a list that pass a test hold what every item that passes it becomes. -/
theorem getElem?_map_of_test {xs : List α} {test : α → Bool} {f : α → β} {b : β} {row : Nat}
    (hf : ∀ x, test x = true → f x = b) (h : (xs.map test)[row]? = some true) :
    (xs.map f)[row]? = some b := by
  rw [List.getElem?_map, Option.map_eq_some_iff] at h ⊢
  obtain ⟨x, hx, htest⟩ := h
  exact ⟨x, hx, hf x htest⟩

namespace Cells

theorem length_numbers (cells : Cells) : cells.numbers.length = cells.length := by
  cases cells <;> simp [numbers, length]

/-- A missing cell holds no number. -/
theorem numbers_of_missing {cells : Cells} {row : Nat} (h : cells.missing[row]? = some true) :
    cells.numbers[row]? = some none := by
  cases cells with
  | integer w vs => exact absurd h missing_integer_ne
  | float w vs => exact getElem?_map_of_test (fun x hx => if_pos hx) h
  | datetime vs | timedelta vs | object vs => exact getElem?_map_of_test (fun _ _ => rfl) h
  | category c =>
    rw [missing, Categorical.values, List.map_map] at h
    exact getElem?_map_of_test (fun _ _ => rfl) h

end Cells

namespace ColumnType

/-- What stands for a missing cell of a storage type. -/
def shownMissing (type : ColumnType) (d : Dtype) : Option String :=
  match type, d with
  | text, .float _ => some "nan"
  | text, .datetime | text, .timedelta => some "NaT"
  | _, _ => none

theorem shownMissing_eq_none_iff {type : ColumnType} {d : Dtype} :
    type.shownMissing d = none ↔
      ¬ (type = .text ∧ (d.isFloat = true ∨ d = .datetime ∨ d = .timedelta)) := by
  cases type <;> cases d <;> simp [shownMissing, Dtype.isFloat]

/-- Every row is shown. -/
theorem length_display (type : ColumnType) (s : Series) : (type.display s).length = s.length := by
  obtain ⟨name, cells⟩ := s
  show (type.display ⟨name, cells⟩).length = cells.length
  cases type with
  | text => cases cells <;> simp [display, Cells.castTexts, Cells.length, Categorical.values]
  | number f => simp [display, Cells.length_numbers]
  | datetime => cases cells <;> simp [display, Cells.length]

theorem display_text_of_missing {s : Series} {row : Nat}
    (h : s.cells.missing[row]? = some true) :
    (text.display s)[row]? = some (text.shownMissing s.dtype) := by
  obtain ⟨name, cells⟩ := s
  cases cells with
  | integer w vs => exact absurd h Cells.missing_integer_ne
  | float w vs =>
    simp only [display, Cells.castTexts, List.map_map]
    refine getElem?_map_of_test (fun x hx => ?_) h
    show some (if x.isNaN then "nan" else _) = _
    rw [if_pos hx]
    rfl
  | datetime vs | timedelta vs =>
    simp only [display, Cells.castTexts, List.map_map]
    refine getElem?_map_of_test (fun v hv => ?_) h
    rw [Option.isNone_iff_eq_none.1 hv]
    rfl
  | object vs =>
    show vs[row]? = some none
    rw [← List.map_id' vs]
    exact getElem?_map_of_test (fun v hv => Option.isNone_iff_eq_none.1 hv) h
  | category c =>
    show c.values[row]? = some none
    rw [← List.map_id' c.values]
    exact getElem?_map_of_test (fun v hv => Option.isNone_iff_eq_none.1 hv) h

theorem display_number_of_missing (f : NumberFormat) {s : Series} {row : Nat}
    (h : s.cells.missing[row]? = some true) : ((number f).display s)[row]? = some none := by
  show (s.cells.numbers.map fun v => v.map f.format)[row]? = some none
  rw [List.getElem?_map, Cells.numbers_of_missing h]
  rfl

theorem display_datetime_of_missing {s : Series} {row : Nat}
    (h : s.cells.missing[row]? = some true) : (datetime.display s)[row]? = some none := by
  obtain ⟨name, cells⟩ := s
  have hrow : row < cells.length := by
    rw [← cells.length_missing]
    exact (List.getElem?_eq_some_iff.1 h).1
  cases cells with
  | datetime vs =>
    refine getElem?_map_of_test (fun v hv => ?_) h
    rw [Option.isNone_iff_eq_none.1 hv]
    rfl
  | _ => exact List.getElem?_replicate_of_lt hrow

/-- Every row is shown. A missing cell is shown as nothing, unless the column is one of texts and the
cell is not: a missing number, instant or duration is cast to a text there. -/
theorem display_of_missing (type : ColumnType) (s : Series) :
    (type.display s).length = s.length ∧
    ∀ row : Nat, s.cells.missing[row]? = some true →
      (type.display s)[row]? = some (type.shownMissing s.dtype) ∧
      ((type.display s)[row]? = some none ↔
        ¬ (type = .text ∧ (s.dtype.isFloat = true ∨ s.dtype = .datetime ∨
          s.dtype = .timedelta))) := by
  refine ⟨length_display type s, fun row h => ?_⟩
  have hshown : (type.display s)[row]? = some (type.shownMissing s.dtype) := by
    cases type with
    | text => exact display_text_of_missing h
    | number f => exact display_number_of_missing f h
    | datetime => exact display_datetime_of_missing h
  refine ⟨hshown, ?_⟩
  rw [hshown, Option.some.injEq]
  exact shownMissing_eq_none_iff

/-- A code that is beyond the categories. -/
def uncategorized : Series := ⟨"a", .category ⟨[0, 1], ["x"]⟩⟩

theorem display_of_missing_uncategorized :
    uncategorized.cells.missing[1]? = some true ∧
      (text.display uncategorized)[1]? = some (text.shownMissing uncategorized.dtype) ∧
      ((text.display uncategorized)[1]? = some none ↔
        ¬ (ColumnType.text = .text ∧ (uncategorized.dtype.isFloat = true ∨
          uncategorized.dtype = .datetime ∨ uncategorized.dtype = .timedelta))) :=
  ⟨rfl, (display_of_missing .text uncategorized).2 1 rfl⟩

/-- A NaN has a text in a column of texts. -/
theorem display_text_nan :
    (Cells.float .double [.nan, .ofInt 1]).missing[0]? = some true ∧
      text.display ⟨"a", .float .double [.nan, .ofInt 1]⟩ = [some "nan", some "1"] ∧
      (text.display ⟨"a", .float .double [.nan, .ofInt 1]⟩)[0]? ≠ some none := by
  decide +kernel

end ColumnType

end Tabular
