import Tabular.Arrow.Artifact
import Tabular.Proofs.Arrow.Batches
import Tabular.Proofs.Arrow.Encoding
import Tabular.Proofs.Chain

/-!
# Any file is read as what it says

A file need not come from a stored table: it may have several batches, integers with nulls, and nulls
among the texts of a dictionary. Whatever is read of it has the names and the cells of the file. A
null is read as a missing cell, a value as itself, and an integer beside a null as a double.

Three things are read otherwise. A null that stands behind a key is not missing, but an empty text. A
key from 2^31 on is too great for a code, and the row is read with the key that the code has kept, if
any. A table without columns has no rows, whatever rows its file has.

## Main definitions

- `ArrowCell.read` — what is read of a cell
- `ArrowFile.codedCellsOf` — the cells of a column, with its keys as codes keep them
- `ReadAs` — a series holds what is read of cells

## Main statements

- `ArrowArray.contents_of_toCells` — an array is read cell by cell
- `Artifact.read_contents` — a file that is read gives its names, its rows and its cells
-/

namespace Tabular

namespace Floating

variable {w : FloatWidth}

/-- A NaN has the full exponent field and a fraction. -/
theorem isNaN_iff {x : Floating w} :
    x.isNaN = true ↔ x.pattern.toNat / w.hiddenBit % (w.fullField + 1) = w.fullField ∧
      x.pattern.toNat % w.hiddenBit ≠ 0 := by
  rw [isNaN, decide_eq_true_iff, datum]
  by_cases hfield : x.pattern.toNat / w.hiddenBit % (w.fullField + 1) = w.fullField
  · by_cases hfraction : x.pattern.toNat % w.hiddenBit = 0
    · simp [hfield, hfraction]
    · simp [hfield, hfraction]
  · simp only [hfield, if_false, false_and, iff_false]
    split <;> simp

theorem isNaN_ofMagnitude {negative : Bool} {m : Nat} (h : m ≤ w.infinityMagnitude) :
    (ofMagnitude negative m : Floating w).isNaN = false := by
  rw [← Bool.not_eq_true, isNaN_iff, ofMagnitude, BitVec.toNat_ofNat]
  rintro ⟨hfield, hfraction⟩
  -- with the widths as numbers, the largest magnitude has no fraction and no other the full field
  cases w <;> cases negative <;>
    simp [FloatWidth.infinityMagnitude, FloatWidth.fullField, FloatWidth.hiddenBit,
      FloatWidth.exponentBits, FloatWidth.fractionBits, FloatWidth.signBit,
      FloatWidth.bits] at h hfield hfraction <;>
    omega

/-- Rounding overflows to infinity and never to a NaN. -/
theorem isNaN_round (negative : Bool) (r : Ratio) :
    (round negative r : Floating w).isNaN = false := by
  rw [round]
  split
  · exact isNaN_ofMagnitude (Nat.zero_le _)
  · exact isNaN_ofMagnitude (Nat.min_le_right _ _)

theorem isNaN_ofInt (n : Int) : (ofInt n : Floating w).isNaN = false := isNaN_round _ _

end Floating

namespace CellValue

/-- The value is a NaN. -/
def isNaN : CellValue → Bool
  | float _ x => x.isNaN
  | _ => false

/-- An integer as a double; the other values as they are. -/
def widened : CellValue → CellValue
  | integer n => .float .double (.ofInt n)
  | v => v

end CellValue

namespace ArrowCell

/-- What is read of a cell, with or without nulls in its column. -/
def read (hasNulls : Bool) : ArrowCell → Option CellValue
  | null => none
  | nullText => some (.text "")
  | value v => if v.isNaN then none else some (if hasNulls then v.widened else v)

/-- Values that are neither NaNs nor integers are read as they are. -/
theorem read_ofOption {α : Type} {f : α → CellValue} {hasNulls : Bool}
    (hnan : ∀ x, (f x).isNaN = false) (hwide : ∀ x, (f x).widened = f x) (v : Option α) :
    (ofOption (v.map f)).read hasNulls = v.map f := by
  cases v with
  | none => rfl
  | some x =>
    show (if (f x).isNaN then none else some (if hasNulls then (f x).widened else f x)) = some (f x)
    rw [hnan, if_neg Bool.false_ne_true, hwide, ite_self]

/-- Nothing is read of a cell exactly when it is null or a NaN. -/
theorem read_eq_none_iff {hasNulls : Bool} {cell : ArrowCell} :
    cell.read hasNulls = none ↔ cell = null ∨ ∃ v, cell = value v ∧ v.isNaN = true := by
  cases cell with
  | null => simp [read]
  | nullText => simp [read]
  | value v => simp [read]

end ArrowCell

namespace Categorical

/-- The key that is kept by the code of a key. -/
def keptKey (key : IntegerWidth) (k : Nat) : Option Nat := keyOf (codeOfKey key k)

theorem codeOfKey_eq {key : IntegerWidth} {k : Nat} (h : k < 0x8000_0000) :
    codeOfKey key k = k := by
  cases key with
  | uint32 | int64 | uint64 => exact wordOf_eq h
  | _ => rfl

theorem keptKey_eq {key : IntegerWidth} {k : Nat} (h : k < 0x8000_0000) :
    keptKey key k = some k := by
  rw [keptKey, codeOfKey_eq h, keyOf, if_pos (Int.natCast_nonneg k), Int.toNat_natCast]

/-- Of a greater key none is kept, or another one. -/
example : keptKey .uint32 0x8000_0000 = none ∧ keptKey .uint64 0x1_0000_0000 = some 0 := by decide

theorem categoryAt_eq (categories : List String) (code : Int) :
    categoryAt categories code = (keyOf code).bind (categories[·]?) := by
  rw [categoryAt, keyOf]
  split <;> rfl

end Categorical

namespace ArrowArray

/-- The array with its keys as codes keep them. -/
def coded : ArrowArray → ArrowArray
  | integer w vs => integer w vs
  | float w vs => float w vs
  | timestamp vs => timestamp vs
  | utf8 vs => utf8 vs
  | dictionary key ks vs => dictionary key (ks.map (·.bind (Categorical.keptKey key))) vs
  | foreign type n => foreign type n

/-- The key of a row of a dictionary. -/
def keyAt? : ArrowArray → Nat → Option Nat
  | dictionary _ ks _, row => ks[row]?.join
  | _, _ => none

theorem length_coded (array : ArrowArray) : array.coded.length = array.length := by
  cases array with
  | dictionary key ks vs => exact List.length_map _
  | _ => rfl

/-- Codes keep the cell of a row, unless its key is too great. -/
theorem getElem?_cells_coded {array : ArrowArray} {row : Nat}
    (h : ∀ k, array.keyAt? row = some k → k < 0x8000_0000) :
    array.coded.cells[row]? = array.cells[row]? := by
  cases array with
  | dictionary key ks vs =>
    rw [coded, cells, cells, List.getElem?_map, List.getElem?_map, List.getElem?_map]
    rcases hrow : ks[row]? with _ | _ | k
    · rfl
    · rfl
    · have hlt : k < 0x8000_0000 := h k (by rw [keyAt?, hrow, Option.join_some])
      show some (ArrowCell.ofKey vs (Categorical.keptKey key k)) = some (ArrowCell.ofKey vs (some k))
      rw [Categorical.keptKey_eq hlt]
  | _ => rfl

theorem null_mem_cells_integer {w : IntegerWidth} {vs : List (Option Int)} :
    ArrowCell.null ∈ (integer w vs).cells ↔ ¬ vs.all Option.isSome = true := by
  simp only [cells, List.mem_map, ArrowCell.ofOption_eq_null_iff, Option.map_eq_none_iff,
    List.all_eq_true]
  constructor
  · rintro ⟨v, hv, rfl⟩ hall
    cases hall none hv
  · intro hall
    push Not at hall
    obtain ⟨v, hv, hnone⟩ := hall
    exact ⟨v, hv, by simpa using hnone⟩

theorem exists_map_some {α : Type} {vs : List (Option α)} (h : vs.all Option.isSome = true) :
    ∃ xs : List α, xs.map some = vs := by
  induction vs with
  | nil => exact ⟨[], rfl⟩
  | cons v vs ih =>
    obtain ⟨hv, hvs⟩ := Bool.and_eq_true_iff.1 h
    obtain ⟨x, rfl⟩ := Option.isSome_iff_exists.1 hv
    obtain ⟨xs, rfl⟩ := ih hvs
    exact ⟨x :: xs, rfl⟩

/-- Integers are read as they are, or as doubles when there are nulls among them. -/
theorem contents_integerCells (w : IntegerWidth) (vs : List (Option Int)) :
    (integerCells w vs).contents =
      (integer w vs).cells.map (ArrowCell.read (decide (.null ∈ (integer w vs).cells))) := by
  rw [integerCells]
  split
  · next hall =>
    obtain ⟨ns, rfl⟩ := exists_map_some hall
    have hvalues : (ns.map some).filterMap id = ns := by
      rw [List.filterMap_map]
      exact List.filterMap_some
    rw [decide_eq_false fun h => null_mem_cells_integer.1 h hall, hvalues, cells, Cells.contents,
      List.map_map, List.map_map]
    rfl
  · next hall =>
    rw [decide_eq_true (null_mem_cells_integer.2 hall), cells, Cells.contents, List.map_map,
      List.map_map]
    refine List.map_congr_left fun v _ => ?_
    cases v with
    | none =>
      show (if (Floating.nan : Double).isNaN then none else some (.float .double .nan)) = none
      rw [if_pos Floating.isNaN_nan]
    | some n =>
      show (if (Floating.ofInt n : Double).isNaN then none
        else some (CellValue.float .double (.ofInt n))) = some (CellValue.float .double (.ofInt n))
      rw [if_neg (Bool.eq_false_iff.1 (Floating.isNaN_ofInt n))]

/-- A key is read as the category that its code points at, where a null text is empty. -/
theorem categoryAt_of_key (key : IntegerWidth) (vs : List (Option String)) (hasNulls : Bool)
    (k : Option Nat) :
    (Categorical.categoryAt (vs.map fun v => v.getD "")
        (k.elim (-1) (Categorical.codeOfKey key))).map CellValue.text =
      (ArrowCell.ofKey vs (k.bind (Categorical.keptKey key))).read hasNulls := by
  cases k with
  | none => rfl
  | some k =>
    show (Categorical.categoryAt _ (Categorical.codeOfKey key k)).map CellValue.text =
      (ArrowCell.ofEntry ((Categorical.keptKey key k).bind (vs[·]?))).read hasNulls
    rw [Categorical.categoryAt_eq]
    show ((Categorical.keptKey key k).bind _).map CellValue.text = _
    cases Categorical.keptKey key k with
    | none => rfl
    | some i =>
      rw [Option.bind_some, Option.bind_some, List.getElem?_map]
      rcases vs[i]? with _ | _ | s
      · rfl
      · rfl
      · cases hasNulls <;> rfl

/-- An array is read cell by cell, with its keys as codes keep them. -/
theorem contents_of_toCells {name : String} {array : ArrowArray} {cells : Cells}
    (h : array.toCells name = .ok cells) :
    cells.contents =
      array.coded.cells.map (ArrowCell.read (decide (.null ∈ array.coded.cells))) := by
  cases array with
  | integer w vs =>
    cases h
    exact contents_integerCells w vs
  | float w vs =>
    cases h
    rw [coded, ArrowArray.cells, Cells.contents, List.map_map, List.map_map]
    refine List.map_congr_left fun v _ => ?_
    cases v with
    | none => exact if_pos Floating.isNaN_nan
    | some x =>
      show _ = if x.isNaN then none else some (ite _ (CellValue.float w x) (.float w x))
      rw [ite_self]
      rfl
  | timestamp vs | utf8 vs =>
    cases h
    rw [coded, ArrowArray.cells, Cells.contents, List.map_map]
    exact List.map_congr_left fun v _ =>
      (ArrowCell.read_ofOption (fun _ => rfl) (fun _ => rfl) v).symm
  | dictionary key ks vs =>
    cases h
    rw [coded, ArrowArray.cells, Cells.contents, Categorical.values, List.map_map, List.map_map,
      List.map_map, List.map_map]
    exact List.map_congr_left fun k _ => categoryAt_of_key key vs _ k
  | foreign type n => cases h

/-- The cells of an array are as many as its values. -/
theorem length_of_toCells {name : String} {array : ArrowArray} {cells : Cells}
    (h : array.toCells name = .ok cells) : cells.length = array.length := by
  rw [← cells.length_contents, contents_of_toCells h, List.length_map, length_cells, length_coded]

/-- No array is read as durations. -/
theorem ne_timedelta_of_toCells {name : String} {array : ArrowArray} {cells : Cells}
    (h : array.toCells name = .ok cells) : cells.dtype ≠ .timedelta := by
  cases array with
  | integer w vs =>
    cases h
    rw [integerCells]
    split <;> simp [Cells.dtype]
  | foreign type n => cases h
  | _ =>
    cases h
    simp [Cells.dtype]

theorem toSeries_eq_ok_iff {column : String × ArrowArray} {s : Series} :
    toSeries column = .ok s ↔ s.name = column.1 ∧ column.2.toCells column.1 = .ok s.cells := by
  obtain ⟨name, cells⟩ := s
  rw [toSeries]
  cases column.2.toCells column.1 with
  | error fault => simp
  | ok cells' => simp [eq_comm]

end ArrowArray

/-- A series holds what is read of cells. A cell is missing when it is null or a NaN; a null among the
texts of a dictionary is an empty text; any other value is there, as a double if it is an integer and
there are nulls in the column. -/
structure ReadAs (cells : List ArrowCell) (s : Series) : Prop where
  length_eq : s.length = cells.length
  missing_iff : ∀ (row : Nat) (cell : ArrowCell), cells[row]? = some cell →
    (s.cells.missing[row]? = some true ↔
      cell = .null ∨ ∃ v, cell = .value v ∧ v.isNaN = true)
  nullText : ∀ row : Nat, cells[row]? = some .nullText →
    s.cells.contents[row]? = some (some (.text ""))
  value : ∀ (row : Nat) (v : CellValue), cells[row]? = some (.value v) → v.isNaN = false →
    s.cells.contents[row]? =
      some (some (if ArrowCell.null ∈ cells then v.widened else v))

theorem ReadAs.of_contents {cells : List ArrowCell} {s : Series}
    (h : s.cells.contents = cells.map (ArrowCell.read (decide (.null ∈ cells)))) :
    ReadAs cells s := by
  have hrow : ∀ (row : Nat) (cell : ArrowCell), cells[row]? = some cell →
      s.cells.contents[row]? = some (cell.read (decide (.null ∈ cells))) := by
    intro row cell hcell
    rw [h, List.getElem?_map, hcell, Option.map_some]
  refine ⟨?_, ?_, fun row hcell => hrow row _ hcell, ?_⟩
  · show s.cells.length = cells.length
    rw [← s.cells.length_contents, h, List.length_map]
  · intro row cell hcell
    rw [Cells.missing_getElem?_eq_iff, hrow row cell hcell, Option.some.injEq,
      ArrowCell.read_eq_none_iff]
  · intro row v hcell hnan
    rw [hrow row _ hcell, ArrowCell.read, hnan, if_neg Bool.false_ne_true]
    simp only [decide_eq_true_eq]

namespace ArrowFile

/-- The series of a table of a file have the names and the cells of the columns of the file. -/
theorem columns_of_toTable {f : ArrowFile} {t : Table} (h : f.toTable = .ok t) :
    List.Forall₂ (fun column s => s.name = column.1 ∧ column.2.toCells column.1 = .ok s.cells)
      f.columns t.columns := by
  obtain ⟨ss, hmap, hcolumns⟩ := bind_eq_ok_iff.1 h
  obtain rfl : t.columns = ss := Table.columns_of_ofColumns hcolumns
  exact (mapM_eq_ok_iff.1 hmap).imp fun column s => ArrowArray.toSeries_eq_ok_iff.1

theorem names_of_toTable {f : ArrowFile} {t : Table} (h : f.toTable = .ok t) :
    t.names = f.names := by
  rw [← map_fst_columns, Table.names, eq_comm, ← List.forall₂_eq_eq_eq,
    List.forall₂_map_left_iff, List.forall₂_map_right_iff]
  exact (columns_of_toTable h).imp fun column s h => h.1.symm

/-- A table has the rows of its file, or none if it has no columns. -/
theorem length_of_toTable {f : ArrowFile} {t : Table} (h : f.toTable = .ok t) :
    t.length = if f.fields = [] then 0 else f.rows := by
  have hread := columns_of_toTable h
  have hfields : f.fields = [] ↔ f.columns = [] := by simp [columns]
  rw [Table.length, rows]
  simp only [hfields]
  generalize t.columns = ss at hread
  generalize f.columns = arrays at hread
  cases hread with
  | nil => rfl
  | cons hfirst _ => exact ArrowArray.length_of_toCells hfirst.2

/-- The series of a table holds the cells of the array of its column. -/
theorem exists_column_of_toTable {f : ArrowFile} {t : Table} (h : f.toTable = .ok t) {index : Nat}
    {s : Series} (hs : t.columns[index]? = some s) :
    ∃ column, f.columns[index]? = some column ∧ column.2.toCells column.1 = .ok s.cells := by
  have hread := columns_of_toTable h
  obtain ⟨hlt, rfl⟩ := List.getElem?_eq_some_iff.1 hs
  have hlt' : index < f.columns.length := hread.length_eq ▸ hlt
  exact ⟨_, List.getElem?_eq_getElem hlt', ((List.forall₂_iff_get.1 hread).2 index hlt' hlt).2⟩

/-- The key of a row of a column, among the texts of all batches. -/
def keyAt? (f : ArrowFile) (index row : Nat) : Option Nat :=
  (f.columns[index]?).bind (·.2.keyAt? row)

/-- The cells of a column with its keys as codes keep them. -/
def codedCellsOf (f : ArrowFile) (index : Nat) : List ArrowCell :=
  (f.columns[index]?).elim [] (·.2.coded.cells)

/-- A series of a table holds the cells of its column as codes keep them, and these are the cells of
the file but for keys that are too great. -/
theorem contents_of_toTable {f : ArrowFile} {t : Table} (h : f.Regular) (ht : f.toTable = .ok t)
    {index : Nat} {s : Series} (hs : t.columns[index]? = some s) :
    ReadAs (f.codedCellsOf index) s ∧
      ∀ row : Nat, (∀ k, f.keyAt? index row = some k → k < 0x8000_0000) →
        (f.codedCellsOf index)[row]? = (f.cellsOf index)[row]? := by
  obtain ⟨column, hcolumn, hcells⟩ := exists_column_of_toTable ht hs
  have hcoded : f.codedCellsOf index = column.2.coded.cells := by
    rw [codedCellsOf, hcolumn, Option.elim_some]
  rw [hcoded, ← cells_of_columns h hcolumn]
  refine ⟨ReadAs.of_contents (ArrowArray.contents_of_toCells hcells), fun row hkeys => ?_⟩
  refine ArrowArray.getElem?_cells_coded fun k hk => hkeys k ?_
  rw [keyAt?, hcolumn, Option.bind_some, hk]

end ArrowFile

namespace Artifact

variable {d : Disk StoredFile} {a : Wire.Artifact} {path : Path} {file : ArrowFile} {t : Table}
  {columns : List Column}

/-- A record without a path stands for the empty table, one with a path for the table of the file at
the path, if that has the names and the rows of the record. -/
theorem cases_of_read (h : read d a = .ok (t, columns)) :
    (a.path = none ∧ t = .empty ∧ columns = []) ∨
      ∃ path file, a.path = some path ∧ openFile d path = .ok file ∧ file.toTable = .ok t ∧
        file.names = columns.map Column.name ∧ file.rows = a.metadata.rows ∧
        a.metadata.columns.mapM Column.ofWire = .ok columns := by
  obtain ⟨columns', hcolumns, h⟩ := bind_eq_ok_iff.1 h
  split at h
  · next hpath =>
    cases h
    exact .inl ⟨hpath, rfl, rfl⟩
  · next path hpath =>
    obtain ⟨file, hfile, h⟩ := bind_eq_ok_iff.1 h
    obtain ⟨hshape, h⟩ := guard_eq_ok_iff.1 h
    obtain ⟨t', ht, h⟩ := bind_eq_ok_iff.1 h
    cases h
    obtain ⟨hnames, hrows⟩ := not_or.1 hshape
    exact .inr ⟨path, file, hpath, mapError_eq_ok_iff.1 hfile, ht, not_not.1 hnames,
      not_not.1 hrows, hcolumns⟩

theorem ne_timedelta_of_read (h : read d a = .ok (t, columns)) :
    ∀ s ∈ t.columns, s.dtype ≠ .timedelta := by
  rcases cases_of_read h with ⟨-, rfl, -⟩ | ⟨path, file, -, -, ht, -⟩
  · exact fun s hs => absurd hs List.not_mem_nil
  · intro s hs
    obtain ⟨index, hindex⟩ := List.mem_iff_getElem?.1 hs
    obtain ⟨column, -, hcells⟩ := ArrowFile.exists_column_of_toTable ht hindex
    exact ArrowArray.ne_timedelta_of_toCells hcells

/-- A record that is read stands for the names, the rows and the cells of its file, whatever the file
holds. Without columns there are no rows, and a row has the cell that the code of its key keeps: that
of the file, unless the key is too great for a code. -/
theorem read_contents (hpath : a.path = some path) (hfile : openFile d path = .ok file)
    (hregular : file.Regular) (hread : read d a = .ok (t, columns)) :
    t.names = file.names ∧ file.rows = a.metadata.rows ∧
      t.length = (if file.fields = [] then 0 else a.metadata.rows) ∧
      ∀ (index : Nat) (s : Series), t.columns[index]? = some s →
        ReadAs (file.codedCellsOf index) s ∧
          ∀ row : Nat, (∀ k, file.keyAt? index row = some k → k < 0x8000_0000) →
            (file.codedCellsOf index)[row]? = (file.cellsOf index)[row]? := by
  rcases cases_of_read hread with ⟨hnone, -, -⟩ | ⟨path', file', hpath', hfile', ht, -, hrows, -⟩
  · cases hpath.symm.trans hnone
  · obtain rfl : path = path' := Option.some.inj (hpath.symm.trans hpath')
    obtain rfl : file = file' := Except.ok.inj (hfile.symm.trans hfile')
    refine ⟨ArrowFile.names_of_toTable ht, hrows, ?_, ?_⟩
    · rw [ArrowFile.length_of_toTable ht, hrows]
    · intro index s hs
      exact ArrowFile.contents_of_toTable hregular ht hs

/-- A file without fields has rows, and its table has none. -/
example : read (.ofTree ⟨[(["f"], .file (some ⟨[], [⟨5, []⟩]⟩))]⟩) ⟨some ⟨"f"⟩, 5, []⟩ =
    .ok (.empty, []) := rfl

/-- A dictionary with a null among its texts, and a key to it. -/
def nullEntry : ArrowFile :=
  ⟨[⟨"A", .dictionary .int32 .utf8⟩], [⟨2, [.dictionary .int32 [some 0, some 1] [some "a", none]]⟩]⟩

theorem regular_nullEntry : nullEntry.Regular where
  typed := by
    intro batch hbatch
    obtain rfl := List.mem_singleton.1 hbatch
    refine .cons (.dictionary _ _ _ fun k hk => ?_) .nil
    simp only [List.mem_cons, Option.some.injEq, List.not_mem_nil, or_false] at hk
    show k < 2
    omega
  filled := by
    intro column hcolumn
    obtain rfl := List.mem_singleton.1 hcolumn
    exact List.cons_ne_nil _ _

/-- A disk with the file of a dictionary. -/
def nullEntryDisk : Disk StoredFile := .ofTree ⟨[(["f"], .file (some nullEntry))]⟩

/-- The record of the file of a dictionary. -/
def nullEntryRecord : Wire.Artifact := ⟨some ⟨"f"⟩, 2, [⟨"A", .text⟩]⟩

/-- The column of a dictionary with a null among its texts. -/
def nullEntryTable : Table := ⟨[⟨"A", .category ⟨[0, 1], ["a", ""]⟩⟩], by decide⟩

theorem read_nullEntry :
    read nullEntryDisk nullEntryRecord = .ok (nullEntryTable, [⟨"A", .text⟩]) := rfl

theorem read_contents_nullEntry :
    nullEntryRecord.path = some ⟨"f"⟩ ∧ openFile nullEntryDisk ⟨"f"⟩ = .ok nullEntry ∧
      nullEntry.Regular ∧
      read nullEntryDisk nullEntryRecord = .ok (nullEntryTable, [⟨"A", .text⟩]) ∧
      nullEntryTable.names = nullEntry.names ∧
      nullEntry.rows = nullEntryRecord.metadata.rows ∧
      nullEntryTable.length = (if nullEntry.fields = [] then 0 else nullEntryRecord.metadata.rows) ∧
      ∀ (index : Nat) (s : Series), nullEntryTable.columns[index]? = some s →
        ReadAs (nullEntry.codedCellsOf index) s ∧
          ∀ row : Nat, (∀ k, nullEntry.keyAt? index row = some k → k < 0x8000_0000) →
            (nullEntry.codedCellsOf index)[row]? = (nullEntry.cellsOf index)[row]? :=
  ⟨rfl, rfl, regular_nullEntry, read_nullEntry,
    read_contents rfl rfl regular_nullEntry read_nullEntry⟩

/-- A null behind a key is read as an empty text, which is not missing. -/
theorem read_nullText :
    openFile nullEntryDisk ⟨"f"⟩ = .ok nullEntry ∧ nullEntry.Regular ∧
      (nullEntry.cellsOf 0)[1]? = some .nullText ∧
      ∃ t columns s, read nullEntryDisk nullEntryRecord = .ok (t, columns) ∧
        t.columns[0]? = some s ∧ s.cells.missing[1]? = some false ∧
        s.cells.contents[1]? = some (some (.text "")) :=
  ⟨rfl, regular_nullEntry, rfl, nullEntryTable, _, _, read_nullEntry, rfl, rfl, rfl⟩

end Artifact

end Tabular
