import Mathlib.Data.List.Forall2
import Tabular.Arrow.Array
import Tabular.Proofs.Table.Contents

/-!
# What a file says about cells

A file comes in batches, and each type of array has its own place for a null. A null can also stand
behind a key that is there, among the texts of a dictionary. Here all arrays are told as lists of
cells. Putting the batches of a column together renumbers the keys of dictionaries, and leaves the
cells as they are.

## Main definitions

- `ArrowCell` — what a file says about a cell
- `ArrowArray.cells` — the cells of an array
- `ArrowArray.HasType` — the arrays of a type that can be decoded
- `ArrowFile.cellsOf` — the cells of a column, over all batches
- `ArrowFile.Regular` — every batch has the arrays that the fields say, and dictionaries have texts

## Main statements

- `ArrowArray.HasType.append` — arrays put together have the cells of both
- `ArrowFile.cells_combine` — the parts of a column put together have the cells of all
-/

namespace Tabular

/-- What a file says about a cell. -/
inductive ArrowCell
  | null
  /-- A key that is there, of a text that is not. -/
  | nullText
  | value (v : CellValue)
deriving DecidableEq

namespace ArrowCell

/-- A cell with a place for a value. -/
def ofOption : Option CellValue → ArrowCell
  | none => null
  | some v => value v

/-- A cell with an entry of a dictionary. -/
def ofEntry : Option (Option String) → ArrowCell
  | none => null
  | some none => nullText
  | some (some s) => value (.text s)

/-- A cell with a key into the texts of a dictionary. -/
def ofKey (texts : List (Option String)) (key : Option Nat) : ArrowCell :=
  ofEntry (key.bind (texts[·]?))

theorem ofOption_eq_null_iff {v : Option CellValue} : ofOption v = null ↔ v = none := by
  cases v <;> simp [ofOption]

end ArrowCell

namespace ArrowArray

/-- The cells of an array. Those of a type that no series holds are not told apart. -/
def cells : ArrowArray → List ArrowCell
  | integer _ vs => vs.map fun v => .ofOption (v.map .integer)
  | float w vs => vs.map fun v => .ofOption (v.map (.float w))
  | timestamp vs => vs.map fun v => .ofOption (v.map .instant)
  | utf8 vs => vs.map fun v => .ofOption (v.map .text)
  | dictionary _ ks vs => ks.map (.ofKey vs)
  | foreign _ n => .replicate n .null

theorem length_cells (array : ArrowArray) : array.cells.length = array.length := by
  cases array <;> simp [cells, length]

/-- The arrays of a type. The keys of a dictionary point at its texts. -/
inductive HasType : ArrowArray → ArrowType → Prop
  | integer (w : IntegerWidth) (vs : List (Option Int)) : HasType (.integer w vs) (.integer w)
  | float (w : FloatWidth) (vs : List (Option (Floating w))) : HasType (.float w vs) (.float w)
  | timestamp (vs : List (Option Int)) : HasType (.timestamp vs) (.timestamp .nanosecond none)
  | utf8 (vs : List (Option String)) : HasType (.utf8 vs) .utf8
  | dictionary (key : IntegerWidth) (ks : List (Option Nat)) (vs : List (Option String))
      (h : ∀ k, some k ∈ ks → k < vs.length) :
      HasType (.dictionary key ks vs) (.dictionary key .utf8)
  | foreign (type : ArrowType) (n : Nat) (h : empty type = .foreign type 0) :
      HasType (.foreign type n) type

namespace HasType

/-- The keys of the right one of two dictionaries put together point at the texts of its own. -/
theorem ofKey_append_right {vs ws : List (Option String)} (k : Option Nat) :
    ArrowCell.ofKey (vs ++ ws) (k.map (vs.length + ·)) = ArrowCell.ofKey ws k := by
  cases k with
  | none => rfl
  | some k =>
    show ArrowCell.ofEntry (vs ++ ws)[vs.length + k]? = ArrowCell.ofEntry ws[k]?
    rw [List.getElem?_append_right (Nat.le_add_right _ _), Nat.add_sub_cancel_left]

theorem ofKey_append_left {vs ws : List (Option String)} {k : Option Nat}
    (h : ∀ i, k = some i → i < vs.length) :
    ArrowCell.ofKey (vs ++ ws) k = ArrowCell.ofKey vs k := by
  cases k with
  | none => rfl
  | some k =>
    show ArrowCell.ofEntry (vs ++ ws)[k]? = ArrowCell.ofEntry vs[k]?
    rw [List.getElem?_append_left (h k rfl)]

/-- Dictionaries put together are one with the cells of both. -/
theorem append_dictionary {key : IntegerWidth} {ks ls : List (Option Nat)}
    {vs ws : List (Option String)} (hks : ∀ k, some k ∈ ks → k < vs.length)
    (hls : ∀ l, some l ∈ ls → l < ws.length) :
    HasType ((ArrowArray.dictionary key ks vs).append (.dictionary key ls ws))
        (.dictionary key .utf8) ∧
      ((ArrowArray.dictionary key ks vs).append (.dictionary key ls ws)).cells =
        (ArrowArray.dictionary key ks vs).cells ++ (ArrowArray.dictionary key ls ws).cells := by
  rw [append]
  split
  · next heq =>
    subst heq
    refine ⟨.dictionary key _ _ fun k hk => ?_, List.map_append⟩
    exact (List.mem_append.1 hk).elim (hks k) (hls k)
  · constructor
    · refine .dictionary key _ _ fun k hk => ?_
      rw [List.length_append]
      rcases List.mem_append.1 hk with hk | hk
      · have hlt := hks k hk
        omega
      · obtain ⟨l, hl, hlk⟩ := List.mem_map.1 hk
        obtain ⟨i, rfl, rfl⟩ := Option.map_eq_some_iff.1 hlk
        have hlt := hls i hl
        omega
    · simp only [cells, List.map_append, List.map_map]
      congr 1
      · exact List.map_congr_left fun k hk => ofKey_append_left fun i hi => hks i (hi ▸ hk)
      · exact List.map_congr_left fun k _ => ofKey_append_right k

/-- Arrays of a type put together are one of that type, with the cells of both. -/
theorem append {a b : ArrowArray} {type : ArrowType} (ha : HasType a type) (hb : HasType b type) :
    HasType (a.append b) type ∧ (a.append b).cells = a.cells ++ b.cells := by
  cases ha with
  | integer w vs =>
    cases hb with
    | integer _ ws => exact ⟨.integer w (vs ++ ws), List.map_append⟩
    | foreign _ n h => cases h
  | float w vs =>
    cases hb with
    | float _ ws => cases w <;> exact ⟨.float _ (vs ++ ws), List.map_append⟩
    | foreign _ n h => cases h
  | timestamp vs =>
    cases hb with
    | timestamp ws => exact ⟨.timestamp (vs ++ ws), List.map_append⟩
    | foreign _ n h => cases h
  | utf8 vs =>
    cases hb with
    | utf8 ws => exact ⟨.utf8 (vs ++ ws), List.map_append⟩
    | foreign _ n h => cases h
  | dictionary key ks vs hks =>
    cases hb with
    | dictionary _ ls ws hls => exact append_dictionary hks hls
    | foreign _ n h => cases h
  | foreign _ n h =>
    cases hb with
    | foreign _ m _ => exact ⟨.foreign type (n + m) h, List.replicate_append_replicate.symm⟩
    | _ => cases h

end HasType

/-- A dictionary has texts. -/
def HasTexts : ArrowArray → Prop
  | dictionary _ _ vs => vs ≠ []
  | integer .. | float .. | timestamp .. | utf8 .. | foreign .. => True

theorem cells_empty (type : ArrowType) : (empty type).cells = [] := by
  rw [← List.length_eq_zero_iff, length_cells, empty.eq_def]
  split <;> rfl

end ArrowArray

namespace ArrowFile

/-- The cells of a column, over all batches. -/
def cellsOf (f : ArrowFile) (index : Nat) : List ArrowCell :=
  (f.batches.filterMap (·.arrays[index]?)).flatMap ArrowArray.cells

/-- Every batch has an array for each field, of its type, and no dictionary is without texts. -/
structure Regular (f : ArrowFile) : Prop where
  typed : ∀ batch ∈ f.batches,
    List.Forall₂ (fun field array => array.HasType field.type) f.fields batch.arrays
  filled : ∀ column ∈ f.columns, column.2.HasTexts

/-- The parts of a column put together have the cells of all. -/
theorem cells_combine {type : ArrowType} {parts : List ArrowArray}
    (h : ∀ array ∈ parts, array.HasType type) :
    (combine type parts).cells = parts.flatMap ArrowArray.cells := by
  cases parts with
  | nil => exact ArrowArray.cells_empty type
  | cons first rest =>
    obtain ⟨hfirst, hrest⟩ := List.forall_mem_cons.1 h
    rw [combine, List.flatMap_cons]
    clear h
    -- what was put together so far is of the type, whatever its cells are
    induction rest generalizing first with
    | nil => rw [List.foldl_nil, List.flatMap_nil, List.append_nil]
    | cons next rest ih =>
      obtain ⟨hnext, hrest⟩ := List.forall_mem_cons.1 hrest
      obtain ⟨hboth, hcells⟩ := hfirst.append hnext
      rw [List.foldl_cons, ih (first.append next) hboth hrest, hcells, List.flatMap_cons,
        List.append_assoc]

/-- The column of a field has the cells of its parts. -/
theorem cells_of_columns {f : ArrowFile} {index : Nat} {column : String × ArrowArray}
    (h : f.Regular) (hcolumn : f.columns[index]? = some column) :
    column.2.cells = f.cellsOf index := by
  rw [columns, List.getElem?_map, Option.map_eq_some_iff] at hcolumn
  obtain ⟨⟨field, i⟩, hfield, rfl⟩ := hcolumn
  rw [List.getElem?_zipIdx, Option.map_eq_some_iff] at hfield
  obtain ⟨field', hfield', heq⟩ := hfield
  obtain ⟨rfl, rfl⟩ : field' = field ∧ 0 + index = i := by simpa using heq
  rw [Nat.zero_add]
  refine cells_combine fun array hmem => ?_
  obtain ⟨batch, hbatch, harray⟩ := List.mem_filterMap.1 hmem
  obtain ⟨hlt, rfl⟩ := List.getElem?_eq_some_iff.1 hfield'
  obtain ⟨hlt', rfl⟩ := List.getElem?_eq_some_iff.1 harray
  exact (List.forall₂_iff_get.1 (h.typed batch hbatch)).2 index hlt hlt'

theorem map_fst_columns (f : ArrowFile) : f.columns.map Prod.fst = f.names := by
  rw [columns, List.map_map, names]
  refine List.ext_getElem? fun i => ?_
  simp only [List.getElem?_map, List.getElem?_zipIdx, Option.map_map]
  rfl

end ArrowFile

end Tabular
