import Mathlib.Data.List.Destutter
import Tabular.Proofs.Table.Compaction
import Tabular.Proofs.Text.Insertion

/-!
# Texts that are encoded are decoded again

The texts that are there are sorted, and one that comes right after an equal one is left out. An
index is made of what remains, in which the code of every category is written down as an integer of
32 bits, and the texts are looked up in it. As long as the last category still has such a number,
this encodes as `Categorical.ofValues` does, where the categories are put together by insertion and
a code is the place of a category. What is encoded is decoded to what it was, and it can be stored.

## Main definitions

- `Categorical.sortedDistinct` — texts sorted and without repetitions
- `Categorical.entries`, `Categorical.indexOf` — the codes of categories, and the index of them
- `Categorical.encode` — texts encoded by sorting and an index
- `Categorical.Encodes` — what it means to encode texts

## Main statements

- `Categorical.encode_eq` — sorting and an index encode as insertion and places do
- `Categorical.values_ofValues` — the cells are decoded to what was encoded
- `Categorical.storable_ofValues` — what is encoded can be stored
- `Categorical.ofValues_encodes` — texts are encoded
-/

namespace Tabular

namespace Categorical

variable {s t : String} {texts categories : List String} {values : List (Option String)}

/-! ### Distinct texts -/

theorem mem_distinct : s ∈ distinct texts ↔ s ∈ texts := by
  have hfold : ∀ sorted, s ∈ texts.foldl (fun ts s => insertDistinct s ts) sorted ↔
      s ∈ texts ∨ s ∈ sorted := by
    induction texts with
    | nil => simp
    | cons t rest ih =>
      intro sorted
      rw [List.foldl_cons, ih, mem_insertDistinct, List.mem_cons, or_assoc, or_left_comm]
  rw [distinct, hfold]
  simp

theorem sortedLT_distinct (texts : List String) : (distinct texts).SortedLT :=
  List.Pairwise.sortedLT <|
    List.foldlRecOn texts _ .nil fun _ h s _ => pairwise_insertDistinct h s

theorem nodup_distinct (texts : List String) : (distinct texts).Nodup :=
  (sortedLT_distinct texts).nodup

/-- There are as many distinct texts as remain without repetitions. -/
theorem length_distinct (texts : List String) : (distinct texts).length = texts.dedup.length := by
  refine List.Perm.length_eq ?_
  refine (List.perm_ext_iff_of_nodup (nodup_distinct texts) texts.nodup_dedup).2 fun s => ?_
  rw [mem_distinct, List.mem_dedup]

/-! ### Sorting -/

/-- Texts sorted and without repetitions. -/
def sortedDistinct (texts : List String) : List String :=
  (texts.mergeSort (· ≤ ·)).destutter (· ≠ ·)

/-- Of equal texts that come one after another one remains. -/
theorem mem_destutter'_of_mem (h : s ∈ t :: texts) : s ∈ texts.destutter' (· ≠ ·) t := by
  induction texts generalizing t with
  | nil => exact h
  | cons u rest ih =>
    by_cases heq : t = u
    · subst heq
      rw [List.destutter'_cons_neg _ (not_not.2 rfl)]
      exact ih (by simpa using h)
    · rw [List.destutter'_cons_pos _ heq]
      rcases List.mem_cons.1 h with rfl | h
      · exact List.mem_cons_self
      · exact List.mem_cons_of_mem _ (ih h)

theorem mem_sortedDistinct : s ∈ sortedDistinct texts ↔ s ∈ texts := by
  have hperm := List.mergeSort_perm texts (· ≤ ·)
  rw [sortedDistinct, ← hperm.mem_iff]
  generalize texts.mergeSort (· ≤ ·) = sorted
  refine ⟨fun h => (List.destutter_sublist _ _).mem h, fun h => ?_⟩
  cases sorted with
  | nil => exact h
  | cons t rest => exact mem_destutter'_of_mem h

theorem sortedLT_sortedDistinct (texts : List String) : (sortedDistinct texts).SortedLT := by
  have hle : (sortedDistinct texts).Pairwise (· ≤ ·) :=
    (List.sortedLE_mergeSort (l := texts)).pairwise.sublist (List.destutter_sublist _ _)
  have hne := List.isChain_destutter (· ≠ ·) (texts.mergeSort (· ≤ ·))
  refine List.IsChain.sortedLT (List.isChain_iff_getElem.2 fun i hi => ?_)
  exact lt_of_le_of_ne (List.pairwise_iff_getElem.1 hle i (i + 1) _ hi (Nat.lt_succ_self i))
    (List.isChain_iff_getElem.1 hne i hi)

/-- Sorting leaves the list that insertion leaves. -/
theorem sortedDistinct_eq (texts : List String) : sortedDistinct texts = distinct texts :=
  (sortedLT_sortedDistinct texts).eq_of_mem_iff (sortedLT_distinct texts) fun _ =>
    mem_sortedDistinct.trans mem_distinct.symm

/-! ### Codes -/

/-- The code of a category is its place. -/
theorem codeOf_eq (hnodup : categories.Nodup) {place : Nat} (h : categories[place]? = some s) :
    codeOf categories (some s) = place := by
  obtain ⟨hplace, hs⟩ := List.getElem?_eq_some_iff.1 h
  have hfirst : categories.idxOf? s = some place := by
    refine List.idxOf?_eq_some_iff.2 ⟨hplace, hs, fun i hi heq => Nat.ne_of_lt hi ?_⟩
    exact hnodup.getElem_inj_iff.1 (heq.trans hs.symm)
  rw [codeOf, hfirst]
  rfl

/-- A text that is none of the categories has the code of no text. -/
theorem codeOf_eq_neg_one (h : s ∉ categories) : codeOf categories (some s) = -1 := by
  rw [codeOf, List.idxOf?_eq_none_iff.2 h]
  rfl

theorem categoryAt_codeOf (hnodup : categories.Nodup) {value : Option String}
    (h : ∀ s, value = some s → s ∈ categories) :
    categoryAt categories (codeOf categories value) = value := by
  cases value with
  | none => rfl
  | some s =>
    obtain ⟨place, hplace⟩ := List.mem_iff_getElem?.1 (h s rfl)
    rw [codeOf_eq hnodup hplace, categoryAt, if_pos (Int.natCast_nonneg place), Int.toNat_natCast,
      hplace]

/-- A code is -1 or the place of a category. -/
theorem codeOf_range (hnodup : categories.Nodup) (value : Option String) :
    -1 ≤ codeOf categories value ∧ codeOf categories value < categories.length := by
  cases value with
  | none => exact ⟨Int.le_refl _, by rw [codeOf]; omega⟩
  | some s =>
    by_cases hmem : s ∈ categories
    · obtain ⟨place, hplace⟩ := List.mem_iff_getElem?.1 hmem
      obtain ⟨hlt, -⟩ := List.getElem?_eq_some_iff.1 hplace
      rw [codeOf_eq hnodup hplace]
      omega
    · rw [codeOf_eq_neg_one hmem]
      omega

/-- The codes of categories, which are their places as integers of 32 bits. -/
def entries (categories : List String) : List (String × Int) :=
  categories.zipIdx.map fun entry => (entry.1, wordOf entry.2)

/-- The index in which codes are looked up. -/
def indexOf (categories : List String) : Std.HashMap String Int := .ofList (entries categories)

theorem map_fst_entries (categories : List String) :
    (entries categories).map Prod.fst = categories := by
  rw [entries, List.map_map]
  exact List.zipIdx_map_fst 0 categories

theorem pairwise_entries (hnodup : categories.Nodup) :
    (entries categories).Pairwise fun a b => (a.1 == b.1) = false := by
  have hdistinct : categories.Pairwise fun a b => (a == b) = false :=
    hnodup.imp fun hne => beq_false_of_ne hne
  rwa [← map_fst_entries categories, List.pairwise_map] at hdistinct

/-- While the places of categories are words, the index holds them. -/
theorem getElem?_indexOf (hnodup : categories.Nodup) (hlength : categories.length ≤ 0x8000_0000)
    (s : String) : ((indexOf categories)[s]?).getD (-1) = codeOf categories (some s) := by
  by_cases hmem : s ∈ categories
  · obtain ⟨place, hplace⟩ := List.mem_iff_getElem?.1 hmem
    obtain ⟨hlt, -⟩ := List.getElem?_eq_some_iff.1 hplace
    have hentry : (s, wordOf place) ∈ entries categories :=
      List.mem_map.2 ⟨(s, place), List.mem_zipIdx_iff_getElem?.2 hplace, rfl⟩
    rw [indexOf, Std.HashMap.getElem?_ofList_of_mem (beq_self_eq_true s)
      (pairwise_entries hnodup) hentry, Option.getD_some, wordOf_eq (by omega),
      codeOf_eq hnodup hplace]
  · have hnone : ((entries categories).map Prod.fst).contains s = false := by
      rwa [map_fst_entries, ← Bool.not_eq_true, List.contains_iff_mem]
    rw [indexOf, Std.HashMap.getElem?_ofList_of_contains_eq_false hnone, Option.getD_none,
      codeOf_eq_neg_one hmem]

/-! ### Texts are encoded -/

/-- Encodes texts by sorting and an index. -/
def encode (values : List (Option String)) : Categorical :=
  let categories := sortedDistinct (values.filterMap id)
  let index := indexOf categories
  ⟨values.map fun value => (value.bind (index[·]?)).getD (-1), categories⟩

/-- While the places of categories are words, sorting and an index encode as insertion and places
do. -/
theorem encode_eq (h : (ofValues values).categories.length ≤ 0x8000_0000) :
    encode values = ofValues values := by
  rw [encode, sortedDistinct_eq]
  refine congrArg (Categorical.mk · _) (List.map_congr_left fun value _ => ?_)
  cases value with
  | none => rfl
  | some s => exact getElem?_indexOf (nodup_distinct _) h s

theorem mem_categories_ofValues : s ∈ (ofValues values).categories ↔ some s ∈ values := by
  rw [ofValues, mem_distinct]
  simp

/-- The cells are decoded to what was encoded. -/
theorem values_ofValues (values : List (Option String)) : (ofValues values).values = values := by
  rw [Categorical.values, ofValues, List.map_map]
  refine (List.map_congr_left fun value hvalue => ?_).trans (List.map_id values)
  refine categoryAt_codeOf (nodup_distinct _) fun s hs => ?_
  exact mem_categories_ofValues.2 (hs ▸ hvalue)

/-- What is encoded can be stored. -/
theorem storable_ofValues (values : List (Option String)) :
    (Cells.category (ofValues values)).Storable := by
  have hnodup := nodup_distinct (values.filterMap id)
  refine ⟨hnodup, List.forall_mem_map.2 fun value _ => codeOf_range hnodup value,
    fun index hindex => ?_⟩
  -- the category is the text of a row, and that row has its code
  have hget := List.getElem?_eq_getElem hindex
  have hvalue := mem_categories_ofValues.1 (List.getElem_mem hindex)
  exact List.mem_map.2 ⟨_, hvalue, codeOf_eq hnodup hget⟩

/-- Texts are encoded: there is a code for each, a row is decoded to its text, the categories are
the texts in increasing order, and a table of these cells alone can be stored under every name that
is not empty. -/
structure Encodes (values : List (Option String)) (c : Categorical) : Prop where
  length_eq : c.codes.length = values.length
  words : ∀ code ∈ c.codes, IsWord code
  get?_eq : ∀ row, c.get? row = values[row]?.join
  increasing : c.categories.SortedLT
  mem_categories : ∀ s, s ∈ c.categories ↔ some s ∈ values
  checked : ∀ name, name ≠ "" →
    ∃ t, Table.ofColumns [⟨name, .category c⟩] = .ok t ∧ t.checkStorage = .ok ()

/-- Texts of which fewer are distinct than there are words that are not negative are encoded. -/
theorem ofValues_encodes (h : (values.filterMap id).dedup.length < 0x8000_0000) :
    encode values = ofValues values ∧ Encodes values (ofValues values) := by
  have hlength : (ofValues values).categories.length < 0x8000_0000 :=
    Nat.lt_of_le_of_lt (Nat.le_of_eq (length_distinct _)) h
  have hstorable := storable_ofValues values
  refine ⟨encode_eq (Nat.le_of_lt hlength), List.length_map _, fun code hcode => ?_,
    fun row => ?_, sortedLT_distinct _, fun s => mem_categories_ofValues, fun name hname => ?_⟩
  · obtain ⟨hlower, hupper⟩ := hstorable.2.1 code hcode
    exact ⟨by omega, by omega⟩
  · rw [get?_eq, values_ofValues]
  · have haligned : Aligned [⟨name, .category (ofValues values)⟩] :=
      .of_forall (List.forall_mem_singleton.2 rfl)
    refine ⟨_, Table.ofColumns_of_aligned haligned, (Table.checkStorage_eq_ok_iff _).2 ?_⟩
    exact ⟨List.forall_mem_singleton.2 hname, List.nodup_singleton _,
      List.forall_mem_singleton.2 hstorable⟩

/-- A text that comes twice, a row without one, and a text that stands in front of one that came
before. -/
def unsorted : List (Option String) := [some "b", none, some "a", some "b"]

theorem ofValues_encodes_unsorted : (unsorted.filterMap id).dedup.length < 0x8000_0000 ∧
    encode unsorted = ofValues unsorted ∧ Encodes unsorted (ofValues unsorted) ∧
    ofValues unsorted = ⟨[1, -1, 0, 1], ["a", "b"]⟩ := by
  have hlength : (unsorted.filterMap id).dedup.length < 0x8000_0000 := by decide
  obtain ⟨hencode, hencodes⟩ := ofValues_encodes hlength
  exact ⟨hlength, hencode, hencodes, by decide⟩

end Categorical

end Tabular
