import Mathlib.Logic.Function.Basic
import Tabular.Proofs.Files.Siblings
import Tabular.Proofs.Files.Staging

/-!
# Folders of files

A directory that holds nothing but files under names of a known kind is told by the contents of these
files. A call on one of the files changes that one content, and a rename two of them; whatever else
leads through the tree is as before, since the way to the directory is kept.

## Main definitions

- `Path.Fits` — a path and a name are short enough to be looked up
- `IsNaming` — names of files, a different one for each index
- `FileTree.Holds` — a directory has files with given contents, and nothing else

## Main statements

- `FileTree.Holds.fileSlot`, `FileTree.Holds.removable`, `FileTree.Holds.route` — where the calls lead
- `Disk.append_meets`, `Disk.write_meets`, `Disk.rename_meets`, `Disk.remove_meets` — what a call
  leaves, and that it succeeds unless the disk refuses it or a name does not fit
-/

namespace Tabular

/-- The name can be looked up in a directory at the path. -/
def Path.Fits (p : Path) (name : String) : Prop :=
  (p.join name).check = .ok () ∧ name.utf8ByteSize ≤ longestName

/-- Names of files, a different one for each index. -/
structure IsNaming {ι : Type} (name : ι → String) : Prop where
  injective : Function.Injective name
  plain : ∀ i, Path.IsPlain (name i)

namespace FileTree

variable {α ι : Type} {t u : FileTree α} {p : Path} {place : Location} {name : ι → String}
  {files after : ι → Option α} {i j : ι} {fine : Prop}

/-! ### Ways into a directory -/

theorem edge_join {step : String} (hleads : t.follow p.steps = .ok place)
    (hdir : t.node? place = some .directory) (hstep : Path.IsPlain step)
    (hcheck : (p.join step).check = .ok ()) : t.edge (p.join step) = .ok (place, some step) := by
  rw [edge, Path.steps_join p hstep.ne hstep.noSlash, List.dropLast_concat, List.getLast?_concat]
  refine bind_eq_ok_iff.2 ⟨_, hcheck, bind_eq_ok_iff.2 ⟨_, hleads, ?_⟩⟩
  refine bind_eq_ok_iff.2 ⟨_, checkDirectory_eq_ok_iff.2 hdir, ?_⟩
  rw [Option.filter_some, if_pos hstep.isName]
  rfl

theorem locate_join_eq_ok {step : String} {target : Location}
    (hleads : t.follow p.steps = .ok place) (hstep : Path.IsPlain step)
    (h : t.locate (p.join step) = .ok target) : p.Fits step ∧ target = place ++ [step] := by
  obtain ⟨_, hcheck, hfollow⟩ := bind_eq_ok_iff.1 h
  rw [Path.steps_join p hstep.ne hstep.noSlash, follow, List.foldlM_append] at hfollow
  obtain ⟨way, hway, hfollow⟩ := bind_eq_ok_iff.1 hfollow
  obtain rfl : place = way := Except.ok.inj (hleads.symm.trans hway)
  obtain ⟨_, henter, hend⟩ := bind_eq_ok_iff.1 hfollow
  cases hend
  obtain ⟨-, hchild⟩ := (enter_eq_ok_iff hstep.isName).1 henter
  obtain ⟨hsize, htarget⟩ := child_eq_ok_iff.1 hchild
  exact ⟨⟨hcheck, hsize⟩, htarget⟩

theorem concat_ne_of_ne {a b : String} (h : a ≠ b) : place ++ [a] ≠ place ++ [b] := by
  simpa using h

theorem not_prefix_of_ne {a b : String} (h : a ≠ b) : ¬ place ++ [a] <+: place ++ [b] := by
  intro hbelow
  exact concat_ne_of_ne h (hbelow.eq_of_length (by simp))

theorem isAbove_of_ne {a b : String} (h : a ≠ b) :
    isAbove (place ++ [a]) (place ++ [b]) = false := by
  rw [isAbove, Bool.and_eq_false_iff]
  right
  rw [Bool.eq_false_iff, Ne, List.isPrefixOf_iff_prefix]
  exact not_prefix_of_ne h

/-! ### Directories with files and nothing else -/

/-- A path leads to a directory that has, for each index, the file with that name and content, or
none. Nothing else is in the directory. -/
structure Holds (t : FileTree α) (p : Path) (place : Location) (name : ι → String)
    (files : ι → Option α) : Prop where
  naming : IsNaming name
  leads : t.follow p.steps = .ok place
  directory : t.node? place = some .directory
  node : ∀ i, t.node? (place ++ [name i]) = (files i).map .file
  others : ∀ other, (∀ i, other ≠ name i) → t.node? (place ++ [other]) = none
  fits : ∀ i, (files i).isSome = true → p.Fits (name i)

/-- A path leads to a directory that has nothing in it. -/
def IsEmptyDirectory (t : FileTree α) (p : Path) : Prop :=
  ∃ place, t.follow p.steps = .ok place ∧ t.node? place = some .directory ∧
    ∀ name, t.node? (place ++ [name]) = none

theorem IsEmptyDirectory.exists_holds (h : t.IsEmptyDirectory p) (hname : IsNaming name) :
    ∃ place, t.Holds p place name fun _ => none := by
  obtain ⟨place, hleads, hdir, hnone⟩ := h
  exact ⟨place, hname, hleads, hdir, fun i => hnone (name i), fun other _ => hnone other, nofun⟩

namespace Holds

/-- A way that ends in a name ends in the directory. -/
theorem endsAt (h : t.Holds p place name files) (hfits : p.Fits (name i)) :
    t.EndsAt (p.join (name i)) (place ++ [name i]) :=
  ⟨place, name i, edge_join h.leads h.directory (h.naming.plain i) hfits.1,
    child_eq_ok_iff.2 ⟨hfits.2, rfl⟩⟩

theorem eq_of_endsAt {target : Location} (h : t.Holds p place name files)
    (hends : t.EndsAt (p.join (name i)) target) : p.Fits (name i) ∧ target = place ++ [name i] :=
  locate_join_eq_ok h.leads (h.naming.plain i) hends.locate

theorem endsInSlash (h : t.Holds p place name files) (i : ι) :
    (p.join (name i)).endsInSlash = false :=
  Path.endsInSlash_join p (h.naming.plain i).ne (h.naming.plain i).noSlash

theorem node?_ne_directory (h : t.Holds p place name files) (i : ι) :
    t.node? (place ++ [name i]) ≠ some .directory := by
  rw [h.node i]
  cases files i <;> simp

theorem isSlot (h : t.Holds p place name files) (hfits : p.Fits (name i)) :
    t.IsSlot (p.join (name i)) (place ++ [name i]) :=
  ⟨h.endsAt hfits, h.endsInSlash i, h.node?_ne_directory i⟩

theorem node?_eq_file {content : α} (h : t.Holds p place name files)
    (hi : files i = some content) : t.node? (place ++ [name i]) = some (.file content) := by
  rw [h.node i, hi]
  rfl

theorem find {content : α} (h : t.Holds p place name files) (hi : files i = some content) :
    t.find (p.join (name i)) = .ok (.file content) :=
  (h.isSlot (h.fits i (by simp [hi]))).find (h.node?_eq_file hi)

/-- A file is seen exactly when there is one. -/
theorem hasPath (h : t.Holds p place name files) (i : ι) :
    t.hasPath (p.join (name i)) = (files i).isSome := by
  cases hi : files i with
  | some content =>
    rw [FileTree.hasPath, h.find hi]
    rfl
  | none =>
    cases hfind : t.find (p.join (name i)) with
    | error fault =>
      rw [FileTree.hasPath, hfind]
      rfl
    | ok node =>
      obtain ⟨target, hlocate, hnode⟩ := bind_eq_ok_iff.1 hfind
      obtain ⟨-, rfl⟩ := locate_join_eq_ok h.leads (h.naming.plain i) hlocate
      rw [h.node i, hi] at hnode
      cases hnode

/-! #### Where calls lead -/

/-- A file is put where its name leads. -/
theorem fileSlot (h : t.Holds p place name files) (hfine : fine → p.Fits (name i)) :
    Meets fine (t.fileSlot (p.join (name i))) fun target =>
      target = place ++ [name i] ∧ p.Fits (name i) where
  sound target htarget := by
    obtain ⟨hfits, heq⟩ := h.eq_of_endsAt (isSlot_of_fileSlot htarget).ends
    exact ⟨heq, hfits⟩
  total hyes := ⟨_, (h.isSlot (hfine hyes)).fileSlot⟩

/-- A file that is there is moved from where its name leads to where another one does. -/
theorem route {content : α} (h : t.Holds p place name files) (hij : i ≠ j)
    (hi : files i = some content) (hfine : fine → p.Fits (name j)) :
    Meets fine (t.route (p.join (name i)) (p.join (name j))) fun ends =>
      ends = (place ++ [name i], place ++ [name j]) ∧ p.Fits (name j) where
  sound ends hends := by
    obtain ⟨node, hsource, htarget, -, -, -⟩ := route_eq_ok hends
    obtain ⟨-, horigin⟩ := h.eq_of_endsAt hsource
    obtain ⟨hfits, hgoal⟩ := h.eq_of_endsAt htarget
    exact ⟨Prod.ext horigin hgoal, hfits⟩
  total hyes := by
    have hname : name i ≠ name j := mt (@h.naming.injective i j) hij
    refine ⟨_, (h.isSlot (h.fits i (by simp [hi]))).route (h.node?_eq_file hi)
      (h.isSlot (hfine hyes)) ?_ ?_⟩
    · exact isAbove_of_ne hname
    · exact isAbove_of_ne hname.symm

/-! #### Changes of the files -/

/-- A tree that differs in the files of the directory only has the directory with other files. -/
theorem change (h : t.Holds p place name files)
    (keeps : ∀ other, t.IsReached other → t.node? other = some .directory →
      u.node? other = some .directory)
    (hnode : ∀ i, u.node? (place ++ [name i]) = (after i).map .file)
    (hothers : ∀ other, (∀ i, other ≠ name i) →
      u.node? (place ++ [other]) = t.node? (place ++ [other]))
    (hfits : ∀ i, (after i).isSome = true → p.Fits (name i)) : u.Holds p place name after where
  naming := h.naming
  leads := (follow_of_keeps keeps h.leads).1
  directory := keeps place (follow_of_keeps (fun _ _ hdir => hdir) h.leads).2 h.directory
  node := hnode
  others other hother := (hothers other hother).trans (h.others other hother)
  fits := hfits

variable [DecidableEq ι]

/-- A change at the location of one file. -/
theorem update (h : t.Holds p place name files) {content : Option α}
    (hnode : u.node? (place ++ [name i]) = content.map .file)
    (hsame : ∀ other, other ≠ place ++ [name i] → u.node? other = t.node? other)
    (hfits : content.isSome = true → p.Fits (name i)) :
    u.Holds p place name (Function.update files i content) := by
  refine h.change (fun other _ hdir => ?_) (fun k => ?_) (fun other hother => ?_) fun k hk => ?_
  · rw [hsame other, hdir]
    rintro rfl
    exact h.node?_ne_directory i hdir
  · by_cases hki : k = i
    · rw [hki, Function.update_self, hnode]
    · rw [Function.update_of_ne hki, ← h.node k]
      exact hsame _ (concat_ne_of_ne (mt (@h.naming.injective k i) hki))
  · exact hsame _ (concat_ne_of_ne (hother i))
  · by_cases hki : k = i
    · rw [hki] at hk ⊢
      rw [Function.update_self] at hk
      exact hfits hk
    · rw [Function.update_of_ne hki] at hk
      exact h.fits k hk

theorem put (h : t.Holds p place name files) (hfits : p.Fits (name i)) (content : α) :
    (t.put (place ++ [name i]) (.file content)).Holds p place name
      (Function.update files i (some content)) :=
  h.update (node?_put_self _ (by simp)) (fun _ hne => node?_put_of_ne _ hne) fun _ => hfits

theorem erase (h : t.Holds p place name files) (i : ι) :
    (t.erase (place ++ [name i])).Holds p place name (Function.update files i none) := by
  exact h.update (node?_erase_self (by simp)) (fun _ hne => node?_erase_of_ne hne) (by simp)

theorem move (h : t.Holds p place name files) (hij : i ≠ j) (hfits : p.Fits (name j)) :
    (t.move (place ++ [name i]) (place ++ [name j])).Holds p place name
      (Function.update (Function.update files j (files i)) i none) := by
  have hname : name i ≠ name j := mt (@h.naming.injective i j) hij
  have hi : place ++ [name i] ≠ [] := by simp
  have hj : place ++ [name j] ≠ [] := by simp
  refine h.change (fun other hreached hdir => ?_) (fun k => ?_) (fun other hother => ?_)
    fun k hk => ?_
  · rwa [node?_move_of_not_below (not_prefix_of_isReached hreached hdir (h.node?_ne_directory i))
      (not_prefix_of_isReached hreached hdir (h.node?_ne_directory j))]
  · by_cases hki : k = i
    · rw [hki, Function.update_self]
      exact node?_move_source hi (not_prefix_of_ne hname.symm)
    rw [Function.update_of_ne hki]
    by_cases hkj : k = j
    · rw [hkj, Function.update_self, ← h.node i]
      exact node?_move hi hj (concat_ne_of_ne hname)
    · rw [Function.update_of_ne hkj, ← h.node k]
      exact node?_move_of_not_below (not_prefix_of_ne (mt (@h.naming.injective i k) (Ne.symm hki)))
        (not_prefix_of_ne (mt (@h.naming.injective j k) (Ne.symm hkj)))
  · exact node?_move_of_not_below (not_prefix_of_ne (hother i).symm)
      (not_prefix_of_ne (hother j).symm)
  · by_cases hki : k = i
    · simp [hki] at hk
    rw [Function.update_of_ne hki] at hk
    by_cases hkj : k = j
    · rwa [hkj]
    · rw [Function.update_of_ne hkj] at hk
      exact h.fits k hk

end Holds

end FileTree

namespace Disk

variable {α ι : Type} [DecidableEq ι] {d : Disk α} {p : Path} {place : Location} {name : ι → String}
  {files : ι → Option α} {i j : ι} {fine : Prop}

/-! ### Calls on the files of a directory -/

/-- A call does to the tree what it does, unless the disk refuses it. -/
theorem attempt_meets {call : FileCall} {change : FileTree α → Except FileFault (FileTree α)}
    (post : FileTree α → Prop) (hfine : fine → d.refuses call = none)
    (h : Meets fine (change d.tree) post) :
    Meets fine (d.attempt call change) fun d' => d'.refuses = d.refuses ∧ post d'.tree where
  sound d' hd' := by
    obtain ⟨tree, htree, rfl⟩ := exists_of_attempt hd'
    exact ⟨rfl, h.sound tree htree⟩
  total hyes := by
    obtain ⟨tree, htree⟩ := h.total hyes
    rw [attempt, hfine hyes, htree]
    exact ⟨_, rfl⟩

/-- Opening a file to append to it makes it if it is not there. -/
theorem append_meets (h : d.tree.Holds p place name files) (content : α)
    (hfits : fine → p.Fits (name i))
    (hrefuse : fine → d.refuses (.append (p.join (name i))) = none) :
    Meets fine (d.append (p.join (name i)) content) fun d' => d'.refuses = d.refuses ∧
      d'.tree.Holds p place name (Function.update files i (some ((files i).getD content))) := by
  refine attempt_meets (FileTree.Holds · p place name _) hrefuse ((h.fileSlot hfits).bind ?_)
  rintro _ ⟨rfl, hfits⟩
  apply Meets.ok
  cases hi : files i with
  | some old =>
    rw [h.node?_eq_file hi, Option.isSome_some, if_pos rfl, Option.getD_some, ← hi,
      Function.update_eq_self]
    exact h
  | none =>
    rw [h.node i, hi, if_neg (by simp)]
    exact h.put hfits content

/-- Writing the content of a file replaces the one it had. -/
theorem write_meets {old : α} (h : d.tree.Holds p place name files) (hi : files i = some old)
    (content : α) (hrefuse : fine → d.refuses (.write (p.join (name i))) = none) :
    Meets fine (d.write (p.join (name i)) content) fun d' => d'.refuses = d.refuses ∧
      d'.tree.Holds p place name (Function.update files i (some content)) := by
  have hfits := h.fits i (by simp [hi])
  refine attempt_meets (FileTree.Holds · p place name _) hrefuse ?_
  rw [fill, (h.endsAt hfits).locate, ok_bind, h.node?_eq_file hi]
  exact Meets.ok (h.put hfits content)

/-- Asking for the size of a file changes nothing. -/
theorem measure_meets (post : FileTree α → Prop) (h : post d.tree)
    (hrefuse : fine → d.refuses (.measure p) = none) :
    Meets fine (d.measure p) fun d' => d'.refuses = d.refuses ∧ post d'.tree :=
  attempt_meets post hrefuse (Meets.ok h)

/-- Removing a file that is there takes it away. -/
theorem remove_meets {content : α} (h : d.tree.Holds p place name files)
    (hi : files i = some content) (hrefuse : fine → d.refuses (.remove (p.join (name i))) = none) :
    Meets fine (d.remove (p.join (name i))) fun d' => d'.refuses = d.refuses ∧
      d'.tree.Holds p place name (Function.update files i none) := by
  refine attempt_meets (FileTree.Holds · p place name _) hrefuse ?_
  rw [(h.isSlot (h.fits i (by simp [hi]))).removable (h.node?_eq_file hi)]
  exact Meets.ok (h.erase i)

/-- Renaming a file that is there moves its content. -/
theorem rename_meets {content : α} (h : d.tree.Holds p place name files) (hij : i ≠ j)
    (hi : files i = some content) (hfits : fine → p.Fits (name j))
    (hrefuse : fine → d.refuses (.rename (p.join (name i)) (p.join (name j))) = none) :
    Meets fine (d.rename (p.join (name i)) (p.join (name j))) fun d' => d'.refuses = d.refuses ∧
      d'.tree.Holds p place name
        (Function.update (Function.update files j (files i)) i none) := by
  refine attempt_meets (FileTree.Holds · p place name _) hrefuse
    ((h.route hij hi hfits).bind ?_)
  rintro _ ⟨rfl, hfits⟩
  apply Meets.ok
  rw [if_neg (FileTree.concat_ne_of_ne (mt (@h.naming.injective i j) hij))]
  exact h.move hij hfits

end Disk

end Tabular
