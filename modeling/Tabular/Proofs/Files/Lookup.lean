import Tabular.Proofs.Files.Folder

/-!
# Files that are found

Where a path leads is told by its steps alone: a tree only decides whether the way is open. So paths
to two names below the same path lead to neighbours, in whatever trees they are followed, and what
becomes of a file can be told at its location, whether its path can be followed in between or not.

## Main definitions

- `FileTree.KeepsFiles` — what is found as a file in a tree is found in another one

## Main statements

- `FileTree.follow_unique` — steps lead to one location only, over all trees
- `FileTree.find_eq_file_iff` — when a path leads to a file
- `Disk.append_eq_ok`, `Disk.write_eq_ok`, `Disk.remove_eq_ok`, `Disk.rename_eq_ok` — what a call has
  done
- `Disk.keepsFiles_makeDirectories` — no file is lost when directories are made
-/

namespace Tabular

namespace FileTree

variable {α : Type} {t u v : FileTree α} {p q : Path} {place other target : Location}

/-! ### Locations of paths -/

theorem enter_unique {step : String} (ht : t.enter place step = .ok target)
    (hu : u.enter place step = .ok other) : target = other := by
  rw [enter] at ht hu
  obtain ⟨_, -, ht⟩ := bind_eq_ok_iff.1 ht
  obtain ⟨_, -, hu⟩ := bind_eq_ok_iff.1 hu
  exact Except.ok.inj (ht.symm.trans hu)

/-- Steps lead to the same location in all trees in which they can be taken. -/
theorem follow_unique {steps : List String} (ht : t.follow steps = .ok target)
    (hu : u.follow steps = .ok other) : target = other := by
  suffices ∀ start, steps.foldlM t.enter start = .ok target →
      steps.foldlM u.enter start = .ok other → target = other from this [] ht hu
  clear ht hu
  induction steps with
  | nil =>
    intro start ht hu
    exact Except.ok.inj (ht.symm.trans hu)
  | cons step steps ih =>
    intro start ht hu
    rw [List.foldlM_cons] at ht hu
    obtain ⟨next, hnext, ht⟩ := bind_eq_ok_iff.1 ht
    obtain ⟨next', hnext', hu⟩ := bind_eq_ok_iff.1 hu
    obtain rfl := enter_unique hnext hnext'
    exact ih next ht hu

theorem exists_follow_of_locate_join {step : String} (hstep : Path.IsPlain step)
    (h : t.locate (p.join step) = .ok target) :
    ∃ place, t.follow p.steps = .ok place ∧ target = place ++ [step] := by
  obtain ⟨_, -, hfollow⟩ := bind_eq_ok_iff.1 h
  rw [Path.steps_join p hstep.ne hstep.noSlash, follow, List.foldlM_append] at hfollow
  obtain ⟨place, hplace, -⟩ := bind_eq_ok_iff.1 hfollow
  exact ⟨place, hplace, (locate_join_eq_ok hplace hstep h).2⟩

/-- A name below a path leads to the name in the directory of the path, in whatever tree. -/
theorem eq_of_locate_join {step : String} (hplace : t.follow p.steps = .ok place)
    (hstep : Path.IsPlain step) (h : u.locate (p.join step) = .ok target) :
    target = place ++ [step] := by
  obtain ⟨place', hplace', rfl⟩ := exists_follow_of_locate_join hstep h
  rw [follow_unique hplace hplace']

/-! ### What a path finds -/

/-- A path leads to a file at its location, unless it ends as that of a directory does. -/
theorem find_eq_file_iff {content : α} : t.find p = .ok (.file content) ↔
    ∃ place, t.locate p = .ok place ∧ t.node? place = some (.file content) ∧
      p.endsInSlash = false := by
  rw [find]
  constructor
  · intro h
    obtain ⟨place, hplace, h⟩ := bind_eq_ok_iff.1 h
    refine ⟨place, hplace, ?_⟩
    split at h
    · cases h
    · next hfile =>
      split at h
      · cases h
      · next hslash =>
        cases h
        exact ⟨hfile, by simpa using hslash⟩
    · cases h
  · rintro ⟨place, hplace, hfile, hslash⟩
    refine bind_eq_ok_iff.2 ⟨place, hplace, ?_⟩
    simp [hfile, hslash, pure, Except.pure]

/-- What is found as a file in a tree is found in another one. -/
def KeepsFiles (t u : FileTree α) : Prop :=
  ∀ p content, t.find p = .ok (.file content) → u.find p = .ok (.file content)

theorem KeepsFiles.refl (t : FileTree α) : t.KeepsFiles t := fun _ _ h => h

theorem KeepsFiles.trans (h : t.KeepsFiles u) (h' : u.KeepsFiles v) : t.KeepsFiles v :=
  fun p content hfind => h' p content (h p content hfind)

/-- What is put at a free location covers nothing. -/
theorem keepsFiles_put (hfree : t.node? place = none) (node : FileNode α) :
    t.KeepsFiles (t.put place node) := by
  have hne : ∀ other node', t.node? other = some node' → other ≠ place := by
    rintro other node' hother rfl
    simp [hfree] at hother
  intro p content hfind
  obtain ⟨target, htarget, hfile, hslash⟩ := find_eq_file_iff.1 hfind
  refine find_eq_file_iff.2 ⟨target, locate_of_keeps (fun way _ hdir => ?_) htarget, ?_, hslash⟩
  · rwa [node?_put_of_ne node (hne way _ hdir)]
  · rwa [node?_put_of_ne node (hne target _ hfile)]

/-- A file that is written over a file changes what is found at its own location only. -/
theorem find_put_of_ne {old new : α} (hold : t.node? place = some (.file old))
    (hne : t.locate q ≠ .ok place) : (t.put place (.file new)).find q = t.find q := by
  rw [find, find, locate_put_file hold]
  cases htarget : t.locate q with
  | error fault => rfl
  | ok target =>
    have htargetNe : target ≠ place := by
      rintro rfl
      exact hne htarget
    rw [ok_bind, ok_bind, node?_put_of_ne _ htargetNe]

/-- A directory is made where nothing stands. -/
theorem node?_of_directorySlot (h : t.directorySlot p = .ok place) : t.node? place = none := by
  rw [directorySlot] at h
  obtain ⟨⟨above, name?⟩, -, h⟩ := bind_eq_ok_iff.1 h
  cases name? with
  | none => cases h
  | some name =>
    obtain ⟨target, -, h⟩ := bind_eq_ok_iff.1 h
    split at h
    · cases h
    · next hfree =>
      cases h
      exact Option.not_isSome_iff_eq_none.1 hfree

end FileTree

namespace Disk

open FileTree (KeepsFiles)

variable {α : Type} {d d' : Disk α} {p q : Path} {content : α} {t : FileTree α} {place : Location}
  {a b : String}

/-! ### What calls have done -/

/-- A file that is opened to append to it has what it had, or the first content. -/
theorem append_eq_ok (h : d.append p content = .ok d') :
    ∃ target found, d.tree.IsSlot p target ∧ d'.tree.find p = .ok (.file found) ∧
      (d.tree.node? target = some (.file found) ∨
        d.tree.node? target = none ∧ found = content) ∧ d.tree.KeepsFiles d'.tree := by
  obtain ⟨tree, htree, rfl⟩ := exists_of_attempt h
  obtain ⟨target, htarget, htree⟩ := bind_eq_ok_iff.1 htree
  have hslot := FileTree.isSlot_of_fileSlot htarget
  obtain rfl := Except.ok.inj htree
  cases hnode : d.tree.node? target with
  | none =>
    have hfile : (d.tree.put target (.file content)).node? target = some (.file content) :=
      FileTree.node?_put_self _ hslot.ends.ne_nil
    have hslot' : (d.tree.put target (.file content)).IsSlot p target :=
      hslot.of_sameOff (FileTree.SameOff.put rfl _) hfile
    exact ⟨target, content, hslot, hslot'.find hfile, .inr ⟨hnode, rfl⟩,
      FileTree.keepsFiles_put hnode _⟩
  | some node =>
    cases node with
    | directory => exact absurd hnode hslot.free
    | file found => exact ⟨target, found, hslot, hslot.find hnode, .inl hnode, .refl _⟩

theorem measure_eq_ok (h : d.measure p = .ok d') : d' = d := by
  obtain ⟨tree, htree, rfl⟩ := exists_of_attempt h
  cases htree
  rfl

/-- A file that is written has the content it was given, and nothing else changes. -/
theorem write_eq_ok {old : α} (h : d.write p content = .ok d')
    (hold : d.tree.find p = .ok (.file old)) :
    d'.tree.find p = .ok (.file content) ∧
      ∀ q, (∀ place, d.tree.locate p = .ok place → d.tree.locate q ≠ .ok place) →
        d'.tree.find q = d.tree.find q := by
  obtain ⟨place, hplace, hfile, hslash⟩ := FileTree.find_eq_file_iff.1 hold
  obtain ⟨tree, htree, rfl⟩ := exists_of_attempt h
  obtain ⟨target, _, htarget, -, rfl⟩ := fill_eq_ok_iff.1 htree
  obtain rfl : place = target := Except.ok.inj (hplace.symm.trans htarget)
  constructor
  · refine FileTree.find_eq_file_iff.2 ⟨place, ?_, FileTree.node?_put_self _
      (FileTree.ne_nil_of_node?_eq_file hfile), hslash⟩
    rw [FileTree.locate_put_file hfile, hplace]
  · intro q hq
    exact FileTree.find_put_of_ne hfile (hq place hplace)

/-- A file that is there is written unless the disk refuses it. -/
theorem exists_write {old : α} (hold : d.tree.find p = .ok (.file old))
    (hrefuse : d.refuses (.write p) = none) (content : α) : ∃ d', d.write p content = .ok d' := by
  obtain ⟨place, hplace, hfile, -⟩ := FileTree.find_eq_file_iff.1 hold
  rw [write, attempt, hrefuse]
  dsimp only
  rw [fill_eq_ok_iff.2 ⟨place, old, hplace, hfile, rfl⟩]
  exact ⟨_, rfl⟩

theorem remove_eq_ok (h : d.remove p = .ok d') :
    ∃ target, d.tree.EndsAt p target ∧ d'.tree = d.tree.erase target := by
  obtain ⟨tree, htree, rfl⟩ := exists_of_attempt h
  obtain ⟨target, htarget, rfl⟩ := map_eq_ok_iff.1 htree
  exact ⟨target, (FileTree.isSlot_of_removable htarget).1.ends, rfl⟩

theorem rename_eq_ok (h : d.rename p q = .ok d') :
    ∃ origin goal, d.tree.EndsAt p origin ∧ d.tree.EndsAt q goal ∧
      d'.tree = if origin = goal then d.tree else d.tree.move origin goal := by
  obtain ⟨tree, htree, rfl⟩ := exists_of_attempt h
  obtain ⟨⟨origin, goal⟩, hroute, htree⟩ := bind_eq_ok_iff.1 htree
  obtain ⟨node, hsource, htarget, -⟩ := FileTree.route_eq_ok hroute
  exact ⟨origin, goal, hsource, htarget, (Except.ok.inj htree).symm⟩

/-- A file in a directory is removed at its name there. -/
theorem remove_join_eq_ok (hplace : t.follow p.steps = .ok place) (ha : Path.IsPlain a)
    (h : d.remove (p.join a) = .ok d') : d'.tree = d.tree.erase (place ++ [a]) := by
  obtain ⟨target, hends, htree⟩ := remove_eq_ok h
  rw [htree, FileTree.eq_of_locate_join hplace ha hends.locate]

/-- What is renamed within a directory is moved from its old name there to its new one. -/
theorem rename_join_eq_ok (hplace : t.follow p.steps = .ok place) (ha : Path.IsPlain a)
    (hb : Path.IsPlain b) (hne : a ≠ b) (h : d.rename (p.join a) (p.join b) = .ok d') :
    d'.tree = d.tree.move (place ++ [a]) (place ++ [b]) := by
  obtain ⟨origin, goal, hsource, htarget, htree⟩ := rename_eq_ok h
  obtain rfl := FileTree.eq_of_locate_join hplace ha hsource.locate
  obtain rfl := FileTree.eq_of_locate_join hplace hb htarget.locate
  rw [htree, if_neg (FileTree.concat_ne_of_ne hne)]

/-! ### Directories that are made -/

theorem keepsFiles_ensureDirectory (h : d.ensureDirectory p = .ok d') :
    d.tree.KeepsFiles d'.tree := by
  rw [ensureDirectory] at h
  split at h
  · split at h
    · cases h
      exact .refl _
    · cases h
  · obtain ⟨tree, htree, rfl⟩ := exists_of_attempt h
    obtain ⟨place, hplace, rfl⟩ := map_eq_ok_iff.1 htree
    exact FileTree.keepsFiles_put (FileTree.node?_of_directorySlot hplace) _

theorem keepsFiles_reach {above passed passed' : List Path}
    (h : d.reach passed above = .ok (d', passed')) : d.tree.KeepsFiles d'.tree := by
  induction above generalizing passed with
  | nil =>
    cases h
    exact .refl _
  | cons p above ih =>
    rw [reach] at h
    split at h
    · next hmade =>
      cases h
      exact keepsFiles_ensureDirectory hmade
    · exact ih h
    · cases h

theorem keepsFiles_makeEach (d : Disk α) (paths : List Path) :
    d.tree.KeepsFiles (d.makeEach paths).1.tree := by
  induction paths generalizing d with
  | nil => exact .refl _
  | cons p rest ih =>
    rw [makeEach]
    split
    · next hmade => exact (keepsFiles_ensureDirectory hmade).trans (ih _)
    · exact .refl _

/-- Directories are made where nothing stands, so no file is lost. -/
theorem keepsFiles_makeDirectories (d : Disk α) (p : Path) :
    d.tree.KeepsFiles (d.makeDirectories p).1.tree := by
  rw [makeDirectories]
  split
  · next hreach => exact (keepsFiles_reach hreach).trans (keepsFiles_makeEach _ _)
  · exact .refl _

end Disk

end Tabular
