import Mathlib.Data.List.Induction
import Tabular.Proofs.Files.Rename

/-!
# Files that are made and then moved or removed

A file is made at a free location, written, and then either moved to its target or removed. Up to
that last step the tree is the one from before but for what stands at the one location, so removing
the file restores the tree, and moving it puts the file at the target and changes nothing else that a
path can lead to.

## Main definitions

- `FileTree.SameOff` — two trees are the same but for what stands at a location
- `FileTree.IsSlot` — a path ends where a file may be put
- `FileTree.Gains` — a tree is another one with a file put at a location
- `Disk.Staged` — a disk is another one with a file at the end of a path

## Main statements

- `Disk.exists_staged_of_create`, `Disk.Staged.write`, `Disk.Staged.finish` — the calls up to the
  last one
- `Disk.Staged.remove` — removing the file restores the disk
- `Disk.Staged.gains_of_rename` — moving the file puts it at the target
-/

namespace Tabular

namespace FileTree

variable {α : Type} {t u s : FileTree α} {place other : Location}

/-! ### Trees that differ at one location -/

theorem erase_put (t : FileTree α) (place : Location) (node : FileNode α) :
    (t.put place node).erase place = t.erase place := by
  rw [put]
  split
  · simp only [erase, mk.injEq]
    induction t.entries with
    | nil => rfl
    | cons entry rest ih =>
      obtain ⟨k, old⟩ := entry
      by_cases hk : k = place
      · simpa [hk] using ih
      · simpa [hk] using ih
  · simp [erase, List.filter_append]

theorem erase_of_node?_eq_none (h : t.node? place = none) : t.erase place = t := by
  have hne : place ≠ [] := by
    rintro rfl
    simp [node?_nil] at h
  rw [node?_of_ne_nil hne, List.lookup_eq_none_iff] at h
  rw [erase, List.filter_eq_self.2]
  intro entry hentry
  rw [decide_eq_true_eq]
  exact (bne_iff_ne.1 (h entry hentry)).symm

theorem node?_erase_of_ne (h : other ≠ place) : (t.erase place).node? other = t.node? other := by
  have hkept : ∀ k : Location, (decide (k ≠ place) = true ∧ id k = other) ↔ k = other := by
    intro k
    rw [decide_eq_true_eq, id]
    exact ⟨fun hk => hk.2, fun hk => ⟨hk ▸ h, hk⟩⟩
  have hlookup := lookup_relocated (fun k => decide (k ≠ place)) id hkept t.entries
  have hid : (fun entry : Location × FileNode α => (id entry.1, entry.2)) = id := rfl
  rw [hid, List.map_id] at hlookup
  rw [node?, node?, erase, hlookup]

theorem node?_erase_self (h : place ≠ []) : (t.erase place).node? place = none := by
  rw [node?_of_ne_nil h, erase, List.lookup_eq_none_iff]
  intro entry hentry
  have hne := (List.mem_filter.1 hentry).2
  rw [decide_eq_true_eq] at hne
  rw [bne_iff_ne]
  exact hne.symm

/-- Two trees are the same but for what stands at a location. -/
def SameOff (t u : FileTree α) (place : Location) : Prop := u.erase place = t.erase place

namespace SameOff

theorem put (h : t.SameOff u place) (node : FileNode α) : t.SameOff (u.put place node) place :=
  (erase_put u place node).trans h

theorem node?_eq (h : t.SameOff u place) (hne : other ≠ place) : u.node? other = t.node? other := by
  rw [← node?_erase_of_ne hne, h, node?_erase_of_ne hne]

theorem node?_eq_directory (h : t.SameOff u place) (hplace : t.node? place ≠ some .directory)
    (hdir : t.node? other = some .directory) : u.node? other = some .directory := by
  have hne : other ≠ place := by
    rintro rfl
    exact hplace hdir
  rw [h.node?_eq hne, hdir]

theorem symm (h : t.SameOff u place) : u.SameOff t place := Eq.symm h

end SameOff

/-! ### Where files may be put -/

theorem find_of_node?_eq_none {p : Path} (hplace : t.locate p = .ok place)
    (hnone : t.node? place = none) : t.find p = .error .notFound := by
  simp [find, hplace, hnone, bind, Except.bind, throw, throwThe, MonadExceptOf.throw]

/-- A path ends where a file may be put. -/
structure IsSlot (t : FileTree α) (p : Path) (place : Location) : Prop where
  ends : t.EndsAt p place
  slash : p.endsInSlash = false
  free : t.node? place ≠ some .directory

theorem isSlot_of_fileSlot {p : Path} (h : t.fileSlot p = .ok place) : t.IsSlot p place := by
  rw [fileSlot] at h
  obtain ⟨⟨above, name?⟩, hedge, h⟩ := bind_eq_ok_iff.1 h
  cases name? with
  | none => cases h
  | some name =>
    obtain ⟨hslash, h⟩ := guard_eq_ok_iff.1 h
    obtain ⟨target, hchild, h⟩ := bind_eq_ok_iff.1 h
    split at h
    · cases h
    · next hfree =>
      obtain rfl := Except.ok.inj h
      exact ⟨⟨above, name, hedge, hchild⟩, by simpa using hslash, hfree⟩

namespace IsSlot

variable {p : Path} {content : α}

theorem of_sameOff (h : t.IsSlot p place) (hsame : t.SameOff u place)
    (hfile : u.node? place = some (.file content)) : u.IsSlot p place where
  ends := h.ends.of_keeps fun _ _ hdir => hsame.node?_eq_directory h.free hdir
  slash := h.slash
  free := by simp [hfile]

theorem find (h : t.IsSlot p place) (hfile : t.node? place = some (.file content)) :
    t.find p = .ok (.file content) := by
  rw [FileTree.find]
  refine bind_eq_ok_iff.2 ⟨place, h.ends.locate, ?_⟩
  simp [hfile, h.slash, pure, Except.pure]

theorem fileSlot (h : t.IsSlot p place) : t.fileSlot p = .ok place := by
  obtain ⟨above, name, hedge, hchild⟩ := h.ends
  rw [FileTree.fileSlot]
  refine bind_eq_ok_iff.2 ⟨_, hedge, guard_eq_ok_iff.2 ⟨by simp [h.slash], ?_⟩⟩
  refine bind_eq_ok_iff.2 ⟨_, hchild, ?_⟩
  split
  · next hdir => exact absurd hdir h.free
  · rfl

theorem removable (h : t.IsSlot p place) (hfile : t.node? place = some (.file content)) :
    t.removable p = .ok place := by
  obtain ⟨above, name, hedge, hchild⟩ := h.ends
  rw [FileTree.removable]
  refine bind_eq_ok_iff.2 ⟨_, hedge, bind_eq_ok_iff.2 ⟨_, hchild, ?_⟩⟩
  simp [hfile, h.slash, pure, Except.pure]

/-- A file is moved to where another one may be put, if neither place is below the other. -/
theorem route {target : Path} {goal : Location} (h : t.IsSlot p place)
    (hfile : t.node? place = some (.file content)) (htarget : t.IsSlot target goal)
    (hbelow : isAbove place goal = false) (habove : isAbove goal place = false) :
    t.route p target = .ok (place, goal) := by
  obtain ⟨above, name, hedge, hchild⟩ := h.ends
  obtain ⟨above', name', hedge', hchild'⟩ := htarget.ends
  have hreplace : t.checkReplacement (.file content) goal = .ok () := by
    rw [checkReplacement.eq_def]
    rcases hgoal : t.node? goal with _ | _ | _
    · rfl
    · rfl
    · exact absurd hgoal htarget.free
  rw [FileTree.route]
  refine bind_eq_ok_iff.2 ⟨_, hedge, bind_eq_ok_iff.2 ⟨_, hedge', ?_⟩⟩
  refine bind_eq_ok_iff.2 ⟨_, hchild, ?_⟩
  rw [hfile]
  refine bind_eq_ok_iff.2 ⟨_, hchild', ?_⟩
  refine guard_eq_ok_iff.2 ⟨by simp [h.slash, htarget.slash], ?_⟩
  refine guard_eq_ok_iff.2 ⟨by simp [hbelow], guard_eq_ok_iff.2 ⟨by simp [habove], ?_⟩⟩
  split
  · exact bind_eq_ok_iff.2 ⟨_, hreplace, rfl⟩
  · rfl

/-- Nothing stands where a file may be put and none is found. -/
theorem node?_eq_none (h : t.IsSlot p place) (hfree : ∀ content, t.find p ≠ .ok (.file content)) :
    t.node? place = none := by
  cases hnode : t.node? place with
  | none => rfl
  | some node =>
    cases node with
    | directory => exact absurd hnode h.free
    | file content => exact absurd (h.find hnode) (hfree content)

end IsSlot

/-- What is removed is a file at the end of its path. -/
theorem isSlot_of_removable {p : Path} (h : t.removable p = .ok place) :
    t.IsSlot p place ∧ ∃ content, t.node? place = some (.file content) := by
  rw [removable] at h
  obtain ⟨⟨above, name?⟩, hedge, h⟩ := bind_eq_ok_iff.1 h
  cases name? with
  | none => cases h
  | some name =>
    obtain ⟨target, hchild, h⟩ := bind_eq_ok_iff.1 h
    split at h
    · cases h
    · cases h
    · next content hfile =>
      split at h
      · cases h
      · next hslash =>
        cases h
        exact ⟨⟨⟨above, name, hedge, hchild⟩, by simpa using hslash, by simp [hfile]⟩,
          content, hfile⟩

theorem exists_find_of_removable {p : Path} (h : t.removable p = .ok place) :
    ∃ content, t.find p = .ok (.file content) := by
  obtain ⟨hslot, content, hfile⟩ := isSlot_of_removable h
  exact ⟨content, hslot.find hfile⟩

/-! ### Trees with one file more -/

/-- A tree is another one with a file put at a location where no directory was, as far as paths lead:
they lead to the same locations, and find the same everywhere else. -/
structure Gains (t u : FileTree α) (place : Location) (content : α) : Prop where
  file : u.node? place = some (.file content)
  old : t.node? place ≠ some .directory
  reached : ∀ other, u.IsReached other ↔ t.IsReached other
  others : ∀ other, t.IsReached other → other ≠ place → u.node? other = t.node? other

theorem isReached_concat_iff {name : String} :
    t.IsReached (place ++ [name]) ↔ t.IsReached place ∧ t.node? place = some .directory := by
  constructor
  · intro h
    refine ⟨fun above habove hne => h above (habove.trans (List.prefix_append _ _)) ?_,
      h place (List.prefix_append _ _) (by simp)⟩
    rintro rfl
    exact hne (habove.eq_of_length_le (by simp))
  · rintro ⟨hplace, hdir⟩ above habove hne
    rcases List.prefix_concat_iff.1 habove with rfl | habove
    · exact absurd rfl hne
    · by_cases heq : above = place
      · exact heq ▸ hdir
      · exact hplace above habove heq

/-- Trees that have the same nodes as far as paths lead lead to the same locations, if they differ in
a file only. -/
theorem gains_of_others {content : α} (hfile : u.node? place = some (.file content))
    (hold : t.node? place ≠ some .directory)
    (others : ∀ other, t.IsReached other → other ≠ place → u.node? other = t.node? other) :
    t.Gains u place content where
  file := hfile
  old := hold
  others := others
  reached := by
    intro other
    -- from the end, since a location is reached when the one above it is a directory
    induction other using List.reverseRecOn with
    | nil => exact iff_of_true isReached_nil isReached_nil
    | append_singleton above name ih =>
      rw [isReached_concat_iff, isReached_concat_iff, ih]
      refine and_congr_right fun hreached => ?_
      by_cases heq : above = place
      · subst heq
        exact iff_of_false (by simp [hfile]) hold
      · rw [others above hreached heq]

theorem Gains.of_keeps {content : α} (h : t.Gains u place content) :
    ∀ other, t.IsReached other → t.node? other = some .directory →
      u.node? other = some .directory := by
  intro other hreached hdir
  have hne : other ≠ place := by
    rintro rfl
    exact h.old hdir
  rw [h.others other hreached hne, hdir]

/-- After a move nothing is left at its source. -/
theorem node?_move_source {source target : Location} (hsource : source ≠ [])
    (htarget : ¬ target <+: source) : (t.move source target).node? source = none := by
  rw [node?_of_ne_nil hsource, List.lookup_eq_none_iff]
  intro entry hentry
  obtain ⟨⟨k, node⟩, -, rfl⟩ := List.mem_map.1 hentry
  rw [bne_iff_ne]
  intro heq
  by_cases hbelow : source <+: k
  · rw [relocate_of_below hbelow] at heq
    exact htarget ⟨_, heq.symm⟩
  · rw [relocate_of_not_below hbelow] at heq
    exact hbelow (heq ▸ List.prefix_rfl)

theorem not_prefix_of_isReached_of_ne (hreached : t.IsReached place)
    (hother : t.node? other ≠ some .directory) (hne : other ≠ place) : ¬ other <+: place :=
  fun hprefix => hother (hreached other hprefix hne)

/-- A file that was put at a free location and then moved is all that the tree gains. -/
theorem gains_of_move {source target : Location} {content : α} (hsame : t.SameOff s source)
    (hreached : t.IsReached source) (hsource : source ≠ []) (hfree : t.node? source = none)
    (hfile : s.node? source = some (.file content)) (htarget : target ≠ [])
    (hne : source ≠ target) (hold : s.node? target ≠ some .directory) :
    t.Gains (s.move source target) target content := by
  have hold' : t.node? target ≠ some .directory := by rwa [← hsame.node?_eq hne.symm]
  refine gains_of_others ((node?_move hsource htarget hne).trans hfile) hold' ?_
  intro other hother hotherNe
  have hbeside : ¬ target <+: other := not_prefix_of_isReached_of_ne hother hold' hotherNe.symm
  by_cases heq : other = source
  · -- the source is as free as it was before the file was put there
    subst heq
    rw [node?_move_source hsource hbeside, hfree]
  · have hbelow : ¬ source <+: other :=
      not_prefix_of_isReached_of_ne hother (by simp [hfree]) (Ne.symm heq)
    rw [node?_move_of_not_below hbelow hbeside, hsame.node?_eq heq]

end FileTree

namespace Disk

variable {α : Type} {d d' d'' : Disk α} {p : Path} {place : Location} {content : α}

/-- A call that is not refused changes the tree and nothing else. -/
theorem exists_of_attempt {call : FileCall} {change : FileTree α → Except FileFault (FileTree α)}
    (h : d.attempt call change = .ok d') :
    ∃ tree, change d.tree = .ok tree ∧ d' = { d with tree } := by
  rw [attempt] at h
  split at h
  · cases h
  · obtain ⟨tree, htree, rfl⟩ := map_eq_ok_iff.1 h
    exact ⟨tree, htree, rfl⟩

/-- A disk is another one with a file at the end of a path. -/
structure Staged (d d' : Disk α) (p : Path) (place : Location) (content : α) : Prop where
  refuses : d'.refuses = d.refuses
  slot : d.tree.IsSlot p place
  rest : d.tree.SameOff d'.tree place
  file : d'.tree.node? place = some (.file content)

theorem exists_staged_of_create (h : d.create p content = .ok d') :
    ∃ place, Staged d d' p place content := by
  obtain ⟨tree, htree, rfl⟩ := exists_of_attempt h
  obtain ⟨place, hplace, rfl⟩ := map_eq_ok_iff.1 htree
  have hslot := FileTree.isSlot_of_fileSlot hplace
  have hsame : d.tree.SameOff d.tree place := rfl
  exact ⟨place, rfl, hslot, hsame.put _, FileTree.node?_put_self _ hslot.ends.ne_nil⟩

namespace Staged

theorem slot' (h : Staged d d' p place content) : d'.tree.IsSlot p place :=
  h.slot.of_sameOff h.rest h.file

theorem of_fill {after : α} {tree : FileTree α} (h : Staged d d' p place content)
    (hfill : fill d'.tree p after = .ok tree) : Staged d { d' with tree } p place after := by
  obtain ⟨target, old, htarget, -, rfl⟩ := fill_eq_ok_iff.1 hfill
  obtain rfl : place = target := Except.ok.inj (h.slot'.ends.locate.symm.trans htarget)
  exact ⟨h.refuses, h.slot, h.rest.put _, FileTree.node?_put_self _ h.slot.ends.ne_nil⟩

theorem write {after : α} (h : Staged d d' p place content) (hwrite : d'.write p after = .ok d'') :
    Staged d d'' p place after := by
  obtain ⟨tree, htree, rfl⟩ := exists_of_attempt hwrite
  exact h.of_fill htree

theorem finish {after : α} (h : Staged d d' p place content)
    (hfinish : d'.finish p after = .ok d'') : Staged d d'' p place after := by
  obtain ⟨tree, htree, rfl⟩ := exists_of_attempt hfinish
  exact h.of_fill htree

/-- Removing the file restores the disk. -/
theorem remove (h : Staged d d' p place content) (hfree : d.tree.node? place = none)
    (hrefuse : d.refuses (.remove p) = none) : d'.remove p = .ok d := by
  have htree : d'.tree.erase place = d.tree :=
    h.rest.trans (FileTree.erase_of_node?_eq_none hfree)
  rw [Disk.remove, attempt, h.refuses, hrefuse]
  dsimp only
  rw [h.slot'.removable h.file]
  show Except.ok (Disk.mk (d'.tree.erase place) d.refuses) = .ok d
  rw [htree]

/-- Moving the file puts it at the target, and nothing else changes. -/
theorem gains_of_rename {target : Path} (h : Staged d d' p place content)
    (hfree : d.tree.node? place = none) (hrename : d'.rename p target = .ok d'') :
    d''.refuses = d.refuses ∧ ∃ goal, d.tree.EndsAt target goal ∧
      d.tree.Gains d''.tree goal content := by
  obtain ⟨tree, htree, rfl⟩ := exists_of_attempt hrename
  obtain ⟨⟨origin, goal⟩, hroute, htree⟩ := bind_eq_ok_iff.1 htree
  obtain ⟨node, hsource, htarget, hnode, -, hcheck⟩ := FileTree.route_eq_ok hroute
  obtain rfl : place = origin := Except.ok.inj (h.slot'.ends.locate.symm.trans hsource.locate)
  obtain rfl : node = .file content := Option.some.inj (hnode.symm.trans h.file)
  have hfile : d'.tree.node? place ≠ some .directory := by simp [h.file]
  have hends : d.tree.EndsAt target goal :=
    htarget.of_keeps fun _ _ hdir => h.rest.symm.node?_eq_directory hfile hdir
  refine ⟨h.refuses, goal, hends, ?_⟩
  obtain rfl := Except.ok.inj htree
  by_cases heq : place = goal
  · -- a move onto itself leaves the file where it was made
    subst heq
    show d.tree.Gains (if place = place then d'.tree else _) place content
    rw [if_pos rfl]
    exact FileTree.gains_of_others h.file h.slot.free fun _ _ hne => h.rest.node?_eq hne
  · show d.tree.Gains (if place = goal then _ else d'.tree.move place goal) goal content
    rw [if_neg heq]
    have hold := FileTree.node?_ne_directory_of_checkReplacement (hcheck heq)
    exact FileTree.gains_of_move h.rest h.slot.ends.isReached hsource.ne_nil hfree h.file
      htarget.ne_nil heq hold

end Staged

end Disk

end Tabular
