import Tabular.Proofs.Files.Lookup
import Tabular.Proofs.Logging.Rotation

/-!
# What becomes a backup

In whatever directory a log is, and on whatever disk: as long as no call fails, the files that are
moved on make what the active file held the first backup. So a backup is empty only if the active
file was, and after the first buffer that holds something this is never so. A log that is opened
moves on a file over the limit only, and that one is not empty. But the first buffer of all, when it
is over the limit by itself, moves an empty file on, and all older backups with it.

## Main definitions

- `RollingFile.Tracks` — a log is open and knows the size of its active file
- `RollingFile.GoesOn` — the active file was written to, or was moved on before

## Main statements

- `RollingFile.roll_tracks`, `RollingFile.write_goesOn`, `RollingFile.openIn_goesOn` — the actions of
  a log
- `RollingFile.record_goesOn` — which content a backup is made of
-/

namespace Tabular.RollingFile

variable {β : Type} {r : RollingFile} {place : Location} {t : FileTree (LogContent β)} {s : State β}
  {content : LogContent β} {i j k : Nat}

/-- Making directories loses no file. -/
theorem makeDirectories_keepsFiles (s : State β) (p : Path) :
    Leads False (makeDirectories p) s fun _ s' =>
      s'.log = s.log ∧ s.disk.tree.KeepsFiles s'.disk.tree := by
  have hkeeps := Disk.keepsFiles_makeDirectories s.disk p
  refine Leads.get.bind ?_
  rintro _ _ ⟨rfl, rfl⟩
  rcases hmake : s.disk.makeDirectories p with ⟨disk, fault | _⟩
  · exact ⟨nofun, False.elim⟩
  · rw [hmake] at hkeeps
    exact Meets.ok ⟨rfl, hkeeps⟩

/-! ### The locations of the files -/

/-- What stands where the file of a log with a number is looked for. -/
def nodeAt (r : RollingFile) (place : Location) (s : State β) (index : Nat) :
    Option (FileNode (LogContent β)) :=
  s.disk.tree.node? (place ++ [fileName r.stem index])

section Locations

variable (hstem : '/' ∉ r.stem.toList) (hplace : t.follow r.directory.steps = .ok place)
include hstem hplace

/-- Removing one file leaves the others. -/
theorem discard_nodeAt (hij : j ≠ i) :
    Leads False (discard (r.file i)) s fun _ s' =>
      s'.log = s.log ∧ nodeAt r place s' j = nodeAt r place s j := by
  have hnaming := isNaming_fileName hstem
  refine Leads.isThere.bind ?_
  rintro _ _ ⟨-, rfl⟩
  split
  · refine Leads.of_call fun disk hdisk => ⟨rfl, ?_⟩
    have htree := Disk.remove_join_eq_ok hplace (hnaming.plain i) hdisk
    rw [nodeAt, nodeAt, htree]
    exact FileTree.node?_erase_of_ne (FileTree.concat_ne_of_ne (mt (@hnaming.injective j i) hij))
  · exact Leads.pure ⟨rfl, rfl⟩

/-- A file that is found is removed. -/
theorem discard_found (hfile : s.disk.tree.find (r.file i) = .ok (.file content)) :
    Leads False (discard (r.file i)) s fun _ s' =>
      s'.log = s.log ∧ nodeAt r place s' i = none := by
  have hthere : s.disk.tree.hasPath (r.file i) = true := by
    rw [FileTree.hasPath, hfile]
    rfl
  refine Leads.isThere.bind ?_
  rintro _ _ ⟨rfl, rfl⟩
  rw [if_pos hthere]
  refine Leads.of_call fun disk hdisk => ⟨rfl, ?_⟩
  have htree := Disk.remove_join_eq_ok hplace ((isNaming_fileName hstem).plain i) hdisk
  rw [nodeAt, htree]
  exact FileTree.node?_erase_self (by simp)

/-- Moving one file to another number leaves the others. -/
theorem shift_nodeAt (hij : i ≠ j) (hki : k ≠ i) (hkj : k ≠ j) :
    Leads False (shift (r.file i) (r.file j)) s fun _ s' =>
      s'.log = s.log ∧ nodeAt r place s' k = nodeAt r place s k := by
  have hnaming := isNaming_fileName hstem
  have hname : ∀ {a b}, a ≠ b → fileName r.stem a ≠ fileName r.stem b :=
    fun hab heq => hab (hnaming.injective heq)
  refine Leads.isThere.bind ?_
  rintro _ _ ⟨-, rfl⟩
  split
  · refine Leads.of_call fun disk hdisk => ⟨rfl, ?_⟩
    have htree := Disk.rename_join_eq_ok hplace (hnaming.plain i) (hnaming.plain j) (hname hij) hdisk
    rw [nodeAt, nodeAt, htree]
    exact FileTree.node?_move_of_not_below (FileTree.not_prefix_of_ne (hname hki.symm))
      (FileTree.not_prefix_of_ne (hname hkj.symm))
  · exact Leads.pure ⟨rfl, rfl⟩

/-- Moving the backups up leaves the active file. -/
theorem shiftBackups_nodeAt (last : Nat) :
    Leads False (r.shiftBackups last) s fun _ s' =>
      s'.log = s.log ∧ nodeAt r place s' 0 = nodeAt r place s 0 := by
  induction last generalizing s with
  | zero => exact Leads.pure ⟨rfl, rfl⟩
  | succ last ih =>
    rw [shiftBackups, backup_eq, backup_eq]
    refine (shift_nodeAt (i := last + 1) (k := 0) hstem hplace (by omega) (by omega)
      (by omega)).bind ?_
    rintro _ s₁ ⟨hlog₁, h₁⟩
    refine ih.imp ?_
    rintro _ s₂ ⟨hlog₂, h₂⟩
    exact ⟨hlog₂.trans hlog₁, h₂.trans h₁⟩

/-- The active file becomes the first backup, unless its path is not followed any more. -/
theorem shift_active (hnode : nodeAt r place s 0 = some (.file content)) :
    Leads False (shift (r.file 0) (r.file 1)) s fun _ s' => s'.log = s.log ∧
      (nodeAt r place s' 0 = some (.file content) ∧ s'.disk.tree.hasPath (r.file 0) = false ∨
        nodeAt r place s' 0 = none ∧ s'.disk.tree.find (r.file 1) = .ok (.file content)) := by
  have hnaming := isNaming_fileName hstem
  have hne : fileName r.stem 0 ≠ fileName r.stem 1 := by
    intro heq
    cases hnaming.injective heq
  refine Leads.isThere.bind ?_
  rintro found _ ⟨hfound, rfl⟩
  split
  · refine Leads.of_call fun disk hdisk => ⟨rfl, .inr ⟨?_, ?_⟩⟩
    · have htree := Disk.rename_join_eq_ok hplace (hnaming.plain 0) (hnaming.plain 1) hne hdisk
      rw [nodeAt, htree]
      exact FileTree.node?_move_source (by simp) (FileTree.not_prefix_of_ne hne.symm)
    · obtain ⟨origin, goal, hsource, -, -⟩ := Disk.rename_eq_ok hdisk
      obtain rfl := FileTree.eq_of_locate_join hplace (hnaming.plain 0) hsource.locate
      exact Disk.find_of_rename hdisk hsource.locate hnode
  · next hmissing =>
    refine Leads.pure ⟨rfl, .inl ⟨hnode, ?_⟩⟩
    rwa [hfound, Bool.eq_false_iff]

end Locations

variable [LogUnit β]

/-- A log is open, its active file has a content, and it knows the size of this. -/
structure Tracks (r : RollingFile) (content : LogContent β) (s : State β) : Prop where
  log : s.log = { r with isOpen := true, written := content.size }
  active : s.disk.tree.find r.active = .ok (.file content)

/-- A file that is opened is the one that stood there, or a new one. No other file is lost. -/
theorem reopen_tracks {isOpen : Bool} {written : Nat} (hlog : s.log = { r with isOpen, written }) :
    Leads False reopen s fun _ s' => ∃ target found, Tracks r found s' ∧
      s.disk.tree.IsSlot r.active target ∧
      (s.disk.tree.node? target = some (.file found) ∨
        s.disk.tree.node? target = none ∧ found = []) ∧
      s.disk.tree.KeepsFiles s'.disk.tree := by
  obtain ⟨d, log⟩ := s
  subst hlog
  refine Leads.get.bind ?_
  rintro _ _ ⟨rfl, rfl⟩
  have happend : Leads False (RollingFile.call (·.append r.active []))
      (⟨d, { r with isOpen, written }⟩ : State β) fun _ s' =>
        s'.log = { r with isOpen, written } ∧ d.append r.active [] = .ok s'.disk :=
    Leads.of_call fun disk hdisk => ⟨rfl, hdisk⟩
  refine happend.bind ?_
  rintro _ s₁ ⟨hlog₁, hdisk₁⟩
  have hmeasure : Leads False (RollingFile.call (·.measure r.active)) s₁ fun _ s' => s₁ = s' :=
    Leads.of_call fun disk hdisk => by rw [Disk.measure_eq_ok hdisk]
  refine hmeasure.bind ?_
  rintro _ _ rfl
  refine Leads.modify.imp ?_
  rintro _ _ rfl
  obtain ⟨target, found, hslot, hfound, hnode, hkeeps⟩ := Disk.append_eq_ok hdisk₁
  have hsize : sizeAt s₁.disk r.active = found.size := by
    rw [sizeAt, hfound]
  refine ⟨target, found, ⟨?_, hfound⟩, hslot, hnode, hkeeps⟩
  show ({ s₁.log with isOpen := true, written := sizeAt s₁.disk r.active } : RollingFile) = _
  rw [hlog₁, hsize]

section Locations

variable {isOpen : Bool} {written : Nat} (hstem : '/' ∉ r.stem.toList)
  (hplace : t.follow r.directory.steps = .ok place) (hlog : s.log = { r with isOpen, written })
include hstem hplace hlog

/-- A file that is opened where none is left is a new one. -/
theorem reopen_fresh (hnone : nodeAt r place s 0 = none) :
    Leads False reopen s fun _ s' => Tracks r [] s' ∧ s.disk.tree.KeepsFiles s'.disk.tree := by
  refine (reopen_tracks hlog).imp ?_
  rintro _ s' ⟨target, found, htracks, hslot, hfound, hkeeps⟩
  obtain rfl := FileTree.eq_of_locate_join hplace ((isNaming_fileName hstem).plain 0)
    hslot.ends.locate
  rcases hfound with hfound | ⟨-, rfl⟩
  · cases hnone.symm.trans hfound
  · exact ⟨htracks, hkeeps⟩

/-- A file that stands there and is not seen cannot be opened: its path is broken. -/
theorem reopen_unseen (hnode : nodeAt r place s 0 = some (.file content))
    (hunseen : s.disk.tree.hasPath (r.file 0) = false) :
    Leads False reopen s fun _ _ => False := by
  refine (reopen_tracks hlog).imp ?_
  rintro _ s' ⟨target, found, -, hslot, -, -⟩
  obtain rfl := FileTree.eq_of_locate_join hplace ((isNaming_fileName hstem).plain 0)
    hslot.ends.locate
  have hfind : s.disk.tree.find (r.file 0) = .ok (.file content) := hslot.find hnode
  rw [FileTree.hasPath, hfind] at hunseen
  cases hunseen

end Locations

/-- Moving the files on makes what the active file held the first backup, and starts a new file. -/
theorem roll_tracks {isOpen : Bool} {written : Nat} (hstem : '/' ∉ r.stem.toList)
    (hlog : s.log = { r with isOpen, written })
    (hfile : s.disk.tree.find r.active = .ok (.file content)) :
    Leads False roll s fun _ s' => Tracks r [] s' ∧
      (1 < r.keep → s'.disk.tree.find (r.backup 1) = .ok (.file content)) := by
  obtain ⟨target, htarget, hnode, -⟩ := FileTree.find_eq_file_iff.1 hfile
  obtain ⟨place, hplace, rfl⟩ :=
    FileTree.exists_follow_of_locate_join ((isNaming_fileName hstem).plain 0) htarget
  refine Leads.modify.bind ?_
  intro _ s₀ hs₀
  have hlog₀ : s₀.log = { r with isOpen := false, written } := by rw [← hs₀, hlog]
  have hnode₀ : nodeAt r place s₀ 0 = some (.file content) := by rwa [← hs₀]
  have hfile₀ : s₀.disk.tree.find (r.file 0) = .ok (.file content) := by rwa [← hs₀]
  refine Leads.get.bind ?_
  rintro _ _ ⟨rfl, rfl⟩
  rw [hlog₀]
  dsimp only
  split
  · next hlast =>
    refine (discard_found hstem hplace hfile₀).bind ?_
    rintro _ s₁ ⟨hlog₁, hnone₁⟩
    refine (reopen_fresh hstem hplace (hlog₁.trans hlog₀) hnone₁).imp ?_
    rintro _ s₂ ⟨htracks, -⟩
    exact ⟨htracks, fun hkeep => absurd hkeep (by omega)⟩
  · next last hlast =>
    rw [shiftBackups_with]
    refine (discard_nodeAt (i := last + 1) (j := 0) hstem hplace (by omega)).bind ?_
    rintro _ s₁ ⟨hlog₁, h₁⟩
    refine (shiftBackups_nodeAt hstem hplace last).bind ?_
    rintro _ s₂ ⟨hlog₂, h₂⟩
    refine (shift_active hstem hplace (h₂.trans (h₁.trans hnode₀))).bind ?_
    rintro _ s₃ ⟨hlog₃, hmoved⟩
    have hlog' := hlog₃.trans (hlog₂.trans (hlog₁.trans hlog₀))
    rcases hmoved with ⟨hnode₃, hunseen⟩ | ⟨hnone₃, hbackup₃⟩
    · exact (reopen_unseen hstem hplace hlog' hnode₃ hunseen).imp fun _ _ => False.elim
    · refine (reopen_fresh hstem hplace hlog' hnone₃).imp ?_
      rintro _ s₄ ⟨htracks, hkeeps⟩
      exact ⟨htracks, fun _ => hkeeps _ _ hbackup₃⟩

/-- A log whose active file had a content goes on with more in it. -/
structure GoesOn (r : RollingFile) (content added : LogContent β) (t : FileTree (LogContent β))
    (s : State β) : Prop where
  /-- What fits is put behind the content, and the backups stay. -/
  stays : content.size + added.size ≤ r.limit → Tracks r (content ++ added) s ∧
    ∀ index old, t.find (r.backup (index + 1)) = .ok (.file old) →
      s.disk.tree.find (r.backup (index + 1)) = .ok (.file old)
  /-- What does not fit starts a new file, and the content becomes the first backup. -/
  moves : r.limit < content.size + added.size → Tracks r added s ∧
    (1 < r.keep → s.disk.tree.find (r.backup 1) = .ok (.file content))

/-- A buffer is put behind the content of the active file, and the backups stay. -/
theorem put_tracks (hstem : '/' ∉ r.stem.toList) (h : Tracks r content s) (buffer : β) :
    Leads False (put buffer) s fun _ s' => Tracks r (content ++ [buffer]) s' ∧
      ∀ index, s'.disk.tree.find (r.backup (index + 1)) =
        s.disk.tree.find (r.backup (index + 1)) := by
  have hnaming := isNaming_fileName hstem
  have hactive : s.log.active = r.active := by
    rw [h.log]
    rfl
  have hfind : s.disk.tree.find s.log.active = .ok (.file content) := by rw [hactive, h.active]
  have hbeside : ∀ index place, s.disk.tree.locate r.active = .ok place →
      s.disk.tree.locate (r.backup (index + 1)) ≠ .ok place := by
    intro index target htarget hbackup
    obtain ⟨place, hplace, rfl⟩ := FileTree.exists_follow_of_locate_join (hnaming.plain 0) htarget
    have heq := FileTree.eq_of_locate_join hplace (hnaming.plain (index + 1)) hbackup
    have hname : fileName r.stem 0 = fileName r.stem (index + 1) := by simpa using heq
    cases hnaming.injective hname
  refine Leads.get.bind ?_
  rintro _ _ ⟨rfl, rfl⟩
  rw [hfind]
  dsimp only
  rw [hactive]
  have hwrite : Leads False (RollingFile.call (·.write r.active (content ++ [buffer]))) s
      fun _ s' => s'.log = s.log ∧ s.disk.write r.active (content ++ [buffer]) = .ok s'.disk :=
    Leads.of_call fun disk hdisk => ⟨rfl, hdisk⟩
  refine hwrite.bind ?_
  rintro _ s₁ ⟨hlog₁, hdisk₁⟩
  obtain ⟨hfound, hothers⟩ := Disk.write_eq_ok hdisk₁ h.active
  refine Leads.modify.imp ?_
  rintro _ _ rfl
  refine ⟨⟨?_, hfound⟩, fun index => hothers _ (hbeside index)⟩
  simp only [hlog₁, h.log, LogContent.size_concat]

/-- A buffer is put behind the others, or into a new file. -/
theorem write_goesOn (hstem : '/' ∉ r.stem.toList) (h : Tracks r content s) (buffer : β) :
    Leads False (write buffer) s fun _ s' => GoesOn r content [buffer] s.disk.tree s' := by
  have hwritten : s.log.written = content.size := by rw [h.log]
  have hlimit : s.log.limit = r.limit := by rw [h.log]
  have hsize := LogContent.size_singleton buffer
  have hopen : ∀ {content : LogContent β} {s : State β}, Tracks r content s → s.log.isOpen = true :=
    fun h => by rw [h.log]
  refine Leads.write (fun hover => ?_) fun hfits => ?_
  · rw [hwritten, hlimit] at hover
    refine (roll_tracks hstem h.log h.active).imp ?_
    rintro _ s₁ ⟨h₁, hbackup₁⟩
    refine ⟨hopen h₁, (put_tracks hstem h₁ buffer).imp ?_⟩
    rintro _ s₂ ⟨h₂, hbackups₂⟩
    exact ⟨fun hfits => absurd hfits (by omega), fun _ => ⟨h₂, fun hkeep =>
      (hbackups₂ 0).trans (hbackup₁ hkeep)⟩⟩
  · rw [hwritten, hlimit] at hfits
    refine ⟨hopen h, (put_tracks hstem h buffer).imp ?_⟩
    rintro _ s₁ ⟨h₁, hbackups₁⟩
    exact ⟨fun _ => ⟨h₁, fun index old hold => (hbackups₁ index).trans hold⟩,
      fun hover => absurd hover (by omega)⟩

/-- A log that is opened goes on with the file that is there, and moves it on at once if it is over
the limit. -/
theorem openIn_goesOn {isOpen : Bool} {written : Nat} (hstem : '/' ∉ r.stem.toList)
    (hlog : s.log = { r with isOpen, written }) :
    Leads False (openIn r.directory) s fun _ s' => ∃ found,
      (∀ old, s.disk.tree.find r.active = .ok (.file old) → found = old) ∧
        GoesOn r found [] s.disk.tree s' := by
  refine (makeDirectories_keepsFiles s r.directory).bind ?_
  rintro _ s₁ ⟨hlog₁, hkeeps₁⟩
  refine (reopen_tracks (hlog₁.trans hlog)).bind ?_
  rintro _ s₂ ⟨target, found, h₂, -, -, hkeeps₂⟩
  have hkeeps := hkeeps₁.trans hkeeps₂
  have hfound : ∀ old, s.disk.tree.find r.active = .ok (.file old) → found = old := by
    intro old hold
    cases h₂.active.symm.trans (hkeeps _ _ hold)
    rfl
  have hsize : LogContent.size ([] : LogContent β) = 0 := rfl
  refine Leads.get.bind ?_
  rintro _ _ ⟨rfl, rfl⟩
  dsimp only
  rw [h₂.log]
  dsimp only
  split
  · next hover =>
    refine (roll_tracks hstem h₂.log h₂.active).imp ?_
    rintro _ s₃ ⟨h₃, hbackup₃⟩
    exact ⟨found, hfound, fun hfits => absurd hfits (by omega), fun _ => ⟨h₃, hbackup₃⟩⟩
  · next hfits =>
    refine Leads.pure ⟨found, hfound, fun _ => ⟨?_, fun index old hold => hkeeps _ _ hold⟩,
      fun hover => absurd hover (by omega)⟩
    rwa [List.append_nil]

/-! ### Runs -/

/-- The active file has at least what was added. -/
theorem GoesOn.exists_tracks {added : LogContent β} (h : GoesOn r content added t s) :
    ∃ after, Tracks r after s ∧ added.size ≤ after.size := by
  by_cases hfits : content.size + added.size ≤ r.limit
  · refine ⟨_, (h.stays hfits).1, ?_⟩
    rw [LogContent.size_append]
    omega
  · exact ⟨_, (h.moves (by omega)).1, le_rfl⟩

/-- Over a run of buffers that hold something the active file is empty only as long as none was
written. -/
theorem appendAll_tracks {s' : State β} (hstem : '/' ∉ r.stem.toList) {buffers : List β}
    (h : Tracks r content s) (hbuffers : ∀ buffer ∈ buffers, 0 < LogUnit.size buffer)
    (hrun : appendAll s buffers = (.ok (), s')) :
    ∃ after, Tracks r after s' ∧ (after.size = 0 → content.size = 0 ∧ buffers = []) := by
  induction buffers generalizing content s with
  | nil =>
    cases hrun
    exact ⟨content, h, fun hempty => ⟨hempty, rfl⟩⟩
  | cons buffer rest ih =>
    obtain ⟨hbuffer, hrest⟩ := List.forall_mem_cons.1 hbuffers
    rw [appendAll] at hrun
    rcases happend : append s buffer with ⟨fault | _, s₁⟩
    · rw [happend] at hrun
      cases hrun
    · rw [happend] at hrun
      obtain ⟨first, hfirst, hsize⟩ := ((write_goesOn hstem h buffer).of_run happend).exists_tracks
      rw [LogContent.size_singleton] at hsize
      obtain ⟨after, hafter, hempty⟩ := ih hfirst hrest hrun
      exact ⟨after, hafter, fun hzero => absurd (hempty hzero).1 (by omega)⟩

theorem exists_of_record_eq_ok {d : Disk (LogContent β)} {directory : Path} {name : String}
    {keep limit : Nat} {buffers : List β}
    (h : record d directory name keep limit buffers = (.ok (), s)) :
    ∃ s₀, start d directory name keep limit = (.ok (), s₀) ∧
      appendAll s₀ buffers = (.ok (), s) := by
  rw [record] at h
  split at h
  · next s₀ hs₀ => exact ⟨s₀, hs₀, h⟩
  · next hfailed => exact absurd h (hfailed s)

/-- A log before it is opened. -/
def unopened (directory : Path) (name : String) (keep limit : Nat) : RollingFile :=
  ⟨directory, safeName name, max keep 1, limit, false, 0⟩

/-- Whatever is in the directory of a log, as long as no call fails: a log that is opened moves its
file on only if that is over the limit. A buffer that was written has been put behind the content of
the active file, or this content has become the first backup, as it was, and is not empty, if the
buffers written before held something. The exception is a buffer that is over the limit by itself
and is written first. -/
theorem record_goesOn (d : Disk (LogContent β)) (directory : Path) (name : String)
    (keep limit : Nat) :
    (∀ s, start d directory name keep limit = (.ok (), s) → ∃ found,
      (∀ old, d.tree.find (unopened directory name keep limit).active = .ok (.file old) →
        found = old) ∧
      GoesOn (unopened directory name keep limit) found [] d.tree s) ∧
    ∀ earlier buffer s s', (∀ before ∈ earlier, 0 < LogUnit.size before) →
      record d directory name keep limit earlier = (.ok (), s) →
      append s buffer = (.ok (), s') → ∃ content,
        Tracks (unopened directory name keep limit) content s ∧
        GoesOn (unopened directory name keep limit) content [buffer] s.disk.tree s' ∧
        (limit < content.size + LogUnit.size buffer →
          0 < content.size ∨ earlier = [] ∧ limit < LogUnit.size buffer) := by
  have hstem : '/' ∉ (unopened directory name keep limit).stem.toList := not_mem_safeName name
  have hstart : ∀ s, start d directory name keep limit = (.ok (), s) → ∃ found,
      (∀ old, d.tree.find (unopened directory name keep limit).active = .ok (.file old) →
        found = old) ∧
      GoesOn (unopened directory name keep limit) found [] d.tree s := by
    intro s hs
    have hopen := openIn_goesOn (r := unopened directory name keep limit)
      (s := ⟨d, unopened directory name keep limit⟩) hstem
      (rfl : _ = { unopened directory name keep limit with isOpen := false, written := 0 })
    exact hopen.of_run hs
  refine ⟨hstart, fun earlier buffer s s' hearlier hrecord happend => ?_⟩
  obtain ⟨s₀, hs₀, hrun⟩ := exists_of_record_eq_ok hrecord
  obtain ⟨found, -, hfound⟩ := hstart s₀ hs₀
  obtain ⟨opened, hopened, -⟩ := hfound.exists_tracks
  obtain ⟨content, hcontent, hempty⟩ := appendAll_tracks hstem hopened hearlier hrun
  refine ⟨content, hcontent, (write_goesOn hstem hcontent buffer).of_run happend,
    fun hover => ?_⟩
  by_cases hzero : content.size = 0
  · exact .inr ⟨(hempty hzero).2, by omega⟩
  · exact .inl (Nat.pos_of_ne_zero hzero)

/-- A directory with a backup and no active file. -/
def backedLogs : FileTree (LogContent (List UInt8)) :=
  ⟨[(["logs"], .directory), (["logs", "app.log.1"], .file [[9]])]⟩

/-- A new file is opened, and after a buffer that holds something it becomes the first backup. -/
theorem record_goesOn_backedLogs :
    (∃ s, start (.ofTree backedLogs) ⟨"logs"⟩ "app" 2 4 = (.ok (), s) ∧ ∃ found,
      (∀ old, backedLogs.find (unopened ⟨"logs"⟩ "app" 2 4).active = .ok (.file old) →
        found = old) ∧
      GoesOn (unopened ⟨"logs"⟩ "app" 2 4) found [] backedLogs s) ∧
    ∃ s s', record (.ofTree backedLogs) ⟨"logs"⟩ "app" 2 4 [[1, 2]] = (.ok (), s) ∧
      append s [3, 4, 5] = (.ok (), s') ∧ ∃ content,
        Tracks (unopened ⟨"logs"⟩ "app" 2 4) content s ∧
        GoesOn (unopened ⟨"logs"⟩ "app" 2 4) content [[3, 4, 5]] s.disk.tree s' ∧
        (4 < content.size + LogUnit.size ([3, 4, 5] : List UInt8) → 0 < content.size ∨
          [[1, 2]] = ([] : List (List UInt8)) ∧ 4 < LogUnit.size ([3, 4, 5] : List UInt8)) := by
  obtain ⟨hopen, hwrite⟩ := record_goesOn (.ofTree backedLogs) ⟨"logs"⟩ "app" 2 4
  have hstart : (start (.ofTree backedLogs) ⟨"logs"⟩ "app" 2 4).1 = .ok () := by
    decide +kernel
  have hrecord : (record (.ofTree backedLogs) ⟨"logs"⟩ "app" 2 4 [[1, 2]]).1 = .ok () := by
    decide +kernel
  have happend : (append (record (.ofTree backedLogs) ⟨"logs"⟩ "app" 2 4 [[1, 2]]).2
      [3, 4, 5]).1 = .ok () := by
    decide +kernel
  refine ⟨⟨_, Prod.ext hstart rfl, hopen _ (Prod.ext hstart rfl)⟩, _, _, Prod.ext hrecord rfl,
    Prod.ext happend rfl, ?_⟩
  exact hwrite [[1, 2]] [3, 4, 5] _ _ (by decide) (Prod.ext hrecord rfl) (Prod.ext happend rfl)

/-- The first buffer is over the limit by itself, and an empty file takes the place of the backup. -/
theorem record_backedLogs_empty :
    backedLogs.find ((unopened ⟨"logs"⟩ "app" 2 4).backup 1) = .ok (.file [[9]]) ∧
    (∃ s, start (.ofTree backedLogs) ⟨"logs"⟩ "app" 2 4 = (.ok (), s) ∧
      s.disk.tree.find (unopened ⟨"logs"⟩ "app" 2 4).active = .ok (.file [])) ∧
    ∃ s, record (.ofTree backedLogs) ⟨"logs"⟩ "app" 2 4 [[1, 2, 3, 4, 5]] = (.ok (), s) ∧
      s.disk.tree.find ((unopened ⟨"logs"⟩ "app" 2 4).backup 1) = .ok (.file []) := by
  have hstart : (start (.ofTree backedLogs) ⟨"logs"⟩ "app" 2 4).1 = .ok () := by
    decide +kernel
  have hrecord : (record (.ofTree backedLogs) ⟨"logs"⟩ "app" 2 4 [[1, 2, 3, 4, 5]]).1 = .ok () := by
    decide +kernel
  refine ⟨by decide +kernel, ⟨_, Prod.ext hstart rfl, ?_⟩, _, Prod.ext hrecord rfl, ?_⟩
  · decide +kernel
  · decide +kernel

end Tabular.RollingFile
