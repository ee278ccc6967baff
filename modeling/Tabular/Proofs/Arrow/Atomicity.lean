import Tabular.Proofs.Arrow.Publication
import Tabular.Proofs.Files.Siblings
import Tabular.Proofs.Files.Staging
import Tabular.Result.Storage

/-!
# Tables are stored whole or not at all

Each call on the way to a stored table can be refused. What was made up to then is one hidden file at
a place that was free, and removing it restores the disk. When no call is refused the hidden file
becomes the file at the path. So a table is there completely, or the disk is as it was.

## Main definitions

- `Artifact.IsClear` — no file is in the way of staging, and staged files can be removed
- `Artifact.Published` — a disk is another one with a complete file at a path
- `Artifact.AllOrNothing` — what may come of storing a table

## Main statements

- `Artifact.stages_stage` — how far the steps of storing a file went
- `Artifact.published_or_restored` — a file is published, or the disk is restored
- `Artifact.allOrNothing` — the same for tables and for results
-/

namespace Tabular.Artifact

variable {d after : Disk StoredFile} {staging path : Path} {file : ArrowFile} {name : String}
  {t : Table} {columns : List Column} {place goal : Location}

/-! ### The steps -/

/-- How far the steps of storing a file went, and what they left. -/
inductive Stages (d : Disk StoredFile) (staging path : Path) (file : ArrowFile) :
    Disk StoredFile × Except ArtifactFault Unit → Prop
  /-- No file was made. -/
  | unstarted (fault : ArtifactFault) : Stages d staging path file (d, .error fault)
  /-- A file was made and left behind. -/
  | abandoned {staged : Disk StoredFile} {place : Location} {content : StoredFile}
      (fault : ArtifactFault) (h : d.Staged staged staging place content) :
      Stages d staging path file (staged, .error fault)
  /-- The complete file was moved to its path. -/
  | published {staged published : Disk StoredFile} {place : Location}
      (h : d.Staged staged staging place (some file))
      (hrename : staged.rename staging path = .ok published) :
      Stages d staging path file (published, .ok ())

theorem stages_stage : Stages d staging path file (stage d staging path file) := by
  rw [stage]
  split
  · exact .unstarted _
  · next created hcreate =>
    obtain ⟨place, hcreated⟩ := Disk.exists_staged_of_create hcreate
    split
    · exact .abandoned _ hcreated
    · next written hwrite =>
      have hwritten := hcreated.write hwrite
      split
      · exact .abandoned _ hwritten
      · next finished hfinish =>
        have hfinished := hwritten.finish hfinish
        split
        · exact .abandoned _ hfinished
        · next published hrename => exact .published hfinished hrename

/-- No file is in the way of staging, and the disk lets a staged file be removed. -/
structure IsClear (d : Disk StoredFile) (path : Path) : Prop where
  unoccupied : ∀ name content, path.fileName? = some name →
    d.tree.find (stagingPath path name) ≠ .ok (.file content)
  removable : ∀ name, path.fileName? = some name →
    d.refuses (.remove (stagingPath path name)) = none

/-- Where no file was made, none is removed. -/
theorem disk_cleanUp_of_unoccupied (h : ∀ content, d.tree.find staging ≠ .ok (.file content)) :
    (cleanUp d staging).1 = d := by
  rw [cleanUp]
  split
  · show (d.remove staging).toOption.getD d = d
    cases hremove : d.remove staging with
    | error fault => rfl
    | ok removed =>
      obtain ⟨tree, htree, -⟩ := Disk.exists_of_attempt hremove
      obtain ⟨place, hplace, -⟩ := map_eq_ok_iff.1 htree
      obtain ⟨content, hfind⟩ := FileTree.exists_find_of_removable hplace
      exact absurd hfind (h content)
  · rfl

/-- A file that was left behind is removed, which restores the disk. -/
theorem disk_cleanUp_of_staged {content : StoredFile} (h : d.Staged after staging place content)
    (hfree : d.tree.node? place = none) (hremove : d.refuses (.remove staging) = none) :
    (cleanUp after staging).1 = d := by
  have hpath : after.tree.hasPath staging = true := by
    rw [FileTree.hasPath, h.slot'.find h.file]
    rfl
  rw [cleanUp, if_pos hpath, h.remove hfree hremove]
  rfl

/-! ### Published files -/

theorem staging_name_ne (name : String) : "." ++ name ++ ".tmp" ≠ name := by
  intro heq
  have hlength := congrArg String.length heq
  simp only [String.length_append] at hlength
  have hdot : ".".length = 1 := rfl
  omega

/-- The hidden file does not stand where the path ends. -/
theorem staging_ne_goal (hname : path.fileName? = some name)
    (hstaging : d.tree.EndsAt (stagingPath path name) place) (hpath : d.tree.EndsAt path goal) :
    place ≠ goal := by
  rintro rfl
  obtain ⟨last, hlast, hisName, hend⟩ := hpath.exists_name
  obtain rfl : name = last :=
    Option.some.inj (hname.symm.trans (Path.fileName?_eq_of_isName hlast hisName))
  have hslash : '/' ∉ ("." ++ name ++ ".tmp").toList := by
    have hfresh := Path.not_mem_of_fileName? hname
    simp [hfresh]
  have hhidden := path.getLast?_steps_withFileName (by simp) hslash
  obtain ⟨hidden, hlast', -, hend'⟩ := hstaging.exists_name
  have hhidden' : hidden = "." ++ name ++ ".tmp" :=
    Option.some.inj (hlast'.symm.trans hhidden)
  -- both paths end in the last name of the one place
  have hsame : hidden = name := Option.some.inj (hend'.symm.trans hend)
  exact staging_name_ne name (hhidden'.symm.trans hsame)

/-- A disk is another one with a complete file at a path, and with nothing at the hidden name. -/
structure Published (d : Disk StoredFile) (path : Path) (file : ArrowFile)
    (after : Disk StoredFile) : Prop where
  refuses : after.refuses = d.refuses
  found : after.tree.find path = .ok (.file (some file))
  gains : ∃ place, d.tree.locate path = .ok place ∧ d.tree.Gains after.tree place (some file)
  unstaged : ∀ name, path.fileName? = some name →
    after.tree.hasPath (stagingPath path name) = false

theorem hasPath_staging_of_gains {content : StoredFile} (hname : path.fileName? = some name)
    (hslot : d.tree.IsSlot (stagingPath path name) place) (hfree : d.tree.node? place = none)
    (hpath : d.tree.EndsAt path goal) (hgains : d.tree.Gains after.tree goal content) :
    after.tree.hasPath (stagingPath path name) = false := by
  have hne := staging_ne_goal hname hslot.ends hpath
  have hlocate : after.tree.locate (stagingPath path name) = .ok place :=
    FileTree.locate_of_keeps hgains.of_keeps hslot.ends.locate
  have hnode : after.tree.node? place = none := by
    rw [hgains.others place hslot.ends.isReached hne, hfree]
  rw [FileTree.hasPath, FileTree.find_of_node?_eq_none hlocate hnode]
  rfl

/-- A file is published, or the disk is restored. -/
theorem published_or_restored (h : IsClear d path) (file : ArrowFile) :
    (∃ fault, (publish d path file).outcome = .error fault ∧ (publish d path file).disk = d) ∨
      (publish d path file).outcome = .ok () ∧ Published d path file (publish d path file).disk := by
  cases hname : path.fileName? with
  | none =>
    rw [publish, hname]
    exact .inl ⟨_, rfl, rfl⟩
  | some name =>
    have hunoccupied := fun content => h.unoccupied name content hname
    have hremove := h.removable name hname
    rw [publish, hname]
    dsimp only
    have hstages : Stages d (stagingPath path name) path file _ := stages_stage
    generalize hstage : stage d (stagingPath path name) path file = reached at hstages
    -- the path was free before, so only a file of these steps can stand there to be removed
    cases hstages with
    | unstarted fault => exact .inl ⟨_, rfl, disk_cleanUp_of_unoccupied hunoccupied⟩
    | abandoned fault hstaged =>
      have hfree := hstaged.slot.node?_eq_none hunoccupied
      exact .inl ⟨_, rfl, disk_cleanUp_of_staged hstaged hfree hremove⟩
    | published hstaged hrename =>
      have hfree := hstaged.slot.node?_eq_none hunoccupied
      obtain ⟨hrefuses, goal, hends, hgains⟩ := hstaged.gains_of_rename hfree hrename
      refine .inr ⟨rfl, hrefuses, find_of_stage hstage, ⟨goal, hends.locate, hgains⟩, ?_⟩
      intro other hother
      obtain rfl : name = other := Option.some.inj (hname.symm.trans hother)
      exact hasPath_staging_of_gains hname hstaged.slot hfree hends hgains

/-! ### Stored tables -/

/-- What may come of storing a table: a failure leaves the disk as it was, and so does a table without
columns, whose record has no path; any other table is recorded with its path, its row count and its
columns, and its complete file is all that the disk gains. -/
structure AllOrNothing (d : Disk StoredFile) (t : Table) (columns : List Column) (path : Path)
    (after : Disk StoredFile) (outcome : Except Fault Wire.Artifact) : Prop where
  failed : ∀ fault, outcome = .error fault → after = d
  skipped : t.hasColumns = false → after = d ∧ ∀ a, outcome = .ok a → a.path = none
  stored : t.hasColumns = true → ∀ a, outcome = .ok a →
    a.path = some path ∧ a.metadata.rows = t.length ∧
      a.metadata.columns = columns.map Column.toWire ∧
      ∃ file, t.toArrow = .ok file ∧ Published d path file after

theorem allOrNothing_of_error (fault : Fault) :
    AllOrNothing d t columns path d (.error fault) where
  failed _ _ := rfl
  skipped _ := ⟨rfl, fun _ h => nomatch h⟩
  stored _ _ h := nomatch h

theorem allOrNothing_of_skipped (h : t.hasColumns = false) (rows : Nat) :
    AllOrNothing d t columns path d (.ok (.withoutFile rows)) where
  failed _ h := nomatch h
  skipped _ := by
    refine ⟨rfl, fun a ha => ?_⟩
    cases ha
    rfl
  stored hcolumns := by
    rw [h] at hcolumns
    cases hcolumns

theorem allOrNothing_of_published (hcolumns : t.hasColumns = true) (hfile : t.toArrow = .ok file)
    (h : Published d path file after) :
    AllOrNothing d t columns path after
      (.ok ⟨some path, TableShape.toWire ⟨t.length, columns⟩⟩) where
  failed _ h := nomatch h
  skipped hnone := by
    rw [hnone] at hcolumns
    cases hcolumns
  stored _ a ha := by
    cases ha
    exact ⟨rfl, rfl, rfl, file, hfile, h⟩

theorem hasColumns_iff_of_names (h : t.names = columns.map Column.name) :
    t.hasColumns = true ↔ columns ≠ [] := by
  have hlength : t.columns.length = columns.length := by
    simpa [Table.names] using congrArg List.length h
  rw [Table.hasColumns, Bool.not_eq_true', List.isEmpty_eq_false_iff, ← List.length_pos_iff,
    ← List.length_pos_iff, hlength]

theorem allOrNothing_write (h : IsClear d path) (t : Table) (columns : List Column) :
    AllOrNothing d t columns path (write d t columns path).disk
      (write d t columns path).outcome := by
  rw [write]
  split
  · exact allOrNothing_of_error _
  · next hnames =>
    have hiff := hasColumns_iff_of_names (not_not.1 hnames)
    split
    · next hempty =>
      have hnone : t.hasColumns = false := by
        rw [← Bool.not_eq_true, hiff]
        simpa using hempty
      exact allOrNothing_of_skipped hnone 0
    · next hempty =>
      have hne : columns ≠ [] := by simpa using hempty
      cases hfile : t.toArrow with
      | error fault => exact allOrNothing_of_error fault
      | ok file =>
        dsimp only
        rcases published_or_restored h file with ⟨fault, houtcome, hdisk⟩ | ⟨houtcome, hpublished⟩
        · rcases hpublish : publish d path file with ⟨after, events, outcome⟩
          rw [hpublish] at houtcome hdisk
          obtain rfl : outcome = .error fault := houtcome
          obtain rfl : after = d := hdisk
          exact allOrNothing_of_error fault
        · rcases hpublish : publish d path file with ⟨after, events, outcome⟩
          rw [hpublish] at houtcome hpublished
          obtain rfl : outcome = .ok () := houtcome
          obtain ⟨column, rest, rfl⟩ := List.exists_cons_of_ne_nil hne
          exact allOrNothing_of_published (hiff.2 hne) hfile hpublished

/-- Storing a result stores its table, unless its diagnostics have no record. -/
theorem allOrNothing_store (h : IsClear d path) (r : StepResult) :
    AllOrNothing d r.table r.columns path (r.store d path).disk
      ((r.store d path).outcome.map Wire.Render.table) := by
  rw [StepResult.store]
  cases r.diagnostics.mapM Diagnostic.toWire with
  | error fault => exact allOrNothing_of_error fault
  | ok ds =>
    have hwrite := allOrNothing_write h r.table r.columns
    rcases heq : write d r.table r.columns path with ⟨after, events, outcome⟩
    rw [heq] at hwrite
    cases outcome with
    | error fault => exact hwrite
    | ok a => exact hwrite

/-- Where no file is in the way of staging, a table is stored whole or the disk is as it was,
whichever calls the disk refuses. Diagnostics without a record are refused before anything is done. -/
theorem allOrNothing (h : IsClear d path) :
    (∀ t columns, AllOrNothing d t columns path (write d t columns path).disk
      (write d t columns path).outcome) ∧
    ∀ r : StepResult,
      AllOrNothing d r.table r.columns path (r.store d path).disk
        ((r.store d path).outcome.map Wire.Render.table) ∧
      ∀ fault, r.diagnostics.mapM Diagnostic.toWire = .error fault →
        r.store d path = ⟨d, [], .error fault⟩ := by
  refine ⟨allOrNothing_write h, fun r => ⟨allOrNothing_store h r, fun fault hfault => ?_⟩⟩
  rw [StepResult.store, hfault]

/-- A disk with a directory and a file in it that refuses to move anything. -/
def unmoving : Disk StoredFile where
  tree := ⟨[(["d"], .directory), (["d", "a"], .file none)]⟩
  refuses
    | .rename _ _ => some .busy
    | _ => none

theorem isClear_unmoving : IsClear unmoving ⟨"d/a"⟩ where
  unoccupied name content hname := by
    obtain rfl : "a" = name := Option.some.inj hname
    intro hfind
    have hnone : unmoving.tree.find (stagingPath ⟨"d/a"⟩ "a") = .error .notFound := by rfl
    cases hnone.symm.trans hfind
  removable _ _ := rfl

theorem allOrNothing_unmoving : IsClear unmoving ⟨"d/a"⟩ ∧
    (∀ t columns, AllOrNothing unmoving t columns ⟨"d/a"⟩
      (write unmoving t columns ⟨"d/a"⟩).disk (write unmoving t columns ⟨"d/a"⟩).outcome) ∧
    ∀ r : StepResult,
      AllOrNothing unmoving r.table r.columns ⟨"d/a"⟩ (r.store unmoving ⟨"d/a"⟩).disk
        ((r.store unmoving ⟨"d/a"⟩).outcome.map Wire.Render.table) ∧
      ∀ fault, r.diagnostics.mapM Diagnostic.toWire = .error fault →
        r.store unmoving ⟨"d/a"⟩ = ⟨unmoving, [], .error fault⟩ :=
  ⟨isClear_unmoving, allOrNothing isClear_unmoving⟩

end Tabular.Artifact
