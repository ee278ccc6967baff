import Tabular.Proofs.Files.Lookup
import Tabular.Proofs.Logging.NumberedFiles

/-!
# Logs that lose their file

A log closes its active file before it moves the files on, and opens the new one as the last step.
When a step in between fails, no file is open. A buffer over the limit makes the log move the files
on once more, and so can end this; a buffer that fits does not, and is refused, whatever has become
of the disk. As long as the files need not be moved on, or are moved on without a failure, a log
keeps its file.

## Main definitions

- `RollingFile.Overflows` — a buffer takes the active file over the limit
- `RollingFile.KeepsLog`, `RollingFile.Reopens` — what an action does to the state of a log
- `RollingFile.Later` — what can follow until a buffer is over the limit
- `RollingFile.Outage`, `RollingFile.Service` — a log without and with an open file

## Main statements

- `RollingFile.roll_outcome` — a log has an open file after the files were moved on, or none
- `RollingFile.append_outage` — what a failure of moving the files on means for later buffers
-/

namespace Tabular.RollingFile

variable {β γ δ : Type} {s t : State β}

/-! ### What actions do to the state of a log -/

/-- An action changes the disk only. -/
def KeepsLog (x : Action β γ) : Prop := ∀ s, (x.run.run s).2.log = s.log

/-- An action ends with a file that is open, or leaves the state of the log as it is. -/
def Reopens (x : Action β Unit) : Prop :=
  ∀ s, ((x.run.run s).1 = .ok () → (x.run.run s).2.log.isOpen = true) ∧
    ∀ fault, (x.run.run s).1 = .error fault → (x.run.run s).2.log = s.log

namespace KeepsLog

theorem pure (a : γ) : KeepsLog (Pure.pure a : Action β γ) := fun _ => rfl

theorem get : KeepsLog (MonadState.get : Action β (State β)) := fun _ => rfl

theorem isThere (p : Path) : KeepsLog (isThere p : Action β Bool) := fun _ => rfl

theorem bind {x : Action β γ} {f : γ → Action β δ} (hx : KeepsLog x) (hf : ∀ a, KeepsLog (f a)) :
    KeepsLog (x >>= f) := by
  intro s
  have hs := hx s
  rw [run_bind]
  rcases hrun : x.run.run s with ⟨fault | a, s'⟩
  · rw [hrun] at hs
    exact hs
  · rw [hrun] at hs
    exact (hf a s').trans hs

/-- What changes the disk only may come before the file is opened. -/
theorem reopens {x : Action β γ} {f : γ → Action β Unit} (hx : KeepsLog x)
    (hf : ∀ a, Reopens (f a)) : Reopens (x >>= f) := by
  intro s
  have hs := hx s
  rw [run_bind]
  rcases hrun : x.run.run s with ⟨fault | a, s'⟩
  · rw [hrun] at hs
    exact ⟨nofun, fun _ _ => hs⟩
  · rw [hrun] at hs
    obtain ⟨hok, herror⟩ := hf a s'
    exact ⟨hok, fun fault hfault => (herror fault hfault).trans hs⟩

end KeepsLog

theorem run_call (change : Disk (LogContent β) → Except FileFault (Disk (LogContent β)))
    (s : State β) : (call change).run.run s = match change s.disk with
      | .ok disk => (.ok (), { s with disk })
      | .error fault => (.error (.file fault), s) := by
  show ((match change s.disk with
    | .ok disk => set { s with disk }
    | .error fault => throw (.file fault)) : Action β Unit).run.run s = _
  cases change s.disk with
  | ok disk => rfl
  | error fault => rfl

theorem keepsLog_call (change : Disk (LogContent β) → Except FileFault (Disk (LogContent β))) :
    KeepsLog (call change) := by
  intro s
  rw [run_call]
  cases change s.disk with
  | ok disk => rfl
  | error fault => rfl

theorem keepsLog_discard (p : Path) : KeepsLog (discard p : Action β Unit) := by
  refine (KeepsLog.isThere p).bind fun found => ?_
  split
  · exact keepsLog_call _
  · exact .pure _

theorem keepsLog_shift (source target : Path) :
    KeepsLog (shift source target : Action β Unit) := by
  refine (KeepsLog.isThere source).bind fun found => ?_
  split
  · exact keepsLog_call _
  · exact .pure _

theorem keepsLog_shiftBackups (r : RollingFile) (last : Nat) :
    KeepsLog (r.shiftBackups last : Action β Unit) := by
  induction last with
  | zero => exact .pure _
  | succ last ih => exact (keepsLog_shift _ _).bind fun _ => ih

variable [LogUnit β]

theorem reopens_reopen : Reopens (reopen : Action β Unit) := by
  refine KeepsLog.get.reopens fun s => ?_
  refine (keepsLog_call _).reopens fun _ => (keepsLog_call _).reopens fun _ => ?_
  exact fun s => ⟨fun _ => rfl, nofun⟩

/-- After the files were moved on a log has an open file. When this fails it has none, and is else as
it was. -/
theorem roll_outcome (s : State β) :
    ((roll.run.run s).1 = .ok () → (roll.run.run s).2.log.isOpen = true) ∧
      ∀ fault, (roll.run.run s).1 = .error fault →
        (roll.run.run s).2.log = { s.log with isOpen := false } := by
  rw [roll, run_bind]
  refine (show Reopens _ from ?_) { s with log := { s.log with isOpen := false } }
  refine KeepsLog.get.reopens fun s => ?_
  dsimp only
  split
  · exact (keepsLog_discard _).reopens fun _ => reopens_reopen
  · exact (keepsLog_discard _).reopens fun _ => (keepsLog_shiftBackups _ _).reopens fun _ =>
      (keepsLog_shift _ _).reopens fun _ => reopens_reopen

/-- The files are moved on in the same way with an open file and without one. -/
theorem roll_closed (s : State β) :
    roll.run.run { s with log := { s.log with isOpen := false } } = roll.run.run s := rfl

/-! ### Buffers that fit and buffers that do not -/

/-- A buffer takes the active file over the limit. -/
def Overflows (r : RollingFile) (buffer : β) : Prop := r.limit < r.written + LogUnit.size buffer

/-- A buffer that fits is put behind the others, if there is a file to put it in. -/
theorem append_of_fits {buffer : β} (h : ¬ s.log.Overflows buffer) :
    append s buffer =
      if s.log.isOpen then (put buffer).run.run s else (.error .unavailable, s) := by
  rw [Overflows] at h
  rw [append, write, run_bind]
  show ((if s.log.written + LogUnit.size buffer > s.log.limit then _ else _ :
    Action β Unit).run.run s) = _
  rw [if_neg h]
  show ((if s.log.isOpen then put buffer else throw .unavailable : Action β Unit).run.run s) = _
  split
  · rfl
  · rfl

/-- For a buffer that does not fit the files are moved on first. -/
theorem append_of_overflows {buffer : β} (h : s.log.Overflows buffer) :
    append s buffer = match roll.run.run s with
      | (.ok (), s') => (put buffer).run.run s'
      | (.error fault, s') => (.error fault, s') := by
  have hopen := (roll_outcome s).1
  rw [Overflows] at h
  rw [append, write, run_bind]
  show ((if s.log.written + LogUnit.size buffer > s.log.limit then _ else _ :
    Action β Unit).run.run s) = _
  rw [if_pos h, run_bind]
  rcases hroll : roll.run.run s with ⟨fault | _, s'⟩
  · rfl
  · rw [hroll] at hopen
    show ((if s'.log.isOpen then put buffer else throw .unavailable :
      Action β Unit).run.run s') = _
    rw [if_pos (hopen rfl)]

theorem run_put (s : State β) (buffer : β) :
    (put buffer).run.run s = match s.disk.tree.find s.log.active with
      | .ok (.file content) =>
        match s.disk.write s.log.active (content ++ [buffer]) with
        | .ok disk =>
          (.ok (), ⟨disk, { s.log with written := s.log.written + LogUnit.size buffer }⟩)
        | .error fault => (.error (.file fault), s)
      | .ok .directory => (.error (.file .isDirectory), s)
      | .error fault => (.error (.file fault), s) := by
  rw [put, run_bind]
  show ((match s.disk.tree.find s.log.active with
    | .ok (.file content) => call (·.write s.log.active (content ++ [buffer])) >>= fun _ => _
    | .ok .directory => throw (.file .isDirectory)
    | .error fault => throw (.file fault) : Action β Unit).run.run s) = _
  split
  · next content _ =>
    rw [run_bind, run_call]
    cases s.disk.write s.log.active (content ++ [buffer]) with
    | ok disk => rfl
    | error fault => rfl
  · rfl
  · rfl

/-- Putting a buffer into the file does not close it, also when it fails. -/
theorem isOpen_put (s : State β) (buffer : β) :
    ((put buffer).run.run s).2.log.isOpen = s.log.isOpen := by
  rw [run_put]
  split
  · split
    · rfl
    · rfl
  · rfl
  · rfl

/-- A buffer is put into a file that is there and can be written. -/
theorem put_stores {content : LogContent β}
    (hfile : s.disk.tree.find s.log.active = .ok (.file content))
    (hrefuse : s.disk.refuses (.write s.log.active) = none) (buffer : β) :
    ∃ s', (put buffer).run.run s = (.ok (), s') ∧
      s'.disk.tree.find s.log.active = .ok (.file (content ++ [buffer])) := by
  obtain ⟨disk, hwrite⟩ := Disk.exists_write hfile hrefuse (content ++ [buffer])
  refine ⟨⟨disk, { s.log with written := s.log.written + LogUnit.size buffer }⟩, ?_,
    (Disk.write_eq_ok hwrite hfile).1⟩
  simp only [run_put, hfile, hwrite]

/-! ### What follows -/

/-- The states that can follow a state: the disk may change in any way, and buffers that fit may be
written, whether that succeeds or not. -/
inductive Later (s : State β) : State β → Prop
  | refl : Later s s
  | changed {t : State β} (disk : Disk (LogContent β)) (h : Later s t) : Later s { t with disk }
  | wrote {t : State β} (buffer : β) (h : Later s t) (hfits : ¬ t.log.Overflows buffer) :
    Later s (append t buffer).2

/-- A log without an open file stays as it is. -/
theorem Later.log_eq (h : Later s t) (hclosed : s.log.isOpen = false) : t.log = s.log := by
  induction h with
  | refl => rfl
  | changed disk _ ih => exact ih
  | wrote buffer _ hfits ih =>
    rw [append_of_fits hfits, ih, hclosed, if_neg Bool.false_ne_true]
    exact ih

/-- A log with an open file keeps it open. -/
theorem Later.isOpen (h : Later s t) (hopen : s.log.isOpen = true) : t.log.isOpen = true := by
  induction h with
  | refl => exact hopen
  | changed disk _ ih => exact ih
  | wrote buffer _ hfits ih => rw [append_of_fits hfits, if_pos ih, isOpen_put, ih]

/-- A log has lost its file: buffers that fit are refused and change nothing, and those that do not
are treated as they would be with the file. -/
structure Outage (r : RollingFile) (t : State β) : Prop where
  log : t.log = { r with isOpen := false }
  refuses : ∀ buffer, ¬ r.Overflows buffer → append t buffer = (.error .unavailable, t)
  retries : ∀ buffer, r.Overflows buffer → append t buffer = append { t with log := r } buffer

/-- A log has its file: buffers that fit are stored in it, if it is there and can be written. -/
structure Service (t : State β) : Prop where
  isOpen : t.log.isOpen = true
  stores : ∀ buffer content, ¬ t.log.Overflows buffer →
    t.disk.tree.find t.log.active = .ok (.file content) →
    t.disk.refuses (.write t.log.active) = none →
    ∃ t', append t buffer = (.ok (), t') ∧
      t'.disk.tree.find t.log.active = .ok (.file (content ++ [buffer]))

theorem outage_of_log_eq {r : RollingFile} (h : t.log = { r with isOpen := false }) :
    Outage r t where
  log := h
  refuses buffer hfits := by
    have hfits' : ¬ t.log.Overflows buffer := by rwa [h]
    have hclosed : t.log.isOpen = false := by rw [h]
    rw [append_of_fits hfits', hclosed, if_neg Bool.false_ne_true]
  retries buffer hover := by
    have hover' : t.log.Overflows buffer := by rwa [h]
    have ht : t = { t with log := { r with isOpen := false } } := by rw [← h]
    have hroll : roll.run.run t = roll.run.run { t with log := r } := by
      rw [ht]
      exact roll_closed { t with log := r }
    rw [append_of_overflows hover', append_of_overflows (s := { t with log := r }) hover, hroll]

theorem service_of_isOpen (h : t.log.isOpen = true) : Service t where
  isOpen := h
  stores buffer content hfits hfile hrefuse := by
    rw [append_of_fits hfits, if_pos h]
    exact put_stores hfile hrefuse buffer

/-- When the files cannot be moved on for a buffer, the buffer is refused for the same reason, and
the log has lost its file: from then on it refuses every buffer that fits, on whatever disk, until
one is written that does not. A log that need not move the files on, or has moved them on, has its
file, and keeps it while buffers fit. -/
theorem append_outage (hopen : s.log.isOpen = true) (buffer : β) :
    (∀ fault, s.log.Overflows buffer → (roll.run.run s).1 = .error fault →
      (append s buffer).1 = .error fault ∧
        ∀ t, Later (append s buffer).2 t → Outage s.log t) ∧
    ((s.log.Overflows buffer → (roll.run.run s).1 = .ok ()) →
      ∀ t, Later (append s buffer).2 t → Service t) := by
  constructor
  · intro fault hover hfault
    have hlog := (roll_outcome s).2 fault hfault
    have happend : append s buffer = (.error fault, (roll.run.run s).2) := by
      rw [append_of_overflows hover]
      rcases hroll : roll.run.run s with ⟨fault' | _, s'⟩
      · rw [hroll] at hfault
        cases hfault
        rfl
      · rw [hroll] at hfault
        cases hfault
    rw [happend]
    refine ⟨rfl, fun t ht => outage_of_log_eq ?_⟩
    rw [ht.log_eq (by rw [hlog]), hlog]
  · intro hroll t ht
    refine service_of_isOpen (ht.isOpen ?_)
    by_cases hover : s.log.Overflows buffer
    · have hok := hroll hover
      have hafter := (roll_outcome s).1 hok
      rw [append_of_overflows hover]
      rcases hrun : roll.run.run s with ⟨fault | _, s'⟩
      · rw [hrun] at hok
        cases hok
      · rw [hrun] at hafter
        rw [isOpen_put, hafter]
    · rw [append_of_fits hover, if_pos hopen, isOpen_put, hopen]

/-- A log whose first backup is a directory. -/
def blockedLogs : State (List UInt8) where
  disk := .ofTree ⟨[(["logs"], .directory), (["logs", "app.log"], .file [[1, 2, 3, 4]]),
    (["logs", "app.log.1"], .directory)]⟩
  log := ⟨⟨"logs"⟩, "app", 2, 5, true, 4⟩

/-- A buffer over the limit costs the log its file, and one that fits does not. -/
theorem append_outage_blockedLogs :
    blockedLogs.log.isOpen = true ∧
      (roll.run.run blockedLogs).1 = .error (.file .isDirectory) ∧
      (∀ t, Later (append blockedLogs [5, 6]).2 t → Outage blockedLogs.log t) ∧
      ∀ t, Later (append blockedLogs [7]).2 t → Service t := by
  have hroll : (roll.run.run blockedLogs).1 = .error (.file .isDirectory) := rfl
  have hover : blockedLogs.log.Overflows ([5, 6] : List UInt8) := by
    show 5 < 4 + LogUnit.size ([5, 6] : List UInt8)
    decide
  have hfits : ¬ blockedLogs.log.Overflows ([7] : List UInt8) := by
    show ¬ 5 < 4 + LogUnit.size ([7] : List UInt8)
    decide
  exact ⟨rfl, hroll, ((append_outage rfl [5, 6]).1 _ hover hroll).2,
    (append_outage rfl [7]).2 fun hover => absurd hover hfits⟩

/-- The active file is there and can be written, and a buffer that fits is refused nevertheless. -/
theorem append_blockedLogs_unavailable :
    blockedLogs.log.isOpen = true ∧
      ∃ t, append blockedLogs [5, 6] = (.error (.file .isDirectory), t) ∧
        t.log.isOpen = false ∧ t.log.written + LogUnit.size [(7 : UInt8)] ≤ t.log.limit ∧
        t.disk.tree.find t.log.active = .ok (.file [[1, 2, 3, 4]]) ∧
        t.disk.refuses (.write t.log.active) = none ∧
        append t [7] = (.error .unavailable, t) :=
  ⟨rfl, _, rfl, rfl, by decide, rfl, rfl, rfl⟩

end Tabular.RollingFile
