import Mathlib.Data.List.Infix
import Tabular.Proofs.Files.Directory
import Tabular.Proofs.Logging.NumberedFiles

/-!
# Rotated logs lose the oldest bytes only

What a log writes can be followed on lists: a buffer is put behind the active file, or becomes a new
one in front of the others, of which the last one may be dropped. So the files, the oldest one first,
are always a suffix of what was written, and they are as short as the limit says where buffers allow
it. The disk has exactly these files as long as its calls succeed.

## Main definitions

- `LogFiles` — the contents of the files of a log
- `LogFiles.add` — the files after a buffer was written
- `RollingFile.record` — opens a log and writes buffers to it
- `RollingFile.Rotated` — the files on the disk hold the newest of what was written

## Main statements

- `LogFiles.contents_foldl_add` — only the oldest buffers are lost
- `RollingFile.write_leads` — a buffer is written as on lists
- `RollingFile.record_rotates` — a log that is opened in an empty directory holds the newest buffers
-/

namespace Tabular

variable {β : Type}

/-- The files of a log: the active one, and the backups, the newest one first. -/
structure LogFiles (β : Type) where
  active : LogContent β
  backups : List (LogContent β)

/-- The files by their number. -/
def LogFiles.all (files : LogFiles β) : List (LogContent β) := files.active :: files.backups

/-- What the files hold, the oldest buffer first. -/
def LogFiles.contents (files : LogFiles β) : List β := files.all.reverse.flatten

/-! ### Files by number and files as lists -/

namespace RollingFile

/-- Moving the files on is done on lists by a new file in front and a bound on their number. -/
theorem rolled_eq (files : List (LogContent β)) {keep : Nat} (hkeep : 0 < keep)
    (hcount : files.length ≤ keep) (index : Nat) :
    rolled keep (files[·]?) index = ([] :: files.take (keep - 1))[index]? := by
  cases index with
  | zero => rfl
  | succ index =>
    rw [rolled, List.getElem?_cons_succ, List.getElem?_take]
    by_cases hindex : index + 1 < keep
    · rw [if_pos hindex, if_pos (by omega)]
    · rw [if_neg hindex, if_neg (by omega), List.getElem?_eq_none (by omega)]

theorem update_cons (content old : LogContent β) (rest : List (LogContent β)) (index : Nat) :
    Function.update ((old :: rest)[·]?) 0 (some content) index = (content :: rest)[index]? := by
  cases index with
  | zero => rfl
  | succ index => rfl

end RollingFile

variable [LogUnit β]

/-! ### Sizes -/

/-- The bytes of a file. -/
def LogContent.bytes (content : LogContent β) : List UInt8 := content.flatMap LogUnit.bytes

theorem LogContent.size_concat (content : LogContent β) (buffer : β) :
    LogContent.size (content ++ [buffer]) = content.size + LogUnit.size buffer := by
  rw [size, size, List.foldl_append]
  rfl

theorem LogContent.size_singleton (buffer : β) :
    LogContent.size [buffer] = LogUnit.size buffer := by
  simp [size]

theorem LogContent.size_eq_length_bytes (content : LogContent β) :
    content.size = content.bytes.length := by
  induction content using List.reverseRecOn with
  | nil => rfl
  | append_singleton content buffer ih =>
    rw [size_concat, ih, bytes, bytes, List.flatMap_append, List.length_append, LogUnit.size_eq,
      List.flatMap_singleton]

theorem LogContent.size_append (content added : LogContent β) :
    LogContent.size (content ++ added) = content.size + added.size := by
  simp [size_eq_length_bytes, bytes]

namespace LogFiles

variable {keep limit : Nat} {files : LogFiles β}

/-! ### Files as lists -/

/-- The files after a buffer was written, with so many of them and so many bytes in each. -/
def add (keep limit : Nat) (files : LogFiles β) (buffer : β) : LogFiles β :=
  if files.active.size + LogUnit.size buffer > limit then ⟨[buffer], files.all.take (keep - 1)⟩
  else ⟨files.active ++ [buffer], files.backups⟩

theorem contents_add (keep limit : Nat) (files : LogFiles β) (buffer : β) :
    (files.add keep limit buffer).contents <:+ files.contents ++ [buffer] := by
  rw [add]
  split
  · -- the files that are dropped are the ones at the end
    refine ⟨(files.all.drop (keep - 1)).reverse.flatten, ?_⟩
    have hsplit : files.all.reverse =
        (files.all.drop (keep - 1)).reverse ++ (files.all.take (keep - 1)).reverse := by
      rw [← List.reverse_append, List.take_append_drop]
    rw [contents, contents, hsplit]
    simp [all]
  · simp [contents, all]

/-- Of what was there and what is written the oldest is lost. -/
theorem contents_foldl_add (keep limit : Nat) (files : LogFiles β) (buffers : List β) :
    (buffers.foldl (add keep limit) files).contents <:+ files.contents ++ buffers := by
  induction buffers generalizing files with
  | nil => simp
  | cons buffer rest ih =>
    obtain ⟨lost, hlost⟩ := contents_add keep limit files buffer
    have hrest : (files.add keep limit buffer).contents ++ rest <:+
        files.contents ++ buffer :: rest := by
      refine ⟨lost, ?_⟩
      rw [← List.append_assoc, hlost, List.append_assoc, List.singleton_append]
    rw [List.foldl_cons]
    exact (ih _).trans hrest

/-- A file keeps within the limit, or is a buffer that does not. -/
def IsWithin (limit : Nat) (content : LogContent β) : Prop :=
  content.size ≤ limit ∨ ∃ buffer, content = [buffer] ∧ limit < LogUnit.size buffer

theorem isWithin_add (h : ∀ content ∈ files.all, IsWithin limit content) (buffer : β) :
    ∀ content ∈ (files.add keep limit buffer).all, IsWithin limit content := by
  rw [add]
  split
  · intro content hcontent
    rcases List.mem_cons.1 hcontent with rfl | hbackup
    · have hsize := LogContent.size_singleton buffer
      by_cases hbuffer : LogUnit.size buffer ≤ limit
      · exact .inl (hsize ▸ hbuffer)
      · exact .inr ⟨buffer, rfl, by omega⟩
    · exact h content (List.mem_of_mem_take hbackup)
  · next hsize =>
    intro content hcontent
    rcases List.mem_cons.1 hcontent with rfl | hbackup
    · left
      rw [LogContent.size_concat]
      omega
    · exact h content (List.mem_cons_of_mem _ hbackup)

theorem isWithin_foldl_add (h : ∀ content ∈ files.all, IsWithin limit content) (buffers : List β) :
    ∀ content ∈ (buffers.foldl (add keep limit) files).all, IsWithin limit content := by
  induction buffers generalizing files with
  | nil => exact h
  | cons buffer rest ih => exact ih (isWithin_add h buffer)

theorem flatten_bytes (files : LogFiles β) :
    (files.all.reverse.map LogContent.bytes).flatten = files.contents.flatMap LogUnit.bytes := by
  rw [contents, List.flatMap_def, List.map_flatten, List.flatten_flatten, List.map_map]
  rfl

end LogFiles

namespace RollingFile

/-! ### Writing -/

variable {refuses : FileCall → Option FileFault} {r : RollingFile} {place : Location}
  {files : LogFiles β} {s : State β}

/-- A log is open, and has the given files on a disk. -/
structure Stands (refuses : FileCall → Option FileFault) (r : RollingFile) (place : Location)
    (files : LogFiles β) (s : State β) : Prop where
  log : s.log = { r with isOpen := true, written := files.active.size }
  stores : Stores refuses r place (files.all[·]?) s.disk
  count : files.all.length ≤ r.keep

/-- A buffer is written as on lists. -/
theorem write_leads (h : Stands refuses r place files s) (hkeep : 0 < r.keep) (buffer : β) :
    Leads (Unhindered refuses r) (write buffer) s
      fun _ s' => Stands refuses r place (files.add r.keep r.limit buffer) s' := by
  have hwritten : s.log.written = files.active.size := by rw [h.log]
  have hlimit : s.log.limit = r.limit := by rw [h.log]
  have hput : ∀ (content : LogContent β) (backups : List (LogContent β)) (s : State β),
      s.log = { r with isOpen := true, written := content.size } →
      Stores refuses r place ((content :: backups)[·]?) s.disk →
      backups.length < r.keep →
      s.log.isOpen = true ∧ Leads (Unhindered refuses r) (put buffer) s
        fun _ s' => Stands refuses r place ⟨content ++ [buffer], backups⟩ s' := by
    intro content backups s hlog hstores hcount
    refine ⟨by rw [hlog], (put_leads hstores hlog rfl buffer).imp ?_⟩
    rintro _ s' ⟨hlog', hstores'⟩
    refine ⟨?_, hstores'.congr (update_cons _ _ _), hcount⟩
    rw [hlog', LogContent.size_concat]
  refine Leads.write (fun hover => ?_) fun hfits => ?_
  · rw [hwritten, hlimit] at hover
    rw [LogFiles.add, if_pos hover]
    refine (roll_leads h.stores h.log hkeep).imp ?_
    rintro _ s₁ ⟨hlog₁, hstores₁⟩
    have hlength : (files.all.take (r.keep - 1)).length < r.keep := by
      rw [List.length_take]
      omega
    exact hput [] _ s₁ hlog₁ (hstores₁.congr (rolled_eq _ hkeep h.count)) hlength
  · rw [hwritten, hlimit] at hfits
    rw [LogFiles.add, if_neg (by omega)]
    exact hput files.active files.backups s h.log h.stores h.count

/-- A log that is opened in an empty directory has an empty active file. -/
theorem openIn_leads (h : Stores refuses r place (fun _ => none) s.disk) (hkeep : 0 < r.keep)
    {isOpen : Bool} {written : Nat} (hlog : s.log = { r with isOpen, written }) :
    Leads (Unhindered refuses r) (openIn r.directory) s
      fun _ s' => Stands refuses r place ⟨[], []⟩ s' := by
  have hcheck : Unhindered refuses r → r.directory.text = "" ∨ r.directory.check = .ok () := by
    intro hyes
    exact Path.check_of_join (h.holds.naming.plain 0).noSlash (hyes.fits 0 hkeep).1
  refine (Leads.makeDirectories (Disk.makeDirectories_meets h.holds.leads h.holds.directory hcheck
    fun hyes => h.allowed hyes)).bind ?_
  rintro _ _ rfl
  refine (reopen_leads h hlog hkeep).bind ?_
  rintro _ s₁ ⟨hlog₁, h₁⟩
  refine Leads.get.bind ?_
  rintro _ _ ⟨rfl, rfl⟩
  have hwritten : s₁.log.written = 0 := by
    rw [hlog₁]
    rfl
  dsimp only
  rw [if_neg (by omega)]
  refine Leads.pure ⟨hlog₁, h₁.congr fun index => ?_, hkeep⟩
  cases index with
  | zero => rfl
  | succ index => rfl

/-! ### Runs -/

/-- Writes buffers to a log one after the other, until one of them fails. -/
def appendAll (s : State β) : List β → Except LogFault Unit × State β
  | [] => (.ok (), s)
  | buffer :: rest =>
    match append s buffer with
    | (.ok (), s) => appendAll s rest
    | failed => failed

/-- Opens a log and writes buffers to it. -/
def record (d : Disk (LogContent β)) (directory : Path) (name : String) (keep limit : Nat)
    (buffers : List β) : Except LogFault Unit × State β :=
  match start d directory name keep limit with
  | (.ok (), s) => appendAll s buffers
  | failed => failed

theorem appendAll_meets (h : Stands refuses r place files s) (hkeep : 0 < r.keep)
    (buffers : List β) :
    Meets (Unhindered refuses r) (appendAll s buffers).1 fun _ =>
      Stands refuses r place (buffers.foldl (LogFiles.add r.keep r.limit) files)
        (appendAll s buffers).2 := by
  induction buffers generalizing files s with
  | nil => exact Meets.ok h
  | cons buffer rest ih =>
    have hwrite : Meets (Unhindered refuses r) (append s buffer).1 fun _ =>
        Stands refuses r place (files.add r.keep r.limit buffer) (append s buffer).2 :=
      write_leads h hkeep buffer
    rw [appendAll]
    rcases happend : append s buffer with ⟨fault | _, s'⟩
    · rw [happend] at hwrite
      exact hwrite.of_error
    · rw [happend] at hwrite
      exact ih (hwrite.sound () rfl)

/-- The files of a log hold the newest of the buffers that were written to it. Each buffer lies in
one file, and a file is over the limit only if a buffer is. -/
structure Rotated (buffers : List β) (files : LogFiles β) (s : State β) : Prop where
  /-- There is a file for each number up to the last one. -/
  found : ∀ index content, files.all[index]? = some content →
    s.disk.tree.find (s.log.file index) = .ok (.file content)
  absent : ∀ index, files.all.length ≤ index → s.disk.tree.hasPath (s.log.file index) = false
  count : files.all.length ≤ s.log.keep
  written : s.log.written = files.active.bytes.length
  suffix : files.contents <:+ buffers
  bytes : (files.all.reverse.map LogContent.bytes).flatten <:+ buffers.flatMap LogUnit.bytes
  within : ∀ content ∈ files.all, content.bytes.length ≤ s.log.limit ∨
    ∃ buffer, content = [buffer] ∧ s.log.limit < (LogUnit.bytes buffer).length

theorem rotated_of_stands {buffers : List β} (hfiles : files.contents <:+ buffers)
    (hwithin : ∀ content ∈ files.all, LogFiles.IsWithin r.limit content)
    (h : Stands refuses r place files s) : Rotated buffers files s := by
  have hfile : ∀ index, s.log.file index = r.directory.join (fileName r.stem index) := by
    intro index
    rw [h.log]
    rfl
  constructor
  case found =>
    intro index content hcontent
    rw [hfile]
    exact h.stores.holds.find hcontent
  case absent =>
    intro index hindex
    rw [hfile, h.stores.holds.hasPath, List.getElem?_eq_none hindex]
    rfl
  case count =>
    rw [h.log]
    exact h.count
  case written => rw [h.log, LogContent.size_eq_length_bytes]
  case suffix => exact hfiles
  case bytes =>
    obtain ⟨lost, rfl⟩ := hfiles
    rw [LogFiles.flatten_bytes, List.flatMap_append]
    exact List.suffix_append _ _
  case within =>
    intro content hcontent
    have hlimit : s.log.limit = r.limit := by rw [h.log]
    rw [hlimit, ← LogContent.size_eq_length_bytes]
    simp only [← LogUnit.size_eq]
    exact hwithin content hcontent

/-- A log that was opened in an empty directory, and buffers were written to, has the files that come
of adding them on lists, and these hold the newest ones, if no call fails. No call fails if none is
refused and the names of the files fit. -/
theorem record_rotates {d : Disk (LogContent β)} {directory : Path}
    (hempty : d.tree.IsEmptyDirectory directory) (name : String) (keep limit : Nat)
    (buffers : List β) :
    (∀ s, record d directory name keep limit buffers = (.ok (), s) →
      s.log = ⟨directory, safeName name, max keep 1, limit, true, s.log.written⟩ ∧
        Rotated buffers (buffers.foldl (LogFiles.add (max keep 1) limit) ⟨[], []⟩) s) ∧
      ((∀ call, d.refuses call = none) →
        (∀ index < max keep 1, directory.Fits (fileName (safeName name) index)) →
        (record d directory name keep limit buffers).1 = .ok ()) := by
  obtain ⟨place, hholds⟩ := hempty.exists_holds (isNaming_fileName (not_mem_safeName name))
  let r : RollingFile := ⟨directory, safeName name, max keep 1, limit, false, 0⟩
  have hkeep : 0 < r.keep := Nat.le_max_right keep 1
  have hopen : Meets (Unhindered d.refuses r) (start d directory name keep limit).1 fun _ =>
      Stands d.refuses r place ⟨[], []⟩ (start d directory name keep limit).2 :=
    openIn_leads (s := ⟨d, r⟩) ⟨rfl, hholds⟩ hkeep rfl
  have hrecord : Meets (Unhindered d.refuses r) (record d directory name keep limit buffers).1
      fun _ => Stands d.refuses r place (buffers.foldl (LogFiles.add r.keep r.limit) ⟨[], []⟩)
        (record d directory name keep limit buffers).2 := by
    rw [record]
    rcases hstart : start d directory name keep limit with ⟨fault | _, s⟩
    · rw [hstart] at hopen
      exact hopen.of_error
    · rw [hstart] at hopen
      exact appendAll_meets (hopen.sound () rfl) hkeep buffers
  constructor
  · intro s hs
    rw [hs] at hrecord
    have hstands := hrecord.sound () rfl
    refine ⟨by rw [hstands.log], rotated_of_stands ?_ ?_ hstands⟩
    · exact LogFiles.contents_foldl_add _ _ ⟨[], []⟩ buffers
    · refine LogFiles.isWithin_foldl_add ?_ buffers
      intro content hcontent
      rw [List.mem_singleton.1 hcontent]
      exact .inl (Nat.zero_le _)
  · intro hallowed hfits
    obtain ⟨_, hok⟩ := hrecord.total ⟨hallowed, hfits⟩
    exact hok

/-- A tree with one directory, which is empty. -/
def emptyLogs : FileTree (LogContent (List UInt8)) := ⟨[(["logs"], .directory)]⟩

/-- The file that was filled first is lost, and the buffer over the limit has one of its own. -/
theorem record_rotates_emptyLogs :
    emptyLogs.IsEmptyDirectory ⟨"logs"⟩ ∧ ∃ s,
      record (.ofTree emptyLogs) ⟨"logs"⟩ "app" 2 4 [[1, 2], [3, 4], [5], [], [6, 7, 8, 9, 10]] =
        (.ok (), s) ∧
      Rotated [[1, 2], [3, 4], [5], [], [6, 7, 8, 9, 10]]
        ⟨[[6, 7, 8, 9, 10]], [[[5], []]]⟩ s := by
  have hempty : emptyLogs.IsEmptyDirectory ⟨"logs"⟩ := by
    refine ⟨["logs"], rfl, rfl, ?_⟩
    intro name
    rw [FileTree.node?_of_ne_nil (by simp), emptyLogs, FileTree.lookup_cons_of_ne _ _ (by simp)]
    rfl
  have hstem : safeName "app" = "app" := by
    rw [← String.toList_inj, safeName, String.toList_map]
    decide
  have hfits : ∀ index < max 2 1, (Path.mk "logs").Fits (fileName (safeName "app") index) := by
    rw [hstem]
    intro index hindex
    obtain rfl | rfl : index = 0 ∨ index = 1 := by omega
    · exact ⟨rfl, by decide⟩
    · exact ⟨rfl, by decide⟩
  obtain ⟨hsound, htotal⟩ := record_rotates (d := .ofTree emptyLogs) hempty "app" 2 4
    [[1, 2], [3, 4], [5], [], [6, 7, 8, 9, 10]]
  have hok := htotal (fun _ => rfl) hfits
  exact ⟨hempty, _, Prod.ext hok rfl, (hsound _ (Prod.ext hok rfl)).2⟩

end RollingFile

end Tabular
