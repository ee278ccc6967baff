import Tabular.Logging.RollingFile
import Tabular.Proofs.Files.Folder
import Tabular.Proofs.Text.Digits

/-!
# The files of a log by their number

The active file has the number 0, and a backup its own. In a directory with nothing else, the steps
of a log are steps on a map from numbers to contents: moving the files on shifts the contents up by
one number, and writing changes the content with the number 0.

## Main definitions

- `RollingFile.fileName`, `RollingFile.file` — names and paths by number
- `RollingFile.Stores` — the directory of a log has given files, and nothing else
- `RollingFile.Unhindered` — the disk refuses nothing, and the names of the files fit
- `RollingFile.Leads` — an action ends as told, and fails only if it is hindered

## Main statements

- `RollingFile.reopen_leads`, `RollingFile.roll_leads`, `RollingFile.put_leads` — the actions of a log
-/

namespace Tabular.RollingFile

/-! ### Names -/

/-- The names of the files of a log. -/
def fileName (stem : String) : Nat → String
  | 0 => stem ++ ".log"
  | index + 1 => stem ++ ".log." ++ toString (index + 1)

/-- The file of a log with a number. -/
def file (r : RollingFile) (index : Nat) : Path := r.directory.join (fileName r.stem index)

theorem backup_eq (r : RollingFile) (index : Nat) : r.backup (index + 1) = r.file (index + 1) := rfl

theorem toString_injective {m n : Nat} (h : toString m = toString n) : m = n := by
  have hdigits : Nat.toDigits 10 m = Nat.toDigits 10 n := by
    rw [← Nat.toList_repr, ← Nat.toList_repr]
    exact congrArg String.toList h
  calc
    m = Nat.ofDigitChars 10 (Nat.toDigits 10 m) 0 := Nat.ofDigitChars_ten_toDigits.symm
    _ = Nat.ofDigitChars 10 (Nat.toDigits 10 n) 0 := by rw [hdigits]
    _ = n := Nat.ofDigitChars_ten_toDigits

theorem not_mem_toString (n : Nat) : '/' ∉ (toString n).toList := by
  intro hmem
  exact absurd (Digits.isDigit_of_mem_toString hmem) (by decide)

theorem not_mem_safeName (name : String) : '/' ∉ (safeName name).toList := by
  rw [safeName, String.toList_map, List.mem_map]
  rintro ⟨c, -, hc⟩
  split at hc
  · next hsafe =>
    rw [hc] at hsafe
    revert hsafe
    decide
  · revert hc
    decide

theorem isPlain_of_length {name : String} (hslash : '/' ∉ name.toList) (hlength : 2 < name.length) :
    Path.IsPlain name := by
  refine ⟨?_, hslash, ?_⟩
  · rintro rfl
    revert hlength
    decide
  · rw [Path.isName, Bool.and_eq_true, decide_eq_true_eq, decide_eq_true_eq]
    constructor
    · rintro rfl
      revert hlength
      decide
    · rintro rfl
      revert hlength
      decide

theorem length_fileName_zero (stem : String) : (fileName stem 0).length = stem.length + 4 := by
  rw [fileName, String.length_append]
  rfl

theorem length_fileName_succ (stem : String) (index : Nat) :
    (fileName stem (index + 1)).length = stem.length + 5 + (toString (index + 1)).length := by
  rw [fileName, String.length_append, String.length_append]
  rfl

/-- The files of a log have names of their own. -/
theorem isNaming_fileName {stem : String} (hstem : '/' ∉ stem.toList) :
    IsNaming (fileName stem) where
  injective i j h := by
    have hlength := congrArg String.length h
    cases i with
    | zero =>
      cases j with
      | zero => rfl
      | succ j =>
        rw [length_fileName_zero, length_fileName_succ] at hlength
        omega
    | succ i =>
      cases j with
      | zero =>
        rw [length_fileName_zero, length_fileName_succ] at hlength
        omega
      | succ j => exact toString_injective ((String.append_right_inj _).1 h)
  plain i := by
    cases i with
    | zero =>
      refine isPlain_of_length ?_ (by rw [length_fileName_zero]; omega)
      rw [fileName, String.toList_append, List.mem_append, not_or]
      exact ⟨hstem, by decide⟩
    | succ i =>
      refine isPlain_of_length ?_ (by rw [length_fileName_succ]; omega)
      rw [fileName, String.toList_append, String.toList_append, List.mem_append, List.mem_append,
        not_or, not_or]
      exact ⟨⟨hstem, by decide⟩, not_mem_toString _⟩

/-! ### Actions that fail only if they are hindered -/

section Leads

variable {β γ δ : Type} {fine : Prop} {s : State β}

/-- An action ends as told if it succeeds, and it succeeds unless it is hindered. -/
def Leads (fine : Prop) (x : Action β γ) (s : State β) (post : γ → State β → Prop) : Prop :=
  Meets fine (x.run.run s).1 fun a => post a (x.run.run s).2

theorem run_bind (x : Action β γ) (f : γ → Action β δ) :
    (x >>= f).run.run s = match x.run.run s with
      | (.ok a, s') => (f a).run.run s'
      | (.error fault, s') => (.error fault, s') := by
  show (match x.run.run s with
      | (outcome, s') => (ExceptT.bindCont f outcome).run s') = _
  rcases x.run.run s with ⟨fault | a, s'⟩
  · rfl
  · rfl

namespace Leads

theorem pure {a : γ} {post : γ → State β → Prop} (h : post a s) : Leads fine (pure a) s post :=
  Meets.ok h

theorem get : Leads fine get s fun a s' => s = a ∧ s = s' := Meets.ok ⟨rfl, rfl⟩

theorem modify {change : State β → State β} :
    Leads fine (modify change) s fun _ s' => change s = s' := Meets.ok rfl

theorem isThere {p : Path} :
    Leads fine (isThere p) s fun found s' => s.disk.tree.hasPath p = found ∧ s = s' :=
  Meets.ok ⟨rfl, rfl⟩

theorem imp {x : Action β γ} {mid post : γ → State β → Prop} (h : Leads fine x s mid)
    (himp : ∀ a s', mid a s' → post a s') : Leads fine x s post :=
  Meets.imp h fun a => himp a _

theorem bind {x : Action β γ} {f : γ → Action β δ} {mid : γ → State β → Prop}
    {post : δ → State β → Prop} (h : Leads fine x s mid)
    (hf : ∀ a s', mid a s' → Leads fine (f a) s' post) : Leads fine (x >>= f) s post := by
  rw [Leads] at h
  rw [Leads, run_bind]
  rcases hx : x.run.run s with ⟨fault | a, s'⟩
  · rw [hx] at h
    exact h.of_error
  · rw [hx] at h
    exact hf a s' (h.sound a rfl)

/-- A call changes the disk as it does, and leaves the log alone. -/
theorem call {change : Disk (LogContent β) → Except FileFault (Disk (LogContent β))}
    {mid : Disk (LogContent β) → Prop} {post : Unit → State β → Prop}
    (h : Meets fine (change s.disk) mid) (hpost : ∀ disk, mid disk → post () { s with disk }) :
    Leads fine (call change) s post := by
  refine Leads.get.bind ?_
  rintro _ _ ⟨rfl, rfl⟩
  split
  · next disk hdisk => exact Meets.ok (hpost disk (h.sound disk hdisk))
  · next fault hfault =>
    rw [hfault] at h
    exact h.of_error

/-- A call that succeeds changes the disk as it does. -/
theorem of_call {change : Disk (LogContent β) → Except FileFault (Disk (LogContent β))}
    {post : Unit → State β → Prop}
    (h : ∀ disk, change s.disk = .ok disk → post () { s with disk }) :
    Leads False (RollingFile.call change) s post :=
  Leads.call ⟨fun _ hdisk => hdisk, False.elim⟩ h

/-- What an action leads to is so after a run that succeeds. -/
theorem of_run {x : Action β γ} {post : γ → State β → Prop} {a : γ} {s' : State β}
    (h : Leads fine x s post) (hrun : x.run.run s = (.ok a, s')) : post a s' := by
  rw [Leads, hrun] at h
  exact h.sound a rfl

/-- A directory that is there is left as it is. -/
theorem makeDirectories {p : Path}
    (h : Meets fine (s.disk.makeDirectories p).2 fun _ => (s.disk.makeDirectories p).1 = s.disk) :
    Leads fine (makeDirectories p) s fun _ s' => s = s' := by
  refine Leads.get.bind ?_
  rintro _ _ ⟨rfl, rfl⟩
  rcases hmake : s.disk.makeDirectories p with ⟨disk, fault | _⟩
  · rw [hmake] at h
    exact h.of_error
  · rw [hmake] at h
    obtain rfl : disk = s.disk := h.sound () rfl
    exact Meets.ok rfl

/-- A buffer is put into the active file, after the files were moved on or without that. -/
theorem write [LogUnit β] {buffer : β} {post : Unit → State β → Prop}
    (hroll : s.log.limit < s.log.written + LogUnit.size buffer → Leads fine roll s
      fun _ s' => s'.log.isOpen = true ∧ Leads fine (put buffer) s' post)
    (hput : s.log.written + LogUnit.size buffer ≤ s.log.limit →
      s.log.isOpen = true ∧ Leads fine (put buffer) s post) :
    Leads fine (write buffer) s post := by
  have hopen : ∀ s : State β, s.log.isOpen = true → Leads fine (put buffer) s post →
      Leads fine (do if (← MonadState.get).log.isOpen then put buffer else throw .unavailable) s
        post := by
    intro s hs h
    refine Leads.get.bind ?_
    rintro _ _ ⟨rfl, rfl⟩
    rwa [if_pos hs]
  refine Leads.get.bind ?_
  rintro _ _ ⟨rfl, rfl⟩
  dsimp only
  split
  · next hover =>
    refine (hroll hover).bind ?_
    rintro _ s₁ ⟨hs₁, h₁⟩
    exact hopen s₁ hs₁ h₁
  · next hfits =>
    obtain ⟨hs, h⟩ := hput (by omega)
    exact hopen s hs h

end Leads

end Leads

/-! ### The files on the disk -/

section Stores

variable {β : Type} {refuses : FileCall → Option FileFault} {r : RollingFile}
  {place : Location} {files : Nat → Option (LogContent β)} {s : State β} {i j : Nat}
  {isOpen : Bool} {written : Nat}

/-- A disk refuses what is told, and the directory of a log on it has the given files. -/
structure Stores (refuses : FileCall → Option FileFault) (r : RollingFile) (place : Location)
    (files : Nat → Option (LogContent β)) (d : Disk (LogContent β)) : Prop where
  refuses : d.refuses = refuses
  holds : d.tree.Holds r.directory place (fileName r.stem) files

/-- Nothing is refused, and the names of all files that are kept can be looked up. -/
structure Unhindered (refuses : FileCall → Option FileFault) (r : RollingFile) : Prop where
  allowed : ∀ call, refuses call = none
  fits : ∀ index < r.keep, r.directory.Fits (fileName r.stem index)

theorem Stores.congr {d : Disk (LogContent β)} {after : Nat → Option (LogContent β)}
    (h : Stores refuses r place files d) (heq : ∀ i, files i = after i) :
    Stores refuses r place after d := (funext heq) ▸ h

theorem Stores.allowed {d : Disk (LogContent β)} {call : FileCall}
    (h : Stores refuses r place files d) (hyes : Unhindered refuses r) : d.refuses call = none := by
  rw [h.refuses, hyes.allowed]

theorem update_none (h : files i = none) : Function.update files i none = files := by
  rw [← h, Function.update_eq_self]

/-- A call on the files of a log leaves other ones, and neither the log nor the refusals change. -/
theorem call_leads {fine : Prop}
    {change : Disk (LogContent β) → Except FileFault (Disk (LogContent β))}
    {after : Nat → Option (LogContent β)} (h : Stores refuses r place files s.disk)
    (hcall : Meets fine (change s.disk) fun d => d.refuses = s.disk.refuses ∧
      d.tree.Holds r.directory place (fileName r.stem) after) :
    Leads fine (call change) s fun _ s' =>
      s'.log = s.log ∧ Stores refuses r place after s'.disk := by
  refine Leads.call hcall ?_
  rintro d ⟨hrefuses, hholds⟩
  exact ⟨rfl, hrefuses.trans h.refuses, hholds⟩

/-- Removes the file with a number, if there is one. -/
theorem discard_leads (h : Stores refuses r place files s.disk) (i : Nat) :
    Leads (Unhindered refuses r) (discard (r.file i)) s fun _ s' =>
      s'.log = s.log ∧ Stores refuses r place (Function.update files i none) s'.disk := by
  refine Leads.isThere.bind ?_
  rintro _ _ ⟨rfl, rfl⟩
  rw [file, h.holds.hasPath i]
  cases hi : files i with
  | none =>
    refine Leads.pure ⟨rfl, ?_⟩
    rwa [update_none hi]
  | some content =>
    rw [Option.isSome_some, if_pos rfl]
    exact call_leads h (Disk.remove_meets h.holds hi fun hyes => h.allowed hyes)

/-- Moves the file with a number to another number that is free, if there is one. -/
theorem shift_leads (h : Stores refuses r place files s.disk) (hij : i ≠ j) (hj : files j = none)
    (hkeep : j < r.keep) :
    Leads (Unhindered refuses r) (shift (r.file i) (r.file j)) s fun _ s' => s'.log = s.log ∧
      Stores refuses r place (Function.update (Function.update files j (files i)) i none)
        s'.disk := by
  refine Leads.isThere.bind ?_
  rintro _ _ ⟨rfl, rfl⟩
  rw [file, h.holds.hasPath i]
  cases hi : files i with
  | none =>
    refine Leads.pure ⟨rfl, ?_⟩
    rwa [update_none hj, update_none hi]
  | some content =>
    rw [Option.isSome_some, if_pos rfl, ← hi]
    exact call_leads h (Disk.rename_meets h.holds hij hi (fun hyes => hyes.fits j hkeep)
      fun hyes => h.allowed hyes)

/-- The files after those with the numbers from 1 to `last` have moved up by one. -/
def shifted (last : Nat) (files : Nat → Option (LogContent β)) (i : Nat) :
    Option (LogContent β) :=
  if i = 1 then none else if 1 < i ∧ i ≤ last + 1 then files (i - 1) else files i

/-- Moves the backups up, from the last one down, so that each finds its new number free. -/
theorem shiftBackups_leads {last : Nat} (h : Stores refuses r place files s.disk)
    (hfree : files (last + 1) = none) (hkeep : last + 1 < r.keep) :
    Leads (Unhindered refuses r) (r.shiftBackups last) s fun _ s' =>
      s'.log = s.log ∧ Stores refuses r place (shifted last files) s'.disk := by
  induction last generalizing files s with
  | zero =>
    refine Leads.pure ⟨rfl, h.congr fun i => ?_⟩
    rw [shifted]
    split
    · next hi => rwa [hi]
    · rw [if_neg (by omega)]
  | succ last ih =>
    rw [shiftBackups, backup_eq, backup_eq]
    refine (shift_leads (i := last + 1) h (by omega) hfree hkeep).bind ?_
    rintro _ s₁ ⟨hlog, h₁⟩
    refine (ih h₁ (Function.update_self _ _ _) (by omega)).imp ?_
    rintro _ s₂ ⟨hlog₂, h₂⟩
    refine ⟨hlog₂.trans hlog, h₂.congr fun i => ?_⟩
    by_cases hfirst : i = 1
    · rw [shifted, shifted, if_pos hfirst, if_pos hfirst]
    rw [shifted, shifted, if_neg hfirst, if_neg hfirst]
    by_cases htop : i = last + 2
    · -- the number that was moved to
      rw [if_neg (by omega), if_pos (by omega), htop, Function.update_of_ne (by omega),
        Function.update_self]
      rfl
    by_cases hbetween : 1 < i ∧ i ≤ last + 1
    · rw [if_pos hbetween, if_pos (by omega), Function.update_of_ne (by omega),
        Function.update_of_ne (by omega)]
    · rw [if_neg hbetween, if_neg (by omega), Function.update_of_ne (by omega),
        Function.update_of_ne htop]

/-- The files after all have moved on and a new active one was opened. -/
def rolled (keep : Nat) (files : Nat → Option (LogContent β)) : Nat → Option (LogContent β)
  | 0 => some []
  | index + 1 => if index + 1 < keep then files index else files (index + 1)

theorem shiftBackups_with (r : RollingFile) (isOpen : Bool) (written last : Nat) :
    ({ r with isOpen, written } : RollingFile).shiftBackups (β := β) last = r.shiftBackups last := by
  induction last with
  | zero => rfl
  | succ last ih =>
    rw [shiftBackups, shiftBackups, ih]
    rfl

variable [LogUnit β]

theorem sizeAt_eq {d : Disk (LogContent β)} {content : LogContent β}
    (h : Stores refuses r place files d) (hi : files i = some content) :
    sizeAt d (r.file i) = content.size := by
  rw [sizeAt, file, h.holds.find hi]

/-- Opens the active file, and makes it if it is not there. -/
theorem reopen_leads (h : Stores refuses r place files s.disk)
    (hlog : s.log = { r with isOpen, written }) (hkeep : 0 < r.keep) :
    Leads (Unhindered refuses r) reopen s fun _ s' =>
      s'.log = { r with isOpen := true, written := ((files 0).getD []).size } ∧
        Stores refuses r place (Function.update files 0 (some ((files 0).getD []))) s'.disk := by
  obtain ⟨d, log⟩ := s
  subst hlog
  refine Leads.get.bind ?_
  rintro _ _ ⟨rfl, rfl⟩
  refine Leads.bind (x := RollingFile.call (·.append (r.file 0) [])) (call_leads h
    (Disk.append_meets h.holds [] (fun hyes => hyes.fits 0 hkeep) fun hyes => h.allowed hyes)) ?_
  rintro _ s₁ ⟨hlog₁, h₁⟩
  refine Leads.bind (x := RollingFile.call (·.measure (r.file 0))) (call_leads h₁
    (Disk.measure_meets (FileTree.Holds · r.directory place (fileName r.stem) _) h₁.holds
      fun hyes => h₁.allowed hyes)) ?_
  rintro _ s₂ ⟨hlog₂, h₂⟩
  refine Leads.modify.imp ?_
  rintro _ _ rfl
  refine ⟨?_, h₂⟩
  show ({ s₂.log with isOpen := true, written := sizeAt s₂.disk (r.file 0) } : RollingFile) = _
  rw [hlog₂, hlog₁, sizeAt_eq h₂ (Function.update_self _ _ _)]

/-- Moves the files on. -/
theorem roll_leads (h : Stores refuses r place files s.disk)
    (hlog : s.log = { r with isOpen, written }) (hkeep : 0 < r.keep) :
    Leads (Unhindered refuses r) roll s fun _ s' =>
      s'.log = { r with isOpen := true, written := 0 } ∧
        Stores refuses r place (rolled r.keep files) s'.disk := by
  refine Leads.modify.bind ?_
  intro _ s₀ hs₀
  have hlog₀ : s₀.log = { r with isOpen := false, written } := by rw [← hs₀, hlog]
  have h₀ : Stores refuses r place files s₀.disk := by rwa [← hs₀]
  refine Leads.get.bind ?_
  rintro _ _ ⟨rfl, rfl⟩
  rw [hlog₀]
  -- every number is free when a file is moved to it, since the move before has emptied it
  have hopen := fun (files : Nat → Option (LogContent β)) (s : State β)
      (h : Stores refuses r place files s.disk) (hlog : s.log = { r with isOpen := false, written }) =>
    reopen_leads h hlog hkeep
  dsimp only
  split
  · next hlast =>
    refine (discard_leads h₀ 0).bind ?_
    rintro _ s₁ ⟨hlog₁, h₁⟩
    refine (hopen _ s₁ h₁ (hlog₁.trans hlog₀)).imp ?_
    rintro _ s₂ ⟨hlog₂, h₂⟩
    rw [Function.update_self] at hlog₂
    refine ⟨hlog₂, h₂.congr fun i => ?_⟩
    cases i with
    | zero => rw [Function.update_self, Function.update_self]; rfl
    | succ i =>
      rw [Function.update_of_ne (by omega), Function.update_of_ne (by omega), rolled,
        if_neg (by omega)]
  · next last hlast =>
    rw [shiftBackups_with]
    refine (discard_leads h₀ (last + 1)).bind ?_
    rintro _ s₁ ⟨hlog₁, h₁⟩
    refine (shiftBackups_leads h₁ (Function.update_self _ _ _) (by omega)).bind ?_
    rintro _ s₂ ⟨hlog₂, h₂⟩
    refine (shift_leads (i := 0) (j := 1) h₂ (by omega) rfl (by omega)).bind ?_
    rintro _ s₃ ⟨hlog₃, h₃⟩
    refine (hopen _ s₃ h₃ (hlog₃.trans (hlog₂.trans (hlog₁.trans hlog₀)))).imp ?_
    rintro _ s₄ ⟨hlog₄, h₄⟩
    rw [Function.update_self] at hlog₄
    refine ⟨hlog₄, h₄.congr fun i => ?_⟩
    rcases i with _ | _ | i
    · rfl
    · rw [Function.update_of_ne (by omega), Function.update_of_ne (by omega),
        Function.update_self, shifted, if_neg (by omega), if_neg (by omega),
        Function.update_of_ne (by omega), rolled, if_pos (by omega)]
    · rw [Function.update_of_ne (by omega), Function.update_of_ne (by omega),
        Function.update_of_ne (by omega), shifted, if_neg (by omega), rolled]
      by_cases hi : i + 2 ≤ last + 1
      · rw [if_pos ⟨by omega, hi⟩, if_pos (by omega), Function.update_of_ne (by omega)]
        rfl
      · rw [if_neg (by omega), if_neg (by omega), Function.update_of_ne (by omega)]

/-- Puts a buffer at the end of the active file. -/
theorem put_leads {content : LogContent β} (h : Stores refuses r place files s.disk)
    (hlog : s.log = { r with isOpen, written }) (hactive : files 0 = some content) (buffer : β) :
    Leads (Unhindered refuses r) (put buffer) s fun _ s' =>
      s'.log = { r with isOpen, written := written + LogUnit.size buffer } ∧
        Stores refuses r place (Function.update files 0 (some (content ++ [buffer])))
          s'.disk := by
  refine Leads.get.bind ?_
  rintro _ _ ⟨rfl, rfl⟩
  have hactive' : s.log.active = r.file 0 := by
    rw [hlog]
    rfl
  have hfind : s.disk.tree.find s.log.active = .ok (.file content) := by
    rw [hactive']
    exact h.holds.find hactive
  rw [hfind]
  dsimp only
  rw [hactive']
  refine (call_leads h (Disk.write_meets h.holds hactive _ fun hyes => h.allowed hyes)).bind ?_
  rintro _ s₁ ⟨hlog₁, h₁⟩
  refine Leads.modify.imp ?_
  rintro _ _ rfl
  refine ⟨?_, h₁⟩
  simp only [hlog₁, hlog]

end Stores

end Tabular.RollingFile
