import Tabular.Proofs.Files.Rename
import Tabular.Proofs.Files.Siblings

/-!
# Directories that are there

Making a directory that is there leaves the disk as it is. The disk may refuse the call for a reason
of its own, and the reason may be the one for which the directories above are tried; then these are
found, and the directory fails again.

## Main statements

- `Disk.ensureDirectory_meets` — a directory that is there is found
- `Disk.makeDirectories_meets` — and nothing is made
-/

namespace Tabular

theorem Path.check_eq_ok_iff {p : Path} :
    p.check = .ok () ↔ '\x00' ∉ p.text.toList ∧ p.text ≠ "" ∧ p.text.utf8ByteSize ≤ longest := by
  rw [check]
  split
  · next hzero => simp_all
  · next hzero =>
    split
    · next hempty => simp_all
    · next hempty =>
      split
      · next hlong => simp_all
      · next hlong => simp_all

/-- A path below another one is refused for what the other one is refused for, unless that is
empty. -/
theorem Path.check_of_join {p : Path} {name : String} (hslash : '/' ∉ name.toList)
    (h : (p.join name).check = .ok ()) : p.text = "" ∨ p.check = .ok () := by
  obtain ⟨middle, htext⟩ := exists_text_join p hslash
  obtain ⟨hzero, -, hsize⟩ := check_eq_ok_iff.1 h
  rw [htext] at hzero hsize
  by_cases hempty : p.text = ""
  · exact .inl hempty
  · refine .inr (check_eq_ok_iff.2 ⟨?_, hempty, ?_⟩)
    · intro hmem
      simp [hmem] at hzero
    · rw [String.utf8ByteSize_append, String.utf8ByteSize_append] at hsize
      omega

namespace FileTree

variable {α : Type} {t : FileTree α} {p : Path} {place : Location}

/-- A path that leads to something ends in a directory that holds it, or leads up or nowhere. -/
theorem exists_edge (hcheck : p.check = .ok ()) (hleads : t.follow p.steps = .ok place) :
    ∃ above name?, t.edge p = .ok (above, name?) ∧
      ∀ name, name? = some name → child above name = .ok place := by
  suffices ∃ above, t.follow p.steps.dropLast = .ok above ∧ t.node? above = some .directory ∧
      ∀ name, p.steps.getLast?.filter Path.isName = some name → child above name = .ok place by
    obtain ⟨above, hfollow, hdir, hchild⟩ := this
    refine ⟨above, _, bind_eq_ok_iff.2 ⟨_, hcheck, bind_eq_ok_iff.2 ⟨_, hfollow, ?_⟩⟩, hchild⟩
    exact bind_eq_ok_iff.2 ⟨_, checkDirectory_eq_ok_iff.2 hdir, rfl⟩
  rcases List.eq_nil_or_concat p.steps with hnil | ⟨front, step, hconcat⟩
  · rw [hnil]
    exact ⟨[], rfl, node?_nil, by simp⟩
  · rw [List.concat_eq_append] at hconcat
    rw [hconcat, follow, List.foldlM_append] at hleads
    obtain ⟨above, hfollow, hlast⟩ := bind_eq_ok_iff.1 hleads
    obtain ⟨_, henter, hend⟩ := bind_eq_ok_iff.1 hlast
    cases hend
    rw [hconcat, List.dropLast_concat, List.getLast?_concat]
    refine ⟨above, hfollow, ?_, ?_⟩
    · obtain ⟨_, hdir, -⟩ := bind_eq_ok_iff.1 henter
      exact checkDirectory_eq_ok_iff.1 hdir
    · intro name hname
      obtain ⟨heq, hisName⟩ := Option.filter_eq_some_iff.1 hname
      obtain rfl := Option.some.inj heq
      exact ((enter_eq_ok_iff hisName).1 henter).2

/-- No directory is made where one is. -/
theorem directorySlot_ne_ok (hleads : t.follow p.steps = .ok place)
    (hdir : t.node? place = some .directory) (target : Location) :
    t.directorySlot p ≠ .ok target := by
  intro h
  obtain ⟨⟨above, name?⟩, hedge, h⟩ := bind_eq_ok_iff.1 h
  cases name? with
  | none => cases h
  | some name =>
    obtain ⟨target', hchild, h⟩ := bind_eq_ok_iff.1 h
    split at h
    · cases h
    · next hfree =>
      have hends : t.EndsAt p target' := ⟨above, name, hedge, hchild⟩
      obtain ⟨_, -, hfollow⟩ := bind_eq_ok_iff.1 hends.locate
      obtain rfl : place = target' := Except.ok.inj (hleads.symm.trans hfollow)
      simp [hdir] at hfree

theorem directorySlot_eq_exists (hcheck : p.check = .ok ())
    (hleads : t.follow p.steps = .ok place) (hdir : t.node? place = some .directory) :
    t.directorySlot p = .error .exists := by
  obtain ⟨above, name?, hedge, hchild⟩ := exists_edge hcheck hleads
  rw [directorySlot, hedge, ok_bind]
  cases name? with
  | none => rfl
  | some name =>
    dsimp only
    rw [hchild name rfl, ok_bind, hdir]
    rfl

theorem directorySlot_eq_error {fault : FileFault} (hcheck : p.check = .error fault) :
    t.directorySlot p = .error fault := by
  rw [directorySlot, edge, hcheck]
  rfl

end FileTree

namespace Disk

variable {α : Type} {d d' : Disk α} {p : Path} {place : Location} {fine : Prop}

theorem refuses_of_ensureDirectory (h : d.ensureDirectory p = .ok d') :
    d'.refuses = d.refuses := by
  rw [ensureDirectory] at h
  split at h
  · split at h
    · rw [← Except.ok.inj h]
    · cases h
  · rw [makeDirectory, attempt] at h
    split at h
    · cases h
    · obtain ⟨tree, -, rfl⟩ := map_eq_ok_iff.1 h
      rfl

/-- A directory that is there is found. -/
theorem ensureDirectory_meets (hleads : d.tree.follow p.steps = .ok place)
    (hdir : d.tree.node? place = some .directory) (hcheck : fine → p.check = .ok ())
    (hrefuse : fine → d.refuses (.makeDirectory p) = none) :
    Meets fine (d.ensureDirectory p) (· = d) where
  sound d' hd' := by
    rw [ensureDirectory] at hd'
    split at hd'
    · split at hd'
      · exact (Except.ok.inj hd').symm
      · cases hd'
    · obtain ⟨target, hslot, -⟩ := map_eq_ok_iff.1 (attempt_eq_ok hd')
      exact absurd hslot (FileTree.directorySlot_ne_ok hleads hdir target)
  total hyes := by
    have hmake : d.makeDirectory p = .error .exists := by
      rw [makeDirectory, attempt, hrefuse hyes]
      dsimp only
      rw [FileTree.directorySlot_eq_exists (hcheck hyes) hleads hdir]
      rfl
    have hfind : d.tree.find p = .ok .directory := by
      refine bind_eq_ok_iff.2 ⟨place, bind_eq_ok_iff.2 ⟨_, hcheck hyes, hleads⟩, ?_⟩
      rw [hdir]
      rfl
    refine ⟨d, ?_⟩
    rw [ensureDirectory, hmake, FileTree.hasDirectory, hfind]
    rfl

/-- If a directory that is there is not found, then it will not be, whatever is made above it. -/
theorem ensureDirectory_eq_notFound (hleads : d.tree.follow p.steps = .ok place)
    (hdir : d.tree.node? place = some .directory) (h : d.ensureDirectory p = .error .notFound)
    (hsame : d'.refuses = d.refuses) : d'.ensureDirectory p = .error .notFound := by
  have hmake : d.makeDirectory p = .error .notFound := by
    rw [ensureDirectory] at h
    split at h
    · split at h <;> cases h
    · exact h
  suffices hmake' : d'.makeDirectory p = .error .notFound by
    rw [ensureDirectory, hmake']
  rw [makeDirectory, attempt] at hmake ⊢
  rw [hsame]
  cases hrefuse : d.refuses (.makeDirectory p) with
  | some fault => rwa [hrefuse] at hmake
  | none =>
    rw [hrefuse] at hmake
    dsimp only at hmake ⊢
    rw [map_eq_error_iff] at hmake ⊢
    cases hcheck : p.check with
    | ok _ =>
      rw [FileTree.directorySlot_eq_exists hcheck hleads hdir] at hmake
      cases hmake
    | error fault =>
      rw [FileTree.directorySlot_eq_error hcheck] at hmake ⊢
      exact hmake

theorem makeEach_ne_ok {paths : List Path}
    (hstuck : ∀ d' : Disk α, d'.refuses = d.refuses → d'.ensureDirectory p = .error .notFound)
    (hmem : p ∈ paths) : (d.makeEach paths).2 ≠ .ok () := by
  induction paths generalizing d with
  | nil => cases hmem
  | cons q rest ih =>
    rw [makeEach]
    split
    · next made hmade =>
      have hsame := refuses_of_ensureDirectory hmade
      rcases List.mem_cons.1 hmem with rfl | hmem
      · rw [hstuck d rfl] at hmade
        cases hmade
      · exact ih (fun d' hd' => hstuck d' (hd'.trans hsame)) hmem
    · exact nofun

/-- The way up leaves the refusals alone and forgets no path that was passed. -/
theorem reach_eq_ok {passed passed' above : List Path}
    (h : d.reach passed above = .ok (d', passed')) :
    d'.refuses = d.refuses ∧ passed ⊆ passed' := by
  induction above generalizing passed with
  | nil =>
    obtain ⟨rfl, rfl⟩ := Prod.mk.inj (Except.ok.inj h)
    exact ⟨rfl, List.Subset.refl _⟩
  | cons q rest ih =>
    rw [reach] at h
    split at h
    · next made hmade =>
      obtain ⟨rfl, rfl⟩ := Prod.mk.inj (Except.ok.inj h)
      exact ⟨refuses_of_ensureDirectory hmade, List.Subset.refl _⟩
    · obtain ⟨hsame, hsub⟩ := ih h
      exact ⟨hsame, List.Subset.trans (List.subset_cons_self _ _) hsub⟩
    · cases h

/-- Making a directory that is there, and those on the way to it, makes nothing. -/
theorem makeDirectories_meets (hleads : d.tree.follow p.steps = .ok place)
    (hdir : d.tree.node? place = some .directory) (hcheck : fine → p.text = "" ∨ p.check = .ok ())
    (hrefuse : fine → d.refuses (.makeDirectory p) = none) :
    Meets fine (d.makeDirectories p).2 fun _ => (d.makeDirectories p).1 = d := by
  rw [makeDirectories, Path.ancestors]
  cases hnames : p.names.length with
  | zero => exact Meets.ok rfl
  | succ n =>
    have hne : p.text ≠ "" := by
      intro hempty
      simp [Path.names, Path.steps, hempty, Path.parts] at hnames
    have hfound := ensureDirectory_meets hleads hdir
      (fun hyes => (hcheck hyes).resolve_left hne) hrefuse
    rw [Path.ancestorsUpTo, reach]
    cases hensure : d.ensureDirectory p with
    | ok made =>
      obtain rfl := hfound.sound made hensure
      exact Meets.ok rfl
    | error fault =>
      have hnot : ¬ fine := by
        intro hyes
        obtain ⟨made, hmade⟩ := hfound.total hyes
        rw [hensure] at hmade
        cases hmade
      refine ⟨?_, fun hyes => absurd hyes hnot⟩
      intro _ hok
      exfalso
      split at hok
      · next made passed hreach =>
        split at hreach
        · next hok' => cases hok'
        · next hfault =>
          obtain ⟨hsame, hsub⟩ := reach_eq_ok hreach
          have hnotFound := hensure.trans hfault
          refine makeEach_ne_ok (fun d' hd' => ?_) (hsub (List.mem_singleton_self p)) hok
          exact ensureDirectory_eq_notFound hleads hdir hnotFound (hd'.trans hsame)
        · cases hreach
      · cases hok

end Disk

end Tabular
