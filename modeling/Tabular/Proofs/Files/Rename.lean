import Mathlib.Data.List.Infix
import Tabular.Proofs.Chain
import Tabular.Files.Disk

/-!
# Files that are moved

A file that is moved is found where it was moved to. The move changes what stands at the two ends
only, and neither end lies on a way to anything: a way leads through directories, the moved node is
a file, and a file never takes the place of a directory.

## Main definitions

- `FileTree.IsReached` — all locations above a location hold directories
- `FileTree.EndsAt` — a path ends in a name that leads to a location

## Main statements

- `FileTree.follow_of_keeps` — steps lead to the same place in a tree that keeps the directories
- `FileTree.node?_move` — what stands at the target of a move
- `Disk.find_of_rename` — a renamed file is found at its new path
-/

namespace Tabular

namespace FileTree

variable {α : Type} {t u : FileTree α}

theorem checkDirectory_eq_ok_iff {place : Location} :
    t.checkDirectory place = .ok () ↔ t.node? place = some .directory := by
  rw [checkDirectory]
  split
  · next h => simp [h]
  · next h => simp [h]
  · next h => simp [h]

theorem node?_nil : t.node? [] = some .directory := by
  rw [node?, if_pos rfl]

theorem node?_of_ne_nil {place : Location} (h : place ≠ []) :
    t.node? place = t.entries.lookup place := by
  rw [node?, if_neg h]

theorem ne_nil_of_node?_eq_file {place : Location} {content : α}
    (h : t.node? place = some (.file content)) : place ≠ [] := by
  rintro rfl
  simp [node?_nil] at h

/-! ### Ways through a tree -/

/-- All locations above a location hold directories. -/
def IsReached (t : FileTree α) (place : Location) : Prop :=
  ∀ above, above <+: place → above ≠ place → t.node? above = some .directory

theorem isReached_nil : t.IsReached [] := by
  intro above h hne
  exact absurd (List.prefix_nil.1 h) hne

theorem child_eq_ok_iff {place target : Location} {name : String} :
    child place name = .ok target ↔
      name.utf8ByteSize ≤ Path.longestName ∧ target = place ++ [name] := by
  rw [child]
  split
  · next hlong => simp [Nat.not_le.2 hlong]
  · next hlong => simp [Nat.not_lt.1 hlong, eq_comm]

theorem child_eq_ok {place target : Location} {name : String}
    (h : child place name = .ok target) : target = place ++ [name] :=
  (child_eq_ok_iff.1 h).2

theorem child_ne_nil {place target : Location} {name : String}
    (h : child place name = .ok target) : target ≠ [] := by
  rw [child_eq_ok h]
  simp

/-- A step into a name leads to the name, if it is taken in a directory. -/
theorem enter_eq_ok_iff {place target : Location} {step : String} (h : Path.isName step = true) :
    t.enter place step = .ok target ↔
      t.node? place = some .directory ∧ child place step = .ok target := by
  simp only [Path.isName, Bool.and_eq_true, decide_eq_true_eq] at h
  rw [enter, if_neg h.1, if_neg h.2, ← checkDirectory_eq_ok_iff]
  refine bind_eq_ok_iff.trans ⟨?_, fun hboth => ⟨(), hboth⟩⟩
  rintro ⟨_, hboth⟩
  exact hboth

/-- A step is taken in a directory, and leads to a location all of whose upper ones are directories
too. -/
theorem isReached_of_enter {place next : Location} {step : String}
    (h : t.enter place step = .ok next) (hplace : t.IsReached place) :
    t.node? place = some .directory ∧ t.IsReached next := by
  rw [enter] at h
  obtain ⟨_, hcheck, h⟩ := bind_eq_ok_iff.1 h
  have hdir := checkDirectory_eq_ok_iff.1 hcheck
  refine ⟨hdir, ?_⟩
  split at h
  · cases h
    exact hplace
  split at h
  · cases h
    intro above habove hne
    refine hplace above (habove.trans (List.dropLast_prefix place)) ?_
    rintro rfl
    exact hne (List.IsPrefix.eq_of_length habove (by
      have := habove.length_le
      simp only [List.length_dropLast] at this ⊢
      omega))
  · rw [child_eq_ok h]
    intro above habove hne
    rcases List.prefix_concat_iff.1 habove with rfl | habove
    · exact absurd rfl hne
    by_cases heq : above = place
    · exact heq ▸ hdir
    · exact hplace above habove heq

/-- Steps lead to the same place in a tree that keeps the directories on the way. -/
theorem follow_of_keeps
    (keeps : ∀ place, t.IsReached place → t.node? place = some .directory →
      u.node? place = some .directory)
    {steps : List String} {place : Location} (h : t.follow steps = .ok place) :
    u.follow steps = .ok place ∧ t.IsReached place := by
  suffices ∀ start, t.IsReached start → steps.foldlM t.enter start = .ok place →
      steps.foldlM u.enter start = .ok place ∧ t.IsReached place from
    this [] isReached_nil h
  clear h
  induction steps with
  | nil =>
    intro start hstart h
    cases h
    exact ⟨rfl, hstart⟩
  | cons step steps ih =>
    intro start hstart h
    rw [List.foldlM_cons] at h ⊢
    obtain ⟨next, hnext, h⟩ := bind_eq_ok_iff.1 h
    obtain ⟨hdir, hreached⟩ := isReached_of_enter hnext hstart
    have hu : u.enter start step = .ok next := by
      rw [enter] at hnext ⊢
      rw [checkDirectory_eq_ok_iff.2 (keeps start hstart hdir)]
      rwa [checkDirectory_eq_ok_iff.2 hdir] at hnext
    obtain ⟨hrest, hplace⟩ := ih next hreached h
    exact ⟨bind_eq_ok_iff.2 ⟨next, hu, hrest⟩, hplace⟩

/-- Only the directories of a tree take part in where its paths lead. -/
theorem locate_congr (h : ∀ place, t.checkDirectory place = u.checkDirectory place) (p : Path) :
    t.locate p = u.locate p := by
  have henter : t.enter = u.enter := by
    funext place step
    rw [enter, enter, h place]
  rw [locate, locate, follow, follow, henter]

theorem locate_of_keeps
    (keeps : ∀ place, t.IsReached place → t.node? place = some .directory →
      u.node? place = some .directory)
    {p : Path} {place : Location} (h : t.locate p = .ok place) : u.locate p = .ok place := by
  obtain ⟨_, hcheck, h⟩ := bind_eq_ok_iff.1 h
  exact bind_eq_ok_iff.2 ⟨_, hcheck, (follow_of_keeps keeps h).1⟩

/-- A path ends in a name, and the name leads to a location. -/
def EndsAt (t : FileTree α) (p : Path) (target : Location) : Prop :=
  ∃ place name, t.edge p = .ok (place, some name) ∧ child place name = .ok target

theorem edge_eq_ok {p : Path} {place : Location} {name? : Option String}
    (h : t.edge p = .ok (place, name?)) :
    p.check = .ok () ∧ t.follow p.steps.dropLast = .ok place ∧
      t.node? place = some .directory ∧ name? = p.steps.getLast?.filter Path.isName := by
  rw [edge] at h
  obtain ⟨_, hcheck, h⟩ := bind_eq_ok_iff.1 h
  obtain ⟨_, hfollow, h⟩ := bind_eq_ok_iff.1 h
  obtain ⟨_, hdir, h⟩ := bind_eq_ok_iff.1 h
  obtain ⟨rfl, rfl⟩ := Prod.mk.inj (Except.ok.inj h)
  exact ⟨hcheck, hfollow, checkDirectory_eq_ok_iff.1 hdir, rfl⟩

namespace EndsAt

variable {p : Path} {target : Location}

theorem ne_nil (h : t.EndsAt p target) : target ≠ [] := by
  obtain ⟨place, name, -, hchild⟩ := h
  exact child_ne_nil hchild

/-- The name in which a path ends is the last one of the location. -/
theorem exists_name (h : t.EndsAt p target) :
    ∃ name, p.steps.getLast? = some name ∧ Path.isName name = true ∧
      target.getLast? = some name := by
  obtain ⟨place, name, hedge, hchild⟩ := h
  obtain ⟨-, -, -, hname⟩ := edge_eq_ok hedge
  obtain ⟨hlast, hisName⟩ := Option.filter_eq_some_iff.1 hname.symm
  exact ⟨name, hlast, hisName, by rw [child_eq_ok hchild, List.getLast?_concat]⟩

/-- A path that ends in a name leads to its location. -/
theorem locate (h : t.EndsAt p target) : t.locate p = .ok target := by
  obtain ⟨place, name, hedge, hchild⟩ := h
  obtain ⟨hcheck, hfollow, hdir, hname⟩ := edge_eq_ok hedge
  obtain ⟨hlast, hisName⟩ := Option.filter_eq_some_iff.1 hname.symm
  have hsteps : p.steps = p.steps.dropLast ++ [name] := by
    rw [List.dropLast_append_getLast? name hlast]
  refine bind_eq_ok_iff.2 ⟨_, hcheck, ?_⟩
  rw [hsteps, follow, List.foldlM_append]
  refine bind_eq_ok_iff.2 ⟨_, hfollow, ?_⟩
  exact bind_eq_ok_iff.2 ⟨target, (enter_eq_ok_iff hisName).2 ⟨hdir, hchild⟩, rfl⟩

/-- All locations above the end of a path hold directories. -/
theorem isReached (h : t.EndsAt p target) : t.IsReached target := by
  obtain ⟨_, -, hfollow⟩ := bind_eq_ok_iff.1 h.locate
  exact (follow_of_keeps (fun _ _ hdir => hdir) hfollow).2

/-- A path has the same end in a tree that keeps the directories. -/
theorem of_keeps
    (keeps : ∀ place, t.IsReached place → t.node? place = some .directory →
      u.node? place = some .directory)
    (h : t.EndsAt p target) : u.EndsAt p target := by
  obtain ⟨place, name, hedge, hchild⟩ := h
  obtain ⟨hcheck, hfollow, hdir, hname⟩ := edge_eq_ok hedge
  obtain ⟨hfollow', hreached⟩ := follow_of_keeps keeps hfollow
  refine ⟨place, name, ?_, hchild⟩
  rw [edge]
  refine bind_eq_ok_iff.2 ⟨_, hcheck, bind_eq_ok_iff.2 ⟨_, hfollow', ?_⟩⟩
  refine bind_eq_ok_iff.2 ⟨_, checkDirectory_eq_ok_iff.2 (keeps place hreached hdir), ?_⟩
  rw [← hname]
  rfl

end EndsAt

/-! ### Changes of a tree -/

theorem lookup_cons_of_ne {place k : Location} (node : FileNode α)
    (rest : List (Location × FileNode α)) (h : place ≠ k) :
    List.lookup place ((k, node) :: rest) = List.lookup place rest := by
  rw [List.lookup_cons, beq_false_of_ne h]

theorem lookup_put_of_ne {place other : Location} (node : FileNode α) (h : other ≠ place) :
    (t.put place node).entries.lookup other = t.entries.lookup other := by
  rw [put]
  split
  · induction t.entries with
    | nil => rfl
    | cons entry rest ih =>
      obtain ⟨k, old⟩ := entry
      rw [List.map_cons]
      by_cases hk : k = place
      · rw [if_pos hk, lookup_cons_of_ne _ _ h, lookup_cons_of_ne _ _ (hk ▸ h), ih]
      · rw [if_neg hk, List.lookup_cons, List.lookup_cons, ih]
  · rw [List.lookup_append, lookup_cons_of_ne _ _ h, List.lookup_nil, Option.or_none]

theorem lookup_put_self {place : Location} (node : FileNode α) :
    (t.put place node).entries.lookup place = some node := by
  rw [put]
  split
  · next hsome =>
    revert hsome
    induction t.entries with
    | nil =>
      intro hsome
      cases hsome
    | cons entry rest ih =>
      intro hsome
      obtain ⟨k, old⟩ := entry
      rw [List.map_cons]
      by_cases hk : k = place
      · rw [if_pos hk, List.lookup_cons_self]
      · rw [lookup_cons_of_ne _ _ (Ne.symm hk)] at hsome
        rw [if_neg hk, lookup_cons_of_ne _ _ (Ne.symm hk)]
        exact ih hsome
  · next hnone =>
    rw [List.lookup_append, Option.not_isSome_iff_eq_none.1 hnone, List.lookup_cons_self]
    rfl

theorem node?_put_of_ne {place other : Location} (node : FileNode α) (h : other ≠ place) :
    (t.put place node).node? other = t.node? other := by
  rw [node?, node?, lookup_put_of_ne node h]

theorem node?_put_self {place : Location} (node : FileNode α) (h : place ≠ []) :
    (t.put place node).node? place = some node := by
  rw [node?_of_ne_nil h, lookup_put_self]

/-- A file that is written over a file blocks the same ways. -/
theorem locate_put_file {place : Location} {old new : α} (hold : t.node? place = some (.file old))
    (p : Path) : (t.put place (.file new)).locate p = t.locate p := by
  refine locate_congr (fun way => ?_) p
  by_cases hway : way = place
  · rw [checkDirectory, checkDirectory, hway, node?_put_self _ (ne_nil_of_node?_eq_file hold), hold]
  · rw [checkDirectory, checkDirectory, node?_put_of_ne _ hway]

/-- Entries that are kept under new locations are found where exactly their old ones lead. -/
theorem lookup_relocated (keep : Location → Bool) (move : Location → Location)
    {source target : Location} (h : ∀ k, (keep k = true ∧ move k = target) ↔ k = source)
    (entries : List (Location × FileNode α)) :
    ((entries.filter fun entry => keep entry.1).map fun entry =>
      (move entry.1, entry.2)).lookup target = entries.lookup source := by
  induction entries with
  | nil => rfl
  | cons entry rest ih =>
    obtain ⟨k, node⟩ := entry
    rw [List.filter_cons]
    by_cases hk : k = source
    · obtain ⟨hkeep, hmove⟩ := (h k).2 hk
      rw [if_pos hkeep, List.map_cons, hmove, hk, List.lookup_cons_self, List.lookup_cons_self]
    · rw [lookup_cons_of_ne _ _ (Ne.symm hk), ← ih]
      split
      · next hkeep =>
        have hmove : target ≠ move k := fun heq => hk ((h k).1 ⟨hkeep, heq.symm⟩)
        rw [List.map_cons, lookup_cons_of_ne _ _ hmove]
      · rfl

theorem relocate_of_below {source target place : Location} (h : source <+: place) :
    relocate source target place = target ++ place.drop source.length :=
  if_pos (List.isPrefixOf_iff_prefix.2 h)

theorem relocate_of_not_below {source target place : Location} (h : ¬ source <+: place) :
    relocate source target place = place :=
  if_neg (mt List.isPrefixOf_iff_prefix.1 h)

/-- A move brings what stood at its source to its target. -/
theorem node?_move {source target : Location} (hsource : source ≠ []) (htarget : target ≠ [])
    (hne : source ≠ target) : (t.move source target).node? target = t.node? source := by
  rw [node?_of_ne_nil htarget, node?_of_ne_nil hsource]
  refine lookup_relocated (· ≠ target) (relocate source target) ?_ t.entries
  intro k
  rw [decide_eq_true_eq]
  constructor
  · rintro ⟨hk, hmove⟩
    by_cases hbelow : source <+: k
    · obtain ⟨below, rfl⟩ := hbelow
      rw [relocate_of_below (List.prefix_append _ _), List.drop_left] at hmove
      simpa using hmove
    · rw [relocate_of_not_below hbelow] at hmove
      exact absurd hmove hk
  · rintro rfl
    refine ⟨hne, ?_⟩
    rw [relocate_of_below List.prefix_rfl]
    simp

/-- A move leaves alone what is neither at one of its ends nor below. -/
theorem node?_move_of_not_below {source target place : Location} (hsource : ¬ source <+: place)
    (htarget : ¬ target <+: place) : (t.move source target).node? place = t.node? place := by
  by_cases hplace : place = []
  · rw [hplace, node?_nil, node?_nil]
  rw [node?_of_ne_nil hplace, node?_of_ne_nil hplace]
  refine lookup_relocated (· ≠ target) (relocate source target) ?_ t.entries
  intro k
  rw [decide_eq_true_eq]
  constructor
  · rintro ⟨hk, hmove⟩
    by_cases hbelow : source <+: k
    · rw [relocate_of_below hbelow] at hmove
      exact absurd ⟨_, hmove⟩ htarget
    · rwa [relocate_of_not_below hbelow] at hmove
  · rintro rfl
    refine ⟨?_, relocate_of_not_below hsource⟩
    rintro rfl
    exact htarget List.prefix_rfl

/-- What is known of a move that is allowed. -/
theorem route_eq_ok {source target : Path} {origin goal : Location}
    (h : t.route source target = .ok (origin, goal)) :
    ∃ node, t.EndsAt source origin ∧ t.EndsAt target goal ∧ t.node? origin = some node ∧
      (∀ content, node = .file content → target.endsInSlash = false) ∧
      (origin ≠ goal → t.checkReplacement node goal = .ok ()) := by
  rw [route] at h
  obtain ⟨from?, hfrom, h⟩ := bind_eq_ok_iff.1 h
  obtain ⟨to?, hto, h⟩ := bind_eq_ok_iff.1 h
  split at h
  · cases h
  · cases h
  · obtain ⟨o, horigin, h⟩ := bind_eq_ok_iff.1 h
    split at h
    · cases h
    · next node hnode =>
      obtain ⟨g, hgoal, h⟩ := bind_eq_ok_iff.1 h
      obtain ⟨hslash, h⟩ := guard_eq_ok_iff.1 h
      obtain ⟨-, h⟩ := guard_eq_ok_iff.1 h
      obtain ⟨-, h⟩ := guard_eq_ok_iff.1 h
      have hends : Except.ok (ε := FileFault) (o, g) = .ok (origin, goal) ∧
          (o ≠ g → t.checkReplacement node g = .ok ()) := by
        split at h
        · obtain ⟨_, hcheck, h⟩ := bind_eq_ok_iff.1 h
          exact ⟨h, fun _ => hcheck⟩
        · next heq => exact ⟨h, fun hne => absurd hne heq⟩
      obtain ⟨heq, hcheck⟩ := hends
      obtain ⟨rfl, rfl⟩ := Prod.mk.inj (Except.ok.inj heq)
      refine ⟨node, ⟨_, _, hfrom, horigin⟩, ⟨_, _, hto, hgoal⟩, hnode, ?_, hcheck⟩
      rintro content rfl
      simpa using fun hs : target.endsInSlash = true => hslash (by simp [hs])

/-- A file does not take the place of a directory. -/
theorem node?_ne_directory_of_checkReplacement {content : α} {target : Location}
    (h : t.checkReplacement (.file content) target = .ok ()) :
    t.node? target ≠ some .directory := by
  intro hdir
  simp [checkReplacement, hdir] at h

/-- Neither end of a move of a file lies on the way to a directory. -/
theorem not_prefix_of_isReached {place other : Location} (hreached : t.IsReached place)
    (hdir : t.node? place = some .directory) (hother : t.node? other ≠ some .directory) :
    ¬ other <+: place := by
  intro hprefix
  by_cases heq : other = place
  · exact hother (heq ▸ hdir)
  · exact hother (hreached other hprefix heq)

end FileTree

namespace Disk

variable {α : Type} {d d' : Disk α}

theorem attempt_eq_ok {call : FileCall} {change : FileTree α → Except FileFault (FileTree α)}
    (h : d.attempt call change = .ok d') : change d.tree = .ok d'.tree := by
  rw [attempt] at h
  split at h
  · cases h
  · obtain ⟨tree, htree, rfl⟩ := map_eq_ok_iff.1 h
    exact htree

/-- A renamed file is found at its new path. -/
theorem find_of_rename {source target : Path} {place : Location} {content : α}
    (h : d.rename source target = .ok d') (hplace : d.tree.locate source = .ok place)
    (hfile : d.tree.node? place = some (.file content)) :
    d'.tree.find target = .ok (.file content) := by
  obtain ⟨⟨origin, goal⟩, hroute, h⟩ := bind_eq_ok_iff.1 (attempt_eq_ok h)
  obtain ⟨node, hsource, htarget, hnode, hslash, hcheck⟩ := FileTree.route_eq_ok hroute
  obtain rfl : place = origin := Except.ok.inj (hplace.symm.trans hsource.locate)
  obtain rfl : node = .file content := Option.some.inj (hnode.symm.trans hfile)
  have found : d'.tree.locate target = .ok goal ∧ d'.tree.node? goal = some (.file content) := by
    rw [← Except.ok.inj h]
    split
    · next heq => exact ⟨htarget.locate, heq ▸ hfile⟩
    · next hne =>
      have hold := FileTree.node?_ne_directory_of_checkReplacement (hcheck hne)
      have hends : d.tree.node? place ≠ some .directory := by simp [hfile]
      refine ⟨FileTree.locate_of_keeps (fun way hway hdir => ?_) htarget.locate,
        (FileTree.node?_move hsource.ne_nil htarget.ne_nil hne).trans hfile⟩
      rw [FileTree.node?_move_of_not_below (FileTree.not_prefix_of_isReached hway hdir hends)
        (FileTree.not_prefix_of_isReached hway hdir hold)]
      exact hdir
  rw [FileTree.find]
  refine bind_eq_ok_iff.2 ⟨goal, found.1, ?_⟩
  simp [found.2, hslash content rfl, pure, Except.pure]

/-- A file is given a content where one stands. -/
theorem fill_eq_ok_iff {t u : FileTree α} {p : Path} {content : α} :
    fill t p content = .ok u ↔ ∃ place old, t.locate p = .ok place ∧
      t.node? place = some (.file old) ∧ t.put place (.file content) = u := by
  rw [fill]
  constructor
  · intro h
    obtain ⟨place, hplace, h⟩ := bind_eq_ok_iff.1 h
    split at h
    · next old hold => exact ⟨place, old, hplace, hold, Except.ok.inj h⟩
    · cases h
    · cases h
  · rintro ⟨place, old, hplace, hold, rfl⟩
    rw [hplace, ok_bind, hold]
    rfl

/-- A file that was completed stands at its path with its content. -/
theorem locate_of_finish {p : Path} {content : α} (h : d.finish p content = .ok d') :
    ∃ place, d'.tree.locate p = .ok place ∧ d'.tree.node? place = some (.file content) := by
  obtain ⟨place, old, hplace, hold, htree⟩ := fill_eq_ok_iff.1 (attempt_eq_ok h)
  rw [← htree, FileTree.locate_put_file hold]
  exact ⟨place, hplace, FileTree.node?_put_self _ (FileTree.ne_nil_of_node?_eq_file hold)⟩

end Disk

end Tabular
