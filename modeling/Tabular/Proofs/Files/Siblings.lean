import Tabular.Files.Path

/-!
# Siblings of a path and paths below it

A path below another one is made by text: a name is put behind it, after a slash if there is none.
A sibling of a path is made in the same way: what stands behind the last slash is replaced. The steps
of the path that is made end in the name that was put there, as long as the name has no slash.

## Main definitions

- `Path.IsPlain` — a text that is a step into a name

## Main statements

- `Path.parts_append_slash` — a slash separates the parts on both of its sides
- `Path.steps_join` — a path below another one has one step more
- `Path.getLast?_steps_withFileName` — a sibling ends in the name it was given
- `Path.fileName?_eq_of_isName` — the name of a path is its last step
-/

namespace Tabular.Path

theorem parts_slash (rest : List Char) : parts ('/' :: rest) = [] :: parts rest := by
  simp [parts]

theorem parts_ne_nil (cs : List Char) : parts cs ≠ [] := by
  cases cs with
  | nil => simp [parts]
  | cons c rest =>
    rw [parts]
    split
    · simp
    · split <;> simp

theorem parts_cons_of_ne {c : Char} {rest part : List Char} {others : List (List Char)}
    (hc : c ≠ '/') (h : parts rest = part :: others) :
    parts (c :: rest) = (c :: part) :: others := by
  rw [parts, if_neg hc, h]

theorem parts_of_not_mem {cs : List Char} (h : '/' ∉ cs) : parts cs = [cs] := by
  induction cs with
  | nil => rfl
  | cons c rest ih =>
    rw [List.mem_cons, not_or] at h
    exact parts_cons_of_ne (Ne.symm h.1) (ih h.2)

/-- A slash separates the parts on both of its sides. -/
theorem parts_append_slash (cs rest : List Char) :
    parts (cs ++ '/' :: rest) = parts cs ++ parts rest := by
  induction cs with
  | nil => exact parts_slash rest
  | cons c cs ih =>
    by_cases hc : c = '/'
    · subst hc
      rw [List.cons_append, parts_slash, parts_slash, ih, List.cons_append]
    · obtain ⟨part, others, hparts⟩ := List.exists_cons_of_ne_nil (parts_ne_nil cs)
      rw [parts_cons_of_ne hc hparts, List.cons_append]
      rw [hparts] at ih
      exact parts_cons_of_ne hc ih

theorem not_mem_of_mem_parts {cs part : List Char} (h : part ∈ parts cs) : '/' ∉ part := by
  induction cs generalizing part with
  | nil =>
    obtain rfl := List.mem_singleton.1 h
    exact List.not_mem_nil
  | cons c rest ih =>
    by_cases hc : c = '/'
    · rw [hc, parts_slash] at h
      rcases List.mem_cons.1 h with rfl | h
      · exact List.not_mem_nil
      · exact ih h
    · obtain ⟨first, others, hparts⟩ := List.exists_cons_of_ne_nil (parts_ne_nil rest)
      rw [parts_cons_of_ne hc hparts] at h
      rw [hparts] at ih
      rcases List.mem_cons.1 h with rfl | h
      · rw [List.mem_cons, not_or]
        exact ⟨Ne.symm hc, ih List.mem_cons_self⟩
      · exact ih (List.mem_cons_of_mem first h)

theorem not_mem_of_mem_steps {p : Path} {step : String} (h : step ∈ p.steps) :
    '/' ∉ step.toList := by
  obtain ⟨part, hpart, rfl⟩ := List.mem_map.1 h
  rw [String.toList_ofList]
  exact not_mem_of_mem_parts (List.mem_filter.1 hpart).1

/-- A text that is a step into a name. -/
structure IsPlain (name : String) : Prop where
  ne : name ≠ ""
  noSlash : '/' ∉ name.toList
  isName : isName name = true

/-- The steps of a text behind whose last slash a name stands end in the name. -/
theorem steps_of_parts {p : Path} {name : String} (front : List (List Char))
    (h : parts p.text.toList = front ++ [name.toList]) (hname : name ≠ "") :
    p.steps = (front.filter (· ≠ [])).map String.ofList ++ [name] := by
  have hne : name.toList ≠ [] := by simpa using hname
  rw [steps, h, List.filter_append, List.map_append]
  simp [hne]

theorem join_of_not_mem (p : Path) {name : String} (hslash : '/' ∉ name.toList) :
    p.join name = if p.text = "" ∨ p.text.toList.getLast? = some '/' then ⟨p.text ++ name⟩
      else ⟨p.text ++ "/" ++ name⟩ := by
  have hrelative : ¬ (Path.mk name).isAbsolute = true := by
    intro habsolute
    have hhead : name.toList.head? = some '/' := by simpa [isAbsolute] using habsolute
    exact hslash (List.mem_of_mem_head? hhead)
  rw [join, if_neg hrelative]

/-- The steps of a path below another one are those of that one and the name it was given. -/
theorem steps_join (p : Path) {name : String} (hname : name ≠ "") (hslash : '/' ∉ name.toList) :
    (p.join name).steps = p.steps ++ [name] := by
  rw [join_of_not_mem p hslash]
  split
  · next hfront =>
    rcases hfront with hempty | hlast
    · have hsteps : p.steps = [] := by simp [steps, hempty, parts]
      rw [hsteps]
      refine steps_of_parts [] ?_ hname
      simp [hempty, parts_of_not_mem hslash]
    · -- the slash is there already
      obtain ⟨cs, hcs⟩ := List.getLast?_eq_some_iff.1 hlast
      have hsteps : p.steps = ((parts cs).filter (· ≠ [])).map String.ofList := by
        rw [steps, hcs, parts_append_slash, List.filter_append]
        simp [parts]
      rw [hsteps]
      refine steps_of_parts (parts cs) ?_ hname
      simp [hcs, parts_append_slash, parts_of_not_mem hslash]
  · refine steps_of_parts (parts p.text.toList) ?_ hname
    simp [parts_append_slash, parts_of_not_mem hslash]

/-- The text of a path below another one starts with that of the other one and ends in the name. -/
theorem exists_text_join (p : Path) {name : String} (hslash : '/' ∉ name.toList) :
    ∃ middle, (p.join name).text = p.text ++ middle ++ name := by
  rw [join_of_not_mem p hslash]
  split
  · exact ⟨"", by rw [String.append_empty]⟩
  · exact ⟨"/", rfl⟩

theorem endsInSlash_join (p : Path) {name : String} (hname : name ≠ "")
    (hslash : '/' ∉ name.toList) : (p.join name).endsInSlash = false := by
  obtain ⟨middle, htext⟩ := exists_text_join p hslash
  rw [endsInSlash, htext, String.toList_append, decide_eq_false_iff_not]
  intro hlast
  have hne : name.toList ≠ [] := by simpa using hname
  have hc := List.getLast?_eq_some_getLast hne
  rw [List.getLast?_append, hc, Option.some_or] at hlast
  exact hslash (List.mem_of_getLast? (hc.trans hlast))

/-- A sibling ends in the name it was given. -/
theorem getLast?_steps_withFileName (p : Path) {name : String} (hname : name ≠ "")
    (hslash : '/' ∉ name.toList) : (p.withFileName name).steps.getLast? = some name := by
  rw [withFileName, steps_join p.parent hname hslash, List.getLast?_concat]

/-- The name of a path is its last step, if that is a name. -/
theorem fileName?_eq_of_isName {p : Path} {step : String} (hlast : p.steps.getLast? = some step)
    (hname : isName step = true) : p.fileName? = some step := by
  obtain ⟨front, hsteps⟩ := List.getLast?_eq_some_iff.1 hlast
  simp only [isName, Bool.and_eq_true, decide_eq_true_eq] at hname
  have hnames : p.names.getLast? = some step := by
    rw [names, hsteps, List.filter_append]
    simp [hname.1]
  rw [fileName?, hnames]
  split
  · next heq => exact absurd (Option.some.inj heq) hname.2
  · rfl

theorem not_mem_of_fileName? {p : Path} {name : String} (h : p.fileName? = some name) :
    '/' ∉ name.toList := by
  rw [fileName?] at h
  split at h
  · cases h
  · have hmem : name ∈ p.names := List.mem_of_getLast? h
    exact not_mem_of_mem_steps (List.mem_filter.1 hmem).1

end Tabular.Path
