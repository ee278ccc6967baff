import Tabular.Prompt
import Tabular.Proofs.Json.Members
import Tabular.Proofs.Message.Substitution
import Tabular.Proofs.Text.Digits
import Tabular.Result.Coercion

/-!
# The wording of messages

A message names its template by a key and its arguments by names, and both are written far from the
catalog. Every message that a result or a prompt gives has a template, and every placeholder of the
template is bound, whatever the types, counts and names are that it tells of.

## Main definitions

- `ModuleBug.wording`, `KindProblem.wording`, `KindProblem.buttonWording` — what is said
- `Message.IsWorded` — a message is its template with every placeholder replaced

## Main statements

- `StepResult.isWorded_truncationMessage`, `ModuleBug.isWorded_message`,
  `KindProblem.isWorded_message`, `KindProblem.isWorded_buttonText` — the messages that are given
- `Catalog.substitute_partwise` — templates are filled in one pass, and those of messages wholly
-/

namespace Tabular

namespace ModuleBug

/-- What is said about a tuple of the wrong types. -/
def typesWording (expected types : String) : String :=
  s!"There is a bug in this module: expected {expected} return type, got {types}"

/-- What is said about a bug. -/
def wording : ModuleBug → String
  | tupleSize size =>
    s!"There is a bug in this module: expected 2-tuple or 3-tuple return value; got {size}-tuple"
  | pair types _ => typesWording "(DataFrame, ModuleError)" types
  | triple types => typesWording "(DataFrame, ModuleError, dict)" types
  | returnType typeName _ => s!"There is a bug in this module: invalid return type {typeName}"

end ModuleBug

namespace KindProblem

/-- What the user is told. -/
def wording (p : KindProblem) : String :=
  match p.found with
  | none => s!"{p.columns.length} column(s) must be converted to Text."
  | some found =>
    s!"{p.columns.length} column(s) must be converted from {found.name} to {p.best.name}."

/-- The text of the button. -/
def buttonWording (p : KindProblem) : String :=
  match p.found with
  | none => "Convert to Text."
  | some found => s!"Convert {found.name} to {p.best.name}."

end KindProblem

namespace Message

/-- A message has a template, every placeholder of which is bound, and is told by the template with
every placeholder replaced. -/
def IsWorded (m : Message) (locale wording : String) : Prop :=
  ∃ template, Catalog.template? locale m.id = some template ∧
    (∀ p ∈ Catalog.parts template.toList, (p.replaced? m.arguments).isSome = true) ∧
    m.translate locale = Catalog.substitute template m.arguments ∧
    m.translate locale = wording

end Message

open Catalog

variable {m : Message} {arguments : Members} {locale key text template wording : String} {n : Nat}

/-! ### Parts with their arguments -/

/-- The texts that parts are replaced by. -/
abbrev ReplacedBy (arguments : Members) : List Part → List String → Prop :=
  List.Forall₂ fun p text => p.replaced? arguments = some text.toList

theorem replaced?_string (hkey : trimBlanks key.toList = key.toList)
    (h : arguments.get? key = some (.string text)) :
    (Part.placeholder key.toList).replaced? arguments = some text.toList := by
  rw [Part.replaced?, Part.argument?, hkey, String.ofList_toList, h]
  rfl

theorem replaced?_ofNat (hkey : trimBlanks key.toList = key.toList)
    (h : arguments.get? key = some (.ofNat n)) :
    (Part.placeholder key.toList).replaced? arguments = some (toString n).toList := by
  rw [Part.replaced?, Part.argument?, hkey, String.ofList_toList, h]
  show some (String.ofList (toString (n : Int)).toList).toList = _
  rw [String.ofList_toList]
  rfl

theorem flatMap_filled {ps : List Part} {texts : List String} (h : ReplacedBy arguments ps texts) :
    ps.flatMap (Part.filled arguments) = (String.join texts).toList := by
  induction h with
  | nil => rfl
  | @cons p text ps texts hp _ ih =>
    rw [List.flatMap_cons, ih, Part.filled, hp, Option.getD_some]
    simp

theorem isSome_replaced? {ps : List Part} {texts : List String}
    (h : ReplacedBy arguments ps texts) : ∀ p ∈ ps, (p.replaced? arguments).isSome = true := by
  induction h with
  | nil => exact List.forall_mem_nil _
  | cons hp _ ih => exact List.forall_mem_cons.2 ⟨by rw [hp, Option.isSome_some], ih⟩

/-- A message is worded as told when its template is split into parts that are replaced. -/
theorem Message.isWorded_of_split (ps : List Part) {texts : List String}
    (htemplate : template? locale m.id = some template) (hsplit : IsSplit ps template.toList)
    (hreplaced : ReplacedBy m.arguments ps texts) (hwording : String.join texts = wording) :
    m.IsWorded locale wording := by
  have hkey : m.id ≠ untranslatedId := by
    intro hkey
    rw [hkey] at htemplate
    cases htemplate
  have htranslate : m.translate locale = substitute template m.arguments := by
    rw [translate, if_neg hkey, htemplate]
  refine ⟨template, htemplate, ?_, htranslate, ?_⟩
  · rw [← isSplit_iff.1 hsplit]
    exact isSome_replaced? hreplaced
  · apply String.toList_injective
    rw [htranslate, toList_substitute, ← isSplit_iff.1 hsplit, flatMap_filled hreplaced, hwording]

/-! ### Messages -/

theorem StepResult.isWorded_truncationMessage (before after : ℕ) (locale : String) :
    (truncationMessage before after).IsWorded locale
      s!"Truncated output from {before} rows to {after}" := by
  have hbefore : (truncationMessage before after).arguments.get? "old_number" =
      some (.ofNat before) := rfl
  have hafter : (truncationMessage before after).arguments.get? "new_number" =
      some (.ofNat after) := rfl
  exact Message.isWorded_of_split [.literal "Truncated output from ".toList,
      .placeholder "old_number".toList, .literal " rows to ".toList,
      .placeholder "new_number".toList] rfl (by decide +kernel)
    (.cons rfl (.cons (replaced?_ofNat rfl hbefore) (.cons rfl
      (.cons (replaced?_ofNat rfl hafter) .nil)))) rfl

namespace ModuleBug

theorem isWorded_wrongTypes (expected types locale : String) :
    (wrongTypes expected types).IsWorded locale (typesWording expected types) := by
  have hexpected : (wrongTypes expected types).arguments.get? "expected_type" =
      some (.string expected) := rfl
  have htypes : (wrongTypes expected types).arguments.get? "type" = some (.string types) := rfl
  exact Message.isWorded_of_split [.literal "There is a bug in this module: expected ".toList,
      .placeholder "expected_type".toList, .literal " return type, got ".toList,
      .placeholder "type".toList] rfl (by decide +kernel)
    (.cons rfl (.cons (replaced?_string rfl hexpected) (.cons rfl
      (.cons (replaced?_string rfl htypes) .nil)))) rfl

theorem isWorded_message (b : ModuleBug) (locale : String) :
    b.message.IsWorded locale b.wording := by
  cases b with
  | tupleSize size =>
    have hsize : (tupleSize size).message.arguments.get? "length" = some (.ofNat size) := rfl
    exact Message.isWorded_of_split [.literal ("There is a bug in this module: expected " ++
        "2-tuple or 3-tuple return value; got ").toList, .placeholder "length".toList,
        .literal "-tuple".toList] rfl (by decide +kernel)
      (.cons rfl (.cons (replaced?_ofNat rfl hsize) (.cons rfl .nil))) rfl
  | pair types cause => exact isWorded_wrongTypes _ types locale
  | triple types => exact isWorded_wrongTypes _ types locale
  | returnType typeName cause =>
    have htype : (returnType typeName cause).message.arguments.get? "type" =
        some (.string typeName) := rfl
    exact Message.isWorded_of_split [
        .literal "There is a bug in this module: invalid return type ".toList,
        .placeholder "type".toList] rfl (by decide +kernel)
      (.cons rfl (.cons (replaced?_string rfl htype) .nil)) rfl

end ModuleBug

namespace KindProblem

/-- The number of the columns is under a key that no column has. -/
theorem get?_columns (columns : List String) :
    (Members.ofList (("columns", .ofNat columns.length) :: columnArguments columns)).get?
      "columns" = some (.ofNat columns.length) := by
  have hnames : (columnArguments columns).reverse.lookup "columns" = none := by
    rw [List.lookup_eq_none_iff]
    intro argument hargument
    obtain ⟨⟨name, index⟩, -, rfl⟩ := List.mem_map.1 (List.mem_reverse.1 hargument)
    refine bne_iff_ne.2 fun hkey => ?_
    -- a column is numbered in digits
    have hdigit : 'c' ∈ "columns".toList → 'c'.isDigit = true := by
      rw [hkey]
      exact Digits.isDigit_of_mem_toString
    exact absurd (hdigit (by decide)) (by decide)
  rw [Members.get?_ofList, List.reverse_cons, List.lookup_append, hnames]
  rfl

/-- The kinds that are named in a message, beside what it has already. -/
theorem get?_withKinds (p : KindProblem) (found : ColumnKind) (m : Message) (key : String) :
    (p.withKinds found m).arguments.get? key =
      if key = "best_wanted_type" then some (.string p.best.name)
      else if key = "found_type" then some (.string found.name) else m.arguments.get? key := by
  rw [withKinds, Message.withArgument, Message.withArgument, Members.get?_insert,
    Members.get?_insert]

theorem isWorded_message (p : KindProblem) (locale : String) :
    p.message.IsWorded locale p.wording := by
  have hcount := get?_columns p.columns
  rw [message, wording]
  cases p.found with
  | none =>
    exact Message.isWorded_of_split [.placeholder "columns".toList,
        .literal " column(s) must be converted to Text.".toList] rfl (by decide +kernel)
      (.cons (replaced?_ofNat rfl hcount) (.cons rfl .nil)) rfl
  | some found =>
    have hfound := p.get?_withKinds found
      ⟨"kernel.prompting.wrong_column_type.general",
        .ofList (("columns", .ofNat p.columns.length) :: columnArguments p.columns)⟩
    exact Message.isWorded_of_split [.placeholder "columns".toList,
        .literal " column(s) must be converted from ".toList, .placeholder "found_type".toList,
        .literal " to ".toList, .placeholder "best_wanted_type".toList, .literal ".".toList]
      rfl (by decide +kernel)
      (.cons (replaced?_ofNat rfl ((hfound _).trans hcount)) (.cons rfl
        (.cons (replaced?_string rfl (hfound _)) (.cons rfl
          (.cons (replaced?_string rfl (hfound _)) (.cons rfl .nil)))))) rfl

theorem isWorded_buttonText (p : KindProblem) (locale : String) :
    p.buttonText.IsWorded locale p.buttonWording := by
  rw [buttonText, buttonWording]
  cases p.found with
  | none =>
    exact Message.isWorded_of_split [.literal "Convert to Text.".toList] rfl (by decide +kernel)
      (.cons rfl .nil) rfl
  | some found =>
    have hfound := p.get?_withKinds found
      (.bare "kernel.prompting.wrong_column_type.quick_fix.general")
    exact Message.isWorded_of_split [.literal "Convert ".toList,
        .placeholder "found_type".toList, .literal " to ".toList,
        .placeholder "best_wanted_type".toList, .literal ".".toList] rfl (by decide +kernel)
      (.cons rfl (.cons (replaced?_string rfl (hfound _)) (.cons rfl
        (.cons (replaced?_string rfl (hfound _)) (.cons rfl .nil))))) rfl

end KindProblem

/-- Templates are filled in one pass: there is one way to split a template into parts, and each part
is replaced by itself, so that nothing is replaced without arguments. The messages of results and
prompts, whatever they tell of, are in every locale their templates with every placeholder
replaced. -/
theorem Catalog.substitute_partwise :
    (∀ (ps : List Part) (template : List Char), IsSplit ps template ↔ ps = parts template) ∧
    (∀ (template : String) (arguments : Members), (substitute template arguments).toList =
      (parts template.toList).flatMap (Part.filled arguments)) ∧
    (∀ template : String, substitute template [] = template) ∧
    ∀ locale : String,
      (∀ before after : ℕ, (StepResult.truncationMessage before after).IsWorded locale
        s!"Truncated output from {before} rows to {after}") ∧
      (∀ b : ModuleBug, b.message.IsWorded locale b.wording) ∧
      ∀ p : KindProblem, p.message.IsWorded locale p.wording ∧
        p.buttonText.IsWorded locale p.buttonWording := by
  refine ⟨fun _ _ => isSplit_iff, toList_substitute, substitute_nil, fun locale => ⟨?_, ?_, ?_⟩⟩
  · exact fun before after => StepResult.isWorded_truncationMessage before after locale
  · exact fun b => b.isWorded_message locale
  · exact fun p => ⟨p.isWorded_message locale, p.isWorded_buttonText locale⟩

end Tabular
