import Tabular.Proofs.Report.Coercion
import Tabular.Proofs.Value.Json

/-!
# Two spellings of a quick fix

A quick fix is spelled as a dict of keywords, or as a sequence of a text, an action and the arguments
of the action. Each spelling is read by steps of its own: the dict is turned into JSON as a whole
before any key is looked up, the sequence part by part, and the arguments follow the text in the one
and stand in a list of their own in the other. They agree in what they give, also in which fault
comes first when several parts are bad.

## Main definitions

- `QuickFix.keywords` — the dict of a text, an action and arguments

## Main statements

- `QuickFix.ofEntries_keywords` — a dict of keywords is read as the sequence of their values
- `QuickFix.ofItems_eq_ok_iff` — the quick fix of a text, an action and arguments
- `QuickFix.spellings_agree` — the two spellings agree
-/

namespace Tabular

/-- Items are turned into JSON one after the other. -/
theorem Value.itemsToJson_eq_mapM (items : List Value) : itemsToJson items = items.mapM toJson := by
  induction items with
  | nil => rfl
  | cons v rest ih =>
    rw [itemsToJson, List.mapM_cons, ih]
    cases v.toJson with
    | error fault => rfl
    | ok j => cases rest.mapM toJson <;> rfl

/-- What is a message has a JSON form. -/
theorem Message.exists_toJson {v : Value} {m : Message} (h : ofValue v = .ok m) :
    ∃ j, v.toJson = .ok j := by
  unfold ofValue at h
  split at h
  · exact ⟨_, rfl⟩
  · split at h
    · split at h
      · split at h
        · next id _ _ _ es hes =>
          refine ⟨.array [.string id, .object (Members.ofList es)], ?_⟩
          simp only [Value.toJson, Value.itemsToJson, hes]
          rfl
        · cases h
      · cases h
    · cases h
  · cases h
  · cases h

namespace QuickFix

variable {text action : Value} {arguments : List Value} {fix : QuickFix}

/-! ### Keywords and sequences -/

/-- The dict of a text, an action and the arguments of the action. -/
def keywords (text action : Value) (arguments : List Value) : List (String × Value) :=
  [("text", text), ("action", action), ("args", .list arguments)]

/-- The JSON of a dict of keywords is asked of its parts, in their order. -/
theorem jsonOf_keywords_bind (text action : Value) (arguments : List Value)
    (x : Except Fault QuickFix) :
    (jsonOf (.dict (keywords text action arguments)) >>= fun _ => x) =
      (jsonOf text >>= fun _ => jsonOf action >>= fun _ => argumentsOf arguments >>= fun _ => x) := by
  simp only [jsonOf, argumentsOf, keywords, Value.toJson, Value.entriesToJson]
  cases text.toJson with
  | error fault => rfl
  | ok _ =>
    cases action.toJson with
    | error fault => rfl
    | ok _ => cases Value.itemsToJson arguments <;> rfl

/-- A dict of keywords is read as the sequence of their values. -/
theorem ofEntries_keywords (text action : Value) (arguments : List Value) :
    ofEntries (keywords text action arguments) = ofItems (text :: action :: arguments) := by
  have hparts : ofEntries (keywords text action arguments) =
      jsonOf (.dict (keywords text action arguments)) >>= fun _ =>
        Message.ofValue text >>= fun message => argumentsOf arguments >>= fun json =>
          actionOf action >>= fun name => pure ⟨message, name, json⟩ := rfl
  rw [hparts, jsonOf_keywords_bind, ofItems]
  refine bind_congr fun _ => bind_congr fun _ => ?_
  -- the arguments are read once more behind the text, and with the same outcome
  cases argumentsOf arguments with
  | error fault => rfl
  | ok json => rfl

theorem actionOf_eq_ok_iff {name : String} : actionOf action = .ok name ↔ action = .text name := by
  cases action <;> simp [actionOf]

/-- A sequence gives a quick fix if its text is a message, its action a text, and all arguments have
a JSON form; the text and the action then have one too. -/
theorem ofItems_eq_ok_iff : ofItems (text :: action :: arguments) = .ok fix ↔
    Message.ofValue text = .ok fix.text ∧ action = .text fix.action ∧
      List.Forall₂ (fun v j => v.toJson = .ok j) arguments fix.arguments := by
  rw [← mapM_eq_ok_iff, ← Value.itemsToJson_eq_mapM, ← actionOf_eq_ok_iff,
    ← mapError_eq_ok_iff (f := fun fault => Fault.value (.fixWithoutJson fault))]
  constructor
  · intro h
    obtain ⟨_, -, h⟩ := bind_eq_ok_iff.1 h
    obtain ⟨_, -, h⟩ := bind_eq_ok_iff.1 h
    obtain ⟨json, hjson, h⟩ := bind_eq_ok_iff.1 h
    obtain ⟨message, hmessage, h⟩ := bind_eq_ok_iff.1 h
    obtain ⟨name, hname, h⟩ := bind_eq_ok_iff.1 h
    obtain rfl := Except.ok.inj h
    exact ⟨hmessage, hname, hjson⟩
  · rintro ⟨hmessage, hname, hjson⟩
    obtain ⟨j, hj⟩ := Message.exists_toJson hmessage
    obtain rfl := actionOf_eq_ok_iff.1 hname
    refine bind_eq_ok_iff.2 ⟨j, mapError_eq_ok_iff.2 hj, ?_⟩
    refine bind_eq_ok_iff.2 ⟨.string fix.action, rfl, bind_eq_ok_iff.2 ⟨_, hjson, ?_⟩⟩
    exact bind_eq_ok_iff.2 ⟨_, hmessage, bind_eq_ok_iff.2 ⟨_, hname, rfl⟩⟩

/-- The two spellings agree: the tuple and the list of a text, an action and arguments give what the
dict of the three gives, whether that is a quick fix or a fault, and they give a quick fix exactly
if it has the message of the text, the action and the JSON of all arguments in order. Whatever a
quick fix is made from, it is refused for wrong contents unless its text is refused as a message. -/
theorem spellings_agree :
    (∀ (text action : Value) (arguments : List Value),
      ofValue (.tuple (text :: action :: arguments)) =
          ofValue (.dict (keywords text action arguments)) ∧
        ofValue (.list (text :: action :: arguments)) =
          ofValue (.dict (keywords text action arguments)) ∧
        ∀ fix, ofValue (.dict (keywords text action arguments)) = .ok fix ↔
          Message.ofValue text = .ok fix.text ∧ action = .text fix.action ∧
            List.Forall₂ (fun v j => v.toJson = .ok j) arguments fix.arguments) ∧
    ∀ (v : Value) (fault : Fault), ofValue v = .error fault →
      fault.isValue = true ∨ ∃ text, textOf? v = some text ∧ Message.ofValue text = .error fault := by
  refine ⟨fun text action arguments => ?_, fun v => ?_⟩
  · have hspelling := ofEntries_keywords text action arguments
    refine ⟨hspelling.symm, hspelling.symm, fun fix => ?_⟩
    rw [ofValue, hspelling]
    exact ofItems_eq_ok_iff
  · exact failsAs_ofValue (fun _ => .inl rfl) fun text htext fault h => .inr ⟨text, htext, h⟩

/-- A text with arguments of its own. -/
def titled : Value := .tuple [.text "title", .dict [("n", .integer 1)]]

/-- A text whose arguments are no dict, which is of the wrong type. -/
def untitled : Value := .tuple [.text "title", .none]

theorem spellings_agree_titled :
    (ofValue (.tuple [titled, .text "prependModule", .text "a", .tuple []]) =
        .ok ⟨⟨"title", [("n", .integer 1)]⟩, "prependModule", [.string "a", .array []]⟩ ∧
      ofValue (.dict (keywords titled (.text "prependModule") [.text "a", .tuple []])) =
        .ok ⟨⟨"title", [("n", .integer 1)]⟩, "prependModule", [.string "a", .array []]⟩ ∧
      List.Forall₂ (fun (v : Value) j => v.toJson = .ok j) [.text "a", .tuple []]
        [.string "a", .array []]) ∧
    ofValue (.list [untitled, .integer 3]) = .error (.type (.messageArguments "None")) ∧
      ∃ text, textOf? (.list [untitled, .integer 3]) = some text ∧
        Message.ofValue text = .error (.type (.messageArguments "None")) := by
  obtain ⟨hspellings, hfaults⟩ := spellings_agree
  obtain ⟨htuple, -, harguments⟩ := hspellings titled (.text "prependModule") [.text "a", .tuple []]
  have hread : ofValue (.dict (keywords titled (.text "prependModule") [.text "a", .tuple []])) =
      .ok ⟨⟨"title", [("n", .integer 1)]⟩, "prependModule", [.string "a", .array []]⟩ := rfl
  have hfault : ofValue (.list [untitled, .integer 3]) =
      .error (.type (.messageArguments "None")) := rfl
  refine ⟨⟨htuple.trans hread, hread, ((harguments _).1 hread).2.2⟩, hfault, ?_⟩
  exact (hfaults _ _ hfault).resolve_left Bool.false_ne_true

end QuickFix

end Tabular
