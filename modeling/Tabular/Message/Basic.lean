import Tabular.Json.Basic

/-!
# Messages

A message is a key of a catalog with named arguments; its wording is chosen later, by locale.

## Main definitions

- `Message` — a key and arguments
- `Message.untranslated` — a text that has no key
- `Message.same` — equality, with numbers compared as numbers
-/

namespace Tabular

/-- A key of the catalog and the arguments of its template. -/
structure Message where
  id : String
  arguments : Members
deriving Inhabited

namespace Message

/-- The key of texts that are in no catalog. -/
def untranslatedId : String := "TODO_i18n"

/-- A message without arguments. -/
def bare (id : String) : Message := ⟨id, []⟩

/-- A text that is in no catalog. -/
def untranslated (text : String) : Message := ⟨untranslatedId, [("text", .string text)]⟩

/-- With one more argument. -/
def withArgument (m : Message) (name : String) (value : Json) : Message :=
  { m with arguments := m.arguments.insert name value }

/-- Equality, with numbers compared as numbers. -/
def same (m n : Message) : Bool := m.id = n.id && Json.sameMembers m.arguments n.arguments

end Message

end Tabular
