import Tabular.Message.Basic

/-!
# Quick fixes and diagnostics

## Main definitions

- `QuickFix` — a button: its text, an action and the arguments of the action
- `Diagnostic` — a message with quick fixes
-/

namespace Tabular

/-- A one-click suggestion. -/
structure QuickFix where
  text : Message
  action : String
  arguments : List Json
deriving Inhabited

/-- An error or a warning. -/
structure Diagnostic where
  message : Message
  fixes : List QuickFix
deriving Inhabited

namespace QuickFix

/-- The one action that has a wire form. -/
def prependAction : String := "prependModule"

/-- Adds a step of a module in front of the current one, with some parameters set. -/
def prependModule (text : Message) (slug : String) (parameters : Members) : QuickFix :=
  ⟨text, prependAction, [.string slug, .object parameters]⟩

/-- Equality, with numbers compared as numbers. -/
def same (f g : QuickFix) : Bool :=
  f.text.same g.text && f.action = g.action && Json.sameItems f.arguments g.arguments

/-- Equality of lists of fixes. -/
def sameAll : List QuickFix → List QuickFix → Bool
  | [], [] => true
  | f :: fs, g :: gs => f.same g && sameAll fs gs
  | _, _ => false

end QuickFix

namespace Diagnostic

/-- A message without fixes. -/
def ofMessage (m : Message) : Diagnostic := ⟨m, []⟩

/-- Equality, with numbers compared as numbers. -/
def same (d e : Diagnostic) : Bool := d.message.same e.message && QuickFix.sameAll d.fixes e.fixes

/-- Equality of lists of diagnostics. -/
def sameAll : List Diagnostic → List Diagnostic → Bool
  | [], [] => true
  | d :: ds, e :: es => d.same e && sameAll ds es
  | _, _ => false

end Diagnostic

end Tabular
