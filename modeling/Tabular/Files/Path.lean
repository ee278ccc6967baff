/-!
# Paths

A path keeps the text it was given as. Its steps are what stands between slashes. To the names of a
path the step `.` adds nothing; whoever follows the path does take that step, and can only take it in
a directory.

## Main definitions

- `Path` — a path as a text
- `Path.steps` — the steps on the way
- `Path.names` — the names on the way
- `Path.fileName?` — the last name, unless the path leads upwards or nowhere
- `Path.withFileName` — a sibling
- `Path.join` — a path below another one
- `Path.ancestors` — a path and the paths above it
-/

namespace Tabular

/-- A path as a text. -/
structure Path where
  text : String
deriving DecidableEq, Repr, Inhabited

namespace Path

/-- The parts between slashes. -/
def parts : List Char → List (List Char)
  | [] => [[]]
  | c :: rest =>
    if c = '/' then [] :: parts rest
    else
      match parts rest with
      | [] => [[c]]
      | part :: others => (c :: part) :: others

/-- The steps on the way: into a name, `.` or `..`. -/
def steps (p : Path) : List String :=
  ((parts p.text.toList).filter (· ≠ [])).map String.ofList

/-- The names on the way. -/
def names (p : Path) : List String := p.steps.filter (· ≠ ".")

/-- A step into something new, as opposed to one that stays or leads upwards. -/
def isName (step : String) : Bool := step ≠ "." && step ≠ ".."

/-- The path starts at the root. -/
def isAbsolute (p : Path) : Bool := p.text.toList.head? = some '/'

/-- The text says that the path is a directory. -/
def endsInSlash (p : Path) : Bool := p.text.toList.getLast? = some '/'

/-- The last name, unless it leads upwards. -/
def fileName? (p : Path) : Option String :=
  match p.names.getLast? with
  | some ".." => none
  | name => name

/-- Drops what stands for nothing from the end of a text, which is given last character first. The
slash of the root stays. -/
def dropInert : List Char → List Char
  | ['/'] => ['/']
  | '/' :: rest => dropInert rest
  | ['.', '/'] => ['/']
  | '.' :: '/' :: rest => dropInert rest
  | reversed => reversed

/-- The path without its last name. -/
def parent (p : Path) : Path :=
  let reversed := (dropInert p.text.toList.reverse).dropWhile (· ≠ '/')
  ⟨String.ofList (dropInert reversed).reverse⟩

/-- A path below another one. A child that starts at the root stands for itself. -/
def join (p : Path) (child : String) : Path :=
  if (Path.mk child).isAbsolute then ⟨child⟩
  else if p.text = "" ∨ p.text.toList.getLast? = some '/' then ⟨p.text ++ child⟩
  else ⟨p.text ++ "/" ++ child⟩

/-- A path with another last name. -/
def withFileName (p : Path) (name : String) : Path := p.parent.join name

/-- A path and as many paths above it as a number says, the lowest one first. -/
def ancestorsUpTo (p : Path) : Nat → List Path
  | 0 => []
  | n + 1 => p :: p.parent.ancestorsUpTo n

/-- A path and the paths above it that have a name, the lowest one first. -/
def ancestors (p : Path) : List Path := p.ancestorsUpTo p.names.length

end Path

end Tabular
