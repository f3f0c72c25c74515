import BoundSql.Error

/-!
# File paths

Paths are written with slashes; no component is empty or a single dot.  A path that starts with
exactly two slashes keeps both.

## Main definitions

* `Path` : a root and components.
* `Path.ofString`, `Path.toString` : reading and writing.
* `Path.join` : a path relative to another; an absolute path stands for itself.
* `Path.normalized` : the path without steps back, as far as they can be taken.
* `Path.expandHome` : a leading `~`, or `~` with a user's name, replaced by the home directory.
-/

namespace BoundSql

/-- A path: its root (empty when the path is relative) and its components. -/
structure Path where
  root : String
  parts : List String
deriving DecidableEq, Repr

namespace Path

/-- The number of slashes a text starts with. -/
def leadingSlashes (s : String) : Nat := (s.toList.takeWhile (· == '/')).length

/-- Reads a path, dropping empty components and single dots. -/
def ofString (s : String) : Path :=
  let root := match leadingSlashes s with
    | 0 => ""
    | 2 => "//"
    | _ => "/"
  ⟨root, (s.splitOn "/").filter fun part => !(part == "" || part == ".")⟩

/-- Writes a path; the path without root and components is a single dot. -/
def toString (p : Path) : String :=
  if p.root = "" ∧ p.parts = [] then "." else p.root ++ "/".intercalate p.parts

/-- Is the path absolute? -/
def isAbsolute (p : Path) : Bool := !(p.root == "")

/-- The second path as seen from the first. -/
def join (base p : Path) : Path :=
  if p.isAbsolute then p else ⟨base.root, base.parts ++ p.parts⟩

/-- The components that remain when every step back undoes the component before it, given the
components before these in reverse order.  From the root no step leads back. -/
def dropBacksteps (absolute : Bool) : List String → List String → List String
  | before, [] => before.reverse
  | before, ".." :: rest =>
    match before with
    | ".." :: _ => dropBacksteps absolute (".." :: before) rest
    | _ :: before => dropBacksteps absolute before rest
    | [] => dropBacksteps absolute (if absolute then [] else [".."]) rest
  | before, part :: rest => dropBacksteps absolute (part :: before) rest

/-- The path without steps back; only a relative path can start with some. -/
def normalized (p : Path) : Path := { p with parts := dropBacksteps p.isAbsolute [] p.parts }

/-- A home directory without the slashes at its end. -/
def homeDirectory (home : String) : Path :=
  let kept := (home.toList.reverse.dropWhile (· == '/')).reverse
  if kept.isEmpty then ⟨"/", []⟩ else ofString (String.ofList kept)

/-- Replaces a first component that starts with `~` by the home directory of the user whose name
follows.  The home directory has to be known and must not start with `~` itself. -/
def expandHome (homeOf : String → Option String) (p : Path) : Except Error Path :=
  match p.parts with
  | first :: rest =>
    if p.isAbsolute || !first.startsWith "~" then .ok p
    else
      match (homeOf (first.drop 1).toString).filter (!·.startsWith "~") with
      | some home => .ok ((homeDirectory home).join ⟨"", rest⟩)
      | none => .error .homeUnknown
  | [] => .ok p

end Path

end BoundSql
