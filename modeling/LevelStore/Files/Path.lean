import LevelStore.Text.Search

/-!
Paths as a file system reads them: a root and parts. Empty parts and single points are dropped,
double points are kept, since where they lead depends on what is there.
-/

namespace LevelStore

structure Path where
  /-- Empty for a relative path; two slashes are a root of their own, any other number is one. -/
  root : String
  parts : List String
deriving DecidableEq, Repr

namespace Path

def rootOf (s : List Char) : String :=
  match (s.takeWhile (· == '/')).length with
  | 0 => ""
  | 2 => "//"
  | _ => "/"

def ofText (text : String) : Path where
  root := rootOf text.toList
  parts := ((Text.splitAt '/' text.toList).map String.ofList).filter fun part =>
    part != "" && part != "."

def isAbsolute (p : Path) : Bool := p.root != ""

def parent (p : Path) : Path := { p with parts := p.parts.dropLast }

def text (p : Path) : String :=
  if p.root == "" && p.parts.isEmpty then "."
  else p.root ++ "/".intercalate p.parts

/-- The place that a path names if every double point takes back the part before it, seen from a
directory. -/
def resolveFrom (directory : List String) (p : Path) : List String :=
  p.parts.foldl (fun place part => if part == ".." then place.dropLast else place ++ [part])
    (if p.isAbsolute then [] else directory)

def placesBelow (place : List String) : List String → List (List String)
  | [] => []
  | part :: parts =>
    let next := if part == ".." then place.dropLast else place ++ [part]
    next :: placesBelow next parts

def placesOn (directory : List String) (p : Path) : List (List String) :=
  placesBelow [] directory ++ placesBelow (if p.isAbsolute then [] else directory) p.parts

end Path

end LevelStore
