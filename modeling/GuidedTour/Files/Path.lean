import GuidedTour.Text.Split

/-! Paths as they are typed: names between slashes. Slashes in a row and single dots
lead nowhere, except that a dot in front counts as a name of the current folder. -/
namespace GuidedTour.Path

/-- The front that no step leads out of, and the pieces after it. -/
def divide : List Char → List Char × List (List Char)
  | '/' :: rest => (['/'], Text.pieces '/' rest)
  | ['.'] => (['.'], [[]])
  | '.' :: '/' :: rest => (['.'], Text.pieces '/' ('/' :: rest))
  | cs => ([], Text.pieces '/' cs)

/-- A piece that leads nowhere. -/
def isIdle (piece : List Char) : Bool := piece.isEmpty || piece = ['.']

/-- The pieces up to the last one that leads somewhere. -/
def trimIdle (pieces : List (List Char)) : List (List Char) :=
  (pieces.reverse.dropWhile isIdle).reverse

/-- The last name; a path that ends by going up has none. -/
def fileName? (path : String) : Option String :=
  match (trimIdle (divide path.toList).2).getLast? with
  | some ['.', '.'] => none
  | some piece => some (String.ofList piece)
  | none => none

/-- The folder that the last step of a path leads from, as it is spelled there. -/
def parent (path : String) : String :=
  let (front, pieces) := divide path.toList
  let folder := front ++ Text.joinPieces '/' (trimIdle (trimIdle pieces).dropLast)
  if (trimIdle pieces).isEmpty || folder.isEmpty then "." else String.ofList folder

end GuidedTour.Path
