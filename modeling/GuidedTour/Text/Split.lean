/-! Cutting text into pieces at a separator. There is always one piece more than there
are separators, and joining the pieces again gives the text back. -/
namespace GuidedTour.Text

def pieces (sep : Char) : List Char → List (List Char)
  | [] => [[]]
  | c :: rest =>
    if c = sep then [] :: pieces sep rest
    else match pieces sep rest with
      | [] => [[c]]
      | piece :: more => (c :: piece) :: more

def joinPieces (sep : Char) : List (List Char) → List Char
  | [] => []
  | [piece] => piece
  | piece :: more => piece ++ sep :: joinPieces sep more

theorem pieces_ne_nil (sep : Char) (cs : List Char) : pieces sep cs ≠ [] := by
  cases cs with
  | nil => simp [pieces]
  | cons c rest =>
    by_cases h : c = sep
    · simp [pieces, h]
    · simp only [pieces, h, if_false]
      split <;> simp

theorem joinPieces_pieces (sep : Char) (cs : List Char) : joinPieces sep (pieces sep cs) = cs := by
  induction cs with
  | nil => rfl
  | cons c rest ih =>
    have hne := pieces_ne_nil sep rest
    revert ih hne
    by_cases h : c = sep
    · subst h
      cases hp : pieces c rest with
      | nil => simp
      | cons piece more => simp [pieces, hp, joinPieces]
    · cases hp : pieces sep rest with
      | nil => simp
      | cons piece more => cases more <;> simp_all [pieces, joinPieces]

end GuidedTour.Text
