/-! Text in columns: filled up with spaces to a width, and left alone if it is wider. -/
namespace GuidedTour.Text

def spaces (count : Nat) : String := String.ofList (List.replicate count ' ')

def padLeft (width : Nat) (s : String) : String := spaces (width - s.length) ++ s

def padRight (width : Nat) (s : String) : String := s ++ spaces (width - s.length)

end GuidedTour.Text
