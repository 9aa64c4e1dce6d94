/-! The release that this library describes. -/
namespace GuidedTour

def releaseVersion : String := "0.4.0"

end GuidedTour
