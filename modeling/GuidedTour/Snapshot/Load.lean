import GuidedTour.Files.Basic
import GuidedTour.Snapshot.Basic
import GuidedTour.Tour.Basic

/-! Sessions in files. A file has to hold a snapshot, and the session in it has to fit the
registry. -/
namespace GuidedTour

namespace Snapshot

inductive LoadFault where
  | file (fault : Files.ReadFault)
  | snapshot (fault : Fault)
  | record (defect : Record.Defect)
  deriving DecidableEq, Repr

def LoadFault.message : LoadFault → String
  | file fault => fault.message
  | snapshot fault => fault.message
  | record defect => defect.message

/-- Brings a saved session back to life. -/
def load (r : Registry) (files : Files) (path : String) : Except LoadFault Tour := do
  let bytes ← (files.read maxSize path).mapError .file
  let record ← (decode bytes.data.toList).mapError .snapshot
  (Tour.resume r record).mapError .record

/-- The bytes of a file that holds a session. -/
def content (s : Session) : ByteArray := ⟨(encode s.record).toArray⟩

end Snapshot

end GuidedTour
