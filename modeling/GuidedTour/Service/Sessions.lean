import GuidedTour.Tour.Basic

/-! The sessions that are open on a server. An operation on one id leaves what stands under
every other id as it is. Ids are given out in order. Only once all 64-bit numbers were given out
do they begin again, and then a new session takes the place of one that is still open. -/
namespace GuidedTour.Service

/-- The largest session id. -/
def maxId : Nat := Nat.pow 2 64 - 1

def nextAfter (id : Nat) : Nat := if id < maxId then id + 1 else 0

/-- Open sessions by id, oldest first. -/
structure Sessions where
  entries : List (Nat × Tour) := []
  nextId : Nat := 1

namespace Sessions

def find? (s : Sessions) (id : Nat) : Option Tour := s.entries.lookup id

def size (s : Sessions) : Nat := s.entries.length

def replace (s : Sessions) (id : Nat) (t : Tour) : Sessions :=
  { s with entries := s.entries.map fun e => if e.1 = id then (id, t) else e }

def erase (s : Sessions) (id : Nat) : Sessions :=
  { s with entries := s.entries.filter (·.1 ≠ id) }

/-- Opens a session under the next id. -/
def insert (s : Sessions) (t : Tour) : Sessions :=
  ⟨(s.erase s.nextId).entries ++ [(s.nextId, t)], nextAfter s.nextId⟩

theorem find?_replace (s : Sessions) (id query : Nat) (t : Tour) :
    (s.replace id t).find? query =
      if query = id then (s.find? id).map fun _ => t else s.find? query := by
  obtain ⟨es, next⟩ := s
  simp only [find?, replace]
  induction es with
  | nil => simp
  | cons e rest ih =>
    obtain ⟨n, v⟩ := e
    by_cases hn : n = id
    · by_cases hq : query = id
      · simp [hn, hq]
      · simp [hn, hq, List.lookup_cons, beq_false_of_ne, ih]
    · by_cases hq : query = n
      · simp [hq, hn]
      · simp [hn, List.lookup_cons, beq_false_of_ne hq, beq_false_of_ne (Ne.symm hn), ih]

theorem find?_erase (s : Sessions) (id query : Nat) :
    (s.erase id).find? query = if query = id then none else s.find? query := by
  obtain ⟨es, next⟩ := s
  simp only [find?, erase, ne_eq, decide_not]
  induction es with
  | nil => simp
  | cons e rest ih =>
    obtain ⟨n, v⟩ := e
    by_cases hn : n = id
    · by_cases hq : query = id
      · simpa [hn, hq] using ih
      · simp [hn, hq, List.lookup_cons, beq_false_of_ne, ih]
    · by_cases hq : query = n
      · simp [hq, hn]
      · simp [hn, List.lookup_cons, beq_false_of_ne hq, ih]

theorem find?_insert (s : Sessions) (t : Tour) (query : Nat) :
    (s.insert t).find? query = if query = s.nextId then some t else s.find? query := by
  have erased : (s.erase s.nextId).entries.lookup query =
      if query = s.nextId then none else s.find? query := s.find?_erase s.nextId query
  unfold find? insert
  rw [List.lookup_append, erased]
  by_cases same : query = s.nextId
  · simp [same]
  · simp [same, find?, List.lookup_cons, beq_false_of_ne same]

end Sessions

end GuidedTour.Service
