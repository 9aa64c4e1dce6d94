/-! Tables keyed by name. Entries stand in the order of their names, which for
Unicode text is also the byte order of its UTF-8 form. -/
namespace GuidedTour

structure Table (α : Type u) where
  entries : List (String × α) := []
  deriving DecidableEq, Repr

namespace Table

variable {α : Type u}

def empty : Table α := {}

def names (t : Table α) : List String := t.entries.map (·.1)

def findEntry (query : String) : List (String × α) → Option α
  | [] => none
  | (n, v) :: rest => if n = query then some v else findEntry query rest

def find? (t : Table α) (name : String) : Option α := findEntry name t.entries

def contains (t : Table α) (name : String) : Bool := (t.find? name).isSome

def isEmpty (t : Table α) : Bool := t.entries.isEmpty

def insertEntry (name : String) (value : α) : List (String × α) → List (String × α)
  | [] => [(name, value)]
  | (n, v) :: rest =>
    if n = name then (name, value) :: rest
    else if name < n then (name, value) :: (n, v) :: rest
    else (n, v) :: insertEntry name value rest

/-- Adds an entry, or replaces the one of that name. -/
def insert (t : Table α) (name : String) (value : α) : Table α :=
  ⟨insertEntry name value t.entries⟩

/-- Appends to the list kept under a name. -/
def push (t : Table (List α)) (name : String) (value : α) : Table (List α) :=
  t.insert name ((t.find? name).getD [] ++ [value])

theorem findEntry_insertEntry (name query : String) (value : α) (es : List (String × α)) :
    findEntry query (insertEntry name value es) =
      if query = name then some value else findEntry query es := by
  induction es with
  | nil => by_cases h : name = query <;> simp [insertEntry, findEntry, h, eq_comm]
  | cons e rest ih =>
    obtain ⟨n, v⟩ := e
    by_cases hn : n = name
    · subst hn
      by_cases h : n = query
      · simp [insertEntry, findEntry, h]
      · simp [insertEntry, findEntry, h, Ne.symm h]
    · by_cases hl : name < n
      · by_cases h : name = query
        · subst h
          simp [insertEntry, findEntry, hn, hl]
        · simp [insertEntry, findEntry, hn, hl, h, Ne.symm h]
      · by_cases hq : n = query
        · subst hq
          simp [insertEntry, findEntry, hn, hl]
        · simp [insertEntry, findEntry, hn, hl, hq, ih]

@[simp] theorem find?_empty (query : String) : (empty : Table α).find? query = none := rfl

@[simp] theorem find?_insert (t : Table α) (name query : String) (value : α) :
    (t.insert name value).find? query = if query = name then some value else t.find? query :=
  findEntry_insertEntry name query value t.entries

theorem find?_push (t : Table (List α)) (name query : String) (value : α) :
    (t.push name value).find? query =
      if query = name then some ((t.find? name).getD [] ++ [value]) else t.find? query :=
  find?_insert ..

end Table

/-- A set of names, listed in order. -/
abbrev NameSet := Table Unit

end GuidedTour
