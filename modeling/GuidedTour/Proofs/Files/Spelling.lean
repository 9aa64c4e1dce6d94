import Mathlib.Data.List.DropRight
import GuidedTour.Files.Path

/-! How paths are spelled. What counts of a path are the pieces that lead somewhere; the
folder of a path that ends in a name is spelled with all of them but the last, and starts
from the same place. -/
namespace GuidedTour

namespace Text

variable {sep c : Char} {cs piece : List Char} {ps : List (List Char)}

theorem pieces_of_notMem (h : sep ∉ piece) : pieces sep piece = [piece] := by
  induction piece with
  | nil => rfl
  | cons c piece ih =>
    rw [List.mem_cons, not_or] at h
    rw [pieces, if_neg (Ne.symm h.1), ih h.2]

theorem pieces_append_sep (h : sep ∉ piece) :
    pieces sep (piece ++ sep :: cs) = piece :: pieces sep cs := by
  induction piece with
  | nil => rw [List.nil_append, pieces, if_pos rfl]
  | cons c piece ih =>
    rw [List.mem_cons, not_or] at h
    rw [List.cons_append, pieces, if_neg (Ne.symm h.1), ih h.2]

theorem notMem_of_mem_pieces (h : piece ∈ pieces sep cs) : sep ∉ piece := by
  induction cs generalizing piece with
  | nil =>
    rw [pieces, List.mem_singleton] at h
    rw [h]
    exact List.not_mem_nil
  | cons c cs ih =>
    rw [pieces] at h
    split at h
    · rw [List.mem_cons] at h
      obtain rfl | rest := h
      · exact List.not_mem_nil
      · exact ih rest
    · rename_i ne
      cases hp : pieces sep cs with
      | nil => exact absurd hp (pieces_ne_nil sep cs)
      | cons first more =>
        rw [hp] at h
        obtain rfl | rest := List.mem_cons.1 h
        · rw [List.mem_cons, not_or]
          exact ⟨Ne.symm ne, ih (hp ▸ List.mem_cons_self)⟩
        · exact ih (hp ▸ List.mem_cons_of_mem _ rest)

theorem joinPieces_cons_cons (piece next : List Char) (more : List (List Char)) :
    joinPieces sep (piece :: next :: more) = piece ++ sep :: joinPieces sep (next :: more) := rfl

/-- Pieces without the separator can be told apart again. -/
theorem pieces_joinPieces (ne : ps ≠ []) (h : ∀ piece ∈ ps, sep ∉ piece) :
    pieces sep (joinPieces sep ps) = ps := by
  induction ps with
  | nil => exact absurd rfl ne
  | cons piece more ih =>
    cases more with
    | nil => exact pieces_of_notMem (h piece List.mem_cons_self)
    | cons next more =>
      rw [joinPieces_cons_cons, pieces_append_sep (h piece List.mem_cons_self),
        ih (List.cons_ne_nil _ _) fun p mem => h p (List.mem_cons_of_mem _ mem)]

theorem mem_joinPieces_iff (ne : c ≠ sep) :
    c ∈ joinPieces sep ps ↔ ∃ piece ∈ ps, c ∈ piece := by
  induction ps with
  | nil => simp [joinPieces]
  | cons piece more ih =>
    cases more with
    | nil => simp [joinPieces]
    | cons next more =>
      rw [joinPieces_cons_cons, List.mem_append, List.mem_cons, ih]
      simp [ne]

theorem mem_iff_mem_pieces (ne : c ≠ sep) : c ∈ cs ↔ ∃ piece ∈ pieces sep cs, c ∈ piece := by
  rw [← mem_joinPieces_iff ne, joinPieces_pieces]

end Text

namespace Path

variable {path : String} {cs last : List Char} {ps init : List (List Char)}

/-- The pieces that lead somewhere. -/
def named (ps : List (List Char)) : List (List Char) := ps.filter (!isIdle ·)

/-- The path ends in a name or by going up, not in a slash or in a single dot. -/
def EndsInName (path : String) : Prop :=
  ∃ last ∈ (Text.pieces '/' path.toList).getLast?, isIdle last = false

instance (path : String) : Decidable (EndsInName path) :=
  inferInstanceAs (Decidable (∃ last ∈ (Text.pieces '/' path.toList).getLast?, _))

theorem trimIdle_eq (ps : List (List Char)) : trimIdle ps = ps.rdropWhile isIdle := rfl

theorem trimIdle_append (h : isIdle last = false) : trimIdle (init ++ [last]) = init ++ [last] := by
  rw [trimIdle_eq, List.rdropWhile_concat_neg]
  simp [h]

theorem trimIdle_isPrefix (ps : List (List Char)) : trimIdle ps <+: ps :=
  List.rdropWhile_prefix _ _

theorem named_trimIdle (ps : List (List Char)) : named (trimIdle ps) = named ps := by
  induction ps using List.reverseRecOn with
  | nil => rfl
  | append_singleton ps piece ih =>
    rw [trimIdle_eq, List.rdropWhile_concat]
    split
    · rename_i idle
      rw [← trimIdle_eq, ih]
      simp [named, idle]
    · rfl

theorem named_pieces_joinPieces (h : ∀ piece ∈ ps, '/' ∉ piece) :
    named (Text.pieces '/' (Text.joinPieces '/' ps)) = named ps := by
  cases ps with
  | nil => rfl
  | cons piece more => rw [Text.pieces_joinPieces (List.cons_ne_nil _ _) h]

/-- How the division of a path that ends in a name shares its pieces. -/
inductive Divided : List Char → List (List Char) → List (List Char) → Prop where
  | root (middle : List (List Char)) : Divided ['/'] ([] :: middle) middle
  | here (more : List (List Char)) : Divided ['.'] (['.'] :: more) ([] :: more)
  | name {init : List (List Char)} (h : init.head? ≠ some []) : Divided [] init init

/-- The first piece is empty only before a separator. -/
theorem head?_pieces_ne (hs : ∀ rest, cs ≠ '/' :: rest)
    (h : Text.pieces '/' cs = init ++ [last]) : init.head? ≠ some [] := by
  intro first
  obtain ⟨more, rfl⟩ := List.head?_eq_some_iff.1 first
  cases cs with
  | nil =>
    rw [Text.pieces, List.cons_append] at h
    exact List.append_ne_nil_of_right_ne_nil more (List.cons_ne_nil last []) (List.cons.inj h).2.symm
  | cons c rest =>
    have ne : c ≠ '/' := fun e => hs rest (e ▸ rfl)
    rw [Text.pieces, if_neg ne] at h
    split at h <;> cases (List.cons.inj h).1

theorem divide_of_named (h : Text.pieces '/' cs = init ++ [last]) (ends : isIdle last = false) :
    ∃ front middle, divide cs = (front, middle ++ [last]) ∧ Divided front init middle ∧
      (cs.head? = some '/' ↔ front = ['/']) := by
  have notOnly {piece : List Char} {more : List (List Char)} (idle : isIdle piece = true)
      (h : piece :: more = init ++ [last]) : ∃ middle, init = piece :: middle ∧
        more = middle ++ [last] := by
    cases init with
    | nil =>
      rw [← (List.cons.inj h).1, idle] at ends
      cases ends
    | cons first middle => exact ⟨middle, by rw [(List.cons.inj h).1], (List.cons.inj h).2⟩
  unfold divide
  split
  · rw [Text.pieces, if_pos rfl] at h
    obtain ⟨middle, rfl, more⟩ := notOnly rfl h
    exact ⟨_, middle, by rw [more], .root middle, by simp⟩
  · obtain ⟨middle, -, more⟩ := notOnly rfl h
    exact absurd more.symm (List.append_ne_nil_of_right_ne_nil _ (List.cons_ne_nil _ _))
  · rename_i rest
    rw [show '.' :: '/' :: rest = ['.'] ++ '/' :: rest from rfl,
      Text.pieces_append_sep (by decide)] at h
    obtain ⟨middle, rfl, more⟩ := notOnly rfl h
    refine ⟨_, [] :: middle, ?_, .here middle, by simp⟩
    rw [Text.pieces, if_pos rfl, more, List.cons_append]
  · rename_i root _ _
    refine ⟨_, init, by rw [h], .name (head?_pieces_ne root h), fun head => ?_, fun e => by cases e⟩
    obtain ⟨rest, rfl⟩ := List.head?_eq_some_iff.1 head
    exact absurd rfl (root rest)

theorem fileName?_of_named (h : Text.pieces '/' path.toList = init ++ [last])
    (ends : isIdle last = false) :
    fileName? path = if last = ['.', '.'] then none else some (String.ofList last) := by
  obtain ⟨front, middle, divided, -, -⟩ := divide_of_named h ends
  unfold fileName?
  rw [divided, trimIdle_append ends, List.getLast?_concat]
  split
  · rename_i up
    rw [if_pos (Option.some.inj up)]
  · rename_i piece notUp name
    cases Option.some.inj name
    rw [if_neg notUp]
  · rename_i none
    cases none

/-- The characters in which the folder of a path is spelled. -/
theorem toList_parent {front : List Char} {middle : List (List Char)}
    (divided : divide path.toList = (front, middle ++ [last])) (ends : isIdle last = false) :
    (parent path).toList =
      if (front ++ Text.joinPieces '/' (trimIdle middle)).isEmpty then ['.']
      else front ++ Text.joinPieces '/' (trimIdle middle) := by
  unfold parent
  rw [divided]
  simp only [trimIdle_append ends, List.dropLast_concat]
  have nonempty : (middle ++ [last]).isEmpty = false := by simp
  rw [nonempty, Bool.false_or]
  split
  · rfl
  · exact String.toList_ofList

theorem head?_joinPieces (free : ∀ piece ∈ ps, '/' ∉ piece)
    (h : (Text.joinPieces '/' ps).head? = some '/') : ps.head? = some [] := by
  cases ps with
  | nil => cases h
  | cons piece more =>
    cases piece with
    | nil => rfl
    | cons c piece =>
      have first : c = '/' := by
        cases more <;> exact Option.some.inj h
      exact absurd (first ▸ List.mem_cons_self) (free _ List.mem_cons_self)

theorem Divided.free {front : List Char} {middle : List (List Char)}
    (h : Divided front init middle) (free : ∀ piece ∈ init, '/' ∉ piece) :
    ∀ piece ∈ middle, '/' ∉ piece := by
  cases h with
  | root => exact fun piece mem => free piece (List.mem_cons_of_mem _ mem)
  | here more =>
    intro piece mem
    obtain rfl | rest := List.mem_cons.1 mem
    · exact List.not_mem_nil
    · exact free piece (List.mem_cons_of_mem _ rest)
  | name => exact free

/-- The folder of a path that ends in a name is spelled with the other pieces that lead
somewhere, and from the same place. -/
theorem parent_of_named (h : Text.pieces '/' path.toList = init ++ [last])
    (ends : isIdle last = false) :
    named (Text.pieces '/' (parent path).toList) = named init ∧
      ((parent path).toList.head? = some '/' ↔ path.toList.head? = some '/') := by
  obtain ⟨front, middle, divided, shares, root⟩ := divide_of_named h ends
  have free : ∀ piece ∈ middle, '/' ∉ piece := shares.free fun piece mem => by
    have inPath : piece ∈ Text.pieces '/' path.toList := h ▸ List.mem_append_left _ mem
    exact Text.notMem_of_mem_pieces inPath
  have kept := trimIdle_isPrefix middle
  have freeKept : ∀ piece ∈ trimIdle middle, '/' ∉ piece := fun piece mem =>
    free piece (kept.subset mem)
  rw [toList_parent divided ends, root]
  cases shares with
  | root =>
    rw [if_neg (by simp)]
    refine ⟨?_, by simp⟩
    change named ([] :: Text.pieces '/' (Text.joinPieces '/' (trimIdle middle))) = named ([] :: middle)
    have rest := named_pieces_joinPieces freeKept
    rw [named_trimIdle] at rest
    exact rest
  | here more =>
    -- The dot in front takes the place of the empty piece, and both lead nowhere.
    rw [if_neg (by simp)]
    refine ⟨?_, by simp⟩
    change _ = named more
    have same : named (trimIdle ([] :: more)) = named more := named_trimIdle _
    cases shape : trimIdle ([] :: more) with
    | nil =>
      rw [shape] at same
      exact same
    | cons first rest =>
      rw [shape] at same freeKept kept
      cases (List.cons_prefix_cons.1 kept).1
      have joined : ['.'] ++ Text.joinPieces '/' ([] :: rest) =
          Text.joinPieces '/' (['.'] :: rest) := by
        cases rest <;> rfl
      rw [joined, named_pieces_joinPieces, ← same]
      · rfl
      · intro piece mem
        obtain rfl | mem := List.mem_cons.1 mem
        · decide
        · exact freeKept piece (List.mem_cons_of_mem _ mem)
  | name first =>
    have same := named_pieces_joinPieces freeKept
    rw [named_trimIdle] at same
    rw [List.nil_append]
    split
    · rename_i empty
      rw [List.isEmpty_iff.1 empty] at same
      exact ⟨same, by simp⟩
    · refine ⟨same, fun head => ?_, fun e => by cases e⟩
      have before := head?_joinPieces freeKept head
      obtain ⟨rest, shape⟩ := List.head?_eq_some_iff.1 before
      rw [shape] at kept
      obtain ⟨after, split⟩ := kept
      exact absurd (by rw [← split]; rfl) first

theorem notMem_of_isIdle {c : Char} {piece : List Char} (dot : c ≠ '.')
    (h : isIdle piece = true) : c ∉ piece := by
  simp only [isIdle, Bool.or_eq_true, List.isEmpty_iff, decide_eq_true_eq] at h
  obtain rfl | rfl := h
  · exact List.not_mem_nil
  · simpa using dot

/-- Every character of a path that spells a name stands in its folder or in its last name. -/
theorem mem_of_named {c : Char} (h : Text.pieces '/' path.toList = init ++ [last])
    (ends : isIdle last = false) (sep : c ≠ '/') (dot : c ≠ '.') (mem : c ∈ path.toList) :
    c ∈ (parent path).toList ∨ c ∈ last := by
  obtain ⟨piece, isPiece, mem⟩ := (Text.mem_iff_mem_pieces sep).1 mem
  rw [h, List.mem_append, List.mem_singleton] at isPiece
  obtain before | rfl := isPiece
  · have kept : piece ∈ named init := by
      refine List.mem_filter.2 ⟨before, ?_⟩
      cases idle : isIdle piece with
      | false => rfl
      | true => exact absurd mem (notMem_of_isIdle dot idle)
    rw [← (parent_of_named h ends).1] at kept
    exact .inl ((Text.mem_iff_mem_pieces sep).2 ⟨piece, List.mem_of_mem_filter kept, mem⟩)
  · exact .inr mem

end Path

end GuidedTour
