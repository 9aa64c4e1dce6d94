import GuidedTour.Files.Basic
import GuidedTour.Proofs.Files.Spelling
import GuidedTour.Proofs.Results

/-! What is written to a path is read from it. Writing names the folder and the file apart,
reading follows the path as a whole; both lead to the same place if the path ends in a name.
A new file stands in nobody's way: every step that led somewhere still does. -/
namespace GuidedTour

namespace Files

variable {files saved : Files} {names next last target folder : List String}
  {path name : String} {piece : List Char} {ps : List (List Char)} {content : ByteArray}

/-- The names that some pieces lead to from a place. -/
def walk (files : Files) (names : List String) (ps : List (List Char)) :
    Except Fault (List String) :=
  ps.foldlM files.follow names

theorem walk_nil : files.walk names [] = .ok names := rfl

theorem walk_cons : files.walk names (piece :: ps) = files.follow names piece >>= (files.walk · ps) :=
  List.foldlM_cons

theorem walk_append {more : List (List Char)} :
    files.walk names (ps ++ more) = files.walk names ps >>= (files.walk · more) :=
  List.foldlM_append

theorem walk_cons_eq_ok_iff : files.walk names (piece :: ps) = .ok last ↔
    ∃ next, files.follow names piece = .ok next ∧ files.walk next ps = .ok last := by
  rw [walk_cons]
  exact bind_eq_ok_iff

/-- Where a path starts. -/
def origin (files : Files) (path : String) : List String :=
  if path.toList.head? = some '/' then [] else files.workFolder

theorem resolve_eq_ok_iff : files.resolve path = .ok names ↔
    '\x00' ∉ path.toList ∧ path.toList ≠ [] ∧
      files.walk (files.origin path) (Text.pieces '/' path.toList) = .ok names := by
  unfold resolve
  by_cases zero : '\x00' ∈ path.toList
  · simp [zero]
  · by_cases empty : path.toList = []
    · simp [empty]
    · simp only [List.contains_eq_mem, zero, decide_false, Bool.false_eq_true, if_false,
        List.isEmpty_iff, empty, not_false_eq_true, ne_eq, true_and]
      rfl

/-- What one step from a folder can do. -/
theorem follow_eq_ok_iff : files.follow names piece = .ok next ↔
    files.find? names = some .folder ∧
      (Path.isIdle piece = true ∧ next = names ∨
        Path.isIdle piece = false ∧ piece = ['.', '.'] ∧ next = names.drop 1 ∨
        Path.isIdle piece = false ∧ piece ≠ ['.', '.'] ∧
          (String.ofList piece).utf8ByteSize ≤ maxNameBytes ∧
          (files.find? (String.ofList piece :: names)).isSome = true ∧
          next = String.ofList piece :: names) := by
  unfold follow
  cases hf : files.find? names with
  | none => simp
  | some entry =>
    cases entry with
    | file content => simp
    | folder =>
      cases idle : Path.isIdle piece with
      | true =>
        simp only [if_true, Except.ok.injEq, true_and, Bool.true_eq_false, false_and, or_false]
        exact eq_comm
      | false =>
        by_cases up : piece = ['.', '.']
        · simp only [up, Bool.false_eq_true, if_false, if_true, Except.ok.injEq, true_and,
            false_and, false_or, ne_eq, not_true_eq_false, or_false, and_false]
          exact eq_comm
        · by_cases long : maxNameBytes < (String.ofList piece).utf8ByteSize
          · simp [up, long, Nat.not_le_of_lt long]
          · cases found : (files.find? (String.ofList piece :: names)).isSome with
            | true =>
              simp only [up, long, Nat.le_of_not_lt long, found, Bool.false_eq_true, if_false,
                if_true, Except.ok.injEq, true_and, false_and, false_or, ne_eq, not_false_eq_true]
              exact eq_comm
            | false => simp [up, long, found]

theorem find?_of_follow (h : files.follow names piece = .ok next) :
    files.find? names = some .folder :=
  (follow_eq_ok_iff.1 h).1

theorem follow_idle (h : files.find? names = some .folder) (idle : Path.isIdle piece = true) :
    files.follow names piece = .ok names :=
  follow_eq_ok_iff.2 ⟨h, .inl ⟨idle, rfl⟩⟩

theorem find?_of_walk (h : files.walk names ps = .ok last)
    (there : files.find? last = some .folder) : files.find? names = some .folder := by
  cases ps with
  | nil =>
    cases h
    exact there
  | cons piece ps =>
    obtain ⟨next, step, -⟩ := walk_cons_eq_ok_iff.1 h
    exact find?_of_follow step

/-- On the way to a folder only the pieces count that lead somewhere. -/
theorem walk_named (there : files.find? last = some .folder) :
    files.walk names (Path.named ps) = .ok last ↔ files.walk names ps = .ok last := by
  induction ps generalizing names with
  | nil => rfl
  | cons piece ps ih =>
    cases idle : Path.isIdle piece with
    | true =>
      have drop : Path.named (piece :: ps) = Path.named ps := by simp [Path.named, idle]
      rw [drop, ih, walk_cons_eq_ok_iff]
      constructor
      · intro h
        exact ⟨names, follow_idle (find?_of_walk h there) idle, h⟩
      · rintro ⟨next, step, rest⟩
        rw [follow_idle (find?_of_follow step) idle] at step
        cases step
        exact rest
    | false =>
      have keep : Path.named (piece :: ps) = piece :: Path.named ps := by simp [Path.named, idle]
      rw [keep, walk_cons_eq_ok_iff, walk_cons_eq_ok_iff]
      exact exists_congr fun next => and_congr_right fun _ => ih

theorem find?_put_of_ne {entry : Entry} (ne : names ≠ target) :
    (files.put target entry).find? names = files.find? names := by
  by_cases above : names.isSuffixOf files.workFolder = true
  · have still : names.isSuffixOf (files.put target entry).workFolder = true := above
    unfold find?
    rw [if_pos above, if_pos still]
  · rw [find?_put _ _ _ _ above, if_neg ne]

theorem find?_put_self {entry : Entry} (ne : files.find? target ≠ some .folder) :
    (files.put target entry).find? target = some entry := by
  by_cases above : target.isSuffixOf files.workFolder = true
  · exact absurd (if_pos above) ne
  · rw [find?_put _ _ _ _ above, if_pos rfl]

theorem isSome_find?_put (h : (files.find? names).isSome = true)
    (ne : files.find? target ≠ some .folder) :
    ((files.put target (.file content)).find? names).isSome = true := by
  by_cases e : names = target
  · rw [e, find?_put_self ne]
    rfl
  · rw [find?_put_of_ne e]
    exact h

/-- Where no folder stood, a file may be put without closing a way. -/
theorem follow_put (ne : files.find? target ≠ some .folder)
    (h : files.follow names piece = .ok next) :
    (files.put target (.file content)).follow names piece = .ok next := by
  obtain ⟨here, step⟩ := follow_eq_ok_iff.1 h
  have other : names ≠ target := fun e => ne (e ▸ here)
  refine follow_eq_ok_iff.2 ⟨by rw [find?_put_of_ne other, here], ?_⟩
  refine step.imp_right (.imp_right fun ⟨leads, name, short, found, there⟩ => ?_)
  exact ⟨leads, name, short, isSome_find?_put found ne, there⟩

theorem walk_put (ne : files.find? target ≠ some .folder) (h : files.walk names ps = .ok last) :
    (files.put target (.file content)).walk names ps = .ok last := by
  induction ps generalizing names with
  | nil => exact h
  | cons piece ps ih =>
    obtain ⟨next, step, rest⟩ := walk_cons_eq_ok_iff.1 h
    exact walk_cons_eq_ok_iff.2 ⟨next, follow_put ne step, ih rest⟩

theorem resolve_put (ne : files.find? target ≠ some .folder) (h : files.resolve path = .ok names) :
    (files.put target (.file content)).resolve path = .ok names := by
  obtain ⟨clean, nonempty, walked⟩ := resolve_eq_ok_iff.1 h
  exact resolve_eq_ok_iff.2 ⟨clean, nonempty, walk_put ne walked⟩

theorem target_eq_ok (h : files.target folder name = .ok names) :
    names = name :: folder ∧ '\x00' ∉ name.toList ∧ files.find? folder = some .folder ∧
      name.utf8ByteSize ≤ maxNameBytes ∧ files.find? (name :: folder) ≠ some .folder := by
  unfold target at h
  split at h
  · cases h
  · rename_i zero
    split at h
    · cases h
    · cases h
    · rename_i there
      split at h
      · cases h
      · rename_i short
        split at h
        · cases h
        · rename_i free
          cases h
          refine ⟨rfl, by simpa using zero, there, Nat.le_of_not_lt short, free⟩

/-- Where a path that ends in a name leads: to that name in its folder. -/
theorem resolve_of_named {init : List (List Char)} {piece : List Char}
    (spelled : Text.pieces '/' path.toList = init ++ [piece]) (ends : Path.isIdle piece = false)
    (zero : '\x00' ∉ piece) (there : files.find? folder = some .folder)
    (parent : files.resolve (Path.parent path) = .ok folder)
    (leads : files.follow folder piece = .ok names) : files.resolve path = .ok names := by
  obtain ⟨counts, root⟩ := Path.parent_of_named spelled ends
  obtain ⟨clean, -, walked⟩ := resolve_eq_ok_iff.1 parent
  have start : files.origin (Path.parent path) = files.origin path := by
    unfold origin
    simp only [root]
  rw [start, ← walk_named there, counts, walk_named there] at walked
  refine resolve_eq_ok_iff.2 ⟨fun mem => ?_, fun empty => ?_, ?_⟩
  · obtain before | last := Path.mem_of_named spelled ends (by decide) (by decide) mem
    · exact clean before
    · exact zero last
  · rw [empty] at spelled
    cases init with
    | nil =>
      cases spelled
      cases ends
    | cons first more =>
      exact List.append_ne_nil_of_right_ne_nil more (List.cons_ne_nil _ _)
        (List.cons.inj spelled).2.symm
  · rw [spelled, walk_append, walked]
    change files.walk folder [piece] = .ok names
    exact walk_cons_eq_ok_iff.2 ⟨names, leads, walk_nil⟩

theorem target_ne_noSpace : files.target folder name ≠ .error .noSpace := by
  unfold target
  repeat' split
  all_goals nofun

theorem outlet_eq_ok (h : files.outlet path = .ok names) : ∃ folder name,
    files.resolve (Path.parent path) = .ok folder ∧ Path.fileName? path = some name ∧
      files.target folder name = .ok (name :: folder) ∧ names = name :: folder := by
  unfold outlet at h
  obtain ⟨folder, parent, h⟩ := bind_eq_ok_iff.1 h
  split at h
  · cases h
  · rename_i name named
    rw [mapError_eq_ok_iff] at parent h
    obtain ⟨rfl, -⟩ := target_eq_ok h
    exact ⟨folder, name, parent, named, h, rfl⟩

/-- Opening a file is not refused for want of room. -/
theorem outlet_ne_noSpace : files.outlet path ≠ .error (.refused .noSpace) := by
  unfold outlet
  cases files.resolve (Path.parent path) with
  | error fault => nofun
  | ok folder =>
    cases Path.fileName? path with
    | none => nofun
    | some name =>
      change (files.target folder name).mapError WriteFault.refused ≠ _
      cases h : files.target folder name with
      | error fault =>
        intro same
        cases same
        exact target_ne_noSpace h
      | ok names => nofun

theorem extract_of_le {bytes : Nat} (h : content.size ≤ bytes) :
    content.extract 0 bytes = content := by
  apply ByteArray.ext_getElem
  · simp [h]
  · intro i _ _
    simp only [ByteArray.getElem_extract, Nat.zero_add]

/-- The disk takes all of a file or fails, and then it was too full for it. -/
theorem taken_cases (files : Files) (content : ByteArray) : files.taken content = content ∨
    ∃ bytes, files.room = some bytes ∧ bytes < content.size ∧
      files.taken content = content.extract 0 bytes := by
  unfold taken
  cases room : files.room with
  | none => exact .inl rfl
  | some bytes =>
    obtain large | small := Nat.lt_or_ge bytes content.size
    · exact .inr ⟨bytes, rfl, large, rfl⟩
    · exact .inl (extract_of_le small)

/-- All that a write can come to: it is refused, it is done, or the disk was too full for it. -/
theorem write_cases (files : Files) (path : String) (content : ByteArray) :
    (∃ fault, fault ≠ .refused .noSpace ∧ files.write path content = (some fault, files)) ∨
    ∃ names, files.outlet path = .ok names ∧
      (files.write path content = (none, files.put names (.file content)) ∨
        ∃ bytes, files.room = some bytes ∧ bytes < content.size ∧
          files.write path content =
            (some (.refused .noSpace), files.put names (.file (content.extract 0 bytes)))) := by
  unfold write
  cases opened : files.outlet path with
  | error fault =>
    refine .inl ⟨fault, ?_, rfl⟩
    rintro rfl
    exact outlet_ne_noSpace opened
  | ok names =>
    refine .inr ⟨names, rfl, ?_⟩
    obtain all | ⟨bytes, room, large, cut⟩ := taken_cases files content
    · simp [all]
    · refine .inr ⟨bytes, room, large, ?_⟩
      have short : (content.extract 0 bytes).size < content.size := by
        rw [ByteArray.size_extract]
        omega
      simp only [cut, if_pos short]

theorem write_eq_none (h : files.write path content = (none, saved)) :
    ∃ names, files.outlet path = .ok names ∧ saved = files.put names (.file content) := by
  obtain ⟨fault, -, failed⟩ | ⟨names, opened, done | ⟨bytes, -, -, failed⟩⟩ :=
    write_cases files path content
  · cases failed.symm.trans h
  · cases done.symm.trans h
    exact ⟨names, opened, rfl⟩
  · cases failed.symm.trans h

/-- What was written under a name stands there. -/
theorem entryAt_write (named : Path.EndsInName path)
    (h : files.write path content = (none, saved)) :
    saved.entryAt path = .ok (.file content) := by
  obtain ⟨names, opened, rfl⟩ := write_eq_none h
  obtain ⟨folder, name, parent, isName, place, rfl⟩ := outlet_eq_ok opened
  obtain ⟨-, zero, there, short, free⟩ := target_eq_ok place
  obtain ⟨piece, last, ends⟩ := named
  obtain ⟨init, spelled⟩ := List.getLast?_eq_some_iff.1 last
  rw [Path.fileName?_of_named spelled ends] at isName
  split at isName
  · cases isName
  · rename_i notUp
    obtain rfl := Option.some.inj isName
    rw [String.toList_ofList] at zero
    have ne : folder ≠ String.ofList piece :: folder := fun e =>
      absurd (congrArg List.length e) (by simp)
    have stands : (files.put (String.ofList piece :: folder) (.file content)).find?
        (String.ofList piece :: folder) = some (.file content) := find?_put_self free
    have stays : (files.put (String.ofList piece :: folder) (.file content)).find? folder =
        some .folder := by
      rw [find?_put_of_ne ne, there]
    have resolved : (files.put (String.ofList piece :: folder) (.file content)).resolve path =
        .ok (String.ofList piece :: folder) := by
      refine resolve_of_named spelled ends zero stays (resolve_put free parent) ?_
      refine follow_eq_ok_iff.2 ⟨stays, .inr (.inr ⟨ends, notUp, short, ?_, rfl⟩)⟩
      rw [stands]
      rfl
    unfold entryAt
    rw [resolved]
    simp only [bind, Except.bind, stands]
    rfl

/-- The place that a path is written to: its last name, in the folder before it. -/
def Leads (files : Files) (path : String) (place : List String) : Prop :=
  ∃ folder name, files.resolve (Path.parent path) = .ok folder ∧
    Path.fileName? path = some name ∧ place = name :: folder

/-- The file in one place has new content, and everything else is as it was. -/
structure Changed (files : Files) (place : List String) (content : ByteArray) (saved : Files) :
    Prop where
  free : files.find? place ≠ some .folder
  stands : saved.find? place = some (.file content)
  elsewhere : ∀ names, names ≠ place → saved.find? names = files.find? names
  workFolder : saved.workFolder = files.workFolder
  /-- A path that led to another place leads there, to what it led to. -/
  entryAt : ∀ other names, files.resolve other = .ok names → names ≠ place →
    saved.entryAt other = files.entryAt other

theorem changed_put (free : files.find? target ≠ some .folder) :
    files.Changed target content (files.put target (.file content)) where
  free := free
  stands := find?_put_self free
  elsewhere _ ne := find?_put_of_ne ne
  workFolder := rfl
  entryAt other names resolved ne := by
    unfold Files.entryAt
    rw [resolve_put free resolved, resolved]
    simp only [bind, Except.bind, find?_put_of_ne ne]

theorem leads_of_outlet (h : files.outlet path = .ok names) :
    files.Leads path names ∧ files.find? names ≠ some .folder := by
  obtain ⟨folder, name, parent, isName, place, rfl⟩ := outlet_eq_ok h
  obtain ⟨-, -, -, -, free⟩ := target_eq_ok place
  exact ⟨⟨folder, name, parent, isName, rfl⟩, free⟩

theorem changed_of_write (h : files.write path content = (none, saved)) :
    ∃ place, files.Leads path place ∧ files.Changed place content saved := by
  obtain ⟨names, opened, rfl⟩ := write_eq_none h
  obtain ⟨leads, free⟩ := leads_of_outlet opened
  exact ⟨names, leads, changed_put free⟩

theorem write_refused {fault : WriteFault} (h : files.write path content = (some fault, saved))
    (other : fault ≠ .refused .noSpace) : saved = files := by
  obtain ⟨fault, -, failed⟩ | ⟨names, -, done | ⟨bytes, -, -, failed⟩⟩ :=
    write_cases files path content
  · cases failed.symm.trans h
    rfl
  · cases done.symm.trans h
  · cases failed.symm.trans h
    exact absurd rfl other

/-- A write that the disk was too full for leaves the front of what was to be written. -/
theorem write_cut (h : files.write path content = (some (.refused .noSpace), saved)) :
    ∃ place bytes, files.Leads path place ∧ files.room = some bytes ∧ bytes < content.size ∧
      files.Changed place (content.extract 0 bytes) saved := by
  obtain ⟨fault, other, failed⟩ | ⟨names, opened, done | ⟨bytes, room, large, failed⟩⟩ :=
    write_cases files path content
  · cases failed.symm.trans h
    exact absurd rfl other
  · cases done.symm.trans h
  · obtain ⟨leads, free⟩ := leads_of_outlet opened
    cases failed.symm.trans h
    exact ⟨names, bytes, leads, room, large, changed_put free⟩

/-- A slash or a single dot at the end leads to a folder, or nowhere. -/
theorem endsInName_of_entryAt (h : files.entryAt path = .ok (.file content)) :
    Path.EndsInName path := by
  unfold entryAt at h
  obtain ⟨names, resolved, h⟩ := bind_eq_ok_iff.1 h
  obtain ⟨-, -, walked⟩ := resolve_eq_ok_iff.1 resolved
  obtain ⟨init, last, spelled⟩ := List.eq_nil_or_concat' (Text.pieces '/' path.toList) |>.resolve_left
    (Text.pieces_ne_nil _ _)
  refine ⟨last, by simp [spelled], ?_⟩
  rw [spelled, walk_append] at walked
  obtain ⟨folder, -, step⟩ := bind_eq_ok_iff.1 walked
  obtain ⟨next, step, stop⟩ := walk_cons_eq_ok_iff.1 step
  cases stop
  cases idle : Path.isIdle last with
  | false => rfl
  | true =>
    have there := find?_of_follow step
    rw [follow_idle there idle] at step
    cases step
    simp only [there] at h
    cases h

theorem read_eq_ok_iff {largest : Nat} : files.read largest path = .ok content ↔
    files.entryAt path = .ok (.file content) ∧ content.size ≤ largest := by
  unfold read
  cases files.entryAt path with
  | error fault => simp
  | ok entry =>
    cases entry with
    | folder => simp
    | file found =>
      by_cases large : largest < found.size
      · have : found = content → ¬content.size ≤ largest := by
          rintro rfl
          omega
        simpa [large] using this
      · have : found = content → content.size ≤ largest := by
          rintro rfl
          omega
        simpa [large] using this

theorem read_of_lt {largest : Nat} (h : files.entryAt path = .ok (.file content))
    (large : largest < content.size) :
    files.read largest path = .error (.tooLarge content.size largest) := by
  unfold read
  rw [h]
  exact if_pos large

/-- What was written is all that can be read: under a name, unless it is too large. -/
theorem read_write_iff {largest : Nat} {found : ByteArray}
    (h : files.write path content = (none, saved)) : saved.read largest path = .ok found ↔
      Path.EndsInName path ∧ content.size ≤ largest ∧ found = content := by
  rw [read_eq_ok_iff]
  constructor
  · rintro ⟨stands, small⟩
    have named := endsInName_of_entryAt stands
    cases stands.symm.trans (entryAt_write named h)
    exact ⟨named, small, rfl⟩
  · rintro ⟨named, small, rfl⟩
    exact ⟨entryAt_write named h, small⟩

/-- What was written under a name is read back, unless it is too large. -/
theorem read_write {largest : Nat} (named : Path.EndsInName path)
    (h : files.write path content = (none, saved)) (small : content.size ≤ largest) :
    saved.read largest path = .ok content :=
  (read_write_iff h).2 ⟨named, small, rfl⟩

end Files

end GuidedTour
