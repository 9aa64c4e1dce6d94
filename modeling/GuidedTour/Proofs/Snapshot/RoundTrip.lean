import GuidedTour.Snapshot.Basic
import GuidedTour.Proofs.Snapshot.Reading

/-! Snapshots give back the session that was written, whether it fits a registry or not.
Sets and maps are written in order, and collecting the entries again gives the same set or
map. Only the size of the snapshot can stand in the way. -/
namespace GuidedTour

namespace FeatureSet

theorem contains_foldl_insert (s : FeatureSet) (fs : List Feature) (f : Feature) :
    (fs.foldl insert s).contains f = (fs.contains f || s.contains f) := by
  induction fs generalizing s with
  | nil => simp
  | cons g fs ih =>
    rw [List.foldl_cons, ih, contains_insert, List.contains_cons, ← Bool.or_assoc]
    congr 1
    rw [Bool.or_comm]
    rfl

/-- A set is its list of members. -/
theorem ofList_toList (s : FeatureSet) : ofList s.toList = s := by
  refine ext_contains fun f => ?_
  unfold ofList
  rw [contains_foldl_insert, contains_empty, Bool.or_false, Bool.eq_iff_iff,
    List.contains_iff_mem, mem_toList]

end FeatureSet

/-- What is mounted is the list of mounted components. -/
theorem Screen.ofList_toList (s : Screen) : ofList s.toList = s := by
  obtain ⟨tutorial, feature, step, detail⟩ := s
  cases tutorial <;> cases feature <;> cases step <;> cases detail <;> rfl

namespace Snapshot

theorem inverse_feature : Inverse encodeFeature decodeFeature :=
  inverse_index Feature.ofIndex?_index fun f => by cases f <;> decide

theorem inverse_region : Inverse (fun r => Varint.encode r.index) (decodeIndex Region.ofIndex?) :=
  inverse_index Region.ofIndex?_index fun r => by cases r <;> decide

theorem inverse_mounted : Inverse encodeMounted decodeMounted where
  reads entry short := by
    unfold encodeMounted at short
    rw [List.length_append] at short
    exact (inverse_region.reads entry.1 (by omega)).bind
      (inverse_text.reads entry.2 (by omega)).map
  ne_nil entry := append_ne_nil_of_encode _ _

theorem inverse_route : Inverse encodeRoute decodeRoute where
  reads route short := by
    unfold encodeRoute at short
    rw [List.length_append] at short
    exact (inverse_text.reads route.name (by omega)).bind
      ((inverse_list inverse_text).reads route.params (by omega)).map
  ne_nil route := List.append_ne_nil_of_left_ne_nil (inverse_text.ne_nil route.name) _

/-- The parts of a record are read in the order in which they are written. -/
theorem reads_payload {r : Record} (short : (encodePayload r).length < 2 ^ 64) :
    Reads decodePayload (encodePayload r) r := by
  unfold encodePayload at short ⊢
  simp only [List.length_append] at short
  simp only [List.append_assoc]
  refine (inverse_text.reads r.tutorial (by omega)).bind ?_
  refine ((inverse_option inverse_feature).reads r.machine (by omega)).bind ?_
  refine ((inverse_option inverse_text).reads r.state (by omega)).bind ?_
  refine ((inverse_list inverse_text).reads r.history (by omega)).bind ?_
  refine ((inverse_list inverse_feature).reads r.completed.toList (by omega)).bind ?_
  refine ((inverse_list inverse_feature).reads r.plan (by omega)).bind ?_
  refine ((inverse_option inverse_text).reads r.params.mountType (by omega)).bind ?_
  refine ((inverse_list inverse_mounted).reads r.screen.toList (by omega)).bind ?_
  refine (inverse_flag.reads r.shownBeforeLogin (by omega)).bind ?_
  refine ((inverse_option inverse_route).reads r.route (by omega)).bind ?_
  rw [FeatureSet.ofList_toList, Screen.ofList_toList]
  exact ((inverse_option inverse_route).reads r.resumeRoute (by omega)).map

theorem split?_encode (r : Record) (more : List UInt8) :
    Header.split? (encode r ++ more) = some ({}, encodePayload r ++ more) := rfl

theorem Header.split?_eq_some {header : Header} {bytes payload : List UInt8}
    (h : split? bytes = some (header, payload)) : bytes = header.toBytes ++ payload := by
  unfold split? at h
  split at h
  · cases h
    rfl
  · cases h

theorem Header.eq_of_fault? {header : Header} (h : header.fault? = none) : header = {} := by
  obtain ⟨magic, version⟩ := header
  by_cases sameMagic : magic = magicBytes
  · by_cases sameVersion : version = formatVersion
    · rw [sameMagic, sameVersion]
    · simp [fault?, sameMagic, sameVersion] at h
  · simp [fault?, sameMagic] at h

/-- Accepted bytes are the header of this format, a payload that is read, and anything after it. -/
theorem decode_eq_ok {bytes : List UInt8} {r : Record} (h : decode bytes = .ok r) :
    bytes.length ≤ maxSize ∧ ∃ payload rest,
      bytes = Header.toBytes {} ++ payload ∧ decodePayload payload = .ok (r, rest) := by
  unfold decode at h
  split at h
  · cases h
  rename_i small
  refine ⟨Nat.le_of_not_lt small, ?_⟩
  split at h
  · cases h
  rename_i header payload divided
  split at h
  · cases h
  rename_i sound
  split at h
  · rename_i record rest read
    cases h
    refine ⟨payload, rest, ?_, read⟩
    rw [Header.split?_eq_some divided, Header.eq_of_fault? sound]
  · cases h

/-- A snapshot of at most the greatest size gives the session back, whatever follows it. -/
theorem decode_append {r : Record} {more : List UInt8}
    (h : (encode r ++ more).length ≤ maxSize) : decode (encode r ++ more) = .ok r := by
  have short : (encodePayload r).length < 2 ^ 64 := by
    unfold encode maxSize at h
    simp only [List.length_append] at h
    omega
  unfold decode
  rw [if_neg (by omega), split?_encode]
  have header : (Header.fault? {}) = none := by decide
  simp only [header, reads_payload short more]

theorem decode_of_le {r : Record} (h : (encode r).length ≤ maxSize) : decode (encode r) = .ok r := by
  rw [← List.append_nil (encode r)] at h ⊢
  exact decode_append h

/-- Every session is written, and read back unless the snapshot is too large. -/
theorem decode_encode (r : Record) : decode (encode r) =
    if (encode r).length ≤ maxSize then .ok r else .error (.tooLarge (encode r).length) := by
  split
  · rename_i small
    exact decode_of_le small
  · rename_i large
    unfold decode
    rw [if_pos (by omega)]

end Snapshot

end GuidedTour
