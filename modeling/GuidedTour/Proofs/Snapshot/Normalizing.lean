import Mathlib.Data.List.Flatten
import Mathlib.Data.List.Nodup
import Mathlib.Data.List.Perm.Subperm
import GuidedTour.Proofs.Snapshot.RoundTrip

/-! Reading normalises. Numbers may be padded with zero groups, sets and maps may list a
member more than once and in any order, and anything may follow; written again, the session
takes no more bytes than were read, so it is always accepted again. Each decoder pays for the
value that it gives with the bytes that it takes. -/
namespace GuidedTour

namespace Snapshot

/-- What the decoder gives costs no more bytes than the decoder takes. -/
def Pays (decode : Decoder α) (cost : α → Nat) : Prop :=
  ∀ ⦃bytes a rest⦄, decode bytes = .ok (a, rest) → cost a + rest.length ≤ bytes.length

namespace Pays

theorem le {decode : Decoder α} {cost : α → Nat} {bytes rest : List UInt8} {a : α}
    (h : Pays decode cost) (read : decode bytes = .ok (a, rest)) :
    cost a + rest.length ≤ bytes.length := h read

theorem refuse (fault : PayloadFault) (cost : α → Nat) : Pays (refuse fault) cost := by
  intro bytes a rest h
  cases h

theorem pure {cost : α → Nat} {a : α} (free : cost a = 0) : Pays (pure a) cost := by
  intro bytes b rest h
  cases h
  omega

/-- The first decoder pays its part, and the second one has to pay what is missing. -/
theorem bind {decode : Decoder α} {next : α → Decoder β} {cost : α → Nat} {total : β → Nat}
    (first : Pays decode cost) (second : ∀ a, Pays (next a) fun b => total b - cost a) :
    Pays (decode >>= next) total := by
  intro bytes b rest h
  obtain ⟨a, later, head, tail⟩ := seq_eq_ok_iff.1 h
  have paid := first.le head
  have owed := (second a).le tail
  omega

theorem byte : Pays nextByte fun _ => 1 := by
  intro bytes b rest h
  refine Nat.le_of_eq ?_
  rw [nextByte_eq_ok h, List.length_cons, Nat.add_comm]

end Pays

namespace Varint

/-- One more group costs one more byte, or none if it is a leading zero. -/
theorem length_encode_le (low high : Nat) (small : low < 128) :
    (encode (low + 128 * high)).length ≤ (encode high).length + 1 := by
  have some : 0 < (encode high).length := List.length_pos_iff.2 (encode_ne_nil high)
  by_cases last : low + 128 * high < 128
  · rw [encode_of_lt last, List.length_singleton]
    omega
  · have shifted : (low + 128 * high) / 128 = high := by omega
    rw [encode_of_ge last, shifted]
    exact Nat.le_of_eq List.length_cons

theorem pays_decodeGroups (top groups : Nat) :
    Pays (decodeGroups top groups) fun n => (encode n).length := by
  induction groups with
  | zero => exact .refuse _ _
  | succ groups ih =>
    rw [decodeGroups]
    refine .bind .byte fun b => ?_
    split
    · rename_i last
      split
      · exact .refuse _ _
      · apply Pays.pure
        rw [encode_of_lt last, List.length_singleton]
    · refine .bind ih fun high => .pure ?_
      have group := length_encode_le (b.toNat % 128) high (Nat.mod_lt _ (by decide))
      omega

/-- A smaller number is written in no more bytes. -/
theorem length_encode_mono {m n : Nat} (h : m ≤ n) : (encode m).length ≤ (encode n).length := by
  induction n using encode.induct generalizing m with
  | case1 n small =>
    rw [encode_of_lt small, encode_of_lt (Nat.lt_of_le_of_lt h small)]
    exact Nat.le_refl 1
  | case2 n large ih =>
    have quotient : m / 128 ≤ n / 128 := Nat.div_le_div_right h
    have group := length_encode_le (m % 128) (m / 128) (Nat.mod_lt _ (by decide))
    rw [Nat.mod_add_div] at group
    rw [encode_of_ge large, List.length_cons]
    exact Nat.le_trans group (Nat.succ_le_succ (ih quotient))

end Varint

theorem pays_text : Pays decodeText fun s => (encodeText s).length := by
  intro bytes s rest h
  obtain ⟨n, later, count, content⟩ := seq_eq_ok_iff.1 h
  obtain ⟨read, after, taken, checked⟩ := seq_eq_ok_iff.1 content
  have paid := (Varint.pays_decodeGroups _ _).le count
  obtain ⟨rfl, rfl⟩ := takeBytes_eq_ok taken
  cases text : String.fromUTF8? ⟨read.toArray⟩ with
  | none =>
    rw [text] at checked
    cases checked
  | some found =>
    rw [text] at checked
    cases checked
    simp only [encodeText, toUTF8_of_fromUTF8? text, List.length_append]
    rw [List.length_append] at paid
    omega

theorem pays_flag : Pays decodeFlag fun b => (encodeFlag b).length := by
  refine .bind .byte fun b => ?_
  split
  · exact .pure rfl
  · exact .pure rfl
  · exact .refuse _ _

section Structured

variable {encode : α → List UInt8} {decode : Decoder α}

theorem pays_option (h : Pays decode fun a => (encode a).length) :
    Pays (decodeOption decode) fun a => (encodeOption encode a).length := by
  refine .bind .byte fun b => ?_
  split
  · exact .pure rfl
  · refine .bind h fun a => .pure ?_
    rw [encodeOption, List.length_cons]
    omega
  · exact .refuse _ _

theorem pays_decodeItems (h : Pays decode fun a => (encode a).length) (n : Nat) (read : List α) :
    Pays (decodeItems decode n read) fun as =>
      (as.flatMap encode).length - (read.flatMap encode).length := by
  induction n generalizing read with
  | zero =>
    apply Pays.pure
    simp [List.length_flatMap]
  | succ n ih =>
    refine .bind h fun a => ?_
    intro bytes as rest done
    have paid := (ih (a :: read)).le done
    rw [List.flatMap_cons, List.length_append] at paid
    dsimp only
    omega

theorem length_decodeItems {n : Nat} {read as : List α} {bytes rest : List UInt8}
    (h : decodeItems decode n read bytes = .ok (as, rest)) : as.length = read.length + n := by
  induction n generalizing read bytes with
  | zero =>
    cases h
    exact List.length_reverse
  | succ n ih =>
    obtain ⟨a, later, -, goesOn⟩ := seq_eq_ok_iff.1 h
    rw [ih goesOn, List.length_cons]
    omega

theorem pays_list (h : Pays decode fun a => (encode a).length) :
    Pays (decodeList decode) fun as => (encodeList encode as).length := by
  intro bytes as rest read
  obtain ⟨n, later, count, items⟩ := seq_eq_ok_iff.1 read
  have paid := (Varint.pays_decodeGroups _ _).le count
  have owed := (pays_decodeItems h n []).le items
  have counted := length_decodeItems items
  rw [List.length_nil, Nat.zero_add] at counted
  rw [List.flatMap_nil, List.length_nil] at owed
  simp only [encodeList, List.length_append, counted]
  omega

theorem pays_index {index : α → Nat} {ofIndex? : Nat → Option α}
    (known : ∀ {n a}, ofIndex? n = some a → index a = n) :
    Pays (decodeIndex ofIndex?) fun a => (Varint.encode (index a)).length := by
  refine .bind (Varint.pays_decodeGroups _ _) fun n => ?_
  split
  · rename_i a found
    apply Pays.pure
    rw [known found]
    omega
  · exact .refuse _ _

/-- A part of a list takes no more bytes than the list, in whatever order it is written. -/
theorem length_encodeList_le (encode : α → List UInt8) {part whole : List α}
    (h : List.Subperm part whole) :
    (encodeList encode part).length ≤ (encodeList encode whole).length := by
  obtain ⟨kept, order, sub⟩ := h
  have items : (part.flatMap encode).length ≤ (whole.flatMap encode).length := by
    rw [(order.symm.flatMap_right encode).length_eq]
    exact (sub.flatMap encode).length_le
  have count : part.length ≤ whole.length := by
    rw [← order.length_eq]
    exact sub.length_le
  have number := Varint.length_encode_mono count
  rw [encodeList, encodeList, List.length_append, List.length_append]
  omega

end Structured

end Snapshot

/-- The members of a set stand among the entries that it was collected from, each once. -/
theorem FeatureSet.subperm_toList (fs : List Feature) : List.Subperm (ofList fs).toList fs := by
  apply List.Nodup.subperm
  · exact (show Feature.all.Nodup by decide).filter _
  · intro f mem
    rw [mem_toList, ofList, contains_foldl_insert] at mem
    simpa using mem

namespace Screen

variable {s : Screen} {entries : List (Region × String)} {r : Region} {component : String}

theorem nodup_toList (s : Screen) : s.toList.Nodup := by
  unfold toList
  apply List.Nodup.filterMap
  · intro r q entry hr hq
    simp only [Option.mem_def, Option.map_eq_some_iff] at hr hq
    obtain ⟨left, -, rfl⟩ := hr
    obtain ⟨right, -, same⟩ := hq
    cases same
    rfl
  · decide

/-- What is mounted in the end is one of the entries, or was mounted before. -/
theorem get_foldl_set
    (h : (entries.foldl (fun s e => s.set e.1 (some e.2)) s).get r = some component) :
    (r, component) ∈ entries ∨ s.get r = some component := by
  induction entries generalizing s with
  | nil => exact .inr h
  | cons entry entries ih =>
    obtain later | before := ih h
    · exact .inl (List.mem_cons_of_mem _ later)
    · rw [get_set] at before
      split at before
      · rename_i here
        cases before
        rw [here]
        exact .inl List.mem_cons_self
      · exact .inr before

/-- Of the entries of a region only the last one stays mounted. -/
theorem subperm_toList (entries : List (Region × String)) :
    List.Subperm (ofList entries).toList entries := by
  apply (nodup_toList _).subperm
  intro entry mem
  obtain listed | before := get_foldl_set (mem_toList.1 mem)
  · exact listed
  · rw [get_empty] at before
    cases before

end Screen

namespace Snapshot

theorem pays_feature : Pays decodeFeature fun f => (encodeFeature f).length :=
  pays_index Feature.index_of_ofIndex?

theorem pays_mounted : Pays decodeMounted fun entry => (encodeMounted entry).length := by
  refine .bind (pays_index Region.index_of_ofIndex?) fun r => ?_
  refine .bind pays_text fun component => .pure ?_
  simp only [encodeMounted, List.length_append]
  omega

theorem pays_route : Pays decodeRoute fun route => (encodeRoute route).length := by
  refine .bind pays_text fun name => ?_
  refine .bind (pays_list pays_text) fun params => .pure ?_
  simp only [encodeRoute, List.length_append]
  omega

theorem pays_payload : Pays decodePayload fun r => (encodePayload r).length := by
  refine .bind pays_text fun tutorial => ?_
  refine .bind (pays_option pays_feature) fun machine => ?_
  refine .bind (pays_option pays_text) fun state => ?_
  refine .bind (pays_list pays_text) fun history => ?_
  refine .bind (pays_list pays_feature) fun completed => ?_
  refine .bind (pays_list pays_feature) fun plan => ?_
  refine .bind (pays_option pays_text) fun mountType => ?_
  refine .bind (pays_list pays_mounted) fun screen => ?_
  refine .bind pays_flag fun shown => ?_
  refine .bind (pays_option pays_route) fun route => ?_
  refine .bind (pays_option pays_route) fun resumeRoute => .pure ?_
  -- The set and the map are written as they were collected, not as they were read.
  have set := length_encodeList_le encodeFeature (FeatureSet.subperm_toList completed)
  have map := length_encodeList_le encodeMounted (Screen.subperm_toList screen)
  simp only [encodePayload, List.length_append]
  omega

/-- Whatever bytes are accepted: the session that they give is written in no more bytes, and
these are accepted, give the same session, and are written again just so. -/
theorem decode_normalizes {bytes : List UInt8} {r : Record} (h : decode bytes = .ok r) :
    (encode r).length ≤ bytes.length ∧ decode (encode r) = .ok r ∧
      (decode (encode r)).map encode = .ok (encode r) := by
  obtain ⟨small, payload, rest, rfl, read⟩ := decode_eq_ok h
  have paid := pays_payload.le read
  have shorter : (encode r).length ≤ (Header.toBytes {} ++ payload).length := by
    rw [encode, List.length_append, List.length_append]
    omega
  have again := decode_of_le (Nat.le_trans shorter small)
  refine ⟨shorter, again, ?_⟩
  rw [again]
  rfl

/-- A snapshot that could be shorter: two padded lengths, a member and a region listed twice,
neither in order, and two bytes after the end. -/
def longWinded : List UInt8 :=
  [0x56, 0x57, 0x49, 0x5A, 1, 0x84, 0, 0x69, 0x64, 0x6C, 0x65, 0, 0, 0x80, 0x80, 0,
    3, 1, 0, 1, 1, 4, 0, 3, 1, 1, 0x62, 0, 1, 0x61, 1, 1, 0x63, 0, 0, 0, 7, 7]

theorem decode_longWinded : decode longWinded = .ok {
    tutorial := "idle"
    completed := { secrets := true, authentication := true }
    plan := [.tools]
    screen := { tutorial := some "a", feature := some "c" } } :=
  eq_ok_of_toOption (by decide +kernel)

theorem decode_normalizes_longWinded : ∃ r, decode longWinded = .ok r ∧
    (encode r).length ≤ longWinded.length ∧ decode (encode r) = .ok r :=
  ⟨_, decode_longWinded, (decode_normalizes decode_longWinded).1,
    (decode_normalizes decode_longWinded).2.1⟩

end Snapshot

end GuidedTour
