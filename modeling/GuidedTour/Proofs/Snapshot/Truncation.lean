import GuidedTour.Proofs.Snapshot.RoundTrip

/-! A snapshot that was cut off is never taken for another one. A decoder that accepts a front
of some written value has read all of it, however the cut falls, and what was written tells by
itself where it ends. Neither depends on the size: a length too large for its decoder is
refused as well. -/
namespace GuidedTour.Snapshot

/-- Of all fronts of what starts with these bytes, the decoder accepts only those that hold
them whole, and gives this value. -/
def Follows (decode : Decoder α) (bytes : List UInt8) (a : α) : Prop :=
  ∀ ⦃front more b rest⦄, front <+: bytes ++ more → decode front = .ok (b, rest) →
    b = a ∧ front = bytes ++ rest

namespace Follows

theorem refuse (fault : PayloadFault) (bytes : List UInt8) (a : α) :
    Follows (refuse fault) bytes a := by
  intro front more b rest cut read
  cases read

theorem pure (a : α) : Follows (pure a) [] a := by
  intro front more b rest cut read
  cases read
  exact ⟨rfl, rfl⟩

theorem bind {decode : Decoder α} {next : α → Decoder β} {left right : List UInt8} {a : α} {b : β}
    (hl : Follows decode left a) (hr : Follows (next a) right b) :
    Follows (decode >>= next) (left ++ right) b := by
  intro front more c rest cut read
  obtain ⟨first, later, head, tail⟩ := seq_eq_ok_iff.1 read
  rw [List.append_assoc] at cut
  obtain ⟨rfl, rfl⟩ := hl cut head
  obtain ⟨rfl, rfl⟩ := hr ((List.prefix_append_right_inj left).1 cut) tail
  exact ⟨rfl, (List.append_assoc ..).symm⟩

/-- The last decoder of a sequence that takes a byte at all. -/
theorem last {decode : Decoder α} {next : α → Decoder β} {bytes : List UInt8} {a : α} {b : β}
    (hl : Follows decode bytes a) (hr : Follows (next a) [] b) :
    Follows (decode >>= next) bytes b := by
  have sequence := hl.bind hr
  rw [List.append_nil] at sequence
  exact sequence

theorem map {decode : Decoder α} {value : α → β} {bytes : List UInt8} {a : α}
    (h : Follows decode bytes a) :
    Follows (decode >>= fun a => Pure.pure (value a)) bytes (value a) :=
  h.last (pure (value a))

/-- A byte at the front. -/
theorem byte {next : UInt8 → Decoder α} {b : UInt8} {bytes : List UInt8} {a : α}
    (h : Follows (next b) bytes a) : Follows (nextByte >>= next) (b :: bytes) a := by
  have one : Follows nextByte [b] b := by
    intro front more c rest cut read
    obtain rfl := nextByte_eq_ok read
    rw [List.singleton_append, List.cons_prefix_cons] at cut
    obtain ⟨rfl, -⟩ := cut
    exact ⟨rfl, rfl⟩
  exact one.bind h

end Follows

namespace Varint

theorem follows_decodeGroups (top groups n : Nat) :
    Follows (decodeGroups top groups) (encode n) n := by
  induction groups generalizing n with
  | zero => exact .refuse _ _ _
  | succ groups ih =>
    rw [decodeGroups]
    by_cases small : n < 128
    · rw [encode_of_lt small]
      refine .byte ?_
      rw [UInt8.toNat_ofNat_of_lt' (show n < 256 by omega), if_pos small]
      split
      · exact .refuse _ _ _
      · exact .pure n
    · rw [encode_of_ge small]
      refine .byte ?_
      rw [UInt8.toNat_ofNat_of_lt' (show n % 128 + 128 < 256 by omega), if_neg (by omega),
        Nat.add_mod_right, Nat.mod_mod]
      have high : Follows (decodeGroups top groups >>= fun high =>
          Pure.pure (n % 128 + 128 * high)) (encode (n / 128)) (n % 128 + 128 * (n / 128)) :=
        (ih (n / 128)).map
      rw [Nat.mod_add_div] at high
      exact high

end Varint

theorem follows_takeBytes (bytes : List UInt8) : Follows (takeBytes bytes.length) bytes bytes := by
  intro front more read rest cut taken
  obtain ⟨count, rfl⟩ := takeBytes_eq_ok taken
  obtain ⟨after, whole⟩ := cut
  rw [List.append_assoc] at whole
  obtain ⟨rfl, -⟩ := List.append_inj whole count
  exact ⟨rfl, rfl⟩

theorem follows_text (s : String) : Follows decodeText (encodeText s) s := by
  refine .bind (Varint.follows_decodeGroups _ _ _) ?_
  refine .last (follows_takeBytes s.toUTF8.data.toList) ?_
  rw [fromUTF8?_toUTF8]
  exact .pure s

theorem follows_flag (b : Bool) : Follows decodeFlag (encodeFlag b) b := by
  cases b with
  | false => exact .byte (.pure false)
  | true => exact .byte (.pure true)

section Structured

variable {encode : α → List UInt8} {decode : Decoder α}

theorem follows_option (h : ∀ a, Follows decode (encode a) a) (a : Option α) :
    Follows (decodeOption decode) (encodeOption encode a) a := by
  cases a with
  | none => exact .byte (.pure none)
  | some a => exact .byte (h a).map

theorem follows_decodeItems (h : ∀ a, Follows decode (encode a) a) (as read : List α) :
    Follows (decodeItems decode as.length read) (as.flatMap encode) (read.reverse ++ as) := by
  induction as generalizing read with
  | nil =>
    rw [List.append_nil]
    exact .pure read.reverse
  | cons a as ih =>
    have goesOn := ih (a :: read)
    rw [List.reverse_cons, List.append_assoc] at goesOn
    exact (h a).bind goesOn

theorem follows_list (h : ∀ a, Follows decode (encode a) a) (as : List α) :
    Follows (decodeList decode) (encodeList encode as) as :=
  .bind (Varint.follows_decodeGroups _ _ _) (follows_decodeItems h as [])

theorem follows_index {index : α → Nat} {ofIndex? : Nat → Option α}
    (back : ∀ a, ofIndex? (index a) = some a) (a : α) :
    Follows (decodeIndex ofIndex?) (Varint.encode (index a)) a := by
  refine .last (Varint.follows_decodeGroups _ _ _) ?_
  rw [back]
  exact .pure a

end Structured

theorem follows_feature (f : Feature) : Follows decodeFeature (encodeFeature f) f :=
  follows_index Feature.ofIndex?_index f

theorem follows_mounted (entry : Region × String) :
    Follows decodeMounted (encodeMounted entry) entry :=
  .bind (follows_index Region.ofIndex?_index entry.1) (follows_text entry.2).map

theorem follows_route (route : Route) : Follows decodeRoute (encodeRoute route) route :=
  .bind (follows_text route.name) (follows_list follows_text route.params).map

theorem follows_payload (r : Record) : Follows decodePayload (encodePayload r) r := by
  unfold encodePayload
  simp only [List.append_assoc]
  refine .bind (follows_text r.tutorial) ?_
  refine .bind (follows_option follows_feature r.machine) ?_
  refine .bind (follows_option follows_text r.state) ?_
  refine .bind (follows_list follows_text r.history) ?_
  refine .bind (follows_list follows_feature r.completed.toList) ?_
  refine .bind (follows_list follows_feature r.plan) ?_
  refine .bind (follows_option follows_text r.params.mountType) ?_
  refine .bind (follows_list follows_mounted r.screen.toList) ?_
  refine .bind (follows_flag r.shownBeforeLogin) ?_
  refine .bind (follows_option follows_route r.route) ?_
  rw [FeatureSet.ofList_toList, Screen.ofList_toList]
  exact (follows_option follows_route r.resumeRoute).map

/-- What is written tells which value it is and where it ends, whatever comes after it. -/
def Unique (encode : α → List UInt8) : Prop :=
  ∀ ⦃a b more rest⦄, encode a ++ more = encode b ++ rest → a = b ∧ more = rest

namespace Varint

theorem ofNat_inj {m n : Nat} (hm : m < 256) (hn : n < 256) (h : UInt8.ofNat m = UInt8.ofNat n) :
    m = n := by
  have same := congrArg UInt8.toNat h
  rw [UInt8.toNat_ofNat_of_lt' hm, UInt8.toNat_ofNat_of_lt' hn] at same
  exact same

/-- The last group of a number is the first one below 128. -/
theorem unique_encode : Unique encode := by
  intro m
  induction m using encode.induct with
  | case1 m small =>
    intro n more rest h
    rw [encode_of_lt small] at h
    by_cases last : n < 128
    · rw [encode_of_lt last] at h
      obtain ⟨byte, rfl⟩ := List.cons.inj h
      exact ⟨ofNat_inj (by omega) (by omega) byte, rfl⟩
    · rw [encode_of_ge last] at h
      have byte := ofNat_inj (by omega) (by omega) (List.cons.inj h).1
      omega
  | case2 m large ih =>
    intro n more rest h
    rw [encode_of_ge large] at h
    by_cases last : n < 128
    · rw [encode_of_lt last] at h
      have byte := ofNat_inj (by omega) (by omega) (List.cons.inj h).1
      omega
    · rw [encode_of_ge last] at h
      have byte := ofNat_inj (by omega) (by omega) (List.cons.inj h).1
      obtain ⟨quotient, rfl⟩ := ih (List.cons.inj h).2
      exact ⟨by omega, rfl⟩

end Varint

theorem unique_text : Unique encodeText := by
  intro s t more rest h
  simp only [encodeText, List.append_assoc] at h
  obtain ⟨count, content⟩ := Varint.unique_encode h
  obtain ⟨same, rfl⟩ := List.append_inj content count
  have back := fromUTF8?_toUTF8 s
  rw [same, fromUTF8?_toUTF8] at back
  exact ⟨(Option.some.inj back).symm, rfl⟩

theorem unique_flag : Unique encodeFlag := by
  intro a b more rest h
  obtain ⟨byte, rfl⟩ := List.cons.inj h
  refine ⟨?_, rfl⟩
  revert byte
  cases a <;> cases b <;> decide

section Structured

variable {encode : α → List UInt8}

theorem unique_option (h : Unique encode) : Unique (encodeOption encode) := by
  intro a b more rest same
  cases a with
  | none =>
    cases b with
    | none => exact ⟨rfl, (List.cons.inj same).2⟩
    | some b => exact absurd (List.cons.inj same).1 (by decide)
  | some a =>
    cases b with
    | none => exact absurd (List.cons.inj same).1 (by decide)
    | some b =>
      obtain ⟨rfl, rfl⟩ := h (List.cons.inj same).2
      exact ⟨rfl, rfl⟩

theorem unique_items (h : Unique encode) {as bs : List α} {more rest : List UInt8}
    (count : as.length = bs.length)
    (same : as.flatMap encode ++ more = bs.flatMap encode ++ rest) : as = bs ∧ more = rest := by
  induction as generalizing bs with
  | nil =>
    obtain rfl := List.length_eq_zero_iff.1 count.symm
    exact ⟨rfl, same⟩
  | cons a as ih =>
    obtain ⟨b, bs, rfl⟩ := List.exists_cons_of_length_eq_add_one count.symm
    simp only [List.flatMap_cons, List.append_assoc] at same
    obtain ⟨rfl, tail⟩ := h same
    obtain ⟨rfl, rfl⟩ := ih (Nat.succ.inj count) tail
    exact ⟨rfl, rfl⟩

theorem unique_list (h : Unique encode) : Unique (encodeList encode) := by
  intro as bs more rest same
  simp only [encodeList, List.append_assoc] at same
  obtain ⟨count, items⟩ := Varint.unique_encode same
  exact unique_items h count items

theorem unique_index {index : α → Nat} {ofIndex? : Nat → Option α}
    (back : ∀ a, ofIndex? (index a) = some a) : Unique fun a => Varint.encode (index a) := by
  intro a b more rest same
  obtain ⟨number, rfl⟩ := Varint.unique_encode same
  have known := back a
  rw [number, back] at known
  exact ⟨(Option.some.inj known).symm, rfl⟩

end Structured

theorem unique_feature : Unique encodeFeature := unique_index Feature.ofIndex?_index

theorem unique_mounted : Unique encodeMounted := by
  rintro ⟨region, component⟩ ⟨other, mounted⟩ more rest same
  simp only [encodeMounted, List.append_assoc] at same
  obtain ⟨rfl, text⟩ := unique_index Region.ofIndex?_index same
  obtain ⟨rfl, rfl⟩ := unique_text text
  exact ⟨rfl, rfl⟩

theorem unique_route : Unique encodeRoute := by
  rintro ⟨name, params⟩ ⟨other, others⟩ more rest same
  simp only [encodeRoute, List.append_assoc] at same
  obtain ⟨rfl, list⟩ := unique_text same
  obtain ⟨rfl, rfl⟩ := unique_list unique_text list
  exact ⟨rfl, rfl⟩

theorem unique_payload : Unique encodePayload := by
  intro r s more rest same
  simp only [encodePayload, List.append_assoc] at same
  obtain ⟨tutorial, same⟩ := unique_text same
  obtain ⟨machine, same⟩ := unique_option unique_feature same
  obtain ⟨state, same⟩ := unique_option unique_text same
  obtain ⟨history, same⟩ := unique_list unique_text same
  obtain ⟨members, same⟩ := unique_list unique_feature same
  obtain ⟨plan, same⟩ := unique_list unique_feature same
  obtain ⟨mountType, same⟩ := unique_option unique_text same
  obtain ⟨mounted, same⟩ := unique_list unique_mounted same
  obtain ⟨shown, same⟩ := unique_flag same
  obtain ⟨route, same⟩ := unique_option unique_route same
  obtain ⟨resumeRoute, same⟩ := unique_option unique_route same
  have completed := congrArg FeatureSet.ofList members
  have screen := congrArg Screen.ofList mounted
  rw [FeatureSet.ofList_toList, FeatureSet.ofList_toList] at completed
  rw [Screen.ofList_toList, Screen.ofList_toList] at screen
  have params : r.params = s.params := congrArg FlowParams.mk mountType
  refine ⟨?_, same⟩
  cases r
  cases s
  simp only at *
  simp only [tutorial, machine, state, history, completed, plan, params, screen, shown, route,
    resumeRoute]

theorem isPrefix_encode_iff {r other : Record} : encode r <+: encode other ↔ r = other := by
  constructor
  · rintro ⟨more, whole⟩
    rw [encode, List.append_assoc] at whole
    have payload := List.append_cancel_left whole
    rw [← List.append_nil (encodePayload other)] at payload
    exact (unique_payload payload).1
  · rintro rfl
    exact List.prefix_rfl

/-- A front of a snapshot that is accepted is the whole of it. -/
theorem eq_encode_of_isPrefix {r found : Record} {front : List UInt8} (cut : front <+: encode r)
    (read : decode front = .ok found) : front = encode r := by
  obtain ⟨-, payload, rest, rfl, taken⟩ := decode_eq_ok read
  have front := (List.prefix_append_right_inj _).1 cut
  rw [← List.append_nil (encodePayload r)] at front
  obtain ⟨-, rfl⟩ := follows_payload r front taken
  have nothing : rest = [] := List.prefix_nil.1 ((List.prefix_append_right_inj _).1 front)
  rw [nothing, List.append_nil]
  rfl

/-- What was cut off anywhere is refused, be it in the header or inside any part of the payload.
No session is written as a front of what is written of another one, nor in the same bytes. -/
theorem decode_cut (r : Record) :
    (∀ front, front <+: encode r → front ≠ encode r → ∃ fault, decode front = .error fault) ∧
      ∀ other, (encode r <+: encode other ↔ r = other) ∧ (encode r = encode other ↔ r = other) := by
  refine ⟨fun front cut short => ?_, fun other => ⟨isPrefix_encode_iff, ?_⟩⟩
  · cases read : decode front with
    | error fault => exact ⟨fault, rfl⟩
    | ok found => exact absurd (eq_encode_of_isPrefix cut read) short
  · constructor
    · intro same
      exact isPrefix_encode_iff.1 (same ▸ List.prefix_rfl)
    · rintro rfl
      rfl

/-- A session with a plan, cut off inside the name of its tutorial's state. -/
theorem decode_cut_inside :
    let r : Record := { tutorial := "active.feature", plan := [.tools, .secrets] }
    (encode r).take 9 <+: encode r ∧ (encode r).take 9 ≠ encode r ∧
      ∃ fault, decode ((encode r).take 9) = .error fault := by
  intro r
  have cut : (encode r).take 9 <+: encode r := List.take_prefix 9 _
  have short : (encode r).take 9 ≠ encode r := by decide +kernel
  exact ⟨cut, short, (decode_cut r).1 _ cut short⟩

end GuidedTour.Snapshot
