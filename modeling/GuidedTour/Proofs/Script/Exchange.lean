import Mathlib.Data.List.Forall2
import GuidedTour.Proofs.Wire.Variants
import GuidedTour.Script.Basic

/-! What is sent is what is received. An action is read from its text as it was written, and so is
a script that is not too long, whatever their strings hold, and also if the fields of their objects
come in another order and beside others. -/
namespace GuidedTour

open Wire (Variant Payload)

variable {j : Json}

theorem Feature.ofTagged?_toJson (f : Feature) : ofTagged? f.toJson = some f := by
  unfold ofTagged? toJson
  exact f.ofName?_name

theorem Region.ofTagged?_name (r : Region) : ofTagged? (.text r.name) = some r := by
  unfold ofTagged?
  exact r.ofName?_name

theorem Json.Nested.tagged {n : Nat} {tag word : String} {fields : List (String × Json)}
    (shallow : n < maxDepth) (inner : ∀ e ∈ fields, e.2.Nested (n + 1)) :
    (Json.object ((tag, .text word) :: fields)).Nested n :=
  .object shallow (List.forall_mem_cons.2 ⟨.text, inner⟩)

theorem Json.Nested.texts {n : Nat} (shallow : n < maxDepth) (ss : List String) :
    (Json.texts ss).Nested n := by
  refine .list shallow fun item mem => ?_
  obtain ⟨s, -, rfl⟩ := List.mem_map.1 mem
  exact .text

theorem Json.Nested.optional {n : Nat} (s : Option String) :
    (Json.optional .text s).Nested n := by
  cases s with
  | none => exact .null
  | some s => exact .text

namespace Wire

variable {fields : List (String × Json)} {name : String}

theorem required?_of_field? {α : Type} {read : Json → Option α} {value : Json}
    (h : field? fields name = some value) : required? fields name read = read value := by
  rw [required?, h, Option.bind_some]

theorem default?_of_field? {α : Type} {read : Json → Option α} {value : Json} {default : α}
    (h : field? fields name = some value) : default? fields name default read = read value := by
  rw [default?, h]

theorem optional?_of_field? {s : Option String}
    (h : field? fields name = some (.optional .text s)) :
    optional? fields name Json.text? = some s := by
  rw [optional?, h]
  cases s <;> rfl

end Wire

namespace Action

theorem nested_toJson (action : Action) : action.toJson.Nested 0 := by
  cases action with
  | render region component =>
    exact .tagged (by decide) (by simpa using ⟨.text, .optional component⟩)
  | navigate route =>
    exact .tagged (by decide) (by simpa using ⟨.text, .texts (by decide) route.params⟩)
  | _ => exact .tagged (by decide) (by simp)

/-- Beside the tag of a plain action nothing counts. -/
theorem ofJson?_plain {action : Action} (plain : action ∈ plain) {rest : List (String × Json)}
    (tagged : Payload.tagged? "type" j = some (action.tag, .named rest)) :
    ofJson? j = some action := by
  unfold ofJson?
  rw [tagged]
  cases action with
  | render | navigate => exact absurd plain (by simp [Action.plain])
  | _ => rfl

theorem ofJson?_variant {action : Action} (h : Variant action.toJson j) :
    ofJson? j = some action := by
  obtain ⟨written, fields, same, rfl, h⟩ := h
  obtain rfl := Json.object.inj same
  cases action with
  | render region component =>
    obtain ⟨rest, tagged, own⟩ := h.tagged? (by simp)
    obtain ⟨read, reads, holds⟩ := own.read? renderSlots (by simp) rfl
    have level := holds ("level", .text region.name) (by simp)
    have mounted := holds ("component", .optional .text component) (by simp)
    unfold ofJson?
    simp [tagged, tag, reads, Wire.required?_of_field? level, Wire.optional?_of_field? mounted,
      Region.ofTagged?_name]
  | navigate route =>
    obtain ⟨rest, tagged, own⟩ := h.tagged? (by simp)
    obtain ⟨read, reads, holds⟩ := own.read? navigateSlots (by simp) rfl
    have place := holds ("route", .text route.name) (by simp)
    have params := holds ("params", .texts route.params) (by simp)
    unfold ofJson?
    simp [tagged, tag, reads, Wire.required?_of_field? place, Wire.default?_of_field? params,
      Json.text?, Json.texts?_texts]
  | _ =>
    obtain ⟨rest, tagged, -⟩ := h.tagged? (by simp)
    exact ofJson?_plain (by simp [plain]) tagged

/-- An action is read from the text of every variant. -/
theorem parse?_variant {action : Action} (h : Variant action.toJson j) :
    parse? j.compact = some action := by
  rw [parse?, Json.parse?_compact (h.nested action.nested_toJson)]
  exact ofJson?_variant h

end Action

namespace Script

theorem Step.nested_toJson (step : Step) : step.toJson.Nested 1 := by
  cases step with
  | tutorial event => exact .tagged (by decide) (by simpa using .text)
  | feature event mountType =>
    exact .tagged (by decide) (by simpa using ⟨.text, .optional mountType⟩)
  | select features =>
    have listed : (Json.list (features.map Feature.toJson)).Nested 2 := by
      refine .list (by decide) fun item mem => ?_
      obtain ⟨f, -, rfl⟩ := List.mem_map.1 mem
      exact .text
    exact .tagged (by decide) (by simpa using listed)
  | route r => exact .tagged (by decide) (by simpa using ⟨.text, .texts (by decide) r.params⟩)
  | restart | reset => exact .tagged (by decide) (by simp)

theorem mapM_ofTagged?_toJson (features : List Feature) :
    (Json.list (features.map Feature.toJson)).list?.bind (·.mapM Feature.ofTagged?) =
      some features :=
  Json.mapM_written Feature.ofTagged?_toJson features

theorem Step.ofJson?_variant {step : Step} (h : Variant step.toJson j) :
    ofJson? j = some step := by
  obtain ⟨written, fields, same, rfl, h⟩ := h
  obtain rfl := Json.object.inj same
  cases step with
  | tutorial event =>
    obtain ⟨rest, tagged, own⟩ := h.tagged? (by simp)
    obtain ⟨read, reads, holds⟩ := own.read? (Wire.slots ["event"]) (by simp) rfl
    have sent := holds ("event", .text event) (by simp)
    unfold ofJson?
    simp [tagged, tag, reads, Wire.required?_of_field? sent, Json.text?]
  | feature event mountType =>
    obtain ⟨rest, tagged, own⟩ := h.tagged? (by simp)
    obtain ⟨read, reads, holds⟩ := own.read? featureSlots (by simp) rfl
    have sent := holds ("event", .text event) (by simp)
    have mount := holds ("mount_type", .optional .text mountType) (by simp)
    unfold ofJson?
    simp [tagged, tag, reads, Wire.required?_of_field? sent, Wire.optional?_of_field? mount,
      Json.text?]
  | select features =>
    obtain ⟨rest, tagged, own⟩ := h.tagged? (by simp)
    obtain ⟨read, reads, holds⟩ := own.read? (Wire.slots ["features"]) (by simp) rfl
    have chosen := holds ("features", .list (features.map Feature.toJson)) (by simp)
    unfold ofJson?
    simp [tagged, tag, reads, Wire.required?_of_field? chosen, mapM_ofTagged?_toJson]
  | route r =>
    obtain ⟨rest, tagged, own⟩ := h.tagged? (by simp)
    obtain ⟨read, reads, holds⟩ := own.read? routeSlots (by simp) rfl
    have place := holds ("route", .text r.name) (by simp)
    have params := holds ("params", .texts r.params) (by simp)
    unfold ofJson?
    simp [tagged, tag, reads, Wire.required?_of_field? place, Wire.default?_of_field? params,
      Json.text?, Json.texts?_texts]
  | restart | reset =>
    obtain ⟨rest, tagged, -⟩ := h.tagged? (by simp)
    unfold ofJson?
    simp [tagged, tag, Payload.isBare]

variable {steps : List Step} {js : List Json}

theorem mapM_ofJson?_variants (h : List.Forall₂ (fun step j => Variant step.toJson j) steps js) :
    js.mapM Step.ofJson? = some steps := by
  induction h with
  | nil => rfl
  | cons one _ ih => simp [List.mapM_cons, Step.ofJson?_variant one, ih]

theorem nested_variants (h : List.Forall₂ (fun step j => Variant step.toJson j) steps js) :
    ∀ j ∈ js, j.Nested 1 := by
  induction h with
  | nil => simp
  | @cons step _ _ _ one _ ih =>
    rw [List.forall_mem_cons]
    exact ⟨one.nested step.nested_toJson, ih⟩

/-- A script is read from the text of every list of variants, and then measured. -/
theorem parse_variants (h : List.Forall₂ (fun step j => Variant step.toJson j) steps js) :
    parse (Json.list js).compact =
      if maxSteps < steps.length then .error (.tooLong steps.length) else .ok steps := by
  unfold parse
  rw [Json.parse?_compact (.list (by decide) (nested_variants h))]
  simp only [Option.bind_some, Json.list?, mapM_ofJson?_variants h]

theorem parse_write (steps : List Step) : parse (write steps) =
    if maxSteps < steps.length then .error (.tooLong steps.length) else .ok steps := by
  refine parse_variants ?_
  rw [List.forall₂_map_right_iff, List.forall₂_same]
  exact fun step _ => .refl _

end Script

namespace Wire

/-- What is written is read, and so is whatever says the same with its fields in another order and
with unknown ones among them: every action, and every script of up to ten thousand steps. A longer
script is refused. -/
theorem read_of_written :
    (∀ action : Action, Action.parse? action.toJson.compact = some action ∧
      ∀ other, Variant action.toJson other → Action.parse? other.compact = some action) ∧
    ∀ steps : List Script.Step,
      (steps.length ≤ 10000 → Script.parse (Script.write steps) = .ok steps ∧
        ∀ others, List.Forall₂ (fun step other => Variant step.toJson other) steps others →
          Script.parse (Json.list others).compact = .ok steps) ∧
      (10000 < steps.length →
        Script.parse (Script.write steps) = .error (.tooLong steps.length) ∧
        ∀ others, List.Forall₂ (fun step other => Variant step.toJson other) steps others →
          Script.parse (Json.list others).compact = .error (.tooLong steps.length)) := by
  refine ⟨fun action => ⟨?_, fun other => Action.parse?_variant⟩, fun steps => ⟨?_, ?_⟩⟩
  · exact Action.parse?_variant (.refl _)
  · intro fits
    have short : ¬Script.maxSteps < steps.length := Nat.not_lt.2 fits
    refine ⟨(Script.parse_write steps).trans (if_neg short), fun others variants => ?_⟩
    exact (Script.parse_variants variants).trans (if_neg short)
  · intro long
    have tooMany : Script.maxSteps < steps.length := long
    refine ⟨(Script.parse_write steps).trans (if_pos tooMany), fun others variants => ?_⟩
    exact (Script.parse_variants variants).trans (if_pos tooMany)

/-- An object sent from its last field to its first, after fields that nobody asked for. -/
def reversed (written : List (String × Json)) : Json :=
  .object (written ++ [("note", Json.null), ("seen", Json.flag true)]).reverse

theorem variant_reversed {written : List (String × Json)}
    (unknown : "note" ∉ written.map (·.1) ∧ "seen" ∉ written.map (·.1)) :
    Variant (.object written) (reversed written) := by
  refine ⟨_, _, rfl, rfl, _, List.reverse_perm _, ?_⟩
  rw [List.forall_mem_cons, List.forall_mem_singleton]
  exact ⟨⟨unknown.1, rfl⟩, unknown.2, rfl⟩

theorem read_of_written_reversed :
    Action.parse? (reversed [("type", .text "render"), ("level", .text "step"),
      ("component", .text "say \"hi\"\n")]).compact =
        some (.render .step (some "say \"hi\"\n")) ∧
    Script.parse (Json.list [reversed [("op", .text "feature"), ("event", .text "CONTINUE"),
      ("mount_type", .null)], .object [("op", .text "reset")]]).compact =
        .ok [.feature "CONTINUE" none, .reset] := by
  obtain ⟨actions, scripts⟩ := read_of_written
  refine ⟨(actions (.render .step (some "say \"hi\"\n"))).2 _ (variant_reversed (by decide)), ?_⟩
  exact ((scripts [.feature "CONTINUE" none, .reset]).1 (by decide)).2 _
    (.cons (variant_reversed (by decide)) (.cons (.refl _) .nil))

end Wire

end GuidedTour
