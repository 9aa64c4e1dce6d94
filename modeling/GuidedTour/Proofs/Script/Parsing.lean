import GuidedTour.Proofs.Json.Written
import GuidedTour.Script.Basic

/-! Scripts of any length: one step, with a name of any plain characters. -/
namespace GuidedTour

namespace Script

/-- A script with one step, which observes a route. -/
def routeText (name : String) : String :=
  "[\x7b\"op\":\"route\",\"route\":\"" ++ name ++ "\"\x7d]"

variable {name : String}

theorem tokens_routeText (plain : ∀ c ∈ name.toList, Json.IsPlain c) :
    Json.tokens (routeText name) = [.openList, .openObject, .text (some "op"), .colon,
      .text (some "route"), .comma, .text (some "route"), .colon, .text (some name),
      .closeObject, .closeList] := by
  have front : "[\x7b\"op\":\"route\",\"route\":\"".toList.foldl Json.Scan.step {} =
      ⟨.string [], [.colon, .text (some "route"), .comma, .text (some "route"), .colon,
        .text (some "op"), .openObject, .openList]⟩ := by
    decide +kernel
  have back : "\"\x7d]".toList = ['"', '\x7d', ']'] := by decide
  unfold Json.tokens routeText
  rw [String.toList_append, String.toList_append, List.foldl_append, List.foldl_append, front,
    Json.scan_plain plain, List.append_nil, back]
  simp [Json.Scan.step, Json.joinPieces_plain, Json.Scan.emit, Json.Scan.stepBetween,
    Json.Scan.finish]

theorem parse_routeText (plain : ∀ c ∈ name.toList, Json.IsPlain c) :
    parse (routeText name) = .ok [.route ⟨name, []⟩] := by
  have read : Json.parse? (routeText name) =
      some (.list [.object [("op", .text "route"), ("route", .text name)]]) := by
    unfold Json.parse? Json.readFrom
    rw [tokens_routeText plain]
    rfl
  unfold parse
  rw [read]
  rfl

end Script

end GuidedTour
