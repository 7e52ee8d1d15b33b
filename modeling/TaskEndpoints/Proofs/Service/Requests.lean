import TaskEndpoints.Proofs.Http.Paths
import TaskEndpoints.Proofs.Http.Target
import TaskEndpoints.Proofs.Service.Description
import TaskEndpoints.Proofs.Service.Results

/-!
# Metadata requests and their answers

A metadata request asks for a kind of description with an identifier. The answer is the JSON text of the
value that the description comes to, or a refusal with the wording of the failure.

## Implementation notes

`Service.Delivers` names the value itself and not only its text, because different values may have one
text.
-/

namespace TaskEndpoints

open Http

namespace Service

/-- The request reads a metadata path with an identifier, which may be empty. -/
def Asks (s : Service) (request : Request) (kind : MetadataKind) (identifier : String) : Prop :=
  request.method = "GET" ∧ ∃ route allowed,
    Destination.find s.routes "GET" (Target.ofText request.target).path =
      .found route identifier allowed ∧ route.target = .metadata kind

/-- The request is answered with the status 200 and the JSON text of a value. -/
structure Delivers (s : Service) (w : Surroundings) (request : Request) (kind : MetadataKind)
    (identifier : String) (v : Value) : Prop where
  asks : s.Asks request kind identifier
  value : (s.view w request.address (.metadata kind) identifier).outcome = .ok v
  answer : ∃ text, Json.write v = .ok text ∧
    (s.answer w request : Run Empty Answer).outcome = .ok (.json text)

variable {ε : Type} {s : Service} {w : Surroundings} {request : Request} {kind : MetadataKind}
  {identifier : String} {v : Value} {snapshot : List Container}

theorem Asks.reaches (h : s.Asks request kind identifier) :
    s.Reaches request (.metadata kind) identifier := by
  obtain ⟨hm, route, allowed, hfind, ht⟩ := h
  have hget : Text.upper request.method = "GET" := hm ▸ (by decide : Text.upper "GET" = "GET")
  exact ⟨by rw [hget]; decide, route, allowed, by rw [hget, hfind], ht⟩

theorem Asks.method_ne_head (h : s.Asks request kind identifier) : request.method ≠ "HEAD" := by
  rw [h.1]
  decide

/-- A metadata request that fails is refused with the wording of the failure. -/
theorem answer_of_failed (h : s.Asks request kind identifier) {e : DescriptionError}
    (he : (s.description.value w.engine kind
      (s.description.query identifier request.address)).outcome = .error e) :
    (s.answer w request : Run ε Answer).outcome =
      .ok (.plain 500 ("Internal Server Error: " ++ e.message)) := by
  rw [← Description.respond_outcome] at he
  have hresult : result (s.view w request.address (.metadata kind) identifier) =
      .error (.failed e.message) :=
    result_eq_error_iff.mpr (Or.inl (mapError_eq_error_iff.mpr ⟨e, he, rfl⟩))
  rw [outcome_of_refusal h.reaches hresult, if_neg h.method_ne_head]
  rfl

theorem view_eq_ok_iff :
    (s.view w request.address (.metadata kind) identifier).outcome = .ok v ↔
      (s.description.value w.engine kind
        (s.description.query identifier request.address)).outcome = .ok v := by
  rw [← Description.respond_outcome]
  exact mapError_eq_ok_iff

/-- A metadata request delivers the value that it comes to, if this can be written. -/
theorem delivers_iff :
    s.Delivers w request kind identifier v ↔ s.Asks request kind identifier ∧
      (s.description.value w.engine kind
        (s.description.query identifier request.address)).outcome = .ok v ∧ Json.Writable v := by
  constructor
  · rintro ⟨ha, hv, text, hw, -⟩
    exact ⟨ha, view_eq_ok_iff.mp hv, text, hw⟩
  · rintro ⟨ha, hv, text, hw⟩
    have hview := view_eq_ok_iff.mpr hv
    refine ⟨ha, hview, text, hw, ?_⟩
    rw [outcome_of_text ha.reaches (result_eq_ok_iff.mpr ⟨v, hview, hw⟩), if_neg ha.method_ne_head]
    rfl

/-- A metadata request is answered with the status 200 only if it delivers a value. -/
theorem exists_delivers_of_status (h : s.Asks request kind identifier) {a : Answer}
    (ha : (s.answer w request : Run Empty Answer).outcome = .ok a) (hs : a.status = 200) :
    ∃ v, s.Delivers w request kind identifier v := by
  obtain ⟨v, text, hv, hw, -⟩ := exists_value_of_status h.reaches ha hs
  exact ⟨v, delivers_iff.mpr ⟨h, view_eq_ok_iff.mp hv, text, hw⟩⟩

/-- A metadata request asks for the samples that its description asks for. -/
theorem statsAsked_of_asks (h : s.Asks request kind identifier) :
    (s.answer w request : Run ε Answer).statsAsked = (s.description.value w.engine kind
      (s.description.query identifier request.address)).statsAsked := by
  rw [statsAsked_answer h.reaches, ← Description.statsAsked_respond]
  rfl

end Service

namespace MetadataKind

/-- The segments after the identifier in a path of the third version. -/
def ending : MetadataKind → List String
  | .containerMetadata => []
  | .containerStats => ["stats"]
  | .taskMetadata => ["task"]
  | .taskStats => ["task", "stats"]

/-- The target of a request of the third version with an identifier. -/
def target (kind : MetadataKind) (identifier : String) : String :=
  "/v3/containers/" ++ percentEncode [] identifier ++ String.join (kind.ending.map ("/" ++ ·))

/-- The path that the target is read as. -/
theorem path_target (kind : MetadataKind) (identifier : String) :
    (Target.ofText (kind.target identifier)).path =
      "/v3/containers/" ++ identifier ++ String.join (kind.ending.map ("/" ++ ·)) := by
  have hends : '%' ∉ (String.join (kind.ending.map ("/" ++ ·))).toList ∧
      '?' ∉ (String.join (kind.ending.map ("/" ++ ·))).toList := by
    cases kind <;> decide
  have hstart : '%' ∉ "/v3/containers/".toList ∧ '?' ∉ "/v3/containers/".toList := by
    decide
  have hquery : '?' ∉ ("/v3/containers/" ++ percentEncode [] identifier
      ++ String.join (kind.ending.map ("/" ++ ·))).toList := by
    rw [String.toList_append, String.toList_append, List.mem_append, List.mem_append]
    rintro ((h | h) | h)
    · exact hstart.2 h
    · exact question_not_mem_percentEncode List.not_mem_nil _ h
    · exact hends.2 h
  exact (Target.ofText_path hquery).trans
    (Target.decodePath_escaped List.not_mem_nil hstart.1 hends.1 identifier)

theorem path_eq_joinSegments (kind : MetadataKind) (identifier : String) :
    "/v3/containers/" ++ identifier ++ String.join (kind.ending.map ("/" ++ ·)) =
      String.ofList (joinSegments ("v3" :: "containers" :: identifier :: kind.ending)) := by
  apply String.toList_inj.mp
  cases kind <;> simp [joinSegments, ending, List.intercalate, String.join]

end MetadataKind

namespace Service

variable (s : Service) (kind : MetadataKind) {identifier : String}

/-- The route that answers a path of the third version with an identifier. -/
theorem exists_route (hne : identifier ≠ "") :
    ∃ route : Route Endpoint, (s.routes.filterMap fun r =>
        (matchPattern r.pattern ("v3" :: "containers" :: identifier :: kind.ending)).map
          fun text => (r, text)).find? (fun found => found.1.allMethods.contains "GET") =
        some (route, identifier) ∧ route.target = .metadata kind := by
  have hget (pattern : List Segment) (e : Endpoint) :
      "GET" ∈ (Route.mk pattern ["GET"] e).allMethods := by
    simp [Route.allMethods]
  cases kind <;>
    simp [routes, Endpoint.assetRoute, Endpoint.metadataRoutes, Endpoint.second, Endpoint.third,
      Endpoint.withSlash, Route.get, matchPattern, MetadataKind.ending, hne, hget]

/-- Every identifier that is not empty and holds no slash can be asked for, in all four ways. -/
theorem asks_target (hne : identifier ≠ "") (hs : '/' ∉ identifier.toList) (address : String) :
    s.Asks ⟨"GET", kind.target identifier, address⟩ kind identifier := by
  obtain ⟨route, hr, ht⟩ := s.exists_route kind hne
  have hplain : ∀ p ∈ "v3" :: "containers" :: identifier :: kind.ending, '/' ∉ p.toList := by
    have hends : ∀ p ∈ kind.ending, '/' ∉ p.toList := by
      cases kind <;> decide
    simp only [List.forall_mem_cons]
    exact ⟨by decide, by decide, hs, hends⟩
  obtain ⟨allowed, hd⟩ := Destination.find_joinSegments (by decide) hplain hr
  refine ⟨rfl, route, allowed, ?_, ht⟩
  rw [kind.path_target, kind.path_eq_joinSegments, hd]

end Service

end TaskEndpoints
