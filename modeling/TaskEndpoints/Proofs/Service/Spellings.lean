import TaskEndpoints.Proofs.Service.Agreement

/-!
# Two spellings of one service

Both versions of the metadata interface offer the metadata and the samples of the task and of a container
with an identifier, each under a path of its own. The main statement says that a request is answered alike
under all paths of a resource, with or without a slash at the end, whatever the method of the request is
and however the identifier is escaped.

## Implementation notes

A path is a pattern whose variable part is filled. It is read segment by segment, so that reading it only
changes what fills the pattern. No identifier is mistaken for a word of another path, because the paths of
one length differ in a word that is not the identifier.
-/

namespace TaskEndpoints

namespace Http.Segment

/-- The segment of a path that stands for a segment of a pattern. -/
def fill (text : String) : Segment → String
  | .literal word => word
  | .any | .rest => text

/-- The word of the segment is read as it is sent, and ends neither a segment nor a path. -/
def IsPlain : Segment → Prop
  | .literal word => '%' ∉ word.toList ∧ '?' ∉ word.toList ∧ '/' ∉ word.toList
  | .any | .rest => True

instance : DecidablePred IsPlain := fun
  | .literal word =>
    inferInstanceAs (Decidable ('%' ∉ word.toList ∧ '?' ∉ word.toList ∧ '/' ∉ word.toList))
  | .any | .rest => inferInstanceAs (Decidable True)

end Http.Segment

open Http

/-- A segment as it is sent, which is read as an identifier. -/
structure SentIdentifier where
  raw : String
  noQuery : '?' ∉ raw.toList
  named : Target.decodePath raw ≠ ""
  oneSegment : '/' ∉ (Target.decodePath raw).toList

/-- What both versions of the metadata interface offer. -/
inductive SharedResource where
  | taskMetadata
  | taskStats
  | containerMetadata (id : SentIdentifier)
  | containerStats (id : SentIdentifier)

/-- The patterns of the second and the third version for what both of them offer, each of them without
and with a slash at the end. -/
def MetadataKind.sharedPatterns (kind : MetadataKind) : List (List Segment) :=
  [second kind, third kind].flatMap fun pattern => [pattern, pattern ++ [.literal ""]]
where
  second : MetadataKind → List Segment
    | .taskMetadata => [.literal "v2", .literal "metadata"]
    | .taskStats => [.literal "v2", .literal "stats"]
    | .containerMetadata => [.literal "v2", .literal "metadata", .any]
    | .containerStats => [.literal "v2", .literal "stats", .any]
  third : MetadataKind → List Segment
    | .taskMetadata => [.literal "v3", .literal "task"]
    | .taskStats => [.literal "v3", .literal "task", .literal "stats"]
    | .containerMetadata => [.literal "v3", .literal "containers", .any]
    | .containerStats => [.literal "v3", .literal "containers", .any, .literal "stats"]

namespace SharedResource

/-- What a request for the resource asks for. -/
def kind : SharedResource → MetadataKind
  | .taskMetadata => .taskMetadata
  | .taskStats => .taskStats
  | .containerMetadata _ => .containerMetadata
  | .containerStats _ => .containerStats

/-- The identifier as it is sent, which is empty if there is none. -/
def sent : SharedResource → String
  | .taskMetadata | .taskStats => ""
  | .containerMetadata id | .containerStats id => id.raw

/-- The identifier that is read. -/
def identifier (r : SharedResource) : String := Target.decodePath r.sent

/-- The targets of all requests for the resource. -/
def targets (r : SharedResource) : List String :=
  r.kind.sharedPatterns.map fun pattern =>
    String.ofList (joinSegments (pattern.map (Segment.fill r.sent)))

example : taskStats.targets = ["/v2/stats", "/v2/stats/", "/v3/task/stats", "/v3/task/stats/"] := by
  decide

end SharedResource

section Reading

variable {pattern : List Segment} {text : String}

/-- Reading a path only changes what fills its pattern. -/
theorem decodePath_fill (h : ∀ segment ∈ pattern, segment.IsPlain) (text : String) :
    (pattern.map (Segment.fill text)).map Target.decodePath =
      pattern.map (Segment.fill (Target.decodePath text)) := by
  rw [List.map_map]
  apply List.map_congr_left
  intro segment hs
  cases segment with
  | literal word => exact Target.decodePath_plain (h _ hs).1
  | any => rfl
  | rest => rfl

theorem not_mem_fill {c : Char} (hc : ∀ word, Segment.IsPlain (.literal word) → c ∉ word.toList)
    (h : ∀ segment ∈ pattern, segment.IsPlain) (ht : c ∉ text.toList) :
    ∀ piece ∈ pattern.map (Segment.fill text), c ∉ piece.toList := by
  intro piece hp
  obtain ⟨segment, hs, rfl⟩ := List.mem_map.mp hp
  cases segment with
  | literal word => exact hc word (h _ hs)
  | any => exact ht
  | rest => exact ht

end Reading

namespace MetadataKind

variable {kind : MetadataKind} {pattern : List Segment}

theorem isPlain_of_mem_sharedPatterns (h : pattern ∈ kind.sharedPatterns) :
    ∀ segment ∈ pattern, segment.IsPlain := by
  revert pattern
  cases kind <;> decide

/-- Every path starts with the word of a version. -/
theorem exists_version (h : pattern ∈ kind.sharedPatterns) :
    ∃ version more, pattern = .literal version :: more ∧ version ∈ ["v2", "v3"] := by
  have hhead : ∀ pattern ∈ kind.sharedPatterns,
      pattern.head? = some (.literal "v2") ∨ pattern.head? = some (.literal "v3") := by
    cases kind <;> decide
  rcases hhead pattern h with h | h
  · obtain ⟨more, rfl⟩ := List.head?_eq_some_iff.mp h
    exact ⟨"v2", more, rfl, by decide⟩
  · obtain ⟨more, rfl⟩ := List.head?_eq_some_iff.mp h
    exact ⟨"v3", more, rfl, by decide⟩

/-- Just one route of the metadata interface matches a path, and it answers with the kind. -/
theorem exists_route (h : pattern ∈ kind.sharedPatterns) {text : String}
    (ht : text = "" ↔ kind = .taskMetadata ∨ kind = .taskStats) :
    ∃ route, (Endpoint.metadataRoutes.filterMap fun r =>
        (matchPattern r.pattern (pattern.map (Segment.fill text))).map fun text => (r, text)) =
        [(route, text)] ∧ route.target = .metadata kind := by
  -- Each of the sixteen patterns is compared with all routes.
  cases kind <;>
    simp only [sharedPatterns, sharedPatterns.second, sharedPatterns.third, List.flatMap_cons,
      List.flatMap_nil, List.cons_append, List.nil_append, List.mem_cons, List.not_mem_nil,
      or_false] at h <;>
    rcases h with rfl | rfl | rfl | rfl <;> simp at ht <;>
    simp [ht, Segment.fill, Endpoint.metadataRoutes, Endpoint.second, Endpoint.third,
      Endpoint.withSlash, Route.get, matchPattern]

end MetadataKind

/-- A path that starts with the word of a version is matched only by routes of the metadata interface. -/
theorem Service.filterMap_routes (s : Service) {version : String} (h : version ∈ ["v2", "v3"])
    (more : List String) :
    (s.routes.filterMap fun r =>
        (matchPattern r.pattern (version :: more)).map fun text => (r, text)) =
      Endpoint.metadataRoutes.filterMap fun r =>
        (matchPattern r.pattern (version :: more)).map fun text => (r, text) := by
  have hversion : version = "v2" ∨ version = "v3" := by simpa using h
  rw [Service.routes, List.filterMap_append, List.filterMap_cons]
  rcases hversion with rfl | rfl <;> cases s.sharedLifetime <;>
    simp [Endpoint.assetRoute, Endpoint.credentialRoutes, Endpoint.withSlash, Route.get, matchPattern]

namespace SharedResource

variable {r : SharedResource} {pattern : List Segment}

theorem question_not_mem_sent (r : SharedResource) : '?' ∉ r.sent.toList := by
  cases r with
  | taskMetadata | taskStats => exact List.not_mem_nil
  | containerMetadata id | containerStats id => exact id.noQuery

theorem slash_not_mem_identifier (r : SharedResource) : '/' ∉ r.identifier.toList := by
  cases r with
  | taskMetadata | taskStats => decide
  | containerMetadata id | containerStats id => exact id.oneSegment

/-- The pieces of a path as they are read. -/
def read (r : SharedResource) (pattern : List Segment) : List String :=
  pattern.map (Segment.fill r.identifier)

theorem slash_not_mem_read (h : pattern ∈ r.kind.sharedPatterns) :
    ∀ piece ∈ r.read pattern, '/' ∉ piece.toList :=
  not_mem_fill (fun _ hp => hp.2.2) (MetadataKind.isPlain_of_mem_sharedPatterns h)
    r.slash_not_mem_identifier

theorem withOneStart_read (h : pattern ∈ r.kind.sharedPatterns) :
    withOneStart (String.ofList (joinSegments (r.read pattern))).toList =
      (String.ofList (joinSegments (r.read pattern))).toList := by
  have hslash := slash_not_mem_read h
  obtain ⟨version, more, rfl, hv⟩ := MetadataKind.exists_version h
  have hne : version ≠ "" := by
    rintro rfl
    revert hv
    decide
  rw [String.toList_ofList]
  exact withOneStart_joinSegments hne (hslash version List.mem_cons_self)

/-- A target is read as the path of its pattern that the identifier fills. -/
theorem path_ofText_target (h : pattern ∈ r.kind.sharedPatterns) :
    (Target.ofText (String.ofList (joinSegments (pattern.map (Segment.fill r.sent))))).path =
      String.ofList (joinSegments (r.read pattern)) := by
  have hplain := MetadataKind.isPlain_of_mem_sharedPatterns h
  have hquery := not_mem_fill (fun _ hp => hp.2.1) hplain r.question_not_mem_sent
  have hread : r.read pattern = (pattern.map (Segment.fill r.sent)).map Target.decodePath :=
    (decodePath_fill hplain r.sent).symm
  obtain ⟨version, more, rfl, -⟩ := MetadataKind.exists_version h
  rw [Target.ofText_path, hread]
  · exact Target.decodePath_joinSegments _ _
  · rw [String.toList_ofList]
    intro hc
    rcases mem_joinSegments hc with hc | ⟨piece, hp, hc⟩
    · revert hc
      decide
    · exact hquery piece hp hc

/-- The identifier is empty just where the resource has none. -/
theorem identifier_eq_empty_iff (r : SharedResource) :
    r.identifier = "" ↔ r.kind = .taskMetadata ∨ r.kind = .taskStats := by
  have hempty : Target.decodePath "" = "" := Target.decodePath_plain (by simp)
  cases r with
  | taskMetadata => simp [identifier, sent, kind, hempty]
  | taskStats => simp [identifier, sent, kind, hempty]
  | containerMetadata id => simp [identifier, sent, kind, id.named]
  | containerStats id => simp [identifier, sent, kind, id.named]

/-- Just one route matches a path, and it answers with the kind of the resource. -/
theorem exists_matching (s : Service) (h : pattern ∈ r.kind.sharedPatterns) :
    ∃ route, Route.matching s.routes (joinSegments (r.read pattern)) = [(route, r.identifier)] ∧
      route.target = .metadata r.kind := by
  have hslash := slash_not_mem_read h
  obtain ⟨route, hr, hk⟩ := MetadataKind.exists_route h r.identifier_eq_empty_iff
  obtain ⟨version, more, rfl, hv⟩ := MetadataKind.exists_version h
  refine ⟨route, ?_, hk⟩
  rw [Route.matching, segments_joinSegments hslash (List.cons_ne_nil _ _), ← hr]
  exact s.filterMap_routes hv (r.read more)

end SharedResource

namespace Service

/-- The methods of every path. -/
def methods : List String := ["GET", "HEAD", "OPTIONS"]

/-- The answer to a request for a description, whatever path it comes under. -/
def answerKind {ε : Type} (s : Service) (w : Surroundings) (method address : String)
    (kind : MetadataKind) (identifier : String) : Run ε Answer := do
  let answer ←
    if Text.upper method ∈ methods then
      if Text.upper method = "OPTIONS" then pure (.methods methods)
      else answerStep (s.view w address (.metadata kind) identifier)
    else Refusal.wrongMethod.answer
  return answer.sentFor method

variable {ε : Type} {s : Service} {w : Surroundings}

theorem methods_of_mem_routes : ∀ r ∈ s.routes, r.methods = ["GET"] := by
  have hall : ∀ r ∈ Endpoint.assetRoute :: Endpoint.metadataRoutes ++ Endpoint.credentialRoutes,
      r.methods = ["GET"] := by decide
  intro r hr
  apply hall r
  rw [routes] at hr
  split at hr
  · exact hr
  · rw [List.append_nil] at hr
    exact List.mem_append_left _ hr

theorem allMethods_of_mem_routes : ∀ r ∈ s.routes, r.allMethods = methods := by
  intro r hr
  rw [Route.allMethods, methods_of_mem_routes r hr]
  decide

/-- The answer to a request depends on its path only by the route that matches. -/
theorem answer_of_matching (request : Request) {path : String} (ht : (Target.ofText request.target).path = path)
    (hp : withOneStart path.toList = path.toList) {route : Route Endpoint} {identifier : String}
    (hr : Route.matching s.routes path.toList = [(route, identifier)]) {kind : MetadataKind}
    (hk : route.target = .metadata kind) :
    (s.answer w request : Run ε Answer) =
      s.answerKind w request.method request.address kind identifier := by
  have htells : route.tellsMethods = true := by
    rw [Route.tellsMethods, methods_of_mem_routes route]
    · decide
    · exact Route.mem_of_matching (hr ▸ List.mem_singleton_self (route, identifier))
  have hdups : methods.eraseDups = methods := by decide
  have hfind := Destination.find_of_matching allMethods_of_mem_routes hp hr
    (Text.upper request.method)
  rw [answer, serve, ht, hfind, answerKind, hdups]
  by_cases hm : Text.upper request.method ∈ methods
  · rw [if_pos hm, if_pos hm]
    simp [htells, hk]
  · rw [if_neg hm, if_neg hm]

/-- A request for a resource of both versions is answered alike under all its paths, with or without a
slash at the end, whatever the method: it is the request for the kind of the resource with the
identifier that is read. -/
theorem answered_alike_under_all_paths (s : Service) (w : Surroundings) (method address : String)
    (r : SharedResource) :
    (∀ t ∈ r.targets, ∀ t' ∈ r.targets,
      (s.answer w ⟨method, t, address⟩ : Run ε Answer) = s.answer w ⟨method, t', address⟩) ∧
    ∀ t ∈ r.targets, (s.answer w ⟨method, t, address⟩ : Run ε Answer) =
      s.answerKind w method address r.kind r.identifier := by
  have hanswer : ∀ t ∈ r.targets, (s.answer w ⟨method, t, address⟩ : Run ε Answer) =
      s.answerKind w method address r.kind r.identifier := by
    intro t ht
    obtain ⟨pattern, hpattern, rfl⟩ := List.mem_map.mp ht
    obtain ⟨route, hr, hk⟩ := r.exists_matching s hpattern
    rw [← String.toList_ofList (l := joinSegments (r.read pattern))] at hr
    exact answer_of_matching ⟨method, _, address⟩ (r.path_ofText_target hpattern)
      (r.withOneStart_read hpattern) hr hk
  refine ⟨fun t ht t' ht' => ?_, hanswer⟩
  rw [hanswer t ht, hanswer t' ht']

/-- An identifier that is read as a word of the paths is asked for under both of its paths, and both refuse
to be written to. -/
theorem answered_alike_under_all_paths_example :
    let s := ofRegistry Registry.initial none true
    let w := Surroundings.ofEngine (.listing [("a1b2", "/stats"), ("c3d4", "/db")])
    (s.answer w ⟨"GET", "/v2/metadata/st%61ts", "10.0.0.9"⟩ : Run Empty Answer) =
        s.answer w ⟨"GET", "/v3/containers/st%61ts/", "10.0.0.9"⟩ ∧
      (s.answer w ⟨"PUT", "/v3/containers/st%61ts/stats", "10.0.0.9"⟩ : Run Empty Answer) =
        Refusal.wrongMethod.answer := by
  intro s w
  let id : SentIdentifier := ⟨"st%61ts", by decide, by decide, by decide⟩
  constructor
  · apply (answered_alike_under_all_paths s w "GET" "10.0.0.9" (.containerMetadata id)).1
    · decide
    · decide
  · apply ((answered_alike_under_all_paths s w "PUT" "10.0.0.9" (.containerStats id)).2 _ _).trans
    · rfl
    · decide

end Service

end TaskEndpoints
