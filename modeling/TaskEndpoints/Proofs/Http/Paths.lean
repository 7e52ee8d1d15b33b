import TaskEndpoints.Http.Route
import TaskEndpoints.Proofs.Text.Split

/-!
# Where paths lead

A path that is given by its pieces has these as its segments, and leads to the first route that matches
them and answers the method.
-/

namespace TaskEndpoints.Http

/-- The path with the given segments. -/
def joinSegments (pieces : List String) : List Char :=
  '/' :: ['/'].intercalate (pieces.map String.toList)

theorem joinSegments_singleton (piece : String) : joinSegments [piece] = '/' :: piece.toList := by
  rw [joinSegments, List.map_singleton, List.intercalate_singleton]

theorem joinSegments_cons_cons (piece next : String) (more : List String) :
    joinSegments (piece :: next :: more) =
      '/' :: (piece.toList ++ joinSegments (next :: more)) := by
  rw [joinSegments, List.map_cons, List.map_cons, List.intercalate_cons_cons, joinSegments,
    List.map_cons, List.append_assoc, List.singleton_append]

/-- A path consists of slashes and its pieces. -/
theorem mem_joinSegments {c : Char} {piece : String} {more : List String}
    (h : c ∈ joinSegments (piece :: more)) : c = '/' ∨ ∃ p ∈ piece :: more, c ∈ p.toList := by
  induction more generalizing piece with
  | nil =>
      rw [joinSegments_singleton] at h
      rcases List.mem_cons.mp h with rfl | h
      · exact Or.inl rfl
      · exact Or.inr ⟨piece, List.mem_cons_self, h⟩
  | cons next rest ih =>
      rw [joinSegments_cons_cons] at h
      rcases List.mem_cons.mp h with rfl | h
      · exact Or.inl rfl
      · rcases List.mem_append.mp h with h | h
        · exact Or.inr ⟨piece, List.mem_cons_self, h⟩
        · rcases ih h with h | ⟨p, hp, hc⟩
          · exact Or.inl h
          · exact Or.inr ⟨p, List.mem_cons_of_mem piece hp, hc⟩

theorem segments_joinSegments {pieces : List String} (h : ∀ piece ∈ pieces, '/' ∉ piece.toList)
    (hne : pieces ≠ []) : segments (joinSegments pieces) = pieces := by
  rw [joinSegments, segments, Text.splitAtEvery_intercalate, List.map_map]
  · exact (List.map_congr_left fun s _ => String.ofList_toList).trans (List.map_id pieces)
  · intro piece hp
    obtain ⟨s, hs, rfl⟩ := List.mem_map.mp hp
    exact h s hs
  · exact fun he => hne (List.map_eq_nil_iff.mp he)

/-- A path with one slash at its start stays as it is. -/
theorem withOneStart_joinSegments {piece : String} {more : List String} (hne : piece ≠ "")
    (h : '/' ∉ piece.toList) :
    withOneStart (joinSegments (piece :: more)) = joinSegments (piece :: more) := by
  cases hc : piece.toList with
  | nil => exact absurd (String.toList_eq_nil_iff.mp hc) hne
  | cons c cs =>
      have hslash : (c == '/') = false := by
        rw [hc] at h
        exact beq_false_of_ne fun he => h (he ▸ List.mem_cons_self)
      cases more with
      | nil => simp [joinSegments, withOneStart, hc, hslash, List.intercalate]
      | cons other rest => simp [joinSegments, withOneStart, hc, hslash, List.intercalate]

/-- The first route that matches the pieces of a path and answers the method is the one found. -/
theorem Destination.find_joinSegments {α : Type} {routes : List (Route α)} {method : String}
    {piece : String} {more : List String} (hne : piece ≠ "")
    (h : ∀ p ∈ piece :: more, '/' ∉ p.toList) {route : Route α} {text : String}
    (hr : (routes.filterMap fun r =>
      (matchPattern r.pattern (piece :: more)).map fun text => (r, text)).find?
        (fun found => found.1.allMethods.contains method) = some (route, text)) :
    ∃ allowed, find routes method (String.ofList (joinSegments (piece :: more))) =
      .found route text allowed := by
  have hs := segments_joinSegments h (List.cons_ne_nil _ _)
  have ha : Route.answering? routes method (joinSegments (piece :: more)) = some (route, text) := by
    rw [Route.answering?, Route.matching, hs]
    exact hr
  refine ⟨((Route.matching routes (joinSegments (piece :: more))).flatMap
    (·.1.allMethods)).eraseDups, ?_⟩
  rw [find, String.toList_ofList, withOneStart_joinSegments hne (h piece List.mem_cons_self)]
  simp only [ha]

section Uniform

variable {α : Type} {routes : List (Route α)} {methods : List String}

theorem Route.mem_of_matching {path : List Char} {route : Route α} {text : String}
    (h : (route, text) ∈ Route.matching routes path) : route ∈ routes := by
  obtain ⟨r, hr, he⟩ := List.mem_filterMap.mp h
  obtain ⟨text', -, hpair⟩ := Option.map_eq_some_iff.mp he
  cases hpair
  exact hr

theorem Route.answering?_eq_none (h : ∀ r ∈ routes, r.allMethods = methods) {method : String}
    (hm : method ∉ methods) (path : List Char) : Route.answering? routes method path = none := by
  rw [Route.answering?, List.find?_eq_none]
  rintro ⟨r, text⟩ hr
  have hr' : r.allMethods = methods := h r (Route.mem_of_matching hr)
  simpa [hr'] using hm

/-- If all routes answer the same methods, a path that one route matches leads to this route for each of
them, and is refused for every other method. -/
theorem Destination.find_of_matching (h : ∀ r ∈ routes, r.allMethods = methods) {path : String}
    (hp : withOneStart path.toList = path.toList) {route : Route α} {text : String}
    (hr : Route.matching routes path.toList = [(route, text)]) (method : String) :
    find routes method path =
      if method ∈ methods then .found route text methods.eraseDups else .wrongMethod := by
  have hroute : route.allMethods = methods := by
    apply h
    exact Route.mem_of_matching (hr ▸ List.mem_singleton_self (route, text))
  rw [find, hp]
  by_cases hm : method ∈ methods
  · have ha : Route.answering? routes method path.toList = some (route, text) := by
      rw [Route.answering?, hr]
      exact List.find?_cons_of_pos (by simpa [hroute] using hm)
    rw [if_pos hm]
    simp only [ha, hr, List.flatMap_singleton, hroute]
  · have hnone := Route.answering?_eq_none h hm
    rw [if_neg hm]
    simp [hnone, hr, Route.variant?]

end Uniform

end TaskEndpoints.Http
