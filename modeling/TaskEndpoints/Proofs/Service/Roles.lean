import TaskEndpoints.Proofs.Credentials.Roles
import TaskEndpoints.Proofs.Service.Spellings

/-!
# Requests for the credentials of roles

The credentials of a role are asked for under a path with its name or under a path with its resource name. A
resource name is taken whole, with all slashes in it, and slashes behind it never matter. The second main
statement says that both ways come to the same answer and ask the cloud for the same credentials.

## Implementation notes

Paths are compared as they are read, so that every way to escape them is covered. What a request under the
path with the resource name makes depends on the path only by the text without the slashes at its end; this
is shown of the step behind the route, and requests follow because they are led to it.
-/

namespace TaskEndpoints

open Http

/-- A text that can follow the route for resource names: it is not empty, does not start with a slash, and no
line ends after its first character. -/
structure IsArnTail (tail : String) : Prop where
  ne_empty : tail ≠ ""
  start : tail.toList.head? ≠ some '/'
  oneLine : '\n' ∉ tail.toList.tail

/-- The paths under which the credentials of a role are asked for by its name. -/
def rolePaths (role : String) : List String := ["/role/" ++ role, "/role/" ++ role ++ "/"]

/-- The paths under which they are asked for by its resource name. -/
def arnPaths (arn : String) : List String := ["/role-arn/" ++ arn, "/role-arn/" ++ arn ++ "/"]

/-- A moment at which credentials expire. -/
def Cloud.noon : Moment := ⟨⟨2024, 1, 1⟩, 12, 0, 0, 0, some 0⟩

/-- A cloud that knows one role and grants credentials for it. -/
def Cloud.ofRole (arn : String) : Cloud where
  held := none
  reply
    | .getRole _ => .ok (.object [("Role", .object [("Arn", .text arn)])])
    | .assumeRole _ _ _ => .ok (.object [("Credentials", .object [("AccessKeyId", .text "key"),
        ("SecretAccessKey", .text "secret"), ("SessionToken", .text "token"),
        ("Expiration", .moment noon)])])
    | .getSessionToken _ => .error ⟨.cloudRefusal, "no tokens"⟩

/-- The document of the credentials that this cloud grants. -/
def Cloud.grantedFor (arn : String) : Value :=
  .object [("AccessKeyId", .text "key"), ("SecretAccessKey", .text "secret"), ("Token", .text "token"),
    ("Expiration", .text "2024-01-01T12:00:00Z"), ("RoleArn", .text arn)]

/-- Surroundings with a cloud and without containers. -/
def Surroundings.ofCloud (cloud : Cloud) : Surroundings := { ofEngine (.listing []) with cloud := cloud }

variable {tail arn role : String}

namespace IsArnTail

theorem isRest (h : IsArnTail tail) : isRest tail.toList = true := by
  obtain ⟨hne, hstart, hline⟩ := h
  cases hcs : tail.toList with
  | nil => exact absurd (String.toList_eq_nil_iff.mp hcs) hne
  | cons c cs =>
      rw [hcs] at hstart hline
      have hc : c ≠ '/' := fun he => hstart (he ▸ rfl)
      have hcs : '\n' ∉ cs := hline
      simp [Http.isRest, hc, hcs]

theorem append_slashes (h : IsArnTail tail) (n : Nat) :
    IsArnTail (tail ++ String.ofList (List.replicate n '/')) := by
  obtain ⟨hne, hstart, hline⟩ := h
  have hlist := String.toList_append (s := tail) (t := String.ofList (List.replicate n '/'))
  rw [String.toList_ofList] at hlist
  cases hcs : tail.toList with
  | nil => exact absurd (String.toList_eq_nil_iff.mp hcs) hne
  | cons c cs =>
      rw [hcs] at hstart hline hlist
      refine ⟨?_, ?_, ?_⟩
      · rw [Ne, ← String.toList_eq_nil_iff, hlist]
        exact List.cons_ne_nil _ _
      · rw [hlist]
        exact hstart
      · rw [hlist, List.cons_append, List.tail_cons, List.mem_append, not_or]
        exact ⟨hline, fun h => absurd (List.eq_of_mem_replicate h) (by decide)⟩

end IsArnTail

/-! ### Where the paths lead -/

/-- The pieces of a text between its slashes. -/
def slashPieces (text : String) : List String := (Text.splitAtEvery '/' text.toList).map String.ofList

theorem map_toList_slashPieces (text : String) :
    (slashPieces text).map String.toList = Text.splitAtEvery '/' text.toList := by
  rw [slashPieces, List.map_map]
  exact (List.map_congr_left fun _ _ => String.toList_ofList).trans (List.map_id _)

theorem slash_not_mem_slashPieces : ∀ piece ∈ slashPieces tail, '/' ∉ piece.toList := by
  intro piece hp
  obtain ⟨cs, hcs, rfl⟩ := List.mem_map.mp hp
  rw [String.toList_ofList]
  exact Text.not_mem_of_mem_splitAtEvery cs hcs

theorem intercalate_slashPieces (text : String) : "/".intercalate (slashPieces text) = text := by
  apply String.toList_inj.mp
  rw [String.toList_intercalate, map_toList_slashPieces]
  exact Text.intercalate_splitAtEvery '/' text.toList

/-- The path with a resource name, piece by piece. -/
theorem arnPath_eq_joinSegments (tail : String) :
    "/role-arn/" ++ tail = String.ofList (joinSegments ("role-arn" :: slashPieces tail)) := by
  apply String.toList_inj.mp
  rw [String.toList_ofList, joinSegments, List.map_cons, map_toList_slashPieces,
    List.intercalate_cons_of_ne_nil (Text.splitAtEvery_ne_nil '/' _), Text.intercalate_splitAtEvery]
  simp

namespace Service

variable {ε : Type} {s : Service} {w : Surroundings} {address target : String}

/-- A path that starts with a word for roles is matched only by routes of the credentials. -/
theorem filterMap_routes_of_role (hs : s.sharedLifetime.isSome) {word : String}
    (h : word ∈ ["role", "role-arn"]) (more : List String) :
    (s.routes.filterMap fun r => (matchPattern r.pattern (word :: more)).map fun text => (r, text)) =
      Endpoint.credentialRoutes.filterMap fun r =>
        (matchPattern r.pattern (word :: more)).map fun text => (r, text) := by
  rw [Service.routes, if_pos hs, List.filterMap_append, List.filterMap_cons]
  rcases List.mem_pair.mp h with rfl | rfl
  · simp [Endpoint.assetRoute, Endpoint.metadataRoutes, Endpoint.second, Endpoint.third,
      Endpoint.withSlash, Route.get, matchPattern]
  · simp [Endpoint.assetRoute, Endpoint.metadataRoutes, Endpoint.second, Endpoint.third,
      Endpoint.withSlash, Route.get, matchPattern]

/-- A request to read a path for roles is led to the only route that matches the pieces of the path. -/
theorem reaches_of_pieces (hs : s.sharedLifetime.isSome) {word : String} (h : word ∈ ["role", "role-arn"])
    {more : List String} (hp : (Target.ofText target).path = String.ofList (joinSegments (word :: more)))
    (hslash : ∀ p ∈ more, '/' ∉ p.toList) {endpoint : Endpoint} {text : String}
    (hr : ∃ route, (Endpoint.credentialRoutes.filterMap fun r =>
      (matchPattern r.pattern (word :: more)).map fun text => (r, text)) = [(route, text)] ∧
        route.target = endpoint) :
    s.Reaches ⟨"GET", target, address⟩ endpoint text := by
  obtain ⟨route, hr, rfl⟩ := hr
  rw [← s.filterMap_routes_of_role hs h] at hr
  have hget : Text.upper "GET" = "GET" := by decide
  have hword : word ≠ "" ∧ '/' ∉ word.toList := by
    rcases List.mem_pair.mp h with rfl | rfl
    · exact ⟨by decide, by decide⟩
    · exact ⟨by decide, by decide⟩
  have hmem : route ∈ s.routes := by
    obtain ⟨r, hm, he⟩ := List.mem_filterMap.mp (hr ▸ List.mem_singleton_self (route, text))
    obtain ⟨text', -, hpair⟩ := Option.map_eq_some_iff.mp he
    cases hpair
    exact hm
  have hanswers : route.allMethods.contains "GET" = true := by
    rw [allMethods_of_mem_routes route hmem]
    decide
  have hfirst := List.find?_cons_of_pos (p := fun found : Route Endpoint × String =>
    found.1.allMethods.contains "GET") (l := []) (a := (route, text)) hanswers
  rw [← hr] at hfirst
  obtain ⟨allowed, hfind⟩ := Destination.find_joinSegments hword.1
    (List.forall_mem_cons.mpr ⟨hword.2, hslash⟩) hfirst
  exact ⟨by rw [hget]; decide, route, allowed, by rw [hget, hp, hfind], rfl⟩

/-- What follows the route for resource names is read as a whole. -/
theorem reaches_roleArn (hs : s.sharedLifetime.isSome)
    (hp : (Target.ofText target).path = "/role-arn/" ++ tail) (ht : IsArnTail tail) :
    s.Reaches ⟨"GET", target, address⟩ .roleArn tail := by
  rw [arnPath_eq_joinSegments] at hp
  refine reaches_of_pieces hs (by decide) hp slash_not_mem_slashPieces
    ⟨.get [.literal "role-arn", .rest] .roleArn, ?_, rfl⟩
  simp [Endpoint.withSlash, Endpoint.credentialRoutes, Route.get, matchPattern,
    intercalate_slashPieces, ht.isRest]

/-- The name of a role is one segment, with or without a slash behind it. -/
theorem reaches_role (hs : s.sharedLifetime.isSome) (hp : (Target.ofText target).path ∈ rolePaths role)
    (hne : role ≠ "") (hslash : '/' ∉ role.toList) : s.Reaches ⟨"GET", target, address⟩ .role role := by
  rcases List.mem_pair.mp hp with hp | hp
  · have hpieces : "/role/" ++ role = String.ofList (joinSegments ["role", role]) := by
      apply String.toList_inj.mp
      simp [joinSegments, List.intercalate]
    rw [hpieces] at hp
    refine reaches_of_pieces hs (by decide) hp (by simpa using hslash) ?_
    simp [Endpoint.withSlash, Endpoint.credentialRoutes, Route.get, matchPattern, hne]
  · have hpieces : "/role/" ++ role ++ "/" = String.ofList (joinSegments ["role", role, ""]) := by
      apply String.toList_inj.mp
      simp [joinSegments, List.intercalate]
    rw [hpieces] at hp
    refine reaches_of_pieces hs (by decide) hp (by simpa using hslash) ?_
    simp [Endpoint.withSlash, Endpoint.credentialRoutes, Route.get, matchPattern, hne]

/-! ### What is answered -/

/-- A step that asks for credentials calls the cloud, and what is handed out calls for nothing more. -/
theorem cloudCalls_vend (step : Run VendingError CredentialDocument) :
    (vend step).cloudCalls = step.cloudCalls := by
  rw [vend, map_eq_pure_bind, Run.cloudCalls, Run.events_bind_pure]
  rfl

theorem vend_eq_ok_iff {step : Run VendingError CredentialDocument} {v : Value} :
    (vend step).outcome = .ok v ↔ ∃ d, step.outcome = .ok d ∧ d.toValue = v := by
  rw [vend, map_eq_pure_bind]
  simp only [Run.bind_eq_ok_iff, Run.mapError, mapError_eq_ok_iff, Run.pure_outcome, Except.ok.injEq]

/-- Steps that end alike are answered alike. -/
theorem outcome_answer_congr {request request' : Request} {endpoint endpoint' : Endpoint}
    {text text' : String} (h : s.Reaches request endpoint text)
    (h' : s.Reaches request' endpoint' text') (hm : request.method = request'.method)
    (ho : (s.view w request.address endpoint text).outcome =
      (s.view w request'.address endpoint' text').outcome) :
    (s.answer w request : Run ε Answer).outcome = (s.answer w request' : Run ε Answer).outcome := by
  rw [outcome_of_reaches h, outcome_of_reaches h', result, result, ho, hm]

/-- A request to read a path has the status 200 exactly if the path comes to a value that has a JSON text,
which is then the answer. -/
theorem answered_iff {endpoint : Endpoint} {text : String} {a : Answer}
    (h : s.Reaches ⟨"GET", target, address⟩ endpoint text) :
    (s.answer w ⟨"GET", target, address⟩ : Run ε Answer).outcome = .ok a ∧ a.status = 200 ↔
      ∃ v body, (s.view w address endpoint text).outcome = .ok v ∧ Json.write v = .ok body ∧
        a = .json body := by
  have hhead : ("GET" : String) ≠ "HEAD" := by decide
  constructor
  · rintro ⟨ha, hstatus⟩
    obtain ⟨v, body, hv, hw, rfl⟩ := exists_value_of_status h ha hstatus
    refine ⟨v, body, hv, hw, ?_⟩
    rw [if_neg hhead]
    rfl
  · rintro ⟨v, body, hv, hw, rfl⟩
    refine ⟨?_, rfl⟩
    rw [outcome_of_text h (result_eq_ok_iff.mpr ⟨v, hv, hw⟩), if_neg hhead]
    rfl

/-- A request that is led to what answers a path is answered. -/
theorem exists_outcome {request : Request} {endpoint : Endpoint} {text : String}
    (h : s.Reaches request endpoint text) :
    ∃ a, (s.answer w request : Run ε Answer).outcome = .ok a := by
  cases hr : result (s.view w request.address endpoint text) with
  | ok body => exact ⟨_, outcome_of_text h hr⟩
  | error refusal => exact ⟨_, outcome_of_refusal h hr⟩

/-- By its name, a role comes to what it comes to by the resource name that the cloud tells. -/
theorem view_role_eq (hr : NamesRole arn role) (hc : w.cloud.TellsRole role arn)
    (ht : TrimsSlashes tail arn) :
    (s.view w address .role role).outcome = (s.view w address .roleArn tail).outcome := by
  have hname := (Vending.forRole_of_tellsRole hc).1
  have harn : (Vending.forPath w.cloud tail).outcome =
      (Vending.forArn w.cloud (.text arn) role).outcome :=
    (Vending.forPath_of_namesRole ht hr).1
  show (vend (Vending.forRole w.cloud role)).outcome = (vend (Vending.forPath w.cloud tail)).outcome
  rw [vend, vend, map_eq_pure_bind, map_eq_pure_bind, Run.bind_outcome, Run.bind_outcome, Run.mapError,
    Run.mapError, hname, harn]

/-- Credentials that are asked for by a resource name are handed out exactly if the cloud grants them. -/
theorem answered_iff_grants (h : s.Reaches ⟨"GET", target, address⟩ .roleArn tail)
    (ht : TrimsSlashes tail arn) (hr : NamesRole arn role) {a : Answer} :
    (s.answer w ⟨"GET", target, address⟩ : Run ε Answer).outcome = .ok a ∧ a.status = 200 ↔
      ∃ document body, w.cloud.Grants arn (Vending.sessionName role) document ∧
        Json.write document = .ok body ∧ a = .json body := by
  have harn : arn ≠ "" := by
    rintro rfl
    exact absurd hr.slash_mem (by simp)
  have hview (v : Value) : (s.view w address .roleArn tail).outcome = .ok v ↔
      w.cloud.Grants arn (Vending.sessionName role) v := by
    rw [Vending.grants_iff harn, ← (Vending.forPath_of_namesRole ht hr).1]
    exact vend_eq_ok_iff
  rw [answered_iff h]
  simp only [hview, exists_and_left]

/-- A resource name in a path is taken whole, and slashes behind it never matter. Without a slash it is
refused by name, and the cloud is not called. With one, the cloud is called once, for the credentials of just
this role in a session that is named after what follows the last slash, and they are handed out together with
the resource name exactly if the cloud grants them. -/
theorem roleArn_taken_whole (hs : s.sharedLifetime.isSome) (w : Surroundings) (address : String)
    (hp : (Target.ofText target).path = "/role-arn/" ++ tail) (ht : IsArnTail tail) :
    let run : Run ε Answer := s.answer w ⟨"GET", target, address⟩
    ∃ arn, TrimsSlashes tail arn ∧
      ('/' ∉ arn.toList → run.cloudCalls = [] ∧ run.outcome = .ok (.plain 400
        ("Invalid URL path /role-arn/" ++ arn ++ "; expected '/role-arn/<IAM Role ARN>'"))) ∧
      ('/' ∈ arn.toList → ∃ role session, NamesRole arn role ∧ role ≠ "" ∧
        session.toList = ("ecs-local-" ++ role).toList.take 64 ∧
        run.cloudCalls = [.assumeRole (.text arn) 3600 session] ∧
        (∀ a, run.outcome = .ok a ∧ a.status = 200 ↔ ∃ document body,
          w.cloud.Grants arn session document ∧ Json.write document = .ok body ∧ a = .json body) ∧
        ∀ document, w.cloud.Grants arn session document →
          document.field? "RoleArn" = some (.text arn)) ∧
      ∀ n other, (Target.ofText other).path =
          "/role-arn/" ++ (tail ++ String.ofList (List.replicate n '/')) →
        (s.answer w ⟨"GET", other, address⟩ : Run ε Answer) = run := by
  intro run
  have hreach : s.Reaches ⟨"GET", target, address⟩ .roleArn tail := reaches_roleArn hs hp ht
  have htrim := trimsSlashes_trimArn tail
  have hcalls : run.cloudCalls = (Vending.forPath w.cloud tail).cloudCalls :=
    (cloudCalls_answer hreach).trans (cloudCalls_vend _)
  refine ⟨Vending.trimArn tail, htrim, fun hno => ?refused, fun hmem => ?asked, fun n other ho => ?slashes⟩
  case refused =>
    obtain ⟨hbad, hnone⟩ : (Vending.forPath w.cloud tail).outcome =
        .error (.badPath (Vending.trimArn tail)) ∧ (Vending.forPath w.cloud tail).cloudCalls = [] :=
      Vending.forPath_of_not_mem htrim hno
    refine ⟨hcalls.trans hnone, ?_⟩
    have hresult : result (s.view w address .roleArn tail) =
        .error (.stated 400 (VendingError.badPath (Vending.trimArn tail)).message) :=
      result_eq_error_iff.mpr (Or.inl (vend_eq_error_iff.mpr ⟨_, hbad, rfl⟩))
    exact outcome_of_refusal hreach hresult
  case asked =>
    obtain ⟨role, hrole⟩ := exists_namesRole hmem
    refine ⟨role, Vending.sessionName role, hrole, hrole.ne_empty htrim.last, toList_sessionName role, ?_,
      fun a => answered_iff_grants hreach htrim hrole, fun document hd => hd.roleArn⟩
    rw [hcalls, (Vending.forPath_of_namesRole htrim hrole).2, Vending.cloudCalls_forArn]
  case slashes =>
    have hother : s.Reaches ⟨"GET", other, address⟩ .roleArn
        (tail ++ String.ofList (List.replicate n '/')) :=
      reaches_roleArn hs ho (ht.append_slashes n)
    have hview : s.view w address .roleArn (tail ++ String.ofList (List.replicate n '/')) =
        s.view w address .roleArn tail := by
      rw [view, Vending.forPath_append_slashes]
      rfl
    show _ = s.answer w ⟨"GET", target, address⟩
    rw [answer_of_reaches hother, answer_of_reaches hreach]
    show (answerStep (s.view w address .roleArn _) >>= fun a => pure (a.sentFor "GET")) = _
    rw [hview]

/-- An escaped resource name with a path of its own and two slashes behind it, and a word that is no resource
name. -/
theorem roleArn_taken_whole_example :
    let s := ofRegistry Registry.initial none true
    let arn := "arn:aws:iam::111111111111:role/team/app"
    let w := Surroundings.ofCloud (.ofRole arn)
    let run : Run Empty Answer :=
      s.answer w ⟨"GET", "/role-arn/arn%3Aaws:iam::111111111111:role%2Fteam/app//", "10.0.0.9"⟩
    let refused : Run Empty Answer := s.answer w ⟨"GET", "/role-arn/app/", "10.0.0.9"⟩
    (Target.ofText "/role-arn/arn%3Aaws:iam::111111111111:role%2Fteam/app//").path =
        "/role-arn/" ++ (arn ++ "//") ∧ IsArnTail (arn ++ "//") ∧
      run.cloudCalls = [.assumeRole (.text arn) 3600 "ecs-local-app"] ∧
      (∃ body, Json.write (Cloud.grantedFor arn) = .ok body ∧ run.outcome = .ok (.json body)) ∧
      refused.cloudCalls = [] ∧
      refused.outcome = .ok (.plain 400
        "Invalid URL path /role-arn/app; expected '/role-arn/<IAM Role ARN>'") := by
  intro s arn w run refused
  have hs : s.sharedLifetime.isSome := by decide
  have hp : (Target.ofText "/role-arn/arn%3Aaws:iam::111111111111:role%2Fteam/app//").path =
      "/role-arn/" ++ (arn ++ "//") := by
    decide
  have ht : IsArnTail (arn ++ "//") := ⟨by decide, by decide, by decide⟩
  have htrim : TrimsSlashes (arn ++ "//") arn := ⟨⟨2, by decide⟩, by decide⟩
  have hrole : NamesRole arn "app" :=
    ⟨⟨"arn:aws:iam::111111111111:role/team", by decide⟩, by decide⟩
  have hpno : (Target.ofText "/role-arn/app/").path = "/role-arn/" ++ "app/" := by decide
  have hno : IsArnTail "app/" := ⟨by decide, by decide, by decide⟩
  have hnotrim : TrimsSlashes "app/" "app" := ⟨⟨1, by decide⟩, by decide⟩
  obtain ⟨arn', htrim', -, hasked, -⟩ := roleArn_taken_whole (ε := Empty) hs w "10.0.0.9" hp ht
  obtain rfl := htrim'.unique htrim
  obtain ⟨role, session, hrole', -, hsession, hcalls, hanswer, -⟩ := hasked (by decide)
  obtain rfl := hrole'.unique hrole htrim.last
  obtain rfl : session = "ecs-local-app" :=
    String.toList_inj.mp (hsession.trans (by decide))
  obtain ⟨word, hword, hrefused, -⟩ := roleArn_taken_whole (ε := Empty) hs w "10.0.0.9" hpno hno
  obtain rfl := hword.unique hnotrim
  obtain ⟨hnone, houtcome⟩ := hrefused (by decide)
  have hgrants : w.cloud.Grants arn "ecs-local-app" (Cloud.grantedFor arn) :=
    ⟨_, _, _, _, _, Cloud.noon, "2024-01-01T12:00:00Z", rfl, rfl, rfl, rfl, rfl, rfl, by decide,
      rfl⟩
  obtain ⟨body, hbody⟩ : ∃ body, Json.write (Cloud.grantedFor arn) = .ok body := ⟨_, rfl⟩
  have hdone := ((hanswer (.json body)).mpr ⟨_, body, hgrants, hbody, rfl⟩).1
  exact ⟨hp, ht, hcalls, ⟨body, hbody, hdone⟩, hnone, houtcome⟩

/-- Asked for by its name or by its resource name, with or without a slash at the end and however the paths
are escaped, the credentials of a role are answered alike, and the cloud is asked for them once, with the same
resource name, duration and session. By its name, the cloud is first asked for the resource name. -/
theorem role_answered_alike_by_both_names (hs : s.sharedLifetime.isSome) (w : Surroundings)
    (address : String) (hne : role ≠ "") (hr : NamesRole arn role) (ha : IsArnTail arn)
    (hc : w.cloud.TellsRole role arn) :
    ∃ (a : Answer) (session : String), session.toList = ("ecs-local-" ++ role).toList.take 64 ∧
      (∀ target, (Target.ofText target).path ∈ rolePaths role →
        let run : Run ε Answer := s.answer w ⟨"GET", target, address⟩
        run.outcome = .ok a ∧
          run.cloudCalls = [.getRole role, .assumeRole (.text arn) 3600 session]) ∧
      (∀ target, (Target.ofText target).path ∈ arnPaths arn →
        let run : Run ε Answer := s.answer w ⟨"GET", target, address⟩
        run.outcome = .ok a ∧ run.cloudCalls = [.assumeRole (.text arn) 3600 session]) ∧
      ∀ kept path, '%' ∉ kept → '?' ∉ kept → path ∈ rolePaths role ++ arnPaths arn →
        (Target.ofText (percentEncode kept path)).path = path := by
  have hself := hr.trimsSlashes hne
  have hcanonical : s.Reaches ⟨"GET", percentEncode [] ("/role-arn/" ++ arn), address⟩ .roleArn arn :=
    reaches_roleArn hs (Target.path_percentEncode List.not_mem_nil List.not_mem_nil _) ha
  obtain ⟨a, hanswer⟩ := exists_outcome (ε := ε) (w := w) hcanonical
  have hslash : "/" = String.ofList (List.replicate 1 '/') := rfl
  refine ⟨a, Vending.sessionName role, toList_sessionName role, fun target ht => ?name,
    fun target ht => ?arn, fun kept path hp hq _ => Target.path_percentEncode hp hq path⟩
  case name =>
    have hreach : s.Reaches ⟨"GET", target, address⟩ .role role :=
      reaches_role hs ht hne hr.oneSegment
    constructor
    · rw [outcome_answer_congr hreach hcanonical rfl (view_role_eq hr hc hself)]
      exact hanswer
    · rw [cloudCalls_answer hreach]
      show (vend (Vending.forRole w.cloud role)).cloudCalls = _
      rw [cloudCalls_vend, (Vending.forRole_of_tellsRole hc).2, Vending.cloudCalls_forArn]
  case arn =>
    -- both paths hold the resource name, one of them with a slash behind it
    obtain ⟨tail, hreach, htrim⟩ : ∃ tail, s.Reaches ⟨"GET", target, address⟩ .roleArn tail ∧
        TrimsSlashes tail arn := by
      rcases List.mem_pair.mp ht with ht | ht
      · exact ⟨arn, reaches_roleArn hs ht ha, hself⟩
      · rw [String.append_assoc, hslash] at ht
        exact ⟨_, reaches_roleArn hs ht (ha.append_slashes 1), hself.append_slashes 1⟩
    constructor
    · rw [outcome_answer_congr hreach hcanonical rfl]
      · exact hanswer
      · exact (view_role_eq hr hc htrim).symm.trans (view_role_eq hr hc hself)
    · rw [cloudCalls_answer hreach]
      show (vend (Vending.forPath w.cloud tail)).cloudCalls = _
      rw [cloudCalls_vend, (Vending.forPath_of_namesRole htrim hr).2, Vending.cloudCalls_forArn]

/-- The role of a resource name with a path of its own, under four paths of which two are escaped. -/
theorem role_answered_alike_by_both_names_example :
    let s := ofRegistry Registry.initial none true
    let arn := "arn:aws:iam::111111111111:role/team/app"
    let w := Surroundings.ofCloud (.ofRole arn)
    let escaped := "/role-arn/arn%3Aaws:iam::111111111111:role%2Fteam/app/"
    NamesRole arn "app" ∧ IsArnTail arn ∧ w.cloud.TellsRole "app" arn ∧
      ∃ a : Answer, ∀ target ∈ ["/role/app", "/role/%61pp/", "/role-arn/" ++ arn, escaped],
        (s.answer w ⟨"GET", target, "10.0.0.9"⟩ : Run Empty Answer).outcome = .ok a := by
  intro s arn w escaped
  have hs : s.sharedLifetime.isSome := by decide
  have hrole : NamesRole arn "app" :=
    ⟨⟨"arn:aws:iam::111111111111:role/team", by decide⟩, by decide⟩
  have ha : IsArnTail arn := ⟨by decide, by decide, by decide⟩
  have hc : w.cloud.TellsRole "app" arn := ⟨_, _, rfl, rfl, rfl⟩
  obtain ⟨a, session, -, hname, harn, -⟩ :=
    role_answered_alike_by_both_names (ε := Empty) hs w "10.0.0.9" (by decide) hrole ha hc
  refine ⟨hrole, ha, hc, a, ?_⟩
  simp only [List.forall_mem_cons]
  refine ⟨(hname _ ?_).1, (hname _ ?_).1, (harn _ ?_).1, (harn _ ?_).1, List.forall_mem_nil _⟩
  · decide
  · decide
  · decide
  · decide

end Service

end TaskEndpoints
