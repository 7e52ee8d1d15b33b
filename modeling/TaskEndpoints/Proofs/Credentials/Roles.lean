import TaskEndpoints.Proofs.Credentials.RoleNames
import TaskEndpoints.Proofs.Metadata

/-!
# Credentials of roles

The credentials of a role are asked for by its resource name, for a session that is named after the role. The
cloud grants them if its answer holds all of their parts. What is handed out is then one document, whose
fields are the parts, the expiration as a text, and the resource name.

## Implementation notes

`Cloud.Grants` lists the fields of the answer and of the document one by one, so that nothing of how the one
is made from the other is left to the functions that do so.
-/

namespace TaskEndpoints

/-- The cloud grants credentials for a role in a session: its answer holds all of their parts, and the
document is what is handed out of them. -/
def Cloud.Grants (cloud : Cloud) (arn session : String) (document : Value) : Prop :=
  ∃ output given key secret token moment expiration,
    cloud.reply (.assumeRole (.text arn) 3600 session) = .ok output ∧
    output.field? "Credentials" = some given ∧ given.field? "AccessKeyId" = some key ∧
    given.field? "SecretAccessKey" = some secret ∧ given.field? "SessionToken" = some token ∧
    given.field? "Expiration" = some (.moment moment) ∧ moment.universalText = .ok expiration ∧
    document = .object [("AccessKeyId", key), ("SecretAccessKey", secret), ("Token", token),
      ("Expiration", .text expiration), ("RoleArn", .text arn)]

/-- The cloud tells the resource name of a role. -/
def Cloud.TellsRole (cloud : Cloud) (role arn : String) : Prop :=
  ∃ output told, cloud.reply (.getRole role) = .ok output ∧ output.field? "Role" = some told ∧
    told.field? "Arn" = some (.text arn)

theorem Cloud.Grants.roleArn {cloud : Cloud} {arn session : String} {document : Value}
    (h : cloud.Grants arn session document) : document.field? "RoleArn" = some (.text arn) := by
  obtain ⟨_, _, _, _, _, _, _, -, -, -, -, -, -, -, rfl⟩ := h
  rfl

theorem Moment.ne_empty_of_universalText {m : Moment} {text : String} (h : m.universalText = .ok text) :
    text ≠ "" := by
  rw [Moment.universalText] at h
  split at h
  · rw [← Except.ok.inj h, ClockReading.text, Ne, ← String.toList_eq_nil_iff, String.toList_ofList]
    simp
  · cases h

namespace Vending

variable {cloud : Cloud} {arn role tail : String} {v field : Value} {d : CredentialDocument}

/-! ### The parts of an answer -/

theorem required_eq_ok_iff {name : String} : required v name = .ok field ↔ v.field? name = some field := by
  rw [required, mapError_eq_ok_iff]
  cases v with
  | map entries =>
      rw [Value.index, Value.field?]
      cases Assoc.get? entries (.text name) with
      | none => simp
      | some w => simp
  | _ => simp [Value.index, Value.field?]

theorem expirationText_eq_ok_iff :
    expirationText v = .ok field ↔ ∃ m text, v = .moment m ∧ m.universalText = .ok text ∧
      field = .text text := by
  cases v with
  | moment m =>
      rw [expirationText, mapError_eq_ok_iff, map_eq_ok_iff]
      simp [eq_comm]
  | _ => simp [expirationText]

/-- A document is made of an answer that holds all parts of credentials. -/
theorem document_eq_ok_iff {output roleArn : Value} :
    document output roleArn = .ok d ↔ ∃ given, output.field? "Credentials" = some given ∧
      given.field? "AccessKeyId" = some d.keyId ∧ given.field? "SecretAccessKey" = some d.secretKey ∧
      given.field? "SessionToken" = some d.token ∧
      (∃ m text, given.field? "Expiration" = some (.moment m) ∧ m.universalText = .ok text ∧
        d.expiration = .text text) ∧ d.roleArn = roleArn := by
  obtain ⟨keyId, secretKey, token, expiration, arn⟩ := d
  simp only [document, bind_eq_ok_iff, required_eq_ok_iff, expirationText_eq_ok_iff, pure, Except.pure,
    Except.ok.injEq, CredentialDocument.mk.injEq]
  constructor
  · rintro ⟨given, hgiven, key, hkey, secret, hsecret, session, hsession, v, hv, text,
      ⟨m, s, rfl, hm, rfl⟩, rfl, rfl, rfl, rfl, rfl⟩
    exact ⟨given, hgiven, hkey, hsecret, hsession, ⟨m, s, hv, hm, rfl⟩, rfl⟩
  · rintro ⟨given, hgiven, hkey, hsecret, hsession, ⟨m, s, hv, hm, rfl⟩, rfl⟩
    exact ⟨given, hgiven, keyId, hkey, secretKey, hsecret, token, hsession, .moment m, hv, .text s,
      ⟨m, s, rfl, hm, rfl⟩, rfl, rfl, rfl, rfl, rfl⟩

/-- A document in which the expiration and the role are known shows all of its parts. -/
theorem toValue_of_known {key secret token : Value} {expiration : String} (he : expiration ≠ "")
    (ha : arn ≠ "") : (CredentialDocument.mk key secret token (.text expiration) (.text arn)).toValue =
      .object [("AccessKeyId", key), ("SecretAccessKey", secret), ("Token", token),
        ("Expiration", .text expiration), ("RoleArn", .text arn)] := by
  have htruthy {s : String} (h : s ≠ "") : (Value.text s).isTruthy = true := by
    simpa [Value.isTruthy] using h
  simp only [CredentialDocument.toValue, htruthy he, htruthy ha]
  rfl

/-! ### Asking for the credentials of a role -/

/-- The credentials of a role are asked for once, and the answer is all that matters. -/
theorem forArn_eq (cloud : Cloud) (arn : Value) (role : String) :
    forArn cloud arn role =
      ⟨[.logged ⟨.credentials, .debug, "Requesting credentials for role with ARN " ++ arn.plain⟩,
        .cloudCalled (.assumeRole arn 3600 (sessionName role))],
        ((cloud.reply (.assumeRole arn 3600 (sessionName role))).mapError .cloud).bind
          fun output => document output arn⟩ := by
  have hask : (ask cloud (.assumeRole arn lifetime (sessionName role))) =
      ⟨[.cloudCalled (.assumeRole arn 3600 (sessionName role))],
        (cloud.reply (.assumeRole arn 3600 (sessionName role))).mapError .cloud⟩ := rfl
  rw [forArn, note, Run.bind_of_ok (Run.log_outcome _ _ _), hask]
  cases cloud.reply (.assumeRole arn 3600 (sessionName role)) with
  | error f => rfl
  | ok output => rfl

theorem cloudCalls_forArn (cloud : Cloud) (arn : Value) (role : String) :
    (forArn cloud arn role).cloudCalls = [.assumeRole arn 3600 (sessionName role)] := by
  rw [forArn_eq]
  rfl

/-- What is handed out for a role is what the cloud grants. -/
theorem grants_iff (ha : arn ≠ "") :
    cloud.Grants arn (sessionName role) v ↔
      ∃ d, (forArn cloud (.text arn) role).outcome = .ok d ∧ d.toValue = v := by
  rw [forArn_eq]
  constructor
  · rintro ⟨output, given, key, secret, token, m, expiration, hreply, hgiven, hkey, hsecret, htoken,
      hexpiration, hm, rfl⟩
    refine ⟨⟨key, secret, token, .text expiration, .text arn⟩, ?_,
      toValue_of_known (m.ne_empty_of_universalText hm) ha⟩
    show ((cloud.reply _).mapError VendingError.cloud).bind _ = _
    rw [hreply]
    exact document_eq_ok_iff.mpr
      ⟨given, hgiven, hkey, hsecret, htoken, ⟨m, expiration, hexpiration, hm, rfl⟩, rfl⟩
  · rintro ⟨d, hd, rfl⟩
    obtain ⟨output, houtput, hdocument⟩ := bind_eq_ok_iff.mp hd
    obtain ⟨given, hgiven, hkey, hsecret, htoken, ⟨m, expiration, hexpiration, hm, he⟩, hrole⟩ :=
      document_eq_ok_iff.mp hdocument
    obtain ⟨keyId, secretKey, token, known, roleArn⟩ := d
    obtain rfl : known = .text expiration := he
    obtain rfl : roleArn = .text arn := hrole
    exact ⟨output, given, keyId, secretKey, token, m, expiration, mapError_eq_ok_iff.mp houtput, hgiven,
      hkey, hsecret, htoken, hexpiration, hm, toValue_of_known (m.ne_empty_of_universalText hm) ha⟩

/-- By its name, the credentials of a role are asked for with the resource name that the cloud tells. -/
theorem forRole_of_tellsRole (h : cloud.TellsRole role arn) :
    (forRole cloud role).outcome = (forArn cloud (.text arn) role).outcome ∧
      (forRole cloud role).cloudCalls =
        .getRole role :: (forArn cloud (.text arn) role).cloudCalls := by
  obtain ⟨output, told, hreply, htold, harn⟩ := h
  have hask : ask cloud (.getRole role) = ⟨[.cloudCalled (.getRole role)], .ok output⟩ := by
    show Run.mk [.cloudCalled (.getRole role)] ((cloud.reply (.getRole role)).mapError VendingError.cloud) = _
    rw [hreply]
    rfl
  have hread : (do required (← required output "Role") "Arn" : Except VendingError Value) =
      .ok (.text arn) :=
    bind_eq_ok_iff.mpr ⟨told, required_eq_ok_iff.mpr htold, required_eq_ok_iff.mpr harn⟩
  rw [forRole, note, note, Run.bind_of_ok (Run.log_outcome _ _ _),
    Run.bind_of_ok (Run.log_outcome _ _ _), hask, Run.bind_of_ok rfl, hread, Run.bind_of_ok rfl]
  exact ⟨rfl, rfl⟩

/-- A path that holds the resource name of a role asks for the credentials of this role. -/
theorem forPath_of_namesRole (ht : TrimsSlashes tail arn) (hr : NamesRole arn role) :
    (forPath cloud tail).outcome = (forArn cloud (.text arn) role).outcome ∧
      (forPath cloud tail).cloudCalls = (forArn cloud (.text arn) role).cloudCalls := by
  have hrole := hr.roleName?_eq (hr.ne_empty ht.last)
  have hpath : forPath cloud tail = note "Received role credentials request using ARN" >>=
      fun _ => forArn cloud (.text arn) role := by
    rw [forPath]
    simp only [ht.trimArn_eq, hrole]
  rw [hpath, note, Run.bind_of_ok (Run.log_outcome _ _ _)]
  exact ⟨rfl, rfl⟩

/-- A path without a slash before its end asks the cloud for nothing. -/
theorem forPath_of_not_mem (ht : TrimsSlashes tail arn) (h : '/' ∉ arn.toList) :
    (forPath cloud tail).outcome = .error (.badPath arn) ∧ (forPath cloud tail).cloudCalls = [] := by
  have hpath : forPath cloud tail = note "Received role credentials request using ARN" >>=
      fun _ => Run.fail (.badPath arn) := by
    rw [forPath]
    simp only [ht.trimArn_eq, roleName?_eq_none h]
  rw [hpath, note, Run.bind_of_ok (Run.log_outcome _ _ _)]
  exact ⟨rfl, rfl⟩

/-- Further slashes at the end of a path change nothing. -/
theorem forPath_append_slashes (cloud : Cloud) (tail : String) (n : Nat) :
    forPath cloud (tail ++ String.ofList (List.replicate n '/')) = forPath cloud tail := by
  have htrim := ((trimsSlashes_trimArn tail).append_slashes n).trimArn_eq
  rw [forPath, forPath, htrim]

end Vending

end TaskEndpoints
