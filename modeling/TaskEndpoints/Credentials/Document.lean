import TaskEndpoints.Value.Basic

/-!
# Credentials as they are handed out

The object with the three parts of temporary credentials, and with the expiration and the role where
these are known.
-/

namespace TaskEndpoints

/-- Temporary credentials with what belongs to them. -/
structure CredentialDocument where
  keyId : Value
  secretKey : Value
  token : Value
  /-- The expiration; a value that counts as false is left out. -/
  expiration : Value
  /-- The role; a value that counts as false is left out. -/
  roleArn : Value
deriving DecidableEq

/-- The object for credentials. -/
def CredentialDocument.toValue (d : CredentialDocument) : Value :=
  let known (name : String) (v : Value) := if v.isTruthy then [(name, v)] else []
  .object ([("AccessKeyId", d.keyId), ("SecretAccessKey", d.secretKey), ("Token", d.token)]
    ++ known "Expiration" d.expiration ++ known "RoleArn" d.roleArn)

end TaskEndpoints
