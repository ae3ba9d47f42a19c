import ShopcityLoyalty.Idempotency
import ShopcityLoyalty.Lib.Executions

/-!
The rows that sign-in and device administration read and write, and what both run with.

The ids of devices, credentials, challenges, attempts and sessions are their positions. A
session also keeps on what evidence it was issued, and the store keeps the commits that
revoked something; no operation reads either of the two.
-/

namespace ShopcityLoyalty

/-! ### Rows -/

inductive TenantStatus | ACTIVE | SUSPENDED
  deriving DecidableEq

inductive UserStatus | ACTIVE | DISABLED | SUSPENDED
  deriving DecidableEq

inductive DeviceAuthBindingMode | UNPAIRED | HMAC_LEGACY | WEBAUTHN | DEVICE_TOKEN
  deriving DecidableEq

inductive DeviceTokenCredentialStatus | ACTIVE | REVOKED
  deriving DecidableEq

inductive DeviceWebAuthnCredentialStatus | PENDING | ACTIVE | REVOKED | SUPERSEDED
  deriving DecidableEq

inductive DeviceEnrollmentPurpose | PAIRING | REPAIR
  deriving DecidableEq

inductive DeviceAttestationTrustResult | NOT_EVALUATED | TRUSTED | REJECTED
  deriving DecidableEq

inductive SessionStatus | ACTIVE | REVOKED | EXPIRED
  deriving DecidableEq

inductive SessionPurpose | USER | SMOKE
  deriving DecidableEq

abbrev Bytes := List UInt8

structure AuthUser where
  tenantId : String
  branchId : Option String
  role : UserRole
  status : UserStatus
  deriving DecidableEq

structure DeviceRow where
  tenantId : String
  branchId : String
  name : String
  status : DeviceStatus
  authBindingMode : DeviceAuthBindingMode
  pairedAt : Option Int
  attestationSecretCiphertext : Option String
  attestationSecretVersion : Int
  attestationSecretRotatedAt : Option Int
  deriving DecidableEq

structure DeviceTokenCredential where
  tenantId : String
  deviceId : Nat
  tokenHash : Bytes
  keyVersion : Int
  status : DeviceTokenCredentialStatus
  pairedAt : Int
  revokedAt : Option Int
  lastUsedAt : Option Int
  keyVersion_pos : 0 < keyVersion
  deriving DecidableEq

structure DeviceWebAuthnCredential where
  tenantId : String
  deviceId : Nat
  credentialId : String
  publicKey : Bytes
  aaguid : String
  signCount : Int
  authenticatorAttachment : Option String
  transports : List String
  backupEligible : Bool
  backedUp : Bool
  attestationFormat : String
  attestationTrustResult : DeviceAttestationTrustResult
  rpId : String
  status : DeviceWebAuthnCredentialStatus
  pairedAt : Option Int
  revokedAt : Option Int
  deriving DecidableEq

structure DeviceEnrollmentChallenge where
  tenantId : String
  branchId : String
  deviceId : Nat
  actorUserId : String
  authorizationTokenHash : Digest
  challengeHash : Digest
  purpose : DeviceEnrollmentPurpose
  expiresAt : Int
  consumedAt : Option Int
  deriving DecidableEq

/-- An attempt also keeps how many revocations there were when its user was read. -/
structure CashierLoginAttempt where
  tenantId : String
  userId : String
  branchId : String
  deviceId : Nat
  bearerTokenHash : Digest
  assertionChallengeHash : Digest
  expiresAt : Int
  consumedAt : Option Int
  userSeen : Nat
  deriving DecidableEq

structure DeviceAttestation where
  tenantId : String
  deviceId : Nat
  nonce : String
  nonceHash : Digest
  attestationTimestamp : Int
  acceptedAt : Int
  expiresAt : Int
  issuedSessionId : Option Nat
  deriving DecidableEq

/-- What a session was issued on, besides a password. -/
inductive SessionProof
  | none
  | attestation (deviceId : Nat) (deviceAttestation : String)
  | deviceToken (credentialId : Nat)
  | assertion (attemptId : Nat)
  | session (sessionId : Nat)
  deriving DecidableEq

/-- The proof, and how many revocations there were when the user and the device were read. -/
structure SessionEvidence where
  proof : SessionProof
  userSeen : Nat
  deviceSeen : Nat
  deriving DecidableEq

structure Session where
  userId : String
  deviceId : Option Nat
  deviceCredentialId : Option Nat
  sessionTokenHash : Digest
  csrfTokenHash : Digest
  status : SessionStatus
  purpose : SessionPurpose
  expiresAt : Int
  revokedAt : Option Int
  lastUsedAt : Option Int
  evidence : SessionEvidence
  deriving DecidableEq

/-- What a commit revoked: the sessions of a device or of a credential, or those of a user
among the first rows, which its sweep had seen. -/
inductive Revocation
  | device (deviceId : Nat)
  | credential (credentialId : Nat)
  | user (userId : String) (sessionsSeen : Nat)
  deriving DecidableEq

/-! ### Requests and their records -/

inductive AuthEndpoint
  | devicesCreate | devicesUpdate | usersRole | usersStatus
  deriving DecidableEq

structure AuthRequestKey where
  tenantId : String
  actorId : String
  endpoint : AuthEndpoint
  idempotencyKey : String
  deriving DecidableEq

/-- A device without its attestation secret and fingerprint. -/
structure SafeDevice where
  id : Nat
  tenantId : String
  branchId : String
  name : String
  status : DeviceStatus
  authBindingMode : DeviceAuthBindingMode
  pairedAt : Option Int
  attestationSecretVersion : Int
  attestationSecretRotatedAt : Option Int
  deriving DecidableEq

/-- What completed requests answered. -/
inductive StoredResponse
  | device (device : SafeDevice)
  | user (id : String) (user : AuthUser)
  deriving DecidableEq

structure AuthStore where
  users : String → Option AuthUser
  devices : Table DeviceRow
  deviceTokenCredentials : Table DeviceTokenCredential
  deviceWebAuthnCredentials : Table DeviceWebAuthnCredential
  deviceEnrollmentChallenges : Table DeviceEnrollmentChallenge
  cashierLoginAttempts : Table CashierLoginAttempt
  deviceAttestations : List DeviceAttestation
  sessions : Table Session
  records : AuthRequestKey → Option (IdempotencyRecord StoredResponse)
  revocations : List Revocation

/-! ### What requests run with -/

/-- What `verifyRegistrationResponse` tells of a new credential. -/
structure RegistrationInfo where
  credentialId : String
  publicKey : Bytes
  counter : Int
  aaguid : String
  fmt : String
  userVerified : Bool
  credentialDeviceType : String
  credentialBackedUp : Bool

/-- What `verifyAuthenticationResponse` tells of an assertion. -/
structure AuthenticationInfo where
  newCounter : Int
  userVerified : Bool
  credentialDeviceType : String
  credentialBackedUp : Bool

structure WebAuthnConfig where
  rpId : String
  origins : List String

/-- A parsed `URL`. -/
structure ParsedUrl where
  origin : String
  protocol : String
  hostname : String
  username : String
  password : String

/-- A browser's answer to a registration challenge. -/
structure RegistrationResponse where
  authenticatorAttachment : Option String
  transports : List String
  response : Json

/-- The validated environment, and what libraries answer: `node:crypto`, `Buffer`, `URL` and
`Number`, the WebAuthn server and its metadata service, and the ids drawn as texts. -/
structure AuthRuntime where
  SESSION_SECRET : String
  CSRF_SECRET : String
  DEVICE_ATTESTATION_KEK : String
  POS_DEVICE_TOKEN_HMAC_KEY : Option String
  POS_DEVICE_TOKEN_HMAC_KEY_VERSION : Int
  PILOT_CASHIER_DEVICE_TOKEN_ONLY : Bool
  SESSION_IDLE_CASHIER_MINUTES : Int
  SESSION_IDLE_SUPERVISOR_MINUTES : Int
  SESSION_IDLE_ADMIN_MINUTES : Int
  WEBAUTHN_RP_ID : Option String
  WEBAUTHN_ALLOWED_ORIGINS : Option String
  WEBAUTHN_DEVICE_QUALIFICATION_APPROVED : Bool
  WEBAUTHN_DEV_ENROLLMENT_ENABLED : Bool
  WEBAUTHN_PREVIEW_ENROLLMENT_ENABLED : Bool
  NODE_ENV : Option String
  VERCEL_ENV : Option String
  /-- `isLocalCashierTestSessionEnabledFromConfig`. -/
  localCashierTestSessionEnabled : Bool
  version_pos : 0 < POS_DEVICE_TOKEN_HMAC_KEY_VERSION
  idle_pos : 0 < SESSION_IDLE_CASHIER_MINUTES ∧ 0 < SESSION_IDLE_SUPERVISOR_MINUTES ∧
    0 < SESSION_IDLE_ADMIN_MINUTES
  deviceUuid : Nat → String
  /-- The user with a Supabase id. -/
  userOfSupabase : String → Option String
  hmacSha256 : Bytes → String → Bytes
  /-- `Buffer.from(text, 'base64url')`. -/
  fromBase64url : String → Bytes
  /-- `Number(text)`, where it is an integer. -/
  Number : String → Option Int
  URL : String → Option ParsedUrl
  encryptDeviceAttestationSecret : String → String → String → String
  decryptDeviceAttestationSecret : String → String → Option String
  verifyRegistrationResponse : Json → (String → Bool) → WebAuthnConfig → Option RegistrationInfo
  /-- The `keyProtection` of an authenticator's metadata statement. -/
  keyProtection : String → Option (List String)
  verifyAuthenticationResponse : Json → (String → Bool) → WebAuthnConfig →
    DeviceWebAuthnCredential → Option AuthenticationInfo

/-- What a statement meets: the clock, fresh random texts, branches and tenants as they are,
and the answers of the sign-in service. -/
structure AuthSurroundings where
  now : Int
  /-- `randomBytes(32)` in base64url. -/
  randomToken : String
  /-- `randomBytes(12)`. -/
  iv : String
  challenge : String
  sessionToken : String
  csrfToken : String
  branches : String → Option Branch
  tenants : String → Option TenantStatus
  signInWithPassword : String → String → Option String

abbrev AuthHandling (α : Type) := Process AuthSurroundings AuthStore Fault α

abbrev AuthTx (α : Type) := Txn AuthStore Fault α

/-! ### Statements -/

/-- A read of its own. -/
def readAuth {α : Type} (f : AuthSurroundings → AuthStore → α) : AuthHandling α :=
  Process.statement fun env s => (f env s, s)

def uniqueConstraintFailed : Fault := .http 500 "SYSTEM_ERROR" "Unique constraint failed"

def internalError (message : String) : Fault := .http 500 "SYSTEM_ERROR" message

def unauthorized (message : String) : Fault := .http 401 "AUTH_REQUIRED" message

def hashSecret (value : String) : Digest := sha256 value

/-- `text.split(separator)`. -/
def splitText (separator : Char) (text : String) : List String :=
  (text.toList.splitOn separator).map String.ofList

/-- `!value` of a text that may be absent. -/
def blank (value : Option String) : Bool := value.getD "" = ""

namespace AuthStore

variable (s : AuthStore)

/-- The change of the rows that meet a condition. -/
def updateTokenCredentials (p : DeviceTokenCredential → Bool)
    (f : DeviceTokenCredential → DeviceTokenCredential) : AuthStore :=
  { s with deviceTokenCredentials := s.deviceTokenCredentials.map fun c => if p c then f c else c }

def revokeTokenCredentials (tenantId : String) (deviceId : Nat) (revokedAt : Int) : AuthStore :=
  s.updateTokenCredentials
    (fun c => c.tenantId = tenantId && c.deviceId = deviceId && c.status = .ACTIVE)
    fun c => { c with status := .REVOKED, revokedAt := some revokedAt }

def updateSessions (p : Session → Bool) (f : Session → Session) : AuthStore :=
  { s with sessions := s.sessions.map fun x => if p x then f x else x }

def revokeDeviceSessions (deviceId : Nat) (revokedAt : Int) : AuthStore :=
  s.updateSessions (fun x => x.deviceId = some deviceId && x.status = .ACTIVE)
    fun x => { x with status := .REVOKED, revokedAt := some revokedAt }

def setDevice (deviceId : Nat) (d : DeviceRow) : AuthStore :=
  { s with devices := s.devices.set deviceId d }

def revoke (r : Revocation) : AuthStore := { s with revocations := s.revocations ++ [r] }

/-- How many commits revoked something. -/
abbrev seen : Nat := s.revocations.length

end AuthStore

/-! ### Idempotency records -/

/-- `normalizeDeviceIdempotencyKey` and `normalizeUserIdempotencyKey`. -/
def normalizeAuthIdempotencyKey (value : Option String) : Except Fault String :=
  let normalized := trim (value.getD "")
  if normalized = "" then .error (badRequest "Idempotency-Key header is required")
  else if 255 < utf16Length normalized then
    .error (badRequest "Idempotency-Key header is too long")
  else .ok normalized

def createAuthRecord (key : AuthRequestKey) (requestHash : Digest) (now : Int) : AuthTx Unit := do
  let s ← Txn.get
  Txn.rejectIf (s.records key).isSome (.unique .idempotencyKey)
  Txn.update fun s =>
    { s with
      records := Function.update s.records key
        (some ⟨requestHash, none, .PENDING, now + 24 * 60 * 60 * 1000⟩) }

def completeAuthRecord (key : AuthRequestKey) (response : StoredResponse) : AuthTx Unit := do
  let s ← Txn.get
  let r ← Txn.orFault (s.records key) .missing
  Txn.update fun s =>
    { s with
      records := Function.update s.records key
        (some { r with responseJson := some response, status := .COMPLETED }) }

def idempotencyPending : Fault :=
  .http 409 "CONFLICT" "Idempotency key is still being processed"

/-- What a record found makes of a request. -/
def checkAuthRecord (existing : Option (IdempotencyRecord StoredResponse)) (requestHash : Digest) :
    Except Fault (Option StoredResponse) :=
  match existing with
  | none => .ok none
  | some r =>
      if r.requestHash = requestHash then
        match r.responseJson with
        | some response => .ok (some response)
        | none => .error idempotencyPending
      else .error idempotencyConflict

end ShopcityLoyalty
