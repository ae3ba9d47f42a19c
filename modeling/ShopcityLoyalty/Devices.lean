import ShopcityLoyalty.AuthSchema

/-!
Device administration: the operations of `BranchesService` on devices and their credentials,
as processes that interleave.

A read that no lock protects is a statement of its own. What a transaction reads under its
row locks and what it writes are one statement, at its commit: others cannot change the
rows in between.
-/

namespace ShopcityLoyalty

open Txn

/-! ### Device tokens -/

def isBase64urlChar (c : Char) : Bool := c.isAlphanum || c = '-' || c = '_'

/-- A text of forty-three characters that decodes to thirty-two bytes and encodes back to
itself: the last character has no bit beyond them. -/
def isBase64urlOf32 (s : String) : Bool :=
  s.length = 43 && s.toList.all isBase64urlChar &&
    "AEIMQUYcgkosw048".toList.elem (s.toList.getLastD ' ')

/-- `hashDeviceToken` under the configured key. -/
def hashDeviceToken (rt : AuthRuntime) (token : String) : Option Bytes :=
  match rt.POS_DEVICE_TOKEN_HMAC_KEY with
  | none => none
  | some key =>
      if isBase64urlOf32 key && isBase64urlOf32 token then
        some (rt.hmacSha256 (rt.fromBase64url key) token)
      else none

def matchesDeviceTokenHash (rt : AuthRuntime) (token : String) (expectedHash : Bytes) : Bool :=
  match hashDeviceToken rt token with
  | none => false
  | some actual => actual.length = 32 && expectedHash.length = 32 && actual = expectedHash

def configuredDeviceTokenKeyVersion (rt : AuthRuntime) : Int := rt.POS_DEVICE_TOKEN_HMAC_KEY_VERSION

/-! ### WebAuthn configuration -/

/-- The trimmed, lower-case `WEBAUTHN_RP_ID`. -/
def configuredWebAuthnRpId (rt : AuthRuntime) : Option String :=
  rt.WEBAUTHN_RP_ID.map fun rpId => (trim rpId).toLower

def configuredOrigins (rt : AuthRuntime) : List String :=
  match rt.WEBAUTHN_ALLOWED_ORIGINS with
  | none => []
  | some rawOrigins => ((splitText ',' rawOrigins).map trim).filter (· ≠ "")

def isAllowedWebAuthnOrigin (rt : AuthRuntime) (origin rpId : String) : Bool :=
  match rt.URL origin with
  | none => false
  | some parsed =>
      let isLocal := parsed.hostname = "localhost" || parsed.hostname = "127.0.0.1"
      let rpHostMatch := parsed.hostname = rpId || parsed.hostname.endsWith ("." ++ rpId)
      parsed.origin = origin &&
        (parsed.protocol = "https:" ||
          (isLocal && parsed.protocol = "http:" && rpId = parsed.hostname)) &&
        rpHostMatch && parsed.username = "" && parsed.password = ""

namespace BranchesService

def deviceNotAvailable : Fault := .http 404 "DEVICE_NOT_AVAILABLE" "Device not available"

def deviceEnrollmentInvalid : Fault :=
  .http 400 "DEVICE_ENROLLMENT_INVALID" "Device enrollment could not be completed"

def notFound (message : String) : Fault := .http 404 "NOT_FOUND" message

def validationError (message : String) : Fault := .http 400 "VALIDATION_ERROR" message

def requiredWebAuthnConfig (rt : AuthRuntime) : Except Fault WebAuthnConfig :=
  let rpId := (configuredWebAuthnRpId rt).getD ""
  let origins := configuredOrigins rt
  if rpId = "" || origins.isEmpty || origins.any fun o => !isAllowedWebAuthnOrigin rt o rpId then
    .error deviceEnrollmentInvalid
  else .ok ⟨rpId, origins⟩

def assertWebAuthnEnabled (rt : AuthRuntime) : Except Fault WebAuthnConfig :=
  let localDevelopmentEnabled :=
    rt.NODE_ENV = some "development" && rt.WEBAUTHN_DEV_ENROLLMENT_ENABLED
  let previewEnrollmentEnabled :=
    rt.VERCEL_ENV = some "preview" && rt.WEBAUTHN_PREVIEW_ENROLLMENT_ENABLED
  if !rt.WEBAUTHN_DEVICE_QUALIFICATION_APPROVED && !localDevelopmentEnabled &&
      !previewEnrollmentEnabled then .error deviceEnrollmentInvalid
  else requiredWebAuthnConfig rt

/-! ### Scopes -/

/-- The branch whose devices the actor administers; none stands for the whole tenant. -/
def resolveDeviceManagementScope (actor : AuthContext) : Except Fault (Option String) :=
  if actor.role = .ADMIN then .ok none
  else if actor.role ≠ .SUPERVISOR || blank actor.branchId then
    .error (.http 403 "FORBIDDEN" "Device administration is branch-scoped")
  else .ok actor.branchId

/-- The device in the actor's scope. -/
def findDevice (s : AuthStore) (tenantId : String) (scope : Option String) (deviceId : Nat) :
    Option DeviceRow :=
  s.devices[deviceId]?.filter fun d => d.tenantId = tenantId && scope.all fun b => d.branchId = b

/-- The device is active, and so are its branch and its tenant. -/
def operational (env : AuthSurroundings) (d : DeviceRow) : Bool :=
  d.status = .ACTIVE && (env.branches d.branchId).any (fun b => b.status = .ACTIVE) &&
    env.tenants d.tenantId = some .ACTIVE

def actorMayManageDevice (actor : AuthUser) (deviceBranchId : String) : Bool :=
  actor.status = .ACTIVE && (actor.role = .ADMIN ||
    (actor.role = .SUPERVISOR && actor.branchId = some deviceBranchId))

/-! ### Idempotency records -/

def hashDeviceRequest (fields : List (String × Json)) : Digest :=
  sha256 (Json.stringify (.object fields))

/-- The record under a key, after expired ones were deleted. -/
def findDeviceIdempotency (key : AuthRequestKey) (requestHash : Digest) :
    AuthHandling (Option StoredResponse) := do
  let existing ← Process.statement fun env s =>
    let kept := (s.records key).filter fun r => ¬ r.expiresAt < env.now
    (kept, { s with records := Function.update s.records key kept })
  Process.ofExcept (checkAuthRecord existing requestHash)

/-! ### Pairing and resetting device tokens -/

/-- Modes that a device token can be paired in. -/
def pairable (d : DeviceRow) : Bool :=
  d.authBindingMode = .UNPAIRED || d.authBindingMode = .DEVICE_TOKEN

/-- The insert of a credential, under the unique indexes on token hashes and on the active
credential of a device. -/
def createTokenCredential (credential : DeviceTokenCredential) : AuthTx Unit := do
  let s ← get
  rejectIf (∃ c ∈ s.deviceTokenCredentials, c.tokenHash = credential.tokenHash)
    uniqueConstraintFailed
  rejectIf (credential.status = .ACTIVE ∧ ∃ c ∈ s.deviceTokenCredentials,
    c.deviceId = credential.deviceId ∧ c.status = .ACTIVE) uniqueConstraintFailed
  update fun s => { s with deviceTokenCredentials := s.deviceTokenCredentials ++ [credential] }

def pairTransaction (rt : AuthRuntime) (env : AuthSurroundings) (tenantId : String)
    (scope : Option String) (deviceId : Nat) (tokenHash : Bytes) (pairedAt : Int) :
    AuthTx Unit := do
  let s ← get
  let current ← orFault ((findDevice s tenantId scope deviceId).filter fun d =>
    operational env d && pairable d) deviceNotAvailable
  update fun s => s.revokeTokenCredentials tenantId deviceId pairedAt
  update fun s => s.revokeDeviceSessions deviceId pairedAt
  update fun s => s.setDevice deviceId
    { current with authBindingMode := .DEVICE_TOKEN, pairedAt := some pairedAt }
  createTokenCredential
    { tenantId := tenantId, deviceId := deviceId, tokenHash := tokenHash,
      keyVersion := configuredDeviceTokenKeyVersion rt, status := .ACTIVE, pairedAt := pairedAt,
      revokedAt := none, lastUsedAt := none, keyVersion_pos := rt.version_pos }
  update fun s => s.revoke (.device deviceId)

def pairDeviceToken (rt : AuthRuntime) (tenantId : String) (actor : AuthContext)
    (deviceId : Nat) : AuthHandling (String × Int) := do
  let token ← readAuth fun env _ => env.randomToken
  match hashDeviceToken rt token with
  | none => Process.fail (internalError "POS_DEVICE_TOKEN_HMAC_KEY is missing or invalid")
  | some tokenHash =>
      let scope ← Process.ofExcept (resolveDeviceManagementScope actor)
      let available ← readAuth fun env s =>
        (findDevice s tenantId scope deviceId).any fun d => operational env d && pairable d
      if !available then Process.fail deviceNotAvailable else
      let pairedAt ← readAuth fun env _ => env.now
      Process.transaction fun env => do
        pairTransaction rt env tenantId scope deviceId tokenHash pairedAt
        pure (token, pairedAt)

/-- The presented token is the one of the device's active credential. -/
def presentsActiveToken (rt : AuthRuntime) (s : AuthStore) (tenantId : String) (deviceId : Nat)
    (presentedToken : Option String) : Bool :=
  match presentedToken with
  | none => false
  | some token =>
      if token = "" then false else
      match s.deviceTokenCredentials.find? fun c =>
          c.tenantId = tenantId && c.deviceId = deviceId && c.status = .ACTIVE with
      | none => false
      | some c => c.keyVersion = configuredDeviceTokenKeyVersion rt &&
          matchesDeviceTokenHash rt token c.tokenHash

def resetTransaction (rt : AuthRuntime) (env : AuthSurroundings) (tenantId : String)
    (scope : Option String) (deviceId : Nat) (presentedToken : Option String) (now : Int) :
    AuthTx Bool := do
  let s ← get
  let current ← orFault ((findDevice s tenantId scope deviceId).filter fun d =>
    d.authBindingMode = .DEVICE_TOKEN && operational env d) deviceNotAvailable
  let clearDeviceTokenCookie := presentsActiveToken rt s tenantId deviceId presentedToken
  update fun s =>
    s.setDevice deviceId { current with authBindingMode := .UNPAIRED, pairedAt := none }
  update fun s => s.revokeTokenCredentials tenantId deviceId now
  update fun s => s.revokeDeviceSessions deviceId now
  update fun s => s.revoke (.device deviceId)
  pure clearDeviceTokenCookie

def resetDeviceToken (rt : AuthRuntime) (tenantId : String) (actor : AuthContext)
    (deviceId : Nat) (presentedToken : Option String) : AuthHandling Bool := do
  let scope ← Process.ofExcept (resolveDeviceManagementScope actor)
  let available ← readAuth fun env s =>
    (findDevice s tenantId scope deviceId).any fun d =>
      d.authBindingMode = .DEVICE_TOKEN && operational env d
  if !available then Process.fail deviceNotAvailable else
  let now ← readAuth fun env _ => env.now
  Process.transaction fun env =>
    resetTransaction rt env tenantId scope deviceId presentedToken now

/-! ### Creating devices -/

def safeDevice (id : Nat) (d : DeviceRow) : SafeDevice where
  id := id
  tenantId := d.tenantId
  branchId := d.branchId
  name := d.name
  status := d.status
  authBindingMode := d.authBindingMode
  pairedAt := d.pairedAt
  attestationSecretVersion := d.attestationSecretVersion
  attestationSecretRotatedAt := d.attestationSecretRotatedAt

/-- A device with the secret and the hint that only its own answer carries. -/
structure DeviceProvisioningResponse where
  device : StoredResponse
  attestationSecret : Option String
  clearDeviceTokenCookie : Bool
  deriving DecidableEq

def unpairedDevice (tenantId branchId name : String) : DeviceRow where
  tenantId := tenantId
  branchId := branchId
  name := name
  status := .ACTIVE
  authBindingMode := .UNPAIRED
  pairedAt := none
  attestationSecretCiphertext := none
  attestationSecretVersion := 0
  attestationSecretRotatedAt := none

def createDeviceTransaction (tenantId branchId name : String) (key : AuthRequestKey)
    (requestHash : Digest) (now : Int) : AuthTx DeviceProvisioningResponse := do
  createAuthRecord key requestHash now
  let s ← get
  let device := unpairedDevice tenantId branchId name
  update fun s => { s with devices := s.devices ++ [device] }
  let response : StoredResponse := .device (safeDevice s.devices.nextId device)
  completeAuthRecord key response
  pure ⟨response, none, false⟩

def createDevice (tenantId : String) (actor : AuthContext) (branchId name : String)
    (idempotencyKey : Option String) : AuthHandling DeviceProvisioningResponse := do
  let normalizedKey ← Process.ofExcept (normalizeAuthIdempotencyKey idempotencyKey)
  let requestHash := hashDeviceRequest [("tenantId", .string tenantId),
    ("actorId", .string actor.id), ("branchId", .string branchId), ("name", .string name)]
  let key : AuthRequestKey := ⟨tenantId, actor.id, .devicesCreate, normalizedKey⟩
  let existing ← findDeviceIdempotency key requestHash
  match existing with
  | some response => Process.done ⟨response, none, false⟩
  | none =>
      let scope ← Process.ofExcept (resolveDeviceManagementScope actor)
      if !(scope.all fun b => b = branchId) then Process.fail (notFound "Branch not found") else
      let branch ← readAuth fun env _ => (env.branches branchId).any fun b => b.tenantId = tenantId
      if !branch then Process.fail (notFound "Branch not found") else
      Process.transaction fun env =>
        createDeviceTransaction tenantId branchId name key requestHash env.now

/-! ### Enrolling WebAuthn credentials -/

structure DeviceEnrollment where
  authorizationToken : String
  expiresAt : Int
  challenge : String
  deriving DecidableEq

/-- The insert of a challenge, under the unique indexes on its two hashes. -/
def createEnrollmentChallenge (challenge : DeviceEnrollmentChallenge) : AuthTx Unit := do
  let s ← get
  rejectIf (∃ c ∈ s.deviceEnrollmentChallenges,
    c.authorizationTokenHash = challenge.authorizationTokenHash ∨
      c.challengeHash = challenge.challengeHash) uniqueConstraintFailed
  update fun s =>
    { s with deviceEnrollmentChallenges := s.deviceEnrollmentChallenges ++ [challenge] }

def createDeviceEnrollment (rt : AuthRuntime) (tenantId : String) (actor : AuthContext)
    (deviceId : Nat) : AuthHandling DeviceEnrollment := do
  let _ ← Process.ofExcept (assertWebAuthnEnabled rt)
  let scope ← Process.ofExcept (resolveDeviceManagementScope actor)
  let device ← readAuth fun env s => (findDevice s tenantId scope deviceId).filter fun d =>
    operational env d && d.authBindingMode ≠ .DEVICE_TOKEN
  match device with
  | none => Process.fail deviceNotAvailable
  | some device =>
      let env ← readAuth fun env _ => env
      let expiresAt := env.now + 5 * 60 * 1000
      Process.transaction fun _ => do
        createEnrollmentChallenge
          { tenantId := tenantId, branchId := device.branchId, deviceId := deviceId,
            actorUserId := actor.id, authorizationTokenHash := hashSecret env.randomToken,
            challengeHash := hashSecret env.challenge,
            purpose := if device.authBindingMode = .WEBAUTHN then .REPAIR else .PAIRING,
            expiresAt := expiresAt, consumedAt := none }
        pure ⟨env.randomToken, expiresAt, env.challenge⟩

/-- A hardware-protected platform credential that cannot leave its device. -/
def acceptableRegistration (rt : AuthRuntime) (response : RegistrationResponse)
    (info : RegistrationInfo) : Bool :=
  response.authenticatorAttachment = some "platform" && info.fmt ≠ "none" && info.userVerified &&
    info.credentialDeviceType = "singleDevice" && !info.credentialBackedUp &&
    (rt.keyProtection info.aaguid).any fun protections =>
      protections.any fun p => ["hardware", "tee", "secure_element"].elem p

/-- What the transaction reads of the device without a lock. -/
def enrollable (env : AuthSurroundings) (s : AuthStore) (challenge : DeviceEnrollmentChallenge) :
    Option DeviceRow :=
  (s.devices[challenge.deviceId]?.filter fun d =>
      d.tenantId = challenge.tenantId && d.branchId = challenge.branchId).filter fun d =>
    operational env d &&
      ((s.users challenge.actorUserId).filter fun u => u.tenantId = challenge.tenantId).any
        (fun u => actorMayManageDevice u d.branchId) &&
      match challenge.purpose with
      | .PAIRING => d.authBindingMode ≠ .WEBAUTHN && d.authBindingMode ≠ .DEVICE_TOKEN
      | .REPAIR => d.authBindingMode = .WEBAUTHN

def enrolledDevice (now : Int) (d : DeviceRow) : DeviceRow :=
  { d with
    authBindingMode := .WEBAUTHN, pairedAt := some now, attestationSecretCiphertext := none,
    attestationSecretVersion := 0, attestationSecretRotatedAt := none }

def enrolledCredential (config : WebAuthnConfig) (response : RegistrationResponse)
    (info : RegistrationInfo) (tenantId : String) (deviceId : Nat) (now : Int) :
    DeviceWebAuthnCredential where
  tenantId := tenantId
  deviceId := deviceId
  credentialId := info.credentialId
  publicKey := info.publicKey
  aaguid := info.aaguid
  signCount := info.counter
  authenticatorAttachment := response.authenticatorAttachment
  transports := response.transports
  backupEligible := false
  backedUp := false
  attestationFormat := info.fmt
  attestationTrustResult := .TRUSTED
  rpId := config.rpId
  status := .ACTIVE
  pairedAt := some now
  revokedAt := none

/-- The active credentials of a device are superseded, and a new one takes their place. -/
def replaceCredentials (deviceId : Nat) (credential : DeviceWebAuthnCredential)
    (s : AuthStore) : AuthStore :=
  { s with
    deviceWebAuthnCredentials := (s.deviceWebAuthnCredentials.map fun c =>
      if c.deviceId = deviceId ∧ c.status = .ACTIVE then { c with status := .SUPERSEDED } else c) ++
      [credential] }

def enrollTransaction (config : WebAuthnConfig) (response : RegistrationResponse)
    (info : RegistrationInfo) (challengeId : Nat) (found : DeviceRow) (now : Int) :
    AuthTx Unit := do
  let s ← get
  let challenge ← orFault (s.deviceEnrollmentChallenges[challengeId]?.filter fun c =>
    c.consumedAt.isNone && now < c.expiresAt) deviceEnrollmentInvalid
  update fun s =>
    { s with
      deviceEnrollmentChallenges := s.deviceEnrollmentChallenges.set challengeId
        { challenge with consumedAt := some now } }
  -- `device.updateMany` of the row as it was read
  let device ← orFault (s.devices[challenge.deviceId]?.filter fun d =>
    d.tenantId = found.tenantId && d.branchId = found.branchId && d.status = .ACTIVE &&
      d.authBindingMode = found.authBindingMode && d.pairedAt = found.pairedAt)
    deviceEnrollmentInvalid
  update fun s => s.setDevice challenge.deviceId (enrolledDevice now device)
  rejectIf (∃ c ∈ s.deviceWebAuthnCredentials, c.credentialId = info.credentialId)
    uniqueConstraintFailed
  update (replaceCredentials challenge.deviceId
    (enrolledCredential config response info device.tenantId challenge.deviceId now))
  update fun s => s.revokeDeviceSessions challenge.deviceId now

def completeDeviceEnrollment (rt : AuthRuntime) (deviceId : Nat)
    (authorizationToken : Option String)
    (response : RegistrationResponse) : AuthHandling Unit :=
  Process.catching (do
    let config ← Process.ofExcept (assertWebAuthnEnabled rt)
    let token := authorizationToken.getD ""
    if utf16Length token < 40 then Process.fail deviceEnrollmentInvalid else
    let challenge ← readAuth fun env s => s.deviceEnrollmentChallenges.find fun c =>
      c.deviceId = deviceId && c.authorizationTokenHash = hashSecret token &&
        c.consumedAt.isNone && env.now < c.expiresAt
    match challenge with
    | none => Process.fail deviceEnrollmentInvalid
    | some (challengeId, challenge) =>
        match rt.verifyRegistrationResponse response.response
            (fun candidate => hashSecret candidate = challenge.challengeHash) config with
        | none => Process.fail deviceEnrollmentInvalid
        | some info =>
            if !acceptableRegistration rt response info
              then Process.fail deviceEnrollmentInvalid else
            let now ← readAuth fun env _ => env.now
            let found ← readAuth fun env s => enrollable env s challenge
            match found with
            | none => Process.fail deviceEnrollmentInvalid
            | some found =>
                Process.transaction fun _ =>
                  enrollTransaction config response info challengeId found now)
    fun _ => Process.fail deviceEnrollmentInvalid

def revokeCredentialTransaction (tenantId : String) (scope : Option String)
    (deviceId credentialId : Nat)
    (now : Int) : AuthTx Unit := do
  let s ← get
  let _ ← orFault (findDevice s tenantId scope deviceId) deviceNotAvailable
  let credential ← orFault (s.deviceWebAuthnCredentials[credentialId]?.filter fun c =>
    c.deviceId = deviceId && c.tenantId = tenantId && c.status = .ACTIVE) deviceNotAvailable
  update fun s =>
    { s with
      deviceWebAuthnCredentials := s.deviceWebAuthnCredentials.set credentialId
        { credential with status := .REVOKED, revokedAt := some now } }
  update fun s => s.updateSessions
    (fun x => x.deviceId = some deviceId && x.deviceCredentialId = some credentialId &&
      x.status = .ACTIVE)
    fun x => { x with status := .REVOKED, revokedAt := some now }
  update fun s => s.revoke (.credential credentialId)

def revokeDeviceCredential (tenantId : String) (actor : AuthContext)
    (deviceId credentialId : Nat) : AuthHandling Unit := do
  let scope ← Process.ofExcept (resolveDeviceManagementScope actor)
  let device ← readAuth fun _ s => findDevice s tenantId scope deviceId
  match device with
  | none => Process.fail deviceNotAvailable
  | some _ =>
      Process.transaction fun env =>
        revokeCredentialTransaction tenantId scope deviceId credentialId env.now

/-! ### Updating devices -/

structure DeviceUpdate where
  name : Option String
  status : Option DeviceStatus
  rotateAttestationSecret : Option Bool
  deriving DecidableEq

def DeviceUpdate.rotates (data : DeviceUpdate) : Bool := data.rotateAttestationSecret = some true

def deviceStatusText : DeviceStatus → String
  | .ACTIVE => "ACTIVE"
  | .INACTIVE => "INACTIVE"

def hasActiveAttestationSecret (d : DeviceRow) : Bool :=
  !blank d.attestationSecretCiphertext && 0 < d.attestationSecretVersion &&
    d.attestationSecretRotatedAt.isSome

/-- What an update demands of the device before the transaction, and again in it. -/
def checkUpdate (data : DeviceUpdate) (d : DeviceRow) : Except Fault Unit :=
  if data.rotates && d.authBindingMode ≠ .HMAC_LEGACY then
    .error (badRequest "Legacy attestation rotation is only available for HMAC devices")
  else if data.status = some .ACTIVE && !data.rotates &&
      d.authBindingMode = .HMAC_LEGACY && !hasActiveAttestationSecret d then
    .error (validationError "Device attestation secret metadata is required before activation")
  else .ok ()

/-- The status of a device under a token changes. -/
def deviceTokenModeTransition (data : DeviceUpdate) (d : DeviceRow) : Bool :=
  d.authBindingMode = .DEVICE_TOKEN && data.status.any fun st => st ≠ d.status

def updatedDevice (rt : AuthRuntime) (env : AuthSurroundings) (data : DeviceUpdate)
    (d : DeviceRow) : DeviceRow :=
  let named := { d with
    name := if blank data.name then d.name else data.name.getD d.name
    status := data.status.getD d.status }
  let unbound :=
    if deviceTokenModeTransition data d then
      { named with authBindingMode := .UNPAIRED, pairedAt := none }
    else named
  if data.rotates then
    { unbound with
      attestationSecretCiphertext :=
        some (rt.encryptDeviceAttestationSecret env.randomToken rt.DEVICE_ATTESTATION_KEK env.iv)
      attestationSecretVersion := d.attestationSecretVersion + 1
      attestationSecretRotatedAt := some env.now }
  else unbound

/-- The status is set to another one than `ACTIVE`. -/
def deactivates (data : DeviceUpdate) : Bool := data.status.any fun st => st ≠ .ACTIVE

def shouldRevokeSessions (data : DeviceUpdate) (d : DeviceRow) : Bool :=
  data.rotates || deactivates data || deviceTokenModeTransition data d

/-- `Device_active_attestation_secret_check`. -/
def attestationSecretCheck (d : DeviceRow) : Bool :=
  d.authBindingMode ≠ .HMAC_LEGACY || d.status ≠ .ACTIVE ||
    (d.attestationSecretCiphertext.isSome && 0 < d.attestationSecretVersion &&
      d.attestationSecretRotatedAt.isSome)

def updateTransaction (rt : AuthRuntime) (env : AuthSurroundings) (tenantId : String)
    (scope : Option String) (deviceId : Nat) (data : DeviceUpdate) (device : DeviceRow)
    (key : AuthRequestKey) (requestHash : Digest) (presentedToken : Option String) :
    AuthTx DeviceProvisioningResponse := do
  let s ← get
  let current ← orFault (findDevice s tenantId scope deviceId) (notFound "Device not found")
  rejectIf ((data.rotates ∨ data.status.isSome) ∧
    (current.status ≠ device.status ∨ current.authBindingMode ≠ device.authBindingMode ∨
      current.pairedAt ≠ device.pairedAt)) deviceNotAvailable
  match checkUpdate data current with
  | .error fault => Txn.fault fault
  | .ok () =>
      createAuthRecord key requestHash env.now
      rejectIf (data.status = some .ACTIVE ∧ ¬ data.rotates ∧
        current.authBindingMode = .WEBAUTHN ∧ ¬ ∃ c ∈ s.deviceWebAuthnCredentials,
          c.tenantId = tenantId ∧ c.deviceId = deviceId ∧ c.status = .ACTIVE)
        (validationError "An active WebAuthn credential is required before activation")
      let clearDeviceTokenCookie := deviceTokenModeTransition data current &&
        presentsActiveToken rt s tenantId deviceId presentedToken
      let updated := updatedDevice rt env data current
      rejectIf (attestationSecretCheck updated = false)
        (.check "Device_active_attestation_secret_check")
      update fun s => s.setDevice deviceId updated
      onlyIf (deviceTokenModeTransition data current ∨ deactivates data)
        (update fun s => s.revokeTokenCredentials tenantId deviceId env.now)
      onlyIf (shouldRevokeSessions data current) do
        update fun s => s.revokeDeviceSessions deviceId env.now
        update fun s => s.revoke (.device deviceId)
      pure ⟨.device (safeDevice deviceId updated),
        if data.rotates then some env.randomToken else none,
        clearDeviceTokenCookie⟩

def updateDevice (rt : AuthRuntime) (tenantId : String) (actor : AuthContext) (deviceId : Nat)
    (data : DeviceUpdate) (idempotencyKey presentedToken : Option String) :
    AuthHandling DeviceProvisioningResponse := do
  let normalizedKey ← Process.ofExcept (normalizeAuthIdempotencyKey idempotencyKey)
  let requestHash := hashDeviceRequest [("tenantId", .string tenantId),
    ("actorId", .string actor.id), ("deviceId", .string (rt.deviceUuid deviceId)),
    ("name", data.name.elim .undefined .string),
    ("status", data.status.elim .undefined fun st => .string (deviceStatusText st)),
    ("rotateAttestationSecret", data.rotateAttestationSecret.elim .undefined .bool)]
  let key : AuthRequestKey := ⟨tenantId, actor.id, .devicesUpdate, normalizedKey⟩
  let existing ← findDeviceIdempotency key requestHash
  match existing with
  | some response => Process.done ⟨response, none, false⟩
  | none =>
      let scope ← Process.ofExcept (resolveDeviceManagementScope actor)
      let device ← readAuth fun _ s => findDevice s tenantId scope deviceId
      match device with
      | none => Process.fail (notFound "Device not found")
      | some device =>
          let _ ← Process.ofExcept (checkUpdate data device)
          let response ← Process.transaction fun env =>
            updateTransaction rt env tenantId scope deviceId data device key requestHash
              presentedToken
          -- the secret and the hint are not stored
          let _ ← Process.transaction fun _ => completeAuthRecord key response.device
          Process.done response

end BranchesService

end ShopcityLoyalty
