import ShopcityLoyalty.Devices

/-!
Signing in: `AuthService.login`, `completeCashierLogin`, `refresh` and `logout`, the session
guard's `loadAuthContext`, and the changes of users by `UsersService`, as processes that
interleave with device administration.

Users are read without a lock, and a change of a user revokes the sessions that its sweep
has seen; both are statements of their own, before the commit.
-/

namespace ShopcityLoyalty

open Txn

/-! ### Who may have a session -/

def isAuthUserEligible (env : AuthSurroundings) (user : AuthUser) : Bool :=
  user.status = .ACTIVE && env.tenants user.tenantId = some .ACTIVE &&
    (blank user.branchId ||
      user.branchId.any fun b => (env.branches b).any fun branch => branch.status = .ACTIVE)

/-- The device of a session. -/
def AuthStore.sessionDevice (s : AuthStore) (session : Session) : Option DeviceRow :=
  session.deviceId.bind fun d => s.devices[d]?

/-- The credential of a session, which is one of its device. -/
def AuthStore.sessionCredential (s : AuthStore) (session : Session) :
    Option DeviceWebAuthnCredential :=
  (session.deviceCredentialId.bind fun c => s.deviceWebAuthnCredentials[c]?).filter fun c =>
    session.deviceId = some c.deviceId

/-- A trusted platform credential that does not leave its device, for the expected site. -/
def trustedCredential (expectedRpId : String) (c : DeviceWebAuthnCredential) : Bool :=
  c.attestationTrustResult = .TRUSTED && c.authenticatorAttachment = some "platform" &&
    !c.backupEligible && !c.backedUp && c.rpId = expectedRpId

def branchActive (env : AuthSurroundings) (branchId : String) : Bool :=
  (env.branches branchId).any fun b => b.status = .ACTIVE

def isSessionDeviceEligible (env : AuthSurroundings) (s : AuthStore) (session : Session)
    (user : AuthUser) (expectedRpId : Option String) (allowLocalCashierTestSession : Bool) : Bool :=
  let isCashier := user.role = .CASHIER
  let isSmokeSession := session.purpose = .SMOKE
  if session.deviceId.isNone then !isCashier && session.deviceCredentialId.isNone
  else if isCashier && session.purpose ≠ .USER && !isSmokeSession then false
  else match s.sessionDevice session with
    | none => false
    | some device =>
        if device.tenantId ≠ user.tenantId || device.status ≠ .ACTIVE ||
            !branchActive env device.branchId then false
        else if !blank user.branchId && user.branchId ≠ some device.branchId then false
        else if isCashier && isSmokeSession && allowLocalCashierTestSession &&
            device.authBindingMode = .UNPAIRED && session.deviceCredentialId.isNone then true
        else if device.authBindingMode = .WEBAUTHN then
          isCashier && (s.sessionCredential session).any fun credential =>
            credential.tenantId = user.tenantId && credential.status = .ACTIVE &&
              !blank expectedRpId && trustedCredential (expectedRpId.getD "") credential
        else if session.deviceCredentialId.isSome then false
        else if isCashier then
          (session.purpose = .USER || isSmokeSession) &&
            (device.authBindingMode = .HMAC_LEGACY || device.authBindingMode = .DEVICE_TOKEN)
        else true

def idleMinutes (rt : AuthRuntime) : UserRole → Int
  | .CASHIER => rt.SESSION_IDLE_CASHIER_MINUTES
  | .SUPERVISOR => rt.SESSION_IDLE_SUPERVISOR_MINUTES
  | _ => rt.SESSION_IDLE_ADMIN_MINUTES

def isSessionIdleExpired (rt : AuthRuntime) (session : Session) (user : AuthUser) (now : Int) :
    Bool :=
  match session.lastUsedAt with
  | none => false
  | some lastUsedAt => lastUsedAt ≤ now - idleMinutes rt user.role * 60 * 1000

def hashToken (token secret : String) : Digest := sha256 (secret ++ ":" ++ token)

/-- The one active credential of a device under a token is the presented one. -/
def presentsDeviceToken (rt : AuthRuntime) (s : AuthStore) (deviceId : Nat) (user : AuthUser)
    (deviceToken : Option String) : Bool :=
  match s.deviceTokenCredentials.filter fun c => c.deviceId = deviceId && c.status = .ACTIVE with
  | [c] => user.role = .CASHIER && c.keyVersion = configuredDeviceTokenKeyVersion rt &&
      !blank deviceToken && matchesDeviceTokenHash rt (deviceToken.getD "") c.tokenHash
  | _ => false

/-- A session that `loadAuthContext` accepts of its user, with the presented device cookie. -/
def acceptsSession (rt : AuthRuntime) (env : AuthSurroundings) (s : AuthStore) (session : Session)
    (user : AuthUser) (deviceToken : Option String) : Bool :=
  session.status = .ACTIVE && env.now < session.expiresAt &&
    !isSessionIdleExpired rt session user env.now && isAuthUserEligible env user &&
    isSessionDeviceEligible env s session user (configuredWebAuthnRpId rt)
      rt.localCashierTestSessionEnabled &&
    match session.deviceId with
    | none => true
    | some deviceId =>
        !(s.devices[deviceId]?.any fun d => d.authBindingMode = .DEVICE_TOKEN) ||
          presentsDeviceToken rt s deviceId user deviceToken

/-- The context of a session: a user without a branch works in the branch of the device. -/
def authContext (rt : AuthRuntime) (s : AuthStore) (session : Session) (user : AuthUser) :
    AuthContext where
  id := session.userId
  tenantId := user.tenantId
  branchId := if blank user.branchId then
      ((s.sessionDevice session).map fun d => d.branchId).or user.branchId
    else user.branchId
  role := user.role
  deviceId := session.deviceId.map rt.deviceUuid

/-- `loadAuthContext`, on the session token and the device cookie of a request. -/
def loadAuthContext (rt : AuthRuntime) (env : AuthSurroundings) (s : AuthStore)
    (token deviceToken : Option String) : Option (Nat × AuthContext) :=
  if blank token then none
  else
    match s.sessions.find fun x =>
        x.sessionTokenHash = hashToken (token.getD "") rt.SESSION_SECRET with
    | none => none
    | some (sessionId, session) =>
        match s.users session.userId with
        | none => none
        | some user =>
            if acceptsSession rt env s session user deviceToken then
              some (sessionId, authContext rt s session user)
            else none

namespace AuthService

def MAX_DEVICE_ATTESTATION_SKEW_MS : Int := 5 * 60 * 1000
def DEFAULT_SESSION_LIFETIME_MS : Int := 1000 * 60 * 60 * 12
def SMOKE_SESSION_LIFETIME_MS : Int := 15 * 60 * 1000
def LOCAL_CASHIER_TEST_SESSION_LIFETIME_MS : Int := 60 * 60 * 1000

def deviceAuthFailed : Fault := .http 401 "DEVICE_AUTH_FAILED" "Device authentication failed"

def deviceRevoked : Fault := .http 401 "DEVICE_REVOKED" "Device session is no longer valid"

def invalidCredentials : Fault := unauthorized "Invalid credentials"

/-! ### Issuing sessions -/

structure IssuedSession where
  sessionId : Nat
  session : Session
  user : AuthUser
  sessionToken : String
  csrfToken : String
  deriving DecidableEq

/-- The user that `issueSession` reads, where eligible. -/
def eligibleUser (userId : String) : AuthHandling (Option AuthUser) :=
  readAuth fun env s => (s.users userId).filter (isAuthUserEligible env)

/-- What a session is issued for. -/
structure SessionRequest where
  userId : String
  action : String
  deviceId : Option Nat
  lifetimeMs : Int
  purpose : SessionPurpose
  deviceCredentialId : Option Nat
  evidence : SessionEvidence

def SessionRequest.session (rt : AuthRuntime) (env : AuthSurroundings) (r : SessionRequest) :
    Session where
  userId := r.userId
  deviceId := r.deviceId
  deviceCredentialId := r.deviceCredentialId
  sessionTokenHash := hashToken env.sessionToken rt.SESSION_SECRET
  csrfTokenHash := sha256 (rt.CSRF_SECRET ++ ":" ++ env.csrfToken)
  status := .ACTIVE
  purpose := r.purpose
  expiresAt := env.now + r.lifetimeMs
  revokedAt := none
  lastUsedAt := some env.now
  evidence := r.evidence

/-- `issueSession`, after its read of the user. -/
def issueSession (rt : AuthRuntime) (env : AuthSurroundings) (user : Option AuthUser)
    (r : SessionRequest) : AuthTx IssuedSession := do
  let maxSmokeSessionLifetimeMs :=
    if r.action = "auth.local_cashier_test_session" then LOCAL_CASHIER_TEST_SESSION_LIFETIME_MS
    else SMOKE_SESSION_LIFETIME_MS
  rejectIf (r.lifetimeMs ≤ 0 ∨ (r.purpose = .SMOKE ∧ maxSmokeSessionLifetimeMs < r.lifetimeMs))
    (internalError "Session lifetime exceeds the allowed maximum")
  let user ← orFault user (unauthorized "User is not active")
  let s ← get
  let session := r.session rt env
  rejectIf (∃ x ∈ s.sessions, x.sessionTokenHash = session.sessionTokenHash) uniqueConstraintFailed
  update fun s => { s with sessions := s.sessions ++ [session] }
  pure ⟨s.sessions.nextId, session, user, env.sessionToken, env.csrfToken⟩

def loginRequest (userId : String) (deviceId : Option Nat) (evidence : SessionEvidence) :
    SessionRequest where
  userId := userId
  action := "auth.login"
  deviceId := deviceId
  lifetimeMs := DEFAULT_SESSION_LIFETIME_MS
  purpose := .USER
  deviceCredentialId := none
  evidence := evidence

/-! ### Device attestations -/

structure Attestation where
  timestamp : Int
  nonce : String
  deriving DecidableEq

def attestationInvalid : Fault := badRequest "Device attestation is invalid"

def assertDeviceAttestationValid (rt : AuthRuntime) (now : Int) (deviceId : Nat)
    (attestation fingerprintHash : String) : Except Fault Attestation :=
  match splitText '.' attestation with
  | [timestampRaw, nonce, signature] =>
      match rt.Number timestampRaw with
      | none => .error attestationInvalid
      | some timestamp =>
          if nonce = "" ∨ signature = "" then .error attestationInvalid
          else if MAX_DEVICE_ATTESTATION_SKEW_MS < |now - timestamp| then .error attestationInvalid
          else if rt.hmacSha256 fingerprintHash.toUTF8.data.toList
              (rt.deviceUuid deviceId ++ "." ++ toString timestamp ++ "." ++ nonce) ≠
              rt.fromBase64url signature then .error attestationInvalid
          else .ok ⟨timestamp, nonce⟩
  | _ => .error attestationInvalid

def resolveDeviceAttestationSecret (rt : AuthRuntime) (d : DeviceRow) : Except Fault String :=
  if blank d.attestationSecretCiphertext then
    .error (.http 503 "DEVICE_ATTESTATION_SECRET_UNAVAILABLE"
      "Device attestation secret is unavailable")
  else
    match rt.decryptDeviceAttestationSecret (d.attestationSecretCiphertext.getD "")
        rt.DEVICE_ATTESTATION_KEK with
    | some secret => .ok secret
    | none => .error (internalError "Device attestation secret is invalid")

def attestationReplayed : Fault :=
  .http 409 "DEVICE_ATTESTATION_REPLAYED" "Device attestation has already been used"

def hashDeviceAttestationNonce (nonce : String) : Digest := sha256 nonce

/-- Delete the device's expired nonces, and insert this one under the unique indexes. -/
def recordDeviceAttestation (tenantId : String) (deviceId : Nat) (attestation : Attestation)
    (now : Int) : AuthTx Unit := do
  update fun s =>
    { s with
      deviceAttestations := s.deviceAttestations.filter fun r =>
        !(r.deviceId = deviceId && r.expiresAt < now) }
  let s ← get
  rejectIf (∃ r ∈ s.deviceAttestations, r.tenantId = tenantId ∧ r.deviceId = deviceId ∧
    (r.nonce = attestation.nonce ∨ r.nonceHash = hashDeviceAttestationNonce attestation.nonce))
    attestationReplayed
  update fun s =>
    { s with
      deviceAttestations := s.deviceAttestations ++ [
        { tenantId := tenantId, deviceId := deviceId, nonce := attestation.nonce,
          nonceHash := hashDeviceAttestationNonce attestation.nonce,
          attestationTimestamp := attestation.timestamp, acceptedAt := now,
          expiresAt := attestation.timestamp + MAX_DEVICE_ATTESTATION_SKEW_MS,
          issuedSessionId := none }] }

def linkDeviceAttestation (tenantId : String) (deviceId : Nat) (nonce : String)
    (sessionId : Nat) : AuthTx Unit :=
  update fun s =>
    { s with
      deviceAttestations := s.deviceAttestations.map fun r =>
        if r.tenantId = tenantId ∧ r.deviceId = deviceId ∧ r.nonce = nonce then
          { r with issuedSessionId := some sessionId }
        else r }

/-! ### Login -/

inductive LoginResult
  | issued (session : IssuedSession)
  | assertionRequired (attemptToken challenge : String)
  deriving DecidableEq

/-- The user that signed in, and how many revocations there were when it was read. -/
structure SignedIn where
  userId : String
  user : AuthUser
  userSeen : Nat
  deriving DecidableEq

/-- The device that a login names, as it was read. -/
structure LoginDevice where
  deviceId : Nat
  device : DeviceRow
  branchActive : Bool
  webAuthnCredentials : List (Nat × DeviceWebAuthnCredential)
  deviceSeen : Nat

def activeCredentials (s : AuthStore) (deviceId : Nat) : List (Nat × DeviceWebAuthnCredential) :=
  s.deviceWebAuthnCredentials.select fun c => c.deviceId = deviceId && c.status = .ACTIVE

def findLoginDevice (env : AuthSurroundings) (s : AuthStore) (tenantId : String)
    (deviceId : Nat) : Option LoginDevice :=
  (s.devices[deviceId]?.filter fun d => d.tenantId = tenantId).map fun d =>
    ⟨deviceId, d, branchActive env d.branchId, activeCredentials s deviceId, s.seen⟩

/-- The token's credential and its device, both in order for the user. -/
def findTokenCredential (rt : AuthRuntime) (env : AuthSurroundings) (s : AuthStore)
    (user : AuthUser) (token : String) (presentedHash : Bytes) :
    Option (Nat × DeviceTokenCredential) :=
  (s.deviceTokenCredentials.find fun c => c.tokenHash = presentedHash).filter fun r =>
    r.2.tenantId = user.tenantId && r.2.status = .ACTIVE &&
      r.2.keyVersion = configuredDeviceTokenKeyVersion rt &&
      (s.devices[r.2.deviceId]?.any fun d => d.authBindingMode = .DEVICE_TOKEN &&
        BranchesService.operational env d && user.branchId = some d.branchId) &&
      matchesDeviceTokenHash rt token r.2.tokenHash

def tokenLoginTransaction (rt : AuthRuntime) (env : AuthSurroundings) (signedIn : SignedIn)
    (token : String) (credentialId deviceId deviceSeen : Nat) (currentUser user : Option AuthUser) :
    AuthTx IssuedSession := do
  let s ← get
  let device ← orFault (s.devices[deviceId]?.filter fun d =>
    d.tenantId = signedIn.user.tenantId && BranchesService.operational env d &&
      d.authBindingMode = .DEVICE_TOKEN) deviceAuthFailed
  let currentUser ← orFault currentUser deviceAuthFailed
  let credential ← orFault (s.deviceTokenCredentials[credentialId]?.filter fun c =>
    c.tenantId = signedIn.user.tenantId && c.deviceId = deviceId && c.status = .ACTIVE &&
      c.keyVersion = configuredDeviceTokenKeyVersion rt) deviceAuthFailed
  rejectIf (currentUser.role ≠ .CASHIER ∨ currentUser.branchId ≠ some device.branchId ∨
    matchesDeviceTokenHash rt token credential.tokenHash = false) deviceAuthFailed
  update fun s =>
    { s with
      deviceTokenCredentials := s.deviceTokenCredentials.set credentialId
        { credential with lastUsedAt := some env.now } }
  issueSession rt env user (loginRequest signedIn.userId (some deviceId)
    ⟨.deviceToken credentialId, signedIn.userSeen, deviceSeen⟩)

def loginWithDeviceToken (rt : AuthRuntime) (signedIn : SignedIn) (token : String) :
    AuthHandling IssuedSession :=
  match hashDeviceToken rt token with
  | none => Process.fail deviceAuthFailed
  | some presentedHash => do
      let found ← readAuth fun env s =>
        (findTokenCredential rt env s signedIn.user token presentedHash).map fun r => (r, s.seen)
      match found with
      | none => Process.fail deviceAuthFailed
      | some ((credentialId, credential), deviceSeen) => do
          let currentUser ← eligibleUser signedIn.userId
          let user ← eligibleUser signedIn.userId
          Process.catching (Process.transaction fun env =>
              tokenLoginTransaction rt env signedIn token credentialId credential.deviceId
                deviceSeen currentUser user)
            fun _ => Process.fail deviceAuthFailed

/-- `requiredWebAuthnLoginConfig`. -/
def requiredWebAuthnLoginConfig (rt : AuthRuntime) : Except Fault WebAuthnConfig :=
  let rpId := (configuredWebAuthnRpId rt).getD ""
  if rpId = "" || (configuredOrigins rt).isEmpty then .error deviceAuthFailed
  else .ok ⟨rpId, configuredOrigins rt⟩

/-- The insert of an attempt, under the unique indexes on its two hashes. -/
def createLoginAttempt (attempt : CashierLoginAttempt) : AuthTx Unit := do
  let s ← get
  rejectIf (∃ a ∈ s.cashierLoginAttempts, a.bearerTokenHash = attempt.bearerTokenHash ∨
    a.assertionChallengeHash = attempt.assertionChallengeHash) uniqueConstraintFailed
  update fun s => { s with cashierLoginAttempts := s.cashierLoginAttempts ++ [attempt] }

def beginCashierWebAuthnLogin (rt : AuthRuntime) (signedIn : SignedIn) (d : LoginDevice) :
    AuthHandling LoginResult := do
  let config ← Process.ofExcept (requiredWebAuthnLoginConfig rt)
  if !(d.webAuthnCredentials.any fun c => trustedCredential config.rpId c.2) then
    Process.fail deviceAuthFailed else
  let env ← readAuth fun env _ => env
  Process.transaction fun _ => do
    createLoginAttempt
      { tenantId := signedIn.user.tenantId, userId := signedIn.userId,
        branchId := d.device.branchId, deviceId := d.deviceId,
        bearerTokenHash := hashSecret env.randomToken,
        assertionChallengeHash := hashSecret env.challenge,
        expiresAt := env.now + 2 * 60 * 1000, consumedAt := none,
        userSeen := signedIn.userSeen }
    pure (.assertionRequired env.randomToken env.challenge)

/-- The transaction of a login, with the device that was attested, if any. -/
def loginTransaction (rt : AuthRuntime) (env : AuthSurroundings) (signedIn : SignedIn)
    (attested : Option (LoginDevice × String × Attestation)) (user : Option AuthUser) :
    AuthTx LoginResult :=
  match attested with
  | none => do
      let issued ← issueSession rt env user
        (loginRequest signedIn.userId none ⟨.none, signedIn.userSeen, 0⟩)
      pure (.issued issued)
  | some (d, deviceAttestation, attestation) => do
      recordDeviceAttestation signedIn.user.tenantId d.deviceId attestation env.now
      let issued ← issueSession rt env user (loginRequest signedIn.userId (some d.deviceId)
        ⟨.attestation d.deviceId deviceAttestation, signedIn.userSeen, d.deviceSeen⟩)
      linkDeviceAttestation signedIn.user.tenantId d.deviceId attestation.nonce issued.sessionId
      pure (.issued issued)

/-- What a cashier is told of a device, and what others are. -/
def deviceFault (user : AuthUser) (fault : Fault) : Fault :=
  if user.role = .CASHIER then deviceAuthFailed else fault

/-- A login on a device, which the attestation proves. -/
def loginWithAttestation (rt : AuthRuntime) (signedIn : SignedIn) (d : LoginDevice)
    (deviceAttestation : Option String) : AuthHandling LoginResult := do
  if blank deviceAttestation then
    Process.fail (deviceFault signedIn.user (badRequest "Device attestation is required")) else
  let deviceSecret ← Process.ofExcept (resolveDeviceAttestationSecret rt d.device)
  let now ← readAuth fun env _ => env.now
  match assertDeviceAttestationValid rt now d.deviceId (deviceAttestation.getD "") deviceSecret with
  | .error fault => Process.fail (deviceFault signedIn.user fault)
  | .ok attestation =>
      let user ← eligibleUser signedIn.userId
      Process.transaction fun env =>
        loginTransaction rt env signedIn (some (d, deviceAttestation.getD "", attestation)) user

/-- A login on the device that was read. -/
def loginOnDevice (rt : AuthRuntime) (signedIn : SignedIn) (d : LoginDevice)
    (deviceAttestation : Option String) : AuthHandling LoginResult :=
  let user := signedIn.user
  if d.device.status ≠ .ACTIVE || !d.branchActive ||
      (!blank user.branchId && user.branchId ≠ some d.device.branchId) then
    Process.fail (deviceFault user (badRequest "Device is not active"))
  else if user.role = .CASHIER then
    if user.branchId ≠ some d.device.branchId then Process.fail deviceAuthFailed
    else
      match d.device.authBindingMode with
      | .WEBAUTHN => beginCashierWebAuthnLogin rt signedIn d
      | .HMAC_LEGACY => loginWithAttestation rt signedIn d deviceAttestation
      | _ => Process.fail deviceAuthFailed
  else loginWithAttestation rt signedIn d deviceAttestation

/-- The user behind a password, where it may sign in. -/
def findSignedIn (rt : AuthRuntime) (env : AuthSurroundings) (s : AuthStore)
    (supabaseUser : String) : Option SignedIn :=
  (rt.userOfSupabase supabaseUser).bind fun userId =>
    ((s.users userId).filter fun u => isAuthUserEligible env u && u.role ≠ .SYSTEM).map fun u =>
      ⟨userId, u, s.seen⟩

def login (rt : AuthRuntime) (username password : String) (deviceId : Option Nat)
    (deviceAttestation deviceToken : Option String) : AuthHandling LoginResult := do
  let supabaseUser ← readAuth fun env _ => env.signInWithPassword username password
  match supabaseUser with
  | none => Process.fail invalidCredentials
  | some supabaseUser =>
      let signedIn ← readAuth fun env s => findSignedIn rt env s supabaseUser
      match signedIn with
      | none => Process.fail invalidCredentials
      | some signedIn =>
          let isCashier := signedIn.user.role = .CASHIER
          if isCashier && !blank deviceToken then
            loginWithDeviceToken rt signedIn (deviceToken.getD "") >>= fun issued =>
              Process.done (.issued issued)
          else if isCashier && rt.PILOT_CASHIER_DEVICE_TOKEN_ONLY then Process.fail deviceAuthFailed
          else
            match deviceId.filter fun _ => isCashier || !blank deviceAttestation with
            | none =>
                if isCashier then Process.fail deviceAuthFailed else
                let user ← eligibleUser signedIn.userId
                Process.transaction fun env => loginTransaction rt env signedIn none user
            | some deviceId =>
                let found ← readAuth fun env s =>
                  findLoginDevice env s signedIn.user.tenantId deviceId
                match found with
                | none =>
                    Process.fail (deviceFault signedIn.user (badRequest "Device is not active"))
                | some d => loginOnDevice rt signedIn d deviceAttestation

/-! ### Completing a cashier's login -/

/-- The attempt that a token names, with its device's active credentials, where the attempt,
its user and its device are in order. -/
def findLoginAttempt (env : AuthSurroundings) (s : AuthStore) (bearerTokenHash : Digest) :
    Option ((Nat × CashierLoginAttempt) × List (Nat × DeviceWebAuthnCredential)) :=
  ((s.cashierLoginAttempts.find fun a => a.bearerTokenHash = bearerTokenHash).filter fun r =>
    r.2.consumedAt.isNone && env.now < r.2.expiresAt &&
      ((s.users r.2.userId).any fun u => u.role = .CASHIER && isAuthUserEligible env u &&
        u.tenantId = r.2.tenantId && u.branchId = some r.2.branchId) &&
      (s.devices[r.2.deviceId]?.any fun d => d.tenantId = r.2.tenantId &&
        d.branchId = r.2.branchId) &&
      !(activeCredentials s r.2.deviceId).isEmpty).map fun r =>
  (r, activeCredentials s r.2.deviceId)

/-- The `id` of an assertion. -/
def assertionId (assertion : Json) : Option String :=
  match assertion with
  | .object fields =>
      (fields.find? fun f => f.1 = "id").bind fun f =>
        match f.2 with
        | .string id => some id
        | _ => none
  | _ => none

def isAssertionObject : Json → Bool
  | .object _ => true
  | _ => false

/-- An assertion that proves the credential, with a counter that has moved on. -/
def acceptableAssertion (credential : DeviceWebAuthnCredential)
    (info : AuthenticationInfo) : Bool :=
  info.userVerified && info.credentialDeviceType = "singleDevice" && !info.credentialBackedUp &&
    !(0 < credential.signCount && info.newCounter ≤ credential.signCount)

def completeTransaction (rt : AuthRuntime) (env : AuthSurroundings) (config : WebAuthnConfig)
    (assertion : Json) (attemptId : Nat) (attempt : CashierLoginAttempt) (credentialId : Nat)
    (currentUser user : Option AuthUser) : AuthTx IssuedSession := do
  let s ← get
  let _ ← orFault (s.devices[attempt.deviceId]?.filter fun d =>
    d.tenantId = attempt.tenantId && d.branchId = attempt.branchId && d.status = .ACTIVE &&
      ((env.branches d.branchId).any fun b =>
        b.status = .ACTIVE && b.tenantId = attempt.tenantId) &&
      d.authBindingMode = .WEBAUTHN) deviceAuthFailed
  let credential ← orFault (s.deviceWebAuthnCredentials[credentialId]?.filter fun c =>
    c.deviceId = attempt.deviceId && c.status = .ACTIVE && c.tenantId = attempt.tenantId &&
      trustedCredential config.rpId c) deviceAuthFailed
  let info ← orFault (rt.verifyAuthenticationResponse assertion
    (fun challenge => hashSecret challenge = attempt.assertionChallengeHash) config credential)
    deviceAuthFailed
  rejectIf (acceptableAssertion credential info = false) deviceAuthFailed
  let claimed ← orFault (s.cashierLoginAttempts[attemptId]?.filter fun a =>
    a.consumedAt.isNone && env.now < a.expiresAt) deviceAuthFailed
  update fun s =>
    { s with
      cashierLoginAttempts := s.cashierLoginAttempts.set attemptId
        { claimed with consumedAt := some env.now } }
  onlyIf (credential.signCount < info.newCounter) (update fun s =>
    { s with
      deviceWebAuthnCredentials := s.deviceWebAuthnCredentials.set credentialId
        { credential with signCount := info.newCounter } })
  let currentUser ← orFault currentUser deviceAuthFailed
  rejectIf (currentUser.role ≠ .CASHIER ∨ currentUser.tenantId ≠ attempt.tenantId ∨
    currentUser.branchId ≠ some attempt.branchId) deviceAuthFailed
  issueSession rt env user
    { userId := attempt.userId, action := "auth.cashier_login", deviceId := some attempt.deviceId,
      lifetimeMs := DEFAULT_SESSION_LIFETIME_MS, purpose := .USER,
      deviceCredentialId := some credentialId,
      evidence := ⟨.assertion attemptId, attempt.userSeen, s.seen⟩ }

def completeCashierLogin (rt : AuthRuntime) (attemptToken : Option String) (assertion : Json) :
    AuthHandling IssuedSession := do
  if rt.PILOT_CASHIER_DEVICE_TOKEN_ONLY then Process.fail deviceAuthFailed else
  if !isBase64urlOf32 (attemptToken.getD "") || !isAssertionObject assertion then
    Process.fail deviceAuthFailed else
  let config ← Process.ofExcept (requiredWebAuthnLoginConfig rt)
  let found ← readAuth fun env s => findLoginAttempt env s (hashSecret (attemptToken.getD ""))
  match found with
  | none => Process.fail deviceAuthFailed
  | some ((attemptId, attempt), credentials) =>
      match credentials.find? fun c => assertionId assertion = some c.2.credentialId with
      | none => Process.fail deviceAuthFailed
      | some (credentialId, _) =>
          let currentUser ← eligibleUser attempt.userId
          let user ← eligibleUser attempt.userId
          Process.catching (Process.transaction fun env =>
              completeTransaction rt env config assertion attemptId attempt credentialId
                currentUser user)
            fun _ => Process.fail deviceAuthFailed

/-! ### Refreshing and ending sessions -/

/-- The session as `refresh` reads it first. -/
def findRefreshable (rt : AuthRuntime) (env : AuthSurroundings) (s : AuthStore)
    (sessionId : Nat) : Except Fault (Session × Nat) :=
  match s.sessions[sessionId]? with
  | none => .error (unauthorized "Session expired or revoked")
  | some session =>
      match (s.users session.userId).filter (isAuthUserEligible env) with
      | none => .error (unauthorized "Session expired or revoked")
      | some user =>
          if session.status ≠ .ACTIVE ∨ session.expiresAt ≤ env.now then
            .error (unauthorized "Session expired or revoked")
          else if isSessionDeviceEligible env s session user (configuredWebAuthnRpId rt)
              rt.localCashierTestSessionEnabled then
            if session.purpose = .SMOKE then
              .error (unauthorized "Smoke sessions cannot be refreshed")
            else .ok (session, s.seen)
          else .error deviceRevoked

def refreshTransaction (rt : AuthRuntime) (env : AuthSurroundings) (sessionId seen : Nat)
    (currentUser user : Option AuthUser) : AuthTx IssuedSession := do
  let s ← get
  let session ← orFault (s.sessions[sessionId]?.filter fun x =>
    x.status = .ACTIVE && env.now < x.expiresAt) (unauthorized "Session already rotated")
  update fun s =>
    { s with
      sessions := s.sessions.set sessionId
        { session with status := .REVOKED, revokedAt := some env.now } }
  let currentUser ← orFault currentUser (unauthorized "Session expired or revoked")
  rejectIf (isSessionDeviceEligible env s session currentUser (configuredWebAuthnRpId rt) false =
    false) deviceRevoked
  issueSession rt env user
    { userId := session.userId, action := "auth.refresh", deviceId := session.deviceId,
      lifetimeMs := DEFAULT_SESSION_LIFETIME_MS, purpose := .USER,
      deviceCredentialId := session.deviceCredentialId,
      evidence := ⟨.session sessionId, seen, seen⟩ }

def refresh (rt : AuthRuntime) (sessionId : Nat) : AuthHandling IssuedSession := do
  let found ← readAuth fun env s => findRefreshable rt env s sessionId
  let (session, seen) ← Process.ofExcept found
  let currentUser ← eligibleUser session.userId
  let user ← eligibleUser session.userId
  Process.transaction fun env => refreshTransaction rt env sessionId seen currentUser user

def logout (sessionId : Nat) : AuthHandling Unit :=
  Process.statement fun env s =>
    ((), { s with
      sessions := match s.sessions[sessionId]? with
        | some session =>
            if session.status = .ACTIVE then
              s.sessions.set sessionId
                { session with status := .REVOKED, revokedAt := some env.now }
            else s.sessions
        | none => s.sessions })

end AuthService

/-! ### Changes of users -/

namespace UsersService

def hashUserRequest (fields : List (String × Json)) : Digest :=
  sha256 (Json.stringify (.object fields))

def roleText : UserRole → String
  | .CASHIER => "CASHIER"
  | .SUPERVISOR => "SUPERVISOR"
  | .ADMIN => "ADMIN"
  | .SYSTEM => "SYSTEM"

def userNotFound : Fault := .http 404 "NOT_FOUND" "User not found"

/-- The sessions of a user that a sweep sees, and how many rows it went through. -/
def sweep (userId : String) : AuthHandling (List Nat × Nat) :=
  readAuth fun _ s =>
    ((s.sessions.select fun x => x.userId = userId).map Prod.fst, s.sessions.length)

/-- A user's row changes, and the sessions that the sweep has seen are revoked. -/
def changeUser (userId : String) (f : AuthUser → AuthUser) (key : AuthRequestKey)
    (requestHash : Digest) (swept : Option (List Nat × Nat)) (now : Int) : AuthTx AuthUser := do
  createAuthRecord key requestHash now
  let s ← get
  let user ← orFault (s.users userId) .missing
  update fun s => { s with users := Function.update s.users userId (some (f user)) }
  match swept with
  | none => pure (f user)
  | some (swept, sessionsSeen) => do
      update fun s =>
        { s with
          sessions := s.sessions.mapIdx fun i x =>
            if i ∈ swept then { x with status := .REVOKED, revokedAt := some now } else x
          revocations := s.revocations ++ [.user userId sessionsSeen] }
      pure (f user)

/-- The record of a request, the user, and what is to be changed of it. -/
def request (key : AuthRequestKey) (requestHash : Digest) (checked : Except Fault Unit)
    (tenantId userId : String) (f : AuthUser → AuthUser) (revokes : Bool) :
    AuthHandling StoredResponse := do
  let existing ← readAuth fun _ s => s.records key
  let replay ← Process.ofExcept (checkAuthRecord existing requestHash)
  match replay with
  | some response => Process.done response
  | none =>
      let _ ← Process.ofExcept checked
      let user ← readAuth fun _ s => (s.users userId).filter fun u => u.tenantId = tenantId
      if user.isNone then Process.fail userNotFound else
      let swept ← if revokes then sweep userId >>= fun seen => Process.done (some seen)
        else Process.done none
      let updated ← Process.transaction fun env =>
        changeUser userId f key requestHash swept env.now
      let _ ← Process.transaction fun _ => completeAuthRecord key (.user userId updated)
      Process.done (.user userId updated)

def updateRole (tenantId : String) (actor : AuthContext) (userId : String) (role : UserRole)
    (idempotencyKey : Option String) : AuthHandling StoredResponse := do
  let key ← Process.ofExcept (normalizeAuthIdempotencyKey idempotencyKey)
  let requestHash := hashUserRequest [("tenantId", .string tenantId), ("actorId", .string actor.id),
    ("userId", .string userId), ("role", .string (roleText role))]
  let checked : Except Fault Unit :=
    if role = .SYSTEM then .error (badRequest "SYSTEM role cannot be assigned to human users")
    else .ok ()
  request ⟨tenantId, actor.id, .usersRole, key⟩ requestHash checked tenantId userId
    (fun u => { u with role := role }) true

def requestedStatus (status : String) : Option UserStatus :=
  if status = "ACTIVE" then some .ACTIVE
  else if status = "DISABLED" then some .DISABLED
  else if status = "SUSPENDED" then some .SUSPENDED
  else none

def updateStatus (tenantId : String) (actor : AuthContext) (userId status : String)
    (idempotencyKey : Option String) : AuthHandling StoredResponse := do
  let key ← Process.ofExcept (normalizeAuthIdempotencyKey idempotencyKey)
  let requestHash := hashUserRequest [("tenantId", .string tenantId), ("actorId", .string actor.id),
    ("userId", .string userId), ("status", .string status)]
  let requested := requestedStatus status
  let checked : Except Fault Unit :=
    if requested.isNone then .error (badRequest "Invalid user status") else .ok ()
  request ⟨tenantId, actor.id, .usersStatus, key⟩ requestHash checked tenantId userId
    (fun u => { u with status := requested.getD u.status }) (requested ≠ some .ACTIVE)

end UsersService

/-! ### Requests side by side -/

inductive AuthRequest
  | login (username password : String) (deviceId : Option Nat)
      (deviceAttestation deviceToken : Option String)
  | completeCashierLogin (attemptToken : Option String) (assertion : Json)
  | refresh (sessionId : Nat)
  | logout (sessionId : Nat)
  | createDevice (tenantId : String) (actor : AuthContext) (branchId name : String)
      (idempotencyKey : Option String)
  | updateDevice (tenantId : String) (actor : AuthContext) (deviceId : Nat)
      (data : BranchesService.DeviceUpdate) (idempotencyKey presentedToken : Option String)
  | pairDeviceToken (tenantId : String) (actor : AuthContext) (deviceId : Nat)
  | resetDeviceToken (tenantId : String) (actor : AuthContext) (deviceId : Nat)
      (presentedToken : Option String)
  | createDeviceEnrollment (tenantId : String) (actor : AuthContext) (deviceId : Nat)
  | completeDeviceEnrollment (deviceId : Nat) (authorizationToken : Option String)
      (response : RegistrationResponse)
  | revokeDeviceCredential (tenantId : String) (actor : AuthContext) (deviceId credentialId : Nat)
  | updateRole (tenantId : String) (actor : AuthContext) (userId : String) (role : UserRole)
      (idempotencyKey : Option String)
  | updateStatus (tenantId : String) (actor : AuthContext) (userId status : String)
      (idempotencyKey : Option String)

inductive AuthAnswer
  | login (r : AuthService.LoginResult)
  | issued (r : AuthService.IssuedSession)
  | device (r : BranchesService.DeviceProvisioningResponse)
  | paired (token : String) (pairedAt : Int)
  | reset (clearDeviceTokenCookie : Bool)
  | enrollment (r : BranchesService.DeviceEnrollment)
  | user (r : StoredResponse)
  | done
  deriving DecidableEq

def AuthRequest.program (rt : AuthRuntime) : AuthRequest → AuthHandling AuthAnswer
  | .login username password deviceId deviceAttestation deviceToken =>
      AuthService.login rt username password deviceId deviceAttestation deviceToken >>=
        fun r => Process.done (.login r)
  | .completeCashierLogin attemptToken assertion =>
      AuthService.completeCashierLogin rt attemptToken assertion >>=
        fun r => Process.done (.issued r)
  | .refresh sessionId => AuthService.refresh rt sessionId >>= fun r => Process.done (.issued r)
  | .logout sessionId => AuthService.logout sessionId >>= fun _ => Process.done .done
  | .createDevice tenantId actor branchId name key =>
      BranchesService.createDevice tenantId actor branchId name key >>=
        fun r => Process.done (.device r)
  | .updateDevice tenantId actor deviceId data key presentedToken =>
      BranchesService.updateDevice rt tenantId actor deviceId data key presentedToken >>=
        fun r => Process.done (.device r)
  | .pairDeviceToken tenantId actor deviceId =>
      BranchesService.pairDeviceToken rt tenantId actor deviceId >>=
        fun r => Process.done (.paired r.1 r.2)
  | .resetDeviceToken tenantId actor deviceId presentedToken =>
      BranchesService.resetDeviceToken rt tenantId actor deviceId presentedToken >>=
        fun r => Process.done (.reset r)
  | .createDeviceEnrollment tenantId actor deviceId =>
      BranchesService.createDeviceEnrollment rt tenantId actor deviceId >>=
        fun r => Process.done (.enrollment r)
  | .completeDeviceEnrollment deviceId authorizationToken response =>
      BranchesService.completeDeviceEnrollment rt deviceId authorizationToken response >>=
        fun _ => Process.done .done
  | .revokeDeviceCredential tenantId actor deviceId credentialId =>
      BranchesService.revokeDeviceCredential tenantId actor deviceId credentialId >>=
        fun _ => Process.done .done
  | .updateRole tenantId actor userId role key =>
      UsersService.updateRole tenantId actor userId role key >>= fun r => Process.done (.user r)
  | .updateStatus tenantId actor userId status key =>
      UsersService.updateStatus tenantId actor userId status key >>= fun r => Process.done (.user r)

abbrev AuthRequests := Pool AuthRequest AuthSurroundings AuthStore Fault AuthAnswer

end ShopcityLoyalty
