import ShopcityLoyalty.SignIn
import ShopcityLoyalty.Lib.Moves

/-!
What the statements of sign-in and of device administration do to the store, one move for
each kind of commit.
-/

namespace ShopcityLoyalty

open Txn

/-- A revocation among those since the first `k`. -/
def AuthStore.RevokedSince (s : AuthStore) (k : Nat) (r : Revocation) : Prop :=
  r ∈ s.revocations.drop k

/-- What the text of an attestation says, where it was valid at some time. -/
def Attests (rt : AuthRuntime) (deviceId : Nat) (text : String) (a : AuthService.Attestation) :
    Prop :=
  ∃ now secret, AuthService.assertDeviceAttestationValid rt now deviceId text secret = .ok a

/-- The nonces after one more was recorded: those that had not expired are still there. -/
structure NonceRecorded (tenantId : String) (deviceId : Nat)
    (a : AuthService.Attestation) (now : Int)
    (rows rows' : List DeviceAttestation) : Prop where
  unused : ∀ r ∈ rows, r.tenantId = tenantId → r.deviceId = deviceId → now ≤ r.expiresAt →
    r.nonce ≠ a.nonce
  kept : ∀ r ∈ rows, (r.deviceId = deviceId → now ≤ r.expiresAt) →
    ∃ r' ∈ rows', r'.tenantId = r.tenantId ∧ r'.deviceId = r.deviceId ∧ r'.nonce = r.nonce ∧
      r'.expiresAt = r.expiresAt
  recorded : ∃ r ∈ rows', r.tenantId = tenantId ∧ r.deviceId = deviceId ∧ r.nonce = a.nonce ∧
    r.expiresAt = a.timestamp + AuthService.MAX_DEVICE_ATTESTATION_SKEW_MS

/-- A credential whose counter an assertion moved on. -/
structure CounterMoved (c c' : DeviceWebAuthnCredential) : Prop where
  same : c' = { c with signCount := c'.signCount }
  le : c.signCount ≤ c'.signCount
  lt : 0 < c.signCount → c.signCount < c'.signCount

/-- One commit. -/
inductive AuthMove (rt : AuthRuntime) (env : AuthSurroundings) (s : AuthStore) : AuthStore → Prop
  | stay : AuthMove rt env s s
  | recorded {records : AuthRequestKey → Option (IdempotencyRecord StoredResponse)} :
      AuthMove rt env s { s with records := records }
  | deviceCreated {records : AuthRequestKey → Option (IdempotencyRecord StoredResponse)}
      {d : DeviceRow} (mode : d.authBindingMode = .UNPAIRED) :
      AuthMove rt env s { s with devices := s.devices ++ [d], records := records }
  | paired {i : Nat} {d : DeviceRow} {c : DeviceTokenCredential} {pairedAt : Int}
      (row : s.devices[i]? = some d) (active : d.status = .ACTIVE)
      (credential : c.deviceId = i ∧ c.tenantId = d.tenantId ∧ c.status = .ACTIVE)
      (mode : BranchesService.pairable d = true) :
      AuthMove rt env s
        { s with
          devices := s.devices.set i
            { d with authBindingMode := .DEVICE_TOKEN, pairedAt := some pairedAt }
          deviceTokenCredentials :=
            (s.revokeTokenCredentials d.tenantId i pairedAt).deviceTokenCredentials ++ [c]
          sessions := (s.revokeDeviceSessions i pairedAt).sessions
          revocations := s.revocations ++ [.device i] }
  | reset {i : Nat} {d : DeviceRow} {now : Int} (row : s.devices[i]? = some d)
      (mode : d.authBindingMode = .DEVICE_TOKEN) :
      AuthMove rt env s
        { s with
          devices := s.devices.set i { d with authBindingMode := .UNPAIRED, pairedAt := none }
          deviceTokenCredentials :=
            (s.revokeTokenCredentials d.tenantId i now).deviceTokenCredentials
          sessions := (s.revokeDeviceSessions i now).sessions
          revocations := s.revocations ++ [.device i] }
  | challenged {challenges : Table DeviceEnrollmentChallenge} :
      AuthMove rt env s { s with deviceEnrollmentChallenges := challenges }
  | enrolled {challenges : Table DeviceEnrollmentChallenge} {i : Nat} {d : DeviceRow}
      {c : DeviceWebAuthnCredential} {now : Int} (row : s.devices[i]? = some d)
      (mode : d.authBindingMode ≠ .DEVICE_TOKEN)
      (credential : c.deviceId = i ∧ c.status = .ACTIVE) :
      AuthMove rt env s
        { s with
          deviceEnrollmentChallenges := challenges
          devices := s.devices.set i (BranchesService.enrolledDevice now d)
          deviceWebAuthnCredentials :=
            (BranchesService.replaceCredentials i c s).deviceWebAuthnCredentials
          sessions := (s.revokeDeviceSessions i now).sessions }
  | credentialRevoked {cid : Nat} {c : DeviceWebAuthnCredential} {now : Int}
      (row : s.deviceWebAuthnCredentials[cid]? = some c) :
      AuthMove rt env s
        { s with
          deviceWebAuthnCredentials := s.deviceWebAuthnCredentials.set cid
            { c with status := .REVOKED, revokedAt := some now }
          sessions := (s.updateSessions
            (fun x => x.deviceId = some c.deviceId && x.deviceCredentialId = some cid &&
              x.status = .ACTIVE)
            fun x => { x with status := .REVOKED, revokedAt := some now }).sessions
          revocations := s.revocations ++ [.credential cid] }
  /-- A device keeps its binding. -/
  | deviceKept {records : AuthRequestKey → Option (IdempotencyRecord StoredResponse)} {i : Nat}
      {d d' : DeviceRow} (row : s.devices[i]? = some d) (tenant : d'.tenantId = d.tenantId)
      (mode : d'.authBindingMode = d.authBindingMode)
      (status : d.authBindingMode = .DEVICE_TOKEN → d'.status = d.status) :
      AuthMove rt env s { s with devices := s.devices.set i d', records := records }
  /-- A new attestation secret. -/
  | rotated {records : AuthRequestKey → Option (IdempotencyRecord StoredResponse)} {i : Nat}
      {d d' : DeviceRow} {now : Int} (row : s.devices[i]? = some d)
      (tenant : d'.tenantId = d.tenantId) (legacy : d.authBindingMode = .HMAC_LEGACY)
      (mode : d'.authBindingMode = d.authBindingMode) :
      AuthMove rt env s
        { s with
          devices := s.devices.set i d'
          sessions := (s.revokeDeviceSessions i now).sessions
          revocations := s.revocations ++ [.device i]
          records := records }
  /-- A device is deactivated, or a change of its status takes its token away. -/
  | unbound {records : AuthRequestKey → Option (IdempotencyRecord StoredResponse)} {i : Nat}
      {d d' : DeviceRow} {now : Int} (row : s.devices[i]? = some d)
      (tenant : d'.tenantId = d.tenantId)
      (mode : (d.authBindingMode = .DEVICE_TOKEN ∧ d'.authBindingMode = .UNPAIRED) ∨
        (d'.authBindingMode = d.authBindingMode ∧
          (d.authBindingMode = .DEVICE_TOKEN → d.status ≠ .ACTIVE))) :
      AuthMove rt env s
        { s with
          devices := s.devices.set i d'
          deviceTokenCredentials :=
            (s.revokeTokenCredentials d.tenantId i now).deviceTokenCredentials
          sessions := (s.revokeDeviceSessions i now).sessions
          revocations := s.revocations ++ [.device i]
          records := records }
  | attempted {a : CashierLoginAttempt} (unconsumed : a.consumedAt = none)
      (userSeen : a.userSeen ≤ s.seen) :
      AuthMove rt env s { s with cashierLoginAttempts := s.cashierLoginAttempts ++ [a] }
  /-- A login with a password alone. -/
  | loggedIn {x : Session} (active : x.status = .ACTIVE)
      (device : x.deviceId = none ∧ x.deviceCredentialId = none)
      (proof : x.evidence.proof = .none)
      (seen : x.evidence.userSeen ≤ s.seen ∧ x.evidence.deviceSeen ≤ s.seen) :
      AuthMove rt env s { s with sessions := s.sessions ++ [x] }
  /-- A login with a password and an attestation. -/
  | attested {x : Session} {i : Nat} {d : DeviceRow} {text : String} {a : AuthService.Attestation}
      {rows : List DeviceAttestation} (active : x.status = .ACTIVE)
      (device : x.deviceId = some i ∧ x.deviceCredentialId = none)
      (proof : x.evidence.proof = .attestation i text)
      (seen : x.evidence.userSeen ≤ s.seen ∧ x.evidence.deviceSeen ≤ s.seen)
      (row : s.devices[i]? = some d) (valid : Attests rt i text a)
      (nonce : NonceRecorded d.tenantId i a env.now s.deviceAttestations rows) :
      AuthMove rt env s { s with deviceAttestations := rows, sessions := s.sessions ++ [x] }
  /-- A login with a password and a device token. -/
  | tokenLogin {x : Session} {cid : Nat} {c : DeviceTokenCredential} (active : x.status = .ACTIVE)
      (row : s.deviceTokenCredentials[cid]? = some c)
      (device : x.deviceId = some c.deviceId ∧ x.deviceCredentialId = none)
      (proof : x.evidence.proof = .deviceToken cid)
      (seen : x.evidence.userSeen ≤ s.seen ∧ x.evidence.deviceSeen ≤ s.seen)
      (held : ¬ s.RevokedSince x.evidence.deviceSeen (.device c.deviceId)) :
      AuthMove rt env s
        { s with
          deviceTokenCredentials := s.deviceTokenCredentials.set cid
            { c with lastUsedAt := some env.now }
          sessions := s.sessions ++ [x] }
  /-- A login with a password and an assertion. -/
  | completed {x : Session} {aid cid : Nat} {a : CashierLoginAttempt}
      {c c' : DeviceWebAuthnCredential} (active : x.status = .ACTIVE)
      (attempt : s.cashierLoginAttempts[aid]? = some a) (unconsumed : a.consumedAt = none)
      (row : s.deviceWebAuthnCredentials[cid]? = some c) (counter : CounterMoved c c')
      (device : x.deviceId = some c.deviceId ∧ x.deviceCredentialId = some cid)
      (proof : x.evidence.proof = .assertion aid)
      (seen : x.evidence.userSeen ≤ s.seen ∧ x.evidence.deviceSeen = s.seen) :
      AuthMove rt env s
        { s with
          cashierLoginAttempts := s.cashierLoginAttempts.set aid
            { a with consumedAt := some env.now }
          deviceWebAuthnCredentials := s.deviceWebAuthnCredentials.set cid c'
          sessions := s.sessions ++ [x] }
  | refreshed {x old : Session} {sid : Nat} (active : x.status = .ACTIVE)
      (row : s.sessions[sid]? = some old) (oldActive : old.status = .ACTIVE)
      (same : x.userId = old.userId ∧ x.deviceId = old.deviceId ∧
        x.deviceCredentialId = old.deviceCredentialId)
      (proof : x.evidence.proof = .session sid)
      (seen : x.evidence.userSeen ≤ s.seen ∧ x.evidence.deviceSeen ≤ s.seen)
      (later : old.evidence.userSeen ≤ x.evidence.userSeen ∧
        old.evidence.deviceSeen ≤ x.evidence.deviceSeen) :
      AuthMove rt env s
        { s with
          sessions := s.sessions.set sid
            { old with status := .REVOKED, revokedAt := some env.now } ++ [x] }
  | loggedOut {old : Session} {sid : Nat} (row : s.sessions[sid]? = some old) :
      AuthMove rt env s
        { s with
          sessions := s.sessions.set sid
            { old with status := .REVOKED, revokedAt := some env.now } }
  /-- A user is activated. -/
  | userKept {records : AuthRequestKey → Option (IdempotencyRecord StoredResponse)}
      {users : String → Option AuthUser} :
      AuthMove rt env s { s with users := users, records := records }
  /-- A user's role changes, or the user is no longer active. -/
  | userRevoked {records : AuthRequestKey → Option (IdempotencyRecord StoredResponse)}
      {users : String → Option AuthUser} {userId : String} {swept : List Nat} {sessionsSeen : Nat}
      {now : Int} (sweeps : ∀ (j : Nat) (x : Session), j < sessionsSeen →
        s.sessions[j]? = some x → x.userId = userId → j ∈ swept) :
      AuthMove rt env s
        { s with
          users := users
          sessions := s.sessions.mapIdx fun i x =>
            if i ∈ swept then { x with status := .REVOKED, revokedAt := some now } else x
          revocations := s.revocations ++ [.user userId sessionsSeen]
          records := records }

namespace BranchesService

variable {rt : AuthRuntime} {env : AuthSurroundings} {s t : AuthStore} {tenantId : String}
  {scope : Option String} {i : Nat} {d : DeviceRow} {key : AuthRequestKey} {requestHash : Digest}
  {now : Int} {u : Unit}

lemma findDevice_some (h : findDevice s tenantId scope i = some d) :
    s.devices[i]? = some d ∧ d.tenantId = tenantId := by
  obtain ⟨hrow, hscope⟩ := Option.filter_eq_some_iff.1 h
  simp only [Bool.and_eq_true, decide_eq_true_eq] at hscope
  exact ⟨hrow, hscope.1⟩

lemma createAuthRecord_ok (h : createAuthRecord key requestHash now s = .ok (u, t)) :
    ∃ records, t = { s with records := records } := by
  simp only [createAuthRecord, bind_ok, get_ok, rejectIf_ok, update_ok] at h
  obtain ⟨_, _, ⟨rfl, rfl⟩, _, _, ⟨-, rfl⟩, rfl⟩ := h
  exact ⟨_, rfl⟩

lemma completeAuthRecord_ok {response : StoredResponse}
    (h : completeAuthRecord key response s = .ok (u, t)) :
    ∃ records, t = { s with records := records } := by
  simp only [completeAuthRecord, bind_ok, get_ok, orFault_ok, update_ok] at h
  obtain ⟨_, _, ⟨rfl, rfl⟩, r, _, ⟨-, rfl⟩, rfl⟩ := h
  exact ⟨_, rfl⟩

lemma createTokenCredential_ok {c : DeviceTokenCredential}
    (h : createTokenCredential c s = .ok (u, t)) :
    t = { s with deviceTokenCredentials := s.deviceTokenCredentials ++ [c] } := by
  simp only [createTokenCredential, bind_ok, get_ok, rejectIf_ok, update_ok] at h
  obtain ⟨_, _, ⟨rfl, rfl⟩, _, _, ⟨-, rfl⟩, _, _, ⟨-, rfl⟩, rfl⟩ := h
  rfl

lemma operational_active (h : operational env d = true) : d.status = .ACTIVE := by
  simp only [operational, Bool.and_eq_true, decide_eq_true_eq] at h
  exact h.1.1

lemma pairTransaction_move {tokenHash : Bytes} {pairedAt : Int}
    (h : pairTransaction rt env tenantId scope i tokenHash pairedAt s = .ok (u, t)) :
    AuthMove rt env s t := by
  simp only [pairTransaction, bind_ok, get_ok, orFault_ok, update_ok] at h
  obtain ⟨_, _, ⟨rfl, rfl⟩, d, _, ⟨hd, rfl⟩, _, _, rfl, _, _, rfl, _, _, rfl, _, v, hv, rfl⟩ := h
  obtain ⟨hfound, hok⟩ := Option.filter_eq_some_iff.1 hd
  obtain ⟨hrow, htenant⟩ := findDevice_some hfound
  simp only [Bool.and_eq_true] at hok
  subst htenant
  rw [createTokenCredential_ok hv]
  exact .paired hrow (operational_active hok.1) ⟨rfl, rfl, rfl⟩ hok.2

lemma resetTransaction_move {presentedToken : Option String} {clear : Bool}
    (h : resetTransaction rt env tenantId scope i presentedToken now s = .ok (clear, t)) :
    AuthMove rt env s t := by
  simp only [resetTransaction, bind_ok, get_ok, orFault_ok, update_ok, pure_ok] at h
  obtain ⟨_, _, ⟨rfl, rfl⟩, d, _, ⟨hd, rfl⟩, _, _, rfl, _, _, rfl, _, _, rfl, _, _, rfl, -, rfl⟩ :=
    h
  obtain ⟨hfound, hok⟩ := Option.filter_eq_some_iff.1 hd
  obtain ⟨hrow, htenant⟩ := findDevice_some hfound
  simp only [Bool.and_eq_true, decide_eq_true_eq] at hok
  subst htenant
  exact .reset hrow hok.1

lemma createDeviceTransaction_move {branchId name : String} {r : DeviceProvisioningResponse}
    (h : createDeviceTransaction tenantId branchId name key requestHash now s = .ok (r, t)) :
    AuthMove rt env s t := by
  simp only [createDeviceTransaction, bind_ok, get_ok, update_ok, pure_ok] at h
  obtain ⟨_, v, hv, _, _, ⟨rfl, rfl⟩, _, _, rfl, _, w, hw, -, rfl⟩ := h
  obtain ⟨records, rfl⟩ := createAuthRecord_ok hv
  obtain ⟨records', rfl⟩ := completeAuthRecord_ok hw
  exact .deviceCreated rfl

lemma createEnrollmentChallenge_move {c : DeviceEnrollmentChallenge}
    (h : createEnrollmentChallenge c s = .ok (u, t)) : AuthMove rt env s t := by
  simp only [createEnrollmentChallenge, bind_ok, get_ok, rejectIf_ok, update_ok] at h
  obtain ⟨_, _, ⟨rfl, rfl⟩, _, _, ⟨-, rfl⟩, rfl⟩ := h
  exact .challenged

lemma enrollTransaction_move {config : WebAuthnConfig} {response : RegistrationResponse}
    {info : RegistrationInfo} {challengeId : Nat} {found : DeviceRow}
    (hmode : found.authBindingMode ≠ .DEVICE_TOKEN)
    (h : enrollTransaction config response info challengeId found now s = .ok (u, t)) :
    AuthMove rt env s t := by
  simp only [enrollTransaction, bind_ok, get_ok, orFault_ok, update_ok, rejectIf_ok] at h
  obtain ⟨_, _, ⟨rfl, rfl⟩, challenge, _, ⟨-, rfl⟩, _, _, rfl, d, _, ⟨hd, rfl⟩, _, _, rfl, _, _,
    ⟨-, rfl⟩, _, _, rfl, rfl⟩ := h
  obtain ⟨hrow, hsame⟩ := Option.filter_eq_some_iff.1 hd
  simp only [Bool.and_eq_true, decide_eq_true_eq] at hsame
  refine .enrolled hrow ?_ ⟨rfl, rfl⟩
  rw [hsame.1.2]
  exact hmode

lemma revokeCredentialTransaction_move {cid : Nat}
    (h : revokeCredentialTransaction tenantId scope i cid now s = .ok (u, t)) :
    AuthMove rt env s t := by
  simp only [revokeCredentialTransaction, bind_ok, get_ok, orFault_ok, update_ok] at h
  obtain ⟨_, _, ⟨rfl, rfl⟩, _, _, ⟨-, rfl⟩, c, _, ⟨hc, rfl⟩, _, _, rfl, _, _, rfl, rfl⟩ := h
  obtain ⟨hrow, hok⟩ := Option.filter_eq_some_iff.1 hc
  simp only [Bool.and_eq_true, decide_eq_true_eq] at hok
  obtain ⟨⟨rfl, -⟩, -⟩ := hok
  exact .credentialRevoked hrow

lemma updatedDevice_tenant (data : DeviceUpdate) :
    (updatedDevice rt env data d).tenantId = d.tenantId := by
  by_cases htransition : deviceTokenModeTransition data d <;> by_cases hrotates : data.rotates <;>
    simp [updatedDevice, htransition, hrotates]

lemma updatedDevice_mode (data : DeviceUpdate) : (updatedDevice rt env data d).authBindingMode =
    if deviceTokenModeTransition data d then .UNPAIRED else d.authBindingMode := by
  by_cases htransition : deviceTokenModeTransition data d <;> by_cases hrotates : data.rotates <;>
    simp [updatedDevice, htransition, hrotates]

lemma updatedDevice_status (data : DeviceUpdate) :
    (updatedDevice rt env data d).status = data.status.getD d.status := by
  by_cases htransition : deviceTokenModeTransition data d <;> by_cases hrotates : data.rotates <;>
    simp [updatedDevice, htransition, hrotates]

lemma status_of_not_transition {data : DeviceUpdate}
    (h : deviceTokenModeTransition data d = false) (hmode : d.authBindingMode = .DEVICE_TOKEN) :
    data.status.getD d.status = d.status := by
  cases hst : data.status with
  | none => rfl
  | some st =>
      simp only [deviceTokenModeTransition, hmode, hst, decide_true, Bool.true_and, Option.any_some,
        decide_eq_false_iff_not, not_not] at h
      exact h

lemma checkUpdate_rotates {data : DeviceUpdate} (h : checkUpdate data d = .ok ())
    (hrotates : data.rotates = true) : d.authBindingMode = .HMAC_LEGACY := by
  unfold checkUpdate at h
  by_contra hmode
  rw [if_pos (by simp [hrotates, hmode])] at h
  cases h

lemma updateTransaction_move {data : DeviceUpdate} {device : DeviceRow}
    {presentedToken : Option String} {r : DeviceProvisioningResponse}
    (h : updateTransaction rt env tenantId scope i data device key requestHash presentedToken s =
      .ok (r, t)) : AuthMove rt env s t := by
  simp only [updateTransaction, bind_ok, get_ok, orFault_ok, rejectIf_ok] at h
  obtain ⟨_, _, ⟨rfl, rfl⟩, d, _, ⟨hd, rfl⟩, _, _, ⟨-, rfl⟩, h⟩ := h
  obtain ⟨hrow, rfl⟩ := findDevice_some hd
  cases hcheck : checkUpdate data d with
  | error fault => simp [hcheck] at h
  | ok =>
      simp only [hcheck, bind_ok, rejectIf_ok, update_ok, onlyIf_ok, pure_ok] at h
      obtain ⟨_, v, hv, _, _, ⟨-, rfl⟩, _, _, ⟨-, rfl⟩, _, _, rfl, _, w, hw, _, y, hy, -, rfl⟩ := h
      obtain ⟨records, rfl⟩ := createAuthRecord_ok hv
      have htenant : (updatedDevice rt env data d).tenantId = d.tenantId :=
        updatedDevice_tenant data
      have hmode : (updatedDevice rt env data d).authBindingMode =
          if deviceTokenModeTransition data d then .UNPAIRED else d.authBindingMode :=
        updatedDevice_mode data
      have hstatus : (updatedDevice rt env data d).status = data.status.getD d.status :=
        updatedDevice_status data
      by_cases hunbound : deviceTokenModeTransition data d = true ∨ deactivates data = true
      · -- the token is taken away with the sessions
        obtain ⟨-, rfl⟩ | ⟨hn, -⟩ := hw
        · have hrevoke : shouldRevokeSessions data d = true := by
            rcases hunbound with h | h <;> simp [shouldRevokeSessions, h]
          obtain ⟨-, _, z, rfl, rfl⟩ | ⟨hn, -⟩ := hy
          · refine .unbound hrow htenant ?_
            by_cases htransition : deviceTokenModeTransition data d = true
            · rw [if_pos htransition] at hmode
              simp only [deviceTokenModeTransition, Bool.and_eq_true, decide_eq_true_eq]
                at htransition
              exact .inl ⟨htransition.1, hmode⟩
            · rw [if_neg htransition] at hmode
              refine .inr ⟨hmode, fun htoken hactive => ?_⟩
              have hkept := status_of_not_transition (by simpa using htransition) htoken
              have hdeactivates := hunbound.resolve_left htransition
              cases hst : data.status with
              | none => simp [deactivates, hst] at hdeactivates
              | some st =>
                  simp only [deactivates, hst, Option.any_some, decide_eq_true_eq] at hdeactivates
                  rw [hst, Option.getD_some, hactive] at hkept
                  exact hdeactivates hkept
          · exact absurd hrevoke hn
        · exact absurd hunbound hn
      · obtain ⟨h, -⟩ | ⟨-, rfl⟩ := hw
        · exact absurd h hunbound
        obtain ⟨htransition, hactive⟩ := not_or.1 hunbound
        rw [if_neg htransition] at hmode
        obtain ⟨hrevoke, _, z, rfl, rfl⟩ | ⟨-, rfl⟩ := hy
        · have hrotates : data.rotates = true := by
            simpa [shouldRevokeSessions, htransition, hactive] using hrevoke
          exact .rotated hrow htenant (checkUpdate_rotates hcheck hrotates) hmode
        · refine .deviceKept hrow htenant hmode fun htoken => ?_
          rw [hstatus]
          exact status_of_not_transition (by simpa using htransition) htoken

end BranchesService

namespace AuthService

variable {rt : AuthRuntime} {env : AuthSurroundings} {s t : AuthStore}

lemma issueSession_ok {user : Option AuthUser} {r : SessionRequest} {x : IssuedSession}
    (h : issueSession rt env user r s = .ok (x, t)) :
    x.sessionId = s.sessions.length ∧ x.session = r.session rt env ∧
      t = { s with sessions := s.sessions ++ [r.session rt env] } := by
  simp only [issueSession, bind_ok, get_ok, rejectIf_ok, orFault_ok, update_ok, pure_ok] at h
  obtain ⟨_, _, ⟨-, rfl⟩, u, _, ⟨-, rfl⟩, _, _, ⟨rfl, rfl⟩, _, _, ⟨-, rfl⟩, _, _, rfl, rfl, rfl⟩ :=
    h
  exact ⟨rfl, rfl, rfl⟩

lemma recordDeviceAttestation_ok {tenantId : String} {i : Nat} {a : Attestation} {now : Int}
    {u : Unit} (h : recordDeviceAttestation tenantId i a now s = .ok (u, t)) :
    ∃ rows, t = { s with deviceAttestations := rows } ∧
      NonceRecorded tenantId i a now s.deviceAttestations rows := by
  simp only [recordDeviceAttestation, bind_ok, get_ok, rejectIf_ok, update_ok] at h
  obtain ⟨_, _, rfl, _, _, ⟨rfl, rfl⟩, _, _, ⟨hunused, rfl⟩, rfl⟩ := h
  refine ⟨_, rfl, ?_, ?_, ?_⟩
  · intro r hr htenant hdevice hlive hnonce
    refine hunused ⟨r, List.mem_filter.2 ⟨hr, ?_⟩, htenant, hdevice, .inl hnonce⟩
    simp [hlive]
  · intro r hr hlive
    refine ⟨r, List.mem_append_left _ (List.mem_filter.2 ⟨hr, ?_⟩), rfl, rfl, rfl, rfl⟩
    by_cases hdevice : r.deviceId = i
    · simp [hlive hdevice]
    · simp [hdevice]
  · exact ⟨_, List.mem_append_right _ (List.mem_singleton.2 rfl), rfl, rfl, rfl, rfl⟩

lemma nonceRecorded_linked {tenantId tenantId' : String} {i i' : Nat} {a : Attestation}
    {now : Int} {nonce : String} {sid : Nat} {rows rows' : List DeviceAttestation}
    (h : NonceRecorded tenantId i a now rows rows') :
    NonceRecorded tenantId i a now rows (rows'.map fun r =>
      if r.tenantId = tenantId' ∧ r.deviceId = i' ∧ r.nonce = nonce then
        { r with issuedSessionId := some sid }
      else r) := by
  have hmap : ∀ r ∈ rows', ∃ r' ∈ rows'.map (fun r =>
      if r.tenantId = tenantId' ∧ r.deviceId = i' ∧ r.nonce = nonce then
        { r with issuedSessionId := some sid }
      else r), r'.tenantId = r.tenantId ∧ r'.deviceId = r.deviceId ∧ r'.nonce = r.nonce ∧
        r'.expiresAt = r.expiresAt := by
    intro r hr
    refine ⟨_, List.mem_map_of_mem hr, ?_⟩
    split <;> exact ⟨rfl, rfl, rfl, rfl⟩
  refine ⟨h.unused, fun r hr hlive => ?_, ?_⟩
  · obtain ⟨r', hr', h1, h2, h3, h4⟩ := h.kept r hr hlive
    obtain ⟨r'', hr'', k1, k2, k3, k4⟩ := hmap r' hr'
    exact ⟨r'', hr'', k1.trans h1, k2.trans h2, k3.trans h3, k4.trans h4⟩
  · obtain ⟨r, hr, h1, h2, h3, h4⟩ := h.recorded
    obtain ⟨r', hr', k1, k2, k3, k4⟩ := hmap r hr
    exact ⟨r', hr', k1.trans h1, k2.trans h2, k3.trans h3, k4.trans h4⟩

lemma loginTransaction_move {signedIn : SignedIn} {user : Option AuthUser} {r : LoginResult}
    (hseen : signedIn.userSeen ≤ s.seen)
    (h : loginTransaction rt env signedIn none user s = .ok (r, t)) : AuthMove rt env s t := by
  simp only [loginTransaction, bind_ok, pure_ok] at h
  obtain ⟨x, v, hv, -, rfl⟩ := h
  obtain ⟨-, -, rfl⟩ := issueSession_ok hv
  exact .loggedIn rfl ⟨rfl, rfl⟩ rfl ⟨hseen, Nat.zero_le _⟩

lemma attestedTransaction_move {signedIn : SignedIn} {d : LoginDevice} {text : String}
    {a : Attestation} {user : Option AuthUser} {r : LoginResult}
    (hseen : signedIn.userSeen ≤ s.seen ∧ d.deviceSeen ≤ s.seen) {row : DeviceRow}
    (hrow : s.devices[d.deviceId]? = some row) (htenant : row.tenantId = signedIn.user.tenantId)
    (hvalid : Attests rt d.deviceId text a)
    (h : loginTransaction rt env signedIn (some (d, text, a)) user s = .ok (r, t)) :
    AuthMove rt env s t := by
  simp only [loginTransaction, linkDeviceAttestation, bind_ok, update_ok, pure_ok] at h
  obtain ⟨_, v, hv, x, w, hw, _, y, rfl, -, rfl⟩ := h
  obtain ⟨rows, rfl, hnonce⟩ := recordDeviceAttestation_ok hv
  obtain ⟨-, -, rfl⟩ := issueSession_ok hw
  rw [← htenant] at hnonce
  exact .attested rfl ⟨rfl, rfl⟩ rfl hseen hrow hvalid (nonceRecorded_linked hnonce)

lemma tokenLoginTransaction_move {signedIn : SignedIn} {token : String}
    {cid i deviceSeen : Nat} {currentUser user : Option AuthUser} {x : IssuedSession}
    (hseen : signedIn.userSeen ≤ s.seen ∧ deviceSeen ≤ s.seen)
    (hheld : ∀ c, s.deviceTokenCredentials[cid]? = some c → c.status = .ACTIVE →
      ¬ s.RevokedSince deviceSeen (.device c.deviceId))
    (h : tokenLoginTransaction rt env signedIn token cid i deviceSeen currentUser user s =
      .ok (x, t)) : AuthMove rt env s t := by
  simp only [tokenLoginTransaction, bind_ok, get_ok, orFault_ok, rejectIf_ok, update_ok] at h
  obtain ⟨_, _, ⟨rfl, rfl⟩, d, _, ⟨-, rfl⟩, u, _, ⟨-, rfl⟩, c, _, ⟨hc, rfl⟩, _, _, ⟨-, rfl⟩, _, _,
    rfl, hissue⟩ := h
  obtain ⟨hrow, hok⟩ := Option.filter_eq_some_iff.1 hc
  simp only [Bool.and_eq_true, decide_eq_true_eq] at hok
  obtain ⟨⟨⟨-, rfl⟩, hactive⟩, -⟩ := hok
  obtain ⟨-, -, rfl⟩ := issueSession_ok hissue
  exact .tokenLogin rfl hrow ⟨rfl, rfl⟩ rfl hseen (hheld c hrow hactive)

lemma createLoginAttempt_move {a : CashierLoginAttempt} {u : Unit}
    (hunconsumed : a.consumedAt = none)
    (hseen : a.userSeen ≤ s.seen) (h : createLoginAttempt a s = .ok (u, t)) :
    AuthMove rt env s t := by
  simp only [createLoginAttempt, bind_ok, get_ok, rejectIf_ok, update_ok] at h
  obtain ⟨_, _, ⟨rfl, rfl⟩, _, _, ⟨-, rfl⟩, rfl⟩ := h
  exact .attempted hunconsumed hseen

lemma counterMoved {c : DeviceWebAuthnCredential} {info : AuthenticationInfo}
    (h : acceptableAssertion c info = true) :
    CounterMoved c { c with signCount := max c.signCount info.newCounter } := by
  refine ⟨rfl, le_max_left _ _, fun hpos => ?_⟩
  simp only [acceptableAssertion, Bool.and_eq_true, Bool.not_eq_true', Bool.and_eq_false_iff,
    decide_eq_false_iff_not] at h
  have hlt : c.signCount < info.newCounter := by
    rcases h.2 with h | h
    · exact absurd hpos h
    · exact not_le.1 h
  exact lt_of_lt_of_le hlt (le_max_right _ _)

lemma completeTransaction_move {config : WebAuthnConfig} {assertion : Json} {aid cid : Nat}
    {attempt : CashierLoginAttempt} {currentUser user : Option AuthUser} {x : IssuedSession}
    (hseen : attempt.userSeen ≤ s.seen)
    (h : completeTransaction rt env config assertion aid attempt cid currentUser user s =
      .ok (x, t)) : AuthMove rt env s t := by
  simp only [completeTransaction, bind_ok, get_ok, orFault_ok, rejectIf_ok, update_ok,
    onlyIf_ok] at h
  obtain ⟨_, _, ⟨rfl, rfl⟩, d, _, ⟨-, rfl⟩, c, _, ⟨hc, rfl⟩, info, _, ⟨-, rfl⟩, _, _, ⟨hacc, rfl⟩,
    a, _, ⟨ha, rfl⟩, _, _, rfl, _, w, hw, cu, _, ⟨-, rfl⟩, _, _, ⟨-, rfl⟩, hissue⟩ := h
  obtain ⟨hrow, hok⟩ := Option.filter_eq_some_iff.1 hc
  obtain ⟨harow, haok⟩ := Option.filter_eq_some_iff.1 ha
  simp only [Bool.and_eq_true, decide_eq_true_eq] at hok
  have hdevice : some attempt.deviceId = some c.deviceId := congrArg some hok.1.1.1.symm
  simp only [Bool.and_eq_true, Option.isNone_iff_eq_none] at haok
  have hcounter := counterMoved (by simpa using hacc)
  obtain ⟨-, -, rfl⟩ := issueSession_ok hissue
  have hw' : w = { s with
      cashierLoginAttempts := s.cashierLoginAttempts.set aid { a with consumedAt := some env.now }
      deviceWebAuthnCredentials := s.deviceWebAuthnCredentials.set cid
        { c with signCount := max c.signCount info.newCounter } } := by
    obtain ⟨hlt, rfl⟩ | ⟨hle, rfl⟩ := hw
    · rw [max_eq_right hlt.le]
    · obtain ⟨hlt, hc⟩ := List.getElem?_eq_some_iff.1 hrow
      have hsame : s.deviceWebAuthnCredentials.set cid c = s.deviceWebAuthnCredentials := by
        rw [← hc]
        exact List.set_getElem_self hlt
      rw [max_eq_left (not_lt.1 hle), hsame]
  rw [hw']
  exact .completed rfl harow haok.1 hrow hcounter ⟨hdevice, rfl⟩ rfl ⟨hseen, rfl⟩

lemma refreshTransaction_move {sid seen : Nat} {currentUser user : Option AuthUser}
    {x : IssuedSession} (hseen : seen ≤ s.seen)
    (hlater : ∀ old, s.sessions[sid]? = some old →
      old.evidence.userSeen ≤ seen ∧ old.evidence.deviceSeen ≤ seen)
    (h : refreshTransaction rt env sid seen currentUser user s = .ok (x, t)) :
    AuthMove rt env s t := by
  simp only [refreshTransaction, bind_ok, get_ok, orFault_ok, rejectIf_ok, update_ok] at h
  obtain ⟨_, _, ⟨rfl, rfl⟩, old, _, ⟨hold, rfl⟩, _, _, rfl, cu, _, ⟨-, rfl⟩, _, _, ⟨-, rfl⟩,
    hissue⟩ := h
  obtain ⟨hrow, hok⟩ := Option.filter_eq_some_iff.1 hold
  simp only [Bool.and_eq_true, decide_eq_true_eq] at hok
  obtain ⟨-, -, rfl⟩ := issueSession_ok hissue
  exact .refreshed rfl hrow hok.1 ⟨rfl, rfl, rfl⟩ rfl ⟨hseen, hseen⟩ (hlater old hrow)

end AuthService

lemma UsersService.changeUser_move {rt : AuthRuntime} {env : AuthSurroundings} {s t : AuthStore}
    {userId : String} {f : AuthUser → AuthUser} {key : AuthRequestKey} {requestHash : Digest}
    {swept : Option (List Nat × Nat)} {now : Int} {user : AuthUser}
    (hswept : ∀ ids n, swept = some (ids, n) → ∀ (j : Nat) (x : Session), j < n →
      s.sessions[j]? = some x → x.userId = userId → j ∈ ids)
    (h : changeUser userId f key requestHash swept now s = .ok (user, t)) :
    AuthMove rt env s t := by
  simp only [changeUser, bind_ok, get_ok, orFault_ok, update_ok] at h
  obtain ⟨_, v, hv, _, _, ⟨rfl, rfl⟩, u, _, ⟨-, rfl⟩, _, _, rfl, h⟩ := h
  obtain ⟨records, rfl⟩ := BranchesService.createAuthRecord_ok hv
  cases swept with
  | none =>
      simp only [pure_ok] at h
      obtain ⟨-, rfl⟩ := h
      exact .userKept
  | some seen =>
      simp only [bind_ok, update_ok, pure_ok] at h
      obtain ⟨_, _, rfl, -, rfl⟩ := h
      exact .userRevoked (hswept _ _ rfl)

end ShopcityLoyalty
