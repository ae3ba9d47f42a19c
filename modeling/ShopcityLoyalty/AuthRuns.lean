import ShopcityLoyalty.AuthRows

/-!
That every request of sign-in and of device administration makes moves only, whatever other
requests do in between, and what follows for the stores that runs reach.

A request goes on with what it has read. What a later statement relies on of it is kept by
every move: a stamp stays in the past, a device stays under its tenant, an active token has
not had its device's sessions revoked, and a sweep has seen the rows it went through.
-/

namespace ShopcityLoyalty

open Process

variable {rt : AuthRuntime} {α β : Type} {I : AuthStore → Prop}

/-! ### What is kept between statements -/

lemma keptBy_good : KeptBy (AuthMove rt) AuthStore.Good := fun _ _ _ hs hmove => hmove.good hs

/-- A good store in which stamps up to `k` lie in the past. -/
def AuthStore.Since (k : Nat) (s : AuthStore) : Prop := s.Good ∧ k ≤ s.seen

lemma keptBy_since {k : Nat} : KeptBy (AuthMove rt) (AuthStore.Since k) := by
  intro env s t hs hmove
  exact ⟨hmove.good hs.1, hs.2.trans hmove.seen_le⟩

/-- A device is under a tenant. -/
def AuthStore.HasDevice (i : Nat) (tenantId : String) (s : AuthStore) : Prop :=
  ∃ d, s.devices[i]? = some d ∧ d.tenantId = tenantId

lemma keptBy_hasDevice {i : Nat} {tenantId : String} :
    KeptBy (AuthMove rt) (AuthStore.HasDevice i tenantId) := by
  rintro env s t ⟨d, hd, rfl⟩ hmove
  exact hmove.device_row hd

/-- While a token credential is active, its device's sessions were not revoked since `k`. -/
def AuthStore.HoldsToken (k cid : Nat) (s : AuthStore) : Prop :=
  s.Since k ∧ cid < s.deviceTokenCredentials.length ∧
    ∀ c, s.deviceTokenCredentials[cid]? = some c → c.status = .ACTIVE →
      ¬ s.RevokedSince k (.device c.deviceId)

lemma AuthStore.revokedSince_append {s t : AuthStore} {new : List Revocation} {k : Nat}
    {r : Revocation} (hnew : t.revocations = s.revocations ++ new) (hk : k ≤ s.seen) :
    t.RevokedSince k r ↔ s.RevokedSince k r ∨ r ∈ new := by
  unfold AuthStore.RevokedSince
  rw [hnew, List.drop_append_of_le_length hk, List.mem_append]

lemma tokens_length {env : AuthSurroundings} {s t : AuthStore} (hmove : AuthMove rt env s t) :
    s.deviceTokenCredentials.length ≤ t.deviceTokenCredentials.length := by
  cases hmove with
  | paired => simp [AuthStore.revokeTokenCredentials, AuthStore.updateTokenCredentials]
  | reset => simp [AuthStore.revokeTokenCredentials, AuthStore.updateTokenCredentials]
  | unbound => simp [AuthStore.revokeTokenCredentials, AuthStore.updateTokenCredentials]
  | tokenLogin => simp
  | _ => exact le_rfl

lemma keptBy_holdsToken {k cid : Nat} : KeptBy (AuthMove rt) (AuthStore.HoldsToken k cid) := by
  rintro env s t ⟨hsince, hlt, hheld⟩ hmove
  refine ⟨keptBy_since env s t hsince hmove, hlt.trans_le (tokens_length hmove),
    fun c hc hactive => ?_⟩
  obtain ⟨c₀, new, hc₀, hdevice, hactive₀, hnew, hnot⟩ :=
    hmove.token_row hsince.1.bound hlt hc hactive
  rw [AuthStore.revokedSince_append hnew hsince.2, ← hdevice]
  rw [← hdevice] at hnot
  exact not_or.2 ⟨hheld c₀ hc₀ hactive₀, hnot⟩

/-- A session whose stamps are up to `k`. -/
def AuthStore.HasSession (sid k : Nat) (s : AuthStore) : Prop :=
  ∃ x, s.sessions[sid]? = some x ∧ x.evidence.userSeen ≤ k ∧ x.evidence.deviceSeen ≤ k

lemma keptBy_hasSession {sid k : Nat} : KeptBy (AuthMove rt) (AuthStore.HasSession sid k) := by
  rintro env s t ⟨x, hx, hle⟩ hmove
  obtain ⟨new, hafter, -⟩ := hmove.sessions
  obtain ⟨x', hx', hkept⟩ := hafter.row hx
  refine ⟨x', hx', ?_⟩
  rw [hkept.same.2.2.2]
  exact hle

/-- The ids are those of the user's sessions among the first `n`. -/
def AuthStore.Swept (userId : String) (seen : List Nat × Nat) (s : AuthStore) : Prop :=
  seen.2 ≤ s.sessions.length ∧ ∀ (j : Nat) (x : Session), j < seen.2 →
    s.sessions[j]? = some x → x.userId = userId → j ∈ seen.1

lemma keptBy_swept {userId : String} {seen : List Nat × Nat} :
    KeptBy (AuthMove rt) (AuthStore.Swept userId seen) := by
  rintro env s t ⟨hle, hswept⟩ hmove
  obtain ⟨new, hafter, -⟩ := hmove.sessions
  have hlength := hafter.length
  refine ⟨by omega, fun j x hj hx huser => ?_⟩
  have hrow : s.sessions[j]? = some s.sessions[j] := List.getElem?_eq_getElem (by omega)
  refine hswept j _ hj hrow ?_
  rw [← (hafter.kept hrow hx).same.1]
  exact huser

/-! ### Statements -/

lemma movesFrom_readAuth {K : β → AuthStore → Prop} {f : AuthSurroundings → AuthStore → β}
    {next : β → AuthHandling α} (hI : KeptBy (AuthMove rt) I)
    (hK : ∀ env s, I s → K (f env s) s) (hnext : ∀ b, MovesFrom (AuthMove rt) (K b) (next b)) :
    MovesFrom (AuthMove rt) I (readAuth f >>= next) :=
  movesFrom_read (fun _ _ => .stay) hI hK hnext

lemma movesFrom_look {f : AuthSurroundings → AuthStore → β} {next : β → AuthHandling α}
    (hI : KeptBy (AuthMove rt) I) (hnext : ∀ b, MovesFrom (AuthMove rt) I (next b)) :
    MovesFrom (AuthMove rt) I (readAuth f >>= next) :=
  movesFrom_readAuth (K := fun _ => I) hI (fun _ _ h => h) hnext

lemma movesFrom_commit {m : AuthSurroundings → AuthTx α} (hI : KeptBy (AuthMove rt) I)
    (hm : ∀ env s a t, I s → m env s = .ok (a, t) → AuthMove rt env s t) :
    MovesFrom (AuthMove rt) I (Process.transaction m) :=
  movesFrom_transaction (fun _ _ => .stay) hI hm

lemma movesFrom_ite {c : Prop} [Decidable c] {p q : AuthHandling α}
    (hp : c → MovesFrom (AuthMove rt) I p) (hq : ¬ c → MovesFrom (AuthMove rt) I q) :
    MovesFrom (AuthMove rt) I (if c then p else q) := by
  by_cases h : c
  · rw [if_pos h]
    exact hp h
  · rw [if_neg h]
    exact hq h

lemma movesFrom_answer {p : AuthHandling α} {f : α → β} (hI : KeptBy (AuthMove rt) I)
    (hp : MovesFrom (AuthMove rt) I p) :
    MovesFrom (AuthMove rt) I (p >>= fun a => Process.done (f a)) :=
  MovesFrom.bind hI hp fun _ => movesFrom_done

namespace BranchesService

lemma findDeviceIdempotency_moves {key : AuthRequestKey} {requestHash : Digest} :
    MovesFrom (AuthMove rt) AuthStore.Good (findDeviceIdempotency key requestHash) := by
  refine movesFrom_act (K := fun _ => AuthStore.Good) keptBy_good (fun _ _ _ => .recorded)
    (fun env s hs => ?_) fun existing => ?_
  · exact AuthMove.good (.recorded : AuthMove rt env s _) hs
  · change MovesFrom _ _ (Process.ofExcept (checkAuthRecord existing requestHash))
    cases checkAuthRecord existing requestHash with
    | ok r => exact movesFrom_done
    | error e => exact movesFrom_fail

variable {tenantId : String} {actor : AuthContext} {deviceId : Nat}

lemma pairDeviceToken_moves :
    MovesFrom (AuthMove rt) AuthStore.Good (pairDeviceToken rt tenantId actor deviceId) := by
  refine movesFrom_look keptBy_good fun token => ?_
  cases hashDeviceToken rt token with
  | none => exact movesFrom_fail
  | some tokenHash =>
      refine movesFrom_ofExcept fun scope _ => movesFrom_look keptBy_good fun available => ?_
      refine movesFrom_ite (fun _ => movesFrom_fail) fun _ =>
        movesFrom_look keptBy_good fun now => ?_
      refine movesFrom_commit keptBy_good fun env s a t _ h => ?_
      obtain ⟨u, v, hv, h⟩ := Txn.bind_ok.1 h
      obtain ⟨-, rfl⟩ := Txn.pure_ok.1 h
      exact pairTransaction_move hv

lemma resetDeviceToken_moves {presentedToken : Option String} :
    MovesFrom (AuthMove rt) AuthStore.Good
      (resetDeviceToken rt tenantId actor deviceId presentedToken) := by
  refine movesFrom_ofExcept fun scope _ => movesFrom_look keptBy_good fun available => ?_
  refine movesFrom_ite (fun _ => movesFrom_fail) fun _ => movesFrom_look keptBy_good fun now => ?_
  exact movesFrom_commit keptBy_good fun env s a t _ h => resetTransaction_move h

lemma createDevice_moves {branchId name : String} {idempotencyKey : Option String} :
    MovesFrom (AuthMove rt) AuthStore.Good
      (createDevice tenantId actor branchId name idempotencyKey) := by
  refine movesFrom_ofExcept fun key _ => ?_
  refine MovesFrom.bind keptBy_good findDeviceIdempotency_moves fun existing => ?_
  cases existing with
  | some response => exact movesFrom_done
  | none =>
      refine movesFrom_ofExcept fun scope _ => movesFrom_ite (fun _ => movesFrom_fail) fun _ => ?_
      refine movesFrom_look keptBy_good fun branch => ?_
      refine movesFrom_ite (fun _ => movesFrom_fail) fun _ => ?_
      exact movesFrom_commit keptBy_good fun env s a t _ h => createDeviceTransaction_move h

lemma createDeviceEnrollment_moves :
    MovesFrom (AuthMove rt) AuthStore.Good (createDeviceEnrollment rt tenantId actor deviceId) := by
  refine movesFrom_ofExcept fun config _ => movesFrom_ofExcept fun scope _ => ?_
  refine movesFrom_look keptBy_good fun device => ?_
  cases device with
  | none => exact movesFrom_fail
  | some device =>
      refine movesFrom_look keptBy_good fun env₀ => ?_
      refine movesFrom_commit keptBy_good fun env s a t _ h => ?_
      obtain ⟨u, v, hv, h⟩ := Txn.bind_ok.1 h
      obtain ⟨-, rfl⟩ := Txn.pure_ok.1 h
      exact createEnrollmentChallenge_move hv

lemma enrollable_mode {env : AuthSurroundings} {s : AuthStore}
    {challenge : DeviceEnrollmentChallenge}
    {found : DeviceRow} (h : enrollable env s challenge = some found) :
    found.authBindingMode ≠ .DEVICE_TOKEN := by
  obtain ⟨-, hok⟩ := Option.filter_eq_some_iff.1 h
  simp only [Bool.and_eq_true] at hok
  cases hpurpose : challenge.purpose with
  | PAIRING =>
      simp only [hpurpose, Bool.and_eq_true, decide_eq_true_eq] at hok
      exact hok.2.2
  | REPAIR =>
      simp only [hpurpose, decide_eq_true_eq] at hok
      rw [hok.2]
      simp

lemma completeDeviceEnrollment_moves {authorizationToken : Option String}
    {response : RegistrationResponse} :
    MovesFrom (AuthMove rt) AuthStore.Good
      (completeDeviceEnrollment rt deviceId authorizationToken response) := by
  refine MovesFrom.catching keptBy_good ?_ fun _ => movesFrom_fail
  refine movesFrom_ofExcept fun config _ => movesFrom_ite (fun _ => movesFrom_fail) fun _ => ?_
  refine movesFrom_look keptBy_good fun challenge => ?_
  cases challenge with
  | none => exact movesFrom_fail
  | some challenge =>
      obtain ⟨challengeId, challenge⟩ := challenge
      cases hinfo : rt.verifyRegistrationResponse response.response
          (fun candidate => hashSecret candidate = challenge.challengeHash) config with
      | none =>
          simp only [hinfo]
          exact movesFrom_fail
      | some info =>
          simp only [hinfo]
          refine movesFrom_ite (fun _ => movesFrom_fail) fun _ => ?_
          refine movesFrom_look keptBy_good fun now => ?_
          refine movesFrom_readAuth
            (K := fun found s => s.Good ∧ ∀ d, found = some d → d.authBindingMode ≠ .DEVICE_TOKEN)
            keptBy_good (fun env s hs => ⟨hs, fun d hd => enrollable_mode hd⟩) fun found => ?_
          cases found with
          | none => exact movesFrom_fail
          | some found =>
              by_cases hmode : found.authBindingMode = .DEVICE_TOKEN
              · exact ⟨fun s hs => absurd hmode (hs.2 found rfl)⟩
              · refine MovesFrom.mono (I := AuthStore.Good) ?_ fun s hs => hs.1
                exact movesFrom_commit keptBy_good fun env s a t _ h =>
                  enrollTransaction_move hmode h

lemma revokeDeviceCredential_moves {credentialId : Nat} :
    MovesFrom (AuthMove rt) AuthStore.Good
      (revokeDeviceCredential tenantId actor deviceId credentialId) := by
  refine movesFrom_ofExcept fun scope _ => movesFrom_look keptBy_good fun device => ?_
  cases device with
  | none => exact movesFrom_fail
  | some device =>
      exact movesFrom_commit keptBy_good fun env s a t _ h => revokeCredentialTransaction_move h

lemma completeAuthRecord_moves {key : AuthRequestKey} {response : StoredResponse} :
    MovesFrom (AuthMove rt) AuthStore.Good
      (Process.transaction fun _ => completeAuthRecord key response) := by
  refine movesFrom_commit keptBy_good fun env s a t _ h => ?_
  obtain ⟨records, rfl⟩ := completeAuthRecord_ok h
  exact .recorded

lemma updateDevice_moves {data : DeviceUpdate} {idempotencyKey presentedToken : Option String} :
    MovesFrom (AuthMove rt) AuthStore.Good
      (updateDevice rt tenantId actor deviceId data idempotencyKey presentedToken) := by
  refine movesFrom_ofExcept fun key _ => ?_
  refine MovesFrom.bind keptBy_good findDeviceIdempotency_moves fun existing => ?_
  cases existing with
  | some response => exact movesFrom_done
  | none =>
      refine movesFrom_ofExcept fun scope _ => movesFrom_look keptBy_good fun device => ?_
      cases device with
      | none => exact movesFrom_fail
      | some device =>
          refine movesFrom_ofExcept fun _ _ => ?_
          refine MovesFrom.bind keptBy_good
            (movesFrom_commit keptBy_good fun env s a t _ h => updateTransaction_move h)
              fun response => ?_
          exact MovesFrom.bind keptBy_good completeAuthRecord_moves fun _ => movesFrom_done

end BranchesService

namespace AuthService

lemma movesFrom_eligibleUser {userId : String} {next : Option AuthUser → AuthHandling α}
    (hI : KeptBy (AuthMove rt) I) (hnext : ∀ u, MovesFrom (AuthMove rt) I (next u)) :
    MovesFrom (AuthMove rt) I (eligibleUser userId >>= next) :=
  movesFrom_look hI hnext

variable {signedIn : SignedIn}

lemma loginWithDeviceToken_moves {token : String} :
    MovesFrom (AuthMove rt) (AuthStore.Since signedIn.userSeen)
      (loginWithDeviceToken rt signedIn token) := by
  unfold loginWithDeviceToken
  cases hashDeviceToken rt token with
  | none => exact movesFrom_fail
  | some presentedHash =>
      -- the credential is active where it is read, and nothing was revoked since
      let K : Option ((Nat × DeviceTokenCredential) × Nat) → AuthStore → Prop := fun found s =>
        ∀ r, found = some r → s.Since signedIn.userSeen ∧ s.HoldsToken r.2 r.1.1
      refine movesFrom_readAuth (K := K) keptBy_since (fun env s hs r hr => ?_) fun found => ?_
      · obtain ⟨found, hfound, rfl⟩ := Option.map_eq_some_iff.1 hr
        obtain ⟨hfind, -⟩ := Option.filter_eq_some_iff.1 hfound
        obtain ⟨hrow, -⟩ := Table.find_some hfind
        refine ⟨hs, ⟨hs.1, le_rfl⟩, Table.lt_of_getElem? hrow, fun c _ _ => ?_⟩
        simp [AuthStore.RevokedSince]
      · cases found with
        | none => exact movesFrom_fail
        | some found =>
            obtain ⟨⟨credentialId, credential⟩, deviceSeen⟩ := found
            have hkept : KeptBy (AuthMove rt) fun s =>
                s.Since signedIn.userSeen ∧ s.HoldsToken deviceSeen credentialId :=
              keptBy_since.and keptBy_holdsToken
            refine MovesFrom.mono ?_ fun s hs => hs _ rfl
            refine movesFrom_eligibleUser hkept fun currentUser => ?_
            refine movesFrom_eligibleUser hkept fun user => ?_
            refine MovesFrom.catching hkept ?_ fun _ => movesFrom_fail
            refine movesFrom_commit hkept fun env s a t hs h => ?_
            exact tokenLoginTransaction_move ⟨hs.1.2, hs.2.1.2⟩ hs.2.2.2 h

lemma beginCashierWebAuthnLogin_moves {d : LoginDevice} :
    MovesFrom (AuthMove rt) (AuthStore.Since signedIn.userSeen)
      (beginCashierWebAuthnLogin rt signedIn d) := by
  refine movesFrom_ofExcept fun config _ => movesFrom_ite (fun _ => movesFrom_fail) fun _ => ?_
  refine movesFrom_look keptBy_since fun env₀ => ?_
  refine movesFrom_commit keptBy_since fun env s a t hs h => ?_
  obtain ⟨u, v, hv, h⟩ := Txn.bind_ok.1 h
  obtain ⟨-, rfl⟩ := Txn.pure_ok.1 h
  exact createLoginAttempt_move rfl hs.2 hv

/-- What a login relies on of the device it read. -/
def LoginDevice.Known (d : LoginDevice) (signedIn : SignedIn) (s : AuthStore) : Prop :=
  s.Since signedIn.userSeen ∧ s.Since d.deviceSeen ∧
    s.HasDevice d.deviceId signedIn.user.tenantId

lemma keptBy_known {d : LoginDevice} : KeptBy (AuthMove rt) (d.Known signedIn) :=
  keptBy_since.and (keptBy_since.and keptBy_hasDevice)

lemma loginWithAttestation_moves {d : LoginDevice} {deviceAttestation : Option String} :
    MovesFrom (AuthMove rt) (d.Known signedIn)
      (loginWithAttestation rt signedIn d deviceAttestation) := by
  refine movesFrom_ite (fun _ => movesFrom_fail) fun _ => ?_
  refine movesFrom_ofExcept fun secret _ => movesFrom_look keptBy_known fun now => ?_
  cases hvalid : assertDeviceAttestationValid rt now d.deviceId
    (deviceAttestation.getD "") secret with
  | error fault =>
      simp only
      exact movesFrom_fail
  | ok attestation =>
      simp only
      refine movesFrom_eligibleUser keptBy_known fun user => ?_
      refine movesFrom_commit keptBy_known fun env s a t hs h => ?_
      obtain ⟨hsince, hdevice, row, hrow, htenant⟩ := hs
      exact attestedTransaction_move ⟨hsince.2, hdevice.2⟩ hrow htenant ⟨now, secret, hvalid⟩ h

lemma loginOnDevice_moves {d : LoginDevice} {deviceAttestation : Option String} :
    MovesFrom (AuthMove rt) (d.Known signedIn) (loginOnDevice rt signedIn d deviceAttestation) := by
  have hattestation : MovesFrom (AuthMove rt) (d.Known signedIn)
      (loginWithAttestation rt signedIn d deviceAttestation) := loginWithAttestation_moves
  refine movesFrom_ite (fun _ => movesFrom_fail) fun _ => ?_
  refine movesFrom_ite (fun _ => ?_) fun _ => hattestation
  refine movesFrom_ite (fun _ => movesFrom_fail) fun _ => ?_
  cases d.device.authBindingMode with
  | UNPAIRED => exact movesFrom_fail
  | HMAC_LEGACY => exact hattestation
  | WEBAUTHN => exact beginCashierWebAuthnLogin_moves.mono fun s hs => hs.1
  | DEVICE_TOKEN => exact movesFrom_fail

lemma login_moves {username password : String} {deviceId : Option Nat}
    {deviceAttestation deviceToken : Option String} :
    MovesFrom (AuthMove rt) AuthStore.Good
      (login rt username password deviceId deviceAttestation deviceToken) := by
  refine movesFrom_look keptBy_good fun supabaseUser => ?_
  cases supabaseUser with
  | none => exact movesFrom_fail
  | some supabaseUser =>
      refine movesFrom_readAuth
        (K := fun found s => ∀ signedIn, found = some signedIn → s.Since signedIn.userSeen)
        keptBy_good (fun env s hs signedIn hfound => ?_) fun found => ?_
      · obtain ⟨userId, -, hfound⟩ := Option.bind_eq_some_iff.1 hfound
        obtain ⟨user, -, rfl⟩ := Option.map_eq_some_iff.1 hfound
        exact ⟨hs, le_rfl⟩
      · cases found with
        | none => exact movesFrom_fail
        | some signedIn =>
            refine MovesFrom.mono (I := AuthStore.Since signedIn.userSeen) ?_ fun s hs => hs _ rfl
            refine movesFrom_ite (fun _ => ?_) fun _ => ?_
            · exact MovesFrom.bind keptBy_since loginWithDeviceToken_moves fun _ => movesFrom_done
            refine movesFrom_ite (fun _ => movesFrom_fail) fun _ => ?_
            cases deviceId.filter fun _ => signedIn.user.role = .CASHIER ||
              !blank deviceAttestation with
            | none =>
                refine movesFrom_ite (fun _ => movesFrom_fail) fun _ => ?_
                refine movesFrom_eligibleUser keptBy_since fun user => ?_
                exact movesFrom_commit keptBy_since fun env s a t hs h =>
                  loginTransaction_move hs.2 h
            | some deviceId =>
                refine movesFrom_readAuth
                  (K := fun found s => ∀ d, found = some d → d.Known signedIn s)
                  keptBy_since (fun env s hs d hd => ?_) fun found => ?_
                · obtain ⟨row, hrow, rfl⟩ := Option.map_eq_some_iff.1 hd
                  obtain ⟨hrow, htenant⟩ := Option.filter_eq_some_iff.1 hrow
                  exact ⟨hs, ⟨hs.1, le_rfl⟩, row, hrow, by simpa using htenant⟩
                · cases found with
                  | none => exact movesFrom_fail
                  | some d => exact loginOnDevice_moves.mono fun s hs => hs d rfl

lemma completeCashierLogin_moves {attemptToken : Option String} {assertion : Json} :
    MovesFrom (AuthMove rt) AuthStore.Good (completeCashierLogin rt attemptToken assertion) := by
  refine movesFrom_ite (fun _ => movesFrom_fail) fun _ => ?_
  refine movesFrom_ite (fun _ => movesFrom_fail) fun _ => movesFrom_ofExcept fun config _ => ?_
  refine movesFrom_readAuth
    (K := fun found s => ∀ r, found = some r → s.Since r.1.2.userSeen) keptBy_good
    (fun env s hs r hr => ?_) fun found => ?_
  · obtain ⟨found, hfound, rfl⟩ := Option.map_eq_some_iff.1 hr
    obtain ⟨hfind, -⟩ := Option.filter_eq_some_iff.1 hfound
    obtain ⟨hrow, -⟩ := Table.find_some hfind
    exact ⟨hs, hs.attempts _ (List.mem_of_getElem? hrow)⟩
  · cases found with
    | none => exact movesFrom_fail
    | some found =>
        obtain ⟨⟨attemptId, attempt⟩, credentials⟩ := found
        refine MovesFrom.mono (I := AuthStore.Since attempt.userSeen) ?_ fun s hs => hs _ rfl
        cases hfind : credentials.find? fun c => assertionId assertion = some c.2.credentialId with
        | none =>
            simp only [hfind]
            exact movesFrom_fail
        | some credential =>
            simp only [hfind]
            refine movesFrom_eligibleUser keptBy_since fun currentUser => ?_
            refine movesFrom_eligibleUser keptBy_since fun user => ?_
            refine MovesFrom.catching keptBy_since ?_ fun _ => movesFrom_fail
            exact movesFrom_commit keptBy_since fun env s a t hs h =>
              completeTransaction_move hs.2 h

lemma findRefreshable_ok {env : AuthSurroundings} {s : AuthStore} {sessionId seen : Nat}
    {x : Session} (h : findRefreshable rt env s sessionId = .ok (x, seen)) :
    s.sessions[sessionId]? = some x ∧ seen = s.seen := by
  unfold findRefreshable at h
  cases hrow : s.sessions[sessionId]? with
  | none => simp [hrow] at h
  | some y =>
      cases huser : (s.users y.userId).filter (isAuthUserEligible env) with
      | none => simp [hrow, huser] at h
      | some user =>
          simp only [hrow, huser] at h
          split at h
          · cases h
          split at h
          · split at h
            · cases h
            · obtain ⟨rfl, rfl⟩ := Prod.mk.inj (Except.ok.inj h)
              exact ⟨rfl, rfl⟩
          · cases h

lemma refresh_moves {sessionId : Nat} :
    MovesFrom (AuthMove rt) AuthStore.Good (refresh rt sessionId) := by
  refine movesFrom_readAuth (K := fun found s => ∀ r, found = .ok r →
    s.Since r.2 ∧ s.HasSession sessionId r.2) keptBy_good (fun env s hs r hr => ?_) fun found => ?_
  · obtain ⟨hrow, hseen⟩ := findRefreshable_ok hr
    have hle := hs.sessions hrow
    exact ⟨⟨hs, hseen.le⟩, r.1, hrow, by omega, by omega⟩
  · refine movesFrom_ofExcept fun r hr => ?_
    subst hr
    obtain ⟨session, seen⟩ := r
    have hkept : KeptBy (AuthMove rt) fun s => s.Since seen ∧ s.HasSession sessionId seen :=
      keptBy_since.and keptBy_hasSession
    refine MovesFrom.mono ?_ fun s hs => hs _ rfl
    refine movesFrom_eligibleUser hkept fun currentUser => ?_
    refine movesFrom_eligibleUser hkept fun user => ?_
    refine movesFrom_commit hkept fun env s a t hs h => ?_
    refine refreshTransaction_move hs.1.2 (fun old hold => ?_) h
    obtain ⟨x, hx, hle⟩ := hs.2
    rw [hx] at hold
    rwa [← Option.some.inj hold]

lemma logout_moves {sessionId : Nat} :
    MovesFrom (AuthMove rt) AuthStore.Good (logout sessionId) := by
  refine movesFrom_act (K := fun _ _ => True) keptBy_good (fun env s _ => ?_) (fun _ _ _ => trivial)
    fun _ => movesFrom_done
  cases hrow : s.sessions[sessionId]? with
  | none => exact .stay
  | some session =>
      by_cases hactive : session.status = .ACTIVE
      · simp only [if_pos hactive]
        exact .loggedOut hrow
      · simp only [if_neg hactive]
        exact .stay

end AuthService

namespace UsersService

variable {tenantId userId : String} {actor : AuthContext} {key : AuthRequestKey}
  {requestHash : Digest} {f : AuthUser → AuthUser}

/-- What the sweep of a change has seen, where there was one. -/
def SweptBy (userId : String) (swept : Option (List Nat × Nat)) (s : AuthStore) : Prop :=
  s.Good ∧ ∀ seen, swept = some seen → s.Swept userId seen

lemma keptBy_sweptBy {swept : Option (List Nat × Nat)} :
    KeptBy (AuthMove rt) (SweptBy userId swept) := by
  rintro env s t ⟨hgood, hswept⟩ hmove
  exact ⟨hmove.good hgood, fun seen hseen => keptBy_swept env s t (hswept seen hseen) hmove⟩

lemma change_moves {swept : Option (List Nat × Nat)} :
    MovesFrom (AuthMove rt) (SweptBy userId swept) (do
      let updated ← Process.transaction fun env =>
        changeUser userId f key requestHash swept env.now
      let _ ← Process.transaction fun _ => completeAuthRecord key (.user userId updated)
      Process.done (StoredResponse.user userId updated)) := by
  refine MovesFrom.bind keptBy_sweptBy (movesFrom_commit keptBy_sweptBy fun env s a t hs h => ?_)
    fun updated => ?_
  · exact changeUser_move (fun ids n hids => (hs.2 _ hids).2) h
  · refine MovesFrom.mono (I := AuthStore.Good) ?_ fun s hs => hs.1
    exact MovesFrom.bind keptBy_good BranchesService.completeAuthRecord_moves fun _ =>
      movesFrom_done

lemma request_moves {checked : Except Fault Unit} {revokes : Bool} :
    MovesFrom (AuthMove rt) AuthStore.Good
      (request key requestHash checked tenantId userId f revokes) := by
  refine movesFrom_look keptBy_good fun existing => movesFrom_ofExcept fun replay _ => ?_
  cases replay with
  | some response => exact movesFrom_done
  | none =>
      refine movesFrom_ofExcept fun _ _ => movesFrom_look keptBy_good fun user => ?_
      refine movesFrom_ite (fun _ => movesFrom_fail) fun _ => ?_
      cases revokes with
      | true =>
          refine movesFrom_readAuth (K := fun seen => SweptBy userId (some seen)) keptBy_good
            (fun env s hs => ⟨hs, fun seen hseen => ?_⟩) fun seen => change_moves
          obtain rfl := Option.some.inj hseen
          refine ⟨le_rfl, fun j x _ hx huser => ?_⟩
          exact List.mem_map.2 ⟨(j, x), Table.mem_select.2 ⟨hx, by simpa using huser⟩, rfl⟩
      | false => exact change_moves.mono fun s hs => ⟨hs, fun seen hseen => by cases hseen⟩

lemma updateRole_moves {role : UserRole} {idempotencyKey : Option String} :
    MovesFrom (AuthMove rt) AuthStore.Good
      (updateRole tenantId actor userId role idempotencyKey) :=
  movesFrom_ofExcept fun _ _ => request_moves

lemma updateStatus_moves {status : String} {idempotencyKey : Option String} :
    MovesFrom (AuthMove rt) AuthStore.Good
      (updateStatus tenantId actor userId status idempotencyKey) :=
  movesFrom_ofExcept fun _ _ => request_moves

end UsersService

/-! ### Requests side by side -/

/-- **Every request makes moves only**, whatever others do in between. -/
theorem AuthRequest.moves (request : AuthRequest) :
    MovesFrom (AuthMove rt) AuthStore.Good (request.program rt) := by
  cases request with
  | login => exact movesFrom_answer keptBy_good AuthService.login_moves
  | completeCashierLogin =>
      exact movesFrom_answer keptBy_good AuthService.completeCashierLogin_moves
  | refresh => exact movesFrom_answer keptBy_good AuthService.refresh_moves
  | logout => exact movesFrom_answer keptBy_good AuthService.logout_moves
  | createDevice => exact movesFrom_answer keptBy_good BranchesService.createDevice_moves
  | updateDevice => exact movesFrom_answer keptBy_good BranchesService.updateDevice_moves
  | pairDeviceToken => exact movesFrom_answer keptBy_good BranchesService.pairDeviceToken_moves
  | resetDeviceToken => exact movesFrom_answer keptBy_good BranchesService.resetDeviceToken_moves
  | createDeviceEnrollment =>
      exact movesFrom_answer keptBy_good BranchesService.createDeviceEnrollment_moves
  | completeDeviceEnrollment =>
      exact movesFrom_answer keptBy_good BranchesService.completeDeviceEnrollment_moves
  | revokeDeviceCredential =>
      exact movesFrom_answer keptBy_good BranchesService.revokeDeviceCredential_moves
  | updateRole => exact movesFrom_answer keptBy_good UsersService.updateRole_moves
  | updateStatus => exact movesFrom_answer keptBy_good UsersService.updateStatus_moves

/-- A store before any request: users and devices as they may be, but none under a token. -/
structure AuthStore.Fresh (s : AuthStore) : Prop where
  unpaired : ∀ d ∈ s.devices, d.authBindingMode ≠ .DEVICE_TOKEN
  deviceTokenCredentials : s.deviceTokenCredentials = []
  deviceWebAuthnCredentials : s.deviceWebAuthnCredentials = []
  cashierLoginAttempts : s.cashierLoginAttempts = []
  deviceAttestations : s.deviceAttestations = []
  sessions : s.sessions = []

lemma AuthStore.Fresh.good {s : AuthStore} (h : s.Fresh) : s.Good where
  bound := by
    unfold AuthStore.Bound
    rw [h.deviceTokenCredentials, h.deviceWebAuthnCredentials]
    exact BindingsSound.empty.2 h.unpaired
  sessions hx := by simp [h.sessions] at hx
  attempts a ha := by simp [h.cashierLoginAttempts] at ha
  credentials hx := by simp [h.sessions] at hx

variable {P : AuthRequests → PoolEvent AuthRequest AuthSurroundings → Prop} {s : AuthStore}
  {w : AuthRequests}

/-- Every store that a run reaches is good. -/
theorem run_good (hgood : s.Good)
    (hrun : Pool.StepsUnder (AuthRequest.program rt) P (.initial s) w) : w.state.Good :=
  (Pool.run_moving keptBy_good AuthRequest.moves (Pool.initial_moving s) hgood hrun).2

/-- **The rule for sign-in and device administration**: what the moves keep that a condition
on steps admits holds in every store that a run reaches. -/
theorem run_auth {J : AuthStore → Prop}
    (hJ : ∀ u u' n env, P u (.advance n env) →
      u.step (AuthRequest.program rt) (.advance n env) = some u' → u.state.Good →
      AuthMove rt env u.state u'.state → J u.state → J u'.state)
    (hgood : s.Good) (hj : J s)
    (hrun : Pool.StepsUnder (AuthRequest.program rt) P (.initial s) w) : J w.state := by
  refine (Pool.run_invariant keptBy_good AuthRequest.moves
    (fun u u' event hp hstep hu hchange h => ?_)
    (Pool.initial_moving s) hgood hj hrun).2.2
  rcases hchange.move_or_same with ⟨n, env, rfl, hmove⟩ | hsame
  · exact hJ u u' n env hp hstep hu hmove h
  · rw [hsame]
    exact h

end ShopcityLoyalty
