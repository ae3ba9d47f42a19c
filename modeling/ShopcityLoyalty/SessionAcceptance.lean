import ShopcityLoyalty.LoginEvidence

/-!
Whether the session guard accepts the sessions that logins and refreshes issue, right after
they were issued and with nothing else changed.
-/

namespace ShopcityLoyalty

open Txn AuthService

variable {rt : AuthRuntime} {env e : AuthSurroundings} {s t u : AuthStore} {α β : Type}

/-! ### Requests that run alone -/

/-- Branches, tenants and passwords are as they are now. -/
structure SameSurroundings (env e : AuthSurroundings) : Prop where
  branches : e.branches = env.branches
  tenants : e.tenants = env.tenants
  signInWithPassword : e.signInWithPassword = env.signInWithPassword

lemma SameSurroundings.eligible (h : SameSurroundings env e) (user : AuthUser) :
    isAuthUserEligible e user = isAuthUserEligible env user := by
  unfold isAuthUserEligible
  rw [h.branches, h.tenants]

lemma SameSurroundings.branchActive (h : SameSurroundings env e) (branchId : String) :
    branchActive e branchId = branchActive env branchId := by
  unfold ShopcityLoyalty.branchActive
  rw [h.branches]

lemma run_readAuth_bind {f : AuthSurroundings → AuthStore → β} {next : β → AuthHandling α}
    {inputs : List AuthSurroundings} {r : Except Fault α} :
    (readAuth f >>= next).run s inputs = some (r, t) ↔
      ∃ e rest, inputs = e :: rest ∧ (next (f e s)).run s rest = some (r, t) :=
  Process.run_statement_bind

lemma run_ite_fail {c : Prop} [Decidable c] {fault : Fault} {p : AuthHandling α}
    {inputs : List AuthSurroundings} {a : α} :
    (if c then Process.fail fault else p).run s inputs = some (.ok a, t) ↔
      ¬ c ∧ p.run s inputs = some (.ok a, t) := by
  by_cases h : c <;> simp [h]

lemma run_ofExcept_bind {x : Except Fault β} {next : β → AuthHandling α}
    {inputs : List AuthSurroundings} {a : α} :
    (Process.ofExcept x >>= next).run s inputs = some (.ok a, t) ↔
      ∃ b, x = .ok b ∧ (next b).run s inputs = some (.ok a, t) := by
  cases x <;> simp

lemma run_commit {m : AuthSurroundings → AuthTx α} {inputs : List AuthSurroundings} {a : α} :
    (Process.transaction m).run s inputs = some (.ok a, t) ↔
      ∃ e, inputs = [e] ∧ m e s = .ok (a, t) := by
  rw [Process.run_transaction]
  refine exists_congr fun e => and_congr_right fun _ => ?_
  constructor
  · rintro (⟨b, hb, hr⟩ | ⟨fault, -, hr, -⟩)
    · rw [Except.ok.inj hr]
      exact hb
    · cases hr
  · intro h
    exact .inl ⟨a, h, rfl⟩

lemma run_catching_fail {p : AuthHandling α} {fault : Fault}
    {inputs : List AuthSurroundings} {a : α} :
    (p.catching fun _ => Process.fail fault).run s inputs = some (.ok a, t) ↔
      p.run s inputs = some (.ok a, t) := by
  rw [Process.run_catching]
  constructor
  · rintro (⟨b, hb, hr⟩ | ⟨_, _, _, _, -, -, hfail⟩)
    · rw [Except.ok.inj hr]
      exact hb
    · simp at hfail
  · intro h
    exact .inl ⟨a, h, rfl⟩

/-! ### The session guard on a new session -/

/-- What is issued: a session under a token that no other has. -/
structure IssuedOn (rt : AuthRuntime) (e : AuthSurroundings) (r : SessionRequest) (user : AuthUser)
    (s t : AuthStore) (x : IssuedSession) : Prop where
  token : x.sessionToken = e.sessionToken
  session : x.session = r.session rt e
  lifetime : 0 < r.lifetimeMs
  fresh : ∀ y ∈ s.sessions, y.sessionTokenHash ≠ x.session.sessionTokenHash
  store : t = { s with sessions := s.sessions ++ [x.session] }

lemma issueSession_issuedOn {user : Option AuthUser} {r : SessionRequest} {x : IssuedSession}
    (h : issueSession rt e user r s = .ok (x, t)) :
    ∃ row, user = some row ∧ IssuedOn rt e r row s t x := by
  simp only [issueSession, bind_ok, get_ok, rejectIf_ok, orFault_ok, update_ok, pure_ok] at h
  obtain ⟨_, _, ⟨hlife, rfl⟩, row, _, ⟨hrow, rfl⟩, _, _, ⟨rfl, rfl⟩, _, _, ⟨hfresh, rfl⟩, _, _,
    rfl, rfl, rfl⟩ := h
  refine ⟨row, hrow, rfl, rfl, ?_, fun y hy hsame => hfresh ⟨y, hy, hsame⟩, rfl⟩
  have hpos := (not_or.1 hlife).1
  omega

lemma idleMinutes_pos (role : UserRole) : 0 < idleMinutes rt role := by
  have h := rt.idle_pos
  cases role with
  | CASHIER => exact h.1
  | SUPERVISOR => exact h.2.1
  | ADMIN => exact h.2.2
  | SYSTEM => exact h.2.2

/-- The device token that the guard asks for on a device. -/
def tokenCheck (rt : AuthRuntime) (s : AuthStore) (deviceId : Option Nat) (user : AuthUser)
    (deviceToken : Option String) : Bool :=
  deviceId.all fun i =>
    !(s.devices[i]?.any fun d => d.authBindingMode = .DEVICE_TOKEN) ||
      presentsDeviceToken rt s i user deviceToken

lemma acceptsSession_new {r : SessionRequest} {user : AuthUser} {deviceToken : Option String}
    (hnow : e.now = env.now) (hlife : 0 < r.lifetimeMs)
    (huser : isAuthUserEligible env user = true) :
    acceptsSession rt env t (r.session rt e) user deviceToken =
      (isSessionDeviceEligible env t (r.session rt e) user (configuredWebAuthnRpId rt)
        rt.localCashierTestSessionEnabled && tokenCheck rt t r.deviceId user deviceToken) := by
  have hidle : isSessionIdleExpired rt (r.session rt e) user env.now = false := by
    have hpos : 0 < idleMinutes rt user.role := idleMinutes_pos user.role
    simp only [isSessionIdleExpired, SessionRequest.session, hnow, decide_eq_false_iff_not, not_le]
    omega
  have hexpires : env.now < e.now + r.lifetimeMs := by omega
  unfold acceptsSession tokenCheck
  rw [hidle, huser]
  simp only [SessionRequest.session, hexpires, decide_true, Bool.not_false, Bool.and_true,
    Bool.true_and]
  cases r.deviceId <;> rfl

/-- The guard finds the new session under its token. -/
lemma loadAuthContext_new {r : SessionRequest} {user row : AuthUser} {x : IssuedSession}
    {deviceToken : Option String} (h : IssuedOn rt e r row u s x)
    (hsessions : t.sessions = u.sessions ++ [x.session]) (hrow : t.users r.userId = some user)
    (htoken : x.sessionToken ≠ "") :
    (loadAuthContext rt env t (some x.sessionToken) deviceToken).isSome =
      acceptsSession rt env t (r.session rt e) user deviceToken := by
  have hhash : x.session.sessionTokenHash = hashToken x.sessionToken rt.SESSION_SECRET := by
    rw [h.session, h.token]
    rfl
  have hfind : t.sessions.find (fun y =>
      y.sessionTokenHash = hashToken x.sessionToken rt.SESSION_SECRET) =
      some (u.sessions.length, r.session rt e) := by
    have hnone : u.sessions.find (fun y =>
        y.sessionTokenHash = hashToken x.sessionToken rt.SESSION_SECRET) = none := by
      refine Table.find_none.2 fun y hy hp => h.fresh y hy ?_
      rw [hhash]
      simpa using hp
    rw [hsessions, Table.find_insert, hnone, if_pos (by simp [hhash]), h.session]
    rfl
  have hblank : blank (some x.sessionToken) = false := by simp [blank, htoken]
  unfold loadAuthContext
  simp only [hblank, Option.getD_some, hfind, Bool.false_eq_true, if_false]
  have huserId : (r.session rt e).userId = r.userId := rfl
  simp only [huserId, hrow]
  by_cases haccepts : acceptsSession rt env t (r.session rt e) user deviceToken = true
  · simp [haccepts]
  · simp [haccepts]

/-! ### The device of a new session -/

lemma eligible_onDevice {x : Session} {user : AuthUser} {d : DeviceRow} {i : Nat}
    {rpId : Option String} {allow : Bool} (hdevice : x.deviceId = some i)
    (hcredential : x.deviceCredentialId = none) (hpurpose : x.purpose = .USER)
    (hrow : t.devices[i]? = some d) (htenant : d.tenantId = user.tenantId)
    (hactive : d.status = .ACTIVE) (hbranch : branchActive env d.branchId = true)
    (hof : blank user.branchId = true ∨ user.branchId = some d.branchId) :
    isSessionDeviceEligible env t x user rpId allow =
      decide (d.authBindingMode ≠ .WEBAUTHN ∧ (user.role = .CASHIER →
        d.authBindingMode = .HMAC_LEGACY ∨ d.authBindingMode = .DEVICE_TOKEN)) := by
  have hsession : t.sessionDevice x = some d := by simp [AuthStore.sessionDevice, hdevice, hrow]
  have hnone : t.sessionCredential x = none := by simp [AuthStore.sessionCredential, hcredential]
  have hbranches : (!blank user.branchId && decide (user.branchId ≠ some d.branchId)) = false := by
    rcases hof with h | h <;> simp [h]
  unfold isSessionDeviceEligible
  simp only [hdevice, hcredential, hpurpose, hsession, hnone, htenant, hactive, hbranch, hbranches]
  by_cases hrole : user.role = .CASHIER <;> cases d.authBindingMode <;> simp [hrole]

lemma tokenCheck_of_mode {i : Nat} {d : DeviceRow} {user : AuthUser} {deviceToken : Option String}
    (hrow : t.devices[i]? = some d) (hmode : d.authBindingMode ≠ .DEVICE_TOKEN) :
    tokenCheck rt t (some i) user deviceToken = true := by
  simp [tokenCheck, hrow, hmode]

lemma tokenCheck_of_role {i : Nat} {d : DeviceRow} {user : AuthUser} {deviceToken : Option String}
    (hrow : t.devices[i]? = some d) (hmode : d.authBindingMode = .DEVICE_TOKEN)
    (hrole : user.role ≠ .CASHIER) : tokenCheck rt t (some i) user deviceToken = false := by
  have hpresents : presentsDeviceToken rt t i user deviceToken = false := by
    unfold presentsDeviceToken
    split
    · simp [hrole]
    · rfl
  simp [tokenCheck, hrow, hmode, hpresents]

lemma filter_singleton {rows : Table α} {p : α → Bool} {j : Nat} {a : α}
    (ha : rows[j]? = some a) (hp : p a = true)
    (hone : ∀ (k : Nat) (b : α), rows[k]? = some b → p b = true → k = j) : rows.filter p = [a] := by
  obtain ⟨hlt, hrow⟩ := List.getElem?_eq_some_iff.1 ha
  have hsplit : rows = rows.take j ++ a :: rows.drop (j + 1) := by
    rw [← hrow, List.cons_getElem_drop_succ, List.take_append_drop]
  have hbefore : (rows.take j).filter p = [] := by
    rw [List.filter_eq_nil_iff]
    intro b hb hpb
    obtain ⟨k, hk⟩ := List.getElem?_of_mem hb
    have hkj := Table.lt_of_getElem? hk
    rw [List.length_take] at hkj
    have hk' : rows[k]? = some b := by rwa [List.getElem?_take_of_lt (by omega)] at hk
    have := hone k b hk' hpb
    omega
  have hafter : (rows.drop (j + 1)).filter p = [] := by
    rw [List.filter_eq_nil_iff]
    intro b hb hpb
    obtain ⟨k, hk⟩ := List.getElem?_of_mem hb
    rw [List.getElem?_drop] at hk
    have := hone _ b hk hpb
    omega
  rw [hsplit, List.filter_append, List.filter_cons_of_pos hp, hbefore, hafter, List.nil_append]

lemma presentsDeviceToken_of_active {s : AuthStore} (hbound : s.Bound) {cid : Nat}
    {c : DeviceTokenCredential} {user : AuthUser} {token : String}
    (hrow : s.deviceTokenCredentials[cid]? = some c) (hactive : c.status = .ACTIVE)
    (hversion : c.keyVersion = configuredDeviceTokenKeyVersion rt)
    (hrole : user.role = .CASHIER) (htoken : token ≠ "")
    (hmatches : matchesDeviceTokenHash rt token c.tokenHash = true) :
    presentsDeviceToken rt s c.deviceId user (some token) = true := by
  have hone : s.deviceTokenCredentials.filter
      (fun e => e.deviceId = c.deviceId && e.status = .ACTIVE) = [c] := by
    refine filter_singleton hrow (by simp [hactive]) fun k e he hp => ?_
    simp only [Bool.and_eq_true, decide_eq_true_eq] at hp
    exact hbound.oneToken he hrow hp.1 hp.2 hactive
  unfold presentsDeviceToken
  rw [hone]
  simp [hrole, hversion, blank, htoken, hmatches]

/-! ### Logins -/

/-- A request whose statements met the branches, tenants and passwords of now, and whose
session was issued now, under a token that is not empty. -/
structure IssuedNow (env : AuthSurroundings) (inputs : List AuthSurroundings) (x : IssuedSession) :
    Prop where
  settled : ∀ e ∈ inputs, SameSurroundings env e
  token : x.sessionToken ≠ ""
  now : x.session.lastUsedAt = some env.now

lemma load_issued {r : SessionRequest} {row : AuthUser} {x : IssuedSession}
    {inputs : List AuthSurroundings} {deviceToken : Option String} (hnow : IssuedNow env inputs x)
    (h : IssuedOn rt e r row u s x) (hsessions : t.sessions = u.sessions ++ [x.session])
    (hrow : t.users r.userId = some row) (heligible : isAuthUserEligible env row = true) :
    (loadAuthContext rt env t (some x.sessionToken) deviceToken).isSome =
      (isSessionDeviceEligible env t x.session row (configuredWebAuthnRpId rt)
        rt.localCashierTestSessionEnabled && tokenCheck rt t r.deviceId row deviceToken) := by
  have hclock : e.now = env.now := by
    have hlast := hnow.now
    rw [h.session] at hlast
    exact Option.some.inj hlast
  rw [loadAuthContext_new h hsessions hrow hnow.token, acceptsSession_new hclock
    h.lifetime heligible,
    h.session]

lemma eligible_row {userId : String} {row : AuthUser} (he : SameSurroundings env e)
    (h : (s.users userId).filter (isAuthUserEligible e) = some row) :
    s.users userId = some row ∧ isAuthUserEligible env row = true := by
  obtain ⟨hrow, heligible⟩ := Option.filter_eq_some_iff.1 h
  exact ⟨hrow, (he.eligible row).symm.trans heligible⟩

variable {signedIn : SignedIn} {x : IssuedSession} {inputs : List AuthSurroundings}
  {deviceToken : Option String}

lemma login_password_accepted (hnow : IssuedNow env inputs x)
    (huser : s.users signedIn.userId = some signedIn.user) (hrole : signedIn.user.role ≠ .CASHIER)
    (h : (eligibleUser signedIn.userId >>= fun user => Process.transaction fun e =>
      loginTransaction rt e signedIn none user).run s inputs = some (.ok (.issued x), t)) :
    (loadAuthContext rt env t (some x.sessionToken) deviceToken).isSome = true := by
  obtain ⟨e₁, rest, rfl, hrun⟩ := run_readAuth_bind.1 h
  obtain ⟨e₂, rfl, hcommit⟩ := run_commit.1 hrun
  simp only [loginTransaction, bind_ok, pure_ok] at hcommit
  obtain ⟨y, v, hissue, hy, ht⟩ := hcommit
  obtain rfl : x = y := LoginResult.issued.inj hy
  obtain ⟨row, hread, hissued⟩ := issueSession_issuedOn hissue
  obtain ⟨hrow, heligible⟩ := eligible_row (hnow.settled e₁ (by simp)) hread
  obtain rfl : signedIn.user = row := Option.some.inj (huser.symm.trans hrow)
  have hstore := ht.trans hissued.store
  have hsessions : t.sessions = s.sessions ++ [x.session] := by rw [hstore]
  have husers : t.users signedIn.userId = some signedIn.user := by rw [hstore]; exact huser
  rw [load_issued hnow hissued hsessions husers heligible, hissued.session]
  simp [isSessionDeviceEligible, SessionRequest.session, loginRequest, tokenCheck, hrole]

/-- What a login knows of a device that is in order for its user. -/
structure DeviceInOrder (env : AuthSurroundings) (s : AuthStore) (user : AuthUser)
    (d : LoginDevice) :
    Prop where
  row : s.devices[d.deviceId]? = some d.device
  tenant : d.device.tenantId = user.tenantId
  active : d.device.status = .ACTIVE
  branch : branchActive env d.device.branchId = true
  ofUser : blank user.branchId = true ∨ user.branchId = some d.device.branchId

lemma login_attestation_accepted {d : LoginDevice} {deviceAttestation : Option String}
    (hnow : IssuedNow env inputs x) (huser : s.users signedIn.userId = some signedIn.user)
    (hdevice : DeviceInOrder env s signedIn.user d)
    (hmode : signedIn.user.role = .CASHIER → d.device.authBindingMode = .HMAC_LEGACY)
    (h : (loginWithAttestation rt signedIn d deviceAttestation).run s inputs =
      some (.ok (.issued x), t)) :
    ((loadAuthContext rt env t (some x.sessionToken) deviceToken).isSome = true ↔
      ¬ (signedIn.user.role ≠ .CASHIER ∧
        (d.device.authBindingMode = .WEBAUTHN ∨ d.device.authBindingMode = .DEVICE_TOKEN))) ∧
      blank deviceAttestation = false := by
  obtain ⟨hblank, hread⟩ := run_ite_fail.1 h
  obtain ⟨secret, -, hclock⟩ := run_ofExcept_bind.1 hread
  obtain ⟨e₁, rest, rfl, hchecked⟩ := run_readAuth_bind.1 hclock
  cases hvalid : assertDeviceAttestationValid rt e₁.now d.deviceId
    (deviceAttestation.getD "") secret with
  | error fault => simp [hvalid] at hchecked
  | ok attestation =>
      simp only [hvalid] at hchecked
      obtain ⟨e₂, rest, rfl, hrun⟩ := run_readAuth_bind.1 hchecked
      obtain ⟨e₃, rfl, hcommit⟩ := run_commit.1 hrun
      simp only [loginTransaction, linkDeviceAttestation, bind_ok, update_ok, pure_ok] at hcommit
      obtain ⟨_, v, hrecord, y, z, hissue, _, w, hlink, hy, ht⟩ := hcommit
      obtain rfl : x = y := LoginResult.issued.inj hy
      obtain ⟨rows, rfl, -⟩ := recordDeviceAttestation_ok hrecord
      obtain ⟨row, hfound, hissued⟩ := issueSession_issuedOn hissue
      obtain ⟨hrow, heligible⟩ := eligible_row (hnow.settled e₂ (by simp)) hfound
      obtain rfl : signedIn.user = row := Option.some.inj (huser.symm.trans hrow)
      rw [hlink, hissued.store] at ht
      have hsessions : t.sessions = s.sessions ++ [x.session] := by rw [ht]
      have husers : t.users signedIn.userId = some signedIn.user := by rw [ht]; exact huser
      have hdevices : t.devices[d.deviceId]? = some d.device := by rw [ht]; exact hdevice.row
      refine ⟨?_, by simpa using hblank⟩
      rw [load_issued hnow hissued hsessions husers heligible, hissued.session,
        eligible_onDevice (d := d.device) rfl rfl rfl hdevices hdevice.tenant hdevice.active
          hdevice.branch hdevice.ofUser]
      change ((_ && tokenCheck rt t (some d.deviceId) signedIn.user deviceToken) = true ↔ _)
      by_cases hrole : signedIn.user.role = .CASHIER
      · have hlegacy := hmode hrole
        rw [tokenCheck_of_mode (d := d.device) hdevices (by simp [hlegacy])]
        simp [hrole, hlegacy]
      · by_cases htoken : d.device.authBindingMode = .DEVICE_TOKEN
        · rw [tokenCheck_of_role (d := d.device) hdevices htoken hrole]
          simp [hrole, htoken]
        · rw [tokenCheck_of_mode (d := d.device) hdevices htoken]
          simp [hrole, htoken]

lemma operational_branchActive {d : DeviceRow} (he : SameSurroundings env e)
    (h : BranchesService.operational e d = true) : branchActive env d.branchId = true := by
  simp only [BranchesService.operational, Bool.and_eq_true] at h
  rw [← he.branchActive]
  exact h.1.2

lemma login_token_accepted {token : String} (hgood : s.Good) (hnow : IssuedNow env inputs x)
    (huser : s.users signedIn.userId = some signedIn.user) (htoken : token ≠ "")
    (h : (loginWithDeviceToken rt signedIn token).run s inputs = some (.ok x, t)) :
    (loadAuthContext rt env t (some x.sessionToken) (some token)).isSome = true := by
  unfold loginWithDeviceToken at h
  cases hhash : hashDeviceToken rt token with
  | none => simp [hhash] at h
  | some presentedHash =>
      simp only [hhash] at h
      obtain ⟨e₁, rest, rfl, hread⟩ := run_readAuth_bind.1 h
      cases hfound : (findTokenCredential rt e₁ s signedIn.user token presentedHash).map
          fun r => (r, s.seen) with
      | none => simp [hfound] at hread
      | some found =>
          obtain ⟨⟨cid, found⟩, deviceSeen⟩ := found
          simp only [hfound] at hread
          obtain ⟨e₂, rest, rfl, hcurrent⟩ := run_readAuth_bind.1 hread
          obtain ⟨e₃, rest, rfl, hrun⟩ := run_readAuth_bind.1 hcurrent
          obtain ⟨e₄, rfl, hcommit⟩ := run_commit.1 (run_catching_fail.1 hrun)
          simp only [tokenLoginTransaction, bind_ok, get_ok, orFault_ok, rejectIf_ok, update_ok]
            at hcommit
          obtain ⟨_, _, ⟨rfl, rfl⟩, d, _, ⟨hd, rfl⟩, cu, _, ⟨hcu, rfl⟩, c, _, ⟨hc, rfl⟩, _, _,
            ⟨hchecks, rfl⟩, _, v, hused, hissue⟩ := hcommit
          obtain ⟨row, hrow, hissued⟩ := issueSession_issuedOn hissue
          obtain ⟨hrow, heligible⟩ := eligible_row (hnow.settled e₃ (by simp)) hrow
          obtain ⟨hcu, -⟩ := eligible_row (hnow.settled e₂ (by simp)) hcu
          obtain rfl : signedIn.user = row := Option.some.inj (huser.symm.trans hrow)
          obtain rfl : signedIn.user = cu := Option.some.inj (huser.symm.trans hcu)
          obtain ⟨hdrow, hdok⟩ := Option.filter_eq_some_iff.1 hd
          obtain ⟨hcrow, hcok⟩ := Option.filter_eq_some_iff.1 hc
          simp only [Bool.and_eq_true, decide_eq_true_eq] at hdok hcok
          obtain ⟨⟨htenant, hoperational⟩, hmode⟩ := hdok
          obtain ⟨⟨⟨-, hdevice⟩, hactive⟩, hversion⟩ := hcok
          simp only [not_or, not_not, Bool.not_eq_false] at hchecks
          obtain ⟨hrole, hbranch, hmatches⟩ := hchecks
          have ht := hissued.store
          rw [hused] at ht
          have hsessions : t.sessions = v.sessions ++ [x.session] := by rw [hissued.store]
          have husers : t.users signedIn.userId = some signedIn.user := by rw [ht]; exact huser
          have hdevices : t.devices[found.deviceId]? = some d := by rw [ht]; exact hdrow
          -- the token that is used stays the one of its device
          have hbound : t.Bound := by
            rw [ht]
            exact hgood.bound.tokenUsed hcrow
          have htrow : t.deviceTokenCredentials[cid]? =
              some { c with lastUsedAt := some e₄.now } := by
            rw [ht]
            exact List.getElem?_set_self (Table.lt_of_getElem? hcrow)
          have hcheck : tokenCheck rt t (some found.deviceId) signedIn.user
              (some token) = true := by
            have hpresents : presentsDeviceToken rt t found.deviceId signedIn.user (some token) =
                true := by
              rw [← hdevice]
              exact presentsDeviceToken_of_active (c := { c with lastUsedAt := some e₄.now })
                hbound htrow hactive hversion hrole htoken hmatches
            simp [tokenCheck, hpresents]
          rw [load_issued hnow hissued hsessions husers heligible, hissued.session,
            eligible_onDevice (d := d) rfl rfl rfl hdevices htenant
              (BranchesService.operational_active hoperational)
              (operational_branchActive (hnow.settled e₄ (by simp)) hoperational) (.inr hbranch)]
          change (_ && tokenCheck rt t (some found.deviceId) signedIn.user (some token)) = true
          rw [hcheck]
          simp [hmode]

lemma begin_not_issued {d : LoginDevice} :
    (beginCashierWebAuthnLogin rt signedIn d).run s inputs ≠ some (.ok (.issued x), t) := by
  intro h
  obtain ⟨config, -, hread⟩ := run_ofExcept_bind.1 h
  obtain ⟨-, hread⟩ := run_ite_fail.1 hread
  obtain ⟨e₁, rest, rfl, hrun⟩ := run_readAuth_bind.1 hread
  obtain ⟨e₂, rfl, hcommit⟩ := run_commit.1 hrun
  simp only [bind_ok, pure_ok] at hcommit
  obtain ⟨_, _, -, hanswer, -⟩ := hcommit
  cases hanswer

/-- A login on a device that was read issues a session on its attestation only. -/
lemma loginOnDevice_issued {d : LoginDevice} {deviceAttestation : Option String}
    (h : (loginOnDevice rt signedIn d deviceAttestation).run s inputs = some (.ok (.issued x), t)) :
    d.device.status = .ACTIVE ∧ d.branchActive = true ∧
      (blank signedIn.user.branchId = true ∨ signedIn.user.branchId = some d.device.branchId) ∧
      (signedIn.user.role = .CASHIER → d.device.authBindingMode = .HMAC_LEGACY) ∧
      (loginWithAttestation rt signedIn d deviceAttestation).run s inputs =
        some (.ok (.issued x), t) := by
  obtain ⟨hinOrder, hrest⟩ := run_ite_fail.1 h
  simp only [Bool.or_eq_true, Bool.and_eq_true, decide_eq_true_eq, Bool.not_eq_true', not_or,
    not_not, not_and, Bool.not_eq_false] at hinOrder
  obtain ⟨⟨hactive, hbranch⟩, hof⟩ := hinOrder
  have hofUser : blank signedIn.user.branchId = true ∨
      signedIn.user.branchId = some d.device.branchId := by
    cases hblank : blank signedIn.user.branchId with
    | true => exact .inl rfl
    | false => exact .inr (hof hblank)
  by_cases hrole : signedIn.user.role = .CASHIER
  · rw [if_pos hrole] at hrest
    obtain ⟨-, hmodes⟩ := run_ite_fail.1 hrest
    cases hmode : d.device.authBindingMode with
    | UNPAIRED => simp [hmode] at hmodes
    | DEVICE_TOKEN => simp [hmode] at hmodes
    | WEBAUTHN =>
        simp only [hmode] at hmodes
        exact absurd hmodes begin_not_issued
    | HMAC_LEGACY =>
        simp only [hmode] at hmodes
        exact ⟨hactive, hbranch, hofUser, fun _ => rfl, hmodes⟩
  · rw [if_neg hrole] at hrest
    exact ⟨hactive, hbranch, hofUser, fun h => absurd h hrole, hrest⟩

/-- A login that names a device. -/
lemma login_device_accepted {i : Nat} {deviceAttestation : Option String}
    (hnow : IssuedNow env inputs x) (huser : s.users signedIn.userId = some signedIn.user)
    (h : (readAuth (fun e s => findLoginDevice e s signedIn.user.tenantId i) >>= fun found =>
      match found with
      | none => Process.fail (deviceFault signedIn.user (badRequest "Device is not active"))
      | some d => loginOnDevice rt signedIn d deviceAttestation).run s inputs =
        some (.ok (.issued x), t)) :
    blank deviceAttestation = false ∧ ∃ d, s.devices[i]? = some d ∧
      ((loadAuthContext rt env t (some x.sessionToken) deviceToken).isSome = true ↔
        ¬ (signedIn.user.role ≠ .CASHIER ∧
          (d.authBindingMode = .WEBAUTHN ∨ d.authBindingMode = .DEVICE_TOKEN))) := by
  obtain ⟨e₁, rest, rfl, hread⟩ := run_readAuth_bind.1 h
  have hsettled := hnow.settled e₁ (by simp)
  have hnow' : IssuedNow env rest x :=
    ⟨fun e he => hnow.settled e (List.mem_cons_of_mem _ he), hnow.token, hnow.now⟩
  cases hfound : findLoginDevice e₁ s signedIn.user.tenantId i with
  | none => simp [hfound] at hread
  | some d =>
      simp only [hfound] at hread
      obtain ⟨hactive, hbranch, hof, hmode, hrun⟩ := loginOnDevice_issued hread
      obtain ⟨row, hrow, rfl⟩ := Option.map_eq_some_iff.1 hfound
      obtain ⟨hrow, htenant⟩ := Option.filter_eq_some_iff.1 hrow
      have hdevice : DeviceInOrder env s signedIn.user ⟨i, row, branchActive e₁ row.branchId,
          activeCredentials s i, s.seen⟩ := by
        refine ⟨hrow, by simpa using htenant, hactive, ?_, hof⟩
        rw [← hsettled.branchActive]
        exact hbranch
      obtain ⟨hiff, hattestation⟩ := login_attestation_accepted hnow' huser hdevice hmode hrun
      exact ⟨hattestation, row, hrow, hiff⟩

/-- Someone else than a cashier signs in with an attestation of a device that is bound to a
WebAuthn credential or a device token. -/
def OnBoundDevice (rt : AuthRuntime) (env : AuthSurroundings) (s : AuthStore)
    (username password : String) (deviceId : Option Nat)
    (deviceAttestation : Option String) : Prop :=
  ∃ supabaseUser userId user i d, env.signInWithPassword username password = some supabaseUser ∧
    rt.userOfSupabase supabaseUser = some userId ∧ s.users userId = some user ∧
    user.role ≠ .CASHIER ∧ deviceId = some i ∧ blank deviceAttestation = false ∧
    s.devices[i]? = some d ∧ (d.authBindingMode = .WEBAUTHN ∨ d.authBindingMode = .DEVICE_TOKEN)

/-- **Logins**: the session guard accepts the session, unless someone else than a cashier
signed in on a bound device. -/
theorem login_accepted {username password : String} {deviceId : Option Nat}
    {deviceAttestation : Option String} (hgood : s.Good) (hnow : IssuedNow env inputs x)
    (h : (login rt username password deviceId deviceAttestation deviceToken).run s inputs =
      some (.ok (.issued x), t)) :
    (loadAuthContext rt env t (some x.sessionToken) deviceToken).isSome = true ↔
      ¬ OnBoundDevice rt env s username password deviceId deviceAttestation := by
  obtain ⟨e₁, rest, rfl, hread⟩ := run_readAuth_bind.1 h
  cases hsupabase : e₁.signInWithPassword username password with
  | none => simp [hsupabase] at hread
  | some supabaseUser =>
      simp only [hsupabase] at hread
      obtain ⟨e₂, rest, rfl, hfind⟩ := run_readAuth_bind.1 hread
      cases hsignedIn : findSignedIn rt e₂ s supabaseUser with
      | none => simp [hsignedIn] at hfind
      | some signedIn =>
          simp only [hsignedIn] at hfind
          have hpassword : env.signInWithPassword username password = some supabaseUser := by
            rw [← (hnow.settled e₁ (by simp)).signInWithPassword]
            exact hsupabase
          obtain ⟨userId, huserId, hread⟩ := Option.bind_eq_some_iff.1 hsignedIn
          obtain ⟨user, hfiltered, hsigned⟩ := Option.map_eq_some_iff.1 hread
          obtain ⟨huser, -⟩ := Option.filter_eq_some_iff.1 hfiltered
          obtain rfl : signedIn.userId = userId := by rw [← hsigned]
          obtain rfl : signedIn.user = user := by rw [← hsigned]
          clear hsigned hread hfiltered
          -- the condition, with the user that signed in
          have hbound : OnBoundDevice rt env s username password deviceId deviceAttestation ↔
              ∃ i d, signedIn.user.role ≠ .CASHIER ∧ deviceId = some i ∧
                blank deviceAttestation = false ∧
                s.devices[i]? = some d ∧
                (d.authBindingMode = .WEBAUTHN ∨ d.authBindingMode = .DEVICE_TOKEN) := by
            constructor
            · rintro ⟨su, uid, u, i, d, hsu, huid, hu, hrest⟩
              obtain rfl := Option.some.inj (hpassword.symm.trans hsu)
              obtain rfl := Option.some.inj (huserId.symm.trans huid)
              obtain rfl := Option.some.inj (huser.symm.trans hu)
              exact ⟨i, d, hrest⟩
            · rintro ⟨i, d, hrest⟩
              exact ⟨supabaseUser, signedIn.userId, signedIn.user, i, d, hpassword, huserId,
                huser, hrest⟩
          rw [hbound]
          have hrest : IssuedNow env rest x := by
            refine ⟨fun e he => hnow.settled e ?_, hnow.token, hnow.now⟩
            exact List.mem_cons_of_mem _ (List.mem_cons_of_mem _ he)
          have hnot : signedIn.user.role = .CASHIER → ¬ ∃ i d, signedIn.user.role ≠ .CASHIER ∧
            deviceId = some i ∧
              blank deviceAttestation = false ∧ s.devices[i]? = some d ∧
              (d.authBindingMode = .WEBAUTHN ∨ d.authBindingMode = .DEVICE_TOKEN) := by
            rintro hrole ⟨_, _, hne, -⟩
            exact hne hrole
          by_cases htoken : signedIn.user.role = .CASHIER ∧ blank deviceToken = false
          · rw [if_pos (by simp [htoken])] at hfind
            rcases Process.run_bind.1 hfind with
              ⟨y, u, before, after, hsplit, hrun, hdone⟩ | ⟨fault, -, hfault⟩
            · obtain ⟨rfl, hy, rfl⟩ := Process.run_done.1 hdone
              obtain rfl : x = y := LoginResult.issued.inj (Except.ok.inj hy)
              rw [List.append_nil] at hsplit
              subst hsplit
              obtain ⟨token, rfl⟩ : ∃ token, deviceToken = some token := by
                cases deviceToken with
                | none => simp [blank] at htoken
                | some token => exact ⟨token, rfl⟩
              have hne : token ≠ "" := by simpa [blank] using htoken.2
              have haccepted := login_token_accepted hgood hrest huser hne hrun
              exact iff_of_true haccepted (hnot htoken.1)
            · cases hfault
          · rw [if_neg (by simpa using htoken)] at hfind
            obtain ⟨-, hdevice⟩ := run_ite_fail.1 hfind
            cases hid : deviceId.filter fun _ => signedIn.user.role = .CASHIER ||
              !blank deviceAttestation with
            | none =>
                simp only [hid] at hdevice
                obtain ⟨hrole, hrun⟩ := run_ite_fail.1 hdevice
                have hrole' : signedIn.user.role ≠ .CASHIER := by simpa using hrole
                refine iff_of_true (login_password_accepted hrest huser hrole' hrun) ?_
                rintro ⟨i, d, -, rfl, hattestation, -⟩
                simp [hattestation] at hid
            | some i =>
                simp only [hid] at hdevice
                obtain ⟨hdeviceId, -⟩ := Option.filter_eq_some_iff.1 hid
                obtain ⟨hattestation, d, hd, hiff⟩ := login_device_accepted hrest huser hdevice
                refine hiff.trans
                  (not_congr ⟨fun h => ⟨i, d, h.1, hdeviceId, hattestation, hd, h.2⟩, ?_⟩)
                rintro ⟨i', d', hrole, hi', -, hd', hmode⟩
                obtain rfl := Option.some.inj (hdeviceId.symm.trans hi')
                obtain rfl := Option.some.inj (hd.symm.trans hd')
                exact ⟨hrole, hmode⟩

/-! ### Completed logins and refreshes -/

lemma requiredWebAuthnLoginConfig_ok {config : WebAuthnConfig}
    (h : requiredWebAuthnLoginConfig rt = .ok config) :
    config.rpId = (configuredWebAuthnRpId rt).getD "" ∧
      blank (configuredWebAuthnRpId rt) = false := by
  simp only [requiredWebAuthnLoginConfig] at h
  by_cases hempty : (configuredWebAuthnRpId rt).getD "" = "" ∨ (configuredOrigins rt).isEmpty = true
  · rw [if_pos (by simpa using hempty)] at h
    cases h
  · rw [if_neg (by simpa using hempty)] at h
    obtain rfl := Except.ok.inj h
    exact ⟨rfl, by simp [blank, (not_or.1 hempty).1]⟩

lemma eligible_onCredential {y : Session} {user : AuthUser} {d : DeviceRow} {i cid : Nat}
    {c : DeviceWebAuthnCredential} {rpId : Option String} {allow : Bool}
    (hdevice : y.deviceId = some i) (hcid : y.deviceCredentialId = some cid)
    (hpurpose : y.purpose = .USER) (hrow : t.devices[i]? = some d)
    (htenant : d.tenantId = user.tenantId) (hactive : d.status = .ACTIVE)
    (hbranch : branchActive env d.branchId = true) (hof : user.branchId = some d.branchId)
    (hmode : d.authBindingMode = .WEBAUTHN) (hrole : user.role = .CASHIER)
    (hcredential : t.deviceWebAuthnCredentials[cid]? = some c)
    (hof' : c.deviceId = i ∧ c.tenantId = user.tenantId ∧ c.status = .ACTIVE)
    (hrpId : blank rpId = false) (htrusted : trustedCredential (rpId.getD "") c = true) :
    isSessionDeviceEligible env t y user rpId allow = true := by
  have hsession : t.sessionDevice y = some d := by simp [AuthStore.sessionDevice, hdevice, hrow]
  have hfound : t.sessionCredential y = some c := by
    simp [AuthStore.sessionCredential, hcid, hcredential, hdevice, hof'.1]
  unfold isSessionDeviceEligible
  simp [hdevice, hsession, hfound, htenant, hactive, hbranch, hof, hmode, hrole, hof', hrpId,
    htrusted, hpurpose]

/-- **Completed logins**: the session guard accepts the session. -/
theorem completed_accepted {attemptToken : Option String} {assertion : Json}
    (hnow : IssuedNow env inputs x)
    (h : (completeCashierLogin rt attemptToken assertion).run s inputs = some (.ok x, t)) :
    (loadAuthContext rt env t (some x.sessionToken) deviceToken).isSome = true := by
  obtain ⟨-, hrest⟩ := run_ite_fail.1 h
  obtain ⟨-, hrest⟩ := run_ite_fail.1 hrest
  obtain ⟨config, hconfig, hread⟩ := run_ofExcept_bind.1 hrest
  obtain ⟨hrpId, hblank⟩ := requiredWebAuthnLoginConfig_ok hconfig
  obtain ⟨e₁, rest, rfl, hfind⟩ := run_readAuth_bind.1 hread
  cases hfound : findLoginAttempt e₁ s (hashSecret (attemptToken.getD "")) with
  | none => simp [hfound] at hfind
  | some found =>
      obtain ⟨⟨aid, attempt⟩, credentials⟩ := found
      simp only [hfound] at hfind
      cases hcredential : credentials.find? fun c => assertionId assertion =
        some c.2.credentialId with
      | none => simp [hcredential] at hfind
      | some credential =>
          obtain ⟨cid, credential⟩ := credential
          simp only [hcredential] at hfind
          obtain ⟨e₂, rest, rfl, hcurrent⟩ := run_readAuth_bind.1 hfind
          obtain ⟨e₃, rest, rfl, hrun⟩ := run_readAuth_bind.1 hcurrent
          obtain ⟨e₄, rfl, hcommit⟩ := run_commit.1 (run_catching_fail.1 hrun)
          simp only [completeTransaction, bind_ok, get_ok, orFault_ok, rejectIf_ok, update_ok,
            onlyIf_ok] at hcommit
          obtain ⟨_, _, ⟨rfl, rfl⟩, d, _, ⟨hd, rfl⟩, c, _, ⟨hc, rfl⟩, info, _, ⟨-, rfl⟩, _,
            _, ⟨-, rfl⟩,
            a, _, ⟨-, rfl⟩, _, v, hconsumed, _, w, hw, cu, _, ⟨hcu, rfl⟩, _, _, ⟨hchecks, rfl⟩,
            hissue⟩ := hcommit
          obtain ⟨row, hrow, hissued⟩ := issueSession_issuedOn hissue
          obtain ⟨hrow, heligible⟩ := eligible_row (hnow.settled e₃ (by simp)) hrow
          obtain ⟨hcu, -⟩ := eligible_row (hnow.settled e₂ (by simp)) hcu
          obtain rfl : cu = row := Option.some.inj (hcu.symm.trans hrow)
          obtain ⟨hdrow, hdok⟩ := Option.filter_eq_some_iff.1 hd
          obtain ⟨hcrow, hcok⟩ := Option.filter_eq_some_iff.1 hc
          simp only [Bool.and_eq_true, decide_eq_true_eq] at hdok hcok
          obtain ⟨⟨⟨⟨htenant, hbranchId⟩, hactive⟩, hbranch⟩, hmode⟩ := hdok
          obtain ⟨⟨⟨hdevice, hcactive⟩, hctenant⟩, htrusted⟩ := hcok
          simp only [not_or, not_not] at hchecks
          obtain ⟨hrole, hutenant, hubranch⟩ := hchecks
          -- only the attempt and the counter have changed
          obtain ⟨c', hwrow, hsame, hwdevices, hwusers⟩ : ∃ c',
              w.deviceWebAuthnCredentials[cid]? = some c' ∧
              c' = { c with signCount := c'.signCount } ∧ w.devices = s.devices ∧
              w.users = s.users := by
            rcases hw with ⟨-, rfl⟩ | ⟨-, rfl⟩
            · rw [hconsumed]
              exact ⟨_, List.getElem?_set_self (Table.lt_of_getElem? hcrow), rfl, rfl, rfl⟩
            · rw [hconsumed]
              exact ⟨c, hcrow, rfl, rfl, rfl⟩
          have hsessions : t.sessions = w.sessions ++ [x.session] := by rw [hissued.store]
          have husers : t.users attempt.userId = some cu := by
            rw [hissued.store, ← hcu, ← hwusers]
          have hdevices : t.devices[attempt.deviceId]? = some d := by
            rw [hissued.store, ← hdrow, ← hwdevices]
          have hcredentials : t.deviceWebAuthnCredentials[cid]? = some c' := by
            rw [hissued.store]
            exact hwrow
          have hbranchActive : branchActive env d.branchId = true := by
            rw [← (hnow.settled e₄ (by simp)).branchActive]
            cases hb : e₄.branches d.branchId with
            | none => simp [hb] at hbranch
            | some b =>
                simp only [hb, Option.any_some, Bool.and_eq_true] at hbranch
                simp only [branchActive, hb, Option.any_some]
                exact hbranch.1
          rw [load_issued hnow hissued hsessions husers heligible, hissued.session,
            eligible_onCredential rfl rfl rfl hdevices (htenant.trans hutenant.symm) hactive
              hbranchActive (by rw [hubranch, hbranchId]) hmode hrole hcredentials
              ⟨by rw [hsame]; exact hdevice, by rw [hsame]; exact hctenant.trans hutenant.symm,
                by rw [hsame]; exact hcactive⟩ hblank
              (by rw [← hrpId, hsame]; exact htrusted)]
          exact tokenCheck_of_mode hdevices (by simp [hmode])

lemma eligible_congr {y z : Session} {user : AuthUser} {rpId : Option String} {allow : Bool}
    (he : SameSurroundings env e) (hdevice : z.deviceId = y.deviceId)
    (hcredential : z.deviceCredentialId = y.deviceCredentialId) (hpurpose : z.purpose = y.purpose)
    (hdevices : t.devices = s.devices)
    (hcredentials : t.deviceWebAuthnCredentials = s.deviceWebAuthnCredentials) :
    isSessionDeviceEligible env t z user rpId allow =
      isSessionDeviceEligible e s y user rpId allow := by
  unfold isSessionDeviceEligible AuthStore.sessionDevice AuthStore.sessionCredential
  simp only [hdevice, hcredential, hpurpose, hdevices, hcredentials, he.branchActive]

lemma tokenCheck_congr {i : Option Nat} {user : AuthUser} (hdevices : t.devices = s.devices)
    (htokens : t.deviceTokenCredentials = s.deviceTokenCredentials) :
    tokenCheck rt t i user deviceToken = tokenCheck rt s i user deviceToken := by
  unfold tokenCheck presentsDeviceToken
  rw [hdevices, htokens]

lemma acceptsSession_device {y : Session} {user : AuthUser}
    (h : acceptsSession rt e s y user deviceToken = true) :
    isSessionDeviceEligible e s y user (configuredWebAuthnRpId rt)
      rt.localCashierTestSessionEnabled = true ∧
      tokenCheck rt s y.deviceId user deviceToken = true := by
  simp only [acceptsSession, Bool.and_eq_true] at h
  refine ⟨h.1.2, ?_⟩
  have hcheck := h.2
  unfold tokenCheck
  cases hdevice : y.deviceId with
  | none => rfl
  | some i =>
      rw [hdevice] at hcheck
      exact hcheck

lemma findRefreshable_purpose {sid seen : Nat} {y : Session}
    (h : findRefreshable rt e s sid = .ok (y, seen)) : y.purpose = .USER := by
  unfold findRefreshable at h
  cases hrow : s.sessions[sid]? with
  | none => simp [hrow] at h
  | some z =>
      cases huser : (s.users z.userId).filter (isAuthUserEligible e) with
      | none => simp [hrow, huser] at h
      | some user =>
          simp only [hrow, huser] at h
          split_ifs at h with h1 h2 h3
          obtain ⟨rfl, -⟩ := Prod.mk.inj (Except.ok.inj h)
          cases hpurpose : z.purpose with
          | USER => rfl
          | SMOKE => exact absurd hpurpose h3

/-- **Refreshes**: where the session guard has accepted a session, it accepts the one that it is
refreshed into. -/
theorem refreshed_accepted {token : Option String} {sid : Nat} {context : AuthContext}
    (hnow : IssuedNow env inputs x) (he : SameSurroundings env e)
    (hguard : loadAuthContext rt e s token deviceToken = some (sid, context))
    (h : (refresh rt sid).run s inputs = some (.ok x, t)) :
    (loadAuthContext rt env t (some x.sessionToken) deviceToken).isSome = true := by
  obtain ⟨y, user, hy, huser, haccepts⟩ := loadAuthContext_some hguard
  obtain ⟨heligibleDevice, htoken⟩ := acceptsSession_device haccepts
  obtain ⟨e₁, rest, rfl, hread⟩ := run_readAuth_bind.1 h
  obtain ⟨⟨old, seen⟩, hfound, hcurrent⟩ := run_ofExcept_bind.1 hread
  obtain ⟨hold, -⟩ := findRefreshable_ok hfound
  obtain rfl : y = old := Option.some.inj (hy.symm.trans hold)
  have hpurpose := findRefreshable_purpose hfound
  obtain ⟨e₂, rest₂, rfl, hlifetime⟩ := run_readAuth_bind.1 hcurrent
  obtain ⟨e₃, rest₃, rfl, hrun⟩ := run_readAuth_bind.1 hlifetime
  obtain ⟨e₄, rfl, hcommit⟩ := run_commit.1 hrun
  simp only [refreshTransaction, bind_ok, get_ok, orFault_ok, rejectIf_ok, update_ok] at hcommit
  obtain ⟨_, _, ⟨rfl, rfl⟩, z, _, ⟨hz, rfl⟩, _, v, hended, cu, _, ⟨-, rfl⟩, _, _, ⟨-, rfl⟩,
    hissue⟩ := hcommit
  obtain ⟨hzrow, -⟩ := Option.filter_eq_some_iff.1 hz
  obtain rfl : y = z := Option.some.inj (hy.symm.trans hzrow)
  obtain ⟨row, hrow, hissued⟩ := issueSession_issuedOn hissue
  obtain ⟨hrow, heligible⟩ := eligible_row (hnow.settled e₃ (by simp)) hrow
  obtain rfl : user = row := Option.some.inj (huser.symm.trans hrow)
  have ht := hissued.store
  rw [hended] at ht
  have hsessions : t.sessions = v.sessions ++ [x.session] := by rw [hissued.store]
  have husers : t.users y.userId = some user := by rw [ht]; exact huser
  have hdevices : t.devices = s.devices := by rw [ht]
  rw [load_issued hnow hissued hsessions husers heligible,
    eligible_congr (y := y) he (by rw [hissued.session]; rfl) (by rw [hissued.session]; rfl)
      (by rw [hissued.session, hpurpose]; rfl) hdevices (by rw [ht]), heligibleDevice]
  exact (tokenCheck_congr hdevices (by rw [ht])).trans htoken

/-- The sessions that logins and refreshes issue in a store are accepted right after, but for
those of others than cashiers on bound devices. -/
structure AcceptsIssued (rt : AuthRuntime) (s : AuthStore) : Prop where
  login : ∀ {env : AuthSurroundings} {inputs : List AuthSurroundings} {username password : String}
    {deviceId : Option Nat} {deviceAttestation deviceToken : Option String} {x : IssuedSession}
    {t : AuthStore}, IssuedNow env inputs x →
    (login rt username password deviceId deviceAttestation deviceToken).run s inputs =
      some (.ok (.issued x), t) →
    ((loadAuthContext rt env t (some x.sessionToken) deviceToken).isSome = true ↔
      ¬ OnBoundDevice rt env s username password deviceId deviceAttestation)
  completed : ∀ {env : AuthSurroundings} {inputs : List AuthSurroundings}
    {attemptToken deviceToken : Option String} {assertion : Json} {x : IssuedSession}
    {t : AuthStore},
    IssuedNow env inputs x →
    (completeCashierLogin rt attemptToken assertion).run s inputs = some (.ok x, t) →
    (loadAuthContext rt env t (some x.sessionToken) deviceToken).isSome = true
  refreshed : ∀ {env e : AuthSurroundings} {inputs : List AuthSurroundings}
    {token deviceToken : Option String} {sid : Nat} {context : AuthContext} {x : IssuedSession}
    {t : AuthStore}, IssuedNow env inputs x → SameSurroundings env e →
    loadAuthContext rt e s token deviceToken = some (sid, context) →
    (refresh rt sid).run s inputs = some (.ok x, t) →
    (loadAuthContext rt env t (some x.sessionToken) deviceToken).isSome = true

/-- **Which issued sessions are accepted**, in every store that requests side by side reach. -/
theorem issued_sessions_accepted {w : AuthRequests} (hfresh : s.Fresh)
    (hrun : Pool.Steps (AuthRequest.program rt) (.initial s) w) : AcceptsIssued rt w.state where
  login hnow h := login_accepted (run_good hfresh.good hrun) hnow h
  completed hnow h := completed_accepted hnow h
  refreshed hnow he hguard h := refreshed_accepted hnow he hguard h

namespace AuthShop

/-- A till that was never paired and still has its secret. -/
def unpairedStore : AuthStore := store users [device .UNPAIRED (some "secret")]

lemma unpairedStore_fresh : unpairedStore.Fresh := store_fresh (by simp [device])

/-- The session that a login has issued. -/
def issued (result : Option (Except Fault LoginResult × AuthStore)) :
    Option (IssuedSession × AuthStore) :=
  match result with
  | some (.ok (.issued x), t) => some (x, t)
  | _ => none

lemma issued_some {result : Option (Except Fault LoginResult × AuthStore)} {x : IssuedSession}
    (h : issued result = some (x, t)) : result = some (.ok (.issued x), t) := by
  unfold issued at h
  split at h
  · cases h
    rfl
  · cases h

/-- A supervisor's login, with or without an attestation of the till. -/
def supervisorLogin (deviceId : Option Nat) (deviceAttestation : Option String) :
    AuthHandling LoginResult :=
  login runtime "supervisor" "password" deviceId deviceAttestation none

def loginInputs (steps : Nat) : List AuthSurroundings :=
  List.replicate steps (surroundings 1000 "session token")

lemma issuedNow_loginInputs {steps : Nat} {x : IssuedSession}
    (htoken : x.sessionToken = "session token") (hused : x.session.lastUsedAt = some 1000) :
    IssuedNow (surroundings 1000 "session token") (loginInputs steps) x where
  settled e he := by
    rw [List.eq_of_mem_replicate he]
    exact ⟨rfl, rfl, rfl⟩
  token := by simp [htoken]
  now := hused

end AuthShop

/-- On the till's next day the supervisor logs in without it. -/
theorem issued_sessions_accepted_supervisor : ∃ (w : AuthRequests) (x : IssuedSession)
    (t : AuthStore),
    w.state.devices.map DeviceRow.authBindingMode = [.DEVICE_TOKEN] ∧
      (AuthShop.supervisorLogin none none).run w.state (AuthShop.loginInputs 4) =
        some (.ok (.issued x), t) ∧
      (loadAuthContext AuthShop.runtime (AuthShop.surroundings 1000 "session token") t
        (some x.sessionToken) none).isSome = true := by
  have hw : ((Pool.initial AuthShop.unpairedStore).runChecked (AuthRequest.program AuthShop.runtime)
      (fun _ _ => true) AuthShop.pairing).map
      (fun w => (w.state.devices.map DeviceRow.authBindingMode,
        (AuthShop.issued ((AuthShop.supervisorLogin none none).run w.state
          (AuthShop.loginInputs 4))).map fun y =>
            (y.1.sessionToken, y.1.session.lastUsedAt))) =
      some ([.DEVICE_TOKEN], some ("session token", some 1000)) := by
    decide +kernel
  obtain ⟨w, hw, hstate⟩ := Option.map_eq_some_iff.1 hw
  obtain ⟨hmode, hlogin⟩ := Prod.mk.inj hstate
  obtain ⟨⟨x, t⟩, hissued, hx⟩ := Option.map_eq_some_iff.1 hlogin
  obtain ⟨htoken, hused⟩ := Prod.mk.inj hx
  have hlogin := AuthShop.issued_some hissued
  refine ⟨w, x, t, hmode, hlogin, ?_⟩
  have haccepts := issued_sessions_accepted AuthShop.unpairedStore_fresh
    (.of_runChecked (fun _ _ _ => trivial) hw)
  refine (haccepts.login (AuthShop.issuedNow_loginInputs htoken hused) hlogin).2 ?_
  simp [OnBoundDevice]

/-- A supervisor who attests a till that has been paired gets a session that is not accepted. -/
theorem issued_session_rejected : ¬ ∀ (rt : AuthRuntime) (s : AuthStore) (w : AuthRequests)
    (env : AuthSurroundings) (inputs : List AuthSurroundings) (username password : String)
    (deviceId : Option Nat) (deviceAttestation deviceToken : Option String) (x : IssuedSession)
    (t : AuthStore), s.Fresh → Pool.Steps (AuthRequest.program rt) (.initial s) w →
    IssuedNow env inputs x →
    (login rt username password deviceId deviceAttestation deviceToken).run w.state inputs =
      some (.ok (.issued x), t) →
    (loadAuthContext rt env t (some x.sessionToken) deviceToken).isSome = true := by
  intro h
  have hw : ((Pool.initial AuthShop.unpairedStore).runChecked (AuthRequest.program AuthShop.runtime)
      (fun _ _ => true) AuthShop.pairing).map
      (fun w => (AuthShop.issued ((AuthShop.supervisorLogin (some 0)
        (some AuthShop.attestation)).run w.state (AuthShop.loginInputs 6))).map fun y =>
          ((y.1.sessionToken, y.1.session.lastUsedAt), (loadAuthContext AuthShop.runtime
            (AuthShop.surroundings 1000 "session token") y.2 (some y.1.sessionToken)
              none).isSome)) =
      some (some (("session token", some 1000), false)) := by
    decide +kernel
  obtain ⟨w, hw, hlogin⟩ := Option.map_eq_some_iff.1 hw
  obtain ⟨⟨x, t⟩, hissued, hx⟩ := Option.map_eq_some_iff.1 hlogin
  obtain ⟨hnew, hrejected⟩ := Prod.mk.inj hx
  obtain ⟨htoken, hused⟩ := Prod.mk.inj hnew
  have haccepted := h AuthShop.runtime AuthShop.unpairedStore w
    (AuthShop.surroundings 1000 "session token") (AuthShop.loginInputs 6) "supervisor" "password"
    (some 0) (some AuthShop.attestation) none x t AuthShop.unpairedStore_fresh
    (.of_runChecked (fun _ _ _ => trivial) hw) (AuthShop.issuedNow_loginInputs htoken hused)
    (AuthShop.issued_some hissued)
  rw [hrejected] at haccepted
  exact absurd haccepted (by decide)

end ShopcityLoyalty
