import ShopcityLoyalty.BindingModes

/-!
Revocation: which sessions are left after a commit that revokes, when logins and refreshes
run beside it.

A login that takes its device's lock, or a refresh that takes its session's, sees what was
revoked. What others read before a revocation, they commit after it; the runs that meet
`InTime` are those in which none does.
-/

namespace ShopcityLoyalty

/-- A revocation of the session's user, device or credential. -/
def Revocation.Concerns : Revocation → Session → Prop
  | .device deviceId, x => x.deviceId = some deviceId
  | .credential credentialId, x => x.deviceCredentialId = some credentialId
  | .user userId _, x => x.userId = userId

/-- How many revocations there were when the evidence of a session was read that a revocation
takes away. -/
def Session.seenBefore (x : Session) : Revocation → Nat
  | .user _ _ => x.evidence.userSeen
  | _ => x.evidence.deviceSeen

/-- The session's evidence was checked after every revocation that concerns it. -/
def AuthStore.Current (s : AuthStore) (x : Session) : Prop :=
  ∀ r, s.RevokedSince (x.seenBefore r) r → ¬ r.Concerns x

/-- What a login read is still so when it commits a session, and a sweep has seen every session
that its commit is about. -/
structure InTime (s t : AuthStore) : Prop where
  user : ∀ (x : Session) (n : Nat), t.sessions[s.sessions.length]? = some x →
    (∀ sid, x.evidence.proof ≠ .session sid) →
    ¬ s.RevokedSince x.evidence.userSeen (.user x.userId n)
  device : ∀ (x : Session) (i : Nat) (text : String), t.sessions[s.sessions.length]? = some x →
    x.evidence.proof = .attestation i text →
    ¬ s.RevokedSince x.evidence.deviceSeen (.device i)
  sweep : ∀ (userId : String) (n j : Nat) (x : Session),
    t.revocations = s.revocations ++ [.user userId n] → s.sessions[j]? = some x →
    x.userId = userId → x.status = .ACTIVE → j < n

/-- A step that is in time. -/
def StepInTime (rt : AuthRuntime) (w : AuthRequests)
    (event : PoolEvent AuthRequest AuthSurroundings) : Prop :=
  ∀ w', w.step (AuthRequest.program rt) event = some w' → InTime w.state w'.state

variable {rt : AuthRuntime} {env : AuthSurroundings} {s t : AuthStore} {i j k : Nat} {x y : Session}
  {r : Revocation}

lemma AuthStore.RevokedSince.earlier (h : s.RevokedSince k r) (hj : j ≤ k) : s.RevokedSince j r :=
  List.drop_subset_drop_left _ hj h

lemma not_revokedSince_seen : ¬ s.RevokedSince s.seen r := by
  simp [AuthStore.RevokedSince]

lemma AuthStore.Good.seenBefore_le (hgood : s.Good) (hx : s.sessions[j]? = some x) :
    x.seenBefore r ≤ s.seen := by
  have hle := hgood.sessions hx
  cases r with
  | user => exact hle.1
  | device => exact hle.2
  | credential => exact hle.2

/-- The active sessions are current. -/
def AuthStore.AllCurrent (s : AuthStore) : Prop :=
  ∀ (j : Nat) (x : Session), s.sessions[j]? = some x → x.status = .ACTIVE → s.Current x

lemma AuthStore.Current.grow {new : List Revocation} (h : s.Current x)
    (hseen : ∀ r, x.seenBefore r ≤ s.seen) (hnew : t.revocations = s.revocations ++ new)
    (hnot : ∀ r ∈ new, ¬ r.Concerns x) : t.Current x := by
  intro r hr
  rcases (AuthStore.revokedSince_append hnew (hseen r)).1 hr with hr | hr
  · exact h r hr
  · exact hnot r hr

lemma AuthStore.AllCurrent.ended {new : List Revocation} (h : s.AllCurrent) (hgood : s.Good)
    (hafter : SessionsAfter s.sessions [] t.sessions) (hnew : t.revocations = s.revocations ++ new)
    (hnot : ∀ (j : Nat) (x : Session), t.sessions[j]? = some x → s.sessions[j]? = some x →
      x.status = .ACTIVE → ∀ r ∈ new, ¬ r.Concerns x) : t.AllCurrent := by
  intro j x hx hactive
  rcases hafter.origin hx with ⟨x₀, hx₀, hkept⟩ | ⟨-, hmem⟩
  · obtain rfl := hkept.eq_of_active hactive
    exact (h j x hx₀ hactive).grow (fun r => hgood.seenBefore_le hx₀) hnew (hnot j x hx hx₀ hactive)
  · simp at hmem

lemma AuthStore.AllCurrent.kept (h : s.AllCurrent) (hgood : s.Good)
    (hafter : SessionsAfter s.sessions [] t.sessions) (hsame : t.revocations = s.revocations) :
    t.AllCurrent := by
  have hnew : t.revocations = s.revocations ++ [] := by rw [hsame, List.append_nil]
  exact h.ended hgood hafter hnew (by simp)

lemma AuthStore.AllCurrent.added {rows : Table Session} (h : s.AllCurrent)
    (hafter : SessionsAfter s.sessions [] rows) (hrows : t.sessions = rows ++ [y])
    (hsame : t.revocations = s.revocations) (hy : s.Current y) : t.AllCurrent := by
  have hrevoked : ∀ {z : Session}, s.Current z → t.Current z := by
    intro z hz r hr
    unfold AuthStore.RevokedSince at hr
    rw [hsame] at hr
    exact hz r hr
  intro j x hx hactive
  rw [hrows] at hx
  rcases Table.getElem?_insert_iff.1 hx with hx | ⟨-, rfl⟩
  · rcases hafter.origin hx with ⟨x₀, hx₀, hkept⟩ | ⟨-, hmem⟩
    · obtain rfl := hkept.eq_of_active hactive
      exact hrevoked (h j x hx₀ hactive)
    · simp at hmem
  · exact hrevoked hy

lemma active_of_device_revoked {now : Int}
    (hx : (s.revokeDeviceSessions i now).sessions[j]? = some x) (hactive : x.status = .ACTIVE) :
    x.deviceId ≠ some i := by
  simp only [AuthStore.revokeDeviceSessions, AuthStore.updateSessions, List.getElem?_map,
    Option.map_eq_some_iff] at hx
  obtain ⟨y, hy, rfl⟩ := hx
  by_cases hof : y.deviceId = some i ∧ y.status = .ACTIVE
  · simp [hof] at hactive
  · have hkeep : (decide (y.deviceId = some i) && decide (y.status = .ACTIVE)) = false := by
      simpa using hof
    simp only [hkeep, Bool.false_eq_true, if_false] at hactive ⊢
    exact fun hi => hof ⟨hi, hactive⟩

lemma AuthStore.AllCurrent.device {now : Int} (h : s.AllCurrent) (hgood : s.Good)
    (hsessions : t.sessions = (s.revokeDeviceSessions i now).sessions)
    (hnew : t.revocations = s.revocations ++ [.device i]) : t.AllCurrent := by
  refine h.ended hgood (by rw [hsessions]; exact .update) hnew fun j x hx _ hactive r hr => ?_
  obtain rfl := List.mem_singleton.1 hr
  rw [hsessions] at hx
  exact active_of_device_revoked hx hactive

lemma current_new (huser : ∀ n, ¬ s.RevokedSince x.evidence.userSeen (.user x.userId n))
    (hdevice : ∀ i, x.deviceId = some i → ¬ s.RevokedSince x.evidence.deviceSeen (.device i))
    (hcredential : ∀ c, x.deviceCredentialId = some c →
      ¬ s.RevokedSince x.evidence.deviceSeen (.credential c)) : s.Current x := by
  intro r hr hconcerns
  cases r with
  | device i => exact hdevice i hconcerns hr
  | credential c => exact hcredential c hconcerns hr
  | user userId n =>
      obtain rfl : x.userId = userId := hconcerns
      exact huser n hr

/-- **Every commit in time leaves current sessions.** -/
theorem AuthMove.allCurrent (hmove : AuthMove rt env s t) (hgood : s.Good) (htime : InTime s t)
    (h : s.AllCurrent) : t.AllCurrent := by
  cases hmove with
  | paired => exact h.device hgood rfl rfl
  | reset => exact h.device hgood rfl rfl
  | rotated => exact h.device hgood rfl rfl
  | unbound => exact h.device hgood rfl rfl
  | enrolled => exact h.kept hgood .update rfl
  | @credentialRevoked cid c now hrow =>
      refine h.ended hgood .update rfl fun j x hx hx₀ hactive r hr hconcerns => ?_
      obtain rfl := List.mem_singleton.1 hr
      -- the session's credential is one of the device's, so that the sweep meets it
      obtain ⟨c', hc', hdevice⟩ := hgood.credentials hx₀ hconcerns
      obtain rfl : c = c' := Option.some.inj (hrow.symm.trans hc')
      have hrow' : (s.updateSessions
          (fun x => x.deviceId = some c.deviceId && x.deviceCredentialId = some cid &&
            x.status = .ACTIVE)
          fun x => { x with status := .REVOKED, revokedAt := some now }).sessions[j]? =
          some { x with status := .REVOKED, revokedAt := some now } := by
        have hcredential : x.deviceCredentialId = some cid := hconcerns
        simp [AuthStore.updateSessions, hx₀, hdevice, hcredential, hactive]
      rw [hrow'] at hx
      rw [← Option.some.inj hx] at hactive
      cases hactive
  | @loggedIn x _ hdevice hproof =>
      refine h.added .refl rfl rfl (current_new (fun n => ?_) (fun i hi => ?_) fun c hc => ?_)
      · exact htime.user x n (Table.getElem?_insert_self _ _) (by simp [hproof])
      · simp [hdevice.1] at hi
      · simp [hdevice.2] at hc
  | @attested x i d text _ _ _ hdevice hproof =>
      refine h.added .refl rfl rfl (current_new (fun n => ?_) (fun k hk => ?_) fun c hc => ?_)
      · exact htime.user x n (Table.getElem?_insert_self _ _) (by simp [hproof])
      · obtain rfl : i = k := Option.some.inj (hdevice.1.symm.trans hk)
        exact htime.device x i text (Table.getElem?_insert_self _ _) hproof
      · simp [hdevice.2] at hc
  | @tokenLogin x cid c _ _ hdevice hproof _ hheld =>
      refine h.added .refl rfl rfl (current_new (fun n => ?_) (fun i hi => ?_) fun c hc => ?_)
      · exact htime.user x n (Table.getElem?_insert_self _ _) (by simp [hproof])
      · obtain rfl : c.deviceId = i := Option.some.inj (hdevice.1.symm.trans hi)
        exact hheld
      · simp [hdevice.2] at hc
  | @completed x aid cid a c c' _ _ _ _ _ hdevice hproof hseen =>
      refine h.added .refl rfl rfl (current_new (fun n => ?_) (fun i _ => ?_) fun c _ => ?_)
      · exact htime.user x n (Table.getElem?_insert_self _ _) (by simp [hproof])
      · rw [hseen.2]
        exact not_revokedSince_seen
      · rw [hseen.2]
        exact not_revokedSince_seen
  | @refreshed x old sid _ hrow hold hsame _ _ hlater =>
      refine h.added (.set hrow) rfl rfl fun r hr hconcerns => ?_
      have hle : old.seenBefore r ≤ x.seenBefore r := by
        cases r with
        | user => exact hlater.1
        | device => exact hlater.2
        | credential => exact hlater.2
      refine h sid old hrow hold r (hr.earlier hle) ?_
      cases r with
      | user => exact hsame.1.symm.trans hconcerns
      | device => exact hsame.2.1.symm.trans hconcerns
      | credential => exact hsame.2.2.symm.trans hconcerns
  | loggedOut hrow => exact h.kept hgood (.set hrow) rfl
  | @userRevoked _ _ userId ids n now hsweeps =>
      refine h.ended hgood .swept rfl fun j x hx hx₀ hactive r hr hconcerns => ?_
      obtain rfl := List.mem_singleton.1 hr
      -- the sweep has seen the session, so that it is no longer active
      have hlt := htime.sweep userId n j x rfl hx₀ hconcerns hactive
      have hswept := hsweeps j x hlt hx₀ hconcerns
      simp only [List.getElem?_mapIdx, hx₀, Option.map_some, if_pos hswept, Option.some.injEq] at hx
      rw [← hx] at hactive
      cases hactive
  | _ => exact h.kept hgood .refl rfl

lemma loadAuthContext_some {token deviceToken : Option String} {sid : Nat} {context : AuthContext}
    (h : loadAuthContext rt env s token deviceToken = some (sid, context)) :
    ∃ x user, s.sessions[sid]? = some x ∧ s.users x.userId = some user ∧
      acceptsSession rt env s x user deviceToken = true := by
  unfold loadAuthContext at h
  split at h
  · cases h
  cases hfind : s.sessions.find fun x =>
      x.sessionTokenHash = hashToken (token.getD "") rt.SESSION_SECRET with
  | none => simp [hfind] at h
  | some found =>
      obtain ⟨sid', x⟩ := found
      simp only [hfind] at h
      cases huser : s.users x.userId with
      | none => simp [huser] at h
      | some user =>
          simp only [huser] at h
          by_cases haccepts : acceptsSession rt env s x user deviceToken = true
          · rw [if_pos haccepts] at h
            obtain ⟨rfl, -⟩ := Prod.mk.inj (Option.some.inj h)
            exact ⟨x, user, (Table.find_some hfind).1, huser, haccepts⟩
          · rw [if_neg haccepts] at h
            cases h

lemma acceptsSession_active {user : AuthUser} {deviceToken : Option String}
    (h : acceptsSession rt env s x user deviceToken = true) : x.status = .ACTIVE := by
  simp only [acceptsSession, Bool.and_eq_true, decide_eq_true_eq] at h
  exact h.1.1.1.1.1

/-- Every session that is accepted has had its evidence checked after all that was revoked of
its user, its device and its credential. -/
def RevocationComplete (rt : AuthRuntime) (s : AuthStore) : Prop :=
  ∀ env token deviceToken sid context,
    loadAuthContext rt env s token deviceToken = some (sid, context) →
    ∃ x, s.sessions[sid]? = some x ∧ s.Current x

/-- **In runs whose steps are in time, revocation is complete.** -/
theorem revocation_complete {w : AuthRequests} (hfresh : s.Fresh)
    (hrun : Pool.StepsUnder (AuthRequest.program rt) (StepInTime rt) (.initial s) w) :
    RevocationComplete rt w.state := by
  intro env token deviceToken sid context hload
  have hall : w.state.AllCurrent := by
    refine run_auth (J := AuthStore.AllCurrent) ?_ hfresh.good ?_ hrun
    · intro u u' n env htime hstep hgood hmove h
      exact hmove.allCurrent hgood (htime u' hstep) h
    · intro j x hx
      simp [hfresh.sessions] at hx
  obtain ⟨x, user, hx, -, haccepts⟩ := loadAuthContext_some hload
  exact ⟨x, hx, hall sid x hx (acceptsSession_active haccepts)⟩

/-! ### Two runs -/

namespace AuthShop

def users (id : String) : Option AuthUser :=
  if id = "cashier" then some cashier
  else if id = "supervisor" then some { cashier with role := .SUPERVISOR }
  else none

/-- A till with the secret `secret`. -/
def legacyStore : AuthStore := store users [device .HMAC_LEGACY (some "secret")]

lemma legacyStore_fresh : legacyStore.Fresh := store_fresh (by simp [device])

/-- A cashier's login up to its commit, a rotation of the till's secret, and the commit. -/
def lateLogin : List (PoolEvent AuthRequest AuthSurroundings) :=
  .start (.login "cashier" "password" (some 0) (some attestation) none) ::
    advances 0 5 (surroundings 1000 "session token") ++
  .start (.updateDevice "tenant" admin 0 ⟨none, none, some true⟩ (some "key") none) ::
    advances 1 4 (surroundings 1000 "") ++
  advances 0 1 (surroundings 1000 "session token")

/-- A supervisor's role is set, and the supervisor logs in. -/
def nextLogin : List (PoolEvent AuthRequest AuthSurroundings) :=
  .start (.updateRole "tenant" admin "supervisor" .SUPERVISOR (some "key")) ::
    advances 0 5 (surroundings 1000 "") ++
  .start (.login "supervisor" "password" none none none) ::
    advances 1 4 (surroundings 1000 "session token")

/-- Nothing was revoked since a new session's reads, and a sweep saw every session. -/
def inTime (s t : AuthStore) : Bool :=
  (t.sessions[s.sessions.length]?.all fun x =>
    s.seen ≤ x.evidence.userSeen &&
      match x.evidence.proof with
      | .attestation _ _ => s.seen ≤ x.evidence.deviceSeen
      | _ => true) &&
  match t.revocations.getLast? with
  | some (.user _ n) => s.sessions.length ≤ n
  | _ => true

end AuthShop

lemma inTime_of_check (h : AuthShop.inTime s t = true) : InTime s t := by
  unfold AuthShop.inTime at h
  rw [Bool.and_eq_true] at h
  have hnew : ∀ x, t.sessions[s.sessions.length]? = some x → s.seen ≤ x.evidence.userSeen ∧
      ∀ i text, x.evidence.proof = .attestation i text → s.seen ≤ x.evidence.deviceSeen := by
    intro x hx
    have hcheck := h.1
    simp only [hx, Option.all_some, Bool.and_eq_true, decide_eq_true_eq] at hcheck
    refine ⟨hcheck.1, fun i text hproof => ?_⟩
    simpa [hproof] using hcheck.2
  have hnone : ∀ {k : Nat} {r : Revocation}, s.seen ≤ k → ¬ s.RevokedSince k r := by
    intro k r hk hr
    exact not_revokedSince_seen (hr.earlier hk)
  refine ⟨fun x n hx _ => hnone (hnew x hx).1, fun x i text hx hproof => ?_, ?_⟩
  · exact hnone ((hnew x hx).2 i text hproof)
  · intro userId n j x hlast hx _ _
    have hle : s.sessions.length ≤ n := by simpa [hlast] using h.2
    exact (Table.lt_of_getElem? hx).trans_le hle

theorem revocation_complete_nextLogin : ∃ w : AuthRequests,
    w.state.revocations = [.user "supervisor" 0] ∧
      (loadAuthContext AuthShop.runtime (AuthShop.surroundings 1000 "") w.state
        (some "session token") none).isSome ∧ RevocationComplete AuthShop.runtime w.state := by
  have hw : ((Pool.initial AuthShop.legacyStore).runChecked (AuthRequest.program AuthShop.runtime)
      (fun u event => (u.step (AuthRequest.program AuthShop.runtime) event).all fun u' =>
        AuthShop.inTime u.state u'.state) AuthShop.nextLogin).map
      (fun w => (w.state.revocations, (loadAuthContext AuthShop.runtime
        (AuthShop.surroundings 1000 "") w.state (some "session token") none).isSome)) =
      some ([.user "supervisor" 0], true) := by
    decide +kernel
  obtain ⟨w, hw, hstate⟩ := Option.map_eq_some_iff.1 hw
  obtain ⟨hrevocations, haccepted⟩ := Prod.mk.inj hstate
  refine ⟨w, hrevocations, haccepted, revocation_complete AuthShop.legacyStore_fresh
    (.of_runChecked (fun u event hcheck u' hstep => ?_) hw)⟩
  rw [hstep] at hcheck
  exact inTime_of_check hcheck

/-- A session that was proved under the old secret is accepted after its rotation. -/
theorem revocation_incomplete : ¬ ∀ (rt : AuthRuntime) (s : AuthStore) (w : AuthRequests),
    s.Fresh → Pool.Steps (AuthRequest.program rt) (.initial s) w →
      RevocationComplete rt w.state := by
  intro h
  have hw : ((Pool.initial AuthShop.legacyStore).runChecked (AuthRequest.program AuthShop.runtime)
      (fun _ _ => true) AuthShop.lateLogin).map
      (fun w => (((loadAuthContext AuthShop.runtime (AuthShop.surroundings 1000 "") w.state
          (some "session token") none).map Prod.fst, w.state.revocations),
        w.state.sessions.map fun x => (x.deviceId, x.evidence.deviceSeen))) =
      some ((some 0, [.device 0]), [(some 0, 0)]) := by
    decide +kernel
  obtain ⟨w, hw, hstate⟩ := Option.map_eq_some_iff.1 hw
  obtain ⟨hleft, hsessions⟩ := Prod.mk.inj hstate
  obtain ⟨hload, hrevocations⟩ := Prod.mk.inj hleft
  obtain ⟨⟨sid, context⟩, hload, hsid⟩ := Option.map_eq_some_iff.1 hload
  obtain rfl : sid = 0 := hsid
  obtain ⟨x, hx, hcurrent⟩ := h _ _ w AuthShop.legacyStore_fresh
    (.of_runChecked (fun _ _ _ => trivial) hw) _ _ _ _ _ hload
  have hrow : (w.state.sessions.map fun x => (x.deviceId, x.evidence.deviceSeen))[0]? =
      some (x.deviceId, x.evidence.deviceSeen) := by
    rw [List.getElem?_map, hx, Option.map_some]
  rw [hsessions] at hrow
  obtain ⟨hdevice, hseen⟩ := Prod.mk.inj (Option.some.inj hrow)
  refine hcurrent (.device 0) ?_ hdevice.symm
  simp [AuthStore.RevokedSince, Session.seenBefore, ← hseen, hrevocations]

end ShopcityLoyalty
