import ShopcityLoyalty.Revocations

/-!
How often an attestation of a device leads to a session, while the clock does not go back.

A nonce is recorded until its attestation is no longer fresh, and freshness is checked before
the transaction: the nonce stops a second use that commits while it is still recorded.
-/

namespace ShopcityLoyalty

open AuthService

/-! ### Runs under a clock -/

/-- Requests side by side, and the latest clock reading. -/
structure ClockedRequests where
  requests : AuthRequests
  clock : Int

/-- A step whose clock reading is not before the latest. -/
def ClockedRequests.step (rt : AuthRuntime) (w : ClockedRequests) :
    PoolEvent AuthRequest AuthSurroundings → Option ClockedRequests
  | .advance n env =>
      if w.clock ≤ env.now then
        (w.requests.step (AuthRequest.program rt) (.advance n env)).map fun u => ⟨u, env.now⟩
      else none
  | event => (w.requests.step (AuthRequest.program rt) event).map fun u => ⟨u, w.clock⟩

/-- Any number of steps while the clock does not go back. -/
abbrev ClockedRuns (rt : AuthRuntime)
    (P : ClockedRequests → PoolEvent AuthRequest AuthSurroundings → Prop) :
    ClockedRequests → ClockedRequests → Prop :=
  Runs (fun event w w' => w.step rt event = some w') P

variable {rt : AuthRuntime} {env : AuthSurroundings} {s t : AuthStore} {i j k : Nat} {x y : Session}
  {text : String} {a a' : Attestation} {w w' : ClockedRequests}
  {P : ClockedRequests → PoolEvent AuthRequest AuthSurroundings → Prop}

lemma ClockedRequests.step_some {event : PoolEvent AuthRequest AuthSurroundings}
    (h : w.step rt event = some w') :
    w.requests.step (AuthRequest.program rt) event = some w'.requests ∧ w.clock ≤ w'.clock ∧
      ∀ n env, event = .advance n env → w.clock ≤ env.now ∧ w'.clock = env.now := by
  cases event with
  | advance n env =>
      simp only [ClockedRequests.step] at h
      by_cases hle : w.clock ≤ env.now
      · rw [if_pos hle] at h
        obtain ⟨u, hu, rfl⟩ := Option.map_eq_some_iff.1 h
        refine ⟨hu, hle, fun m env' hevent => ?_⟩
        obtain ⟨rfl, rfl⟩ := PoolEvent.advance.inj hevent
        exact ⟨hle, rfl⟩
      · rw [if_neg hle] at h
        cases h
  | start request =>
      unfold ClockedRequests.step at h
      obtain ⟨u, hu, rfl⟩ := Option.map_eq_some_iff.1 h
      exact ⟨hu, le_rfl, fun m env hevent => by cases hevent⟩
  | crash n =>
      unfold ClockedRequests.step at h
      obtain ⟨u, hu, rfl⟩ := Option.map_eq_some_iff.1 h
      exact ⟨hu, le_rfl, fun m env hevent => by cases hevent⟩

lemma ClockedRequests.step_change {event : PoolEvent AuthRequest AuthSurroundings}
    (hmoving : w.requests.Moving (AuthMove rt)) (hgood : w.requests.state.Good)
    (hstep : w.step rt event = some w') :
    w'.requests.Moving (AuthMove rt) ∧ w'.requests.state.Good ∧ w.clock ≤ w'.clock ∧
      (w'.requests.state = w.requests.state ∨ ∃ env : AuthSurroundings,
        w.clock ≤ env.now ∧ w'.clock = env.now ∧
        AuthMove rt env w.requests.state w'.requests.state) := by
  obtain ⟨hpool, hclock, hnow⟩ := ClockedRequests.step_some hstep
  obtain ⟨hmoving', hgood', hchange⟩ :=
    Pool.step_moving keptBy_good AuthRequest.moves hmoving hgood hpool
  refine ⟨hmoving', hgood', hclock, ?_⟩
  rcases hchange.move_or_same with ⟨n, env, hevent, hmove⟩ | hsame
  · obtain ⟨hle, heq⟩ := hnow n env hevent
    exact .inr ⟨env, hle, heq, hmove⟩
  · exact .inl hsame

/-! ### Uses of attestations -/

/-- A text says one timestamp and one nonce. -/
lemma Attests.unique (h : Attests rt i text a) (h' : Attests rt i text a') : a = a' := by
  have hsays : ∀ {now : Int} {secret : String} {b : Attestation},
      assertDeviceAttestationValid rt now i text secret = .ok b →
      ∃ raw nonce signature, splitText '.' text = [raw, nonce, signature] ∧
        rt.Number raw = some b.timestamp ∧ b.nonce = nonce := by
    intro now secret b hb
    unfold assertDeviceAttestationValid at hb
    split at hb
    · rename_i raw nonce signature hparts
      cases htimestamp : rt.Number raw with
      | none => simp [htimestamp] at hb
      | some timestamp =>
          simp only [htimestamp] at hb
          split_ifs at hb
          obtain rfl := Except.ok.inj hb
          exact ⟨raw, nonce, signature, hparts, htimestamp, rfl⟩
    · cases hb
  obtain ⟨now, secret, hb⟩ := h
  obtain ⟨now', secret', hb'⟩ := h'
  obtain ⟨raw, nonce, signature, hparts, hnumber, hnonce⟩ := hsays hb
  obtain ⟨raw', nonce', signature', hparts', hnumber', hnonce'⟩ := hsays hb'
  rw [hparts] at hparts'
  simp only [List.cons.injEq, and_true] at hparts'
  obtain ⟨rfl, rfl, rfl⟩ := hparts'
  have htimestamp : a.timestamp = a'.timestamp := by
    rw [hnumber] at hnumber'
    exact Option.some.inj hnumber'
  have hsame : a.nonce = a'.nonce := hnonce.trans hnonce'.symm
  cases a
  cases a'
  simp only at htimestamp hsame
  rw [htimestamp, hsame]

/-- A session was issued on the attestation. -/
def Session.On (x : Session) (i : Nat) (text : String) : Prop :=
  x.evidence.proof = .attestation i text

/-- What a commit does about attestations: one use, or none. -/
lemma AuthMove.attested_or (hmove : AuthMove rt env s t) :
    (t.deviceAttestations = s.deviceAttestations ∧
      ∃ new, SessionsAfter s.sessions new t.sessions ∧ ∀ x ∈ new, ∀ i text, ¬ x.On i text) ∨
    ∃ x i d text a, x.On i text ∧ s.devices[i]? = some d ∧ Attests rt i text a ∧
      NonceRecorded d.tenantId i a env.now s.deviceAttestations t.deviceAttestations ∧
      t.sessions = s.sessions ++ [x] := by
  have hnone : ∀ {rows : Table Session}, SessionsAfter s.sessions [] rows →
      ∃ new, SessionsAfter s.sessions new rows ∧ ∀ x ∈ new, ∀ i text, ¬ x.On i text :=
    fun hafter => ⟨[], hafter, by simp⟩
  have hother : ∀ {rows : Table Session} {x : Session}, SessionsAfter s.sessions [] rows →
      (∀ i text, x.evidence.proof ≠ .attestation i text) →
      ∃ new, SessionsAfter s.sessions new (rows ++ [x]) ∧ ∀ x ∈ new, ∀ i text, ¬ x.On i text := by
    intro rows x hafter hx
    refine ⟨[x], hafter.insert, fun y hy => ?_⟩
    obtain rfl := List.mem_singleton.1 hy
    exact hx
  cases hmove with
  | attested _ _ hproof _ hrow hvalid hnonce =>
      exact .inr ⟨_, _, _, _, _, hproof, hrow, hvalid, hnonce, rfl⟩
  | paired => exact .inl ⟨rfl, hnone .update⟩
  | reset => exact .inl ⟨rfl, hnone .update⟩
  | enrolled => exact .inl ⟨rfl, hnone .update⟩
  | credentialRevoked => exact .inl ⟨rfl, hnone .update⟩
  | rotated => exact .inl ⟨rfl, hnone .update⟩
  | unbound => exact .inl ⟨rfl, hnone .update⟩
  | loggedIn _ _ hproof => exact .inl ⟨rfl, hother .refl (by simp [hproof])⟩
  | tokenLogin _ _ _ hproof => exact .inl ⟨rfl, hother .refl (by simp [hproof])⟩
  | completed _ _ _ _ _ _ hproof => exact .inl ⟨rfl, hother .refl (by simp [hproof])⟩
  | refreshed _ hrow _ _ hproof => exact .inl ⟨rfl, hother (.set hrow) (by simp [hproof])⟩
  | loggedOut hrow => exact .inl ⟨rfl, hnone (.set hrow)⟩
  | userRevoked => exact .inl ⟨rfl, hnone .swept⟩
  | _ => exact .inl ⟨rfl, hnone .refl⟩

/-- The nonce of a used attestation is recorded, while the attestation may still be fresh. -/
def NoncesKept (rt : AuthRuntime) (clock : Int) (s : AuthStore) : Prop :=
  ∀ (j : Nat) (x : Session) (i : Nat) (text : String) (a : Attestation),
    s.sessions[j]? = some x → x.On i text → Attests rt i text a →
    ∃ d, s.devices[i]? = some d ∧
      ((∃ r ∈ s.deviceAttestations, r.tenantId = d.tenantId ∧ r.deviceId = i ∧
        r.nonce = a.nonce ∧ r.expiresAt = a.timestamp + MAX_DEVICE_ATTESTATION_SKEW_MS) ∨
        a.timestamp + MAX_DEVICE_ATTESTATION_SKEW_MS < clock)

/-- One attestation has led to one session at most. -/
def UsedOnce (s : AuthStore) : Prop :=
  ∀ (j k : Nat) (x y : Session) (i : Nat) (text : String), s.sessions[j]? = some x →
    s.sessions[k]? = some y → x.On i text → y.On i text → j = k

/-- No session is issued on an attestation that has been used, later than the skew allowed
after its timestamp. -/
def Unexpired (rt : AuthRuntime) (w : ClockedRequests)
    (event : PoolEvent AuthRequest AuthSurroundings) : Prop :=
  ∀ w' x y i text a, w.step rt event = some w' →
    w'.requests.state.sessions[w.requests.state.sessions.length]? = some x → x.On i text →
    Attests rt i text a → y ∈ w.requests.state.sessions → y.On i text →
    w'.clock ≤ a.timestamp + MAX_DEVICE_ATTESTATION_SKEW_MS

lemma SessionsAfter.on {new : Table Session} (h : SessionsAfter s.sessions new t.sessions)
    (hnew : ∀ x ∈ new, ∀ i text, ¬ x.On i text) (hx : t.sessions[j]? = some x)
    (hon : x.On i text) : ∃ x₀, s.sessions[j]? = some x₀ ∧ x₀.On i text := by
  rcases h.origin hx with ⟨x₀, hx₀, hkept⟩ | ⟨-, hmem⟩
  · unfold Session.On at hon
    rw [hkept.same.2.2.2] at hon
    exact ⟨x₀, hx₀, hon⟩
  · exact absurd hon (hnew x hmem i text)

lemma NoncesKept.later {clock : Int} (h : NoncesKept rt clock s) (hmove : AuthMove rt env s t)
    (hclock : clock ≤ env.now)
    (hrows : ∀ r ∈ s.deviceAttestations, env.now ≤ r.expiresAt → ∃ r' ∈ t.deviceAttestations,
      r'.tenantId = r.tenantId ∧ r'.deviceId = r.deviceId ∧ r'.nonce = r.nonce ∧
        r'.expiresAt = r.expiresAt)
    (hx : s.sessions[j]? = some x) (hon : x.On i text) (ha : Attests rt i text a) :
    ∃ d, t.devices[i]? = some d ∧
      ((∃ r ∈ t.deviceAttestations, r.tenantId = d.tenantId ∧ r.deviceId = i ∧
        r.nonce = a.nonce ∧ r.expiresAt = a.timestamp + MAX_DEVICE_ATTESTATION_SKEW_MS) ∨
        a.timestamp + MAX_DEVICE_ATTESTATION_SKEW_MS < env.now) := by
  obtain ⟨d, hd, hnonce⟩ := h j x i text a hx hon ha
  obtain ⟨d', hd', htenant⟩ := hmove.device_row hd
  refine ⟨d', hd', ?_⟩
  rcases hnonce with ⟨r, hr, h1, h2, h3, h4⟩ | hexpired
  · by_cases hlive : env.now ≤ r.expiresAt
    · obtain ⟨r', hr', k1, k2, k3, k4⟩ := hrows r hr hlive
      exact .inl ⟨r', hr', by rw [k1, h1, htenant], k2.trans h2, k3.trans h3, k4.trans h4⟩
    · exact .inr (by omega)
  · exact .inr (by omega)

/-- **One commit**: a use that is not too late is the only one of its attestation. -/
theorem AuthMove.usedOnce {clock : Int} (hmove : AuthMove rt env s t) (hclock : clock ≤ env.now)
    (htime : ∀ x y i text a, t.sessions[s.sessions.length]? = some x → x.On i text →
      Attests rt i text a → y ∈ s.sessions → y.On i text →
      env.now ≤ a.timestamp + MAX_DEVICE_ATTESTATION_SKEW_MS)
    (hkept : NoncesKept rt clock s) (hused : UsedOnce s) :
    NoncesKept rt env.now t ∧ UsedOnce t := by
  rcases hmove.attested_or with ⟨hsame, new, hafter, hnew⟩ |
    ⟨z, n, d, said, b, hz, hd, hb, hnonce, hsessions⟩
  · constructor
    · intro j x i text a hx hon ha
      obtain ⟨x₀, hx₀, hon₀⟩ := hafter.on hnew hx hon
      refine hkept.later hmove hclock (fun r hr _ => ?_) hx₀ hon₀ ha
      rw [hsame]
      exact ⟨r, hr, rfl, rfl, rfl, rfl⟩
    · intro j k x y i text hx hy hox hoy
      obtain ⟨x₀, hx₀, hox₀⟩ := hafter.on hnew hx hox
      obtain ⟨y₀, hy₀, hoy₀⟩ := hafter.on hnew hy hoy
      exact hused j k x₀ y₀ i text hx₀ hy₀ hox₀ hoy₀
  · -- the nonce of a use there was would still be recorded
    have hfirst : ∀ y ∈ s.sessions, ¬ y.On n said := by
      intro y hy hoy
      obtain ⟨k, hk⟩ := List.getElem?_of_mem hy
      have hlast : t.sessions[s.sessions.length]? = some z := by
        rw [hsessions]
        exact Table.getElem?_insert_self _ _
      have hlive := htime z y n said b hlast hz hb hy hoy
      obtain ⟨d', hd', hrecord⟩ := hkept k y n said b hk hoy hb
      obtain rfl : d = d' := Option.some.inj (hd.symm.trans hd')
      rcases hrecord with ⟨r, hr, htenant, hdevice, hsame, hexpires⟩ | hexpired
      · exact hnonce.unused r hr htenant hdevice (by omega) hsame
      · omega
    constructor
    · intro j x i text a hx hon ha
      rw [hsessions] at hx
      rcases Table.getElem?_insert_iff.1 hx with hx | ⟨-, rfl⟩
      · refine hkept.later hmove hclock (fun r hr hlive => ?_) hx hon ha
        exact hnonce.kept r hr fun _ => hlive
      · obtain ⟨rfl, rfl⟩ : n = i ∧ said = text := by
          have hproof : SessionProof.attestation n said = .attestation i text := hz.symm.trans hon
          exact SessionProof.attestation.inj hproof
        obtain rfl := ha.unique hb
        obtain ⟨d', hd', htenant⟩ := hmove.device_row hd
        obtain ⟨r, hr, h1, h2, h3, h4⟩ := hnonce.recorded
        exact ⟨d', hd', .inl ⟨r, hr, h1.trans htenant.symm, h2, h3, h4⟩⟩
    · intro j k x y i text hx hy hox hoy
      -- the new session does not share its attestation with an older one
      have hnot : ∀ {l : Nat} {u : Session}, s.sessions[l]? = some u → u.On i text →
          ¬ z.On i text := by
        intro l u hu hou hoz
        have hproof : SessionProof.attestation n said = .attestation i text := hz.symm.trans hoz
        obtain ⟨rfl, rfl⟩ := SessionProof.attestation.inj hproof
        exact hfirst u (List.mem_of_getElem? hu) hou
      rw [hsessions] at hx hy
      rcases Table.getElem?_insert_iff.1 hx with hx | ⟨rfl, rfl⟩
      · rcases Table.getElem?_insert_iff.1 hy with hy | ⟨rfl, rfl⟩
        · exact hused j k x y i text hx hy hox hoy
        · exact absurd hoy (hnot hx hox)
      · rcases Table.getElem?_insert_iff.1 hy with hy | ⟨rfl, rfl⟩
        · exact absurd hox (hnot hy hoy)
        · rfl

/-- **An attestation is used once**, in runs in which no used one is presented again in a
transaction that comes after its expiry. -/
theorem attestations_used_once {clock : Int} (hfresh : s.Fresh)
    (hrun : ClockedRuns rt (Unexpired rt) ⟨.initial s, clock⟩ w) : UsedOnce w.requests.state := by
  have hinv : w.requests.Moving (AuthMove rt) ∧ w.requests.state.Good ∧
      NoncesKept rt w.clock w.requests.state ∧ UsedOnce w.requests.state := by
    refine hrun.invariant (I := fun u => u.requests.Moving (AuthMove rt) ∧ u.requests.state.Good ∧
      NoncesKept rt u.clock u.requests.state ∧ UsedOnce u.requests.state)
      (fun {event u u'} htime hu hstep => ?_) ?_
    · obtain ⟨hmoving, hgood, hkept, hused⟩ := hu
      obtain ⟨hmoving', hgood', hclock, hsame | ⟨env, hle, hnow, hmove⟩⟩ :=
        ClockedRequests.step_change hmoving hgood hstep
      · refine ⟨hmoving', hgood', ?_, ?_⟩
        · rw [hsame]
          intro j x i text a hx hon ha
          obtain ⟨d, hd, hrecord⟩ := hkept j x i text a hx hon ha
          exact ⟨d, hd, hrecord.imp_right fun h => h.trans_le hclock⟩
        · rw [hsame]
          exact hused
      · rw [hnow]
        refine ⟨hmoving', hgood', hmove.usedOnce hle (fun x y i text a hx hon ha hy hoy => ?_)
          hkept hused⟩
        rw [← hnow]
        exact htime u' x y i text a hstep hx hon ha hy hoy
    · refine ⟨Pool.initial_moving s, hfresh.good, fun j x i text a hx =>
        ?_, fun j k x y i text hx => ?_⟩
      · simp [Pool.initial, hfresh.sessions] at hx
      · simp [Pool.initial, hfresh.sessions] at hx
  exact hinv.2.2.2

/-! ### A second use -/

namespace AuthShop

/-- A login with the attestation up to its commit, at a clock reading. -/
def attestedLogin (n : Nat) (now : Int) : List (PoolEvent AuthRequest AuthSurroundings) :=
  .start (.login "cashier" "password" (some 0) (some attestation) none) ::
    advances n 5 (surroundings now "")

/-- One login, and a second one that is checked in time and commits when the nonce has expired. -/
def usedTwice : List (PoolEvent AuthRequest AuthSurroundings) :=
  attestedLogin 0 1000 ++ advances 0 1 (surroundings 1000 "first token") ++
    attestedLogin 1 301000 ++ advances 1 1 (surroundings 301001 "second token")

/-- One login, and a second one that commits while the nonce is recorded. -/
def replayed : List (PoolEvent AuthRequest AuthSurroundings) :=
  attestedLogin 0 1000 ++ advances 0 1 (surroundings 1000 "first token") ++
    attestedLogin 1 301000 ++ advances 1 1 (surroundings 301000 "second token")

end AuthShop

/-- A run of given steps under the clock. -/
def ClockedRequests.runChecked (rt : AuthRuntime)
    (check : ClockedRequests → PoolEvent AuthRequest AuthSurroundings → Bool)
    (w : ClockedRequests) (events : List (PoolEvent AuthRequest AuthSurroundings)) :
    Option ClockedRequests :=
  events.foldlM (fun u event => if check u event then u.step rt event else none) w

/-- The second login is told that the attestation has been used. -/
theorem attestations_used_once_replayed : ∃ w : ClockedRequests,
    w.requests.state.sessions.length = 1 ∧ UsedOnce w.requests.state := by
  have hw : (ClockedRequests.runChecked AuthShop.runtime
      (fun u event => u.requests.state.sessions.isEmpty ||
        (u.step AuthShop.runtime event).all fun u' => u'.requests.state.sessions.length ≤
          u.requests.state.sessions.length)
      ⟨.initial AuthShop.legacyStore, 0⟩ AuthShop.replayed).map
      (fun w => w.requests.state.sessions.length) = some 1 := by
    decide +kernel
  obtain ⟨w, hw, hlength⟩ := Option.map_eq_some_iff.1 hw
  refine ⟨w, hlength, attestations_used_once AuthShop.legacyStore_fresh (Runs.of_steps ?_ hw)⟩
  intro u event hcheck w' x y i text a hstep hx _ _ hy _
  simp only [hstep, Option.all_some, Bool.or_eq_true, decide_eq_true_eq] at hcheck
  rcases hcheck with hempty | hle
  · rw [List.isEmpty_iff.1 hempty] at hy
    simp at hy
  · have hlt := Table.lt_of_getElem? hx
    omega

/-- An attestation that was checked in time leads to a second session after its nonce expired. -/
theorem attestations_used_twice : ¬ ∀ (rt : AuthRuntime) (s : AuthStore) (clock : Int)
    (w : ClockedRequests), s.Fresh → ClockedRuns rt (fun _ _ => True) ⟨.initial s, clock⟩ w →
    UsedOnce w.requests.state := by
  intro h
  have hw : (ClockedRequests.runChecked AuthShop.runtime (fun _ _ => true)
      ⟨.initial AuthShop.legacyStore, 0⟩ AuthShop.usedTwice).map
      (fun w => w.requests.state.sessions.map fun x => x.evidence.proof) =
      some [.attestation 0 AuthShop.attestation, .attestation 0 AuthShop.attestation] := by
    decide +kernel
  obtain ⟨w, hw, hproofs⟩ := Option.map_eq_some_iff.1 hw
  obtain ⟨x, y, hsessions, hx, hy⟩ : ∃ x y, w.requests.state.sessions = [x, y] ∧
      x.evidence.proof = .attestation 0 AuthShop.attestation ∧
      y.evidence.proof = .attestation 0 AuthShop.attestation := by
    simpa [List.map_eq_cons_iff] using hproofs
  have honce := h AuthShop.runtime AuthShop.legacyStore 0 w AuthShop.legacyStore_fresh
    (Runs.of_steps (fun _ _ _ => trivial) hw)
  have hsame :=
    honce 0 1 x y 0 AuthShop.attestation (by simp [hsessions]) (by simp [hsessions]) hx hy
  cases hsame

end ShopcityLoyalty
