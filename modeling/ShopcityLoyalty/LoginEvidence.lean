import ShopcityLoyalty.AttestationUses

/-!
That what a login is granted on is used up: attempts and refreshed sessions lead to one
session each, counters only move on, and of sessions linked by refreshing one is active at
most.
-/

namespace ShopcityLoyalty

variable {rt : AuthRuntime} {env : AuthSurroundings} {s t : AuthStore} {aid sid : Nat} {x : Session}

/-- The session under an id was refreshed into another one. -/
def AuthStore.RefreshedTo (s : AuthStore) (i j : Nat) : Prop :=
  ∃ x, s.sessions[j]? = some x ∧ x.evidence.proof = .session i

/-- A session that a chain of refreshing leads to from another one. -/
abbrev AuthStore.Chain (s : AuthStore) : Nat → Nat → Prop := Relation.ReflTransGen s.RefreshedTo

/-- The evidence of sessions is used up. -/
structure AuthStore.UsedUp (s : AuthStore) : Prop where
  attempt : ∀ {j : Nat} {x : Session} {aid : Nat}, s.sessions[j]? = some x →
    x.evidence.proof = .assertion aid →
    ∃ a, s.cashierLoginAttempts[aid]? = some a ∧ a.consumedAt ≠ none
  refreshed : ∀ {i j : Nat}, s.RefreshedTo i j → ∃ y, s.sessions[i]? = some y ∧ y.status ≠ .ACTIVE
  attemptOnce : ∀ {j k : Nat} {x y : Session} {aid : Nat}, s.sessions[j]? = some x →
    s.sessions[k]? = some y → x.evidence.proof = .assertion aid →
    y.evidence.proof = .assertion aid → j = k
  refreshedOnce : ∀ {i j k : Nat}, s.RefreshedTo i j → s.RefreshedTo i k → j = k

/-- A consumed attempt stays consumed. -/
def ConsumedKept (s t : AuthStore) : Prop :=
  ∀ (aid : Nat) (a : CashierLoginAttempt), s.cashierLoginAttempts[aid]? = some a →
    a.consumedAt ≠ none → ∃ a', t.cashierLoginAttempts[aid]? = some a' ∧ a'.consumedAt ≠ none

lemma AuthMove.consumedKept (hmove : AuthMove rt env s t) : ConsumedKept s t := by
  intro aid a ha hconsumed
  cases hmove with
  | attempted => exact ⟨a, Table.getElem?_append ha, hconsumed⟩
  | completed _ hrow =>
      refine row_set (P := fun a b => a.consumedAt ≠ none → b.consumedAt ≠ none)
        (fun _ h => h) hrow (fun _ => by simp) ha |>.imp fun a' ha' => ⟨ha'.1, ha'.2 hconsumed⟩
  | _ => exact ⟨a, ha, hconsumed⟩

lemma SessionsAfter.ended {rows rows' new : Table Session} {y : Session}
    (h : SessionsAfter rows new rows') (hy : rows[sid]? = some y) (hended : y.status ≠ .ACTIVE) :
    ∃ y', rows'[sid]? = some y' ∧ y'.status ≠ .ACTIVE := by
  obtain ⟨y', hy', hkept⟩ := h.row hy
  refine ⟨y', hy', fun hactive => hended ?_⟩
  rw [← hkept.eq_of_active hactive]
  exact hactive

lemma SessionsAfter.same_proof {rows : Table Session} {j : Nat}
    (h : SessionsAfter s.sessions [] rows) (hx : rows[j]? = some x) :
    ∃ x₀, s.sessions[j]? = some x₀ ∧ x.evidence.proof = x₀.evidence.proof := by
  rcases h.origin hx with ⟨x₀, hx₀, hkept⟩ | ⟨-, hmem⟩
  · exact ⟨x₀, hx₀, by rw [hkept.same.2.2.2]⟩
  · simp at hmem

namespace AuthStore.UsedUp

lemma ended (h : s.UsedUp) (hafter : SessionsAfter s.sessions [] t.sessions)
    (hconsumed : ConsumedKept s t) : t.UsedUp where
  attempt hx hproof := by
    obtain ⟨x₀, hx₀, hsame⟩ := hafter.same_proof hx
    obtain ⟨a, ha, hused⟩ := h.attempt hx₀ (hsame.symm.trans hproof)
    exact hconsumed _ _ ha hused
  refreshed := by
    rintro i j ⟨x, hx, hproof⟩
    obtain ⟨x₀, hx₀, hsame⟩ := hafter.same_proof hx
    obtain ⟨y, hy, hended⟩ := h.refreshed ⟨x₀, hx₀, hsame.symm.trans hproof⟩
    exact hafter.ended hy hended
  attemptOnce hx hy hxp hyp := by
    obtain ⟨x₀, hx₀, hxs⟩ := hafter.same_proof hx
    obtain ⟨y₀, hy₀, hys⟩ := hafter.same_proof hy
    exact h.attemptOnce hx₀ hy₀ (hxs.symm.trans hxp) (hys.symm.trans hyp)
  refreshedOnce := by
    rintro i j k ⟨x, hx, hxp⟩ ⟨y, hy, hyp⟩
    obtain ⟨x₀, hx₀, hxs⟩ := hafter.same_proof hx
    obtain ⟨y₀, hy₀, hys⟩ := hafter.same_proof hy
    exact h.refreshedOnce ⟨x₀, hx₀, hxs.symm.trans hxp⟩ ⟨y₀, hy₀, hys.symm.trans hyp⟩

/-- A session is added on an attempt that was open, or in place of one that was active. -/
lemma added {rows : Table Session} (h : s.UsedUp) (hafter : SessionsAfter s.sessions [] rows)
    (hrows : t.sessions = rows ++ [x]) (hconsumed : ConsumedKept s t)
    (hattempt : ∀ aid, x.evidence.proof = .assertion aid →
      (∃ a, s.cashierLoginAttempts[aid]? = some a ∧ a.consumedAt = none) ∧
        ∃ a, t.cashierLoginAttempts[aid]? = some a ∧ a.consumedAt ≠ none)
    (hrefreshed : ∀ sid, x.evidence.proof = .session sid →
      (∃ y, s.sessions[sid]? = some y ∧ y.status = .ACTIVE) ∧
        ∃ y, rows[sid]? = some y ∧ y.status ≠ .ACTIVE) : t.UsedUp := by
  have hold : ∀ {j : Nat} {z : Session}, t.sessions[j]? = some z →
      (∃ z₀, s.sessions[j]? = some z₀ ∧ z.evidence.proof = z₀.evidence.proof) ∨
        (j = rows.length ∧ x = z) := by
    intro j z hz
    rw [hrows] at hz
    rcases Table.getElem?_insert_iff.1 hz with hz | hlast
    · exact .inl (hafter.same_proof hz)
    · exact .inr hlast
  -- the evidence of a session there was is used up, that of the new one was not
  have hnotAttempt : ∀ {j : Nat} {z : Session} {aid : Nat}, s.sessions[j]? = some z →
      z.evidence.proof = .assertion aid → x.evidence.proof ≠ .assertion aid := by
    intro j z aid hz hzp hxp
    obtain ⟨a, ha, hused⟩ := h.attempt hz hzp
    obtain ⟨⟨a', ha', hopen⟩, -⟩ := hattempt aid hxp
    obtain rfl : a = a' := Option.some.inj (ha.symm.trans ha')
    exact hused hopen
  have hnotRefreshed : ∀ {i j : Nat}, s.RefreshedTo i j → x.evidence.proof ≠ .session i := by
    intro i j hij hxp
    obtain ⟨y, hy, hended⟩ := h.refreshed hij
    obtain ⟨⟨y', hy', hactive⟩, -⟩ := hrefreshed i hxp
    obtain rfl : y = y' := Option.some.inj (hy.symm.trans hy')
    exact hended hactive
  refine ⟨fun {j z aid} hz hzp => ?_, fun {i j} hij => ?_, fun {j k z u aid} hz hu hzp hup => ?_,
    fun {i j k} hij hik => ?_⟩
  · rcases hold hz with ⟨z₀, hz₀, hsame⟩ | ⟨-, rfl⟩
    · obtain ⟨a, ha, hused⟩ := h.attempt hz₀ (hsame.symm.trans hzp)
      exact hconsumed _ _ ha hused
    · exact (hattempt aid hzp).2
  · obtain ⟨z, hz, hzp⟩ := hij
    have hended : ∃ y, rows[i]? = some y ∧ y.status ≠ .ACTIVE := by
      rcases hold hz with ⟨z₀, hz₀, hsame⟩ | ⟨-, rfl⟩
      · obtain ⟨y, hy, hended⟩ := h.refreshed ⟨z₀, hz₀, hsame.symm.trans hzp⟩
        exact hafter.ended hy hended
      · exact (hrefreshed i hzp).2
    obtain ⟨y, hy, hended⟩ := hended
    rw [hrows]
    exact ⟨y, Table.getElem?_append hy, hended⟩
  · rcases hold hz with ⟨z₀, hz₀, hzs⟩ | ⟨rfl, rfl⟩
    · rcases hold hu with ⟨u₀, hu₀, hus⟩ | ⟨-, rfl⟩
      · exact h.attemptOnce hz₀ hu₀ (hzs.symm.trans hzp) (hus.symm.trans hup)
      · exact absurd hup (hnotAttempt hz₀ (hzs.symm.trans hzp))
    · rcases hold hu with ⟨u₀, hu₀, hus⟩ | ⟨rfl, -⟩
      · exact absurd hzp (hnotAttempt hu₀ (hus.symm.trans hup))
      · rfl
  · obtain ⟨z, hz, hzp⟩ := hij
    obtain ⟨u, hu, hup⟩ := hik
    rcases hold hz with ⟨z₀, hz₀, hzs⟩ | ⟨rfl, rfl⟩
    · have hij₀ : s.RefreshedTo i j := ⟨z₀, hz₀, hzs.symm.trans hzp⟩
      rcases hold hu with ⟨u₀, hu₀, hus⟩ | ⟨-, rfl⟩
      · exact h.refreshedOnce hij₀ ⟨u₀, hu₀, hus.symm.trans hup⟩
      · exact absurd hup (hnotRefreshed hij₀)
    · rcases hold hu with ⟨u₀, hu₀, hus⟩ | ⟨rfl, -⟩
      · exact absurd hzp (hnotRefreshed ⟨u₀, hu₀, hus.symm.trans hup⟩)
      · rfl

end AuthStore.UsedUp

/-- **Every commit uses evidence up.** -/
theorem AuthMove.usedUp (hmove : AuthMove rt env s t) (h : s.UsedUp) : t.UsedUp := by
  have hconsumed := hmove.consumedKept
  cases hmove with
  | paired => exact h.ended .update hconsumed
  | reset => exact h.ended .update hconsumed
  | enrolled => exact h.ended .update hconsumed
  | credentialRevoked => exact h.ended .update hconsumed
  | rotated => exact h.ended .update hconsumed
  | unbound => exact h.ended .update hconsumed
  | loggedIn _ _ hproof => exact h.added .refl rfl hconsumed (by simp [hproof]) (by simp [hproof])
  | attested _ _ hproof => exact h.added .refl rfl hconsumed (by simp [hproof]) (by simp [hproof])
  | tokenLogin _ _ _ hproof =>
      exact h.added .refl rfl hconsumed (by simp [hproof]) (by simp [hproof])
  | @completed x aid cid a c c' _ hrow hopen _ _ _ hproof =>
      refine h.added .refl rfl hconsumed (fun aid' haid => ?_) (by simp [hproof])
      obtain rfl : aid = aid' := SessionProof.assertion.inj (hproof.symm.trans haid)
      refine ⟨⟨a, hrow, hopen⟩, _, List.getElem?_set_self (Table.lt_of_getElem? hrow), ?_⟩
      simp
  | @refreshed x old sid _ hrow hactive _ hproof =>
      refine h.added (.set hrow) rfl hconsumed (by simp [hproof]) fun sid' hsid => ?_
      obtain rfl : sid = sid' := SessionProof.session.inj (hproof.symm.trans hsid)
      refine ⟨⟨old, hrow, hactive⟩, _, List.getElem?_set_self (Table.lt_of_getElem? hrow), ?_⟩
      simp
  | loggedOut hrow => exact h.ended (.set hrow) hconsumed
  | userRevoked => exact h.ended .swept hconsumed
  | _ => exact h.ended .refl hconsumed

/-! ### Counters -/

/-- What a step does to the counters of credentials: none goes back, and a login with one
that is positive moves it on. -/
structure CountersForward (s t : AuthStore) : Prop where
  kept : ∀ {cid : Nat} {c : DeviceWebAuthnCredential}, s.deviceWebAuthnCredentials[cid]? = some c →
    ∃ c', t.deviceWebAuthnCredentials[cid]? = some c' ∧ c.signCount ≤ c'.signCount
  login : ∀ {x : Session} {aid cid : Nat} {c c' : DeviceWebAuthnCredential},
    t.sessions[s.sessions.length]? = some x → x.evidence.proof = .assertion aid →
    x.deviceCredentialId = some cid → s.deviceWebAuthnCredentials[cid]? = some c →
    t.deviceWebAuthnCredentials[cid]? = some c' → 0 < c.signCount → c.signCount < c'.signCount

lemma not_new_assertion {rows new : Table Session} (hafter : SessionsAfter s.sessions new rows)
    (hnew : ∀ x ∈ new, ∀ aid, x.evidence.proof ≠ .assertion aid)
    (hx : rows[s.sessions.length]? = some x) : x.evidence.proof ≠ .assertion aid := by
  have hnone : s.sessions[s.sessions.length]? = none := List.getElem?_eq_none le_rfl
  exact hnew x (List.mem_of_getElem? (hafter.new hx hnone)) aid

/-- **Every commit moves counters forward.** -/
theorem AuthMove.counters (hmove : AuthMove rt env s t) : CountersForward s t := by
  have hsame : ∀ {cid : Nat} {c : DeviceWebAuthnCredential},
      s.deviceWebAuthnCredentials[cid]? = some c →
      ∃ c', s.deviceWebAuthnCredentials[cid]? = some c' ∧ c.signCount ≤ c'.signCount :=
    fun {_ c} hc => ⟨c, hc, le_rfl⟩
  have hset : ∀ {k cid : Nat} {e e' c : DeviceWebAuthnCredential},
      s.deviceWebAuthnCredentials[k]? = some e → e.signCount ≤ e'.signCount →
      s.deviceWebAuthnCredentials[cid]? = some c →
      ∃ c', (s.deviceWebAuthnCredentials.set k e')[cid]? = some c' ∧ c.signCount ≤ c'.signCount :=
    fun he hle hc => row_set (P := fun a b => a.signCount ≤ b.signCount) (fun _ => le_rfl) he hle hc
  have hnone : ∀ {rows : Table Session} {x : Session} {aid : Nat},
      SessionsAfter s.sessions [] rows → rows[s.sessions.length]? = some x →
      x.evidence.proof ≠ .assertion aid :=
    fun hafter hx => not_new_assertion hafter (by simp) hx
  cases hmove with
  | paired => exact ⟨hsame, fun hx hp => absurd hp (hnone .update hx)⟩
  | reset => exact ⟨hsame, fun hx hp => absurd hp (hnone .update hx)⟩
  | rotated => exact ⟨hsame, fun hx hp => absurd hp (hnone .update hx)⟩
  | unbound => exact ⟨hsame, fun hx hp => absurd hp (hnone .update hx)⟩
  | @enrolled _ i d e now =>
      refine ⟨fun {cid c} hc => ?_, fun hx hp => absurd hp (hnone .update hx)⟩
      have hrow : (s.deviceWebAuthnCredentials.map fun c =>
          if c.deviceId = i ∧ c.status = .ACTIVE then { c with status := .SUPERSEDED }
            else c)[cid]? =
          some (if c.deviceId = i ∧ c.status = .ACTIVE then { c with status := .SUPERSEDED }
            else c) := by
        rw [List.getElem?_map, hc, Option.map_some]
      refine ⟨_, Table.getElem?_append hrow, ?_⟩
      split <;> exact le_rfl
  | credentialRevoked hrow =>
      exact ⟨hset hrow le_rfl, fun hx hp => absurd hp (hnone .update hx)⟩
  | loggedIn _ _ hproof =>
      exact ⟨hsame, fun hx hp =>
        absurd hp (not_new_assertion (.insert .refl) (by simp [hproof]) hx)⟩
  | attested _ _ hproof =>
      exact ⟨hsame, fun hx hp =>
        absurd hp (not_new_assertion (.insert .refl) (by simp [hproof]) hx)⟩
  | tokenLogin _ _ _ hproof =>
      exact ⟨hsame, fun hx hp =>
        absurd hp (not_new_assertion (.insert .refl) (by simp [hproof]) hx)⟩
  | refreshed _ hrow _ _ hproof =>
      refine ⟨hsame, fun hx hp => absurd hp (not_new_assertion (.insert (.set hrow)) ?_ hx)⟩
      simp [hproof]
  | @completed x aid cid a c c' _ _ _ hrow hcounter hdevice =>
      refine ⟨hset hrow hcounter.le, fun {y aid' cid' e e'} hy _ hcid he he' hpos => ?_⟩
      obtain rfl : x = y := by
        rw [Table.getElem?_insert_self] at hy
        exact Option.some.inj hy
      obtain rfl : cid = cid' := Option.some.inj (hdevice.2.symm.trans hcid)
      obtain rfl : c = e := Option.some.inj (hrow.symm.trans he)
      obtain rfl : c' = e' := by
        rw [List.getElem?_set_self (Table.lt_of_getElem? hrow)] at he'
        exact Option.some.inj he'
      exact hcounter.lt hpos
  | loggedOut hrow => exact ⟨hsame, fun hx hp => absurd hp (hnone (.set hrow) hx)⟩
  | userRevoked => exact ⟨hsame, fun hx hp => absurd hp (hnone .swept hx)⟩
  | _ => exact ⟨hsame, fun hx hp => absurd hp (hnone .refl hx)⟩

/-! ### Runs -/

lemma AuthStore.UsedUp.chain (h : s.UsedUp) {i j k : Nat} {x y : Session} (hij : s.Chain i j)
    (hik : s.Chain i k) (hx : s.sessions[j]? = some x) (hy : s.sessions[k]? = some y)
    (hxa : x.status = .ACTIVE) (hya : y.status = .ACTIVE) : j = k := by
  have hlast : ∀ {j k : Nat} {x : Session}, s.sessions[j]? = some x → x.status = .ACTIVE →
      s.Chain j k → j = k := by
    intro j k x hx hactive hjk
    rcases Relation.ReflTransGen.cases_head hjk with rfl | ⟨l, hjl, -⟩
    · rfl
    · obtain ⟨y, hy, hended⟩ := h.refreshed hjl
      obtain rfl : x = y := Option.some.inj (hx.symm.trans hy)
      exact absurd hactive hended
  have hunique : Relator.RightUnique s.RefreshedTo := fun _ _ _ hj hk => h.refreshedOnce hj hk
  rcases Relation.ReflTransGen.total_of_right_unique hunique hij hik with hjk | hkj
  · exact hlast hx hxa hjk
  · exact (hlast hy hya hkj).symm

/-- Attempts and refreshed sessions led to one session each, one session of a chain is
active, and counters only move on. -/
structure SingleUse (rt : AuthRuntime) (w : AuthRequests) : Prop where
  attempt : ∀ {j k : Nat} {x y : Session} {aid : Nat}, w.state.sessions[j]? = some x →
    w.state.sessions[k]? = some y → x.evidence.proof = .assertion aid →
    y.evidence.proof = .assertion aid → j = k
  refreshed : ∀ {i j k : Nat}, w.state.RefreshedTo i j → w.state.RefreshedTo i k → j = k
  chain : ∀ {i j k : Nat} {x y : Session}, w.state.Chain i j → w.state.Chain i k →
    w.state.sessions[j]? = some x → w.state.sessions[k]? = some y → x.status = .ACTIVE →
    y.status = .ACTIVE → j = k
  login : ∀ {event : PoolEvent AuthRequest AuthSurroundings} {w' : AuthRequests},
    w.step (AuthRequest.program rt) event = some w' →
    CountersForward w.state w'.state
  counter : ∀ {w' : AuthRequests}, Pool.Steps (AuthRequest.program rt) w w' →
    ∀ {cid : Nat} {c : DeviceWebAuthnCredential},
    w.state.deviceWebAuthnCredentials[cid]? = some c →
    ∃ c', w'.state.deviceWebAuthnCredentials[cid]? = some c' ∧ c.signCount ≤ c'.signCount

lemma countersForward_refl (s : AuthStore) : CountersForward s s where
  kept {cid c} hc := ⟨c, hc, le_rfl⟩
  login hx := by
    rw [List.getElem?_eq_none le_rfl] at hx
    cases hx

/-- **Login evidence is used once**, in every state that requests side by side reach. -/
theorem login_evidence_single_use {w : AuthRequests} (hfresh : s.Fresh)
    (hrun : Pool.Steps (AuthRequest.program rt) (.initial s) w) : SingleUse rt w := by
  have hused : w.state.UsedUp := by
    refine run_auth (J := AuthStore.UsedUp) (fun u u' n env _ _ _ hmove h => hmove.usedUp h)
      hfresh.good ?_ hrun
    refine ⟨fun hx => ?_, ?_, fun hx => ?_, ?_⟩
    · simp [hfresh.sessions] at hx
    · rintro i j ⟨x, hx, -⟩
      simp [hfresh.sessions] at hx
    · simp [hfresh.sessions] at hx
    · rintro i j k ⟨x, hx, -⟩
      simp [hfresh.sessions] at hx
  obtain ⟨hmoving, hgood⟩ :=
    Pool.run_moving keptBy_good AuthRequest.moves (Pool.initial_moving s) hfresh.good hrun
  have hstep : ∀ {event : PoolEvent AuthRequest AuthSurroundings} {u u' : AuthRequests},
    u.Moving (AuthMove rt) → u.state.Good →
      u.step (AuthRequest.program rt) event = some u' →
      (u'.Moving (AuthMove rt) ∧ u'.state.Good) ∧ CountersForward u.state u'.state := by
    intro event u u' hmoving hgood hstep
    obtain ⟨hmoving', hgood', hchange⟩ :=
      Pool.step_moving keptBy_good AuthRequest.moves hmoving hgood hstep
    refine ⟨⟨hmoving', hgood'⟩, ?_⟩
    rcases hchange.move_or_same with ⟨n, env, -, hmove⟩ | hsame
    · exact hmove.counters
    · rw [hsame]
      exact countersForward_refl u.state
  refine ⟨hused.attemptOnce, hused.refreshedOnce, hused.chain, fun h =>
    (hstep hmoving hgood h).2, ?_⟩
  intro w' hrun' cid c hc
  have hlater := hrun'.induct
    (I := fun u : AuthRequests => u.Moving (AuthMove rt) ∧ u.state.Good)
    (R := fun u u' : AuthRequests => ∀ (cid : Nat) (c : DeviceWebAuthnCredential),
      u.state.deviceWebAuthnCredentials[cid]? = some c →
      ∃ c', u'.state.deviceWebAuthnCredentials[cid]? = some c' ∧ c.signCount ≤ c'.signCount)
    (fun u cid c hc => ⟨c, hc, le_rfl⟩) (fun {u v z} huv hvz cid c hc => by
      obtain ⟨c', hc', hle⟩ := huv cid c hc
      obtain ⟨c'', hc'', hle'⟩ := hvz cid c' hc'
      exact ⟨c'', hc'', hle.trans hle'⟩)
    (fun {event u u'} _ hu h => ⟨(hstep hu.1 hu.2 h).1, fun _ _ => (hstep hu.1 hu.2 h).2.kept⟩)
    ⟨hmoving, hgood⟩
  exact hlater.2 cid c hc

/-! ### A till with WebAuthn -/

namespace AuthShop

/-- The till's origin is configured, and its browser's answers to a challenge are verified. -/
def webAuthnRuntime : AuthRuntime :=
  { runtime with
    WEBAUTHN_RP_ID := some "shop.example"
    WEBAUTHN_ALLOWED_ORIGINS := some "https://shop.example"
    WEBAUTHN_DEVICE_QUALIFICATION_APPROVED := true
    URL := fun text =>
      if text = "https://shop.example" then
        some ⟨"https://shop.example", "https:", "shop.example", "", ""⟩
      else none
    verifyRegistrationResponse := fun _ expectedChallenge _ =>
      if expectedChallenge "challenge" then
        some ⟨"credential", [], 1, "aaguid", "packed", true, "singleDevice", false⟩
      else none
    keyProtection := fun _ => some ["hardware"]
    verifyAuthenticationResponse := fun _ expectedChallenge _ credential =>
      if expectedChallenge "challenge" && credential.credentialId = "credential" then
        some ⟨credential.signCount + 1, true, "singleDevice", false⟩
      else none }

def supervisor : AuthContext := ⟨"supervisor", "tenant", some "branch", .SUPERVISOR, none⟩

/-- A till that was never paired. -/
def newStore : AuthStore := store users [device .UNPAIRED none]

lemma newStore_fresh : newStore.Fresh := store_fresh (by simp [device])

/-- The supervisor enrolls the till, a cashier logs in with its credential, and the session is
refreshed. -/
def webAuthnLogin : List (PoolEvent AuthRequest AuthSurroundings) :=
  .start (.createDeviceEnrollment "tenant" supervisor 0) :: advances 0 3 (surroundings 0 "") ++
  .start (.completeDeviceEnrollment 0 (some deviceToken) ⟨some "platform", [], .object []⟩) ::
    advances 1 4 (surroundings 0 "") ++
  .start (.login "cashier" "password" (some 0) none none) :: advances 2 5 (surroundings 1000 "") ++
  .start (.completeCashierLogin (some deviceToken) (.object [("id", .string "credential")])) ::
    advances 3 4 (surroundings 1000 "first token") ++
  .start (.refresh 0) :: advances 4 4 (surroundings 2000 "second token")

end AuthShop
theorem login_evidence_single_use_refreshed : ∃ w : AuthRequests,
    (w.state.sessions.map fun x => (x.status, x.evidence.proof)) =
        [(.REVOKED, .assertion 0), (.ACTIVE, .session 0)] ∧
      w.state.deviceWebAuthnCredentials.map (·.signCount) = [2] ∧
      SingleUse AuthShop.webAuthnRuntime w := by
  have hw : ((Pool.initial AuthShop.newStore).runChecked
      (AuthRequest.program AuthShop.webAuthnRuntime) (fun _ _ => true) AuthShop.webAuthnLogin).map
      (fun w => (w.state.sessions.map (fun x => (x.status, x.evidence.proof)),
        w.state.deviceWebAuthnCredentials.map (·.signCount))) =
      some ([(.REVOKED, .assertion 0), (.ACTIVE, .session 0)], [2]) := by
    decide +kernel
  obtain ⟨w, hw, hstate⟩ := Option.map_eq_some_iff.1 hw
  obtain ⟨hsessions, hcounters⟩ := Prod.mk.inj hstate
  exact ⟨w, hsessions, hcounters, login_evidence_single_use AuthShop.newStore_fresh
    (.of_runChecked (fun _ _ _ => trivial) hw)⟩

end ShopcityLoyalty
