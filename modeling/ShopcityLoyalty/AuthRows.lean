import ShopcityLoyalty.DeviceBindings

/-!
What commits of sign-in and of device administration keep of the rows there are: which device
or user a row belongs to, that a session is only ever ended, and that revocations are only
added.
-/

namespace ShopcityLoyalty

variable {rt : AuthRuntime} {env : AuthSurroundings} {s t : AuthStore} {i j cid : Nat}

/-! ### Sessions -/

/-- A session's row as it was, or revoked. -/
def Session.Kept (x x' : Session) : Prop :=
  x' = x ∨ ∃ now, x' = { x with status := .REVOKED, revokedAt := some now }

/-- Rows that are kept, and new ones after them. -/
structure SessionsAfter (rows new rows' : Table Session) : Prop where
  length : rows'.length = rows.length + new.length
  kept : ∀ {j : Nat} {x x' : Session}, rows[j]? = some x → rows'[j]? = some x' → x.Kept x'
  new : ∀ {j : Nat} {x' : Session}, rows'[j]? = some x' → rows[j]? = none →
    new[j - rows.length]? = some x'

namespace Session.Kept

variable {x x' : Session} (h : x.Kept x')

include h

lemma same : x'.userId = x.userId ∧ x'.deviceId = x.deviceId ∧
    x'.deviceCredentialId = x.deviceCredentialId ∧ x'.evidence = x.evidence := by
  obtain rfl | ⟨now, rfl⟩ := h
  · exact ⟨rfl, rfl, rfl, rfl⟩
  · exact ⟨rfl, rfl, rfl, rfl⟩

lemma eq_of_active (hactive : x'.status = .ACTIVE) : x' = x := by
  obtain rfl | ⟨now, rfl⟩ := h
  · rfl
  · cases hactive

end Session.Kept

namespace SessionsAfter

variable {rows new rows' : Table Session} {x : Session}

lemma row (h : SessionsAfter rows new rows') (hx : rows[j]? = some x) :
    ∃ x', rows'[j]? = some x' ∧ x.Kept x' := by
  have hj := Table.lt_of_getElem? hx
  have hlt : j < rows'.length := by
    have hlen := h.length
    omega
  exact ⟨rows'[j], List.getElem?_eq_getElem hlt, h.kept hx (List.getElem?_eq_getElem hlt)⟩

lemma origin (h : SessionsAfter rows new rows') (hx : rows'[j]? = some x) :
    (∃ x₀, rows[j]? = some x₀ ∧ x₀.Kept x) ∨ (rows[j]? = none ∧ x ∈ new) := by
  cases hrow : rows[j]? with
  | none => exact .inr ⟨rfl, List.mem_of_getElem? (h.new hx hrow)⟩
  | some x₀ => exact .inl ⟨x₀, rfl, h.kept hrow hx⟩

lemma changed (hlength : rows'.length = rows.length)
    (hkept : ∀ {j : Nat} {x x' : Session}, rows[j]? = some x → rows'[j]? = some x' → x.Kept x') :
    SessionsAfter rows [] rows' where
  length := by simp [hlength]
  kept := hkept
  new {j x'} hx' hx := by
    have hlt := Table.lt_of_getElem? hx'
    have hge := List.getElem?_eq_none_iff.1 hx
    omega

lemma refl : SessionsAfter rows [] rows := by
  refine changed rfl fun hx hx' => ?_
  rw [hx] at hx'
  exact .inl (Option.some.inj hx').symm

lemma insert (h : SessionsAfter rows [] rows') : SessionsAfter rows [x] (rows' ++ [x]) where
  length := by simp [h.length]
  kept {j y y'} hy hy' := by
    have hj := Table.lt_of_getElem? hy
    have hlen := h.length
    rcases Table.getElem?_insert_iff.1 hy' with hy' | ⟨rfl, -⟩
    · exact h.kept hy hy'
    · simp only [List.length_nil] at hlen
      omega
  new {j y'} hy' hy := by
    have hlen := h.length
    rcases Table.getElem?_insert_iff.1 hy' with hy' | ⟨rfl, rfl⟩
    · have hnew := h.new hy' hy
      simp at hnew
    · simp [hlen]

lemma update {s : AuthStore} {p : Session → Bool} {now : Int} :
    SessionsAfter s.sessions [] (s.updateSessions p fun x =>
      { x with status := .REVOKED, revokedAt := some now }).sessions := by
  refine changed (by simp [AuthStore.updateSessions]) fun {j x x'} hx hx' => ?_
  simp only [AuthStore.updateSessions, List.getElem?_map, hx, Option.map_some, Option.some.injEq]
    at hx'
  subst hx'
  by_cases hp : p x = true
  · exact .inr ⟨now, by rw [if_pos hp]⟩
  · exact .inl (by rw [if_neg hp])

lemma swept {ids : List Nat} {now : Int} :
    SessionsAfter rows [] (rows.mapIdx fun i x =>
      if i ∈ ids then { x with status := .REVOKED, revokedAt := some now } else x) := by
  refine changed (by simp) fun {j x x'} hx hx' => ?_
  simp only [List.getElem?_mapIdx, hx, Option.map_some, Option.some.injEq] at hx'
  subst hx'
  by_cases hj : j ∈ ids
  · exact .inr ⟨now, by rw [if_pos hj]⟩
  · exact .inl (by rw [if_neg hj])

lemma set {now : Int} (hrow : rows[i]? = some x) :
    SessionsAfter rows []
      (rows.set i { x with status := .REVOKED, revokedAt := some now }) := by
  refine changed (by simp) fun {j y y'} hy hy' => ?_
  rcases Table.getElem?_set_iff.1 hy' with ⟨rfl, -, rfl⟩ | ⟨-, hy'⟩
  · rw [hrow] at hy
    obtain rfl := Option.some.inj hy
    exact .inr ⟨now, rfl⟩
  · rw [hy] at hy'
    exact .inl (Option.some.inj hy').symm

end SessionsAfter

/-- A commit ends sessions, and adds at most one. -/
theorem AuthMove.sessions (hmove : AuthMove rt env s t) :
    ∃ new, SessionsAfter s.sessions new t.sessions ∧ ∀ x ∈ new,
      x.evidence.userSeen ≤ s.seen ∧ x.evidence.deviceSeen ≤ s.seen := by
  cases hmove with
  | paired => exact ⟨[], .update, by simp⟩
  | reset => exact ⟨[], .update, by simp⟩
  | enrolled => exact ⟨[], .update, by simp⟩
  | credentialRevoked => exact ⟨[], .update, by simp⟩
  | rotated => exact ⟨[], .update, by simp⟩
  | unbound => exact ⟨[], .update, by simp⟩
  | loggedIn _ _ _ hseen => exact ⟨_, .insert .refl, by simpa using hseen⟩
  | attested _ _ _ hseen => exact ⟨_, .insert .refl, by simpa using hseen⟩
  | tokenLogin _ _ _ _ hseen => exact ⟨_, .insert .refl, by simpa using hseen⟩
  | completed _ _ _ _ _ _ _ hseen =>
      refine ⟨_, .insert .refl, ?_⟩
      simp only [List.mem_singleton, forall_eq]
      exact ⟨hseen.1, hseen.2.le⟩
  | refreshed _ hrow _ _ _ hseen => exact ⟨_, .insert (.set hrow), by simpa using hseen⟩
  | loggedOut hrow => exact ⟨[], .set hrow, by simp⟩
  | userRevoked => exact ⟨[], .swept, by simp⟩
  | _ => exact ⟨[], .refl, by simp⟩

/-! ### Other rows -/

/-- Revocations are only added. -/
theorem AuthMove.revocations (hmove : AuthMove rt env s t) :
    ∃ new, t.revocations = s.revocations ++ new := by
  cases hmove with
  | paired => exact ⟨_, rfl⟩
  | reset => exact ⟨_, rfl⟩
  | credentialRevoked => exact ⟨_, rfl⟩
  | rotated => exact ⟨_, rfl⟩
  | unbound => exact ⟨_, rfl⟩
  | userRevoked => exact ⟨_, rfl⟩
  | _ => exact ⟨[], by simp⟩

lemma AuthMove.seen_le (hmove : AuthMove rt env s t) : s.seen ≤ t.seen := by
  obtain ⟨new, hnew⟩ := hmove.revocations
  simp only [AuthStore.seen, hnew, List.length_append]
  omega

lemma row_set {α : Type} {rows : Table α} {a b : α} {P : α → α → Prop} (hrefl : ∀ c, P c c)
    (ha : rows[i]? = some a) (hab : P a b) {c : α} (hc : rows[j]? = some c) :
    ∃ c', (rows.set i b)[j]? = some c' ∧ P c c' := by
  by_cases hj : j = i
  · subst hj
    rw [ha] at hc
    obtain rfl := Option.some.inj hc
    exact ⟨b, List.getElem?_set_self (Table.lt_of_getElem? ha), hab⟩
  · exact ⟨c, by rwa [List.getElem?_set_ne (Ne.symm hj)], hrefl c⟩

/-- A device stays under its tenant. -/
theorem AuthMove.device_row (hmove : AuthMove rt env s t) {d : DeviceRow}
    (hd : s.devices[i]? = some d) : ∃ d', t.devices[i]? = some d' ∧ d'.tenantId = d.tenantId := by
  have hset : ∀ {j : Nat} {e e' : DeviceRow}, s.devices[j]? = some e → e'.tenantId = e.tenantId →
      ∃ d', (s.devices.set j e')[i]? = some d' ∧ d'.tenantId = d.tenantId := by
    intro j e e' he htenant
    exact row_set (P := fun a b => b.tenantId = a.tenantId) (fun _ => rfl) he htenant hd
  cases hmove with
  | deviceCreated => exact ⟨d, Table.getElem?_append hd, rfl⟩
  | paired hrow => exact hset hrow rfl
  | reset hrow => exact hset hrow rfl
  | enrolled hrow => exact hset hrow rfl
  | deviceKept hrow htenant => exact hset hrow htenant
  | rotated hrow htenant => exact hset hrow htenant
  | unbound hrow htenant => exact hset hrow htenant
  | _ => exact ⟨d, hd, rfl⟩

/-- A WebAuthn credential stays with its device. -/
theorem AuthMove.credential_row (hmove : AuthMove rt env s t) {c : DeviceWebAuthnCredential}
    (hc : s.deviceWebAuthnCredentials[cid]? = some c) :
    ∃ c', t.deviceWebAuthnCredentials[cid]? = some c' ∧ c'.deviceId = c.deviceId := by
  have hset : ∀ {k : Nat} {e e' : DeviceWebAuthnCredential},
      s.deviceWebAuthnCredentials[k]? = some e → e'.deviceId = e.deviceId →
      ∃ c', (s.deviceWebAuthnCredentials.set k e')[cid]? = some c' ∧ c'.deviceId = c.deviceId := by
    intro k e e' he hsame
    exact row_set (P := fun a b => b.deviceId = a.deviceId) (fun _ => rfl) he hsame hc
  cases hmove with
  | @enrolled _ i =>
      have hrow : (s.deviceWebAuthnCredentials.map fun c =>
          if c.deviceId = i ∧ c.status = .ACTIVE then { c with status := .SUPERSEDED }
            else c)[cid]? =
          some (if c.deviceId = i ∧ c.status = .ACTIVE then { c with status := .SUPERSEDED }
            else c) := by
        rw [List.getElem?_map, hc, Option.map_some]
      refine ⟨_, Table.getElem?_append hrow, ?_⟩
      split <;> rfl
  | credentialRevoked hrow => exact hset hrow rfl
  | completed _ _ _ hrow hcounter => exact hset hrow (by rw [hcounter.same])
  | _ => exact ⟨c, hc, rfl⟩

/-- An active token credential was active, and its device's sessions were not revoked. -/
theorem AuthMove.token_row (hmove : AuthMove rt env s t) (hbound : s.Bound)
    {c : DeviceTokenCredential} (hlt : cid < s.deviceTokenCredentials.length)
    (hc : t.deviceTokenCredentials[cid]? = some c) (hactive : c.status = .ACTIVE) :
    ∃ c₀ new, s.deviceTokenCredentials[cid]? = some c₀ ∧ c₀.deviceId = c.deviceId ∧
      c₀.status = .ACTIVE ∧ t.revocations = s.revocations ++ new ∧
      Revocation.device c.deviceId ∉ new := by
  have hrevoked : ∀ {i : Nat} {d : DeviceRow} {now : Int}, s.devices[i]? = some d →
      (s.revokeTokenCredentials d.tenantId i now).deviceTokenCredentials[cid]? = some c →
      s.deviceTokenCredentials[cid]? = some c ∧ Revocation.device c.deviceId ∉
        [Revocation.device i] := by
    intro i d now hrow hc
    obtain ⟨hold, hne⟩ := hbound.revoked hrow hc hactive
    refine ⟨hold, fun hmem => hne ?_⟩
    simpa using hmem
  cases hmove with
  | paired hrow =>
      rcases Table.getElem?_insert_iff.1 hc with hc | ⟨hcid, -⟩
      · obtain ⟨hold, hne⟩ := hrevoked hrow hc
        exact ⟨c, _, hold, rfl, hactive, rfl, hne⟩
      · simp only [AuthStore.revokeTokenCredentials, AuthStore.updateTokenCredentials,
          List.length_map] at hcid
        omega
  | reset hrow =>
      obtain ⟨hold, hne⟩ := hrevoked hrow hc
      exact ⟨c, _, hold, rfl, hactive, rfl, hne⟩
  | unbound hrow =>
      obtain ⟨hold, hne⟩ := hrevoked hrow hc
      exact ⟨c, _, hold, rfl, hactive, rfl, hne⟩
  | rotated hrow _ hlegacy =>
      refine ⟨c, _, hc, rfl, hactive, rfl, fun hmem => ?_⟩
      have hmode := hbound.no_token hrow (by rw [hlegacy]; simp) hc hactive
      exact hmode (by simpa using hmem)
  | credentialRevoked => exact ⟨c, _, hc, rfl, hactive, rfl, by simp⟩
  | userRevoked => exact ⟨c, _, hc, rfl, hactive, rfl, by simp⟩
  | @tokenLogin x k e _ hrow =>
      rcases Table.getElem?_set_iff.1 hc with ⟨rfl, -, rfl⟩ | ⟨-, hc⟩
      · exact ⟨e, [], hrow, rfl, hactive, by simp, by simp⟩
      · exact ⟨c, [], hc, rfl, hactive, by simp, by simp⟩
  | _ => exact ⟨c, [], hc, rfl, hactive, by simp, by simp⟩

/-! ### What every store keeps -/

/-- Bindings agree, stamps lie in the past, and a session's credential is one of its device. -/
structure AuthStore.Good (s : AuthStore) : Prop where
  bound : s.Bound
  sessions : ∀ {j : Nat} {x : Session}, s.sessions[j]? = some x →
    x.evidence.userSeen ≤ s.seen ∧ x.evidence.deviceSeen ≤ s.seen
  attempts : ∀ a ∈ s.cashierLoginAttempts, a.userSeen ≤ s.seen
  credentials : ∀ {j cid : Nat} {x : Session}, s.sessions[j]? = some x →
    x.deviceCredentialId = some cid →
    ∃ c, s.deviceWebAuthnCredentials[cid]? = some c ∧ x.deviceId = some c.deviceId

lemma AuthMove.attempts (hmove : AuthMove rt env s t) {a : CashierLoginAttempt}
    (ha : a ∈ t.cashierLoginAttempts) :
    a.userSeen ≤ s.seen ∨ ∃ a₀ ∈ s.cashierLoginAttempts, a₀.userSeen = a.userSeen := by
  cases hmove with
  | attempted _ hseen =>
      rcases List.mem_append.1 ha with ha | ha
      · exact .inr ⟨a, ha, rfl⟩
      · obtain rfl := List.mem_singleton.1 ha
        exact .inl hseen
  | completed _ hrow =>
      rcases List.mem_or_eq_of_mem_set ha with ha | rfl
      · exact .inr ⟨a, ha, rfl⟩
      · exact .inr ⟨_, List.mem_of_getElem? hrow, rfl⟩
  | _ => exact .inr ⟨a, ha, rfl⟩

/-- The credential of a new session is one of its device. -/
lemma AuthMove.new_credential (hmove : AuthMove rt env s t) (hgood : s.Good) {x : Session}
    (hnew : s.sessions[j]? = none) (hx : t.sessions[j]? = some x)
    (hcredential : x.deviceCredentialId = some cid) :
    ∃ c, s.deviceWebAuthnCredentials[cid]? = some c ∧ x.deviceId = some c.deviceId := by
  have hinsert : ∀ {rows : Table Session} {y : Session}, SessionsAfter s.sessions [] rows →
      (rows ++ [y])[j]? = some x → y = x := by
    intro rows y hafter hx
    have hlast := (hafter.insert (x := y)).new hx hnew
    exact (List.mem_singleton.1 (List.mem_of_getElem? hlast)).symm
  have hold : ∀ {rows : Table Session}, SessionsAfter s.sessions [] rows → rows[j]? = some x →
      ∃ c, s.deviceWebAuthnCredentials[cid]? = some c ∧ x.deviceId = some c.deviceId := by
    intro rows hafter hx
    have hlast := hafter.new hx hnew
    simp at hlast
  cases hmove with
  | paired => exact hold .update hx
  | reset => exact hold .update hx
  | enrolled => exact hold .update hx
  | credentialRevoked => exact hold .update hx
  | rotated => exact hold .update hx
  | unbound => exact hold .update hx
  | loggedIn _ hdevice =>
      obtain rfl := hinsert .refl hx
      rw [hdevice.2] at hcredential
      cases hcredential
  | attested _ hdevice =>
      obtain rfl := hinsert .refl hx
      rw [hdevice.2] at hcredential
      cases hcredential
  | tokenLogin _ _ hdevice =>
      obtain rfl := hinsert .refl hx
      rw [hdevice.2] at hcredential
      cases hcredential
  | completed _ _ _ hrow _ hdevice =>
      obtain rfl := hinsert .refl hx
      rw [hdevice.2] at hcredential
      obtain rfl := Option.some.inj hcredential
      exact ⟨_, hrow, hdevice.1⟩
  | refreshed _ hrow _ hsame =>
      obtain rfl := hinsert (.set hrow) hx
      rw [hsame.2.2] at hcredential
      rw [hsame.2.1]
      exact hgood.credentials hrow hcredential
  | loggedOut hrow => exact hold (.set hrow) hx
  | userRevoked => exact hold .swept hx
  | _ => exact hold .refl hx

/-- **Every commit keeps a store good.** -/
theorem AuthMove.good (hmove : AuthMove rt env s t) (hgood : s.Good) : t.Good := by
  have hseen := hmove.seen_le
  obtain ⟨new, hafter, hnew⟩ := hmove.sessions
  refine ⟨hmove.bound hgood.bound, fun {j x} hx => ?_, fun a ha => ?_, fun {j cid x} hx hcid => ?_⟩
  · rcases hafter.origin hx with ⟨x₀, hx₀, hkept⟩ | ⟨-, hmem⟩
    · rw [hkept.same.2.2.2]
      have hold := hgood.sessions hx₀
      omega
    · have hlast := hnew x hmem
      omega
  · rcases hmove.attempts ha with hle | ⟨a₀, ha₀, hsame⟩
    · omega
    · have hold := hgood.attempts a₀ ha₀
      omega
  · have hcredential : ∃ c, s.deviceWebAuthnCredentials[cid]? = some c ∧
        x.deviceId = some c.deviceId := by
      rcases hafter.origin hx with ⟨x₀, hx₀, hkept⟩ | ⟨hnone, -⟩
      · rw [hkept.same.2.2.1] at hcid
        rw [hkept.same.2.1]
        exact hgood.credentials hx₀ hcid
      · exact hmove.new_credential hgood hnone hx hcid
    obtain ⟨c, hc, hdevice⟩ := hcredential
    obtain ⟨c', hc', hsame⟩ := hmove.credential_row hc
    exact ⟨c', hc', by rw [hdevice, hsame]⟩

end ShopcityLoyalty
