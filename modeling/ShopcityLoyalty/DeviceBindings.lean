import ShopcityLoyalty.AuthMoves

/-!
How devices are bound: what their modes say about their active credentials, and that every
commit keeps it.
-/

namespace ShopcityLoyalty

variable {devices : Table DeviceRow} {tokens : Table DeviceTokenCredential}
  {credentials : Table DeviceWebAuthnCredential} {i j : Nat} {d d' : DeviceRow}

/-- Modes and active credentials agree. -/
structure BindingsSound (devices : Table DeviceRow) (tokens : Table DeviceTokenCredential)
    (credentials : Table DeviceWebAuthnCredential) : Prop where
  token : ∀ {j : Nat} {c : DeviceTokenCredential}, tokens[j]? = some c → c.status = .ACTIVE →
    ∃ d, devices[c.deviceId]? = some d ∧ d.tenantId = c.tenantId ∧
      d.authBindingMode = .DEVICE_TOKEN ∧ d.status = .ACTIVE
  paired : ∀ {i : Nat} {d : DeviceRow}, devices[i]? = some d → d.authBindingMode = .DEVICE_TOKEN →
    ∃ (j : Nat) (c : DeviceTokenCredential), tokens[j]? = some c ∧ c.deviceId = i ∧
      c.status = .ACTIVE
  oneToken : ∀ {j k : Nat} {c e : DeviceTokenCredential}, tokens[j]? = some c →
    tokens[k]? = some e → c.deviceId = e.deviceId → c.status = .ACTIVE → e.status = .ACTIVE → j = k
  credential : ∀ {j : Nat} {c : DeviceWebAuthnCredential}, credentials[j]? = some c →
    c.status = .ACTIVE → ∃ d, devices[c.deviceId]? = some d ∧ d.authBindingMode = .WEBAUTHN
  oneCredential : ∀ {j k : Nat} {c e : DeviceWebAuthnCredential}, credentials[j]? = some c →
    credentials[k]? = some e → c.deviceId = e.deviceId → c.status = .ACTIVE → e.status = .ACTIVE →
    j = k

/-! ### Changes of rows -/

lemma active_of_revoked {s : AuthStore} {tenantId : String} {now : Int} {c : DeviceTokenCredential}
    (h : (s.revokeTokenCredentials tenantId i now).deviceTokenCredentials[j]? = some c)
    (hactive : c.status = .ACTIVE) :
    s.deviceTokenCredentials[j]? = some c ∧ ¬ (c.tenantId = tenantId ∧ c.deviceId = i) := by
  simp only [AuthStore.revokeTokenCredentials, AuthStore.updateTokenCredentials, List.getElem?_map,
    Option.map_eq_some_iff] at h
  obtain ⟨b, hb, rfl⟩ := h
  by_cases hof : b.tenantId = tenantId ∧ b.deviceId = i ∧ b.status = .ACTIVE
  · simp [hof] at hactive
  · have hkeep : (b.tenantId = tenantId && b.deviceId = i && b.status = .ACTIVE) = false := by
      simpa [and_assoc] using hof
    simp only [hkeep, Bool.false_eq_true, if_false] at hactive ⊢
    exact ⟨hb, fun h => hof ⟨h.1, h.2, hactive⟩⟩

lemma row_set_ne (hd : devices[j]? = some d) (hne : j ≠ i) : (devices.set i d')[j]? = some d := by
  rwa [List.getElem?_set_ne hne.symm]

lemma row_set_self (hd : devices[i]? = some d) : (devices.set i d')[i]? = some d' :=
  List.getElem?_set_self (Table.lt_of_getElem? hd)

namespace BindingsSound

lemma empty : BindingsSound devices [] [] ↔ ∀ d ∈ devices, d.authBindingMode ≠ .DEVICE_TOKEN := by
  constructor
  · intro h d hd hmode
    obtain ⟨i, hi⟩ := List.getElem?_of_mem hd
    obtain ⟨j, c, hc, -⟩ := h.paired hi hmode
    simp at hc
  · intro h
    refine ⟨fun hc => ?_, fun hd hmode => ?_, fun hc => ?_, fun hc => ?_, fun hc => ?_⟩
    · simp at hc
    · exact absurd hmode (h _ (List.mem_of_getElem? hd))
    · simp at hc
    · simp at hc
    · simp at hc

variable (h : BindingsSound devices tokens credentials)

include h

lemma no_token (hrow : devices[i]? = some d) (hmode : d.authBindingMode ≠ .DEVICE_TOKEN)
    {c : DeviceTokenCredential} (hc : tokens[j]? = some c) (hactive : c.status = .ACTIVE) :
    c.deviceId ≠ i := by
  rintro rfl
  obtain ⟨d₀, hd₀, -, hmode₀, -⟩ := h.token hc hactive
  obtain rfl : d = d₀ := Option.some.inj (hrow.symm.trans hd₀)
  exact hmode hmode₀

lemma no_credential (hrow : devices[i]? = some d) (hmode : d.authBindingMode ≠ .WEBAUTHN)
    {c : DeviceWebAuthnCredential} (hc : credentials[j]? = some c) (hactive : c.status = .ACTIVE) :
    c.deviceId ≠ i := by
  rintro rfl
  obtain ⟨d₀, hd₀, hmode₀⟩ := h.credential hc hactive
  obtain rfl : d = d₀ := Option.some.inj (hrow.symm.trans hd₀)
  exact hmode hmode₀

lemma active (hrow : devices[i]? = some d) (hmode : d.authBindingMode = .DEVICE_TOKEN) :
    d.status = .ACTIVE := by
  obtain ⟨j, c, hc, rfl, hactive⟩ := h.paired hrow hmode
  obtain ⟨d₀, hd₀, -, -, hst⟩ := h.token hc hactive
  obtain rfl : d = d₀ := Option.some.inj (hrow.symm.trans hd₀)
  exact hst

lemma created (hmode : d.authBindingMode = .UNPAIRED) :
    BindingsSound (devices ++ [d]) tokens credentials where
  token hc hactive := by
    obtain ⟨d₀, hd₀, hrest⟩ := h.token hc hactive
    exact ⟨d₀, Table.getElem?_append hd₀, hrest⟩
  paired {i e} he hemode := by
    rcases Table.getElem?_insert_iff.1 he with he | ⟨-, rfl⟩
    · exact h.paired he hemode
    · rw [hmode] at hemode
      cases hemode
  oneToken := h.oneToken
  credential hc hactive := by
    obtain ⟨d₀, hd₀, hrest⟩ := h.credential hc hactive
    exact ⟨d₀, Table.getElem?_append hd₀, hrest⟩
  oneCredential := h.oneCredential

/-- A device that keeps its mode, and under a token its status. -/
lemma kept (hrow : devices[i]? = some d) (htenant : d'.tenantId = d.tenantId)
    (hmode : d'.authBindingMode = d.authBindingMode)
    (hstatus : d.authBindingMode = .DEVICE_TOKEN → d'.status = d.status) :
    BindingsSound (devices.set i d') tokens credentials where
  token {j c} hc hactive := by
    obtain ⟨d₀, hd₀, htenant₀, hmode₀, hstatus₀⟩ := h.token hc hactive
    by_cases hi : c.deviceId = i
    · subst hi
      obtain rfl : d = d₀ := Option.some.inj (hrow.symm.trans hd₀)
      exact ⟨d', row_set_self hrow, htenant.trans htenant₀, hmode.trans hmode₀,
        (hstatus hmode₀).trans hstatus₀⟩
    · exact ⟨d₀, row_set_ne hd₀ hi, htenant₀, hmode₀, hstatus₀⟩
  paired {j e} he hemode := by
    rcases Table.getElem?_set_iff.1 he with ⟨rfl, -, rfl⟩ | ⟨-, he⟩
    · exact h.paired hrow (hmode.symm.trans hemode)
    · exact h.paired he hemode
  oneToken := h.oneToken
  credential {j c} hc hactive := by
    obtain ⟨d₀, hd₀, hmode₀⟩ := h.credential hc hactive
    by_cases hi : c.deviceId = i
    · subst hi
      obtain rfl : d = d₀ := Option.some.inj (hrow.symm.trans hd₀)
      exact ⟨d', row_set_self hrow, hmode.trans hmode₀⟩
    · exact ⟨d₀, row_set_ne hd₀ hi, hmode₀⟩
  oneCredential := h.oneCredential

/-- Token credentials of which fewer are active, none of them of the device that changes. -/
lemma unbound {tokens' : Table DeviceTokenCredential} (hrow : devices[i]? = some d)
    (hmode : d'.authBindingMode ≠ .DEVICE_TOKEN)
    (hweb : d.authBindingMode = .WEBAUTHN → d'.authBindingMode = .WEBAUTHN)
    (hgone : ∀ {j : Nat} {c : DeviceTokenCredential}, tokens'[j]? = some c → c.status = .ACTIVE →
      tokens[j]? = some c ∧ c.deviceId ≠ i)
    (hstay : ∀ {j : Nat} {c : DeviceTokenCredential}, tokens[j]? = some c → c.status = .ACTIVE →
      c.deviceId ≠ i → tokens'[j]? = some c) :
    BindingsSound (devices.set i d') tokens' credentials where
  token {j c} hc hactive := by
    obtain ⟨hold, hne⟩ := hgone hc hactive
    obtain ⟨d₀, hd₀, hrest⟩ := h.token hold hactive
    exact ⟨d₀, row_set_ne hd₀ hne, hrest⟩
  paired {j e} he hemode := by
    rcases Table.getElem?_set_iff.1 he with ⟨-, -, rfl⟩ | ⟨hne, he⟩
    · exact absurd hemode hmode
    · obtain ⟨k, c, hc, rfl, hactive⟩ := h.paired he hemode
      exact ⟨k, c, hstay hc hactive hne.symm, rfl, hactive⟩
  oneToken hc he hsame hca hea := h.oneToken (hgone hc hca).1 (hgone he hea).1 hsame hca hea
  credential {j c} hc hactive := by
    obtain ⟨d₀, hd₀, hmode₀⟩ := h.credential hc hactive
    by_cases hi : c.deviceId = i
    · subst hi
      obtain rfl : d = d₀ := Option.some.inj (hrow.symm.trans hd₀)
      exact ⟨d', row_set_self hrow, hweb hmode₀⟩
    · exact ⟨d₀, row_set_ne hd₀ hi, hmode₀⟩
  oneCredential := h.oneCredential

/-- A token is paired: it is the one active credential of its device. -/
lemma withToken {tokens' : Table DeviceTokenCredential} {c : DeviceTokenCredential}
    (hrow : devices[i]? = some d) (hmode : d.authBindingMode ≠ .WEBAUTHN)
    (hmode' : d'.authBindingMode = .DEVICE_TOKEN) (hactive' : d'.status = .ACTIVE)
    (hc : c.deviceId = i ∧ c.tenantId = d'.tenantId ∧ c.status = .ACTIVE)
    (hgone : ∀ {j : Nat} {e : DeviceTokenCredential}, tokens'[j]? = some e → e.status = .ACTIVE →
      tokens[j]? = some e ∧ e.deviceId ≠ i)
    (hstay : ∀ {j : Nat} {e : DeviceTokenCredential}, tokens[j]? = some e → e.status = .ACTIVE →
      e.deviceId ≠ i → tokens'[j]? = some e) :
    BindingsSound (devices.set i d') (tokens' ++ [c]) credentials where
  token {j e} he hactive := by
    rcases Table.getElem?_insert_iff.1 he with he | ⟨-, rfl⟩
    · obtain ⟨hold, hne⟩ := hgone he hactive
      obtain ⟨d₀, hd₀, hrest⟩ := h.token hold hactive
      exact ⟨d₀, row_set_ne hd₀ hne, hrest⟩
    · obtain ⟨rfl, htenant, -⟩ := hc
      exact ⟨d', row_set_self hrow, htenant.symm, hmode', hactive'⟩
  paired {j e} he hemode := by
    rcases Table.getElem?_set_iff.1 he with ⟨rfl, -, rfl⟩ | ⟨hne, he⟩
    · exact ⟨_, c, Table.getElem?_insert_self _ _, hc.1, hc.2.2⟩
    · obtain ⟨k, e', he', rfl, hactive⟩ := h.paired he hemode
      exact ⟨k, e', Table.getElem?_append (hstay he' hactive hne.symm), rfl, hactive⟩
  oneToken {j k x y} hx hy hsame hxa hya := by
    rcases Table.getElem?_insert_iff.1 hx with hx | ⟨rfl, rfl⟩
    · obtain ⟨hx, hxi⟩ := hgone hx hxa
      rcases Table.getElem?_insert_iff.1 hy with hy | ⟨rfl, rfl⟩
      · exact h.oneToken hx (hgone hy hya).1 hsame hxa hya
      · exact absurd (hsame.trans hc.1) hxi
    · rcases Table.getElem?_insert_iff.1 hy with hy | ⟨rfl, rfl⟩
      · exact absurd (hsame.symm.trans hc.1) (hgone hy hya).2
      · rfl
  credential {j e} he hactive := by
    obtain ⟨d₀, hd₀, hmode₀⟩ := h.credential he hactive
    have hne := h.no_credential hrow hmode he hactive
    exact ⟨d₀, row_set_ne hd₀ hne, hmode₀⟩
  oneCredential := h.oneCredential

/-- A credential is enrolled: it is the one active WebAuthn credential of its device. -/
lemma withCredential {credentials' : Table DeviceWebAuthnCredential} {c : DeviceWebAuthnCredential}
    (hrow : devices[i]? = some d) (hmode : d.authBindingMode ≠ .DEVICE_TOKEN)
    (hmode' : d'.authBindingMode = .WEBAUTHN) (hc : c.deviceId = i)
    (hgone : ∀ {j : Nat} {e : DeviceWebAuthnCredential}, credentials'[j]? = some e →
      e.status = .ACTIVE → credentials[j]? = some e ∧ e.deviceId ≠ i) :
    BindingsSound (devices.set i d') tokens (credentials' ++ [c]) where
  token {j e} he hactive := by
    obtain ⟨d₀, hd₀, hrest⟩ := h.token he hactive
    exact ⟨d₀, row_set_ne hd₀ (h.no_token hrow hmode he hactive), hrest⟩
  paired {j e} he hemode := by
    rcases Table.getElem?_set_iff.1 he with ⟨-, -, rfl⟩ | ⟨-, he⟩
    · rw [hmode'] at hemode
      cases hemode
    · exact h.paired he hemode
  oneToken := h.oneToken
  credential {j e} he hactive := by
    rcases Table.getElem?_insert_iff.1 he with he | ⟨-, rfl⟩
    · obtain ⟨hold, hne⟩ := hgone he hactive
      obtain ⟨d₀, hd₀, hmode₀⟩ := h.credential hold hactive
      exact ⟨d₀, row_set_ne hd₀ hne, hmode₀⟩
    · subst hc
      exact ⟨d', row_set_self hrow, hmode'⟩
  oneCredential {j k x y} hx hy hsame hxa hya := by
    rcases Table.getElem?_insert_iff.1 hx with hx | ⟨rfl, rfl⟩
    · obtain ⟨hx, hxi⟩ := hgone hx hxa
      rcases Table.getElem?_insert_iff.1 hy with hy | ⟨rfl, rfl⟩
      · exact h.oneCredential hx (hgone hy hya).1 hsame hxa hya
      · exact absurd (hsame.trans hc) hxi
    · rcases Table.getElem?_insert_iff.1 hy with hy | ⟨rfl, rfl⟩
      · exact absurd (hsame.symm.trans hc) (hgone hy hya).2
      · rfl

/-- A token credential changes nothing but the time of its last use. -/
lemma tokenUsed {cid : Nat} {c : DeviceTokenCredential} {lastUsedAt : Option Int}
    (hrow : tokens[cid]? = some c) :
    BindingsSound devices (tokens.set cid { c with lastUsedAt := lastUsedAt }) credentials := by
  have hold : ∀ {j : Nat} {e : DeviceTokenCredential},
      (tokens.set cid { c with lastUsedAt := lastUsedAt })[j]? = some e →
      ∃ e₀, tokens[j]? = some e₀ ∧ e.deviceId = e₀.deviceId ∧ e.tenantId = e₀.tenantId ∧
        e.status = e₀.status := by
    intro j e he
    rcases Table.getElem?_set_iff.1 he with ⟨rfl, -, rfl⟩ | ⟨-, he⟩
    · exact ⟨c, hrow, rfl, rfl, rfl⟩
    · exact ⟨e, he, rfl, rfl, rfl⟩
  refine ⟨fun he hactive => ?_, fun hd hmode => ?_, fun hx hy hsame hxa hya => ?_, h.credential,
    h.oneCredential⟩
  · obtain ⟨e₀, he₀, hdevice, htenant, hstatus⟩ := hold he
    rw [hdevice, htenant]
    exact h.token he₀ (hstatus.symm.trans hactive)
  · obtain ⟨k, e, he, hdevice, hactive⟩ := h.paired hd hmode
    by_cases hk : cid = k
    · subst hk
      obtain rfl : c = e := Option.some.inj (hrow.symm.trans he)
      exact ⟨cid, _, List.getElem?_set_self (Table.lt_of_getElem? hrow), hdevice, hactive⟩
    · exact ⟨k, e, by rwa [List.getElem?_set_ne hk], hdevice, hactive⟩
  · obtain ⟨x₀, hx₀, hxd, -, hxs⟩ := hold hx
    obtain ⟨y₀, hy₀, hyd, -, hys⟩ := hold hy
    exact h.oneToken hx₀ hy₀ (hxd.symm.trans (hsame.trans hyd)) (hxs.symm.trans hxa)
      (hys.symm.trans hya)

lemma credentialChanged {cid : Nat} {c c' : DeviceWebAuthnCredential}
    (hrow : credentials[cid]? = some c) (hdevice : c'.deviceId = c.deviceId)
    (hstatus : c'.status = .ACTIVE → c.status = .ACTIVE) :
    BindingsSound devices tokens (credentials.set cid c') := by
  have hold : ∀ {j : Nat} {e : DeviceWebAuthnCredential},
      (credentials.set cid c')[j]? = some e → e.status = .ACTIVE →
      ∃ e₀, credentials[j]? = some e₀ ∧ e.deviceId = e₀.deviceId ∧ e₀.status = .ACTIVE := by
    intro j e he hactive
    rcases Table.getElem?_set_iff.1 he with ⟨rfl, -, rfl⟩ | ⟨-, he⟩
    · exact ⟨c, hrow, hdevice, hstatus hactive⟩
    · exact ⟨e, he, rfl, hactive⟩
  refine ⟨h.token, h.paired, h.oneToken, fun he hactive => ?_, fun hx hy hsame hxa hya => ?_⟩
  · obtain ⟨e₀, he₀, hsame, hactive₀⟩ := hold he hactive
    rw [hsame]
    exact h.credential he₀ hactive₀
  · obtain ⟨x₀, hx₀, hxd, hxs⟩ := hold hx hxa
    obtain ⟨y₀, hy₀, hyd, hys⟩ := hold hy hya
    exact h.oneCredential hx₀ hy₀ (hxd.symm.trans (hsame.trans hyd)) hxs hys

end BindingsSound

/-! ### Commits -/

/-- The bindings in a store. -/
abbrev AuthStore.Bound (s : AuthStore) : Prop :=
  BindingsSound s.devices s.deviceTokenCredentials s.deviceWebAuthnCredentials

variable {rt : AuthRuntime} {env : AuthSurroundings} {s t : AuthStore}

lemma AuthStore.Bound.revoked (h : s.Bound) (hrow : s.devices[i]? = some d) {now : Int} {j : Nat}
    {c : DeviceTokenCredential}
    (hc : (s.revokeTokenCredentials d.tenantId i now).deviceTokenCredentials[j]? = some c)
    (hactive : c.status = .ACTIVE) : s.deviceTokenCredentials[j]? = some c ∧ c.deviceId ≠ i := by
  obtain ⟨hold, hne⟩ := active_of_revoked hc hactive
  refine ⟨hold, fun hi => hne ⟨?_, hi⟩⟩
  obtain ⟨d₀, hd₀, htenant, -⟩ := h.token hold hactive
  rw [hi, hrow] at hd₀
  rw [Option.some.inj hd₀]
  exact htenant.symm

lemma revoked_stay {tenantId : String} {now : Int} {c : DeviceTokenCredential}
    (hc : s.deviceTokenCredentials[j]? = some c) (hne : c.deviceId ≠ i) :
    (s.revokeTokenCredentials tenantId i now).deviceTokenCredentials[j]? = some c := by
  simp [AuthStore.revokeTokenCredentials, AuthStore.updateTokenCredentials, hc, hne]

/-- **Every commit keeps modes and active credentials in agreement.** -/
theorem AuthMove.bound (hmove : AuthMove rt env s t) (h : s.Bound) : t.Bound := by
  cases hmove with
  | deviceCreated hmode => exact h.created hmode
  | paired hrow hactive hc hpairable =>
      refine h.withToken hrow ?_ rfl hactive hc (h.revoked hrow) fun hc _ hne => revoked_stay hc hne
      intro hmode
      simp [BranchesService.pairable, hmode] at hpairable
  | reset hrow hmode =>
      refine h.unbound hrow (by simp) ?_ (h.revoked hrow) fun hc _ hne => revoked_stay hc hne
      intro hweb
      rw [hmode] at hweb
      cases hweb
  | @enrolled _ i _ _ _ hrow hmode hc =>
      refine h.withCredential hrow hmode rfl hc.1 fun he hactive => ?_
      simp only [List.getElem?_map, Option.map_eq_some_iff] at he
      obtain ⟨b, hb, rfl⟩ := he
      by_cases hof : b.deviceId = i ∧ b.status = .ACTIVE
      · rw [if_pos hof] at hactive
        cases hactive
      · rw [if_neg hof] at hactive ⊢
        exact ⟨hb, fun hi => hof ⟨hi, hactive⟩⟩
  | credentialRevoked hrow => exact h.credentialChanged hrow rfl (by simp)
  | deviceKept hrow htenant hmode hstatus => exact h.kept hrow htenant hmode hstatus
  | rotated hrow htenant hlegacy hmode =>
      refine h.kept hrow htenant hmode fun htoken => ?_
      rw [hlegacy] at htoken
      cases htoken
  | unbound hrow htenant hmode =>
      refine h.unbound hrow ?_ ?_ (h.revoked hrow) fun hc _ hne => revoked_stay hc hne
      · rcases hmode with ⟨-, hmode⟩ | ⟨hmode, hinactive⟩
        · simp [hmode]
        · rw [hmode]
          exact fun htoken => hinactive htoken (h.active hrow htoken)
      · intro hweb
        rcases hmode with ⟨htoken, -⟩ | ⟨hmode, -⟩
        · rw [hweb] at htoken
          cases htoken
        · exact hmode.trans hweb
  | tokenLogin _ hrow => exact h.tokenUsed hrow
  | completed _ _ _ hrow hcounter =>
      refine h.credentialChanged hrow ?_ ?_
      · rw [hcounter.same]
      · rw [hcounter.same]
        exact id
  | _ => exact h

end ShopcityLoyalty
