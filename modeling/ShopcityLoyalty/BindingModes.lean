import ShopcityLoyalty.AuthRuns

/-!
What the mode of a device says about its active credentials, in every store that requests
reach.
-/

namespace ShopcityLoyalty

/-- The active token credentials of a device, with their ids. -/
def AuthStore.activeTokens (s : AuthStore) (deviceId : Nat) : List (Nat × DeviceTokenCredential) :=
  s.deviceTokenCredentials.select fun c => c.deviceId = deviceId && c.status = .ACTIVE

/-- A device is bound as its mode says. -/
structure AuthStore.BoundAs (s : AuthStore) (i : Nat) (d : DeviceRow) : Prop where
  token : s.activeTokens i ≠ [] ↔ d.authBindingMode = .DEVICE_TOKEN
  oneToken : (s.activeTokens i).length ≤ 1
  credential : AuthService.activeCredentials s i ≠ [] → d.authBindingMode = .WEBAUTHN
  oneCredential : (AuthService.activeCredentials s i).length ≤ 1
  inactive : d.status = .INACTIVE → s.activeTokens i = []

lemma select_length_le_one {α : Type} {rows : Table α} {p : α → Bool}
    (h : ∀ (j k : Nat) (a b : α), rows[j]? = some a → rows[k]? = some b → p a = true → p b = true →
      j = k) : (rows.select p).length ≤ 1 := by
  have hnodup := Table.nodup_select rows p
  rw [← List.length_map (f := Prod.fst)]
  cases hids : (rows.select p).map Prod.fst with
  | nil => simp
  | cons j ids =>
      cases ids with
      | nil => simp
      | cons k ids =>
          have hmem : ∀ n ∈ (rows.select p).map Prod.fst, ∃ a, rows[n]? = some a ∧ p a = true := by
            intro n hn
            obtain ⟨⟨m, a⟩, hma, rfl⟩ := List.mem_map.1 hn
            exact ⟨a, Table.mem_select.1 hma⟩
          obtain ⟨a, ha, hpa⟩ := hmem j (by simp [hids])
          obtain ⟨b, hb, hpb⟩ := hmem k (by simp [hids])
          have hjk := h j k a b ha hb hpa hpb
          rw [hids] at hnodup
          simp [hjk] at hnodup

lemma AuthStore.mem_activeTokens {s : AuthStore} {i j : Nat} {c : DeviceTokenCredential} :
    (j, c) ∈ s.activeTokens i ↔
      s.deviceTokenCredentials[j]? = some c ∧ c.deviceId = i ∧ c.status = .ACTIVE := by
  simp [AuthStore.activeTokens]

/-- Bindings that agree bind each device as its mode says. -/
lemma AuthStore.Bound.boundAs {s : AuthStore} (h : s.Bound) {i : Nat} {d : DeviceRow}
    (hrow : s.devices[i]? = some d) : s.BoundAs i d := by
  have hactive : s.activeTokens i ≠ [] → d.authBindingMode = .DEVICE_TOKEN ∧
      d.status = .ACTIVE := by
    intro hne
    obtain ⟨⟨j, c⟩, hmem⟩ := List.exists_mem_of_ne_nil _ hne
    obtain ⟨hrow', rfl, hst⟩ := AuthStore.mem_activeTokens.1 hmem
    obtain ⟨d₀, hd₀, -, hmode, hstatus⟩ := h.token hrow' hst
    obtain rfl : d = d₀ := Option.some.inj (hrow.symm.trans hd₀)
    exact ⟨hmode, hstatus⟩
  refine ⟨⟨fun hne => (hactive hne).1, fun hmode hnil => ?_⟩, ?_, fun hne =>
    ?_, ?_, fun hinactive => ?_⟩
  · obtain ⟨j, c, hc, hdevice, hst⟩ := h.paired hrow hmode
    have hmem := AuthStore.mem_activeTokens.2 ⟨hc, hdevice, hst⟩
    rw [hnil] at hmem
    simp at hmem
  · refine select_length_le_one fun j k a b ha hb hpa hpb => ?_
    simp only [Bool.and_eq_true, decide_eq_true_eq] at hpa hpb
    exact h.oneToken ha hb (hpa.1.trans hpb.1.symm) hpa.2 hpb.2
  · obtain ⟨⟨j, c⟩, hmem⟩ := List.exists_mem_of_ne_nil _ hne
    obtain ⟨hrow', hp⟩ := Table.mem_select.1 hmem
    simp only [Bool.and_eq_true, decide_eq_true_eq] at hp
    obtain ⟨rfl, hst⟩ := hp
    obtain ⟨d₀, hd₀, hmode⟩ := h.credential hrow' hst
    obtain rfl : d = d₀ := Option.some.inj (hrow.symm.trans hd₀)
    exact hmode
  · refine select_length_le_one fun j k a b ha hb hpa hpb => ?_
    simp only [Bool.and_eq_true, decide_eq_true_eq] at hpa hpb
    exact h.oneCredential ha hb (hpa.1.trans hpb.1.symm) hpa.2 hpb.2
  · by_contra hne
    have hst := (hactive hne).2
    rw [hinactive] at hst
    cases hst

/-- **Modes and active credentials agree** in every store that requests side by side reach. -/
theorem devices_bound {rt : AuthRuntime} {s : AuthStore} {w : AuthRequests} (hfresh : s.Fresh)
    (hrun : Pool.Steps (AuthRequest.program rt) (.initial s) w) {i : Nat} {d : DeviceRow}
    (hrow : w.state.devices[i]? = some d) : w.state.BoundAs i d :=
  (run_good hfresh.good hrun).bound.boundAs hrow

/-! ### A shop -/

namespace AuthShop

def key : String := "AAAAAAAAAAAAAAAAAAAAAAAAAAAAAAAAAAAAAAAAAAA"

def deviceToken : String := "BBBBBBBBBBBBBBBBBBBBBBBBBBBBBBBBBBBBBBBBBBA"

/-- The HMAC-SHA-256 of the device token under the key. -/
def tokenHash : Bytes :=
  [138, 171, 89, 16, 211, 186, 157, 14, 159, 228, 49, 254, 154, 54, 189, 40, 22, 210, 124, 72, 97,
    171, 1, 238, 96, 48, 153, 145, 169, 146, 229, 10]

/-- An attestation of the device `device` under the secret `secret`. -/
def attestation : String := "1000.nonce.1nBXxqLMYPEZl2xWVFOKQCdVM2cZb06QgH9e4Aj4tcs"

/-- Its signature, the HMAC-SHA-256 of `device.1000.nonce`. -/
def signature : Bytes :=
  [214, 112, 87, 198, 162, 204, 96, 241, 25, 151, 108, 86, 84, 83, 138, 64, 39, 85, 51, 103, 25,
    111, 78, 144, 128, 127, 94, 224, 8, 248, 181, 203]

def runtime : AuthRuntime where
  SESSION_SECRET := "session secret"
  CSRF_SECRET := "csrf secret"
  DEVICE_ATTESTATION_KEK := "kek"
  POS_DEVICE_TOKEN_HMAC_KEY := some key
  POS_DEVICE_TOKEN_HMAC_KEY_VERSION := 1
  PILOT_CASHIER_DEVICE_TOKEN_ONLY := false
  SESSION_IDLE_CASHIER_MINUTES := 30
  SESSION_IDLE_SUPERVISOR_MINUTES := 30
  SESSION_IDLE_ADMIN_MINUTES := 30
  WEBAUTHN_RP_ID := none
  WEBAUTHN_ALLOWED_ORIGINS := none
  WEBAUTHN_DEVICE_QUALIFICATION_APPROVED := false
  WEBAUTHN_DEV_ENROLLMENT_ENABLED := false
  WEBAUTHN_PREVIEW_ENROLLMENT_ENABLED := false
  NODE_ENV := none
  VERCEL_ENV := none
  localCashierTestSessionEnabled := false
  version_pos := by decide
  idle_pos := by decide
  deviceUuid _ := "device"
  userOfSupabase id := some id
  hmacSha256 _ text :=
    if text = deviceToken then tokenHash
    else if text = "device.1000.nonce" then signature else []
  fromBase64url text :=
    if text = "1nBXxqLMYPEZl2xWVFOKQCdVM2cZb06QgH9e4Aj4tcs" then signature else []
  Number text := if text = "1000" then some 1000 else none
  URL _ := none
  encryptDeviceAttestationSecret secret _ _ := secret
  decryptDeviceAttestationSecret ciphertext _ := some ciphertext
  verifyRegistrationResponse _ _ _ := none
  keyProtection _ := none
  verifyAuthenticationResponse _ _ _ _ := none

def branch : Branch := ⟨"tenant", "Africa/Lagos", 1, .ACTIVE⟩

def surroundings (now : Int) (sessionToken : String) : AuthSurroundings where
  now := now
  randomToken := deviceToken
  iv := "iv"
  challenge := "challenge"
  sessionToken := sessionToken
  csrfToken := "csrf token"
  branches _ := some branch
  tenants _ := some .ACTIVE
  signInWithPassword username _ := some username

def admin : AuthContext := ⟨"admin", "tenant", none, .ADMIN, none⟩

def cashier : AuthUser := ⟨"tenant", some "branch", .CASHIER, .ACTIVE⟩

def device (mode : DeviceAuthBindingMode) (secret : Option String) : DeviceRow :=
  ⟨"tenant", "branch", "Till", .ACTIVE, mode, none, secret, if secret.isSome then 1 else 0,
    secret.map fun _ => 0⟩

def store (users : String → Option AuthUser) (devices : Table DeviceRow) : AuthStore where
  users := users
  devices := devices
  deviceTokenCredentials := []
  deviceWebAuthnCredentials := []
  deviceEnrollmentChallenges := []
  cashierLoginAttempts := []
  deviceAttestations := []
  sessions := []
  records _ := none
  revocations := []

lemma store_fresh {users : String → Option AuthUser} {devices : Table DeviceRow}
    (h : ∀ d ∈ devices, d.authBindingMode ≠ .DEVICE_TOKEN) : (store users devices).Fresh :=
  ⟨h, rfl, rfl, rfl, rfl, rfl⟩

/-- The steps of the process under a number. -/
def advances (n steps : Nat) (env : AuthSurroundings) :
    List (PoolEvent AuthRequest AuthSurroundings) :=
  List.replicate steps (.advance n env)

/-- A till that is paired. -/
def pairing : List (PoolEvent AuthRequest AuthSurroundings) :=
  .start (.pairDeviceToken "tenant" admin 0) :: advances 0 4 (surroundings 0 "")

end AuthShop

theorem devices_bound_paired : ∃ (w : AuthRequests) (d : DeviceRow),
    w.state.devices[0]? = some d ∧ d.authBindingMode = .DEVICE_TOKEN ∧ w.state.BoundAs 0 d := by
  have hw : ((Pool.initial
    (AuthShop.store (fun _ => none) [AuthShop.device .UNPAIRED none])).runChecked
      (AuthRequest.program AuthShop.runtime) (fun _ _ => true) AuthShop.pairing).map
      (fun w => w.state.devices.map DeviceRow.authBindingMode) = some [.DEVICE_TOKEN] := by
    decide +kernel
  obtain ⟨w, hw, hmode⟩ := Option.map_eq_some_iff.1 hw
  obtain ⟨d, hd, hd'⟩ : ∃ d, w.state.devices = [d] ∧ d.authBindingMode = .DEVICE_TOKEN := by
    simpa [List.map_eq_cons_iff] using hmode
  have hrow : w.state.devices[0]? = some d := by rw [hd]; rfl
  have hfresh : (AuthShop.store (fun _ => none) [AuthShop.device .UNPAIRED none]).Fresh :=
    AuthShop.store_fresh (by simp [AuthShop.device])
  exact ⟨w, d, hrow, hd', devices_bound hfresh (.of_runChecked (fun _ _ _ => trivial) hw) hrow⟩

end ShopcityLoyalty
