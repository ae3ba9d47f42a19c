import ShopcityLoyalty.PolicyChain
import ShopcityLoyalty.PublicConfig

/-!
The public configuration beside updates, over every order of their steps in one process.

A cached configuration is as new as the updates that have returned, as long as no update returns
while a load is in flight that has read an older policy.
-/

namespace ShopcityLoyalty

open Crew

namespace ConfigurationService

open ConfigurationPlace

variable {rt : PublicConfigRuntime}

/-- A load in flight has read an older policy. -/
def ConfigurationPlace.Outdated (version : Nat) (s : ConfigurationProcess) :
    ConfigurationPlace → Prop
  | settling _ _ _ policy => versionOf policy < version
  | resuming _ _ load =>
      ∃ value, s.loads[load]? = some (some (.ok value)) ∧ value.version < version
  | _ => False

/-- The steps of one process: no request crashes alone. -/
def InProcess (event : PoolEvent ConfigurationRequest ConfigurationSurroundings) : Prop :=
  ∀ n, event ≠ .crash n

/-- An update returns while no load is in flight that has read an older policy of its scope. -/
def Unoverlapped (rt : PublicConfigRuntime) (w : ConfigurationRequests)
    (event : PoolEvent ConfigurationRequest ConfigurationSurroundings) : Prop :=
  ∀ n req env response, event = .advance n env → w.At n req (updating (.done response)) →
    (⟨response.tenantId, response.branchId⟩ : PolicyScope) = publicScope rt →
    ∀ m req' p, w.At m req' p → ¬ p.Outdated response.version w.state

/-- Every answered call has a policy at least as new as the updates that had returned when it
started. -/
def NeverStale (w : ConfigurationRequests) : Prop :=
  ∀ n req since value, w.At n req (answered since (.ok value)) → since ≤ value.version

/-! ### What is kept -/

/-- The version that is stored. -/
def stored (s : ConfigurationProcess) (scope : PolicyScope) : Nat :=
  versionOf (s.store.policies scope)

/-- The latest update of the public policy that has returned. -/
def returnedVersion (rt : PublicConfigRuntime) (s : ConfigurationProcess) : Nat :=
  s.returned (publicScope rt)

/-- The load that a call started and is on. -/
def ConfigurationPlace.loading : ConfigurationPlace → Option Nat
  | readingPolicy _ _ load | settling _ _ load _ | resuming _ _ load => some load
  | _ => none

/-- What is known of a request at its place. -/
def Fits (rt : PublicConfigRuntime) (s : ConfigurationProcess) : ConfigurationPlace → Prop
  | calling | updated _ => True
  | verifying since _ _ => since ≤ returnedVersion rt s
  | joined since load => since ≤ returnedVersion rt s ∧ load < s.loads.length ∧
      ∀ value, s.loads[load]? = some (some (.ok value)) → since ≤ value.version
  | readingPolicy since _ load => since ≤ returnedVersion rt s ∧
      s.publicConfigRefresh = some load ∧ s.loads[load]? = some none
  | settling since _ load policy => since ≤ returnedVersion rt s ∧
      s.publicConfigRefresh = some load ∧ s.loads[load]? = some none ∧
      returnedVersion rt s ≤ versionOf policy
  | resuming since _ load => since ≤ returnedVersion rt s ∧
      s.publicConfigRefresh = some load ∧ load < s.loads.length ∧
      ∀ value, s.loads[load]? = some (some (.ok value)) → returnedVersion rt s ≤ value.version
  | answered since result => ∀ value, result = .ok value → since ≤ value.version
  | updating rest => (∃ req, rest.EffectLast (Replaces rt.validation req)) ∨
      ∃ response : PolicyResponse, rest = .done response ∧
        response.version ≤ stored s ⟨response.tenantId, response.branchId⟩

structure Kept (rt : PublicConfigRuntime) (w : ConfigurationRequests) : Prop where
  returned : ∀ scope, w.state.returned scope ≤ stored w.state scope
  cached : ∀ cached, w.state.publicConfigCache = some cached →
    returnedVersion rt w.state ≤ cached.value.version
  fits : ∀ n req p, w.At n req p → Fits rt w.state p
  /-- One call at a time is on a load of its own. -/
  alone : ∀ n m req req' p p', w.At n req p → w.At m req' p' → p.loading.isSome →
    p'.loading.isSome → n = m
  /-- The load that can be joined is some call's. -/
  owned : ∀ load, w.state.publicConfigRefresh = some load →
    ∃ n req p, w.At n req p ∧ p.loading = some load

variable {w w' : ConfigurationRequests} {s t : ConfigurationProcess} {p q : ConfigurationPlace}
  {req : ConfigurationRequest} {n load since : Nat} {now : Int}

lemma Fits.refresh (h : Fits rt s p) (hload : p.loading = some load) :
    s.publicConfigRefresh = some load := by
  cases p with
  | readingPolicy _ _ l =>
      obtain rfl := Option.some.inj hload
      exact h.2.1
  | settling _ _ l _ =>
      obtain rfl := Option.some.inj hload
      exact h.2.1
  | resuming _ _ l =>
      obtain rfl := Option.some.inj hload
      exact h.2.1
  | _ => cases hload

lemma Fits.same (h : Fits rt s p) (hreturned : returnedVersion rt t = returnedVersion rt s)
    (hrefresh : t.publicConfigRefresh = s.publicConfigRefresh) (hloads : t.loads = s.loads)
    (hstored : ∀ scope, stored s scope ≤ stored t scope) : Fits rt t p := by
  cases p with
  | updating rest =>
      obtain heffect | ⟨response, hdone, hversion⟩ := h
      · exact .inl heffect
      · exact .inr ⟨response, hdone, hversion.trans (hstored _)⟩
  | calling => exact trivial
  | updated result => exact trivial
  | answered since result => exact h
  | _ =>
      simp only [Fits, hreturned, hrefresh, hloads] at h ⊢
      exact h

/-- A request goes on from its place. -/
lemma Kept.advance (h : Kept rt w) (hat : w.At n req p)
    (hreturned : ∀ scope, t.returned scope ≤ stored t scope)
    (hcached : ∀ cached, t.publicConfigCache = some cached →
      returnedVersion rt t ≤ cached.value.version)
    (hown : Fits rt t q)
    (hothers : ∀ m req' p', m ≠ n → w.At m req' p' → Fits rt t p')
    (hload : (t.publicConfigRefresh = w.state.publicConfigRefresh ∧ q.loading = p.loading) ∨
      (w.state.publicConfigRefresh = none ∧ q.loading = t.publicConfigRefresh) ∨
      (t.publicConfigRefresh = none ∧ q.loading = none)) :
    Kept rt ⟨t, w.tasks.set n (req, some q)⟩ := by
  -- beside a request that loads now, no other one loads
  have hbeside : ∀ m req' p', m ≠ n → w.At m req' p' → q.loading.isSome →
      ¬ p'.loading.isSome := by
    intro m req' p' hne hm hq hp'
    obtain ⟨-, hsame⟩ | ⟨hnone, -⟩ | ⟨-, hnone⟩ := hload
    · rw [hsame] at hq
      exact hne (h.alone m n req' req p' p hm hat hp' hq)
    · obtain ⟨l, hl⟩ := Option.isSome_iff_exists.1 hp'
      have hrefresh := (h.fits m req' p' hm).refresh hl
      rw [hnone] at hrefresh
      cases hrefresh
    · rw [hnone] at hq
      cases hq
  refine ⟨hreturned, hcached, fun m req' p' hm => ?_, fun i j r r' p₁ p₂ hi hj h₁ h₂ => ?_,
    fun l hl => ?_⟩
  · obtain ⟨rfl, rfl, rfl⟩ | ⟨hne, hm⟩ := hm.of_advance
    · exact hown
    · exact hothers m req' p' hne hm
  · obtain ⟨rfl, rfl, rfl⟩ | ⟨hine, hi'⟩ := hi.of_advance
    · obtain ⟨rfl, -⟩ | ⟨hjne, hj'⟩ := hj.of_advance
      · rfl
      · exact absurd h₂ (hbeside j r' p₂ hjne hj' h₁)
    · obtain ⟨rfl, rfl, rfl⟩ | ⟨hjne, hj'⟩ := hj.of_advance
      · exact absurd h₁ (hbeside i r p₁ hine hi' h₂)
      · exact h.alone i j r r' p₁ p₂ hi' hj' h₁ h₂
  · obtain ⟨hsame, hqp⟩ | ⟨-, hq⟩ | ⟨hnone, -⟩ := hload
    · obtain ⟨m, req', p', hm, hp'⟩ := h.owned l (hsame ▸ hl)
      by_cases hmn : m = n
      · subst hmn
        obtain ⟨rfl, rfl⟩ := hm.inj hat
        exact ⟨m, req', q, hat.advanced, hqp.trans hp'⟩
      · exact ⟨m, req', p', hm.other hmn, hp'⟩
    · exact ⟨n, req, q, hat.advanced, hq.trans hl⟩
    · change t.publicConfigRefresh = some l at hl
      rw [hnone] at hl
      cases hl

lemma Kept.goesOn (h : Kept rt w) (hat : w.At n req p) (hown : Fits rt w.state q)
    (hload : q.loading = p.loading) : Kept rt ⟨w.state, w.tasks.set n (req, some q)⟩ :=
  h.advance hat h.returned h.cached hown (fun m req' p' _ hm => h.fits m req' p' hm)
    (.inl ⟨rfl, hload⟩)

/-- A load is joined or started. -/
lemma Kept.refresh (h : Kept rt w) (hat : w.At n req p) (hp : p.loading = none)
    (hsince : since ≤ returnedVersion rt w.state) {cache : Option CachedConfig}
    (hcache : ∀ cached, cache = some cached →
      returnedVersion rt w.state ≤ cached.value.version)
    (hnext : refresh since now { w.state with publicConfigCache := cache } = (q, t)) :
    Kept rt ⟨t, w.tasks.set n (req, some q)⟩ := by
  unfold ConfigurationService.refresh at hnext
  cases hrefresh : w.state.publicConfigRefresh with
  | some load =>
      simp only [hrefresh, Prod.mk.injEq] at hnext
      obtain ⟨rfl, rfl⟩ := hnext
      refine h.advance hat h.returned hcache ?_ (fun m req' p' _ hm => ?_)
        (.inl ⟨hrefresh.symm, hp.symm⟩)
      · -- the call that started the load knows how far it is
        obtain ⟨m, req', p', hm, hloading⟩ := h.owned load hrefresh
        have hfits := h.fits m req' p' hm
        cases p' with
        | readingPolicy _ _ l =>
            obtain rfl := Option.some.inj hloading
            obtain ⟨-, -, hnone⟩ := hfits
            refine ⟨hsince, (List.getElem?_eq_some_iff.1 hnone).1, fun value hvalue => ?_⟩
            rw [hnone] at hvalue
            cases hvalue
        | settling _ _ l _ =>
            obtain rfl := Option.some.inj hloading
            obtain ⟨-, -, hnone, -⟩ := hfits
            refine ⟨hsince, (List.getElem?_eq_some_iff.1 hnone).1, fun value hvalue => ?_⟩
            rw [hnone] at hvalue
            cases hvalue
        | resuming _ _ l =>
            obtain rfl := Option.some.inj hloading
            obtain ⟨-, -, hlen, hvalues⟩ := hfits
            exact ⟨hsince, hlen, fun value hvalue => hsince.trans (hvalues value hvalue)⟩
        | _ => cases hloading
      · exact (h.fits m req' p' hm).same rfl hrefresh.symm rfl fun _ => le_rfl
  | none =>
      simp only [hrefresh, Prod.mk.injEq] at hnext
      obtain ⟨rfl, rfl⟩ := hnext
      refine h.advance hat h.returned hcache ⟨hsince, rfl, ?_⟩ (fun m req' p' _ hm => ?_)
        (.inr (.inl ⟨hrefresh, rfl⟩))
      · simp
      · have hfits := h.fits m req' p' hm
        have hidle : p'.loading = none := by
          cases hl : p'.loading with
          | none => rfl
          | some l =>
              have hsome := hfits.refresh hl
              rw [hrefresh] at hsome
              cases hsome
        cases p' with
        | joined since' l =>
            obtain ⟨hle, hlen, hvalues⟩ := hfits
            refine ⟨hle, ?_, fun value hvalue => hvalues value ?_⟩
            · change l < (w.state.loads ++ [none]).length
              rw [List.length_append]
              omega
            · change (w.state.loads ++ [none])[l]? = _ at hvalue
              rw [List.getElem?_append_left hlen] at hvalue
              exact hvalue
        | readingPolicy | settling | resuming => cases hidle
        | updating rest => exact hfits
        | verifying | answered | calling | updated => exact hfits

/-- A load ends, by the call that started it. -/
lemma Kept.settled (h : Kept rt w) (hat : w.At n req p) (hp : p.loading = some load)
    (hsince : since ≤ returnedVersion rt w.state)
    {outcome : Except PublicConfigFault PublicConfig}
    (houtcome : ∀ value, outcome = .ok value →
      returnedVersion rt w.state ≤ value.version) (hlen : load < w.state.loads.length) :
    Kept rt ⟨settle load outcome w.state, w.tasks.set n (req, some (resuming since now load))⟩ := by
  have hself : (w.state.loads.set load (some outcome))[load]? = some (some outcome) :=
    List.getElem?_set_self hlen
  refine h.advance hat h.returned h.cached ⟨hsince, (h.fits n req p hat).refresh hp, ?_, ?_⟩
    (fun m req' p' hne hm => ?_) (.inl ⟨rfl, hp.symm⟩)
  · change load < (w.state.loads.set load (some outcome)).length
    rw [List.length_set]
    exact hlen
  · intro value hvalue
    have heq := hself.symm.trans hvalue
    simp only [Option.some.injEq] at heq
    exact houtcome value heq
  · have hfits := h.fits m req' p' hm
    have hidle : ¬ p'.loading.isSome := fun hl =>
      hne (h.alone m n req' req p' p hm hat hl (by rw [hp]; rfl))
    cases p' with
    | joined since' l =>
        obtain ⟨hle, hlt, hvalues⟩ := hfits
        refine ⟨hle, ?_, fun value hvalue => ?_⟩
        · change l < (w.state.loads.set load (some outcome)).length
          rw [List.length_set]
          exact hlt
        · change (w.state.loads.set load (some outcome))[l]? = _ at hvalue
          by_cases hl : load = l
          · subst hl
            have heq := hself.symm.trans hvalue
            simp only [Option.some.injEq] at heq
            exact hle.trans (houtcome value heq)
          · rw [List.getElem?_set_ne hl] at hvalue
            exact hvalues value hvalue
    | readingPolicy | settling | resuming => exact absurd rfl hidle
    | updating rest => exact hfits
    | verifying | answered | calling | updated => exact hfits

lemma Kept.finished (h : Kept rt w) (hat : w.At n req p) (hp : p.loading = some load)
    {result : Except PublicConfigFault PublicConfig} {cache : Option CachedConfig}
    (hcache : ∀ cached, cache = some cached →
      returnedVersion rt w.state ≤ cached.value.version)
    (hresult : ∀ value, result = .ok value → since ≤ value.version) :
    Kept rt ⟨{ w.state with publicConfigCache := cache, publicConfigRefresh := none },
      w.tasks.set n (req, some (answered since result))⟩ := by
  refine h.advance hat h.returned hcache hresult (fun m req' p' hne hm => ?_)
    (.inr (.inr ⟨rfl, rfl⟩))
  have hfits := h.fits m req' p' hm
  have hidle : ¬ p'.loading.isSome := fun hl =>
    hne (h.alone m n req' req p' p hm hat hl (by rw [hp]; rfl))
  cases p' with
  | readingPolicy | settling | resuming => exact absurd rfl hidle
  | updating rest => exact hfits
  | joined | verifying | answered | calling | updated => exact hfits

lemma Kept.resumed (h : Kept rt w) (hat : w.At n req (resuming since now load)) {loadedAt : Int}
    {outcome : Except PublicConfigFault PublicConfig}
    (houtcome : w.state.loads[load]? = some (some outcome))
    (hnext : resume since now loadedAt outcome w.state = (q, t)) :
    Kept rt ⟨t, w.tasks.set n (req, some q)⟩ := by
  obtain ⟨hsince, -, -, hvalues⟩ := h.fits n req _ hat
  unfold resume at hnext
  cases outcome with
  | ok value =>
      simp only [Prod.mk.injEq] at hnext
      obtain ⟨rfl, rfl⟩ := hnext
      have hvalue := hvalues value houtcome
      refine h.finished hat rfl (fun cached hcached => ?_) fun value' hvalue' => ?_
      · obtain rfl := Option.some.inj hcached
        exact hvalue
      · obtain rfl := Except.ok.inj hvalue'
        exact hsince.trans hvalue
  | error fault =>
      dsimp only at hnext
      split at hnext
      · rename_i cached hstale
        obtain ⟨rfl, rfl⟩ := Prod.mk.inj hnext
        have hcached := h.cached cached (Option.filter_eq_some_iff.1 hstale).1
        refine h.finished hat rfl h.cached fun value hvalue => ?_
        obtain rfl := Except.ok.inj hvalue
        exact hsince.trans hcached
      · obtain ⟨rfl, rfl⟩ := Prod.mk.inj hnext
        exact h.finished hat rfl h.cached fun value hvalue => nomatch hvalue

/-! ### Updates -/

lemma Replaces.stored_le {v : ValidationRuntime} {preq : PolicyRequest} {store : PolicyStore}
    {res : PolicyResponse} (h : Replaces v preq s.store res store) (scope : PolicyScope) :
    stored s scope ≤ stored { s with store } scope := by
  have hreplaced := h.replaced
  unfold stored versionOf
  dsimp only
  rw [h.policies]
  by_cases hscope : scope = res.scope
  · subst hscope
    rw [Function.update_self]
    change _ ≤ res.version
    omega
  · rw [Function.update_of_ne hscope]

lemma Kept.updateStep (h : Kept rt w) {β : Type} {st : PolicySurroundings → PolicyStore →
      β × PolicyStore} {rest : β → Handling PolicyResponse} {env : PolicySurroundings}
    (hat : w.At n req (updating (.act st rest))) :
    Kept rt ⟨{ w.state with store := (st env w.state.store).2 },
      w.tasks.set n (req, some (updating (rest (st env w.state.store).1)))⟩ := by
  obtain ⟨preq, heffect⟩ | ⟨response, hdone, -⟩ := h.fits n req _ hat
  · obtain ⟨hsame, hrest⟩ | ⟨response, hdone, hreplaces⟩ := heffect env w.state.store
    · rw [hsame]
      exact h.goesOn hat (.inl ⟨preq, hrest⟩) rfl
    · -- the transaction commits
      have hstored : ∀ scope, stored w.state scope ≤
          stored { w.state with store := (st env w.state.store).2 } scope := hreplaces.stored_le
      rw [hdone]
      refine h.advance hat (fun scope => (h.returned scope).trans (hstored scope)) h.cached
        (.inr ⟨response, rfl, ?_⟩) (fun m req' p' _ hm => ?_) (.inl ⟨rfl, rfl⟩)
      · have hrow : (st env w.state.store).2.policies ⟨response.tenantId, response.branchId⟩ =
            some response.row := by
          rw [hreplaces.policies]
          exact Function.update_self ..
        unfold stored versionOf
        dsimp only
        rw [hrow]
        exact le_rfl
      · exact (h.fits m req' p' hm).same rfl rfl rfl hstored
  · cases hdone

/-- An update returns, and no load in flight has read an older policy of its scope. -/
lemma Kept.updateReturned (h : Kept rt w) {response : PolicyResponse}
    (hat : w.At n req (updating (.done response)))
    (hfresh : (⟨response.tenantId, response.branchId⟩ : PolicyScope) = publicScope rt →
      ∀ m req' p, w.At m req' p → ¬ p.Outdated response.version w.state) :
    Kept rt ⟨{ w.state with
        publicConfigCache := none
        returned := Function.update w.state.returned ⟨response.tenantId, response.branchId⟩
          (max (w.state.returned ⟨response.tenantId, response.branchId⟩) response.version) },
      w.tasks.set n (req, some (updated (.ok response)))⟩ := by
  have hversion : response.version ≤ stored w.state ⟨response.tenantId, response.branchId⟩ := by
    obtain ⟨preq, heffect⟩ | ⟨response', hdone, hle⟩ := h.fits n req _ hat
    · exact heffect.elim
    · obtain rfl := Process.done.inj hdone
      exact hle
  let t : ConfigurationProcess := { w.state with
    publicConfigCache := none
    returned := Function.update w.state.returned ⟨response.tenantId, response.branchId⟩
      (max (w.state.returned ⟨response.tenantId, response.branchId⟩) response.version) }
  have hgrows : returnedVersion rt w.state ≤ returnedVersion rt t := by
    unfold returnedVersion
    dsimp only [t]
    by_cases hscope : publicScope rt = ⟨response.tenantId, response.branchId⟩
    · rw [hscope, Function.update_self]
      exact le_max_left _ _
    · rw [Function.update_of_ne hscope]
  -- what was at least as new as the updates that had returned still is, unless it is outdated
  have hstill : ∀ version, returnedVersion rt w.state ≤ version →
      ((⟨response.tenantId, response.branchId⟩ : PolicyScope) = publicScope rt →
        ¬ version < response.version) → returnedVersion rt t ≤ version := by
    intro version hle hnot
    unfold returnedVersion at hle ⊢
    dsimp only [t]
    by_cases hscope : publicScope rt = ⟨response.tenantId, response.branchId⟩
    · have hnew := not_lt.1 (hnot hscope.symm)
      rw [hscope] at hle ⊢
      rw [Function.update_self]
      exact max_le hle hnew
    · rw [Function.update_of_ne hscope]
      exact hle
  refine h.advance (t := t) hat (fun scope => ?_) (fun cached hcached => ?_) trivial
    (fun m req' p' _ hm => ?_) (.inl ⟨rfl, rfl⟩)
  · dsimp only [t]
    by_cases hscope : scope = ⟨response.tenantId, response.branchId⟩
    · subst hscope
      rw [Function.update_self]
      exact max_le (h.returned _) hversion
    · rw [Function.update_of_ne hscope]
      exact h.returned scope
  · cases hcached
  · have hfits := h.fits m req' p' hm
    have hnot := fun hscope => hfresh hscope m req' p' hm
    cases p' with
    | calling => exact trivial
    | updated result => exact trivial
    | answered since' result => exact hfits
    | updating rest => exact hfits
    | verifying since' now' value => exact le_trans hfits hgrows
    | joined since' l => exact ⟨hfits.1.trans hgrows, hfits.2⟩
    | readingPolicy since' now' l => exact ⟨hfits.1.trans hgrows, hfits.2⟩
    | settling since' now' l policy =>
        obtain ⟨hle, hrefresh, hnone, hpolicy⟩ := hfits
        exact ⟨hle.trans hgrows, hrefresh, hnone, hstill _ hpolicy hnot⟩
    | resuming since' now' l =>
        obtain ⟨hle, hrefresh, hlen, hvalues⟩ := hfits
        refine ⟨hle.trans hgrows, hrefresh, hlen, fun value hvalue => ?_⟩
        exact hstill _ (hvalues value hvalue) fun hscope hlt => hnot hscope ⟨value, hvalue, hlt⟩

/-! ### Every step -/

lemma loadConfig_version {env : ConfigurationSurroundings} {policy : Option PolicyRow}
    {value : PublicConfig} (h : loadConfig rt env policy = .ok value) :
    value.version = versionOf policy := by
  unfold loadConfig at h
  split at h
  · split at h
    · cases h
    · split at h
      · cases h
      · obtain rfl := Except.ok.inj h
        rfl
  · cases h

lemma Kept.next (h : Kept rt w) (hat : w.At n req p) {env : ConfigurationSurroundings}
    (hfresh : ∀ response : PolicyResponse, p = updating (.done response) →
      (⟨response.tenantId, response.branchId⟩ : PolicyScope) = publicScope rt →
      ∀ m req' p', w.At m req' p' → ¬ p'.Outdated response.version w.state)
    (hnext : ConfigurationService.next rt env p w.state = some (q, t)) :
    Kept rt ⟨t, w.tasks.set n (req, some q)⟩ := by
  -- by the place of the process, and what the invariant says of a process there
  have hfits := h.fits n req p hat
  cases p with
  | calling =>
      simp only [ConfigurationService.next] at hnext
      split at hnext
      · obtain ⟨rfl, rfl⟩ := Prod.mk.inj (Option.some.inj hnext)
        exact h.goesOn hat le_rfl rfl
      · exact h.refresh hat rfl le_rfl h.cached (Option.some.inj hnext)
  | verifying since now value =>
      simp only [ConfigurationService.next] at hnext
      split at hnext
      · obtain ⟨rfl, rfl⟩ := Prod.mk.inj (Option.some.inj hnext)
        exact h.goesOn hat (fun value hvalue => nomatch hvalue) rfl
      · split at hnext
        · split at hnext <;> obtain ⟨rfl, rfl⟩ := Prod.mk.inj (Option.some.inj hnext)
          · rename_i cached hcached
            refine h.goesOn hat (fun value hvalue => ?_) rfl
            obtain rfl := Except.ok.inj hvalue
            exact le_trans hfits (h.cached cached hcached)
          · exact h.goesOn hat (fun value hvalue => nomatch hvalue) rfl
        · have hnone : ∀ cached, (none : Option CachedConfig) = some cached →
              returnedVersion rt w.state ≤ cached.value.version := fun _ h => nomatch h
          exact h.refresh hat rfl hfits hnone (Option.some.inj hnext)
  | joined since load =>
      simp only [ConfigurationService.next] at hnext
      split at hnext
      · rename_i outcome houtcome
        obtain ⟨rfl, rfl⟩ := Prod.mk.inj (Option.some.inj hnext)
        obtain ⟨-, -, hvalues⟩ := hfits
        refine h.goesOn hat (fun value hvalue => ?_) rfl
        subst hvalue
        exact hvalues value houtcome
      · cases hnext
  | readingPolicy since now load =>
      simp only [ConfigurationService.next] at hnext
      obtain ⟨hsince, hrefresh, hnone⟩ := hfits
      split at hnext <;> obtain ⟨rfl, rfl⟩ := Prod.mk.inj (Option.some.inj hnext)
      · exact h.settled hat rfl hsince (fun value hvalue => nomatch hvalue)
          (List.getElem?_eq_some_iff.1 hnone).1
      · exact h.goesOn hat ⟨hsince, hrefresh, hnone, h.returned (publicScope rt)⟩ rfl
  | settling since now load policy =>
      simp only [ConfigurationService.next] at hnext
      obtain ⟨hsince, hrefresh, hnone, hpolicy⟩ := hfits
      split at hnext <;> obtain ⟨rfl, rfl⟩ := Prod.mk.inj (Option.some.inj hnext)
      · exact h.settled hat rfl hsince (fun value hvalue => nomatch hvalue)
          (List.getElem?_eq_some_iff.1 hnone).1
      · refine h.settled hat rfl hsince (fun value hvalue => ?_)
          (List.getElem?_eq_some_iff.1 hnone).1
        rw [loadConfig_version hvalue]
        exact hpolicy
  | resuming since now load =>
      simp only [ConfigurationService.next] at hnext
      split at hnext
      · rename_i outcome houtcome
        exact h.resumed hat houtcome (Option.some.inj hnext)
      · cases hnext
  | updating rest =>
      cases rest with
      | act st rest =>
          simp only [ConfigurationService.next] at hnext
          obtain ⟨rfl, rfl⟩ := Prod.mk.inj (Option.some.inj hnext)
          exact h.updateStep hat
      | fail fault =>
          simp only [ConfigurationService.next] at hnext
          obtain ⟨rfl, rfl⟩ := Prod.mk.inj (Option.some.inj hnext)
          exact h.goesOn hat trivial rfl
      | done response =>
          simp only [ConfigurationService.next] at hnext
          obtain ⟨rfl, rfl⟩ := Prod.mk.inj (Option.some.inj hnext)
          exact h.updateReturned hat (hfresh response rfl)
  | answered since result => simp [ConfigurationService.next] at hnext
  | updated result => simp [ConfigurationService.next] at hnext

lemma Kept.started (h : Kept rt w) (req : ConfigurationRequest) :
    Kept rt ⟨w.state, w.tasks ++ [(req, some (start rt req))]⟩ := by
  have hidle : (start rt req).loading = none := by
    cases req <;> rfl
  have hfits : Fits rt w.state (start rt req) := by
    cases req with
    | getPublicConfig => exact trivial
    | patchPolicies preq => exact .inl ⟨preq, patchPolicies_effectLast rt.validation preq⟩
  refine ⟨h.returned, h.cached, fun m req' p' hm => ?_, fun i j r r' p₁ p₂ hi hj h₁ h₂ => ?_,
    fun l hl => ?_⟩
  · obtain hm | ⟨-, rfl, rfl⟩ := hm.of_start
    · exact h.fits m req' p' hm
    · exact hfits
  · obtain hi | ⟨-, rfl, rfl⟩ := hi.of_start
    · obtain hj | ⟨-, rfl, rfl⟩ := hj.of_start
      · exact h.alone i j r r' p₁ p₂ hi hj h₁ h₂
      · rw [hidle] at h₂
        cases h₂
    · rw [hidle] at h₁
      cases h₁
  · obtain ⟨m, req', p', hm, hp'⟩ := h.owned l hl
    exact ⟨m, req', p', hm.started, hp'⟩

lemma Kept.step (h : Kept rt w)
    {event : PoolEvent ConfigurationRequest ConfigurationSurroundings}
    (hprocess : InProcess event) (hfresh : Unoverlapped rt w event)
    (hstep : w.step (configuration rt) event = some w') : Kept rt w' := by
  obtain ⟨req, -, rfl⟩ | ⟨n, env, req, p, ⟨q, t⟩, rfl, hat, hnext, rfl⟩ |
    ⟨n, req, p, rfl, -, -⟩ := step_cases hstep
  · exact h.started req
  · refine h.next hat (fun response hp hscope => ?_) hnext
    subst hp
    exact hfresh n req env response rfl hat hscope
  · exact absurd rfl (hprocess n)

lemma Kept.initial (store : PolicyStore) :
    Kept rt (Crew.initial (ConfigurationService.started store)) where
  returned _ := Nat.zero_le _
  cached _ hcached := nomatch hcached
  fits _ _ _ hat := absurd hat not_at_initial
  alone _ _ _ _ _ _ hat := absurd hat not_at_initial
  owned _ hl := nomatch hl

/-- **The public configuration is never stale after an update**, in every run of one process in
which no update returns while a load is in flight that has read an older policy. -/
theorem publicConfig_neverStale (rt : PublicConfigRuntime) (store : PolicyStore)
    (w : ConfigurationRequests)
    (hrun : StepsUnder (configuration rt) (fun u event => InProcess event ∧ Unoverlapped rt u event)
      (Crew.initial (started store)) w) : NeverStale w := by
  have hkept : Kept rt w := hrun.invariant (I := Kept rt)
    (fun {event u v} (hevent : InProcess event ∧ Unoverlapped rt u event) (hu : Kept rt u) hstep =>
      hu.step hevent.1 hevent.2 hstep) (Kept.initial store)
  exact fun n req since value hat => hkept.fits n req _ hat value rfl

/-! ### A load beside an update -/

namespace Shop

open ShopcityLoyalty.Shop

def publicRuntime : PublicConfigRuntime :=
  ⟨none, some "tenant", some "main", none, none, none, none, none, none, none, policyValidation⟩

def configurationTime (now : Int) : ConfigurationSurroundings where
  now := now
  tenants _ := some ⟨"tenant", "Shop City", .ACTIVE⟩
  branches _ := some ⟨"main", "tenant", "Main", "UTC", 1, .ACTIVE⟩
  failure := none
  policy := policySurroundings

def advance (n : Nat) (now : Int) : PoolEvent ConfigurationRequest ConfigurationSurroundings :=
  .advance n (configurationTime now)

/-- A call, an update, and a call after it. -/
def updatedBetween : List (PoolEvent ConfigurationRequest ConfigurationSurroundings) :=
  .start .getPublicConfig :: List.replicate 4 (advance 0 0) ++
    .start (.patchPolicies (savePolicies "ada" 0)) :: List.replicate 4 (advance 1 1) ++
    .start .getPublicConfig :: List.replicate 4 (advance 2 2)

/-- The update comes between the read of the policy and the end of the load. -/
def updatedMeanwhile : List (PoolEvent ConfigurationRequest ConfigurationSurroundings) :=
  .start .getPublicConfig :: List.replicate 2 (advance 0 0) ++
    .start (.patchPolicies (savePolicies "ada" 0)) :: List.replicate 4 (advance 1 1) ++
    List.replicate 2 (advance 0 2) ++ .start .getPublicConfig :: List.replicate 2 (advance 2 3)

def inProcess : PoolEvent ConfigurationRequest ConfigurationSurroundings → Bool
  | .crash _ => false
  | _ => true

def loadDone : ConfigurationPlace → Bool
  | settling .. | resuming .. => false
  | _ => true

/-- No load has read its policy where an update returns. -/
def loadsDone (w : ConfigurationRequests) :
    PoolEvent ConfigurationRequest ConfigurationSurroundings → Bool
  | .start _ => true
  | .crash _ => false
  | .advance n _ =>
      match w.tasks[n]? with
      | some (_, some (updating (.done _))) => w.tasks.all fun a => a.2.all loadDone
      | _ => true

/-- What calls were answered with: what they had to know of, and the version they got. -/
def answers (w : ConfigurationRequests) : List (Option (Nat × Nat)) :=
  w.tasks.map fun a =>
    match a.2 with
    | some (answered since (.ok value)) => some (since, value.version)
    | _ => none

end Shop

lemma unoverlapped_of_loadsDone
    {event : PoolEvent ConfigurationRequest ConfigurationSurroundings}
    (h : Shop.loadsDone w event = true) : InProcess event ∧ Unoverlapped rt w event := by
  constructor
  · rintro n rfl
    cases h
  · rintro n req env response rfl hat - m req' p hm houtdated
    simp only [Shop.loadsDone, show w.tasks[n]? = _ from hat] at h
    have hp := List.all_eq_true.1 h _ (List.mem_of_getElem? hm)
    cases p with
    | settling | resuming => simp [Shop.loadDone] at hp
    | _ => exact houtdated.elim

/-- The call after the update is answered with the new version. -/
theorem publicConfig_neverStale_shop :
    ∃ w : ConfigurationRequests, StepsUnder (configuration Shop.publicRuntime)
        (fun u event => InProcess event ∧ Unoverlapped Shop.publicRuntime u event)
        (Crew.initial (started .empty)) w ∧
      Shop.answers w = [some (0, 0), none, some (1, 1)] ∧ NeverStale w := by
  have hmap : ((Crew.initial (started .empty) : ConfigurationRequests).runChecked
      (configuration Shop.publicRuntime) Shop.loadsDone Shop.updatedBetween).map Shop.answers =
        some [some (0, 0), none, some (1, 1)] := by
    decide +kernel
  obtain ⟨w, hw, hanswers⟩ := Option.map_eq_some_iff.1 hmap
  have hrun : StepsUnder (configuration Shop.publicRuntime)
      (fun u event => InProcess event ∧ Unoverlapped Shop.publicRuntime u event)
      (Crew.initial (started .empty)) w :=
    .of_runChecked (fun _ _ h => unoverlapped_of_loadsDone h) hw
  exact ⟨w, hrun, hanswers, publicConfig_neverStale Shop.publicRuntime .empty w hrun⟩

/-- **An old policy is stored after the update**: a load that read it before the update fills the
cache after the update emptied it, and the next call gets it. -/
theorem publicConfig_stale :
    ∃ w : ConfigurationRequests, StepsUnder (configuration Shop.publicRuntime)
        (fun _ event => InProcess event) (Crew.initial (started .empty)) w ∧
      Shop.answers w = [some (0, 0), none, some (1, 0)] ∧ ¬ NeverStale w := by
  have hmap : ((Crew.initial (started .empty) : ConfigurationRequests).runChecked
      (configuration Shop.publicRuntime) (fun _ event => Shop.inProcess event)
      Shop.updatedMeanwhile).map Shop.answers = some [some (0, 0), none, some (1, 0)] := by
    decide +kernel
  obtain ⟨w, hw, hanswers⟩ := Option.map_eq_some_iff.1 hmap
  refine ⟨w, .of_runChecked (fun _ event h => ?_) hw, hanswers, fun hnever => ?_⟩
  · rintro n rfl
    cases h
  · have hlast := congrArg (fun l => l[2]?) hanswers
    simp only [Shop.answers, List.getElem?_map] at hlast
    obtain ⟨⟨req, place⟩, htask, hplace⟩ := Option.map_eq_some_iff.1 hlast
    dsimp only at hplace
    split at hplace
    · rename_i since value
      simp only [Option.some.injEq, Prod.mk.injEq] at hplace
      have hle := hnever 2 req since value htask
      omega
    · cases hplace

end ConfigurationService

end ShopcityLoyalty
