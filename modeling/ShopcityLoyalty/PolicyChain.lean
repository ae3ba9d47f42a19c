import ShopcityLoyalty.Lib.Histories
import ShopcityLoyalty.PolicyUpdates

/-!
The policies of a scope form a chain of versions: each accepted update replaces the version it
names, by the next one.

An update takes effect in one statement, its last, so that a run of updates has a history. The
chain, the audit log and the relations between the thresholds are read off it.
-/

namespace ShopcityLoyalty

open Process Pool

/-- The relations between the thresholds of a policy. -/
structure PolicyValues.Related (v : PolicyValues) : Prop where
  approval : v.purchaseFlagThresholdKobo.1 ≤ v.purchaseApprovalThresholdKobo.1
  ceiling : v.purchaseApprovalThresholdKobo.1 ≤ v.purchaseAmountCeilingKobo.1
  redemption : v.minRedemptionKobo.1 ≤ v.redemptionApprovalThresholdKobo.1

def PolicyResponse.scope (r : PolicyResponse) : PolicyScope := ⟨r.tenantId, r.branchId⟩

/-- The row that a response shows. -/
def PolicyResponse.row (r : PolicyResponse) : PolicyRow := ⟨r.id, r.version, r.values⟩

/-! ### Partial bodies -/

namespace UpdatePolicyConfigurationDto

variable {rt : ValidationRuntime} {body : List (String × Json)} {property : String}

lemma instance_properties {input : UpdatePolicyConfigurationDto}
    (h : instance? rt body = some input) (hproperty : property ∈ properties) :
    value body property ≠ .undefined := by
  have hbounded : ∀ {min max n}, bounded rt min max .undefined ≠ some n := by simp [bounded, toInt]
  have huuid : ∀ {u}, uuid rt .undefined ≠ some u := by simp [uuid, toText]
  have hboolean : ∀ {b}, toBoolean .undefined ≠ some b := by simp [toBoolean]
  have hversion : ∀ {n}, version rt .undefined ≠ some n := by simp [version, toInt]
  simp only [instance?, Option.bind_eq_bind, Option.bind_eq_some_iff] at h
  obtain ⟨_, h₁, _, h₂, _, h₃, _, h₄, _, h₅, _, h₆, _, h₇, _, h₈, _, h₉, _, h₁₀, -⟩ := h
  intro hvalue
  simp only [properties, List.mem_cons, List.not_mem_nil, or_false] at hproperty
  rcases hproperty with rfl | rfl | rfl | rfl | rfl | rfl | rfl | rfl | rfl | rfl
  · exact huuid (hvalue ▸ h₁)
  · exact hbounded (hvalue ▸ h₂)
  · exact hbounded (hvalue ▸ h₃)
  · exact hbounded (hvalue ▸ h₄)
  · exact hbounded (hvalue ▸ h₅)
  · exact hbounded (hvalue ▸ h₆)
  · exact hbounded (hvalue ▸ h₇)
  · exact hbounded (hvalue ▸ h₈)
  · exact hboolean (hvalue ▸ h₉)
  · exact hversion (hvalue ▸ h₁₀)

lemma invalidProperty_undefined (hproperty : property ∈ properties)
    (hvalue : value body property = .undefined) : invalidProperty rt body property = true := by
  simp only [properties, List.mem_cons, List.not_mem_nil, or_false] at hproperty
  unfold invalidProperty
  rw [hvalue]
  rcases hproperty with rfl | rfl | rfl | rfl | rfl | rfl | rfl | rfl | rfl | rfl <;> rfl

lemma validate_partial (hproperty : property ∈ properties)
    (hvalue : value body property = .undefined) :
    ∃ names, property ∈ names ∧ validate rt body = .error (.invalid names) := by
  have hnone : instance? rt body = none := by
    cases hinstance : instance? rt body with
    | none => rfl
    | some input => exact absurd hvalue (instance_properties hinstance hproperty)
  have hnamed : property ∈ (body.map (·.1)).filter (fun property => property ∉ properties) ++
      properties.filter (invalidProperty rt body) := by
    refine List.mem_append_right _ (List.mem_filter.2 ⟨hproperty, ?_⟩)
    exact invalidProperty_undefined hproperty hvalue
  refine ⟨_, hnamed, ?_⟩
  unfold validate
  rw [hnone]
  dsimp only
  split
  · rename_i heq
    cases heq
  · rfl

end UpdatePolicyConfigurationDto

namespace ConfigurationService

open UpdatePolicyConfigurationDto (validate)

/-! ### What an update does -/

variable {rt : ValidationRuntime} {req : PolicyRequest} {s t : PolicyStore}
  {res : PolicyResponse}

/-- An accepted update: it replaces the version it expects by the next one, and leaves an
entry in the audit log. -/
structure Replaces (rt : ValidationRuntime) (req : PolicyRequest) (s : PolicyStore)
    (res : PolicyResponse) (t : PolicyStore) : Prop where
  input : ∃ input, validate rt req.body = .ok input ∧ input.branchId = res.branchId ∧
    policyData input = res.values ∧ input.expectedVersion + 1 = res.version
  tenantId : res.tenantId = req.tenantId
  related : res.values.Related
  replaced : ((s.policies res.scope).map (·.version)).getD 0 + 1 = res.version
  policies : t.policies = Function.update s.policies res.scope (some res.row)
  auditLogs : t.auditLogs =
    s.auditLogs ++ [policyAuditLog res.scope req.actorId (res.version - 1) res.row]

lemma validatePolicyRelationships_ok {input : UpdatePolicyConfigurationDto}
    (h : validatePolicyRelationships input = .ok ()) : (policyData input).Related := by
  unfold validatePolicyRelationships at h
  split at h
  · cases h
  split at h
  · cases h
  split at h
  · cases h
  rename_i happroval hceiling hredemption
  exact ⟨not_lt.1 happroval, not_lt.1 hceiling, not_lt.1 hredemption⟩

lemma createPolicy_ok {scope : PolicyScope} {id : String} {data : PolicyValues} {p : PolicyRow}
    (h : createPolicy scope id data s = .ok (p, t)) :
    s.policies scope = none ∧ p = ⟨id, 1, data⟩ ∧
      t = { s with policies := Function.update s.policies scope (some p) } := by
  unfold createPolicy putPolicy at h
  simp only [Txn.bind_ok, Txn.get_ok, Txn.rejectIf_ok, Txn.update_ok, Txn.pure_ok] at h
  obtain ⟨_, _, ⟨rfl, rfl⟩, _, _, ⟨hnone, rfl⟩, _, _, rfl, rfl, rfl⟩ := h
  exact ⟨by simpa using hnone, rfl, rfl⟩

lemma updateManyPolicy_ok {scope : PolicyScope} {n : Nat} {data : PolicyValues} {p : PolicyRow}
    (h : updateManyPolicy scope n data s = .ok (p, t)) :
    (∃ c, s.policies scope = some c ∧ c.version = n ∧ p = ⟨c.id, n + 1, data⟩) ∧
      t = { s with policies := Function.update s.policies scope (some p) } := by
  unfold updateManyPolicy putPolicy at h
  simp only [Txn.bind_ok, Txn.get_ok, Txn.orFault_ok, Txn.rejectIf_ok, Txn.update_ok,
    Txn.pure_ok] at h
  obtain ⟨_, _, ⟨rfl, rfl⟩, c, _, ⟨hc, rfl⟩, _, _, ⟨-, rfl⟩, _, _, rfl, rfl, rfl⟩ := h
  obtain ⟨hfound, hversion⟩ := Option.filter_eq_some_iff.1 hc
  have hn : c.version = n := of_decide_eq_true hversion
  exact ⟨⟨c, hfound, hn, by rw [hn]⟩, rfl⟩

lemma savePolicy_ok {input : UpdatePolicyConfigurationDto} {branch : PolicyBranch}
    {current : Option PolicyRow} {uuid : String} (hbody : validate rt req.body = .ok input)
    (hrelated : (policyData input).Related)
    (hversion : (current.map (·.version)).getD 0 = input.expectedVersion)
    (h : savePolicy req.tenantId req.actorId input branch current uuid s = .ok (res, t)) :
    Replaces rt req s res t := by
  unfold savePolicy recordPolicyAudit at h
  simp only [Txn.bind_ok, Txn.update_ok, Txn.pure_ok] at h
  obtain ⟨p, u, hwrite, _, _, rfl, rfl, rfl⟩ := h
  unfold writePolicy at hwrite
  have hp : ((s.policies ⟨req.tenantId, input.branchId⟩).map (·.version)).getD 0 + 1 = p.version ∧
      p.values = policyData input ∧ p.version = input.expectedVersion + 1 ∧
      u = { s with policies :=
        Function.update s.policies ⟨req.tenantId, input.branchId⟩ (some p) } := by
    cases current with
    | none =>
        obtain ⟨hnone, rfl, hu⟩ := createPolicy_ok hwrite
        have hzero : 0 = input.expectedVersion := hversion
        refine ⟨by simp [hnone], rfl, by simp [← hzero], hu⟩
    | some c =>
        obtain ⟨⟨d, hd, hdn, rfl⟩, hu⟩ := updateManyPolicy_ok hwrite
        refine ⟨by simp [hd, hdn], rfl, rfl, hu⟩
  obtain ⟨hreplaced, hvalues, hnext, rfl⟩ := hp
  refine ⟨⟨input, hbody, rfl, hvalues.symm, hnext.symm⟩, rfl, ?_, hreplaced, rfl, ?_⟩
  · rw [show (serializePolicy p _ branch.name).values = p.values from rfl, hvalues]
    exact hrelated
  · have hprevious : input.expectedVersion = p.version - 1 := by omega
    rw [hprevious]
    rfl

/-- **An update takes effect in its last statement**: the statements before it only read. -/
lemma patchPolicies_effectLast (rt : ValidationRuntime) (req : PolicyRequest) :
    (patchPolicies rt req).EffectLast (Replaces rt req) := by
  unfold patchPolicies
  refine .ofExcept_bind fun input hbody => ?_
  unfold updatePolicyConfiguration
  refine EffectLast.attempt_bind fun branch => ?_
  refine .ofExcept_bind fun _ hrelated => ?_
  refine EffectLast.statement_bind fun current => ?_
  dsimp only
  split
  · trivial
  · rename_i hversion
    refine .transaction fun env s res t h => ?_
    exact savePolicy_ok hbody (validatePolicyRelationships_ok hrelated) (not_not.1 hversion) h

/-! ### The chain -/

abbrev Update := Effect PolicyRequest PolicyResponse

/-- The updates of one scope. -/
def updatesOf (scope : PolicyScope) (h : List Update) : List Update :=
  h.filter fun x => x.result.scope = scope

lemma updatesOf_snoc {scope : PolicyScope} {h : List Update} {x : Update} :
    updatesOf scope (h ++ [x]) =
      if x.result.scope = scope then updatesOf scope h ++ [x] else updatesOf scope h := by
  unfold updatesOf
  rw [List.filter_append]
  split <;> simp [*]

/-- What a history of updates tells about the store. -/
structure Chained (rt : ValidationRuntime) (h : List Update) (s : PolicyStore) : Prop where
  /-- Each update was let in, and expected the version before its own. -/
  accepted : ∀ x ∈ h, ∃ input, validate rt x.name.body = .ok input ∧
    x.result.scope = ⟨x.name.tenantId, input.branchId⟩ ∧ x.result.values = policyData input ∧
    x.result.version = input.expectedVersion + 1
  related : ∀ x ∈ h, x.result.values.Related
  /-- The versions of a scope are its updates, counted from one. -/
  versions : ∀ scope (i : Nat) x, (updatesOf scope h)[i]? = some x → x.result.version = i + 1
  stored : ∀ scope, s.policies scope = (updatesOf scope h).getLast?.map (·.result.row)
  audited : s.auditLogs = h.map fun x =>
    policyAuditLog x.result.scope x.name.actorId (x.result.version - 1) x.result.row

lemma Chained.version {h : List Update} (hs : Chained rt h s) (scope : PolicyScope) :
    ((s.policies scope).map (·.version)).getD 0 = (updatesOf scope h).length := by
  rw [hs.stored scope]
  cases hlast : (updatesOf scope h).getLast? with
  | none =>
      rw [List.getLast?_eq_none_iff.1 hlast]
      rfl
  | some x =>
      have hne : updatesOf scope h ≠ [] := by
        rintro hnil
        rw [hnil] at hlast
        cases hlast
      have hlen : 0 < (updatesOf scope h).length := List.length_pos_iff.2 hne
      rw [List.getLast?_eq_getElem?] at hlast
      have hversion : x.result.version = (updatesOf scope h).length - 1 + 1 :=
        hs.versions scope _ x hlast
      change x.result.version = _
      omega

lemma Chained.empty : Chained rt [] .empty where
  accepted x hx := by simp at hx
  related x hx := by simp at hx
  versions scope i x hx := by simp [updatesOf] at hx
  stored scope := rfl
  audited := rfl

lemma Chained.snoc {h : List Update} (hs : Chained rt h s) (x : Update)
    (hx : Replaces rt x.name s x.result t) : Chained rt (h ++ [x]) t where
  accepted y hy := by
    rcases List.mem_append.1 hy with hy | hy
    · exact hs.accepted y hy
    · obtain rfl := List.mem_singleton.1 hy
      obtain ⟨input, hbody, hbranch, hvalues, hversion⟩ := hx.input
      refine ⟨input, hbody, ?_, hvalues.symm, hversion.symm⟩
      rw [PolicyResponse.scope, hx.tenantId, hbranch]
  related y hy := by
    rcases List.mem_append.1 hy with hy | hy
    · exact hs.related y hy
    · obtain rfl := List.mem_singleton.1 hy
      exact hx.related
  versions scope i y hy := by
    rw [updatesOf_snoc] at hy
    by_cases hscope : x.result.scope = scope
    · rw [if_pos hscope] at hy
      by_cases hi : i < (updatesOf scope h).length
      · rw [List.getElem?_append_left hi] at hy
        exact hs.versions scope i y hy
      · rw [List.getElem?_append_right (by omega), List.getElem?_singleton] at hy
        split at hy
        · obtain rfl := Option.some.inj hy
          have hcount := hs.version scope
          have hreplaced := hx.replaced
          rw [hscope, hcount] at hreplaced
          omega
        · cases hy
    · rw [if_neg hscope] at hy
      exact hs.versions scope i y hy
  stored scope := by
    rw [hx.policies, updatesOf_snoc]
    by_cases hscope : x.result.scope = scope
    · rw [if_pos hscope, ← hscope, Function.update_self, List.getLast?_concat]
      rfl
    · rw [if_neg hscope, Function.update_of_ne (Ne.symm hscope)]
      exact hs.stored scope
  audited := by
    rw [hx.auditLogs, hs.audited, List.map_append]
    rfl

lemma chained {h : List Update} (heffects : Effects (Replaces rt) .empty h s) :
    Chained rt h s := by
  induction heffects with
  | nil => exact .empty
  | snoc x _ hlast ih => exact ih.snoc x hlast

/-- **Policy updates are optimistic and ordered**: however updates interleave and crash, the
accepted ones form a history, each returned update in it once, in which every update expects
and replaces the latest version of its scope, by the next; the latest update of a scope is what
is stored, its thresholds are related, and the history only grows. An update that lacks a
property is refused before it reads anything. -/
theorem policyUpdates_ordered {w : PolicyRequests}
    (hrun : Steps (patchPolicies rt) (.initial .empty) w) :
    (∃ h, w.History (Replaces rt) .empty h ∧ Chained rt h w.state ∧
      ∀ w', Steps (patchPolicies rt) w w' → ∃ more,
        w'.History (Replaces rt) .empty (h ++ more) ∧ Chained rt (h ++ more) w'.state) ∧
    (∀ scope p, w.state.policies scope = some p → p.values.Related) ∧
    ∀ req property, property ∈ UpdatePolicyConfigurationDto.properties →
      UpdatePolicyConfigurationDto.value req.body property = .undefined →
      ∃ names, property ∈ names ∧ patchPolicies rt req = .fail (.invalid names) := by
  obtain ⟨h, hw⟩ := History.initial.run (patchPolicies_effectLast rt) hrun
  rw [List.nil_append] at hw
  have hchain : Chained rt h w.state := chained hw.effects
  refine ⟨⟨h, hw, hchain, fun w' hmore => ?_⟩, fun scope p hp => ?_, ?_⟩
  · obtain ⟨more, hw'⟩ := hw.run (patchPolicies_effectLast rt) hmore
    exact ⟨more, hw', chained hw'.effects⟩
  · rw [hchain.stored scope] at hp
    obtain ⟨x, hx, rfl⟩ := Option.map_eq_some_iff.1 hp
    exact hchain.related x (List.mem_filter.1 (List.mem_of_getLast? hx)).1
  · intro req property hproperty hvalue
    have hpartial : ∃ names, property ∈ names ∧ validate rt req.body = .error (.invalid names) :=
      UpdatePolicyConfigurationDto.validate_partial hproperty hvalue
    obtain ⟨names, hnames, hinvalid⟩ := hpartial
    refine ⟨names, hnames, ?_⟩
    rw [patchPolicies, hinvalid]
    rfl

/-! ### Two administrators save at once -/

def Shop.policyValidation : ValidationRuntime := ⟨fun _ => none, fun _ => true⟩

def Shop.policyBody (expectedVersion : Int) : List (String × Json) :=
  [("branchId", .string "main"), ("defaultEarnRateBps", .number 200),
    ("minRedemptionKobo", .number 50000), ("maxRedemptionBasketPercent", .number 30),
    ("purchaseFlagThresholdKobo", .number 10000000),
    ("purchaseApprovalThresholdKobo", .number 20000000),
    ("purchaseAmountCeilingKobo", .number 100000000),
    ("redemptionApprovalThresholdKobo", .number 500000), ("offlineRedemptionDisabled", .bool true),
    ("expectedVersion", .number expectedVersion)]

def Shop.savePolicies (actorId : String) (expectedVersion : Int) : PolicyRequest :=
  ⟨"tenant", actorId, Shop.policyBody expectedVersion⟩

def Shop.policySurroundings : PolicySurroundings := ⟨fun _ => some ⟨"Main", .ACTIVE⟩, "policy"⟩

/-- Both read that there is no policy, the second one saves first, and then saves again. -/
def Shop.policyEvents : List (PoolEvent PolicyRequest PolicySurroundings) :=
  [.start (Shop.savePolicies "ada" 0), .start (Shop.savePolicies "bola" 0),
    .advance 0 Shop.policySurroundings, .advance 1 Shop.policySurroundings,
    .advance 0 Shop.policySurroundings, .advance 1 Shop.policySurroundings,
    .advance 1 Shop.policySurroundings, .advance 0 Shop.policySurroundings,
    .start (Shop.savePolicies "bola" 1), .advance 2 Shop.policySurroundings,
    .advance 2 Shop.policySurroundings, .advance 2 Shop.policySurroundings]

theorem policyUpdates_ordered_shop : ∃ w : PolicyRequests,
    Steps (patchPolicies Shop.policyValidation) (.initial .empty) w ∧
    w.state.auditLogs.map (fun a => (a.actorId, a.metadata.previousVersion, a.metadata.version)) =
      [("bola", 0, 1), ("bola", 1, 2)] ∧
    ∃ h, w.History (Replaces Shop.policyValidation) .empty h ∧
      Chained Shop.policyValidation h w.state := by
  have hran : ((Pool.initial .empty : PolicyRequests).runChecked
      (patchPolicies Shop.policyValidation) (fun _ _ => true) Shop.policyEvents).map
        (fun w => w.state.auditLogs.map fun a =>
        (a.actorId, a.metadata.previousVersion, a.metadata.version)) =
      some [("bola", 0, 1), ("bola", 1, 2)] := by
    decide +kernel
  obtain ⟨w, hw, haudit⟩ := Option.map_eq_some_iff.1 hran
  have hrun : Steps (patchPolicies Shop.policyValidation) (.initial .empty) w :=
    .of_runChecked (fun _ _ _ => trivial) hw
  obtain ⟨⟨h, hhistory, hchain, -⟩, -⟩ := policyUpdates_ordered hrun
  exact ⟨w, hrun, haudit, h, hhistory, hchain⟩

end ConfigurationService

end ShopcityLoyalty
