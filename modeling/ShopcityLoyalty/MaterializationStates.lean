import ShopcityLoyalty.Materializations
import ShopcityLoyalty.RedemptionSnapshots

/-!
The state rows of the materializations against the report rows: which transaction wrote the
rows of a scope last, and when a state row may say that it is completed.
-/

namespace ShopcityLoyalty

open ReportMaterializerService

variable {rt : ReportRuntime} {tenantId : String}

/-! ### What a transaction leaves -/

/-- The scopes whose rows the transaction deletes. -/
def Materialization.clears (k : Materialization) (scope : ReportScope) : Prop :=
  k.branchId = none ∨ scope = k.scope

instance (k : Materialization) : DecidablePred k.clears := fun _ =>
  inferInstanceAs (Decidable (_ ∨ _))

/-- The scopes whose rows the transaction inserts. -/
def Rebuild.Builds (rt : ReportRuntime) (tenantId : String) (r : Rebuild) (scope : ReportScope) :
    Prop :=
  scope ∈ (r.plan rt tenantId).map Prod.fst

/-- The last transaction that deleted the rows of a scope. -/
def lastRebuild (rebuilds : List Rebuild) (scope : ReportScope) : Option Rebuild :=
  (rebuilds.filter fun r => r.request.clears scope).getLast?

lemma lastRebuild_append (rebuilds : List Rebuild) (r : Rebuild) (scope : ReportScope) :
    lastRebuild (rebuilds ++ [r]) scope =
      if r.request.clears scope then some r else lastRebuild rebuilds scope := by
  unfold lastRebuild
  by_cases h : r.request.clears scope <;> simp [h]

lemma mem_of_lastRebuild {rebuilds : List Rebuild} {r : Rebuild} {scope : ReportScope}
    (h : lastRebuild rebuilds scope = some r) : r ∈ rebuilds :=
  (List.mem_filter.1 (List.mem_of_getLast? h)).1

lemma Rebuild.plan_scopes (r : Rebuild) : (r.plan rt tenantId).map Prod.fst =
    (planScopes rt (loadSourceData r.tables tenantId r.request.asOf) r.request.branchId).map
      (·.scope) := by
  simp [Rebuild.plan, buildPlan]

lemma Rebuild.Builds.clears {r : Rebuild} {scope : ReportScope} (h : r.Builds rt tenantId scope) :
    r.request.clears scope := by
  unfold Rebuild.Builds at h
  rw [r.plan_scopes] at h
  cases hb : r.request.branchId with
  | none => exact .inl hb
  | some branchId =>
      right
      rw [hb] at h
      simpa [planScopes, Materialization.scope, hb, scopeOf] using h

/-- The branches of a source are loaded once each. -/
lemma branches_nodup (tenantId : String) (tables : ReportTables) (asOf : Int) :
    ((loadSourceData tables tenantId asOf).branches.map (·.id)).Nodup := by
  have hids : (tables.branchIds.filterMap (branchRecord tables tenantId)).map (·.id) =
      tables.branchIds.filter fun id => (branchRecord tables tenantId id).isSome := by
    induction tables.branchIds with
    | nil => rfl
    | cons id ids ih =>
        cases hb : branchRecord tables tenantId id with
        | none => simp [hb, ih]
        | some b =>
            have hid : b.id = id := by
              unfold branchRecord at hb
              obtain ⟨x, -, rfl⟩ := Option.map_eq_some_iff.1 hb
              rfl
            simp [hb, ih, hid]
  exact hids ▸ tables.branchIds_nodup.filter _

lemma Rebuild.plan_nodup (r : Rebuild) : ((r.plan rt tenantId).map Prod.fst).Nodup := by
  rw [r.plan_scopes]
  cases r.request.branchId with
  | none =>
      have hbranches := branches_nodup tenantId r.tables r.request.asOf
      have hinj : Function.Injective ReportScope.BRANCH := fun a b h => ReportScope.BRANCH.inj h
      have hmap : (((loadSourceData r.tables tenantId r.request.asOf).branches.map branchScope).map
          (·.scope)) = ((loadSourceData r.tables tenantId r.request.asOf).branches.map
            (·.id)).map ReportScope.BRANCH := by
        simp [branchScope, Function.comp_def]
      simp only [planScopes, List.map_cons]
      refine List.nodup_cons.2 ⟨?_, ?_⟩
      · simp [tenantScope, branchScope]
      · rw [hmap]
        exact hbranches.map hinj
  | some branchId => simp [planScopes]

@[simp] lemma ScopeRows.empty_append (a : ScopeRows) : ScopeRows.empty.append a = a := rfl

section writes

variable {s : ReportStore} {plan : List (ReportScope × ScopeRows)} {scope : ReportScope}

lemma insertRows_other (h : scope ∉ plan.map Prod.fst) :
    (insertRows plan s).rows scope = s.rows scope := by
  induction plan generalizing s with
  | nil => rfl
  | cons row plan ih =>
      rw [List.map_cons, List.mem_cons, not_or] at h
      have hrest := ih (s := { s with
        rows := Function.update s.rows row.1 ((s.rows row.1).append row.2) }) h.2
      unfold insertRows at hrest ⊢
      rw [List.foldl_cons, hrest]
      exact Function.update_of_ne h.1 _ _

lemma insertRows_planned {rows : ScopeRows} (hn : (plan.map Prod.fst).Nodup)
    (h : (scope, rows) ∈ plan) : (insertRows plan s).rows scope = (s.rows scope).append rows := by
  induction plan generalizing s with
  | nil => cases h
  | cons row plan ih =>
      rw [List.map_cons, List.nodup_cons] at hn
      rcases List.mem_cons.1 h with rfl | hmem
      · have hrest := insertRows_other (s := { s with
          rows := Function.update s.rows scope ((s.rows scope).append rows) }) hn.1
        unfold insertRows at hrest ⊢
        rw [List.foldl_cons, hrest]
        exact Function.update_self ..
      · have hne : scope ≠ row.1 := by
          rintro rfl
          exact hn.1 (List.mem_map.2 ⟨_, hmem, rfl⟩)
        have hrest := ih (s := { s with
          rows := Function.update s.rows row.1 ((s.rows row.1).append row.2) }) hn.2 hmem
        unfold insertRows at hrest ⊢
        rw [List.foldl_cons, hrest]
        simp [Function.update_of_ne hne]

lemma insertRows_states : (insertRows plan s).states = s.states := by
  induction plan generalizing s with
  | nil => rfl
  | cons row plan ih => exact ih

lemma upsertStates_rows {scopes : List ReportScope} {state : MaterializationState} :
    (upsertStates scopes state s).rows = s.rows := by
  induction scopes generalizing s with
  | nil => rfl
  | cons scope scopes ih => exact ih

lemma upsertStates_states {scopes : List ReportScope} {state : MaterializationState} :
    (upsertStates scopes state s).states scope =
      if scope ∈ scopes then some state else s.states scope := by
  induction scopes generalizing s with
  | nil => rfl
  | cons first scopes ih =>
      have hrest := ih (s := { s with states := Function.update s.states first (some state) })
      unfold upsertStates at hrest ⊢
      rw [List.foldl_cons, hrest]
      by_cases hmem : scope ∈ scopes
      · simp [hmem]
      · by_cases heq : scope = first
        · simp [heq]
        · simp [hmem, heq]

lemma insertRows_rebuilds : (insertRows plan s).rebuilds = s.rebuilds := by
  induction plan generalizing s with
  | nil => rfl
  | cons row plan ih => exact ih

lemma upsertStates_rebuilds {scopes : List ReportScope} {state : MaterializationState} :
    (upsertStates scopes state s).rebuilds = s.rebuilds := by
  induction scopes generalizing s with
  | nil => rfl
  | cons scope scopes ih => exact ih

lemma rebuild_rebuilds (r : Rebuild) (s : ReportStore) :
    (rebuild rt tenantId r s).rebuilds = s.rebuilds ++ [r] := by
  have hdel : (deleteRows r.request.branchId s).rebuilds = s.rebuilds := by
    cases r.request.branchId <;> rfl
  simp only [rebuild, upsertStates_rebuilds, insertRows_rebuilds, hdel]

lemma deleteRows_cleared {k : Materialization} (h : k.clears scope) :
    (deleteRows k.branchId s).rows scope = .empty ∧
      (deleteRows k.branchId s).states scope = none := by
  cases hb : k.branchId with
  | none => exact ⟨rfl, rfl⟩
  | some branchId =>
      have hscope : scope = .BRANCH branchId := by
        rcases h with h | h
        · rw [hb] at h; cases h
        · simpa [Materialization.scope, hb, scopeOf] using h
      simp [deleteRows, hscope]

lemma deleteRows_other {k : Materialization} (h : ¬ k.clears scope) :
    (deleteRows k.branchId s).rows scope = s.rows scope ∧
      (deleteRows k.branchId s).states scope = s.states scope := by
  cases hb : k.branchId with
  | none => exact absurd (.inl hb) h
  | some branchId =>
      have hscope : scope ≠ .BRANCH branchId := by
        intro heq
        exact h (.inr (by simpa [Materialization.scope, hb, scopeOf] using heq))
      simp [deleteRows, hscope]

end writes

/-! ### The store along a run -/

/-- The rows of a scope are those of the last transaction on it, the state rows that say so
name that transaction's instant, and no transaction replaced rows for a later one. -/
structure UpToDate (rt : ReportRuntime) (tenantId : String) (s : ReportStore) : Prop where
  rows : ∀ {scope r rows}, lastRebuild s.rebuilds scope = some r →
    (scope, rows) ∈ r.plan rt tenantId → s.rows scope = rows
  completed : ∀ {scope state}, s.states scope = some state → state.status = .COMPLETED →
    ∃ r, lastRebuild s.rebuilds scope = some r ∧ r.request.asOf = state.asOf ∧
      r.Builds rt tenantId scope
  ordered : ∀ {before r after}, s.rebuilds = before ++ r :: after → ∀ {scope p},
    r.Builds rt tenantId scope → lastRebuild before scope = some p → p.Builds rt tenantId scope →
    p.request.asOf ≤ r.request.asOf

/-- A transaction may replace these rows: they are for no later instant. -/
def MayRebuild (rt : ReportRuntime) (tenantId : String) (s : ReportStore) (r : Rebuild) : Prop :=
  ∀ scope p, r.Builds rt tenantId scope → lastRebuild s.rebuilds scope = some p →
    p.Builds rt tenantId scope → p.request.asOf ≤ r.request.asOf

/-- The last transaction that replaced the rows of the scope was as of the same instant. -/
def MayComplete (rt : ReportRuntime) (tenantId : String) (s : ReportStore) (k : Materialization) :
    Prop :=
  ∃ r, lastRebuild s.rebuilds k.scope = some r ∧ r.request.asOf = k.asOf ∧
    r.Builds rt tenantId k.scope

namespace UpToDate

variable {s : ReportStore} {scope : ReportScope} {state : MaterializationState}

lemma initial : UpToDate rt tenantId noReports :=
  ⟨fun h => (by cases h), fun h => (by cases h), fun h => (by simp [noReports] at h)⟩

lemma upsert (h : UpToDate rt tenantId s) (hstate : state.status = .COMPLETED →
      ∃ r, lastRebuild s.rebuilds scope = some r ∧ r.request.asOf = state.asOf ∧
        r.Builds rt tenantId scope) :
    UpToDate rt tenantId { s with states := Function.update s.states scope (some state) } := by
  refine ⟨h.rows, fun {scope' state'} hs hc => ?_, h.ordered⟩
  by_cases heq : scope' = scope
  · subst heq
    obtain rfl : state = state' := by simpa using hs
    exact hstate hc
  · simp only [Function.update_of_ne heq] at hs
    exact h.completed hs hc

/-- The transaction replaces the rows of its scopes, and notes their states. -/
lemma rebuild (h : UpToDate rt tenantId s) {r : Rebuild} (hr : MayRebuild rt tenantId s r) :
    UpToDate rt tenantId (rebuild rt tenantId r s) := by
  have hlog : (ReportMaterializerService.rebuild rt tenantId r s).rebuilds = s.rebuilds ++ [r] :=
    rebuild_rebuilds r s
  refine ⟨fun {scope p rows} hlast hmem => ?_, fun {scope state} hstate hc => ?_,
    fun {before p after} hsplit scope q hb hq hqb => ?_⟩
  · rw [hlog, lastRebuild_append] at hlast
    simp only [ReportMaterializerService.rebuild, upsertStates_rows]
    by_cases hclear : r.request.clears scope
    · rw [if_pos hclear] at hlast
      obtain rfl := Option.some.inj hlast
      rw [insertRows_planned r.plan_nodup hmem, (deleteRows_cleared hclear).1,
        ScopeRows.empty_append]
    · rw [if_neg hclear] at hlast
      have hnot : scope ∉ (r.plan rt tenantId).map Prod.fst := fun hb =>
        hclear (Rebuild.Builds.clears hb)
      rw [insertRows_other hnot, (deleteRows_other hclear).1]
      exact h.rows hlast hmem
  · simp only [ReportMaterializerService.rebuild, upsertStates_states, insertRows_states] at hstate
    rw [hlog, lastRebuild_append]
    by_cases hb : r.Builds rt tenantId scope
    · have hmem : scope ∈ (r.plan rt tenantId).map Prod.fst := hb
      rw [if_pos hmem] at hstate
      obtain rfl := Option.some.inj hstate
      exact ⟨r, if_pos hb.clears, rfl, hb⟩
    · have hmem : scope ∉ (r.plan rt tenantId).map Prod.fst := hb
      rw [if_neg hmem] at hstate
      by_cases hclear : r.request.clears scope
      · rw [(deleteRows_cleared hclear).2] at hstate
        cases hstate
      · rw [(deleteRows_other hclear).2] at hstate
        rw [if_neg hclear]
        exact h.completed hstate hc
  · rw [hlog] at hsplit
    rcases List.eq_nil_or_concat after with rfl | ⟨rest, last, rfl⟩
    · obtain ⟨rfl, hone⟩ := List.append_inj' hsplit rfl
      obtain rfl : r = p := List.head_eq_of_cons_eq hone
      exact hr scope q hb hq hqb
    · have hinit : s.rebuilds ++ [r] = (before ++ p :: rest) ++ [last] := by
        simpa using hsplit
      obtain ⟨hinit, -⟩ := List.append_inj' hinit rfl
      exact h.ordered hinit hb hq hqb

end UpToDate

/-! ### The processes -/

/-- Where a materialization stands. -/
inductive Staged (rt : ReportRuntime) (tenantId : String) (k : Materialization) :
    Materializing Unit → Prop
  | requested : Staged rt tenantId k (materialize rt tenantId k)
  | running : Staged rt tenantId k (do rebuildOrFail rt tenantId k; complete k)
  | failing (error : String) : Staged rt tenantId k
      ((do upsertState k.scope (k.failed error); Process.fail error) >>= fun _ => complete k)
  | rebuilt : Staged rt tenantId k (complete k)
  | ended {p} (h : ¬ p.Running) : Staged rt tenantId k p

/-- What one statement of a materialization leaves, and how the process goes on. -/
inductive Advances (rt : ReportRuntime) (tenantId : String) (k : Materialization)
    (env : MaterializerSurroundings) (s : ReportStore) :
    Materializing Unit → ReportStore → Materializing Unit → Prop
  | starts : Advances rt tenantId k env s (materialize rt tenantId k)
      { s with states := Function.update s.states k.scope (some k.running) }
      (do rebuildOrFail rt tenantId k; complete k)
  | rebuilds (hf : env.failure = none) : Advances rt tenantId k env s
      (do rebuildOrFail rt tenantId k; complete k) (rebuild rt tenantId ⟨k, env.tables⟩ s)
      (complete k)
  | givesUp (error : String) : Advances rt tenantId k env s
      (do rebuildOrFail rt tenantId k; complete k) s
      ((do upsertState k.scope (k.failed error); Process.fail error) >>= fun _ => complete k)
  | fails (error : String) : Advances rt tenantId k env s
      ((do upsertState k.scope (k.failed error); Process.fail error) >>= fun _ => complete k)
      { s with states := Function.update s.states k.scope (some (k.failed error)) }
      (Process.fail error)
  | completes (hf : env.failure = none) : Advances rt tenantId k env s (complete k)
      { s with states := Function.update s.states k.scope (some k.completed) } (Process.done ())
  | throws {p} (error : String) : Advances rt tenantId k env s p s (Process.fail error)

/-- A statement fails, or does its work. -/
lemma advance_statement {w w' : Materializers} {n : Nat} {k : Materialization}
    {env : MaterializerSurroundings} {f : ReportTables → ReportStore → ReportStore}
    {next : Except String Unit → Materializing Unit}
    (htask : w.tasks[n]? = some (k, some (.act (unlessFails f) next)))
    (h : w.step (materialize rt tenantId) (.advance n env) = some w') :
    (∃ e, w' = ⟨w.state, w.tasks.set n (k, some (next (.error e)))⟩) ∨
      (env.failure = none ∧
        w' = ⟨f env.tables w.state, w.tasks.set n (k, some (next (.ok ())))⟩) := by
  simp only [Pool.step, htask, Option.some.injEq] at h
  subst h
  cases hf : env.failure with
  | none => exact .inr ⟨rfl, by simp [unlessFails, hf]⟩
  | some e => exact .inl ⟨e, by simp [unlessFails, hf]⟩

/-- **A step of a materialization** is one of its statements. -/
lemma Staged.advances {w w' : Materializers} {n : Nat} {k : Materialization}
    {env : MaterializerSurroundings} {p : Materializing Unit} (h : Staged rt tenantId k p)
    (htask : w.tasks[n]? = some (k, some p)) (hrun : p.Running)
    (hstep : w.step (materialize rt tenantId) (.advance n env) = some w') :
    ∃ s q, Advances rt tenantId k env w.state p s q ∧ w' = ⟨s, w.tasks.set n (k, some q)⟩ := by
  cases h with
  | requested =>
      rcases advance_statement htask hstep with ⟨e, rfl⟩ | ⟨-, rfl⟩
      · exact ⟨_, _, .throws e, rfl⟩
      · exact ⟨_, _, .starts, rfl⟩
  | running =>
      rcases advance_statement htask hstep with ⟨e, rfl⟩ | ⟨hf, rfl⟩
      · exact ⟨_, _, .givesUp e, rfl⟩
      · exact ⟨_, _, .rebuilds hf, rfl⟩
  | failing error =>
      rcases advance_statement htask hstep with ⟨e, rfl⟩ | ⟨-, rfl⟩
      · exact ⟨_, _, .throws e, rfl⟩
      · exact ⟨_, _, .fails error, rfl⟩
  | rebuilt =>
      rcases advance_statement htask hstep with ⟨e, rfl⟩ | ⟨hf, rfl⟩
      · exact ⟨_, _, .throws e, rfl⟩
      · exact ⟨_, _, .completes hf, rfl⟩
  | ended hnot => exact absurd hrun hnot

/-- A transaction replaces no rows for a later instant, and a state row is completed only while
the last transaction on its scope was as of the same instant. -/
structure InOrder (rt : ReportRuntime) (tenantId : String) (w : Materializers)
    (event : PoolEvent Materialization MaterializerSurroundings) : Prop where
  rebuilds : ∀ {n env k}, event = .advance n env → env.failure = none →
    w.tasks[n]? = some (k, some (do rebuildOrFail rt tenantId k; complete k)) →
    MayRebuild rt tenantId w.state ⟨k, env.tables⟩
  completes : ∀ {n env k}, event = .advance n env → env.failure = none →
    w.tasks[n]? = some (k, some (complete k)) → MayComplete rt tenantId w.state k

/-- What a run keeps. -/
structure Orderly (rt : ReportRuntime) (tenantId : String) (w : Materializers) : Prop where
  store : UpToDate rt tenantId w.state
  staged : ∀ {n : Nat} {k p}, w.tasks[n]? = some (k, some p) → Staged rt tenantId k p

namespace Orderly

variable {w w' : Materializers}

lemma goesOn (h : Orderly rt tenantId w) {n : Nat} {k : Materialization}
    {p : Option (Materializing Unit)} {s : ReportStore} (hs : UpToDate rt tenantId s)
    (hp : ∀ q ∈ p, Staged rt tenantId k q) : Orderly rt tenantId ⟨s, w.tasks.set n (k, p)⟩ := by
  refine ⟨hs, fun {m k' q} hq => ?_⟩
  rcases Pool.getElem?_set_some hq with ⟨-, heq⟩ | ⟨-, hq⟩
  · obtain ⟨rfl, rfl⟩ := Prod.mk.inj heq
    exact hp q rfl
  · exact h.staged hq

lemma advances (h : Orderly rt tenantId w) {n : Nat} {env : MaterializerSurroundings}
    (hstep : w.step (materialize rt tenantId) (.advance n env) = some w') :
    ∃ k p s q, w.tasks[n]? = some (k, some p) ∧ p.Running ∧
      Advances rt tenantId k env w.state p s q ∧ w' = ⟨s, w.tasks.set n (k, some q)⟩ := by
  obtain ⟨k, β, st, next, htask, -⟩ := Pool.advance_step hstep
  obtain ⟨s, q, hadvances, hw⟩ := (h.staged htask).advances htask trivial hstep
  exact ⟨k, _, s, q, htask, trivial, hadvances, hw⟩

lemma step (h : Orderly rt tenantId w) {event : PoolEvent Materialization MaterializerSurroundings}
    (horder : InOrder rt tenantId w event)
    (hstep : w.step (materialize rt tenantId) event = some w') : Orderly rt tenantId w' := by
  have hended : ∀ {k p}, ¬ p.Running → ∀ q ∈ some p, Staged rt tenantId k q := by
    rintro k p hnot q ⟨⟩
    exact .ended hnot
  cases event with
  | start k =>
      obtain rfl := Option.some.inj hstep
      refine ⟨h.store, fun {n k' p} hp => ?_⟩
      rcases Pool.getElem?_start hp with hp | ⟨-, heq⟩
      · exact h.staged hp
      · obtain ⟨rfl, heq⟩ := Prod.mk.inj heq
        obtain rfl := Option.some.inj heq
        exact .requested
  | crash n =>
      obtain ⟨k, -, rfl⟩ := Pool.crash_step hstep
      exact h.goesOn h.store (by simp)
  | advance n env =>
      obtain ⟨k, p, s, q, htask, -, hadvances, rfl⟩ := h.advances hstep
      cases hadvances with
      | starts =>
          refine h.goesOn (h.store.upsert fun hc => (by cases hc)) ?_
          rintro q ⟨⟩
          exact .running
      | rebuilds hf =>
          refine h.goesOn (h.store.rebuild (horder.rebuilds rfl hf htask)) ?_
          rintro q ⟨⟩
          exact .rebuilt
      | givesUp error =>
          refine h.goesOn h.store ?_
          rintro q ⟨⟩
          exact .failing error
      | fails error =>
          exact h.goesOn (h.store.upsert fun hc => (by cases hc)) (hended fun hrun => hrun)
      | completes hf =>
          exact h.goesOn (h.store.upsert fun _ => horder.completes rfl hf htask)
            (hended fun hrun => hrun)
      | throws error => exact h.goesOn h.store (hended fun hrun => hrun)

end Orderly

/-! ### The promise of the state rows -/

/-- Whenever a state row says COMPLETED as of an instant, the rows of its scope are those that
a transaction computed as of it, and no transaction replaced rows for a later instant. -/
structure StatesMatch (rt : ReportRuntime) (tenantId : String)
    (P : Materializers → PoolEvent Materialization MaterializerSurroundings → Prop) : Prop where
  completed : ∀ {w : Materializers},
    Pool.StepsUnder (materialize rt tenantId) P (Pool.initial noReports) w →
    ∀ {scope state}, w.state.states scope = some state → state.status = .COMPLETED →
      ∃ r ∈ w.state.rebuilds, r.request.asOf = state.asOf ∧
        (scope, w.state.rows scope) ∈ r.plan rt tenantId
  later : ∀ {w : Materializers},
    Pool.StepsUnder (materialize rt tenantId) P (Pool.initial noReports) w →
    ∀ {before r after}, w.state.rebuilds = before ++ r :: after → ∀ {scope p},
      r.Builds rt tenantId scope → lastRebuild before scope = some p →
      p.Builds rt tenantId scope → p.request.asOf ≤ r.request.asOf

/-- **State rows and report rows** agree in every run of materializations in order. -/
theorem materialization_states_match (rt : ReportRuntime) (tenantId : String) :
    StatesMatch rt tenantId (InOrder rt tenantId) := by
  have hrun : ∀ {w : Materializers}, Pool.StepsUnder (materialize rt tenantId) (InOrder rt tenantId)
      (Pool.initial noReports) w → Orderly rt tenantId w := fun h =>
    h.invariant (I := Orderly rt tenantId) (fun horder hw hstep => hw.step horder hstep)
      ⟨.initial, fun h => (by simp [Pool.initial] at h)⟩
  refine ⟨fun {w} h scope state hstate hc => ?_, fun h => (hrun h).store.ordered⟩
  have hstore := (hrun h).store
  obtain ⟨r, hlast, hasOf, hb⟩ := hstore.completed hstate hc
  obtain ⟨⟨scope', rows⟩, hmem, rfl⟩ := List.mem_map.1 hb
  have hrows := hstore.rows hlast hmem
  exact ⟨r, mem_of_lastRebuild hlast, hasOf, by rw [hrows]; exact hmem⟩

/-! ### A schedule -/

/-- A materialization starts once every other has ended, and as of no earlier instant than the
transactions before it. -/
structure Scheduled (w : Materializers)
    (event : PoolEvent Materialization MaterializerSurroundings) : Prop where
  alone : ∀ {k}, event = .start k → ∀ n, ¬ w.InFlight n
  forward : ∀ {k}, event = .start k → ∀ r ∈ w.state.rebuilds, r.request.asOf ≤ k.asOf

lemma Rebuild.builds_scope (r : Rebuild) : r.Builds rt tenantId r.request.scope := by
  unfold Rebuild.Builds
  rw [r.plan_scopes]
  unfold Materialization.scope
  cases r.request.branchId <;> simp [planScopes, scopeOf, tenantScope]

lemma mayComplete_rebuild (k : Materialization) (tables : ReportTables) (s : ReportStore) :
    MayComplete rt tenantId (rebuild rt tenantId ⟨k, tables⟩ s) k := by
  have hbuilds : (⟨k, tables⟩ : Rebuild).Builds rt tenantId k.scope := Rebuild.builds_scope _
  refine ⟨⟨k, tables⟩, ?_, rfl, hbuilds⟩
  rw [rebuild_rebuilds, lastRebuild_append, if_pos hbuilds.clears]

/-- What the first statement of a process leaves of an empty store, on some tables. -/
def leavesFirst : Materializing Unit → ReportStore
  | .act st _ =>
      (st ⟨Shop.reportTables (Database.initial Shop.registry) rfl, none⟩ noReports).2
  | _ => noReports

lemma ne_complete {k : Materialization} {p : Materializing Unit}
    (h : (leavesFirst p).rebuilds ≠ [] ∨
      ∃ state, (leavesFirst p).states k.scope = some state ∧ state.status ≠ .COMPLETED) :
    p ≠ complete k := by
  have hstate : (leavesFirst (complete k)).states k.scope = some k.completed :=
    Function.update_self ..
  rintro rfl
  rcases h with h | ⟨state, hfirst, hne⟩
  · exact h rfl
  · obtain rfl := Option.some.inj (hstate.symm.trans hfirst)
    exact hne rfl

/-- What a scheduled run keeps: one process at most is in flight, as of no earlier instant than
the transactions so far, and one that is about to note its completion has just committed. -/
structure Alone (rt : ReportRuntime) (tenantId : String) (w : Materializers) : Prop where
  orderly : Orderly rt tenantId w
  one : ∀ {n m : Nat}, w.InFlight n → w.InFlight m → n = m
  forward : ∀ {n : Nat} {k}, w.Active n k → ∀ r ∈ w.state.rebuilds, r.request.asOf ≤ k.asOf
  rebuilt : ∀ {n : Nat} {k}, w.tasks[n]? = some (k, some (complete k)) →
    MayComplete rt tenantId w.state k

namespace Alone

variable {w w' : Materializers} {event : PoolEvent Materialization MaterializerSurroundings}

lemma initial : Alone rt tenantId (Pool.initial noReports) where
  orderly := ⟨.initial, fun h => (by simp [Pool.initial] at h)⟩
  one := by
    rintro n m ⟨k, p, hp, -⟩
    simp [Pool.initial] at hp
  forward := by
    rintro n k ⟨p, hp, -⟩
    simp [Pool.initial] at hp
  rebuilt h := by simp [Pool.initial] at h

lemma inOrder (h : Alone rt tenantId w) : InOrder rt tenantId w event where
  rebuilds _ _ htask _ p _ hlast _ := h.forward ⟨_, htask, trivial⟩ p (mem_of_lastRebuild hlast)
  completes _ _ htask := h.rebuilt htask

lemma goesOn (h : Alone rt tenantId w) {n : Nat} {k : Materialization} {s : ReportStore}
    {q : Materializing Unit} (hactive : w.Active n k)
    (horderly : Orderly rt tenantId ⟨s, w.tasks.set n (k, some q)⟩)
    (hforward : ∀ r ∈ s.rebuilds, r.request.asOf ≤ k.asOf)
    (hrebuilt : q = complete k → MayComplete rt tenantId s k) :
    Alone rt tenantId ⟨s, w.tasks.set n (k, some q)⟩ := by
  have honly : ∀ {m l p}, (w.tasks.set n (k, some q))[m]? = some (l, some p) → p.Running →
      m = n ∧ l = k ∧ p = q := by
    intro m l p hp hrun
    rcases Pool.getElem?_set_some hp with ⟨hm, heq⟩ | ⟨hne, hp⟩
    · obtain ⟨hl, heq⟩ := Prod.mk.inj heq
      exact ⟨hm.symm, hl, Option.some.inj heq⟩
    · exact absurd (h.one ⟨k, hactive⟩ ⟨l, p, hp, hrun⟩) hne
  refine ⟨horderly, ?_, ?_, fun {m l} hq => ?_⟩
  · rintro m m' ⟨l, p, hp, hrun⟩ ⟨l', p', hp', hrun'⟩
    rw [(honly hp hrun).1, (honly hp' hrun').1]
  · rintro m l ⟨p, hp, hrun⟩
    obtain ⟨-, rfl, -⟩ := honly hp hrun
    exact hforward
  · obtain ⟨-, rfl, heq⟩ := honly hq trivial
    exact hrebuilt heq.symm

lemma start {k : Materialization} (hs : Scheduled w (.start k))
    (horderly : Orderly rt tenantId
      ⟨w.state, w.tasks ++ [(k, some (materialize rt tenantId k))]⟩) :
    Alone rt tenantId ⟨w.state, w.tasks ++ [(k, some (materialize rt tenantId k))]⟩ := by
  have honly : ∀ {m : Nat} {l p}, (w.tasks ++ [(k, some (materialize rt tenantId k))])[m]? =
      some (l, some p) → p.Running →
        m = w.tasks.length ∧ l = k ∧ p = materialize rt tenantId k := by
    intro m l p hp hrun
    rcases Pool.getElem?_start hp with hp | ⟨hm, heq⟩
    · exact absurd ⟨l, p, hp, hrun⟩ (hs.alone rfl m)
    · obtain ⟨hl, heq⟩ := Prod.mk.inj heq
      exact ⟨hm, hl, Option.some.inj heq⟩
  refine ⟨horderly, ?_, ?_, fun {m l} hq => ?_⟩
  · rintro m m' ⟨l, p, hp, hrun⟩ ⟨l', p', hp', hrun'⟩
    rw [(honly hp hrun).1, (honly hp' hrun').1]
  · rintro m l ⟨p, hp, hrun⟩
    obtain ⟨-, rfl, -⟩ := honly hp hrun
    exact hs.forward rfl
  · obtain ⟨-, rfl, heq⟩ := honly hq trivial
    -- the new process is about to note that it runs
    exact absurd heq.symm (ne_complete (.inr ⟨l.running, Function.update_self .., nofun⟩))

lemma crash (h : Alone rt tenantId w) {n : Nat} {k : Materialization}
    (horderly : Orderly rt tenantId ⟨w.state, w.tasks.set n (k, none)⟩) :
    Alone rt tenantId ⟨w.state, w.tasks.set n (k, none)⟩ := by
  have hbefore : ∀ {m : Nat} {l p}, (w.tasks.set n (k, none))[m]? = some (l, some p) →
      w.tasks[m]? = some (l, some p) := by
    intro m l p hp
    rcases Pool.getElem?_set_some hp with ⟨-, heq⟩ | ⟨-, hp⟩
    · cases heq
    · exact hp
  refine ⟨horderly, ?_, ?_, fun hq => h.rebuilt (hbefore hq)⟩
  · rintro m m' ⟨l, p, hp, hrun⟩ ⟨l', p', hp', hrun'⟩
    exact h.one ⟨l, p, hbefore hp, hrun⟩ ⟨l', p', hbefore hp', hrun'⟩
  · rintro m l ⟨p, hp, hrun⟩
    exact h.forward ⟨p, hbefore hp, hrun⟩

lemma step (h : Alone rt tenantId w) (hs : Scheduled w event)
    (hstep : w.step (materialize rt tenantId) event = some w') : Alone rt tenantId w' := by
  have horderly := h.orderly.step h.inOrder hstep
  cases event with
  | start k =>
      obtain rfl := Option.some.inj hstep
      exact start hs horderly
  | crash n =>
      obtain ⟨k, -, rfl⟩ := Pool.crash_step hstep
      exact h.crash horderly
  | advance n env =>
      obtain ⟨k, p, s, q, htask, hrun, hadvances, rfl⟩ := h.orderly.advances hstep
      have hactive : w.Active n k := ⟨p, htask, hrun⟩
      have hforward := h.forward hactive
      have hended : ∀ {q : Materializing Unit}, ¬ q.Running → q ≠ complete k := by
        rintro q hnot rfl
        exact hnot trivial
      cases hadvances with
      | starts =>
          refine h.goesOn hactive horderly hforward fun heq => absurd heq (ne_complete (.inl ?_))
          change (rebuild rt tenantId _ noReports).rebuilds ≠ []
          rw [rebuild_rebuilds]
          simp
      | rebuilds hf =>
          refine h.goesOn hactive horderly ?_ fun _ => mayComplete_rebuild k env.tables w.state
          rw [rebuild_rebuilds]
          intro r hr
          rcases List.mem_append.1 hr with hr | hr
          · exact hforward r hr
          · obtain rfl := List.mem_singleton.1 hr
            exact le_rfl
      | givesUp error =>
          exact h.goesOn hactive horderly hforward fun heq => absurd heq
            (ne_complete (.inr ⟨k.failed error, Function.update_self .., nofun⟩))
      | fails error =>
          exact h.goesOn hactive horderly hforward fun heq => absurd heq (hended fun hrun => hrun)
      | completes hf =>
          exact h.goesOn hactive horderly hforward fun heq => absurd heq (hended fun hrun => hrun)
      | throws error =>
          exact h.goesOn hactive horderly hforward fun heq => absurd heq (hended fun hrun => hrun)

end Alone

/-- **A schedule is in order**: materializations one after another, as of later and later
instants. -/
theorem Scheduled.inOrder {w : Materializers}
    (h : Pool.StepsUnder (materialize rt tenantId) Scheduled (Pool.initial noReports) w) :
    Pool.StepsUnder (materialize rt tenantId) (InOrder rt tenantId) (Pool.initial noReports) w := by
  have hrun : Alone rt tenantId w ∧
      Pool.StepsUnder (materialize rt tenantId) (InOrder rt tenantId) (Pool.initial noReports) w :=
    h.invariant (I := fun u => Alone rt tenantId u ∧ Pool.StepsUnder (materialize rt tenantId)
        (InOrder rt tenantId) (Pool.initial noReports) u)
      (fun hs ⟨hu, hbefore⟩ hstep => ⟨hu.step hs hstep, hbefore.tail hu.inOrder hstep⟩)
      ⟨.initial, .refl _⟩
  exact hrun.2

/-! ### A shop -/

namespace Shop

/-- A tenant's reports as of some days after the night. -/
def rebuildAfter (days : Int) : Materialization :=
  ⟨none, night + days * Calendar.msPerDay, night + days * Calendar.msPerDay, 90⟩

/-- Nothing fails, and nobody has bought anything. -/
def quietNight : MaterializerSurroundings := ⟨reportTables (Database.initial registry) rfl, none⟩

/-- Two overlapping rebuilds: the later one's rows are replaced before it is completed. -/
def overlapping : List (PoolEvent Materialization MaterializerSurroundings) :=
  [.start (rebuildAfter 0), .advance 0 quietNight, .start (rebuildAfter 1), .advance 1 quietNight,
    .advance 1 quietNight, .advance 0 quietNight, .advance 1 quietNight]

/-- Two rebuilds, one after the other. -/
def nightly : List (PoolEvent Materialization MaterializerSurroundings) :=
  [.start (rebuildAfter 0), .advance 0 quietNight, .advance 0 quietNight, .advance 0 quietNight,
    .start (rebuildAfter 1), .advance 1 quietNight, .advance 1 quietNight, .advance 1 quietNight]

/-- Whether a step keeps to a schedule. -/
def scheduled (w : Materializers) : PoolEvent Materialization MaterializerSurroundings → Bool
  | .start k =>
      (w.tasks.all fun task => task.2.all fun p => ¬ p.Running) &&
        w.state.rebuilds.all fun r => r.request.asOf ≤ k.asOf
  | _ => true

lemma scheduled_of_check {w : Materializers}
    {event : PoolEvent Materialization MaterializerSurroundings} (h : scheduled w event) :
    Scheduled w event := by
  constructor
  · rintro k rfl n ⟨l, p, hp, hrun⟩
    have hall := (Bool.and_eq_true_iff.1 h).1
    have hended := List.all_eq_true.1 hall _ (List.mem_of_getElem? hp)
    exact of_decide_eq_true hended hrun
  · rintro k rfl r hr
    have hall := (Bool.and_eq_true_iff.1 h).2
    exact of_decide_eq_true (List.all_eq_true.1 hall r hr)

/-- The dates of the tenant's daily rows. -/
def reportDates (rows : ScopeRows) : List Calendar.Date :=
  rows.dailyFinancialSummaries.map (·.reportDate)

/-- The state row is completed, but no transaction as of its instant computed rows of these
dates. -/
def stale (w : Materializers) : Bool :=
  ((w.state.states .TENANT).map fun state => (state.status, state.asOf)) =
      some (.COMPLETED, (rebuildAfter 1).asOf) &&
    w.state.rebuilds.all fun r => r.request.asOf ≠ (rebuildAfter 1).asOf ||
      (r.plan reportRuntime "tenant").all fun row =>
        row.1 ≠ .TENANT || reportDates row.2 ≠ reportDates (w.state.rows .TENANT)

end Shop

/-- Two nights' rebuilds: the state row is completed, and the rows are those of the second. -/
theorem materialization_states_match_shop : ∃ (w : Materializers) (state : MaterializationState),
    Pool.StepsUnder (materialize Shop.reportRuntime "tenant") (InOrder Shop.reportRuntime "tenant")
      (Pool.initial noReports) w ∧
    w.state.states .TENANT = some state ∧ state.status = .COMPLETED ∧
    state.asOf = (Shop.rebuildAfter 1).asOf ∧
    ∃ r ∈ w.state.rebuilds, r.request.asOf = (Shop.rebuildAfter 1).asOf ∧
      (.TENANT, w.state.rows .TENANT) ∈ r.plan Shop.reportRuntime "tenant" := by
  have hended : ((Pool.initial noReports).runChecked (materialize Shop.reportRuntime "tenant")
      Shop.scheduled Shop.nightly).map (fun w => (w.state.states .TENANT).map fun state =>
        (state.status, state.asOf)) = some (some (.COMPLETED, (Shop.rebuildAfter 1).asOf)) := by
    decide +kernel
  obtain ⟨w, hrun, hw⟩ := Option.map_eq_some_iff.1 hended
  obtain ⟨state, hstate, heq⟩ := Option.map_eq_some_iff.1 hw
  obtain ⟨hc, hasOf⟩ := Prod.mk.inj heq
  have horder := Scheduled.inOrder
    (Pool.StepsUnder.of_runChecked (fun _ _ => Shop.scheduled_of_check) hrun)
  obtain ⟨r, hr, hrasOf, hrows⟩ :=
    (materialization_states_match Shop.reportRuntime "tenant").completed horder hstate hc
  exact ⟨w, state, horder, hstate, hc, hasOf, r, hr, hrasOf.trans hasOf, hrows⟩

/-- A rebuild is noted as completed after an earlier one replaced its rows. -/
theorem materialization_states_stale :
    ¬ StatesMatch Shop.reportRuntime "tenant" fun _ _ => True := by
  intro hmatch
  have hstale : ((Pool.initial noReports).runChecked (materialize Shop.reportRuntime "tenant")
      (fun _ _ => true) Shop.overlapping).map Shop.stale = some true := by decide +kernel
  obtain ⟨w, hrun, hw⟩ := Option.map_eq_some_iff.1 hstale
  simp only [Shop.stale, Bool.and_eq_true, decide_eq_true_eq, List.all_eq_true, Bool.or_eq_true]
    at hw
  obtain ⟨hstate, hall⟩ := hw
  obtain ⟨state, hstate, heq⟩ := Option.map_eq_some_iff.1 hstate
  obtain ⟨hc, hasOf⟩ := Prod.mk.inj heq
  obtain ⟨r, hr, hrasOf, hrows⟩ := hmatch.completed (.of_runChecked (fun _ _ _ => trivial) hrun)
    hstate hc
  rcases hall r hr with hne | hplan
  · exact hne (hrasOf.trans hasOf)
  · rcases hplan _ hrows with hne | hne
    · exact hne rfl
    · exact hne rfl

end ShopcityLoyalty
