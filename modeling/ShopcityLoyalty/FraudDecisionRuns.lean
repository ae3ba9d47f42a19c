import ShopcityLoyalty.FraudDecisions

/-!
Decisions on fraud flags, over every interleaving of requests and crashes.

The flag, the record and the audit entry are written one after another. They come together as long
as no request crashes between them, and a request that is about to decide has its key to itself.
-/

namespace ShopcityLoyalty

open FraudReviewService FraudReviewService.DecisionPlace Crew

/-- A request that found its flag in another status, and has not ended. -/
def FraudReviewService.DecisionPlace.Deciding : DecisionPlace → Prop
  | updatingFlag _ | creatingRecord _ | recordingAudit _ => True
  | _ => False

/-- A request between its first write and its last. -/
def FraudReviewService.DecisionPlace.HalfDone : DecisionPlace → Prop
  | creatingRecord _ | recordingAudit _ => True
  | _ => False

/-- Nobody decides under the key, and nothing is recorded under it. -/
def KeyFree (w : FraudDecisionRequests) (k : FraudDecisionKey) : Prop :=
  w.state.records k = none ∧ ∀ n req p, w.At n req p → req.key = k → ¬ p.Deciding

/-- No request crashes between its writes, and one that finds its flag in another status has its
key to itself. -/
structure Undisturbed (uuid : Nat → String) (w : FraudDecisionRequests)
    (event : PoolEvent FraudDecisionRequest FraudReviewSurroundings) : Prop where
  crash : ∀ n req p, event = .crash n → w.At n req p → ¬ p.HalfDone
  found : ∀ n env req branchId flag s, event = .advance n env →
    w.At n req (findingFlag branchId) →
    next uuid req env (findingFlag branchId) w.state = some (updatingFlag flag, s) →
    KeyFree w req.key

/-- The flag update, the record and the audit entry of a key: one each, or none. -/
structure DecidedTogether (k : FraudDecisionKey) (s : FraudReviewStore) : Prop where
  updated : s.updated k = if (s.records k).isSome then 1 else 0
  audited : s.audited k = if (s.records k).isSome then 1 else 0

/-- The record is that of a decision, and every retry of the request is answered with it. -/
def Replayed (uuid : Nat → String) (k : FraudDecisionKey) (s : FraudReviewStore) : Prop :=
  ∀ r, s.records k = some r → ∃ (req : FraudDecisionRequest) (item : FraudFlagItem), req.key = k ∧
    r.responseJson = some item ∧ item.flag.status = req.decision.status ∧
    ∀ retry : FraudDecisionRequest, retry.key = k → retry.payload uuid = req.payload uuid →
      start retry = findingRecord ∧
      ∀ env, next uuid retry env findingRecord s = some (answered (.ok item), s)

/-! ### What is kept -/

/-- What is known of a request at its place. -/
def Known (req : FraudDecisionRequest) : DecisionPlace → Prop
  | answered _ => True
  | creatingRecord item => req.normalizedKey ≠ "" ∧ item.flag.status = req.decision.status
  | _ => req.normalizedKey ≠ ""

/-- How far the writes of a key are, where a request under it stands. -/
def Progress (k : FraudDecisionKey) (s : FraudReviewStore) : DecisionPlace → Prop
  | updatingFlag _ => s.records k = none ∧ s.updated k = 0 ∧ s.audited k = 0
  | creatingRecord _ => s.records k = none ∧ s.updated k = 1 ∧ s.audited k = 0
  | recordingAudit _ => s.records k ≠ none ∧ s.updated k = 1 ∧ s.audited k = 0
  | _ => True

/-- What is kept about one key. -/
structure KeyKept (uuid : Nat → String) (k : FraudDecisionKey) (w : FraudDecisionRequests) :
    Prop where
  alone : ∀ n m req req' p p', w.At n req p → w.At m req' p' → req.key = k → req'.key = k →
    p.Deciding → p'.Deciding → n = m
  progress : ∀ n req p, w.At n req p → req.key = k → Progress k w.state p
  together : (∀ n req p, w.At n req p → req.key = k → ¬ p.Deciding) → DecidedTogether k w.state
  replayed : Replayed uuid k w.state

structure Kept (uuid : Nat → String) (w : FraudDecisionRequests) : Prop where
  known : ∀ n req p, w.At n req p → Known req p
  keys : ∀ k, KeyKept uuid k w

variable {uuid : Nat → String} {k : FraudDecisionKey} {w : FraudDecisionRequests}
  {s t : FraudReviewStore} {req : FraudDecisionRequest} {p q : DecisionPlace} {n : Nat}
  {env : FraudReviewSurroundings}

/-- The stores agree about a key. -/
structure SameKey (k : FraudDecisionKey) (s t : FraudReviewStore) : Prop where
  records : t.records k = s.records k
  updated : t.updated k = s.updated k
  audited : t.audited k = s.audited k

lemma SameKey.refl (k : FraudDecisionKey) (s : FraudReviewStore) : SameKey k s s := ⟨rfl, rfl, rfl⟩

lemma SameKey.progress (h : SameKey k s t) (hp : Progress k s p) : Progress k t p := by
  cases p <;> simp only [Progress, h.records, h.updated, h.audited] at * <;> exact hp

lemma SameKey.together (h : SameKey k s t) (hd : DecidedTogether k s) : DecidedTogether k t where
  updated := by rw [h.updated, h.records]; exact hd.updated
  audited := by rw [h.audited, h.records]; exact hd.audited

lemma next_findingRecord_of_record {r : IdempotencyRecord FraudFlagItem} {item : FraudFlagItem}
    (hr : s.records req.key = some r) (hhash : r.requestHash = req.requestHash uuid)
    (hitem : r.responseJson = some item) :
    next uuid req env findingRecord s = some (answered (.ok item), s) := by
  simp [next, hr, replay, hhash, hitem]

lemma Replayed.of_records (h : t.records k = s.records k) (hr : Replayed uuid k s) :
    Replayed uuid k t := by
  intro r hrecord
  rw [h] at hrecord
  obtain ⟨req, item, hkey, hitem, hstatus, hretry⟩ := hr r hrecord
  refine ⟨req, item, hkey, hitem, hstatus, fun retry hk hpayload => ?_⟩
  obtain ⟨hstart, hnext⟩ := hretry retry hk hpayload
  refine ⟨hstart, fun env => ?_⟩
  have hold := hnext env
  simp only [next, hk, hrecord] at hold ⊢
  rw [h, hrecord]
  simp only [Option.some.injEq, Prod.mk.injEq] at hold ⊢
  exact ⟨hold.1, trivial⟩

/-! ### One step -/

/-- What a step from a place does. -/
inductive Stepped (uuid : Nat → String) (req : FraudDecisionRequest) (s : FraudReviewStore) :
    DecisionPlace → DecisionPlace → FraudReviewStore → Prop
  | beside {p q : DecisionPlace} (before : ¬ p.Deciding) (after : ¬ q.Deciding)
      (known : Known req p → Known req q) :
      Stepped uuid req s p q s
  | found {branchId : Option String} {flag : FraudFlagItem} :
      Stepped uuid req s (findingFlag branchId) (updatingFlag flag) s
  | lost {flag : FraudFlagItem} : Stepped uuid req s (updatingFlag flag)
      (answered (.error .missing)) s
  | updated {flag item : FraudFlagItem} {t : FraudReviewStore}
      (status : item.flag.status = req.decision.status)
      (records : t.records = s.records) (audited : t.audited = s.audited)
      (counted : t.updated = Function.update s.updated req.key (s.updated req.key + 1)) :
      Stepped uuid req s (updatingFlag flag) (creatingRecord item) t
  | taken {item : FraudFlagItem} {r : IdempotencyRecord FraudFlagItem}
      (record : s.records req.key = some r) :
      Stepped uuid req s (creatingRecord item) (answered (.error (.unique .idempotencyKey))) s
  | recorded {item : FraudFlagItem} {t : FraudReviewStore} {r : IdempotencyRecord FraudFlagItem}
      (free : s.records req.key = none)
      (records : t.records = Function.update s.records req.key (some r))
      (hash : r.requestHash = req.requestHash uuid) (response : r.responseJson = some item)
      (updated : t.updated = s.updated) (audited : t.audited = s.audited) :
      Stepped uuid req s (creatingRecord item) (recordingAudit item) t
  | audited {item : FraudFlagItem} {t : FraudReviewStore} (records : t.records = s.records)
      (updated : t.updated = s.updated)
      (counted : t.audited = Function.update s.audited req.key (s.audited req.key + 1)) :
      Stepped uuid req s (recordingAudit item) (answered (.ok item)) t

lemma not_deciding_refused {status : Nat} {code message : String} :
    ¬ (refused status code message).Deciding := id

lemma known_of_not_deciding (hq : ¬ q.Deciding) (h : req.normalizedKey ≠ "") : Known req q := by
  cases q with
  | creatingRecord item => exact absurd trivial hq
  | answered r => exact trivial
  | _ => exact h

/-- **What a step can do**, by the place it is taken from. -/
theorem next_stepped (h : next uuid req env p s = some (q, t)) : Stepped uuid req s p q t := by
  cases p with
  | findingRecord =>
      simp only [next] at h
      split at h
      · rename_i existing hrecord
        simp only [Option.some.injEq, Prod.mk.injEq] at h
        obtain ⟨rfl, rfl⟩ := h
        have hafter : ¬ (replay uuid req existing).Deciding := by
          unfold replay
          split
          · exact not_deciding_refused
          · split
            · exact id
            · exact not_deciding_refused
        exact .beside id hafter (known_of_not_deciding hafter)
      · simp only [Option.some.injEq, Prod.mk.injEq] at h
        obtain ⟨rfl, rfl⟩ := h
        have hafter : ¬ (begin req).Deciding := by
          unfold begin
          split <;> exact id
        exact .beside id hafter (known_of_not_deciding hafter)
  | resolvingScope =>
      simp only [next] at h
      split at h <;> simp only [Option.some.injEq, Prod.mk.injEq] at h <;> obtain ⟨rfl, rfl⟩ := h
      · exact .beside id id (known_of_not_deciding id)
      · exact .beside id id (known_of_not_deciding id)
  | findingFlag branchId =>
      simp only [next] at h
      split at h
      · simp only [Option.some.injEq, Prod.mk.injEq] at h
        obtain ⟨rfl, rfl⟩ := h
        exact .beside id not_deciding_refused (known_of_not_deciding not_deciding_refused)
      · split at h <;> simp only [Option.some.injEq, Prod.mk.injEq] at h <;> obtain ⟨rfl, rfl⟩ := h
        · exact .beside id id (known_of_not_deciding id)
        · exact .found
  | updatingFlag flag =>
      simp only [next] at h
      split at h <;> simp only [Option.some.injEq, Prod.mk.injEq] at h <;> obtain ⟨rfl, rfl⟩ := h
      · exact .lost
      · exact .updated rfl rfl rfl rfl
  | creatingRecord item =>
      simp only [next] at h
      split at h
      · rename_i r hrecord
        simp only [Option.some.injEq, Prod.mk.injEq] at h
        obtain ⟨rfl, rfl⟩ := h
        exact .taken hrecord
      · rename_i hfree
        simp only [Option.some.injEq, Prod.mk.injEq] at h
        obtain ⟨rfl, rfl⟩ := h
        exact .recorded hfree rfl rfl rfl rfl rfl
  | recordingAudit item =>
      simp only [next, Option.some.injEq, Prod.mk.injEq] at h
      obtain ⟨rfl, rfl⟩ := h
      exact .audited rfl rfl rfl
  | answered r => simp [next] at h

lemma Stepped.sameKey (h : Stepped uuid req s p q t) (hk : req.key ≠ k) : SameKey k s t := by
  cases h with
  | beside | found | lost | taken => exact .refl k s
  | updated _ hrecords haudited hcounted =>
      exact ⟨by rw [hrecords], by rw [hcounted, Function.update_of_ne (Ne.symm hk)],
        by rw [haudited]⟩
  | recorded _ hrecords _ _ hupdated haudited =>
      exact ⟨by rw [hrecords, Function.update_of_ne (Ne.symm hk)], by rw [hupdated],
        by rw [haudited]⟩
  | audited hrecords hupdated hcounted =>
      exact ⟨by rw [hrecords], by rw [hupdated],
        by rw [hcounted, Function.update_of_ne (Ne.symm hk)]⟩

lemma Stepped.known (h : Stepped uuid req s p q t) (hp : Known req p) : Known req q := by
  cases h with
  | beside _ _ hknown => exact hknown hp
  | updated hstatus => exact ⟨hp, hstatus⟩
  | recorded => exact hp.1
  | found => exact hp
  | _ => exact trivial

/-- What a step under a key does for that key, where the request is alone with it. -/
lemma Stepped.own (h : Stepped uuid req s p q t) (hknown : Known req p)
    (hprogress : Progress req.key s p) (hreplayed : Replayed uuid req.key s)
    (hfound : ∀ flag, q = updatingFlag flag → s.records req.key = none ∧
      DecidedTogether req.key s) :
    Progress req.key t q ∧ Replayed uuid req.key t ∧
      (p.Deciding → ¬ q.Deciding → DecidedTogether req.key t) := by
  cases h with
  | beside hbefore hafter =>
      refine ⟨?_, hreplayed, fun hp => absurd hp hbefore⟩
      cases q with
      | updatingFlag | creatingRecord | recordingAudit => exact absurd trivial hafter
      | _ => exact trivial
  | @found _ flag =>
      obtain ⟨hnone, htogether⟩ := hfound flag rfl
      have hupdated := htogether.updated
      have haudited := htogether.audited
      rw [hnone] at hupdated haudited
      exact ⟨⟨hnone, hupdated, haudited⟩, hreplayed, fun hp => hp.elim⟩
  | lost =>
      obtain ⟨hnone, hupdated, haudited⟩ := hprogress
      refine ⟨trivial, hreplayed, fun _ _ => ⟨?_, ?_⟩⟩
      · rw [hnone, hupdated]
        rfl
      · rw [hnone, haudited]
        rfl
  | updated _ hrecords haudited hcounted =>
      obtain ⟨hnone, hzero, hzero'⟩ := hprogress
      refine ⟨⟨by rw [hrecords, hnone], ?_, by rw [haudited, hzero']⟩, ?_, fun _ hq => ?_⟩
      · rw [hcounted, Function.update_self, hzero]
      · intro r hr
        rw [hrecords, hnone] at hr
        cases hr
      · exact absurd trivial hq
  -- no other process takes the key while this one is deciding
  | taken hrecord =>
      obtain ⟨hnone, -⟩ := hprogress
      rw [hnone] at hrecord
      cases hrecord
  | @recorded item _ r _ hrecords hhash hresponse hupdated haudited =>
      obtain ⟨-, hone, hzero⟩ := hprogress
      obtain ⟨hkey, hstatus⟩ := hknown
      have hself : t.records req.key = some r := by rw [hrecords, Function.update_self]
      refine ⟨⟨?_, by rw [hupdated, hone], by rw [haudited, hzero]⟩, ?_, fun _ hq => ?_⟩
      · rw [hself]
        exact Option.some_ne_none r
      · intro r' hr'
        obtain rfl := Option.some.inj (hself.symm.trans hr')
        refine ⟨req, item, rfl, hresponse, hstatus, fun retry hk hpayload => ⟨?_, fun env => ?_⟩⟩
        · have hname : retry.normalizedKey = req.normalizedKey :=
            congrArg FraudDecisionKey.idempotencyKey hk
          unfold start
          rw [hname, if_neg hkey]
        · refine next_findingRecord_of_record (by rw [hk]; exact hself) ?_ hresponse
          rw [hhash, FraudDecisionRequest.requestHash, FraudDecisionRequest.requestHash, hpayload]
      · exact absurd trivial hq
  | audited hrecords hupdated hcounted =>
      obtain ⟨hsome, hone, hzero⟩ := hprogress
      have hisSome : (t.records req.key).isSome = true := by
        rw [hrecords]
        exact Option.isSome_iff_ne_none.2 hsome
      refine ⟨trivial, hreplayed.of_records (by rw [hrecords]), fun _ _ => ⟨?_, ?_⟩⟩
      · rw [hisSome, hupdated, hone]
        rfl
      · rw [hisSome, hcounted, Function.update_self, hzero]
        rfl

lemma Stepped.deciding (h : Stepped uuid req s p q t) (hq : q.Deciding) :
    p.Deciding ∨ ∃ branchId flag, p = findingFlag branchId ∧ q = updatingFlag flag := by
  cases h with
  | beside _ hafter => exact absurd hq hafter
  | @found branchId flag => exact .inr ⟨branchId, flag, rfl, rfl⟩
  | updated | recorded => exact .inl trivial
  | lost | taken | audited => exact hq.elim

lemma Stepped.kept (h : Stepped uuid req s p q t) (hp : ¬ p.Deciding) : t = s := by
  cases h with
  | beside | found => rfl
  | _ => exact absurd trivial hp

lemma progress_of_not_deciding (hp : ¬ p.Deciding) : Progress k s p := by
  cases p with
  | updatingFlag | creatingRecord | recordingAudit => exact absurd trivial hp
  | _ => exact trivial

lemma not_deciding_start : ¬ (start req).Deciding := by
  unfold start
  split <;> exact id

lemma known_start : Known req (start req) := by
  unfold start
  split
  · exact trivial
  · rename_i hkey
    exact hkey

/-! ### Every step -/

lemma Kept.started (h : Kept uuid w) (req : FraudDecisionRequest) :
    Kept uuid ⟨w.state, w.tasks ++ [(req, some (start req))]⟩ where
  known := by
    intro j l q hj
    obtain hj | ⟨-, rfl, rfl⟩ := hj.of_start
    · exact h.known j l q hj
    · exact known_start
  keys := by
    intro k
    have hk := h.keys k
    refine ⟨fun i j l l' q q' hi hj hl hl' hq hq' => ?_, fun j l q hj hl => ?_, fun hidle => ?_,
      hk.replayed⟩
    · obtain hi | ⟨-, rfl, rfl⟩ := hi.of_start
      · obtain hj | ⟨-, rfl, rfl⟩ := hj.of_start
        · exact hk.alone i j l l' q q' hi hj hl hl' hq hq'
        · exact absurd hq' not_deciding_start
      · exact absurd hq not_deciding_start
    · obtain hj | ⟨-, rfl, rfl⟩ := hj.of_start
      · exact hk.progress j l q hj hl
      · exact progress_of_not_deciding not_deciding_start
    · exact hk.together fun j l q hj hl => hidle j l q hj.started hl

/-- The key of the request that goes on. -/
lemma Kept.advanced_own (h : Kept uuid w) (hat : w.At n req p)
    (hstep : Stepped uuid req w.state p q t)
    (hfree : ∀ branchId flag, p = findingFlag branchId → q = updatingFlag flag →
      KeyFree w req.key) :
    KeyKept uuid req.key ⟨t, w.tasks.set n (req, some q)⟩ := by
  have hk := h.keys req.key
  have hfound : ∀ flag, q = updatingFlag flag → ¬ p.Deciding → KeyFree w req.key := by
    intro flag hq hp
    obtain hp' | ⟨branchId, flag', hp', hq'⟩ := hstep.deciding (by rw [hq]; trivial)
    · exact absurd hp' hp
    · exact hfree branchId flag' hp' hq'
  have hown := hstep.own (h.known n req p hat) (hk.progress n req p hat rfl) hk.replayed (by
    intro flag hq
    have hp : ¬ p.Deciding := by
      intro hp
      subst hq
      cases hstep with
      | beside _ hafter => exact hafter trivial
      | found => exact hp
    obtain ⟨hnone, hidle⟩ := hfound flag hq hp
    exact ⟨hnone, hk.together hidle⟩)
  -- no other request under the key decides along with this one
  have hothers : q.Deciding → ∀ j l q', j ≠ n → w.At j l q' → l.key = req.key → ¬ q'.Deciding := by
    intro hq j l q' hne hj hl hq'
    obtain hp | ⟨branchId, flag, hp, hqf⟩ := hstep.deciding hq
    · exact hne (hk.alone j n l req q' p hj hat hl rfl hq' hp)
    · exact (hfree branchId flag hp hqf).2 j l q' hj hl hq'
  refine ⟨fun i j l l' q₁ q₂ hi hj hl hl' hq₁ hq₂ => ?_, fun j l q' hj hl => ?_, fun hidle => ?_,
    hown.2.1⟩
  · obtain ⟨rfl, rfl, rfl⟩ | ⟨hine, hi'⟩ := hi.of_advance
    · obtain ⟨rfl, -⟩ | ⟨hjne, hj'⟩ := hj.of_advance
      · rfl
      · exact absurd hq₂ (hothers hq₁ j l' q₂ hjne hj' hl')
    · obtain ⟨rfl, rfl, rfl⟩ | ⟨hjne, hj'⟩ := hj.of_advance
      · exact absurd hq₁ (hothers hq₂ i l q₁ hine hi' hl)
      · exact hk.alone i j l l' q₁ q₂ hi' hj' hl hl' hq₁ hq₂
  · obtain ⟨rfl, rfl, rfl⟩ | ⟨hjne, hj'⟩ := hj.of_advance
    · exact hown.1
    · by_cases hp : p.Deciding
      · by_cases hq' : q'.Deciding
        · exact absurd (hk.alone j n l req q' p hj' hat hl rfl hq' hp) hjne
        · exact progress_of_not_deciding hq'
      · obtain rfl := hstep.kept hp
        exact hk.progress j l q' hj' hl
  · have hq : ¬ q.Deciding := hidle n req q hat.advanced rfl
    by_cases hp : p.Deciding
    · exact hown.2.2 hp hq
    · obtain rfl := hstep.kept hp
      refine hk.together fun j l q' hj hl => ?_
      by_cases hjn : j = n
      · subst hjn
        obtain ⟨rfl, rfl⟩ := hj.inj hat
        exact hp
      · exact hidle j l q' (hj.other hjn) hl

lemma Kept.advanced_other (h : Kept uuid w) (hat : w.At n req p)
    (hstep : Stepped uuid req w.state p q t) (hne : req.key ≠ k) :
    KeyKept uuid k ⟨t, w.tasks.set n (req, some q)⟩ := by
  have hk := h.keys k
  have hsame := hstep.sameKey hne
  have hold : ∀ {j l q'}, (⟨t, w.tasks.set n (req, some q)⟩ : FraudDecisionRequests).At j l q' →
      l.key = k → w.At j l q' := by
    intro j l q' hj hl
    obtain ⟨-, rfl, -⟩ | ⟨-, hj⟩ := hj.of_advance
    · exact absurd hl hne
    · exact hj
  refine ⟨fun i j l l' q₁ q₂ hi hj hl hl' hq₁ hq₂ => ?_, fun j l q' hj hl => ?_, fun hidle => ?_,
    hk.replayed.of_records hsame.records⟩
  · exact hk.alone i j l l' q₁ q₂ (hold hi hl) (hold hj hl') hl hl' hq₁ hq₂
  · exact hsame.progress (hk.progress j l q' (hold hj hl) hl)
  · refine hsame.together (hk.together fun j l q' hj hl => ?_)
    have hjn : j ≠ n := by
      rintro rfl
      obtain ⟨rfl, -⟩ := hj.inj hat
      exact hne hl
    exact hidle j l q' (hj.other hjn) hl

lemma Kept.crashed (h : Kept uuid w) (hat : w.At n req p) (hp : ¬ p.HalfDone) :
    Kept uuid ⟨w.state, w.tasks.set n (req, none)⟩ where
  known := by
    intro j l q hj
    exact h.known j l q hj.of_crash.2
  keys := by
    intro k
    have hk := h.keys k
    refine ⟨fun i j l l' q q' hi hj => hk.alone i j l l' q q' hi.of_crash.2 hj.of_crash.2,
      fun j l q hj => hk.progress j l q hj.of_crash.2, fun hidle => ?_, hk.replayed⟩
    by_cases hdeciding : req.key = k ∧ p.Deciding
    · -- it had written nothing
      obtain ⟨rfl, hp'⟩ := hdeciding
      have hprogress := hk.progress n req p hat rfl
      cases p with
      | updatingFlag flag =>
          obtain ⟨hnone, hupdated, haudited⟩ := hprogress
          exact ⟨by rw [hnone, hupdated]; rfl, by rw [hnone, haudited]; rfl⟩
      | creatingRecord | recordingAudit => exact absurd trivial hp
      | _ => exact hp'.elim
    · refine hk.together fun j l q hj hl hq => ?_
      by_cases hjn : j = n
      · subst hjn
        obtain ⟨rfl, rfl⟩ := hj.inj hat
        exact hdeciding ⟨hl, hq⟩
      · exact hidle j l q (hj.other hjn) hl hq

lemma Kept.step {event : PoolEvent FraudDecisionRequest FraudReviewSurroundings}
    {w' : FraudDecisionRequests} (h : Kept uuid w) (hfair : Undisturbed uuid w event)
    (hstep : w.step (decideFraudFlag uuid) event = some w') : Kept uuid w' := by
  obtain ⟨req, -, rfl⟩ | ⟨n, env, req, p, ⟨q, t⟩, rfl, hat, hnext, rfl⟩ |
    ⟨n, req, p, rfl, hat, rfl⟩ := step_cases hstep
  · exact h.started req
  · have hstepped := next_stepped hnext
    constructor
    · intro j l q' hj
      obtain ⟨rfl, rfl, rfl⟩ | ⟨-, hj⟩ := hj.of_advance
      · exact hstepped.known (h.known j l p hat)
      · exact h.known j l q' hj
    · intro k
      by_cases hk : req.key = k
      · subst hk
        refine h.advanced_own hat hstepped fun branchId flag hp hq => ?_
        subst hp hq
        exact hfair.found n env req branchId flag t rfl hat hnext
      · exact h.advanced_other hat hstepped hk
  · exact h.crashed hat (hfair.crash n req p rfl hat)

lemma Kept.initial (flags : Table ReviewedFlag) :
    Kept uuid (Crew.initial (.undecided flags)) where
  known _ _ _ hat := absurd hat not_at_initial
  keys _ :=
    { alone := fun _ _ _ _ _ _ hat => absurd hat not_at_initial
      progress := fun _ _ _ hat => absurd hat not_at_initial
      together := fun _ => ⟨rfl, rfl⟩
      replayed := fun _ hr => nomatch hr }

/-- **Decisions on fraud flags come whole and are replayed**, in every run in which no request
crashes between its writes and one that is about to decide has its key to itself. -/
theorem decideFraudFlag_whole (uuid : Nat → String) (flags : Table ReviewedFlag)
    (w : FraudDecisionRequests)
    (hrun : StepsUnder (decideFraudFlag uuid) (Undisturbed uuid)
      (Crew.initial (.undecided flags)) w) (k : FraudDecisionKey)
    (hidle : ∀ n req p, w.At n req p → req.key = k → ¬ p.Deciding) :
    DecidedTogether k w.state ∧ Replayed uuid k w.state := by
  have hkept : Kept uuid w := hrun.invariant
    (fun hfair hkept hstep => hkept.step hfair hstep) (Kept.initial flags)
  exact ⟨(hkept.keys k).together hidle, (hkept.keys k).replayed⟩

/-! ### Runs of one flag -/

instance : DecidablePred Deciding
  | updatingFlag _ | creatingRecord _ | recordingAudit _ => .isTrue trivial
  | findingRecord | resolvingScope | findingFlag _ | answered _ => .isFalse id

namespace Shop

/-- An open flag for repeated reversals. -/
def raisedFlag : ReviewedFlag where
  ruleCode := .FR_REV_001
  severity := .HIGH
  dedupeKey := "FR-REV-001:cashier"
  subjectType := .LEDGER_ENTRY
  subjectId := "reversal"
  windowStart := 1700000000000
  windowEnd := none
  branchId := some "branch"
  cashierId := some "cashier"
  customerId := none
  receiptId := none
  redemptionId := none
  evidence := .object []
  tenantId := "tenant"
  status := .OPEN
  firstDetectedAt := 1700000000000
  lastDetectedAt := 1700000000000
  occurrenceCount := 1
  decisionReason := none
  decisionActorId := none
  decidedAt := none

/-- The administrator resolves the first flag. -/
def resolveFlag : FraudDecisionRequest :=
  ⟨⟨"administrator", "tenant", none, .ADMIN, none⟩, 0, .RESOLVED, "checked", some "r1"⟩

def reviewTime : FraudReviewSurroundings := ⟨1700000000000, fun _ => none⟩

/-- A request that finds its flag in another status is the first one. -/
def firstRequest (w : FraudDecisionRequests)
    (event : PoolEvent FraudDecisionRequest FraudReviewSurroundings) : Bool :=
  match event with
  | .start _ => w.tasks.isEmpty
  | .advance _ _ => w.tasks.length = 1 ∧ ∀ a ∈ w.tasks, a.2.all fun
    | findingFlag _ => (w.state.records a.1.key).isNone
    | _ => true
  | .crash _ => false

end Shop

lemma undisturbed_of_firstRequest {uuid : Nat → String} {w : FraudDecisionRequests}
    {event : PoolEvent FraudDecisionRequest FraudReviewSurroundings}
    (h : Shop.firstRequest w event = true) : Undisturbed uuid w event := by
  constructor
  · rintro n req p rfl
    simp [Shop.firstRequest] at h
  · rintro n env req branchId flag s rfl hat -
    simp only [Shop.firstRequest, decide_eq_true_eq, List.length_eq_one_iff] at h
    obtain ⟨⟨a, ha⟩, hfree⟩ := h
    have honly : ∀ {j l q}, w.At j l q → a = (l, some q) := by
      intro j l q hj
      have hmem := List.mem_of_getElem? hj
      rw [ha, List.mem_singleton] at hmem
      exact hmem.symm
    obtain rfl := honly hat
    refine ⟨?_, fun j l q hj _ => ?_⟩
    · have hnone := hfree _ (List.mem_of_getElem? hat)
      simpa using hnone
    · have heq := honly hj
      simp only [Prod.mk.injEq, Option.some.injEq] at heq
      rw [← heq.2]
      exact id

/-- The administrator resolves a flag, with nobody else about. -/
theorem decideFraudFlag_whole_resolved :
    ∃ w : FraudDecisionRequests, StepsUnder (decideFraudFlag toString) (Undisturbed toString)
        (Crew.initial (.undecided [Shop.raisedFlag])) w ∧
      w.state.flags.map (·.status) = [.RESOLVED] ∧ w.state.updated Shop.resolveFlag.key = 1 ∧
      DecidedTogether Shop.resolveFlag.key w.state ∧
      Replayed toString Shop.resolveFlag.key w.state := by
  have hmap : ((Crew.initial (.undecided [Shop.raisedFlag]) : FraudDecisionRequests).runChecked
      (decideFraudFlag toString) Shop.firstRequest
      (.start Shop.resolveFlag :: List.replicate 6 (.advance 0 Shop.reviewTime))).map (fun w =>
        (w.state.flags.map (·.status), w.state.updated Shop.resolveFlag.key,
          w.tasks.all fun a => a.2.all fun p => decide ¬ p.Deciding)) =
      some ([.RESOLVED], 1, true) := by
    decide +kernel
  obtain ⟨w, hw, hfacts⟩ := Option.map_eq_some_iff.1 hmap
  simp only [Prod.mk.injEq] at hfacts
  obtain ⟨hstatus, hone, hall⟩ := hfacts
  have hrun : StepsUnder (decideFraudFlag toString) (Undisturbed toString)
      (Crew.initial (.undecided [Shop.raisedFlag])) w :=
    .of_runChecked (fun _ _ h => undisturbed_of_firstRequest h) hw
  have hidle : ∀ n req p, w.At n req p → req.key = Shop.resolveFlag.key → ¬ p.Deciding := by
    intro n req p hat _
    have hp := List.all_eq_true.1 hall _ (List.mem_of_getElem? hat)
    simpa using hp
  exact ⟨w, hrun, hstatus, hone, decideFraudFlag_whole toString [Shop.raisedFlag] w hrun _ hidle⟩

/-- A crash right after the flag was updated: the flag stays resolved, with no record and no audit
entry. -/
theorem decideFraudFlag_torn :
    ∃ w : FraudDecisionRequests, Steps (decideFraudFlag toString)
        (Crew.initial (.undecided [Shop.raisedFlag])) w ∧
      (∀ n req p, w.At n req p → ¬ p.Deciding) ∧
      w.state.flags.map (·.status) = [.RESOLVED] ∧ w.state.updated Shop.resolveFlag.key = 1 ∧
      (w.state.records Shop.resolveFlag.key).isNone ∧ w.state.audits = [] ∧
      ¬ DecidedTogether Shop.resolveFlag.key w.state := by
  have hmap : ((Crew.initial (.undecided [Shop.raisedFlag]) : FraudDecisionRequests).runChecked
      (decideFraudFlag toString) (fun _ _ => true)
      (.start Shop.resolveFlag :: List.replicate 4 (.advance 0 Shop.reviewTime) ++
        [.crash 0])).map (fun w =>
        (w.tasks.all fun a => a.2.isNone, w.state.flags.map (·.status),
          w.state.updated Shop.resolveFlag.key, (w.state.records Shop.resolveFlag.key).isNone,
          w.state.audits)) =
      some (true, [.RESOLVED], 1, true, []) := by
    decide +kernel
  obtain ⟨w, hw, hfacts⟩ := Option.map_eq_some_iff.1 hmap
  simp only [Prod.mk.injEq] at hfacts
  obtain ⟨hgone, hstatus, hone, hnone, haudits⟩ := hfacts
  refine ⟨w, .of_runChecked (fun _ _ _ => trivial) hw, fun n req p hat => ?_, hstatus, hone, hnone,
    haudits, fun htogether => ?_⟩
  · have hp := List.all_eq_true.1 hgone _ (List.mem_of_getElem? hat)
    simp at hp
  · have hupdated := htogether.updated
    rw [hone, Option.isNone_iff_eq_none.1 hnone] at hupdated
    simp at hupdated

end ShopcityLoyalty
