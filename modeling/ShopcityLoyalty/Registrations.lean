import ShopcityLoyalty.Invariants

/-!
The registry in a run: only its administration changes it.
-/

namespace ShopcityLoyalty

open Database

section operations

variable {rt : Runtime} {now finishedAt : Int} {s t : Database}

lemma Settled.registry {input : RedemptionSettlementInput} {k : PositiveKobo} {r : Redemption}
    {rows : List RedemptionAllocation} {m w : Database} {res : RedemptionSettlementResult}
    (h : Settled input k r rows m w res s t) : t.registry = s.registry := by
  rw [h.rest]

lemma TargetExpired.registry {tenantId : String} {actor : Option StaffRef} {target : ApprovalTarget}
    {receiptId : Option Nat} (h : TargetExpired tenantId now actor s target receiptId t) :
    t.registry = s.registry := by
  cases h <;> rfl

lemma ApprovalExpired.registry {i : Nat} {a : Approval} {tenantId : String}
    {target : ApprovalTarget}
    {receiptId : Option Nat} {actor : Option StaffRef} {m : Database}
    (h : ApprovalExpired i a tenantId target receiptId now actor m s t) :
    t.registry = s.registry := by
  have hm : m.registry = s.registry := h.target.registry
  rw [h.frame]
  exact hm

lemma Lapsed.registry (h : Relation.ReflTransGen (Lapsed now) s t) : t.registry = s.registry := by
  induction h with
  | refl => rfl
  | tail _ hlast ih =>
      obtain ⟨i, a, m, hx⟩ := hlast
      exact hx.registry.trans ih

lemma LoyaltyService.TargetDecided.registry {req : DecisionRequest} {a : Approval}
    {res : DecisionResult} (h : TargetDecided rt req a now s t res) : t.registry = s.registry := by
  cases h with
  | earn _ h =>
      cases h with
      | expired h =>
          obtain ⟨m, hx⟩ := h.expired
          exact hx.registry
      | rejected h => rw [h.frame]
      | executed h => rw [h.frame]
  | redeem _ _ _ h =>
      cases h with
      | expired h =>
          obtain ⟨m, hx⟩ := h.expired
          exact hx.registry
      | rejected h => rw [h.frame]
      | @executed r k rows x v m u w h =>
          have hv : v.registry = s.registry := by rw [h.approved]
          rw [h.frame]
          exact h.settlement.registry.trans hv

lemma ReversalsService.ReverseCommitted.registry {input : ReversalInput} {o : LoyaltyLedgerEntry}
    {existing : Option Response} {res : Response}
    (h : ReverseCommitted input o now finishedAt existing s t res) : t.registry = s.registry := by
  cases h with
  | credit _ _ _ h => rw [h.completed, h.compensated.frame]
  | debit _ _ _ h => rw [h.completed, h.marked.frame, h.restored.frame]
  | pair _ _ _ h =>
      cases h with
      | reversed _ h =>
          rw [h.completed, h.marked.frame, h.restored.frame, h.compensated.frame]
      | replayed hs _ _ => rw [hs]
  | replayed _ _ hs => rw [hs]

/-- An operation other than an administration leaves the registry as it is. -/
lemma Outcome.registry {op : Op} (h : Outcome rt s t op) :
    t.registry = s.registry ∨ s.registry.Keeps t.registry ∧
      ∃ registry, op = .administer registry := by
  cases h with
  | earn _ h => left; cases h with
      | pending h => rw [h.frame]
      | credited h => rw [h.frame]
  | redeem _ h => left; cases h with
      | pending h => rw [h.frame]
      | @settled k r rows x v m u w h =>
          have hv : v.registry = s.registry := by rw [h.captured]
          rw [h.frame]
          exact h.settlement.registry.trans hv
  | @decide _ _ _ _ _ v _ hv hdec h =>
      have hsv : v.registry = s.registry := by rw [hv]
      exact .inl (h.registry.trans hsv)
  | @reverse _ _ _ _ _ v _ _ hopen hsel h =>
      have hsv : v.registry = s.registry := by cases hopen <;> rfl
      exact .inl (h.registry.trans hsv)
  | adjust _ h => left; cases h with
      | credit h => rw [h.frame]
      | debit h => rw [h.frame]
  | expireCredit h => left; rw [h.frame]
  | expireApprovals h => exact .inl (Lapsed.registry h)
  | completeDecision _ h => exact .inl h
  | cleanup _ h => exact .inl h
  | cleanupAnyEndpoint _ h => exact .inl h
  | recordDuplicate _ h => exact .inl h
  | administer _ h => exact .inr ⟨h, _, rfl⟩

end operations

/-- A run without administration ends with the registry it began with. -/
lemma System.runAll_registry {rt : Runtime} {s t : System} {ops : List Op} (hs : Invariants s.db)
    (hrun : s.runAll rt ops = .ok t) (hops : ∀ op ∈ ops, ∀ registry, op ≠ .administer registry) :
    t.db.registry = s.db.registry := by
  induction ops generalizing s with
  | nil =>
      obtain rfl : s = t := Except.ok.inj hrun
      rfl
  | cons op ops ih =>
      have hop := hops op List.mem_cons_self
      have hrun' : (s.run rt op).bind (fun u => u.runAll rt ops) = .ok t := hrun
      cases hu : s.run rt op with
      | error e => rw [hu] at hrun'; cases hrun'
      | ok u =>
          rw [hu] at hrun'
          have hstep : Step rt op s u := ⟨hu, by
            cases op with
            | administer registry => exact absurd rfl (hop registry)
            | _ => trivial⟩
          have hout := hstep.outcome hs.books.sound
          have hsame : u.db.registry = s.db.registry := by
            rcases hout.registry with hsame | ⟨-, registry, hadm⟩
            · exact hsame
            · exact absurd hadm (hop registry)
          exact (ih (hs.outcome hout) hrun' fun o ho => hops o (.tail _ ho)).trans hsame

end ShopcityLoyalty
