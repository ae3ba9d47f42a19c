import ShopcityLoyalty.Invariants

/-!
Approvals, their receipts, their redemptions and the ledger as one state machine: where an
approval can be found, that a decision is final, and that a pending approval can always
expire.
-/

namespace ShopcityLoyalty

open Txn Database

/-! ### Decisions are final -/

lemma Move.decided_kept {s t : Database} (h : Move s t) {i : Nat} {a : Approval}
    (ha : s.approvals[i]? = some a) (hp : a.status ≠ .PENDING) : t.approvals[i]? = some a := by
  cases h with
  | captured h =>
      rw [h.approvals]
      exact Table.getElem?_append ha
  | @decided j a₀ _ _ _ _ _ h =>
      rw [h.approvals]
      by_cases hij : j = i
      · subst hij
        have heq : a₀ = a := Option.some.inj (h.approval.symm.trans ha)
        exact absurd (heq ▸ h.pending) hp
      · rwa [List.getElem?_set_ne hij]
  | unreceipted h => rwa [h.approvals]

lemma moves_decided_kept {s t : Database} (h : Relation.ReflTransGen Move s t) {i : Nat}
    {a : Approval} (ha : s.approvals[i]? = some a) (hp : a.status ≠ .PENDING) :
    t.approvals[i]? = some a := by
  induction h with
  | refl => exact ha
  | tail _ hm ih => exact hm.decided_kept ih hp

/-! ### A pending approval can expire -/

section expiry

variable {rt : Runtime} {s : Database} {a : Approval} {k : Nat} {r : Receipt} {now : Int}
  {actor : Option StaffRef}

lemma OnFile.rejects (h : OnFile s a k r) (hp : a.status = .PENDING) (as : Table Approval) :
    rejectExpiredReceipt k a.tenantId now actor { s with approvals := as } =
      .ok ((), { s with
        approvals := as, receipts := s.receipts.set k (rejectedRow now actor r) }) := by
  have hfiled := h.filed
  rw [hp] at hfiled
  obtain ⟨hreview, -, -⟩ := hfiled.of_pending
  simp only [rejectExpiredReceipt, bind_ok, get_ok, requireRow_ok, modifyReceipt_ok]
  refine ⟨_, _, ⟨rfl, rfl⟩, (), _, ⟨⟨r, h.receipt, ?_⟩, rfl⟩, r, h.receipt, rfl⟩
  exact ⟨h.tenantId, h.captureStatus, hreview⟩

/-- What is left to expire with it: nothing, or its redemption. -/
lemma OnFile.expireTarget_ok (h : OnFile s a k r) (hd : Desk s) (hp : a.status = .PENDING)
    (as : Table Approval) :
    ∃ t, expireTarget a.tenantId a.target (redemptionReceiptId s a.tenantId a.target) now actor
      { s with approvals := as } = .ok ((), t) := by
  have hsubject := h.subject
  cases htarget : a.target with
  | EARN receiptId =>
      rw [htarget] at hsubject
      obtain rfl : receiptId = k := Option.some.inj hsubject
      exact ⟨_, h.rejects hp as⟩
  | REDEEM redemptionId =>
      rw [htarget] at hsubject
      obtain ⟨d, hrow, rfl⟩ := Option.map_eq_some_iff.1 hsubject
      have hten : d.tenantId = a.tenantId :=
        h.redemption_tenantId d (by rw [htarget]; exact hrow)
      have hwait : d.status = .PENDING_APPROVAL := by
        have hfiled := h.filed
        rw [hp, htarget] at hfiled
        obtain ⟨-, -, hstatus⟩ := hfiled.of_pending
        simpa [Database.redemptionOf, hrow] using hstatus
      have hreceipt : redemptionReceiptId s a.tenantId (.REDEEM redemptionId) =
          some d.receiptId := by
        simp [redemptionReceiptId, hrow, hten]
      have hcheck : (expiredRedemptionRow now d).stateMachineCheck := by
        have hc := (hd.redemption d (List.mem_of_getElem? hrow)).1
        simp only [Redemption.stateMachineCheck, hwait] at hc
        simp [Redemption.stateMachineCheck, expiredRedemptionRow, hc.1, hc.2.1]
      rw [hreceipt]
      simp only [expireTarget, bind_ok, expireRedemption, get_ok, requireRow_ok,
        modifyRedemption_ok]
      refine ⟨_, (), _, h.rejects hp as, _, _, ⟨rfl, rfl⟩, (), _, ⟨⟨d, hrow, hten, hwait⟩, rfl⟩, d,
        hrow, hcheck, rfl⟩

/-- **A pending approval can always expire**: no row it belongs to stands in the way. -/
theorem Desk.expireApproval_ok (hd : Desk s) {i : Nat} (ha : s.approvals[i]? = some a)
    (hp : a.status = .PENDING) (detectedBy : Option StaffRef) :
    ∃ t, expireApproval rt i a.tenantId a.target (redemptionReceiptId s a.tenantId a.target) now
      actor detectedBy s = .ok ((), t) := by
  obtain ⟨k, r, hfile⟩ := hd.file ha
  have hcheck : (expiredRow now actor a).stateMachineCheck := by
    have hc := hd.approval a (List.mem_of_getElem? ha)
    simp only [Approval.stateMachineCheck, hp] at hc
    simp [Approval.stateMachineCheck, expiredRow, hc.2.2.2]
  obtain ⟨m, hm⟩ := hfile.expireTarget_ok hd hp (s.approvals.set i (expiredRow now actor a))
  simp only [expireApproval, expireApprovalRow, bind_ok, get_ok, requireRow_ok, modifyApproval_ok,
    recordAudit_ok]
  exact ⟨_, (), _, ⟨s, s, ⟨rfl, rfl⟩, (), s, ⟨⟨a, ha, rfl, hp⟩, rfl⟩, a, ha, hcheck, rfl⟩, (), m,
    hm,
    rfl⟩

end expiry

/-! ### Reachable states -/

variable {rt : Runtime} {s t : System}

/-- What the rows of an approval look like, and what can become of it. -/
structure ApprovalStates (rt : Runtime) (s : System) : Prop where
  filed : ∀ {i : Nat} {a}, s.db.approvals[i]? = some a → ∃ receiptId r, OnFile s.db a receiptId r
  final : ∀ {t : System} {i : Nat} {a}, Steps rt s t → s.db.approvals[i]? = some a →
    a.status ≠ .PENDING → t.db.approvals[i]? = some a
  expires : ∀ {i : Nat} {a}, s.db.approvals[i]? = some a → a.status = .PENDING →
    ∀ (now : Int) (actor detectedBy : Option StaffRef), ∃ t,
      expireApproval rt i a.tenantId a.target (redemptionReceiptId s.db a.tenantId a.target) now
        actor detectedBy s.db = .ok ((), t)

lemma Steps.decided_kept (hs : Invariants s.db) (h : Steps rt s t) {i : Nat} {a : Approval}
    (ha : s.db.approvals[i]? = some a) (hp : a.status ≠ .PENDING) :
    t.db.approvals[i]? = some a := by
  have hkept : ∀ {u v : System} {op : Op}, Invariants u.db ∧ u.db.approvals[i]? = some a →
      Step rt op u v → Invariants v.db ∧ v.db.approvals[i]? = some a := by
    intro u v op ⟨hu, hau⟩ hstep
    have hout := hstep.outcome hu.books.sound
    exact ⟨hu.outcome hout, moves_decided_kept (hout.moves hu.desk) hau hp⟩
  exact (h.invariant (I := fun u => Invariants u.db ∧ u.db.approvals[i]? = some a)
    (fun _ hu hstep => hkept hu hstep) ⟨hs, ha⟩).2

/-- **The joint state machine** of approvals, receipts, redemptions and the ledger. -/
theorem approval_states (hs : Reachable rt s) : ApprovalStates rt s where
  filed := hs.invariants.desk.file
  final hrun := hrun.decided_kept hs.invariants
  expires ha hp _ _ detectedBy := hs.invariants.desk.expireApproval_ok ha hp detectedBy

/-- A purchase that waits for approval. -/
theorem approval_states_shop :
    ∃ s, Shop.opened.runAll Shop.runtime [Shop.earn "k1" 30000000] = .ok s ∧
      ApprovalStates Shop.runtime s := by
  obtain ⟨s, hrun, hs⟩ := Reachable.of_runAll Shop.runtime Shop.registry
    [Shop.earn "k1" 30000000] (by decide +kernel) (by simp [Shop.earn, Op.Admissible])
  exact ⟨s, hrun, approval_states hs⟩

end ShopcityLoyalty
