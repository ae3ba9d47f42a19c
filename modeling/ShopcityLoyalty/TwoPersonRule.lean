import ShopcityLoyalty.ApprovalStates

/-!
The two-person rule: who decided an approval is not who asked for it, and belongs to the
approval's branch unless an administrator.
-/

namespace ShopcityLoyalty

open Txn Database LoyaltyService

variable {rt : Runtime} {s t : Database} {i : Nat} {a b : Approval} {now : Int}

/-- The statuses that a decision gives. -/
def ApprovalStatus.Decides (status : ApprovalStatus) : Prop :=
  status = .APPROVED ∨ status = .EXECUTED ∨ status = .REJECTED

/-- Decided by an actor of the tenant that may: somebody else, and of the approval's branch unless
an administrator. -/
structure Endorsed (db : Database) (a : Approval) (actor : AuthContext) : Prop where
  decisionBy : a.decisionBy = some actor.staff
  requestedBy : actor.staff ≠ a.requestedBy
  tenantId : actor.tenantId = a.tenantId
  scope : actor.role = .ADMIN ∨
    ∃ r, approvalReceipt db a.target = some r ∧ actor.branchId = some r.branchId

/-! ### The branch of an approval -/

lemma grown {α : Type} {rows rows' : Table α} {as : List α} {j : Nat} {x : α}
    (h : rows' = rows ++ as) (hx : rows[j]? = some x) : rows'[j]? = some x := by
  rw [h]
  exact Table.getElem?_append hx

/-- No move takes an approval's receipt to another branch. -/
lemma Move.approvalReceipt_branch (h : Move s t) {target : ApprovalTarget} {r : Receipt}
    (hr : approvalReceipt s target = some r) :
    ∃ r', approvalReceipt t target = some r' ∧ r'.branchId = r.branchId := by
  have hreceipt : ∀ {k : Nat} {x : Receipt}, s.receipts[k]? = some x →
      ∃ x', t.receipts[k]? = some x' ∧ x'.branchId = x.branchId := by
    intro k x hx
    cases h with
    | captured h => exact ⟨x, grown h.receipts hx, rfl⟩
    | @decided _ _ _ k₀ r₀ r₁ _ h =>
        rw [h.receipts]
        by_cases hk : k₀ = k
        · subst hk
          obtain rfl : r₀ = x := Option.some.inj (h.receipt.symm.trans hx)
          exact ⟨r₁, List.getElem?_set_self (Table.lt_of_getElem? hx), h.reviewed.2.2⟩
        · exact ⟨x, by rwa [List.getElem?_set_ne hk], rfl⟩
    | unreceipted h => exact ⟨x, by rwa [h.receipts], rfl⟩
  have hredemption : ∀ {j : Nat} {d : Redemption}, s.redemptions[j]? = some d →
      ∃ d', t.redemptions[j]? = some d' ∧ d'.receiptId = d.receiptId := by
    have hset : ∀ {j n : Nat} {d x x' : Redemption}, s.redemptions[n]? = some x →
        x'.receiptId = x.receiptId → t.redemptions = s.redemptions.set n x' →
        s.redemptions[j]? = some d →
        ∃ d', t.redemptions[j]? = some d' ∧ d'.receiptId = d.receiptId := by
      intro j n d x x' hx hkept hrows hd
      rw [hrows]
      by_cases hn : n = j
      · subst hn
        obtain rfl : x = d := Option.some.inj (hx.symm.trans hd)
        exact ⟨x', List.getElem?_set_self (Table.lt_of_getElem? hd), hkept⟩
      · exact ⟨d, by rwa [List.getElem?_set_ne hn], rfl⟩
    intro j d hd
    cases h with
    | captured h => exact ⟨d, grown h.redemptions hd, rfl⟩
    | decided h =>
        have hkept : ∀ {target : ApprovalTarget}, RedemptionDecided s t target →
            ∃ d', t.redemptions[j]? = some d' ∧ d'.receiptId = d.receiptId := by
          intro target hdecided
          cases hdecided with
          | earn hsame => exact ⟨d, by rwa [hsame], rfl⟩
          | redeem hrow hrows _ hkept => exact hset hrow hkept.2 hrows hd
        exact hkept h.redemption
    | unreceipted h =>
        rcases h.redemptions with hsame | ⟨n, x, x', hrow, -, -, -, hkept, -, hrows⟩
        · exact ⟨d, by rwa [hsame], rfl⟩
        · exact hset hrow hkept hrows hd
  cases target with
  | EARN k => exact hreceipt hr
  | REDEEM j =>
      obtain ⟨d, hd, hrd⟩ := Option.bind_eq_some_iff.1 hr
      obtain ⟨d', hd', hkept⟩ := hredemption hd
      obtain ⟨r', hr', hbranch⟩ := hreceipt hrd
      exact ⟨r', Option.bind_eq_some_iff.2 ⟨d', hd', by rw [hkept]; exact hr'⟩, hbranch⟩

lemma moves_approvalReceipt_branch (h : Relation.ReflTransGen Move s t) {target : ApprovalTarget}
    {r : Receipt} (hr : approvalReceipt s target = some r) :
    ∃ r', approvalReceipt t target = some r' ∧ r'.branchId = r.branchId := by
  induction h with
  | refl => exact ⟨r, hr, rfl⟩
  | tail _ hm ih =>
      obtain ⟨r₁, hr₁, hb₁⟩ := ih
      obtain ⟨r₂, hr₂, hb₂⟩ := hm.approvalReceipt_branch hr₁
      exact ⟨r₂, hr₂, hb₂.trans hb₁⟩

lemma Endorsed.moves {actor : AuthContext} (he : Endorsed s a actor)
    (h : Relation.ReflTransGen Move s t) : Endorsed t a actor := by
  refine ⟨he.decisionBy, he.requestedBy, he.tenantId, he.scope.imp_right ?_⟩
  rintro ⟨r, hr, hactor⟩
  obtain ⟨r', hr', hbranch⟩ := moves_approvalReceipt_branch h hr
  exact ⟨r', hr', by rw [hactor, hbranch]⟩

/-! ### What an operation decides -/

lemma expired_not_decides {actor : Option StaffRef} :
    ¬ (expiredRow now actor a).status.Decides := by
  simp [ApprovalStatus.Decides, expiredRow]

lemma decided_row {j : Nat} {x : Approval} (hrows : t.approvals = s.approvals.set j x)
    (ha : t.approvals[i]? = some a) : s.approvals[i]? = some a ∨ i = j ∧ a = x := by
  rw [hrows] at ha
  by_cases hij : j = i
  · subst hij
    have hlt : j < s.approvals.length := by
      have := Table.lt_of_getElem? ha
      rwa [List.length_set] at this
    rw [List.getElem?_set_self hlt] at ha
    exact .inr ⟨rfl, (Option.some.inj ha).symm⟩
  · rw [List.getElem?_set_ne hij] at ha
    exact .inl ha

lemma ApprovalExpired.approvals {tenantId : String} {target : ApprovalTarget}
    {receiptId : Option Nat}
    {actor : Option StaffRef} {j : Nat} {m : Database}
    (h : ApprovalExpired j b tenantId target receiptId now actor m s t) :
    t.approvals = s.approvals.set j (expiredRow now actor b) := by
  have hm : m.approvals = s.approvals.set j (expiredRow now actor b) := by
    cases h.target <;> rfl
  rw [h.frame]
  exact hm

lemma ApprovalExpired.no_decision {tenantId : String} {target : ApprovalTarget}
    {receiptId : Option Nat} {actor : Option StaffRef} {j : Nat} {m : Database}
    (h : ApprovalExpired j b tenantId target receiptId now actor m s t)
    (ha : t.approvals[i]? = some a) (hd : a.status.Decides) : s.approvals[i]? = some a := by
  rcases decided_row h.approvals ha with hkept | ⟨-, rfl⟩
  · exact hkept
  · exact absurd hd expired_not_decides

lemma Lapsed.no_decision (h : Relation.ReflTransGen (Lapsed now) s t)
    (ha : t.approvals[i]? = some a) (hd : a.status.Decides) : s.approvals[i]? = some a := by
  induction h with
  | refl => exact ha
  | tail _ hlast ih =>
      obtain ⟨j, b, m, hx⟩ := hlast
      exact ih (hx.no_decision ha hd)

lemma LoyaltyService.Decidable.endorsed {req : DecisionRequest}
    (h : LoyaltyService.Decidable req b s)
    (hby : a.decisionBy = some req.actor.staff)
    (hkept : a.requestedBy = b.requestedBy ∧ a.tenantId = b.tenantId ∧ a.target = b.target) :
    Endorsed s a req.actor := by
  refine ⟨hby, ?_, ?_, ?_⟩
  · rw [hkept.1]
    exact h.requestedBy.symm
  · rw [hkept.2.1, h.tenantId]
  · rw [hkept.2.2]
    exact h.scope

/-- A decision decides its approval alone, by the actor of the request. -/
lemma LoyaltyService.TargetDecided.decisions {req : DecisionRequest} {res : DecisionResult}
    (h0 : LoyaltyService.Decidable req b s) (h : TargetDecided rt req b now s t res)
    (ha : t.approvals[i]? = some a) (hd : a.status.Decides) :
    s.approvals[i]? = some a ∨ Endorsed s a req.actor := by
  have hset : ∀ x : Approval, t.approvals = s.approvals.set req.approvalId x →
      x.decisionBy = some req.actor.staff →
      x.requestedBy = b.requestedBy ∧ x.tenantId = b.tenantId ∧ x.target = b.target →
      s.approvals[i]? = some a ∨ Endorsed s a req.actor := by
    intro x hrows hby hkept
    rcases decided_row hrows ha with hsame | ⟨-, rfl⟩
    · exact .inl hsame
    · exact .inr (h0.endorsed hby hkept)
  cases h with
  | earn _ h =>
      cases h with
      | expired h =>
          obtain ⟨m, hx⟩ := h.expired
          exact .inl (hx.no_decision ha hd)
      | rejected h =>
          exact hset (decided req .REJECTED now b) (by rw [h.frame]) rfl ⟨rfl, rfl, rfl⟩
      | executed h =>
          exact hset (executed now (decided req .APPROVED now b)) (by rw [h.frame]) rfl
            ⟨rfl, rfl, rfl⟩
  | redeem _ _ _ h =>
      cases h with
      | expired h =>
          obtain ⟨m, hx⟩ := h.expired
          exact .inl (hx.no_decision ha hd)
      | rejected h =>
          exact hset (decided req .REJECTED now b) (by rw [h.frame]) rfl ⟨rfl, rfl, rfl⟩
      | @executed r k rows x v m u w h =>
          refine hset (executed now (decided req .APPROVED now b)) ?_ rfl ⟨rfl, rfl, rfl⟩
          rw [h.frame]
          change w.approvals.set _ _ = _
          rw [h.settlement.approvals, h.approved, List.set_set]

lemma ReversalsService.ReverseCommitted.approvals {input : ReversalInput} {o : LoyaltyLedgerEntry}
    {finishedAt : Int} {existing : Option Response} {res : Response}
    (h : ReverseCommitted input o now finishedAt existing s t res) : t.approvals = s.approvals := by
  cases h with
  | credit _ _ _ h => rw [h.completed, h.compensated.frame]
  | debit _ _ _ h => rw [h.completed, h.marked.frame, h.restored.frame]
  | pair _ _ _ h =>
      cases h with
      | reversed _ h =>
          rw [h.completed, h.marked.frame, h.restored.frame, h.compensated.frame]
      | replayed hs _ _ => rw [hs]
  | replayed _ _ hs => rw [hs]

lemma captured_row {x : Approval} (hrows : t.approvals = s.approvals ++ [x])
    (hx : x.status = .PENDING) (ha : t.approvals[i]? = some a) (hd : a.status.Decides) :
    s.approvals[i]? = some a := by
  rw [hrows, List.getElem?_append] at ha
  split at ha
  · exact ha
  · obtain rfl := List.mem_singleton.1 (List.mem_of_getElem? ha)
    simp [ApprovalStatus.Decides, hx] at hd

/-- **Only decision requests decide**, each for the actor who makes it. -/
theorem Outcome.decisions {op : Op} (h : Outcome rt s t op) (ha : t.approvals[i]? = some a)
    (hd : a.status.Decides) : s.approvals[i]? = some a ∨
      ∃ req startedAt now, op = .decide req startedAt now ∧ Endorsed s a req.actor := by
  cases h with
  | earn _ h => left; cases h with
      | pending h => exact captured_row (by rw [h.frame]) rfl ha hd
      | credited h => rwa [h.frame] at ha
  | redeem _ h => left; cases h with
      | pending h => exact captured_row (by rw [h.frame]) rfl ha hd
      | @settled k r rows x v m u w h =>
          rw [h.frame] at ha
          change w.approvals[i]? = some a at ha
          rw [h.settlement.approvals, h.captured] at ha
          exact ha
  | @decide _ _ _ _ _ v _ hv hdec h =>
      rcases h.decisions hdec ha hd with hkept | hend
      · rw [hv] at hkept
        exact .inl hkept
      · refine .inr ⟨_, _, _, rfl, ?_⟩
        rw [hv] at hend
        exact ⟨hend.decisionBy, hend.requestedBy, hend.tenantId, hend.scope⟩
  | @reverse _ _ _ _ _ v _ _ hopen hsel h =>
      have hsv : v.approvals = s.approvals := by cases hopen <;> rfl
      rw [h.approvals, hsv] at ha
      exact .inl ha
  | adjust _ h => left; cases h with
      | credit h => rwa [h.frame] at ha
      | debit h => rwa [h.frame] at ha
  | expireCredit h => left; rwa [h.frame] at ha
  | expireApprovals h => exact .inl (Lapsed.no_decision h ha hd)
  | completeDecision h => left; rwa [h.frame] at ha
  | cleanup h => left; rwa [h.frame] at ha
  | cleanupAnyEndpoint h => left; rwa [h.frame] at ha
  | recordDuplicate h => left; rwa [h.frame] at ha
  | administer h => left; rwa [h.frame] at ha

/-! ### Runs -/

/-- The steps of a run whose decisions are asked for by actors that may act at that time. -/
def Op.DecidedBy (acting : System → AuthContext → Prop) (s : System) (op : Op) : Prop :=
  ∀ req startedAt now, op = .decide req startedAt now → acting s req.actor

/-- **The two-person rule**: in any run, every decided approval is endorsed by an actor who made
a decision request in it. -/
theorem two_person_rule {acting : System → AuthContext → Prop} {registry : Registry} {s : System}
    (hrun : StepsUnder rt (Op.DecidedBy acting) (System.initial registry) s)
    (ha : s.db.approvals[i]? = some a) (hd : a.status.Decides) :
    ∃ u actor, acting u actor ∧ Endorsed s.db a actor := by
  have hkept : ∀ {u v : System} {op : Op}, Op.DecidedBy acting u op →
      (Invariants u.db ∧ ∀ {j : Nat} {x : Approval}, u.db.approvals[j]? = some x →
        x.status.Decides → ∃ w actor, acting w actor ∧ Endorsed u.db x actor) →
      Step rt op u v →
      (Invariants v.db ∧ ∀ {j : Nat} {x : Approval}, v.db.approvals[j]? = some x →
        x.status.Decides → ∃ w actor, acting w actor ∧ Endorsed v.db x actor) := by
    intro u v op hop ⟨hinv, hu⟩ hstep
    have hout := hstep.outcome hinv.books.sound
    have hmoves := hout.moves hinv.desk
    refine ⟨hinv.outcome hout, fun {j x} hx hdx => ?_⟩
    rcases hout.decisions hx hdx with hold | ⟨req, startedAt, now, hreq, hend⟩
    · obtain ⟨w, actor, hacting, hend⟩ := hu hold hdx
      exact ⟨w, actor, hacting, hend.moves hmoves⟩
    · exact ⟨u, req.actor, hop req startedAt now hreq, hend.moves hmoves⟩
  have hinit : Invariants (System.initial registry).db ∧ ∀ {j : Nat} {x : Approval},
      (System.initial registry).db.approvals[j]? = some x → x.status.Decides →
      ∃ w actor, acting w actor ∧ Endorsed (System.initial registry).db x actor :=
    ⟨.initial registry, fun hx => by simp [System.initial, Database.initial] at hx⟩
  have hall := hrun.invariant (I := fun u => Invariants u.db ∧ ∀ {j : Nat} {x : Approval},
      u.db.approvals[j]? = some x → x.status.Decides →
      ∃ w actor, acting w actor ∧ Endorsed u.db x actor) hkept hinit
  exact hall.2 ha hd

/-- The supervisor's decision on the first approval. -/
def Shop.approve (key : String) : Op :=
  .decide ⟨supervisor, key, 0, .APPROVED, "checked the basket", sha256 key⟩ night night

/-- A large purchase that the supervisor approves. -/
theorem two_person_rule_shop :
    ∃ s a, Shop.opened.runAll Shop.runtime [Shop.earn "k1" 30000000, Shop.approve "d1"] = .ok s ∧
      s.db.approvals[0]? = some a ∧ Endorsed s.db a Shop.supervisor := by
  have hadm : ∀ op ∈ [Shop.earn "k1" 30000000, Shop.approve "d1"], ∀ u, op.Admissible u := by
    simp [Shop.earn, Shop.approve, Op.Admissible]
  obtain ⟨s, hrun, -, hrow⟩ := Reachable.of_runAll_map Shop.runtime Shop.registry
    [Shop.earn "k1" 30000000, Shop.approve "d1"] (f := fun s => s.db.approvals.map (·.status))
    (a := [.EXECUTED]) (by decide +kernel) hadm
  obtain ⟨a, happrovals, hstatus⟩ : ∃ a, s.db.approvals = [a] ∧ a.status = .EXECUTED := by
    simpa [List.map_eq_singleton_iff] using hrow
  have ha : s.db.approvals[0]? = some a := by rw [happrovals]; rfl
  have hsteps : StepsUnder Shop.runtime (Op.DecidedBy fun _ actor => actor = Shop.supervisor)
      (System.initial Shop.registry) s := by
    refine StepsUnder.of_runAll hrun hadm ?_
    simp [Op.DecidedBy, Shop.earn, Shop.approve]
  obtain ⟨_, actor, rfl, hend⟩ := two_person_rule hsteps ha (.inr (.inl hstatus))
  exact ⟨s, a, hrun, ha, hend⟩

end ShopcityLoyalty
