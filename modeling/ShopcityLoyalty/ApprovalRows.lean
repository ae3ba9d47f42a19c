import ShopcityLoyalty.RedemptionRows

/-!
Redemptions and their approvals, as one state machine: what the rows of a request record of
each other, from the capture to the decision.
-/

namespace ShopcityLoyalty

open Database

/-- The redemptions and the approvals. -/
structure Requests where
  redemptions : Table Redemption
  approvals : Table Approval

def Database.requests (s : Database) : Requests := ⟨s.redemptions, s.approvals⟩

/-- What an approval and its redemption record of each other. -/
structure Approval.Matches (x : Approval) (d : Redemption) : Prop where
  tenantId : x.tenantId = d.tenantId
  pending : x.status = .PENDING → x.decidedAt = none
  executed : x.status = .EXECUTED → x.decidedAt = d.confirmedAt
  declined : x.status = .REJECTED ∨ x.status = .EXPIRED → x.decidedAt = d.rejectedAt

namespace Approval.Matches

variable {x : Approval} {d : Redemption} {now : Int}

lemma rejected (h : x.Matches d) (req : DecisionRequest) :
    (LoyaltyService.decided req .REJECTED now x).Matches
      (LoyaltyService.rejectedRedemption now d) :=
  ⟨h.tenantId, by simp [LoyaltyService.decided], by simp [LoyaltyService.decided],
    fun _ => rfl⟩

lemma expired (h : x.Matches d) (actor : Option StaffRef) :
    (expiredRow now actor x).Matches (expiredRedemptionRow now d) :=
  ⟨h.tenantId, by simp [expiredRow], by simp [expiredRow], fun _ => rfl⟩

lemma confirmed (h : x.Matches d) (req : DecisionRequest) (input : RedemptionSettlementInput)
    (entryId : Nat) (hnow : input.now = now) :
    (LoyaltyService.executed now (LoyaltyService.decided req .APPROVED now x)).Matches
      (input.confirmed entryId d) := by
  subst hnow
  exact ⟨h.tenantId, by simp [LoyaltyService.executed], fun _ => rfl,
    by simp [LoyaltyService.executed]⟩

end Approval.Matches

/-! ### Moves -/

/-- What a transaction does to the rows of requests. -/
inductive RequestMove (a b : Requests) : Prop
  | beside (redemptions : b.redemptions = a.redemptions)
      (approvals : ∀ (i : Nat) x j, x.target = .REDEEM j →
        (b.approvals[i]? = some x ↔ a.approvals[i]? = some x))
  | asked {d x} (redemptions : b.redemptions = a.redemptions ++ [d])
      (approvals : b.approvals = a.approvals ++ [x])
      (target : x.target = .REDEEM a.redemptions.length) (rows : x.Matches d)
  | settled {d} (redemptions : b.redemptions = a.redemptions ++ [d])
      (approvals : b.approvals = a.approvals) (confirmedAt : d.confirmedAt = some d.requestedAt)
  | decided {i j x y d d'} (approval : a.approvals[i]? = some x)
      (redemption : a.redemptions[j]? = some d) (target : x.target = .REDEEM j)
      (kept : y.target = x.target) (rows : x.Matches d → y.Matches d')
      (redemptions : b.redemptions = a.redemptions.set j d')
      (approvals : b.approvals = a.approvals.set i y)
  | reversed {j d d'} (redemption : a.redemptions[j]? = some d)
      (rows : ∀ x : Approval, x.Matches d → x.Matches d')
      (kept : d'.requestedAt = d.requestedAt ∧ d'.confirmedAt = d.confirmedAt)
      (redemptions : b.redemptions = a.redemptions.set j d')
      (approvals : b.approvals = a.approvals)

/-- The rows of every request match: an approval has its redemption and is its only approval, and
a redemption without an approval was settled at once. -/
structure Requests.Matched (a : Requests) : Prop where
  approval : ∀ {i j : Nat} {x}, a.approvals[i]? = some x → x.target = .REDEEM j →
    ∃ d, a.redemptions[j]? = some d ∧ x.Matches d
  once : ∀ {i k j : Nat} {x y}, a.approvals[i]? = some x → a.approvals[k]? = some y →
    x.target = .REDEEM j → y.target = .REDEEM j → i = k
  direct : ∀ {j : Nat} {d}, a.redemptions[j]? = some d →
    (∀ (i : Nat) x, a.approvals[i]? = some x → x.target ≠ .REDEEM j) →
    d.confirmedAt = some d.requestedAt

namespace Requests.Matched

variable {a b : Requests}

lemma lt_redemptions (h : a.Matched) {i j : Nat} {x : Approval} (hi : a.approvals[i]? = some x)
    (hx : x.target = .REDEEM j) : j < a.redemptions.length := by
  obtain ⟨d, hd, -⟩ := h.approval hi hx
  exact Table.lt_of_getElem? hd

lemma beside (h : a.Matched) (hr : b.redemptions = a.redemptions)
    (ha : ∀ (i : Nat) x j, x.target = .REDEEM j →
      (b.approvals[i]? = some x ↔ a.approvals[i]? = some x)) : b.Matched := by
  refine ⟨fun {i j x} hi hx => ?_, fun {i k j x y} hi hk hx hy => ?_, fun {j d} hd hnone => ?_⟩
  · rw [hr]
    exact h.approval ((ha i x j hx).1 hi) hx
  · exact h.once ((ha i x j hx).1 hi) ((ha k y j hy).1 hk) hx hy
  · rw [hr] at hd
    exact h.direct hd fun i x hi hx => hnone i x ((ha i x j hx).2 hi) hx

lemma asked (h : a.Matched) {d : Redemption} {x : Approval}
    (hr : b.redemptions = a.redemptions ++ [d]) (ha : b.approvals = a.approvals ++ [x])
    (hx : x.target = .REDEEM a.redemptions.length) (hrows : x.Matches d) : b.Matched := by
  have hnew : b.redemptions[a.redemptions.length]? = some d := by
    rw [hr]
    exact Table.getElem?_insert_self ..
  refine ⟨fun {i j y} hi hy => ?_, fun {i k j y z} hi hk hy hz => ?_, fun {j y} hj hnone => ?_⟩
  · rw [ha] at hi
    rcases Table.getElem?_insert_iff.1 hi with hi | ⟨-, rfl⟩
    · obtain ⟨e, he, hm⟩ := h.approval hi hy
      rw [hr]
      exact ⟨e, Table.getElem?_append he, hm⟩
    · obtain rfl := ApprovalTarget.REDEEM.inj (hx.symm.trans hy)
      exact ⟨d, hnew, hrows⟩
  · rw [ha] at hi hk
    rcases Table.getElem?_insert_iff.1 hi with hi | ⟨rfl, rfl⟩ <;>
      rcases Table.getElem?_insert_iff.1 hk with hk | ⟨rfl, rfl⟩
    · exact h.once hi hk hy hz
    · obtain rfl := ApprovalTarget.REDEEM.inj (hx.symm.trans hz)
      exact absurd (h.lt_redemptions hi hy) (Nat.lt_irrefl _)
    · obtain rfl := ApprovalTarget.REDEEM.inj (hx.symm.trans hy)
      exact absurd (h.lt_redemptions hk hz) (Nat.lt_irrefl _)
    · rfl
  · rw [hr] at hj
    rcases Table.getElem?_insert_iff.1 hj with hj | ⟨rfl, rfl⟩
    · refine h.direct hj fun i y hi hy => hnone i y ?_ hy
      rw [ha]
      exact Table.getElem?_append hi
    · refine absurd hx (hnone a.approvals.length x ?_)
      rw [ha]
      exact Table.getElem?_insert_self ..

lemma settled (h : a.Matched) {d : Redemption} (hr : b.redemptions = a.redemptions ++ [d])
    (ha : b.approvals = a.approvals) (hd : d.confirmedAt = some d.requestedAt) : b.Matched := by
  refine ⟨fun {i j x} hi hx => ?_, fun {i k j x y} hi hk hx hy => ?_, fun {j y} hj hnone => ?_⟩
  · rw [ha] at hi
    obtain ⟨e, he, hm⟩ := h.approval hi hx
    rw [hr]
    exact ⟨e, Table.getElem?_append he, hm⟩
  · rw [ha] at hi hk
    exact h.once hi hk hx hy
  · rw [hr] at hj
    rcases Table.getElem?_insert_iff.1 hj with hj | ⟨-, rfl⟩
    · rw [ha] at hnone
      exact h.direct hj hnone
    · exact hd

lemma decided (h : a.Matched) {i j : Nat} {x x' : Approval} {d d' : Redemption}
    (hi : a.approvals[i]? = some x) (hj : a.redemptions[j]? = some d) (hx : x.target = .REDEEM j)
    (hx' : x'.target = x.target) (hrows : x.Matches d → x'.Matches d')
    (hr : b.redemptions = a.redemptions.set j d') (ha : b.approvals = a.approvals.set i x') :
    b.Matched := by
  have hnow : b.redemptions[j]? = some d' := by
    rw [hr]
    exact List.getElem?_set_self (Table.lt_of_getElem? hj)
  have hset : b.approvals[i]? = some x' := by
    rw [ha]
    exact List.getElem?_set_self (Table.lt_of_getElem? hi)
  have hxd : x.Matches d := by
    obtain ⟨e, he, hm⟩ := h.approval hi hx
    obtain rfl : d = e := Option.some.inj (hj.symm.trans he)
    exact hm
  -- a row of the new table is the decided one, or an old one of another redemption
  have hcase : ∀ {k : Nat} {y : Approval}, b.approvals[k]? = some y →
      (k = i ∧ y = x') ∨ (k ≠ i ∧ a.approvals[k]? = some y ∧ y.target ≠ .REDEEM j) := by
    intro k y hk
    by_cases hki : k = i
    · subst hki
      exact .inl ⟨rfl, Option.some.inj (hk.symm.trans hset)⟩
    · rw [ha, List.getElem?_set_ne (Ne.symm hki)] at hk
      exact .inr ⟨hki, hk, fun hy => hki (h.once hk hi hy hx)⟩
  refine ⟨fun {k n y} hk hy => ?_, fun {k m n y z} hk hm hy hz => ?_, fun {n e} hn hnone => ?_⟩
  · rcases hcase hk with ⟨rfl, rfl⟩ | ⟨-, hold, hne⟩
    · obtain rfl := ApprovalTarget.REDEEM.inj ((hx'.trans hx).symm.trans hy)
      exact ⟨d', hnow, hrows hxd⟩
    · have hjn : j ≠ n := fun heq => hne (heq ▸ hy)
      rw [hr, List.getElem?_set_ne hjn]
      exact h.approval hold hy
  · rcases hcase hk with ⟨rfl, rfl⟩ | ⟨-, hold, hne⟩ <;>
      rcases hcase hm with ⟨rfl, rfl⟩ | ⟨-, hold', hne'⟩
    · rfl
    · exact h.once hi hold' (hx'.symm.trans hy) hz
    · exact h.once hold hi hy (hx'.symm.trans hz)
    · exact h.once hold hold' hy hz
  · by_cases hjn : j = n
    · subst hjn
      exact absurd (hx'.trans hx) (hnone i x' hset)
    · rw [hr, List.getElem?_set_ne hjn] at hn
      refine h.direct hn fun k y hk hy => ?_
      have hki : i ≠ k := by
        rintro rfl
        obtain rfl : x = y := Option.some.inj (hi.symm.trans hk)
        exact hjn (ApprovalTarget.REDEEM.inj (hx.symm.trans hy))
      refine hnone k y ?_ hy
      rw [ha, List.getElem?_set_ne hki]
      exact hk

lemma reversed (h : a.Matched) {j : Nat} {d d' : Redemption} (hj : a.redemptions[j]? = some d)
    (hrows : ∀ x : Approval, x.Matches d → x.Matches d')
    (hkept : d'.requestedAt = d.requestedAt ∧ d'.confirmedAt = d.confirmedAt)
    (hr : b.redemptions = a.redemptions.set j d') (ha : b.approvals = a.approvals) :
    b.Matched := by
  have hnow : b.redemptions[j]? = some d' := by
    rw [hr]
    exact List.getElem?_set_self (Table.lt_of_getElem? hj)
  refine ⟨fun {i n x} hi hx => ?_, fun {i k n x y} hi hk hx hy => ?_, fun {n e} hn hnone => ?_⟩
  · rw [ha] at hi
    obtain ⟨e, he, hm⟩ := h.approval hi hx
    by_cases hjn : j = n
    · subst hjn
      obtain rfl : d = e := Option.some.inj (hj.symm.trans he)
      exact ⟨d', hnow, hrows x hm⟩
    · rw [hr, List.getElem?_set_ne hjn]
      exact ⟨e, he, hm⟩
  · rw [ha] at hi hk
    exact h.once hi hk hx hy
  · rw [ha] at hnone
    by_cases hjn : j = n
    · subst hjn
      obtain rfl : d' = e := Option.some.inj (hnow.symm.trans hn)
      rw [hkept.1, hkept.2]
      exact h.direct hj hnone
    · rw [hr, List.getElem?_set_ne hjn] at hn
      exact h.direct hn hnone

/-- **Every move keeps requests matched.** -/
theorem move (h : a.Matched) (hm : RequestMove a b) : b.Matched := by
  cases hm with
  | beside hr ha => exact h.beside hr ha
  | asked hr ha hx hrows => exact h.asked hr ha hx hrows
  | settled hr ha hd => exact h.settled hr ha hd
  | decided hi hj hx hx' hrows hr ha => exact h.decided hi hj hx hx' hrows hr ha
  | reversed hj hrows hkept hr ha => exact h.reversed hj hrows hkept hr ha

lemma moves (h : a.Matched) (hm : Relation.ReflTransGen RequestMove a b) : b.Matched := by
  induction hm with
  | refl => exact h
  | tail _ hm ih => exact ih.move hm

lemma initial (registry : Registry) : (Database.initial registry).requests.Matched :=
  ⟨fun h => (by cases h), fun h => (by cases h), fun h => (by cases h)⟩

end Requests.Matched

/-! ### Every operation -/

section operations

variable {rt : Runtime} {now finishedAt : Int} {s t : Database}

/-- Moves from one database to another. -/
def RequestMoves (s t : Database) : Prop :=
  Relation.ReflTransGen RequestMove s.requests t.requests

namespace RequestMoves

lemma same (hr : t.redemptions = s.redemptions) (ha : t.approvals = s.approvals) :
    RequestMoves s t := by
  have hrequests : s.requests = t.requests := by
    unfold Database.requests
    rw [hr, ha]
  unfold RequestMoves
  rw [hrequests]

lemma trans {u : Database} (h : RequestMoves s t) (h' : RequestMoves t u) : RequestMoves s u :=
  Relation.ReflTransGen.trans h h'

lemma earnAsked {x : Approval} {k : Nat} (hx : x.target = .EARN k)
    (hr : t.redemptions = s.redemptions) (ha : t.approvals = s.approvals ++ [x]) :
    RequestMoves s t := by
  refine .single (.beside hr fun i y j hy => ?_)
  change t.approvals[i]? = some y ↔ s.approvals[i]? = some y
  rw [ha, Table.getElem?_insert_iff, or_iff_left]
  rintro ⟨-, rfl⟩
  rw [hx] at hy
  cases hy

lemma earnSet {x y : Approval} {i k : Nat} (hi : s.approvals[i]? = some x)
    (hx : x.target = .EARN k) (hx' : y.target = x.target) (hr : t.redemptions = s.redemptions)
    (ha : t.approvals = s.approvals.set i y) : RequestMoves s t := by
  refine .single (.beside hr fun n z j hz => ?_)
  change t.approvals[n]? = some z ↔ s.approvals[n]? = some z
  rw [ha]
  by_cases hin : i = n
  · subst hin
    rw [List.getElem?_set_self (Table.lt_of_getElem? hi), hi]
    constructor <;> intro heq
    · obtain rfl := Option.some.inj heq
      rw [hx', hx] at hz
      cases hz
    · obtain rfl := Option.some.inj heq
      rw [hx] at hz
      cases hz
  · rw [List.getElem?_set_ne hin]

end RequestMoves

lemma ApprovalExpired.requests {i : Nat} {x : Approval} {receiptId : Option Nat}
    {actor : Option StaffRef} {m : Database}
    (h : ApprovalExpired i x x.tenantId x.target receiptId now actor m s t) :
    RequestMoves s t := by
  have hx' : (expiredRow now actor x).target = x.target := rfl
  have hm : RequestMoves s m := by
    have htarget := h.target
    generalize hk : x.target = target at htarget
    cases htarget with
    | earn => exact .earnSet h.approval hk hx' rfl rfl
    | redeem _ _ hrow _ _ =>
        exact .single (.decided h.approval hrow hk hx' (fun hm => hm.expired actor) rfl rfl)
    | alone hrow _ _ =>
        exact .single (.decided h.approval hrow hk hx' (fun hm => hm.expired actor) rfl rfl)
  exact hm.trans (.same (by rw [h.frame]) (by rw [h.frame]))

lemma Lapsed.requests (h : Relation.ReflTransGen (Lapsed now) s t) : RequestMoves s t := by
  induction h with
  | refl => exact .same rfl rfl
  | tail _ hlast ih =>
      obtain ⟨i, x, m, hx⟩ := hlast
      exact ih.trans hx.requests

namespace LoyaltyService

lemma EarnCommitted.requests {req : EarnRequest} {adm : EarnAdmission} {ctx : EarnContext}
    {amount : PositiveKobo} {res : EarnTransactionResponse}
    (h : EarnCommitted rt req adm ctx amount now res s t) : RequestMoves s t := by
  cases h with
  | pending h => exact .earnAsked rfl (by rw [h.frame]) (by rw [h.frame])
  | credited h => exact .same (by rw [h.frame]) (by rw [h.frame])

lemma FoundExpired.requests {req : DecisionRequest} {x : Approval} {receiptId : Option Nat}
    (h : FoundExpired req x receiptId now s t) : RequestMoves s t := by
  obtain ⟨m, hx⟩ := h.expired
  exact hx.requests

lemma TargetDecided.requests {req : DecisionRequest} {x : Approval} {res : DecisionResult}
    (hdec : LoyaltyService.Decidable req x s) (h : TargetDecided rt req x now s t res) :
    RequestMoves s t := by
  cases h with
  | earn htarget h =>
      cases h with
      | expired h => exact h.requests
      | rejected h =>
          exact .earnSet (y := decided req .REJECTED now x) hdec.approval htarget rfl
            (by rw [h.frame]) (by rw [h.frame])
      | executed h =>
          exact .earnSet (y := executed now (decided req .APPROVED now x)) hdec.approval htarget rfl
            (by rw [h.frame]) (by rw [h.frame])
  | @redeem redemptionId d htarget hrow _ h =>
      cases h with
      | expired h => exact h.requests
      | rejected h =>
          refine .single (.decided hdec.approval hrow htarget
            (y := decided req .REJECTED now x) rfl (fun hm => hm.rejected req) ?_ ?_)
          · change t.redemptions = _
            rw [h.frame]
            rfl
          · change t.approvals = _
            rw [h.frame]
            rfl
      | @executed r k rows y v m u w h =>
          have happrovals : w.approvals =
              s.approvals.set req.approvalId (decided req .APPROVED now x) := by
            rw [h.settlement.approvals, h.approved]
          have hredemptions := h.settlement.redemptions
          have hnow : (approvedSettlement rt s req redemptionId d r now).now = now := rfl
          refine .single (.decided hdec.approval hrow htarget
            (y := executed now (decided req .APPROVED now x)) rfl
            (fun hm => hm.confirmed req _ v.ledger.length hnow) ?_ ?_)
          · change t.redemptions = _
            rw [h.frame]
            change w.redemptions = _
            rw [hredemptions, h.approved]
            rfl
          · change t.approvals = _
            rw [h.frame]
            change w.approvals.set _ _ = _
            rw [happrovals, List.set_set]
            rfl

end LoyaltyService

lemma RedemptionsService.RedeemCommitted.requests {req : RedeemRequest} {adm : RedeemAdmission}
    {ctx : RedeemContext} {a : RedeemAssessment} {res : RedeemTransactionResponse}
    (h : RedeemCommitted rt req adm ctx a now res s t) : RequestMoves s t := by
  cases h with
  | pending h =>
      refine .single (.asked (d := redeemRedemption req adm ctx a s.receipts.length now)
        (x := redeemApproval req a s.redemptions.length
          (rt.insertedAt .approvals s.approvals.length) now) ?_ ?_ rfl ?_)
      · change t.redemptions = _
        rw [h.frame]
        rfl
      · change t.approvals = _
        rw [h.frame]
        rfl
      · exact ⟨rfl, fun _ => rfl, by simp [redeemApproval], by simp [redeemApproval]⟩
  | @settled k r rows x v m u w h =>
      have hr : r = redeemRedemption req adm ctx a s.receipts.length now := by
        have hrow := h.settlement.redemption
        have hid : (requestedSettlement req adm ctx a s.receipts.length s.redemptions.length
          now).redemptionId = s.redemptions.length := rfl
        rw [h.captured, hid, Table.getElem?_insert_self] at hrow
        exact (Option.some.inj hrow).symm
      have hw : w.redemptions = s.redemptions ++ [(requestedSettlement req adm ctx a
          s.receipts.length s.redemptions.length now).confirmed v.ledger.length r] := by
        rw [h.settlement.redemptions, h.captured]
        simp [requestedSettlement]
      refine .single (.settled (d := (requestedSettlement req adm ctx a s.receipts.length
        s.redemptions.length now).confirmed v.ledger.length r) ?_ ?_ ?_)
      · change t.redemptions = _
        rw [h.frame]
        exact hw
      · change t.approvals = _
        rw [h.frame]
        change w.approvals = _
        rw [h.settlement.approvals, h.captured]
        rfl
      · rw [hr]
        rfl

namespace ReversalsService

lemma Marked.requests {tenantId : String} {entryId : Nat} (h : Marked tenantId entryId now s t) :
    RequestMoves s t := by
  cases h with
  | nothing => exact .same rfl rfl
  | @redemption j d hrow =>
      have hrows : ∀ x : Approval, x.Matches d → x.Matches (reversedRedemption now d) :=
        fun x hm => ⟨hm.tenantId, hm.pending, hm.executed, hm.declined⟩
      exact .single (.reversed hrow hrows ⟨rfl, rfl⟩ rfl rfl)

lemma ReverseCommitted.requests {input : ReversalInput} {o : LoyaltyLedgerEntry}
    {existing : Option Response} {res : Response}
    (h : ReverseCommitted input o now finishedAt existing s t res) : RequestMoves s t := by
  cases h with
  | credit _ _ _ h =>
      exact .same (by rw [h.completed, h.compensated.frame])
        (by rw [h.completed, h.compensated.frame])
  | @debit k planned rows res m w _ _ _ h =>
      have hm : RequestMoves s m := .same (by rw [h.restored.frame]) (by rw [h.restored.frame])
      have ht : RequestMoves w t := .same (by rw [h.completed]) (by rw [h.completed])
      exact (hm.trans h.marked.requests).trans ht
  | pair _ _ _ h =>
      cases h with
      | @reversed lotId l row planned rows m u w _ h =>
          have hu : RequestMoves s u :=
            .same (by rw [h.restored.frame, h.compensated.frame])
              (by rw [h.restored.frame, h.compensated.frame])
          have ht : RequestMoves w t := .same (by rw [h.completed]) (by rw [h.completed])
          exact (hu.trans h.marked.requests).trans ht
      | replayed hs _ _ => exact hs ▸ .same rfl rfl
  | replayed _ _ hs => exact hs ▸ .same rfl rfl

end ReversalsService

/-- **Every operation** is a sequence of moves of redemptions and their approvals. -/
theorem Outcome.requests {op : Op} (h : Outcome rt s t op) : RequestMoves s t := by
  cases h with
  | earn _ h => exact h.requests
  | redeem _ h => exact h.requests
  | @decide _ _ _ _ _ v _ hv hdec h =>
      have hsv : RequestMoves s v := .same (by rw [hv]) (by rw [hv])
      exact hsv.trans (h.requests hdec)
  | @reverse _ _ _ _ _ v _ _ hopen _ h =>
      have hsv : RequestMoves s v := by cases hopen <;> exact .same rfl rfl
      exact hsv.trans h.requests
  | adjust _ h => cases h with
      | credit h => exact .same (by rw [h.frame]) (by rw [h.frame])
      | debit h => exact .same (by rw [h.frame]) (by rw [h.frame])
  | expireCredit h => exact .same (by rw [h.frame]) (by rw [h.frame])
  | expireApprovals h => exact Lapsed.requests h
  | completeDecision h | cleanup h | cleanupAnyEndpoint h | recordDuplicate h | administer h =>
      exact .same (by rw [h.frame]) (by rw [h.frame])

end operations

/-- **Every reachable state** has the rows of its requests matched. -/
theorem Reachable.matched {rt : Runtime} {s : System} (h : Reachable rt s) :
    s.db.requests.Matched := by
  obtain ⟨registry, hrun⟩ := h
  have hboth : Invariants s.db ∧ s.db.requests.Matched := by
    refine hrun.invariant (I := fun s => Invariants s.db ∧ s.db.requests.Matched) ?_
      ⟨.initial registry, .initial registry⟩
    intro op s t _ ⟨hs, hmatched⟩ hstep
    have hout := hstep.outcome hs.books.sound
    exact ⟨hs.outcome hout, hmatched.moves hout.requests⟩
  exact hboth.2

end ShopcityLoyalty
