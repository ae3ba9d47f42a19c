import ShopcityLoyalty.ReversalOutcomes
import ShopcityLoyalty.SweepOutcomes

/-!
The desk: approvals, their receipts, their redemptions and the ledger entries on these
receipts, as one state machine.

`Filed` lists the states an approval can be found in with the rows that belong to it. Every
committed transaction is one of four moves, and each move keeps all approvals filed.
-/

namespace ShopcityLoyalty

namespace Database

/-- The types of the ledger entries on a receipt. -/
def effects (s : Database) (receiptId : Nat) : List LedgerEntryType :=
  (s.ledger.filter fun e => e.receiptId = some receiptId).map (·.type)

/-- The receipt an approval is about. -/
def receiptIdOf (s : Database) : ApprovalTarget → Option Nat
  | .EARN receiptId => some receiptId
  | .REDEEM redemptionId => s.redemptions[redemptionId]?.map (·.receiptId)

/-- The redemption an approval is about. -/
def redemptionOf (s : Database) : ApprovalTarget → Option Redemption
  | .EARN _ => none
  | .REDEEM redemptionId => s.redemptions[redemptionId]?

end Database

/-- The states of an approval, with the review of its receipt, the status of its redemption
and the entries on its receipt. -/
inductive Filed : ApprovalStatus → ReceiptReviewStatus → Option RedemptionStatus →
    List LedgerEntryType → Prop
  | pendingEarn : Filed .PENDING .PENDING none []
  | pendingRedeem : Filed .PENDING .PENDING (some .PENDING_APPROVAL) []
  | executedEarn : Filed .EXECUTED .APPROVED none [.EARN]
  | executedRedeem {status effects} (settled : status = .CONFIRMED ∨ status = .REVERSED)
      (entries : effects = [.REDEEM] ∨ effects = [.REDEEM, .EARN]) :
      Filed .EXECUTED .APPROVED (some status) effects
  | rejectedEarn : Filed .REJECTED .REJECTED none []
  | rejectedRedeem : Filed .REJECTED .REJECTED (some .REJECTED) []
  | expiredEarn : Filed .EXPIRED .REJECTED none []
  | expiredRedeem : Filed .EXPIRED .REJECTED (some .EXPIRED) []

lemma Filed.of_pending {review : ReceiptReviewStatus} {status : Option RedemptionStatus}
    {effects : List LedgerEntryType} (h : Filed .PENDING review status effects) :
    review = .PENDING ∧ effects = [] ∧ (status = none ∨ status = some .PENDING_APPROVAL) := by
  cases h <;> simp

/-- An approval with the rows that belong to it. -/
structure OnFile (s : Database) (a : Approval) (receiptId : Nat) (r : Receipt) : Prop where
  subject : s.receiptIdOf a.target = some receiptId
  receipt : s.receipts[receiptId]? = some r
  tenantId : r.tenantId = a.tenantId
  redemption_tenantId : ∀ d ∈ s.redemptionOf a.target, d.tenantId = a.tenantId
  captureStatus : r.captureStatus = .PENDING_APPROVAL
  filed : Filed a.status r.reviewStatus ((s.redemptionOf a.target).map (·.status))
    (s.effects receiptId)

structure Desk (s : Database) : Prop where
  file : ∀ {i : Nat} {a}, s.approvals[i]? = some a → ∃ receiptId r, OnFile s a receiptId r
  apart : ∀ {i j : Nat} {a b k}, s.approvals[i]? = some a → s.approvals[j]? = some b →
    s.receiptIdOf a.target = some k → s.receiptIdOf b.target = some k → i = j
  approval : ∀ a ∈ s.approvals, a.stateMachineCheck
  redemption : ∀ d ∈ s.redemptions, d.stateMachineCheck ∧ d.receiptId < s.receipts.length
  entry : ∀ e ∈ s.ledger, ∀ k, e.receiptId = some k → k < s.receipts.length

/-! ### Moves -/

/-- What is captured with a receipt: nothing to approve, an EARN approval, a REDEEM one. -/
inductive Filing (s : Database) (r : Receipt) :
    List Redemption → List Approval → List LoyaltyLedgerEntry → Prop
  | direct {ds es} : Filing s r ds [] es
  | earn {a} (pending : a.status = .PENDING) (target : a.target = .EARN s.receipts.length)
      (tenantId : r.tenantId = a.tenantId) : Filing s r [] [a] []
  | redeem {a d} (pending : a.status = .PENDING) (target : a.target = .REDEEM s.redemptions.length)
      (tenantId : r.tenantId = a.tenantId) (redemption_tenantId : d.tenantId = a.tenantId)
      (waiting : d.status = .PENDING_APPROVAL) : Filing s r [d] [a] []

/-- A receipt captured, with what comes with it. -/
structure Captured (r : Receipt) (ds : List Redemption) (as : List Approval)
    (es : List LoyaltyLedgerEntry) (s t : Database) : Prop where
  receipts : t.receipts = s.receipts ++ [r]
  redemptions : t.redemptions = s.redemptions ++ ds
  approvals : t.approvals = s.approvals ++ as
  ledger : t.ledger = s.ledger ++ es
  entries : ∀ e ∈ es, e.receiptId = some s.receipts.length ∧ e.reversesEntryId = none
  onReceipt : ∀ d ∈ ds, d.receiptId = s.receipts.length ∧ d.stateMachineCheck
  checks : ∀ a ∈ as, a.stateMachineCheck
  pending : as ≠ [] → r.captureStatus = .PENDING_APPROVAL ∧ r.reviewStatus = .PENDING
  filing : Filing s r ds as es

/-- What becomes of the redemption of a decided approval. -/
inductive RedemptionDecided (s t : Database) : ApprovalTarget → Prop
  | earn {i} (same : t.redemptions = s.redemptions) : RedemptionDecided s t (.EARN i)
  | redeem {i d d'} (row : s.redemptions[i]? = some d)
      (set : t.redemptions = s.redemptions.set i d') (check : d'.stateMachineCheck)
      (kept : d'.tenantId = d.tenantId ∧ d'.receiptId = d.receiptId) :
      RedemptionDecided s t (.REDEEM i)

/-- A pending approval decided or expired, with what is written on its receipt. -/
structure Decided (i : Nat) (a a' : Approval) (k : Nat) (r r' : Receipt)
    (es : List LoyaltyLedgerEntry) (s t : Database) : Prop where
  approval : s.approvals[i]? = some a
  pending : a.status = .PENDING
  kept : a'.target = a.target ∧ a'.tenantId = a.tenantId
  check : a'.stateMachineCheck
  subject : s.receiptIdOf a.target = some k
  receipt : s.receipts[k]? = some r
  reviewed : r'.tenantId = r.tenantId ∧ r'.captureStatus = r.captureStatus ∧
    r'.branchId = r.branchId
  approvals : t.approvals = s.approvals.set i a'
  receipts : t.receipts = s.receipts.set k r'
  redemption : RedemptionDecided s t a.target
  ledger : t.ledger = s.ledger ++ es
  entries : ∀ e ∈ es, e.receiptId = some k ∧ e.reversesEntryId = none
  filed : Filed a'.status r'.reviewStatus ((t.redemptionOf a.target).map (·.status))
    (es.map (·.type))

/-- Entries on no receipt; those that reverse an entry reverse all entries of its receipt. -/
structure Unreceipted (ids : List Nat) (es : List LoyaltyLedgerEntry) (s t : Database) : Prop where
  receipts : t.receipts = s.receipts
  approvals : t.approvals = s.approvals
  redemptions : t.redemptions = s.redemptions ∨ ∃ (j : Nat) (d d' : Redemption),
    s.redemptions[j]? = some d ∧ d.ledgerEntryId ≠ none ∧ d'.status = .REVERSED ∧
    d'.tenantId = d.tenantId ∧ d'.receiptId = d.receiptId ∧ d'.stateMachineCheck ∧
    t.redemptions = s.redemptions.set j d'
  ledger : t.ledger = s.ledger ++ es
  entries : ∀ e ∈ es, e.receiptId = none
  reverses : ∀ i, (∃ e ∈ es, e.reversesEntryId = some i) ↔ i ∈ ids
  existing : ∀ i ∈ ids, i < s.ledger.length
  closed : ∀ i ∈ ids, ∀ o k, s.ledger[i]? = some o → o.receiptId = some k →
    ∀ (j : Nat) x, s.ledger[j]? = some x → x.receiptId = some k → j ∈ ids

/-- What a committed transaction does at the desk. -/
inductive Move (s t : Database) : Prop
  | captured {r ds as es} (h : Captured r ds as es s t)
  | decided {i a a' k r r' es} (h : Decided i a a' k r r' es s t)
  | unreceipted {ids es} (h : Unreceipted ids es s t)

variable {s t : Database}

/-! ### What the rows of another approval see of a move -/

lemma effects_append {es : List LoyaltyLedgerEntry} {k : Nat} (hl : t.ledger = s.ledger ++ es) :
    t.effects k = s.effects k ++ (es.filter fun e => e.receiptId = some k).map (·.type) := by
  simp [Database.effects, hl]

lemma effects_other {es : List LoyaltyLedgerEntry} {k : Nat} (hl : t.ledger = s.ledger ++ es)
    (h : ∀ e ∈ es, e.receiptId ≠ some k) : t.effects k = s.effects k := by
  rw [effects_append hl, List.filter_eq_nil_iff.2 fun e he => by simpa using h e he]
  simp

lemma effects_own {es : List LoyaltyLedgerEntry} {k : Nat} (hl : t.ledger = s.ledger ++ es)
    (h0 : s.effects k = []) (h : ∀ e ∈ es, e.receiptId = some k) :
    t.effects k = es.map (·.type) := by
  rw [effects_append hl, h0, List.filter_eq_self.2 fun e he => by
    simpa using h e he, List.nil_append]

lemma Desk.effects_fresh (h : Desk s) {k : Nat} (hk : s.receipts.length ≤ k) :
    s.effects k = [] := by
  simp only [Database.effects, List.map_eq_nil_iff, List.filter_eq_nil_iff, decide_eq_true_eq]
  intro e he hrec
  have := h.entry e he k hrec
  omega

lemma OnFile.congr {a : Approval} {k : Nat} {r : Receipt} (h : OnFile s a k r)
    (hr : t.receipts[k]? = some r)
    (hd : t.receiptIdOf a.target = s.receiptIdOf a.target)
    (hten : ∀ d ∈ t.redemptionOf a.target, d.tenantId = a.tenantId)
    (hst : (t.redemptionOf a.target).map (·.status) = (s.redemptionOf a.target).map (·.status))
    (he : t.effects k = s.effects k) : OnFile t a k r :=
  ⟨hd.trans h.subject, hr, h.tenantId, hten, h.captureStatus, by rw [hst, he]; exact h.filed⟩

lemma OnFile.lt_receipts {a : Approval} {k : Nat} {r : Receipt} (h : OnFile s a k r) :
    k < s.receipts.length :=
  Table.lt_of_getElem? h.receipt

section subjects

variable {target : ApprovalTarget} {k : Nat}

lemma receiptIdOf_append {ds : List Redemption} (hd : t.redemptions = s.redemptions ++ ds)
    (h : s.receiptIdOf target = some k) : t.receiptIdOf target = s.receiptIdOf target := by
  cases target with
  | EARN => rfl
  | REDEEM j =>
      obtain ⟨d, hj, -⟩ := Option.map_eq_some_iff.1 h
      simp only [Database.receiptIdOf, hd, Table.getElem?_append hj, hj]

lemma redemptionOf_append {ds : List Redemption} (hd : t.redemptions = s.redemptions ++ ds)
    (h : s.receiptIdOf target = some k) : t.redemptionOf target = s.redemptionOf target := by
  cases target with
  | EARN => rfl
  | REDEEM j =>
      obtain ⟨d, hj, -⟩ := Option.map_eq_some_iff.1 h
      simp only [Database.redemptionOf, hd, Table.getElem?_append hj, hj]

lemma receiptIdOf_set {j : Nat} {d d' : Redemption} (hj : s.redemptions[j]? = some d)
    (hd' : d'.receiptId = d.receiptId) (hset : t.redemptions = s.redemptions.set j d') :
    t.receiptIdOf target = s.receiptIdOf target := by
  cases target with
  | EARN => rfl
  | REDEEM i =>
      simp only [Database.receiptIdOf, hset]
      by_cases hij : j = i
      · subst hij
        rw [List.getElem?_set_self (Table.lt_of_getElem? hj), hj, Option.map_some,
          Option.map_some, hd']
      · rw [List.getElem?_set_ne hij]

lemma redemptionOf_set_ne {j : Nat} {d' : Redemption}
    (hset : t.redemptions = s.redemptions.set j d')
    (hne : target ≠ .REDEEM j) : t.redemptionOf target = s.redemptionOf target := by
  cases target with
  | EARN => rfl
  | REDEEM i =>
      have hij : j ≠ i := fun h => hne (by rw [h])
      simp only [Database.redemptionOf, hset, List.getElem?_set_ne hij]

lemma RedemptionDecided.receiptIdOf {target' : ApprovalTarget} (h : RedemptionDecided s t target') :
    t.receiptIdOf target = s.receiptIdOf target := by
  cases h with
  | earn hsame => cases target <;> simp only [Database.receiptIdOf, hsame]
  | redeem hrow hset _ hkept => exact receiptIdOf_set hrow hkept.2 hset

end subjects

/-! ### Each move keeps the desk -/

lemma OnFile.captured {a : Approval} {k : Nat} {r x : Receipt} {ds : List Redemption}
    {as : List Approval} {es : List LoyaltyLedgerEntry} (ha : OnFile s a k r)
    (hc : Captured x ds as es s t) : OnFile t a k r := by
  have hd := redemptionOf_append hc.redemptions ha.subject
  refine ha.congr ?_ (receiptIdOf_append hc.redemptions ha.subject) ?_ (by rw [hd]) ?_
  · rw [hc.receipts]
    exact Table.getElem?_append ha.receipt
  · rw [hd]
    exact ha.redemption_tenantId
  · refine effects_other hc.ledger fun e he hk => ?_
    have hlt := ha.lt_receipts
    have hlen := Option.some.inj ((hc.entries e he).1.symm.trans hk)
    omega

namespace Desk

/-- The approval of a new receipt starts pending, with nothing on the receipt. -/
lemma file_opened (h : Desk s) {x : Receipt} {ds : List Redemption} {a : Approval}
    {es : List LoyaltyLedgerEntry} (hc : Captured x ds [a] es s t) :
    OnFile t a s.receipts.length x := by
  have hx : t.receipts[s.receipts.length]? = some x := by
    rw [hc.receipts]; exact Table.getElem?_insert_self ..
  obtain ⟨hcap, hrev⟩ := hc.pending (by simp)
  have hnone : es = [] := by cases hc.filing <;> rfl
  have heff : t.effects s.receipts.length = [] := by
    rw [effects_own hc.ledger (h.effects_fresh le_rfl) (by rw [hnone]; simp), hnone]
    rfl
  cases hc.filing with
  | earn hp ht hten =>
      refine ⟨by rw [ht]; rfl, hx, hten, by rw [ht]; simp [Database.redemptionOf], hcap, ?_⟩
      rw [ht, hp, hrev, heff]
      exact .pendingEarn
  | @redeem _ d hp ht hten hdten hwait =>
      have hd : t.redemptions[s.redemptions.length]? = some d := by
        rw [hc.redemptions]; exact Table.getElem?_insert_self ..
      have hrec := (hc.onReceipt d (List.mem_singleton_self d)).1
      refine ⟨?_, hx, hten, fun y hy => ?_, hcap, ?_⟩
      · rw [ht, Database.receiptIdOf, hd, Option.map_some, hrec]
      · rw [ht, Database.redemptionOf, hd] at hy
        obtain rfl := Option.some.inj hy
        exact hdten
      · rw [ht, hp, hrev, heff, Database.redemptionOf, hd, Option.map_some, hwait]
        exact .pendingRedeem

lemma captured (h : Desk s) {x : Receipt} {ds : List Redemption} {as : List Approval}
    {es : List LoyaltyLedgerEntry} (hc : Captured x ds as es s t) : Desk t := by
  have hone : as = [] ∨ ∃ a, as = [a] := by cases hc.filing <;> simp
  -- a row of the table is an old one, or the one that is opened
  have hrow : ∀ {i : Nat} {a}, t.approvals[i]? = some a →
      s.approvals[i]? = some a ∨ (i = s.approvals.length ∧ as = [a]) := by
    intro i a hi
    rw [hc.approvals] at hi
    rcases hone with rfl | ⟨b, rfl⟩
    · rw [List.append_nil] at hi; exact .inl hi
    · rcases Table.getElem?_insert_iff.1 hi with hi | ⟨hlen, rfl⟩
      · exact .inl hi
      · exact .inr ⟨hlen, rfl⟩
  have hold : ∀ {i : Nat} {a k}, s.approvals[i]? = some a → t.receiptIdOf a.target = some k →
      s.receiptIdOf a.target = some k ∧ k < s.receipts.length := by
    intro i a k hi hk
    obtain ⟨k', r, hf⟩ := h.file hi
    rw [receiptIdOf_append hc.redemptions hf.subject] at hk
    obtain rfl := Option.some.inj (hf.subject.symm.trans hk)
    exact ⟨hk, hf.lt_receipts⟩
  have hnew : ∀ {a k}, as = [a] → t.receiptIdOf a.target = some k → k = s.receipts.length := by
    rintro a k rfl hk
    exact Option.some.inj (hk.symm.trans (h.file_opened hc).subject)
  refine ⟨fun {i a} hi => ?_, fun {i j a b k} hi hj ha hb => ?_, fun a ha => ?_, fun d hd => ?_,
    fun e he k hk => ?_⟩
  · rcases hrow hi with hi | ⟨-, rfl⟩
    · obtain ⟨k, r, hf⟩ := h.file hi
      exact ⟨k, r, hf.captured hc⟩
    · exact ⟨_, _, h.file_opened hc⟩
  · rcases hrow hi with hi | ⟨rfl, hai⟩ <;> rcases hrow hj with hj | ⟨rfl, hbj⟩
    · exact h.apart hi hj (hold hi ha).1 (hold hj hb).1
    · have := (hold hi ha).2
      have := hnew hbj hb
      omega
    · have := (hold hj hb).2
      have := hnew hai ha
      omega
    · rfl
  · rw [hc.approvals, List.mem_append] at ha
    rcases ha with ha | ha
    · exact h.approval a ha
    · exact hc.checks a ha
  · rw [hc.redemptions, List.mem_append] at hd
    rw [hc.receipts, List.length_append, List.length_singleton]
    rcases hd with hd | hd
    · have := h.redemption d hd
      exact ⟨this.1, by omega⟩
    · have := hc.onReceipt d hd
      exact ⟨this.2, by omega⟩
  · rw [hc.ledger, List.mem_append] at he
    rw [hc.receipts, List.length_append, List.length_singleton]
    rcases he with he | he
    · have := h.entry e he k hk
      omega
    · have := Option.some.inj ((hc.entries e he).1.symm.trans hk)
      omega

/-- The approval that is decided, once it is. -/
lemma file_decided (h : Desk s) {i k : Nat} {a a' : Approval} {r r' : Receipt}
    {es : List LoyaltyLedgerEntry} (hc : Decided i a a' k r r' es s t) : OnFile t a' k r' := by
  obtain ⟨k', r0, hf⟩ := h.file hc.approval
  obtain rfl : k' = k := Option.some.inj (hf.subject.symm.trans hc.subject)
  obtain rfl : r0 = r := Option.some.inj (hf.receipt.symm.trans hc.receipt)
  obtain ⟨-, hempty, -⟩ := (hc.pending ▸ hf.filed).of_pending
  refine ⟨?_, ?_, ?_, fun d hd => ?_, ?_, ?_⟩
  · rw [hc.kept.1, hc.redemption.receiptIdOf, hc.subject]
  · rw [hc.receipts]
    exact List.getElem?_set_self hf.lt_receipts
  · rw [hc.reviewed.1, hc.kept.2, hf.tenantId]
  · rw [hc.kept.1] at hd
    rw [hc.kept.2]
    have hten := hf.redemption_tenantId
    have hred := hc.redemption
    revert hten hd hred
    cases a.target with
    | EARN => intro hd; cases hd
    | REDEEM j =>
        rintro hd hten (_ | @⟨_, x, x', hrow, hset, -, hkept⟩)
        rw [Database.redemptionOf, hset, List.getElem?_set_self (Table.lt_of_getElem? hrow)] at hd
        obtain rfl := Option.some.inj hd
        exact hkept.1.trans (hten x hrow)
  · rw [hc.reviewed.2.1, hf.captureStatus]
  · rw [hc.kept.1, effects_own hc.ledger hempty fun e he => (hc.entries e he).1]
    exact hc.filed

/-- A decision leaves the rows of every other approval as they are. -/
lemma file_other (h : Desk s) {i j k k' : Nat} {a a' b : Approval} {r r' x : Receipt}
    {es : List LoyaltyLedgerEntry} (hc : Decided i a a' k r r' es s t)
    (hj : s.approvals[j]? = some b) (hij : i ≠ j) (hf : OnFile s b k' x) : OnFile t b k' x := by
  have hne : k ≠ k' := by
    rintro rfl
    exact hij (h.apart hc.approval hj hc.subject hf.subject)
  have hd : t.redemptionOf b.target = s.redemptionOf b.target := by
    have hsub := hc.subject
    have hred := hc.redemption
    revert hsub hred
    cases a.target with
    | EARN =>
        rintro - (hsame | -)
        cases b.target <;> simp only [Database.redemptionOf, hsame]
    | REDEEM n =>
        rintro hsub (_ | @⟨_, d, d', hrow, hset, -, hkept⟩)
        refine redemptionOf_set_ne hset fun htar => hne ?_
        exact Option.some.inj (hsub.symm.trans (htar ▸ hf.subject))
  refine hf.congr ?_ hc.redemption.receiptIdOf ?_ (by rw [hd]) ?_
  · rw [hc.receipts, List.getElem?_set_ne hne]
    exact hf.receipt
  · rw [hd]
    exact hf.redemption_tenantId
  · refine effects_other hc.ledger fun e he hk => hne ?_
    exact Option.some.inj ((hc.entries e he).1.symm.trans hk)

lemma decided (h : Desk s) {i k : Nat} {a a' : Approval} {r r' : Receipt}
    {es : List LoyaltyLedgerEntry} (hc : Decided i a a' k r r' es s t) : Desk t := by
  have hlen : t.receipts.length = s.receipts.length := by rw [hc.receipts, List.length_set]
  have hrow : ∀ {j : Nat} {b}, t.approvals[j]? = some b →
      (i = j ∧ a' = b) ∨ (i ≠ j ∧ s.approvals[j]? = some b) := by
    intro j b hj
    rw [hc.approvals, Table.getElem?_set_iff] at hj
    rcases hj with ⟨hij, -, hb⟩ | hj
    · exact .inl ⟨hij, hb⟩
    · exact .inr hj
  -- the targets are those of before
  have htarget : ∀ {j : Nat} {b}, t.approvals[j]? = some b → ∃ b', s.approvals[j]? = some b' ∧
      t.receiptIdOf b.target = s.receiptIdOf b'.target := by
    intro j b hj
    rcases hrow hj with ⟨rfl, rfl⟩ | ⟨-, hj⟩
    · exact ⟨a, hc.approval, by rw [hc.kept.1]; exact hc.redemption.receiptIdOf⟩
    · exact ⟨b, hj, hc.redemption.receiptIdOf⟩
  refine ⟨fun {j b} hj => ?_, fun {j n b c m} hj hn hb hcm => ?_, fun b hb => ?_, fun d hd => ?_,
    fun e he m hm => ?_⟩
  · rcases hrow hj with ⟨rfl, rfl⟩ | ⟨hij, hj⟩
    · exact ⟨k, r', h.file_decided hc⟩
    · obtain ⟨k', x, hf⟩ := h.file hj
      exact ⟨k', x, h.file_other hc hj hij hf⟩
  · obtain ⟨b', hb', hbt⟩ := htarget hj
    obtain ⟨c', hc', hct⟩ := htarget hn
    exact h.apart hb' hc' (hbt.symm.trans hb) (hct.symm.trans hcm)
  · rw [hc.approvals] at hb
    rcases List.mem_or_eq_of_mem_set hb with hb | rfl
    · exact h.approval b hb
    · exact hc.check
  · rw [hlen]
    have hred := hc.redemption
    revert hred
    cases a.target with
    | EARN => rintro (hsame | -); exact h.redemption d (hsame ▸ hd)
    | REDEEM n =>
        rintro (_ | @⟨_, y, y', hy, hset, hcheck, hkept⟩)
        rw [hset] at hd
        rcases List.mem_or_eq_of_mem_set hd with hd | rfl
        · exact h.redemption d hd
        · refine ⟨hcheck, ?_⟩
          rw [hkept.2]
          exact (h.redemption y (List.mem_of_getElem? hy)).2
  · rw [hlen]
    rw [hc.ledger, List.mem_append] at he
    rcases he with he | he
    · exact h.entry e he m hm
    · obtain rfl := Option.some.inj ((hc.entries e he).1.symm.trans hm)
      exact Table.lt_of_getElem? hc.receipt

lemma settled_of_entry {d : Redemption} (hc : d.stateMachineCheck) (hd : d.ledgerEntryId ≠ none) :
    d.status = .CONFIRMED ∨ d.status = .REVERSED := by
  unfold Redemption.stateMachineCheck at hc
  cases hst : d.status <;> rw [hst] at hc
  · exact absurd hc.1 hd
  · exact .inl rfl
  · exact absurd hc.1 hd
  · exact absurd hc.1 hd
  · exact .inr rfl

/-- Entries on no receipt leave the rows of an approval filed. -/
lemma file_unreceipted (h : Desk s) {ids : List Nat} {es : List LoyaltyLedgerEntry}
    (hc : Unreceipted ids es s t) {a : Approval} {k : Nat} {r : Receipt} (hf : OnFile s a k r) :
    OnFile t a k r := by
  have heff : t.effects k = s.effects k := by
    refine effects_other hc.ledger fun e he hk => ?_
    rw [hc.entries e he] at hk
    cases hk
  have hrec : t.receipts[k]? = some r := by rw [hc.receipts]; exact hf.receipt
  rcases hc.redemptions with hsame | ⟨j, d, d', hj, hent, hrev, hten, hkept, hcheck, hset⟩
  · have hd : t.redemptionOf a.target = s.redemptionOf a.target := by
      cases a.target <;> simp only [Database.redemptionOf, hsame]
    refine hf.congr hrec ?_ ?_ (by rw [hd]) heff
    · cases a.target <;> simp only [Database.receiptIdOf, hsame]
    · rw [hd]
      exact hf.redemption_tenantId
  have hsub : t.receiptIdOf a.target = s.receiptIdOf a.target := receiptIdOf_set hj hkept hset
  by_cases htar : a.target = .REDEEM j
  · -- the redemption is the approval's: it was settled and is marked now
    have hd : s.redemptionOf a.target = some d := by rw [htar]; exact hj
    have hd' : t.redemptionOf a.target = some d' := by
      rw [htar, Database.redemptionOf, hset]
      exact List.getElem?_set_self (Table.lt_of_getElem? hj)
    refine ⟨hsub.trans hf.subject, hrec, hf.tenantId, fun x hx => ?_, hf.captureStatus, ?_⟩
    · obtain rfl := Option.some.inj (hd'.symm.trans hx)
      exact hten.trans (hf.redemption_tenantId d hd)
    · have hfiled := hf.filed
      have hst := settled_of_entry (h.redemption d (List.mem_of_getElem? hj)).1 hent
      rw [hd, Option.map_some] at hfiled
      rw [hd', Option.map_some, hrev, heff]
      generalize a.status = st, r.reviewStatus = rv, d.status = ds, s.effects k = es at *
      cases hfiled with
      | executedRedeem _ hes => exact .executedRedeem (.inr rfl) hes
      | _ => rcases hst with h | h <;> cases h
  · have hd := redemptionOf_set_ne hset htar
    refine hf.congr hrec hsub ?_ (by rw [hd]) heff
    rw [hd]
    exact hf.redemption_tenantId

lemma unreceipted (h : Desk s) {ids : List Nat} {es : List LoyaltyLedgerEntry}
    (hc : Unreceipted ids es s t) : Desk t := by
  have hsub : ∀ target, t.receiptIdOf target = s.receiptIdOf target := by
    intro target
    rcases hc.redemptions with hsame | ⟨j, d, d', hj, -, -, -, hkept, -, hset⟩
    · cases target <;> simp only [Database.receiptIdOf, hsame]
    · exact receiptIdOf_set hj hkept hset
  refine ⟨fun {i a} hi => ?_, fun {i j a b k} hi hj ha hb => ?_, fun a ha => ?_, fun d hd => ?_,
    fun e he k hk => ?_⟩
  · obtain ⟨k, r, hf⟩ := h.file (hc.approvals ▸ hi)
    exact ⟨k, r, h.file_unreceipted hc hf⟩
  · exact h.apart (hc.approvals ▸ hi) (hc.approvals ▸ hj) (hsub a.target ▸ ha) (hsub b.target ▸ hb)
  · exact h.approval a (hc.approvals ▸ ha)
  · rw [hc.receipts]
    rcases hc.redemptions with hsame | ⟨j, x, x', hj, -, -, -, hkept, hcheck, hset⟩
    · exact h.redemption d (hsame ▸ hd)
    · rw [hset] at hd
      rcases List.mem_or_eq_of_mem_set hd with hd | rfl
      · exact h.redemption d hd
      · refine ⟨hcheck, ?_⟩
        rw [hkept]
        exact (h.redemption x (List.mem_of_getElem? hj)).2
  · rw [hc.receipts]
    rw [hc.ledger, List.mem_append] at he
    rcases he with he | he
    · exact h.entry e he k hk
    · rw [hc.entries e he] at hk
      cases hk

/-- **Every move keeps all approvals filed.** -/
theorem move (h : Desk s) (hm : Move s t) : Desk t := by
  cases hm with
  | captured hc => exact h.captured hc
  | decided hc => exact h.decided hc
  | unreceipted hc => exact h.unreceipted hc

lemma initial (registry : Registry) : Desk (Database.initial registry) :=
  ⟨by simp [Database.initial], by simp [Database.initial], by simp [Database.initial],
    by simp [Database.initial], by simp [Database.initial]⟩

end Desk

end ShopcityLoyalty
