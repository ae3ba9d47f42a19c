import ShopcityLoyalty.CapturedRows
import ShopcityLoyalty.TransactionWrites

/-!
The audit of accepted timestamp overrides, over runs of the shop.

The entry is written where a receipt is credited at once. No later operation writes one, so a
capture that waits for approval stays without.
-/

namespace ShopcityLoyalty

open Txn Database LoyaltyService

variable {rt : Runtime} {req : EarnRequest} {adm : EarnAdmission} {now : Int}

/-- The audit log holds an override of the receipt's timestamp. -/
def OverrideAudited (rt : Runtime) (tenantId : String) (receiptId : Nat) (db : Database) : Prop :=
  ∃ a ∈ db.auditLog, a.tenantId = tenantId ∧ a.action = "earn.timestamp_override" ∧
    a.entityType = "receipt" ∧ a.entityId = rt.uuid .receipts receiptId

/-! ### What is written to the audit log -/

/-- No entry is lost. -/
def AuditLogGrows (s t : Database) : Prop := s.auditLog <+: t.auditLog

instance : Std.Refl AuditLogGrows := ⟨fun _ => List.prefix_rfl⟩

instance : IsTrans Database AuditLogGrows where
  trans _ _ _ h h' := List.IsPrefix.trans h h'

/-- No override is audited. -/
def NoNewOverride (s t : Database) : Prop :=
  ∀ a ∈ t.auditLog, a.action = "earn.timestamp_override" → a ∈ s.auditLog

instance : Std.Refl NoNewOverride := ⟨fun _ _ ha _ => ha⟩

instance : IsTrans Database NoNewOverride where
  trans _ _ _ h h' a ha hact := h a (h' a ha hact) hact

lemma auditLogGrows_writes (rt : Runtime) : Writes rt AuditLogGrows fun _ => True where
  rows s t _ _ haudit := by
    unfold AuditLogGrows
    rw [haudit]
  audit s a _ := List.prefix_append s.auditLog [a]
  event _ _ _ := List.prefix_rfl
  reversal _ _ _ _ _ _ := List.prefix_rfl
  faults _ _ := trivial

lemma noNewOverride_writes (rt : Runtime) : Writes rt NoNewOverride fun _ => True where
  rows s t _ _ haudit := by
    intro a ha _
    rw [haudit] at ha
    exact ha
  audit s b hb := by
    intro a ha hact
    rcases List.mem_append.1 ha with hold | hnew
    · exact hold
    · rw [List.mem_singleton.1 hnew] at hact
      exact absurd hact hb
  event _ _ _ _ ha _ := ha
  reversal _ _ _ _ _ _ _ ha _ := ha
  faults _ _ := trivial

lemma within_insertCreditLot {R : Database → Database → Prop} [Std.Refl R] [IsTrans Database R]
    (hrows : ∀ s t : Database, t.auditLog = s.auditLog → R s t) (tenantId customerId : String)
    (i : Nat) (k : PositiveKobo) (earnedAt expiresAt : Int) :
    Within R (fun _ => True) (insertCreditLot tenantId customerId i k earnedAt expiresAt) := by
  unfold insertCreditLot
  exact Within.bind within_get fun _ => Within.bind (within_orFault fun _ => trivial) fun _ =>
    Within.bind (within_rejectIf fun _ => trivial) fun _ =>
    Within.bind (within_rejectIf fun _ => trivial) fun _ =>
    Within.bind (within_update fun s => hrows s _ rfl) fun _ => within_pure _

lemma Step.auditLogGrows {op : Op} {s t : System} (h : Step rt op s t) :
    AuditLogGrows s.db t.db := by
  refine (auditLogGrows_writes rt).run (within_insertCreditLot fun s t hlog => ?_)
    (fun _ _ _ _ _ _ _ => within_update fun s => List.prefix_append _ _) h.runs
  unfold AuditLogGrows
  rw [hlog]

lemma Step.noNewOverride {op : Op} {s t : System} (h : Step rt op s t)
    (hop : ∀ req adm now, op = .earn req adm now →
      earnCaptureStatus rt req adm = .PENDING_APPROVAL ∨ ¬ adm.overrideApplied) :
    NoNewOverride s.db t.db := by
  refine (noNewOverride_writes rt).run (within_insertCreditLot fun s t hlog a ha _ => hlog ▸ ha)
    (fun req adm now heq hstatus hover => ?_) h.runs
  rcases hop req adm now heq with hpending | hnone
  · exact absurd hpending hstatus
  · exact absurd hover hnone

/-- What a direct earn writes of an override that it accepted. -/
structure OverrideRecorded (rt : Runtime) (req : EarnRequest) (receiptId : Nat) (s t : Database) :
    Prop where
  recorded : timestampOverrideAudit rt req receiptId ∈ t.auditLog
  only : ∀ a ∈ t.auditLog, a.action = "earn.timestamp_override" →
    a ∈ s.auditLog ∨ a = timestampOverrideAudit rt req receiptId

lemma OverrideRecorded.of_append {receiptId : Nat} {s t : Database} {a : AuditLog}
    (ha : a.action ≠ "earn.timestamp_override")
    (ht : t.auditLog = (s.auditLog ++ [a]) ++ [timestampOverrideAudit rt req receiptId]) :
    OverrideRecorded rt req receiptId s t := by
  constructor
  · rw [ht]
    exact List.mem_append_right _ List.mem_cons_self
  · intro b hb hact
    rw [ht, List.mem_append, List.mem_append] at hb
    rcases hb with (hold | hcredit) | hover
    · exact .inl hold
    · rw [List.mem_singleton.1 hcredit] at hact
      exact absurd hact ha
    · exact .inr (List.mem_singleton.1 hover)

lemma creditReceipt_override {ctx : EarnContext} {receiptId : Nat} {s t : Database}
    {res : EarnTransactionResponse} (hover : adm.overrideApplied)
    (h : creditReceipt rt req adm ctx receiptId now s = .ok (res, t)) :
    OverrideRecorded rt req receiptId s t := by
  simp only [creditReceipt, bind_ok, orFault_ok, insertLedgerEntry_ok, insertCreditLot_ok,
    insertOutboxEvent_ok, get_ok, insertIdempotencyRecord_ok, recordAudit_ok, onlyIf_ok,
    pure_ok] at h
  obtain ⟨k, _, ⟨-, rfl⟩, _, _, ⟨-, rfl, rfl⟩, _, _, ⟨l, -, -, -, -, rfl⟩, _, _, rfl, _, _, rfl,
    _, _, ⟨rfl, rfl⟩, _, _, ⟨-, rfl⟩, _, _, rfl, _, u, hlast, -, rfl⟩ := h
  rcases hlast with ⟨-, rfl⟩ | ⟨hnone, -⟩
  · refine .of_append (a := _) ?_ rfl
    simp
  · exact absurd hover hnone

/-- **A direct earn** audits the override that it accepted. -/
lemma earnTransaction_override {s t : Database} {res : EarnTransactionResponse}
    (hstatus : earnCaptureStatus rt req adm ≠ .PENDING_APPROVAL) (hover : adm.overrideApplied)
    (h : earnTransaction rt req adm now s = .ok (res, t)) :
    OverrideRecorded rt req s.receipts.length s t := by
  simp only [earnTransaction, bind_ok, get_ok, rejectIf_ok, orFault_ok, insertReceipt_ok, hstatus,
    if_false] at h
  obtain ⟨ctx, _, hctx, _, _, ⟨rfl, rfl⟩, _, _, ⟨-, rfl⟩, amount, _, ⟨-, rfl⟩, _, _, ⟨-, rfl, rfl⟩,
    hcredit⟩ := h
  obtain ⟨rfl, -⟩ := earnContext_ok hctx
  have hrecorded := creditReceipt_override hover hcredit
  exact ⟨hrecorded.recorded, hrecorded.only⟩

/-! ### Over runs -/

/-- The identifier is one of a receipt that did not wait for approval. -/
def CreditedAtOnce (rt : Runtime) (db : Database) (receiptId : String) : Prop :=
  ∃ i r, db.receipts[i]? = some r ∧ r.captureStatus ≠ .PENDING_APPROVAL ∧
    receiptId = rt.uuid .receipts i

/-- Every audited override is one of such a receipt. -/
def OverridesDirect (rt : Runtime) (db : Database) : Prop :=
  ∀ a ∈ db.auditLog, a.action = "earn.timestamp_override" → CreditedAtOnce rt db a.entityId

lemma CreditedAtOnce.kept {s t : Database} {receiptId : String} (h : CreditedAtOnce rt s receiptId)
    (hrows : RowsKept s t) : CreditedAtOnce rt t receiptId := by
  obtain ⟨i, r, hr, hstatus, hid⟩ := h
  obtain ⟨x, hx, hlater⟩ := hrows.receipts i r hr
  exact ⟨i, x, hx, hlater.captureStatus ▸ hstatus, hid⟩

lemma Step.earn_receipts {s t : System} (hs : Reachable rt s)
    (h : Step rt (.earn req adm now) s t) :
    ∃ r, t.db.receipts = s.db.receipts ++ [r] ∧ r.captureStatus = earnCaptureStatus rt req adm := by
  cases h.outcome hs.invariants.books.sound with
  | @earn _ _ _ ctx amount _ _ hcommitted =>
      refine ⟨earnReceipt rt req adm ctx amount now, ?_, rfl⟩
      cases hcommitted with
      | pending h => rw [h.frame]
      | credited h => rw [h.frame]

lemma Step.earn_override {s t : System} (h : Step rt (.earn req adm now) s t)
    (hstatus : earnCaptureStatus rt req adm ≠ .PENDING_APPROVAL) (hover : adm.overrideApplied) :
    OverrideRecorded rt req s.db.receipts.length s.db t.db := by
  obtain ⟨res, db, hok, rfl⟩ := System.commit_ok.1 h.runs
  exact earnTransaction_override hstatus hover hok

/-- **Each step** audits overrides of receipts credited at once only. -/
lemma Step.overridesDirect {op : Op} {s t : System} (hs : Reachable rt s) (h : Step rt op s t)
    (hdirect : OverridesDirect rt s.db) : OverridesDirect rt t.db := by
  have hrows := (h.outcome hs.invariants.books.sound).rowsKept
  by_cases hop : ∃ req adm now, op = .earn req adm now ∧
      earnCaptureStatus rt req adm ≠ .PENDING_APPROVAL ∧ adm.overrideApplied
  · obtain ⟨req, adm, now, rfl, hstatus, hover⟩ := hop
    intro a ha hact
    rcases (h.earn_override hstatus hover).only a ha hact with hold | rfl
    · exact (hdirect a hold hact).kept hrows
    · obtain ⟨r, hreceipts, hcapture⟩ := h.earn_receipts hs
      refine ⟨s.db.receipts.length, r, ?_, hcapture ▸ hstatus, rfl⟩
      rw [hreceipts]
      simp
  · have hnone : NoNewOverride s.db t.db := by
      refine h.noNewOverride fun req adm now heq => ?_
      by_contra hboth
      obtain ⟨hstatus, hover⟩ := not_or.1 hboth
      exact hop ⟨req, adm, now, heq, hstatus, not_not.1 hover⟩
    intro a ha hact
    exact (hdirect a (hnone a ha hact) hact).kept hrows

lemma Reachable.overridesDirect {s : System} (hs : Reachable rt s) : OverridesDirect rt s.db := by
  obtain ⟨registry, hrun⟩ := hs
  have hstep : ∀ {op : Op} {u v : System}, Reachable rt u ∧ OverridesDirect rt u.db →
      Step rt op u v → Reachable rt v ∧ OverridesDirect rt v.db :=
    fun ⟨hu, hdirect⟩ h => ⟨hu.step h, h.overridesDirect hu hdirect⟩
  have hinitial : OverridesDirect rt (System.initial registry).db := by
    intro a ha
    cases ha
  exact (hrun.invariant (I := fun u => Reachable rt u ∧ OverridesDirect rt u.db)
    (fun _ hu h => hstep hu h) ⟨⟨registry, .refl _⟩, hinitial⟩).2

lemma Steps.auditLogGrows {s t : System} (h : Steps rt s t) : AuditLogGrows s.db t.db := by
  have hrun := h.induct (I := fun _ => True) (R := fun u v : System => AuditLogGrows u.db v.db)
    (fun u => Std.Refl.refl u.db) (fun {u v w} huv hvw => IsTrans.trans u.db v.db w.db huv hvw)
    fun _ _ hstep => ⟨trivial, hstep.auditLogGrows⟩
  exact (hrun trivial).2

/-- **An accepted override is audited** exactly when its receipt is credited at once, however the
shop runs on. -/
theorem timestampOverride_audited_iff (hid : Function.Injective (rt.uuid .receipts))
    {s u t : System} (hs : Reachable rt s) (hstep : Step rt (.earn req adm now) s u)
    (hover : adm.overrideApplied) (ht : Steps rt u t) :
    OverrideAudited rt req.actor.tenantId s.db.receipts.length t.db ↔
      earnCaptureStatus rt req adm ≠ .PENDING_APPROVAL := by
  have hu := hs.step hstep
  constructor
  · rintro ⟨a, ha, -, hact, -, hentity⟩
    obtain ⟨i, x, hx, hstatus, hreceipt⟩ := (hu.steps ht).overridesDirect a ha hact
    obtain ⟨r, hreceipts, hcapture⟩ := hstep.earn_receipts hs
    have hr : u.db.receipts[s.db.receipts.length]? = some r := by
      rw [hreceipts]
      simp
    obtain ⟨y, hy, hlater⟩ := (ht.rowsKept hu.invariants).receipts _ r hr
    obtain rfl : i = s.db.receipts.length := hid (hreceipt.symm.trans hentity)
    obtain rfl : x = y := Option.some.inj (hx.symm.trans hy)
    rw [← hcapture, ← hlater.captureStatus]
    exact hstatus
  · intro hstatus
    have hrecorded := (hstep.earn_override hstatus hover).recorded
    exact ⟨_, ht.auditLogGrows.subset hrecorded, rfl, rfl, rfl, rfl⟩

namespace Shop

/-- A supervisor at the till enters a purchase of some days ago. -/
def belated (days : Int) : EarnRequest :=
  { purchase "k1" 9000000 with
    actor := ⟨"lead", "tenant", some "branch", .SUPERVISOR, some "till"⟩
    occurredAt := night - days * 86400000
    overrideReason := some "the till was down" }

/-- Another supervisor approves what waits. -/
def approveBelated : Op :=
  .decide ⟨supervisor, "d1", 0, .APPROVED, "checked the basket", sha256 "d1"⟩ night night

lemma runtime_receipts_injective : Function.Injective (runtime.uuid .receipts) := by
  intro i j hij
  have htext : toString i = toString j := (String.append_right_inj _).1 hij
  have hdigits : Nat.toDigits 10 i = Nat.toDigits 10 j := by
    simpa [toString, Nat.repr, String.ofList_inj] using htext
  calc i = Nat.ofDigitChars 10 (Nat.toDigits 10 i) 0 :=
        (Nat.ofDigitChars_toDigits (by decide) (by decide)).symm
    _ = Nat.ofDigitChars 10 (Nat.toDigits 10 j) 0 := by rw [hdigits]
    _ = j := Nat.ofDigitChars_toDigits (by decide) (by decide)

end Shop

/-- A purchase of yesterday is credited at once, and its override audited. -/
theorem timestampOverride_audited_shop : ∃ adm u,
    (admitEarn Shop.runtime (Shop.belated 1) Shop.night Shop.opened.db).map (·.1) = .ok adm ∧
      Step Shop.runtime (.earn (Shop.belated 1) adm Shop.night) Shop.opened u ∧
      OverrideAudited Shop.runtime "tenant" 0 u.db := by
  have hadmit : (admitEarn Shop.runtime (Shop.belated 1) Shop.night Shop.opened.db).map (·.1) =
      .ok ⟨"till", none, false, true⟩ := rfl
  obtain ⟨u, hrun, -⟩ := Reachable.of_runAll Shop.runtime Shop.registry
    [.earn (Shop.belated 1) ⟨"till", none, false, true⟩ Shop.night] (by decide +kernel)
    (by simp [Op.Admissible])
  have hsplit : Shop.opened.runAll Shop.runtime
      ([] ++ [.earn (Shop.belated 1) ⟨"till", none, false, true⟩ Shop.night]) = .ok u := hrun
  obtain ⟨v, hv, hlast⟩ := System.runAll_snoc hsplit
  obtain rfl : Shop.opened = v := Except.ok.inj hv
  have hstep : Step Shop.runtime (.earn (Shop.belated 1) ⟨"till", none, false, true⟩ Shop.night)
      Shop.opened u := ⟨hlast, trivial⟩
  have hiff := timestampOverride_audited_iff Shop.runtime_receipts_injective
    ⟨Shop.registry, .refl _⟩ hstep rfl (.refl u)
  exact ⟨_, u, hadmit, hstep, hiff.2 (by decide +kernel)⟩

/-- **A purchase of last week** has its override accepted and its approval executed, and no audit
entry says so. -/
theorem timestampOverride_unaudited : ∃ adm u t,
    (admitEarn Shop.runtime (Shop.belated 8) Shop.night Shop.opened.db).map (·.1) = .ok adm ∧
      adm.overrideApplied ∧ Step Shop.runtime (.earn (Shop.belated 8) adm Shop.night)
        Shop.opened u ∧
      ¬ OverrideAudited Shop.runtime "tenant" 0 u.db ∧ Step Shop.runtime Shop.approveBelated u t ∧
      t.db.approvals.map (·.status) = [.EXECUTED] ∧
      ¬ OverrideAudited Shop.runtime "tenant" 0 t.db := by
  have hadmit : (admitEarn Shop.runtime (Shop.belated 8) Shop.night Shop.opened.db).map (·.1) =
      .ok ⟨"till", none, true, true⟩ := rfl
  obtain ⟨t, hrun, -, hfacts⟩ := Reachable.of_runAll_map Shop.runtime Shop.registry
    [.earn (Shop.belated 8) ⟨"till", none, true, true⟩ Shop.night, Shop.approveBelated]
    (f := fun s => (s.db.approvals.map (·.status), s.db.auditLog.map (·.action)))
    (a := ([.EXECUTED], ["earn.request.approval_required", "approval.execute"]))
    (by decide +kernel) (by simp [Op.Admissible, Shop.approveBelated])
  obtain ⟨hstatus, hactions⟩ := Prod.mk.inj hfacts
  have hsplit : Shop.opened.runAll Shop.runtime
      ([.earn (Shop.belated 8) ⟨"till", none, true, true⟩ Shop.night] ++ [Shop.approveBelated]) =
        .ok t := hrun
  obtain ⟨u, hfirst, hlast⟩ := System.runAll_snoc hsplit
  have hone : Shop.opened.runAll Shop.runtime
      ([] ++ [.earn (Shop.belated 8) ⟨"till", none, true, true⟩ Shop.night]) = .ok u := hfirst
  obtain ⟨v, hv, hearn⟩ := System.runAll_snoc hone
  obtain rfl : Shop.opened = v := Except.ok.inj hv
  have hnone : ∀ a ∈ t.db.auditLog, a.action ≠ "earn.timestamp_override" := by
    intro a ha hact
    have hmem := List.mem_map_of_mem (f := AuditLog.action) ha
    rw [hactions, hact] at hmem
    simp at hmem
  have hunaudited : ¬ OverrideAudited Shop.runtime "tenant" 0 t.db := by
    rintro ⟨a, ha, -, hact, -⟩
    exact hnone a ha hact
  have hdecide : Step Shop.runtime Shop.approveBelated u t := ⟨hlast, trivial⟩
  refine ⟨_, u, t, hadmit, rfl, ⟨hearn, trivial⟩, ?_, hdecide, hstatus, hunaudited⟩
  rintro ⟨a, ha, -, hact, -⟩
  exact hnone a (hdecide.auditLogGrows.subset ha) hact

end ShopcityLoyalty
