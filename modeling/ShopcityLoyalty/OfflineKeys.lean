import ShopcityLoyalty.EarnForm

/-!
The idempotency keys of the purchases saved on a device.

`Carries` says where a key is held for a purchase besides the stored records: by the form, by
the stored draft, by a request in flight. A stored record shares its key with no other
purchase as long as whatever carries its key is about the same purchase.
-/

namespace ShopcityLoyalty

open EarnTransactionController

/-- What tells one purchase from another. -/
structure Purchase where
  cardBarcode : String
  receiptNumber : String
  purchaseAmountKobo : Int
  occurredAtLocal : String
  deriving DecidableEq

def EarnFields.purchase (fields : EarnFields) : Purchase where
  cardBarcode := trim fields.cardSerialNumber
  receiptNumber := trim fields.receiptNumber
  purchaseAmountKobo := fields.purchaseAmount.getD 0
  occurredAtLocal := fields.occurredAt

def OfflineEarnRecord.purchase (record : OfflineEarnRecord) : Purchase where
  cardBarcode := record.cardBarcode
  receiptNumber := record.receiptNumber
  purchaseAmountKobo := record.purchaseAmountKobo
  occurredAtLocal := record.occurredAtLocal

/-- Stored records of different purchases have different keys. -/
def DistinctKeys (records : OfflineStore) : Prop :=
  ∀ r ∈ records, ∀ r' ∈ records, r.idempotencyKey = r'.idempotencyKey → r.purchase = r'.purchase

instance : DecidablePred DistinctKeys := fun records =>
  inferInstanceAs (Decidable (∀ r ∈ records, ∀ r' ∈ records, _ → _))

namespace EarnPage

/-- Who holds a key, and for which purchase. -/
inductive Carries (page : EarnPage) : String → Purchase → Prop
  | form : Carries page page.controller.idempotencyKeyRef page.controller.fields.purchase
  | draft {d} (h : page.earnDraft = some d) : Carries page d.idempotencyKey d.purchase
  | request {s} (h : s ∈ page.submissions) : Carries page (page.keyOf s) s.fields.purchase

lemma carries_iff {page : EarnPage} {key : String} {p : Purchase} :
    page.Carries key p ↔
      (key = page.controller.idempotencyKeyRef ∧ p = page.controller.fields.purchase) ∨
      (∃ d ∈ page.earnDraft, key = d.idempotencyKey ∧ p = d.purchase) ∨
      ∃ s ∈ page.submissions, key = page.keyOf s ∧ p = s.fields.purchase := by
  constructor
  · rintro (_ | hd | hs)
    · exact .inl ⟨rfl, rfl⟩
    · exact .inr (.inl ⟨_, hd, rfl, rfl⟩)
    · exact .inr (.inr ⟨_, hs, rfl, rfl⟩)
  · rintro (⟨rfl, rfl⟩ | ⟨d, hd, rfl, rfl⟩ | ⟨s, hs, rfl, rfl⟩)
    · exact .form
    · exact .draft hd
    · exact .request hs

/-- A change of the fields under a kept key leaves the purchase as it is, where a stored
record has the key. -/
def KeepsPurchase (page : EarnPage) (key : String) (f : EarnFields → EarnFields)
    (fields : EarnFields) : Prop :=
  (∃ r ∈ page.records, r.idempotencyKey = key) → (f fields).purchase = fields.purchase

/-- The purchase is changed only under a key that no stored record has, and a request that
throws is saved only while its key stands for the purchase it was about. -/
def Careful (page : EarnPage) : EarnEvent → Prop
  | .edit edit =>
      page.KeepsPurchase page.controller.idempotencyKeyRef edit.apply page.controller.fields
  | .receiveProps props _ =>
      page.KeepsPurchase page.controller.idempotencyKeyRef (applyLookup props.lookupContext)
        page.controller.fields
  | .mount _ => ∀ d ∈ page.earnDraft,
      page.KeepsPurchase d.idempotencyKey (applyLookup page.props.lookupContext) d.toEarnFields
  | .throws s none => ∀ p, page.Carries (page.keyOf s) p → p = s.fields.purchase
  | _ => True

instance (page : EarnPage) (key : String) (f : EarnFields → EarnFields) (fields : EarnFields) :
    Decidable (page.KeepsPurchase key f fields) :=
  inferInstanceAs (Decidable ((∃ r ∈ page.records, _) → _))

lemma throws_careful_iff {page : EarnPage} {s : EarnSubmission} :
    (∀ p, page.Carries (page.keyOf s) p → p = s.fields.purchase) ↔
      (page.keyOf s = page.controller.idempotencyKeyRef →
        page.controller.fields.purchase = s.fields.purchase) ∧
      (∀ d ∈ page.earnDraft, page.keyOf s = d.idempotencyKey → d.purchase = s.fields.purchase) ∧
      ∀ s' ∈ page.submissions, page.keyOf s = page.keyOf s' →
        s'.fields.purchase = s.fields.purchase := by
  constructor
  · intro h
    refine ⟨fun hk => h _ (hk ▸ .form), fun d hd hk => h _ (hk ▸ .draft hd), fun s' hs' hk => ?_⟩
    exact h _ (hk ▸ .request hs')
  · rintro ⟨hform, hdraft, hrequest⟩ p hp
    rcases carries_iff.1 hp with ⟨hk, rfl⟩ | ⟨d, hd, hk, rfl⟩ | ⟨s', hs', hk, rfl⟩
    · exact hform hk
    · exact hdraft d hd hk
    · exact hrequest s' hs' hk

instance (page : EarnPage) : DecidablePred page.Careful
  | .edit _ => inferInstanceAs (Decidable (page.KeepsPurchase _ _ _))
  | .receiveProps _ _ => inferInstanceAs (Decidable (page.KeepsPurchase _ _ _))
  | .mount _ => inferInstanceAs (Decidable (∀ d ∈ page.earnDraft, page.KeepsPurchase _ _ _))
  | .throws _ none => decidable_of_iff _ throws_careful_iff.symm
  | .throws _ (some _) => inferInstanceAs (Decidable True)
  | .resetDraft _ => inferInstanceAs (Decidable True)
  | .handleSubmit => inferInstanceAs (Decidable True)
  | .respond _ _ _ => inferInstanceAs (Decidable True)

/-- The key is one of the identifiers drawn so far. -/
def Drawn (browser : Browser) (n : Nat) (key : String) : Prop :=
  ∃ i < n, key = browser.randomUUID i

/-- What a page's records have to do with what carries their keys. -/
structure Sound (browser : Browser) (page : EarnPage) : Prop where
  carried : ∀ r ∈ page.records, ∀ p, page.Carries r.idempotencyKey p → p = r.purchase
  distinct : DistinctKeys page.records
  drawn : ∀ key p, page.Carries key p → Drawn browser page.drawn key
  recorded : ∀ r ∈ page.records, Drawn browser page.drawn r.idempotencyKey

variable {browser : Browser} {page page' : EarnPage}

lemma Drawn.mono {n m : Nat} {key : String} (h : Drawn browser n key) (hnm : n ≤ m) :
    Drawn browser m key := by
  obtain ⟨i, hi, hkey⟩ := h
  exact ⟨i, by omega, hkey⟩

lemma drawn_next (n : Nat) : Drawn browser (n + 1) (browser.randomUUID n) :=
  ⟨n, by omega, rfl⟩

lemma Sound.fresh (h : Sound browser page) {r : OfflineEarnRecord} (hr : r ∈ page.records) :
    r.idempotencyKey ≠ browser.randomUUID page.drawn := by
  obtain ⟨i, hi, hkey⟩ := h.recorded r hr
  intro heq
  have : i = page.drawn := browser.randomUUID_injective (hkey.symm.trans heq)
  omega

/-- What a step without a new record has to show of each holder of a key: it held the key
before, or it holds it for the purchase of the records that have it. -/
lemma Sound.of_carries (h : Sound browser page) (hrecords : page'.records = page.records)
    (hdrawn : page.drawn ≤ page'.drawn)
    (hc : ∀ key p, page'.Carries key p → page.Carries key p ∨ (Drawn browser page'.drawn key ∧
      ∀ r ∈ page.records, r.idempotencyKey = key → p = r.purchase)) : Sound browser page' where
  carried r hr p hp := by
    rw [hrecords] at hr
    rcases hc _ _ hp with hold | ⟨-, hsame⟩
    · exact h.carried r hr p hold
    · exact hsame r hr rfl
  distinct := by
    rw [hrecords]
    exact h.distinct
  drawn key p hp := by
    rcases hc _ _ hp with hold | ⟨hnew, -⟩
    · exact (h.drawn key p hold).mono hdrawn
    · exact hnew
  recorded r hr := by
    rw [hrecords] at hr
    exact (h.recorded r hr).mono hdrawn

lemma Sound.next (h : Sound browser page) {p : Purchase} :
    Drawn browser (page.drawn + 1) (browser.randomUUID page.drawn) ∧
      ∀ r ∈ page.records, r.idempotencyKey = browser.randomUUID page.drawn → p = r.purchase :=
  ⟨drawn_next _, fun _ hr heq => absurd heq (h.fresh hr)⟩

/-! ### Each event -/

lemma Sound.rendered (h : Sound browser page) {fields : EarnFields} {status : EarnStatus}
    (hkeep : ∀ r ∈ page.records, r.idempotencyKey = page.controller.idempotencyKeyRef →
      fields.purchase = r.purchase) : Sound browser (page.render fields status) := by
  have hform : ∀ key, key = page.controller.idempotencyKeyRef →
      Drawn browser page.drawn key ∧
        ∀ r ∈ page.records, r.idempotencyKey = key → fields.purchase = r.purchase := by
    rintro key rfl
    exact ⟨h.drawn _ _ .form, hkeep⟩
  refine h.of_carries rfl le_rfl fun key p hp => ?_
  cases hp with
  | form => exact .inr (hform _ rfl)
  | draft hd =>
      simp only [render] at hd
      split at hd
      · exact .inl (.draft hd)
      · obtain rfl := Option.some.inj hd
        exact .inr (hform _ rfl)
  | request hs => exact .inl (.request hs)

lemma Sound.edited (h : Sound browser page) {f : EarnFields → EarnFields}
    (hkeep : page.KeepsPurchase page.controller.idempotencyKeyRef f page.controller.fields) :
    Sound browser (page.edit f) := by
  refine h.rendered fun r hr hkey => ?_
  rw [hkeep ⟨r, hr, hkey⟩]
  exact h.carried r hr _ (hkey ▸ .form)

lemma Sound.rotated (h : Sound browser page) {fields : EarnFields} {status : EarnStatus} :
    Sound browser ((page.rotateKey browser).render fields status) := by
  have hrotated : Sound browser (page.rotateKey browser) := by
    refine h.of_carries rfl (Nat.le_succ _) fun key p hp => ?_
    cases hp with
    | form => exact .inr h.next
    | draft hd => exact .inl (.draft hd)
    | @request s hs =>
        cases hu : s.unmountedRef with
        | none =>
            have hkey : (page.rotateKey browser).keyOf s = browser.randomUUID page.drawn := by
              simp [keyOf, hu, rotateKey]
            rw [hkey]
            exact .inr h.next
        | some k =>
            have hkey : (page.rotateKey browser).keyOf s = page.keyOf s := by
              simp [keyOf, hu]
            rw [hkey]
            exact .inl (.request hs)
  exact hrotated.rendered fun r hr hkey => absurd hkey (h.fresh hr)

lemma Sound.handleSubmit (h : Sound browser page) : Sound browser (page.handleSubmit browser) := by
  unfold EarnPage.handleSubmit
  split
  · exact h
  split
  · refine h.of_carries rfl le_rfl fun key p hp => ?_
    cases hp with
    | form => exact .inl .form
    | draft hd => exact .inl (.draft hd)
    | request hs => exact .inl (.request hs)
  · refine h.of_carries rfl le_rfl fun key p hp => ?_
    cases hp with
    | form => exact .inl .form
    | draft hd => exact .inl (.draft hd)
    | request hs =>
        rcases List.mem_append.1 hs with hs | hs
        · exact .inl (.request hs)
        · obtain rfl := List.mem_singleton.1 hs
          exact .inl .form

lemma Sound.dropped (h : Sound browser page) {draft : Option EarnDraftState}
    {submissions : List EarnSubmission} (hd : ∀ d, draft = some d → page.earnDraft = some d)
    (hs : ∀ s ∈ submissions, s ∈ page.submissions) :
    Sound browser { page with earnDraft := draft, submissions } := by
  refine h.of_carries rfl le_rfl fun key p hp => ?_
  cases hp with
  | form => exact .inl .form
  | draft hdraft => exact .inl (.draft (hd _ hdraft))
  | request hin => exact .inl (.request (hs _ hin))

lemma Sound.setStatus (h : Sound browser page) (s : EarnSubmission) (status : EarnStatus) :
    Sound browser (page.setStatus s status) := by
  unfold EarnPage.setStatus
  split
  · exact h
  · refine h.of_carries rfl le_rfl fun key p hp => ?_
    cases hp with
    | form => exact .inl .form
    | draft hd => exact .inl (.draft hd)
    | request hs => exact .inl (.request hs)

lemma Sound.respond (h : Sound browser page) (s : EarnSubmission) (status : Nat) (now : Int) :
    Sound browser (page.respond browser s status now) := by
  have hremoved : Sound browser { page with earnDraft := none } :=
    h.dropped (by simp) fun _ hs => hs
  unfold EarnPage.respond
  split
  · dsimp only
    split
    · exact hremoved
    · exact hremoved.rotated
  · exact h.setStatus s .error

lemma Sound.mount (h : Sound browser page) {now : Int} (hc : page.Careful (.mount now)) :
    Sound browser (page.mount browser now) := by
  -- the form and the draft hold the draft's key, or a fresh one
  have hhydrated : ∀ key p, key = (page.earnDraft.getD { emptyFields now with
        idempotencyKey := browser.randomUUID page.drawn }).idempotencyKey →
      p = (applyLookup page.props.lookupContext (page.earnDraft.getD { emptyFields now with
        idempotencyKey := browser.randomUUID page.drawn }).toEarnFields).purchase →
      Drawn browser (page.drawn + 1) key ∧
        ∀ r ∈ page.records, r.idempotencyKey = key → p = r.purchase := by
    rintro key p rfl rfl
    cases hd : page.earnDraft with
    | none => exact h.next
    | some d =>
        refine ⟨(h.drawn _ _ (.draft hd)).mono (Nat.le_succ _), fun r hr hkey => ?_⟩
        have hkeep := hc d hd ⟨r, hr, hkey⟩
        exact hkeep.trans (h.carried r hr _ (hkey ▸ .draft hd))
  refine h.of_carries rfl (Nat.le_succ _) fun key p hp => ?_
  cases hp with
  | form => exact .inr (hhydrated _ _ rfl rfl)
  | draft hd =>
      obtain rfl := Option.some.inj hd
      exact .inr (hhydrated _ _ rfl rfl)
  | request hs =>
      obtain ⟨s, hold, rfl⟩ := List.mem_map.1 hs
      exact .inl (.request hold)

lemma offlineRecord_some {props : EarnTransactionControllerProps} {fields : EarnFields}
    {localId key : String} {record : OfflineEarnRecord}
    (h : offlineRecord browser props fields localId key = some record) :
    record.localId = localId ∧ record.idempotencyKey = key ∧
      record.purchase = fields.purchase := by
  simp only [offlineRecord, Option.bind_eq_bind, Option.bind_eq_some_iff, Option.pure_def,
    Option.some.injEq] at h
  obtain ⟨_, -, _, -, _, -, rfl⟩ := h
  exact ⟨rfl, rfl, rfl⟩

lemma saveOfflineEarnRecord_cases (failure : Option String) (record : OfflineEarnRecord)
    (store : OfflineStore) :
    (∃ e, saveOfflineEarnRecord failure record store = (.error e, store)) ∨
      (failure = none ∧ saveOfflineEarnRecord failure record store = (.ok, store.put record)) := by
  unfold saveOfflineEarnRecord runWrite
  split
  · exact .inl ⟨_, rfl⟩
  · cases failure with
    | some e => exact .inl ⟨e, rfl⟩
    | none => exact .inr ⟨rfl, rfl⟩

/-- A record saved while everything that carries its key is about its purchase. -/
lemma Sound.saved (h : Sound browser page) {record : OfflineEarnRecord}
    (hcarried : ∀ p, page.Carries record.idempotencyKey p → p = record.purchase)
    (hrecords : ∀ r ∈ page.records, r.idempotencyKey = record.idempotencyKey →
      r.purchase = record.purchase)
    (hdrawn : Drawn browser page.drawn record.idempotencyKey) :
    Sound browser { page with records := page.records.put record, drawn := page.drawn + 1 } := by
  have hcases : ∀ key p, ({ page with records := page.records.put record
                                      drawn := page.drawn + 1 } : EarnPage).Carries key p →
      page.Carries key p := by
    intro key p hp
    cases hp with
    | form => exact .form
    | draft hd => exact .draft hd
    | request hs => exact .request hs
  refine ⟨fun r hr p hp => ?_, fun r hr r' hr' hkey => ?_, fun key p hp => ?_, fun r hr => ?_⟩
  · rcases OfflineStore.mem_put.1 hr with rfl | ⟨hr, -⟩
    · exact hcarried p (hcases _ _ hp)
    · exact h.carried r hr p (hcases _ _ hp)
  · rcases OfflineStore.mem_put.1 hr with heq | ⟨hold, -⟩ <;>
      rcases OfflineStore.mem_put.1 hr' with heq' | ⟨hold', -⟩
    · rw [heq, heq']
    · subst heq
      exact (hrecords r' hold' hkey.symm).symm
    · subst heq'
      exact hrecords r hold hkey
    · exact h.distinct r hold r' hold' hkey
  · exact (h.drawn key p (hcases _ _ hp)).mono (Nat.le_succ _)
  · rcases OfflineStore.mem_put.1 hr with rfl | ⟨hr, -⟩
    · exact hdrawn.mono (Nat.le_succ _)
    · exact (h.recorded r hr).mono (Nat.le_succ _)

lemma Sound.drawAnother (h : Sound browser page) :
    Sound browser { page with drawn := page.drawn + 1 } := by
  refine h.of_carries rfl (Nat.le_succ _) fun key p hp => ?_
  cases hp with
  | form => exact .inl .form
  | draft hd => exact .inl (.draft hd)
  | request hs => exact .inl (.request hs)

lemma Carries.of_erase {s : EarnSubmission} {key : String} {p : Purchase}
    (h : Carries { page with submissions := page.submissions.erase s } key p) :
    page.Carries key p := by
  cases h with
  | form => exact .form
  | draft hd => exact .draft hd
  | request hs => exact .request (List.mem_of_mem_erase hs)

lemma throws_cases (browser : Browser) (page : EarnPage) (s : EarnSubmission)
    (failure : Option String) :
    (∃ status, page.throws browser s failure =
      EarnPage.setStatus { page with drawn := page.drawn + 1 } s status) ∨
    ∃ record, failure = none ∧ offlineRecord browser s.props s.fields
        (browser.randomUUID page.drawn) (page.keyOf s) = some record ∧
      saveOfflineEarnRecord none record page.records = (.ok, page.records.put record) ∧
      page.throws browser s failure = EarnPage.setStatus
        { page with records := page.records.put record, drawn := page.drawn + 1 } s .pending := by
  unfold EarnPage.throws
  dsimp only
  split
  · exact .inl ⟨.error, rfl⟩
  rename_i record hrecord
  rcases saveOfflineEarnRecord_cases failure record page.records with ⟨e, hsave⟩ | ⟨hnone, hsave⟩
  · rw [hsave]
    exact .inl ⟨.error, rfl⟩
  · subst hnone
    rw [hsave]
    exact .inr ⟨record, rfl, hrecord, hsave, rfl⟩

lemma Sound.throws (h : Sound browser page) {s : EarnSubmission} {failure : Option String}
    (hs : s ∈ page.submissions) (hc : page.Careful (.throws s failure)) :
    Sound browser (EarnPage.throws browser
      { page with submissions := page.submissions.erase s } s failure) := by
  have herased : Sound browser { page with submissions := page.submissions.erase s } :=
    h.dropped (fun _ hd => hd) fun _ hin => List.mem_of_mem_erase hin
  rcases throws_cases browser { page with submissions := page.submissions.erase s } s failure with
    ⟨status, heq⟩ | ⟨record, rfl, hrecord, -, heq⟩
  · rw [heq]
    exact herased.drawAnother.setStatus s status
  rw [heq]
  obtain ⟨-, hkey, hpurchase⟩ := offlineRecord_some hrecord
  have hkey' : record.idempotencyKey = page.keyOf s := hkey
  refine (herased.saved (fun p hp => ?_) (fun r hr hrkey => ?_) ?_).setStatus s .pending
  · rw [hpurchase]
    refine hc p ?_
    rw [← hkey']
    exact hp.of_erase
  · rw [hpurchase]
    have hrkey' : r.idempotencyKey = page.keyOf s := hrkey.trans hkey'
    exact (h.carried r hr _ (hrkey' ▸ .request hs)).symm
  · rw [hkey']
    exact h.drawn _ _ (.request hs)

/-- **Every careful event** keeps the keys of stored records apart. -/
theorem Sound.step (h : Sound browser page) {event : EarnEvent} (hc : page.Careful event) :
    Sound browser (page.step browser event) := by
  cases event with
  | edit edit => exact h.edited hc
  | receiveProps props another =>
      have hprops : Sound browser { page with props } := by
        refine h.of_carries rfl le_rfl fun key p hp => ?_
        cases hp with
        | form => exact .inl .form
        | draft hd => exact .inl (.draft hd)
        | request hs => exact .inl (.request hs)
      simp only [EarnPage.step]
      split
      · exact hprops.edited hc
      · exact hprops
  | resetDraft now => exact h.rotated
  | handleSubmit => exact h.handleSubmit
  | respond s status now =>
      simp only [EarnPage.step]
      split
      · have herased : Sound browser { page with submissions := page.submissions.erase s } :=
          h.dropped (fun _ hd => hd) fun _ hin => List.mem_of_mem_erase hin
        exact herased.respond s status now
      · exact h
  | throws s failure =>
      simp only [EarnPage.step]
      split
      · exact h.throws ‹_› hc
      · exact h
  | mount now => exact h.mount hc

/-! ### What an event sends and stores -/

/-- The requests that an event sends. -/
def sends (browser : Browser) (page : EarnPage) : EarnEvent → List EarnSubmission
  | .handleSubmit => (page.handleSubmit browser).submissions.drop page.submissions.length
  | _ => []

/-- The record that an event stores. -/
def saves (browser : Browser) (page : EarnPage) : EarnEvent → Option OfflineEarnRecord
  | .throws s none =>
      if s ∈ page.submissions then
        (offlineRecord browser s.props s.fields (browser.randomUUID page.drawn)
          (page.keyOf s)).filter fun record =>
            (saveOfflineEarnRecord none record page.records).1 = .ok
      else none
  | _ => none

lemma sends_key {event : EarnEvent} {x : EarnSubmission} (h : x ∈ page.sends browser event) :
    x.idempotencyKey = page.controller.idempotencyKeyRef := by
  cases event with
  | handleSubmit =>
      unfold sends EarnPage.handleSubmit at h
      dsimp only at h
      split at h
      · simp at h
      split at h
      · simp at h
      · rw [List.drop_left] at h
        obtain rfl := List.mem_singleton.1 h
        rfl
  | _ => cases h

lemma step_drawn (page : EarnPage) (event : EarnEvent) :
    page.drawn ≤ (page.step browser event).drawn := by
  have hstatus : ∀ (page : EarnPage) s status, (page.setStatus s status).drawn = page.drawn := by
    intro page s status
    unfold EarnPage.setStatus
    split <;> rfl
  cases event with
  | edit edit => exact le_rfl
  | receiveProps props another =>
      simp only [EarnPage.step]
      split <;> exact le_rfl
  | resetDraft now => exact Nat.le_succ _
  | handleSubmit =>
      simp only [EarnPage.step, EarnPage.handleSubmit]
      split
      · exact le_rfl
      split <;> exact le_rfl
  | respond s status now =>
      simp only [EarnPage.step]
      split
      · unfold EarnPage.respond
        dsimp only
        split
        · split
          · exact le_rfl
          · exact Nat.le_succ _
        · rw [hstatus]
      · exact le_rfl
  | throws s failure =>
      simp only [EarnPage.step]
      split
      · rcases throws_cases browser { page with submissions := page.submissions.erase s } s failure
          with ⟨status, heq⟩ | ⟨record, -, -, -, heq⟩
        · rw [heq, hstatus]
          exact Nat.le_succ _
        · rw [heq, hstatus]
          exact Nat.le_succ _
      · exact le_rfl
  | mount now => exact Nat.le_succ _

/-- The records after an event: those before it, and the one it stores under a new local id. -/
lemma step_records (page : EarnPage) (event : EarnEvent) :
    (page.step browser event).records = page.records ∨
      ∃ record ∈ page.saves browser event,
        (page.step browser event).records = page.records.put record ∧
        record.localId = browser.randomUUID page.drawn ∧
        (page.step browser event).drawn = page.drawn + 1 := by
  have hstatus : ∀ (page : EarnPage) s status,
      (page.setStatus s status).records = page.records ∧
        (page.setStatus s status).drawn = page.drawn := by
    intro page s status
    unfold EarnPage.setStatus
    split <;> exact ⟨rfl, rfl⟩
  cases event with
  | edit edit => exact .inl rfl
  | receiveProps props another =>
      simp only [EarnPage.step]
      split <;> exact .inl rfl
  | resetDraft now => exact .inl rfl
  | handleSubmit =>
      simp only [EarnPage.step, EarnPage.handleSubmit]
      split
      · exact .inl rfl
      split <;> exact .inl rfl
  | respond s status now =>
      simp only [EarnPage.step]
      split
      · unfold EarnPage.respond
        dsimp only
        split
        · split <;> exact .inl rfl
        · exact .inl (hstatus _ _ _).1
      · exact .inl rfl
  | throws s failure =>
      simp only [EarnPage.step]
      split
      -- only a submission that threw is kept, under an id drawn for it
      · rename_i hs
        rcases throws_cases browser { page with submissions := page.submissions.erase s } s failure
          with ⟨status, heq⟩ | ⟨record, rfl, hrecord, hsave, heq⟩
        · rw [heq]
          exact .inl (hstatus _ _ _).1
        have hsaved : (saveOfflineEarnRecord none record page.records).1 = .ok :=
          congrArg Prod.fst hsave
        refine .inr ⟨record, ?_, ?_, (offlineRecord_some hrecord).1, ?_⟩
        · rw [saves, if_pos hs]
          exact Option.mem_filter_iff.2 ⟨hrecord, by simpa using hsaved⟩
        · rw [heq]
          exact (hstatus _ _ _).1
        · rw [heq]
          exact (hstatus _ _ _).2
      · exact .inl rfl
  | mount now => exact .inl rfl

lemma sound_opened (browser : Browser) (props : EarnTransactionControllerProps) (now : Int) :
    Sound browser (opened browser props now) := by
  have hblank : Sound browser (EarnPage.mk ⟨browser.randomUUID 0, emptyFields now, .idle⟩ props
      none [] [] 1) := by
    refine ⟨by simp, by simp [DistinctKeys], fun key p hp => ?_, by simp⟩
    cases hp with
    | form => exact drawn_next 0
    | draft hd => simp at hd
    | request hs => simp at hs
  have hcases : ∀ key p, (opened browser props now).Carries key p →
      key = browser.randomUUID 0 := by
    intro key p hp
    cases hp with
    | form => rfl
    | draft hd =>
        obtain rfl := Option.some.inj hd
        rfl
    | request hs => cases hs
  refine hblank.of_carries rfl le_rfl fun key p hp => .inr ⟨?_, by simp⟩
  rw [hcases key p hp]
  exact drawn_next 0

end EarnPage

/-! ### A browser -/

namespace Shop

def browser : Browser where
  randomUUID n := String.ofList (List.replicate (n + 1) '0')
  randomUUID_injective := by
    intro n m h
    simpa using congrArg List.length (String.ofList_injective h)
  parse text := if text = "2023-11-14T22:13:20.000Z" then some 1700000000000 else none
  localDate _ t := (Calendar.split t).1
  localWeekday _ t := weekdayNames.getD ((t / Calendar.msPerDay + 4) % 7).toNat ""
  toUpperCase := id

end Shop

end ShopcityLoyalty
