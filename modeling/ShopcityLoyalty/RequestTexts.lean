import Mathlib.Data.String.Basic
import ShopcityLoyalty.Earn
import ShopcityLoyalty.Lib.CalendarTexts
import ShopcityLoyalty.Lib.JsonTexts
import ShopcityLoyalty.OfflineSync
import ShopcityLoyalty.Redemption
import ShopcityLoyalty.System

/-!
What the hash of a request stands for.

The text that is hashed is the stable text of the request's normalized fields. Stable texts are
canonical and injective, so two requests have one hash exactly when their fields are equal,
unless their texts collide.
-/

namespace ShopcityLoyalty

/-! ### The order of the request keys -/

/-- The order the model sorts the fields of its objects by. -/
def keyOrder (a b : String) : Prop := a.toLower ≤ b.toLower

instance : DecidableRel keyOrder := fun a b => inferInstanceAs (Decidable (a.toLower ≤ b.toLower))

namespace Json

mutual

/-- The same value with its numbers for integers. -/
def toValue : Json → JsonValue Int
  | undefined => .undefined
  | null => .null
  | bool b => .bool b
  | number n => .number n
  | string s => .string s
  | array es => .array (toValues es)
  | object fs => .object (toFields fs)

def toValues : List Json → List (JsonValue Int)
  | [] => []
  | e :: es => toValue e :: toValues es

def toFields : List (String × Json) → List (String × JsonValue Int)
  | [] => []
  | f :: fs => toField f :: toFields fs

def toField : String × Json → String × JsonValue Int
  | (k, v) => (k, toValue v)

end

lemma stableStringify_toValue (v : Json) :
    stableStringify v = JsonValue.stableStringify keyOrder (toValue v) := by
  refine @Json.rec (fun v => stableStringify v = JsonValue.stableStringify keyOrder (toValue v))
    (fun es => stableElements es = JsonValue.stableElements keyOrder (toValues es))
    (fun fs => stableEntries fs = JsonValue.stableEntries keyOrder (toFields fs))
    (fun f => stableEntry f = JsonValue.stableEntry keyOrder (toField f))
    ?_ ?_ ?_ ?_ ?_ ?_ ?_ ?_ ?_ ?_ ?_ ?_ v
  · simp [stableStringify, toValue, JsonValue.stableStringify, scalar, JsonValue.scalar]
  · simp [stableStringify, toValue, JsonValue.stableStringify, scalar, JsonValue.scalar]
  · intro b
    cases b <;> simp [stableStringify, toValue, JsonValue.stableStringify, scalar, JsonValue.scalar]
  · intro n
    simp only [stableStringify, toValue, JsonValue.stableStringify, scalar, JsonValue.scalar]
    rfl
  · intro s
    simp [stableStringify, toValue, JsonValue.stableStringify, scalar, JsonValue.scalar]
  · intro es hes
    simp only [stableStringify, toValue, JsonValue.stableStringify, hes]
  · intro fs hfs
    simp only [stableStringify, toValue, JsonValue.stableStringify, hfs]
    rfl
  · simp [stableElements, toValues, JsonValue.stableElements]
  · intro e es he hes
    cases e with
    | undefined => simp only [stableElements, toValues, toValue, JsonValue.stableElements, hes]
    | _ =>
      rw [toValue] at he
      simp only [stableElements, toValues, toValue, JsonValue.stableElements, he, hes]
  · simp [stableEntries, toFields, JsonValue.stableEntries]
  · intro f fs hf hfs
    simp only [stableEntries, toFields, JsonValue.stableEntries, hf, hfs]
  · intro k v hv
    simp only [stableEntry, toField, JsonValue.stableEntry, hv]

end Json

lemma keyOrder_total (a b : String) : keyOrder a b ∨ keyOrder b a := le_total a.toLower b.toLower

lemma keyOrder_trans (a b c : String) (hab : keyOrder a b) (hbc : keyOrder b c) : keyOrder a c :=
  le_trans (a := a.toLower) hab hbc

lemma keyOrder_antisymm {a b : String} (hab : keyOrder a b) (hba : keyOrder b a) :
    a.toLower = b.toLower :=
  le_antisymm (a := a.toLower) hab hba

namespace Json

/-- A value without parts. -/
def Leaf : Json → Prop
  | array _ => False
  | object _ => False
  | _ => True

lemma toFields_eq (fs : List (String × Json)) :
    toFields fs = fs.map fun f => (f.1, toValue f.2) := by
  induction fs with
  | nil => simp [toFields]
  | cons f fs ih =>
    obtain ⟨k, v⟩ := f
    simp [toFields, toField, ih]

lemma Leaf.eq_of_same {v w : Json} (hv : Leaf v) (h : JsonValue.Same (toValue v) (toValue w)) :
    v = w := by
  cases v <;> cases w <;> simp_all [Leaf, toValue, JsonValue.Same]

lemma Leaf.each {p : List String → Prop} {v : Json} (hv : Leaf v) :
    JsonValue.EachObject p (toValue v) := by
  cases v <;> simp_all [Leaf, toValue, JsonValue.EachObject]

lemma Leaf.dense {v : Json} (hv : Leaf v) : (toValue v).Dense := by
  cases v <;> simp_all [Leaf, toValue, JsonValue.Dense]

lemma eq_of_subset {fs gs : List (String × Json)} (hkeys : fs.map Prod.fst = gs.map Prod.fst)
    (hnodup : (fs.map Prod.fst).Nodup) (h : ∀ f ∈ fs, f ∈ gs) : fs = gs := by
  induction fs generalizing gs with
  | nil => simpa using hkeys
  | cons f fs ih =>
    cases gs with
    | nil => simp at hkeys
    | cons g gs =>
      simp only [List.map_cons, List.cons.injEq, List.nodup_cons] at hkeys hnodup
      obtain ⟨hkey, hrest⟩ := hkeys
      have hf : f = g := by
        rcases List.mem_cons.1 (h f (by simp)) with hf | hf
        · exact hf
        · exact absurd (hrest ▸ List.mem_map_of_mem hf) hnodup.1
      have htail : fs = gs := by
        refine ih hrest hnodup.2 fun f' hf' => ?_
        rcases List.mem_cons.1 (h f' (by simp [hf'])) with heq | hin
        · rw [heq, ← hf] at hf'
          exact absurd (List.mem_map_of_mem hf') hnodup.1
        · exact hin
      rw [hf, htail]

/-- A flat object: values without parts under keys that differ in more than case. -/
structure Flat (fs : List (String × Json)) : Prop where
  keys : ((fs.map Prod.fst).map String.toLower).Nodup
  leaf : ∀ f ∈ fs, Leaf f.2

lemma Flat.nodup {fs : List (String × Json)} (h : Flat fs) : (fs.map Prod.fst).Nodup :=
  h.keys.of_map

lemma Flat.keyed {fs : List (String × Json)} (h : Flat fs) :
    JsonValue.Keyed keyOrder (toValue (object fs)) := by
  have hmap : (toFields fs).map Prod.fst = fs.map Prod.fst := by
    simp [toFields_eq]
  rw [toValue, JsonValue.Keyed, JsonValue.EachObject, JsonValue.eachField_iff, hmap]
  refine ⟨⟨h.nodup, fun a ha b hb hab hba => ?_⟩, ?_⟩
  · exact List.inj_on_of_nodup_map h.keys ha hb (keyOrder_antisymm hab hba)
  · intro f hf
    rw [toFields_eq] at hf
    obtain ⟨g, hg, rfl⟩ := List.mem_map.1 hf
    exact (h.leaf g hg).each

lemma Flat.dense {fs : List (String × Json)} (h : Flat fs) : (toValue (object fs)).Dense := by
  rw [toValue, JsonValue.Dense, JsonValue.denseFields_iff, toFields_eq]
  intro f hf
  obtain ⟨g, hg, rfl⟩ := List.mem_map.1 hf
  exact (h.leaf g hg).dense

/-- **The texts of flat objects** over one list of keys agree exactly when the values do. -/
theorem stableStringify_flat_iff {fs gs : List (String × Json)} (hf : Flat fs) (hg : Flat gs)
    (hkeys : fs.map Prod.fst = gs.map Prod.fst) :
    stableStringify (object fs) = stableStringify (object gs) ↔ fs = gs := by
  rw [stableStringify_toValue, stableStringify_toValue, JsonValue.stableStringify_eq_iff_same
    keyOrder_total keyOrder_trans hf.keyed hg.keyed hf.dense hg.dense]
  constructor
  · intro hsame
    rw [toValue, toValue, JsonValue.Same, JsonValue.sameFields_iff] at hsame
    refine eq_of_subset hkeys hf.nodup fun f hfmem => ?_
    have hfin : (f.1, toValue f.2) ∈ toFields fs := by
      rw [toFields_eq]
      exact List.mem_map.2 ⟨f, hfmem, rfl⟩
    obtain ⟨w, hw, hsamew⟩ := hsame.2 _ hfin
    rw [toFields_eq] at hw
    obtain ⟨g, hgmem, heq⟩ := List.mem_map.1 hw
    obtain ⟨hkey, hvalue⟩ := Prod.ext_iff.1 heq
    simp only at hkey hvalue hsamew
    rw [← hvalue] at hsamew
    have hfg : f = g := Prod.ext hkey.symm ((hf.leaf f hfmem).eq_of_same hsamew)
    rwa [hfg]
  · rintro rfl
    exact (JsonValue.same_iff_sorted keyOrder_total keyOrder_trans _ _ hf.keyed hf.keyed).2 rfl

end Json

/-! ### Requests and their hashes -/

open Txn

/-- Two different texts with one digest. -/
def Collide (a b : String) : Prop := a ≠ b ∧ sha256 a = sha256 b

lemma sha256_eq_iff {a b : String} (h : ¬ Collide a b) : sha256 a = sha256 b ↔ a = b := by
  constructor
  · intro hdigest
    by_contra hne
    exact h ⟨hne, hdigest⟩
  · rintro rfl
    rfl

lemma optionString_inj (a b : Option String) {none_ : Json} (hnone : ∀ s, none_ ≠ .string s) :
    (a.map Json.string).getD none_ = (b.map Json.string).getD none_ ↔ a = b := by
  cases a <;> cases b <;> simp [hnone, eq_comm]

/-- The fields an earn request is recognised by. -/
def EarnRequest.normalizedFields (req : EarnRequest) :=
  (req.actor.tenantId, req.actor.id, req.cardSerialNumber, req.normalizedPosReceiptNumber,
    req.purchaseAmountKobo, req.occurredAt, req.actor.deviceId, req.overrideReason)

/-- The fields a redemption request is recognised by. -/
def RedeemRequest.normalizedFields (req : RedeemRequest) :=
  (req.actor.tenantId, req.actor.id, req.cardSerialNumber, req.normalizedPosReceiptNumber,
    req.basketAmountKobo, req.requestedRedemptionKobo, req.occurredAt, req.actor.deviceId)

/-- The fields an offline record is recognised by. -/
def OfflineSyncService.normalizedFields (actor : AuthContext) (deviceId : String)
    (record : OfflineEarnBatchRecordInput) (cardBarcode receiptNumber receiptWeekStart : String) :=
  (actor.tenantId, deviceId, record.localId, record.idempotencyKey, record.cashierId,
    record.branchId,
    cardBarcode, receiptNumber, receiptWeekStart, record.purchaseAmountKobo, record.occurredAtLocal)

lemma earnRequestText_eq_iff {actor actor' : AuthContext} {card card' receipt receipt' : String}
    {dto dto' : EarnTransactionDto} {reason reason' : Option String} :
    LoyaltyService.earnRequestText actor card receipt dto reason =
        LoyaltyService.earnRequestText actor' card' receipt' dto' reason' ↔
      (actor.tenantId, actor.id, card, receipt, dto.purchaseAmountKobo, dto.occurredAt,
        actor.deviceId,
          reason) =
        (actor'.tenantId, actor'.id, card', receipt', dto'.purchaseAmountKobo, dto'.occurredAt,
          actor'.deviceId, reason') := by
  have hflat : ∀ (actor : AuthContext) (card receipt : String) (dto : EarnTransactionDto)
      (reason : Option String), Json.Flat [("tenantId", .string actor.tenantId),
        ("actorId", .string actor.id), ("cardSerialNumber", .string card),
        ("posReceiptNumber", .string receipt),
          ("purchaseAmountKobo", .number dto.purchaseAmountKobo),
        ("occurredAt", .string (Calendar.toISOString dto.occurredAt)),
        ("deviceId", (actor.deviceId.map Json.string).getD .null),
        ("overrideReason", (reason.map Json.string).getD .undefined)] := by
    intro actor card receipt dto reason
    refine ⟨?_, ?_⟩
    · simp only [List.map_cons, List.map_nil]
      decide +kernel
    · cases actor.deviceId <;> cases reason <;> simp [Json.Leaf]
  unfold LoyaltyService.earnRequestText
  rw [Json.stableStringify_flat_iff (hflat actor card receipt dto reason)
    (hflat actor' card' receipt' dto' reason') (by simp only [List.map_cons, List.map_nil])]
  have hdate : Calendar.toISOString dto.occurredAt = Calendar.toISOString dto'.occurredAt ↔
      dto.occurredAt = dto'.occurredAt := ⟨Calendar.toISOString_inj, congrArg _⟩
  have hnull : ∀ s, Json.null ≠ .string s := by simp
  have hdevice := optionString_inj actor.deviceId actor'.deviceId hnull
  have hundefined : ∀ s, Json.undefined ≠ .string s := by simp
  have hreason := optionString_inj reason reason' hundefined
  simp only [List.cons.injEq, Prod.mk.injEq, Json.string.injEq, Json.number.injEq, hdate, hdevice,
    hreason, and_true, true_and]

lemma redeemRequestText_eq_iff {actor actor' : AuthContext} {card card' receipt receipt' : String}
    {dto dto' : RedeemTransactionDto} :
    RedemptionsService.redeemRequestText actor card receipt dto =
        RedemptionsService.redeemRequestText actor' card' receipt' dto' ↔
      (actor.tenantId, actor.id, card, receipt, dto.basketAmountKobo, dto.requestedRedemptionKobo,
          dto.occurredAt, actor.deviceId) =
        (actor'.tenantId, actor'.id, card', receipt', dto'.basketAmountKobo,
          dto'.requestedRedemptionKobo, dto'.occurredAt, actor'.deviceId) := by
  have hflat : ∀ (actor : AuthContext) (card receipt : String) (dto : RedeemTransactionDto),
      Json.Flat [("tenantId", .string actor.tenantId), ("actorId", .string actor.id),
        ("cardSerialNumber", .string card), ("posReceiptNumber", .string receipt),
        ("basketAmountKobo", .number dto.basketAmountKobo),
        ("requestedRedemptionKobo", .number dto.requestedRedemptionKobo),
        ("occurredAt", .string (Calendar.toISOString dto.occurredAt)),
        ("deviceId", (actor.deviceId.map Json.string).getD .null)] := by
    intro actor card receipt dto
    refine ⟨?_, ?_⟩
    · simp only [List.map_cons, List.map_nil]
      decide +kernel
    · cases actor.deviceId <;> simp [Json.Leaf]
  unfold RedemptionsService.redeemRequestText
  rw [Json.stableStringify_flat_iff (hflat actor card receipt dto)
    (hflat actor' card' receipt' dto') (by simp only [List.map_cons, List.map_nil])]
  have hdate : Calendar.toISOString dto.occurredAt = Calendar.toISOString dto'.occurredAt ↔
      dto.occurredAt = dto'.occurredAt := ⟨Calendar.toISOString_inj, congrArg _⟩
  have hnull : ∀ s, Json.null ≠ .string s := by simp
  have hdevice := optionString_inj actor.deviceId actor'.deviceId hnull
  simp only [List.cons.injEq, Prod.mk.injEq, Json.string.injEq, Json.number.injEq, hdate, hdevice,
    and_true, true_and]

lemma offlineRequestText_eq_iff {actor actor' : AuthContext} {deviceId deviceId' : String}
    {record record' : OfflineEarnBatchRecordInput}
    {card card' receipt receipt' week week' : String} :
    OfflineSyncService.requestText actor deviceId record card receipt week =
        OfflineSyncService.requestText actor' deviceId' record' card' receipt' week' ↔
      OfflineSyncService.normalizedFields actor deviceId record card receipt week =
        OfflineSyncService.normalizedFields actor' deviceId' record' card' receipt' week' := by
  have hflat : ∀ (actor : AuthContext) (deviceId : String) (record : OfflineEarnBatchRecordInput)
      (card receipt week : String), Json.Flat [("tenantId", .string actor.tenantId),
        ("deviceId", .string deviceId), ("localId", .string record.localId),
        ("idempotencyKey", .string record.idempotencyKey), ("cashierId", .string record.cashierId),
        ("branchId", .string record.branchId), ("cardBarcode", .string card),
        ("receiptNumber", .string receipt), ("receiptWeekStart", .string week),
        ("purchaseAmountKobo", .number record.purchaseAmountKobo),
        ("occurredAtLocal", .string record.occurredAtLocal)] := by
    intro actor deviceId record card receipt week
    refine ⟨?_, by simp [Json.Leaf]⟩
    simp only [List.map_cons, List.map_nil]
    decide +kernel
  unfold OfflineSyncService.requestText OfflineSyncService.normalizedFields
  rw [Json.stableStringify_flat_iff (hflat actor deviceId record card receipt week)
    (hflat actor' deviceId' record' card' receipt' week')
      (by simp only [List.map_cons, List.map_nil])]
  simp only [List.cons.injEq, Prod.mk.injEq, Json.string.injEq, Json.number.injEq,
    and_true, true_and]

/-- The text an earn request was hashed from. -/
def EarnRequest.hashedText (req : EarnRequest) : String :=
  LoyaltyService.earnRequestText req.actor req.cardSerialNumber req.normalizedPosReceiptNumber
    ⟨req.cardSerialNumber, req.posReceiptNumber, req.purchaseAmountKobo, req.occurredAt,
      req.overrideReason⟩ req.overrideReason

/-- The text a redemption request was hashed from. -/
def RedeemRequest.hashedText (req : RedeemRequest) : String :=
  RedemptionsService.redeemRequestText req.actor req.cardSerialNumber req.normalizedPosReceiptNumber
    ⟨req.cardSerialNumber, req.posReceiptNumber, req.basketAmountKobo, req.requestedRedemptionKobo,
      req.occurredAt⟩

lemma earnRequest_hash {rt : Runtime} {actor : AuthContext} {key : Option String}
    {dto : EarnTransactionDto} {req : EarnRequest} {s t : Database}
    (h : LoyaltyService.earnRequest rt actor key dto s = .ok (req, t)) :
    req.requestHash = sha256 req.hashedText := by
  simp only [LoyaltyService.earnRequest, bind_ok, pure_ok, rejectIf_ok] at h
  obtain ⟨_, _, -, _, _, -, _, _, -, rfl, -⟩ := h
  rfl

lemma redeemRequest_hash {rt : Runtime} {actor : AuthContext} {key : Option String}
    {dto : RedeemTransactionDto} {req : RedeemRequest} {s t : Database}
    (h : RedemptionsService.redeemRequest rt actor key dto s = .ok (req, t)) :
    req.requestHash = sha256 req.hashedText := by
  simp only [RedemptionsService.redeemRequest, bind_ok, pure_ok] at h
  obtain ⟨_, _, -, _, _, -, _, _, -, rfl, -⟩ := h
  rfl

lemma offline_hash {rt : Runtime} {actor : AuthContext} {deviceId : String}
    {record : OfflineEarnBatchRecordInput} {hash : Digest} {card receipt week : String}
    (h : OfflineSyncService.requestHash rt actor deviceId record = .ok hash)
    (hcard : OfflineSyncService.normalizeCardBarcode rt record.cardBarcode = .ok card)
    (hreceipt : OfflineSyncService.normalizeReceiptNumber record.receiptNumber = .ok receipt)
    (hweek : OfflineSyncService.normalizeReceiptWeekStart record.receiptWeekStart = .ok week) :
    hash = sha256 (OfflineSyncService.requestText actor deviceId record card receipt week) := by
  simp only [OfflineSyncService.requestHash, hcard, hreceipt, hweek] at h
  exact (Except.ok.inj h).symm

/-- A request that is looked up under the key of another is a conflict when their hashes differ,
and only then. -/
lemma precheckRecord_conflict_iff {record : IdempotencyRecord Response} {hash : Digest}
    {inProgress : Fault} (hne : inProgress ≠ idempotencyConflict) (s : Database) :
    precheckRecord (some record) hash inProgress s = .error idempotencyConflict ↔
      record.requestHash ≠ hash := by
  unfold precheckRecord
  by_cases hhash : record.requestHash = hash
  · have hpass : rejectIf (record.requestHash ≠ hash) idempotencyConflict =
        (pure () : Tx Unit) := by
      unfold rejectIf
      rw [if_neg (by simpa using hhash)]
    constructor
    · intro h
      simp only [hpass] at h
      cases hresponse : record.responseJson with
      | some response =>
        rw [hresponse] at h
        cases h
      | none =>
        rw [hresponse] at h
        exact absurd (Except.error.inj h) hne
    · intro h
      exact absurd hhash h
  · have hstop : rejectIf (record.requestHash ≠ hash) idempotencyConflict =
        (fault idempotencyConflict : Tx Unit) := by
      unfold rejectIf
      rw [if_pos hhash]
    simp only [hstop]
    exact iff_of_true rfl hhash

/-- **The stable text stands for the value**: two JSON values, whose arrays hold no `undefined`,
have one text exactly when they are equal up to the order of their fields. So, unless their texts
collide, an earn, a redemption or an offline record under the key of another is taken for the same
request exactly when the normalized fields of the two are equal. -/
theorem stableStringify_stands_for_value (localeCompare : LinearOrder String) :
    (∀ v w : JsonValue Decimal, v.DistinctKeys → w.DistinctKeys → v.Dense → w.Dense →
      (JsonValue.stableStringify localeCompare.le v = JsonValue.stableStringify localeCompare.le w ↔
        v.Same w)) ∧
    (∀ {rt rt' actor actor' key key' dto dto' s s' t t'} {req req' : EarnRequest},
      LoyaltyService.earnRequest rt actor key dto s = .ok (req, t) →
      LoyaltyService.earnRequest rt' actor' key' dto' s' = .ok (req', t') →
      ¬ Collide req.hashedText req'.hashedText →
      ∀ record : IdempotencyRecord Response, record.requestHash = req.requestHash → ∀ db,
        (precheckRecord (some record) req'.requestHash LoyaltyService.earnInProgress db =
            .error idempotencyConflict ↔ req.normalizedFields ≠ req'.normalizedFields)) ∧
    (∀ {rt rt' actor actor' key key' dto dto' s s' t t'} {req req' : RedeemRequest},
      RedemptionsService.redeemRequest rt actor key dto s = .ok (req, t) →
      RedemptionsService.redeemRequest rt' actor' key' dto' s' = .ok (req', t') →
      ¬ Collide req.hashedText req'.hashedText →
      ∀ record : IdempotencyRecord Response, record.requestHash = req.requestHash → ∀ db,
        (precheckRecord (some record) req'.requestHash RedemptionsService.redeemInProgress db =
            .error idempotencyConflict ↔ req.normalizedFields ≠ req'.normalizedFields)) ∧
    (∀ {rt rt' actor actor' deviceId deviceId' record record' card card' receipt
      receipt' week week'}
      {hash hash' : Digest},
      OfflineSyncService.requestHash rt actor deviceId record = .ok hash →
      OfflineSyncService.requestHash rt' actor' deviceId' record' = .ok hash' →
      OfflineSyncService.normalizeCardBarcode rt record.cardBarcode = .ok card →
      OfflineSyncService.normalizeCardBarcode rt' record'.cardBarcode = .ok card' →
      OfflineSyncService.normalizeReceiptNumber record.receiptNumber = .ok receipt →
      OfflineSyncService.normalizeReceiptNumber record'.receiptNumber = .ok receipt' →
      OfflineSyncService.normalizeReceiptWeekStart record.receiptWeekStart = .ok week →
      OfflineSyncService.normalizeReceiptWeekStart record'.receiptWeekStart = .ok week' →
      ¬ Collide (OfflineSyncService.requestText actor deviceId record card receipt week)
        (OfflineSyncService.requestText actor' deviceId' record' card' receipt' week') →
      (hash = hash' ↔ OfflineSyncService.normalizedFields actor deviceId record card receipt week =
        OfflineSyncService.normalizedFields actor' deviceId' record' card' receipt' week') ∧
      ∀ (key : OfflineAttemptKey) (row : OfflineSyncAttempt), row.requestHash = hash →
        OfflineSyncService.normalizedFields actor deviceId record card receipt week ≠
          OfflineSyncService.normalizedFields actor' deviceId' record' card' receipt' week' →
        OfflineSyncService.replayAttempt key hash' record'.localId row =
          pure (OfflineSyncService.buildRejectedResult record'.localId
            "SYNC_RECORD_CONFLICT")) := by
  refine ⟨?_, ?_, ?_, ?_⟩
  · intro v w hv hw hdense hdense'
    exact JsonValue.stableStringify_eq_iff_same localeCompare.le_total
      (fun a b c => localeCompare.le_trans a b c)
      (hv.keyed fun a b => localeCompare.le_antisymm a b)
      (hw.keyed fun a b => localeCompare.le_antisymm a b) hdense hdense'
  · intro rt rt' actor actor' key key' dto dto' s s' t t' req req' hreq hreq' hcollide
      record hrecord db
    rw [precheckRecord_conflict_iff (by decide), hrecord, earnRequest_hash hreq,
      earnRequest_hash hreq', ne_eq, sha256_eq_iff hcollide]
    exact not_congr earnRequestText_eq_iff
  · intro rt rt' actor actor' key key' dto dto' s s' t t' req req' hreq hreq' hcollide
      record hrecord db
    rw [precheckRecord_conflict_iff (by decide), hrecord, redeemRequest_hash hreq,
      redeemRequest_hash hreq', ne_eq, sha256_eq_iff hcollide]
    exact not_congr redeemRequestText_eq_iff
  · intro rt rt' actor actor' deviceId deviceId' record record' card card' receipt
      receipt' week week'
      hash hash' hhash hhash' hcard hcard' hreceipt hreceipt' hweek hweek' hcollide
    have hiff : hash = hash' ↔ OfflineSyncService.normalizedFields actor deviceId record card
      receipt week =
        OfflineSyncService.normalizedFields actor' deviceId' record' card' receipt' week' := by
      rw [offline_hash hhash hcard hreceipt hweek, offline_hash hhash' hcard' hreceipt' hweek',
        sha256_eq_iff hcollide]
      exact offlineRequestText_eq_iff
    refine ⟨hiff, fun key row hrow hfields => ?_⟩
    have hne : row.requestHash ≠ hash' := by
      rw [hrow]
      exact fun heq => hfields (hiff.1 heq)
    unfold OfflineSyncService.replayAttempt
    rw [if_pos hne]

namespace Shop

/-- A card scanned with a blank before it is the same card. -/
def scanned (card : String) : EarnTransactionDto where
  cardSerialNumber := card
  posReceiptNumber := "R-17"
  purchaseAmountKobo := 250000
  occurredAt := night
  overrideReason := none

def scannedRequest : EarnRequest where
  actor := cashier
  idempotencyKey := "scan"
  cardSerialNumber := "CARD"
  posReceiptNumber := "R-17"
  normalizedPosReceiptNumber := "R-17"
  purchaseAmountKobo := 250000
  occurredAt := night
  overrideReason := none
  requestHash := sha256 (LoyaltyService.earnRequestText cashier "CARD" "R-17" (scanned "CARD") none)

def one : JsonValue Decimal := .number ⟨false, 1, 0, by decide⟩

end Shop

lemma earnRequest_scanned {card : String} (hcard : trim card = "CARD") (s : Database) :
    LoyaltyService.earnRequest Shop.runtime Shop.cashier (some "scan") (Shop.scanned card) s =
      .ok (Shop.scannedRequest, s) := by
  have hkey : trim "scan" = "scan" := by decide +kernel
  have hnumber : trim "R-17" = "R-17" := by decide +kernel
  have hupper : ∀ text, Shop.runtime.toUpperCase text = text := fun _ => rfl
  have hserial : ¬ (64 < "CARD".length ∨ ¬ (isSerialChar ("CARD".toList.headD ' ') ∧
      "CARD".toList.all fun c => isSerialChar c || c = '-')) := by decide +kernel
  simp only [LoyaltyService.earnRequest, normalizeIdempotencyKey, normalizeCardSerial,
    bind_ok, pure_ok,
    rejectIf_ok, Option.getD_some, hkey, hcard, hupper, Shop.scanned, hnumber,
      normalizeReceiptIdentity]
  refine ⟨"scan", s, ⟨(), s, ⟨by decide, rfl⟩, rfl, rfl⟩, (), s, ⟨by decide, rfl⟩, "CARD", s,
    ⟨(), s, ⟨by decide, rfl⟩, (), s, ⟨hserial, rfl⟩, rfl, rfl⟩, rfl, rfl⟩

theorem stableStringify_stands_for_value_shop :
    JsonValue.stableStringify (inferInstance : LinearOrder String).le
        (.object [("b", Shop.one), ("a", .null)]) =
      JsonValue.stableStringify (inferInstance : LinearOrder String).le
        (.object [("a", .null), ("b", Shop.one)]) ∧
      precheckRecord (some ⟨Shop.scannedRequest.requestHash, none, .PENDING, Shop.night⟩)
        Shop.scannedRequest.requestHash LoyaltyService.earnInProgress Shop.opened.db ≠
          .error idempotencyConflict := by
  obtain ⟨htexts, hearn, -, -⟩ := stableStringify_stands_for_value inferInstance
  refine ⟨?_, ?_⟩
  · refine (htexts _ _ ?_ ?_ ?_ ?_).2 ?_
    · simp [JsonValue.DistinctKeys, JsonValue.EachObject, JsonValue.EachField,
        JsonValue.EachValue, Shop.one]
    · simp [JsonValue.DistinctKeys, JsonValue.EachObject, JsonValue.EachField,
        JsonValue.EachValue, Shop.one]
    · simp [JsonValue.Dense, JsonValue.DenseFields, JsonValue.DenseField, Shop.one]
    · simp [JsonValue.Dense, JsonValue.DenseFields, JsonValue.DenseField, Shop.one]
    · simp [JsonValue.Same, JsonValue.SameFields, JsonValue.SameField, Shop.one]
  · intro hconflict
    have hcard : trim " CARD" = "CARD" := by decide +kernel
    have hblank := earnRequest_scanned hcard Shop.opened.db
    have hsame : trim "CARD" = "CARD" := by decide +kernel
    have hplain := earnRequest_scanned hsame Shop.opened.db
    have hiff := hearn hblank hplain (fun hcollide => hcollide.1 rfl)
      ⟨Shop.scannedRequest.requestHash, none, .PENDING, Shop.night⟩ rfl Shop.opened.db
    exact hiff.1 hconflict rfl

end ShopcityLoyalty
