import Mathlib.Data.String.Basic
import ShopcityLoyalty.Adjustment
import ShopcityLoyalty.Lib.CalendarTexts
import ShopcityLoyalty.Lib.Executions
import ShopcityLoyalty.Lib.JsonValues

/-!
The identities that the browser remembers for the retries of an adjustment.

A get finds the identity that is stored for its payload or stores a new one; a clear removes
one. Both await the digest of the payload and then do the rest in one turn, so that calls
interleave between the two. The storage keeps JSON texts; here it keeps the values they stand
for, or a text that is none.
-/

namespace ShopcityLoyalty

open Calendar Process Txn

/-! ### What is stored -/

structure AdjustmentOperationIdentity where
  idempotencyKey : String
  effectiveAt : String
  createdAt : String
  deriving DecidableEq

structure StoredAdjustmentOperation extends AdjustmentOperationIdentity where
  payloadDigest : String
  deriving DecidableEq

structure AdjustmentOperationPayload where
  customerId : String
  amountKobo : JsNumber
  reason : String
  kind : LedgerEntryDirection

/-- A stored text, by the value it is read as. -/
inductive StoredText
  | json (value : JsonValue Decimal)
  | malformed

def RETENTION_MS : Int := 7 * 24 * 60 * 60 * 1000

def ADJUSTMENT_IDENTITY_FAILURE_MESSAGE : String :=
  "Adjustment outcome is uncertain. Stored retry identity is unavailable or expired; do not " ++
    "submit a new adjustment until the outcome has been verified."

/-- A number in a JSON text. -/
def numberValue : JsNumber → JsonValue Decimal
  | .finite d => .number d
  | _ => .null

def canonicalPayload (payload : AdjustmentOperationPayload) : String :=
  JsonValue.stringify (.object [("customerId", .string payload.customerId),
    ("amountKobo", numberValue payload.amountKobo), ("reason", .string payload.reason),
    ("kind", .string (AdjustmentsService.kindText payload.kind))])

/-- The digest of a payload in hexadecimal digits. -/
def payloadDigest (payload : AdjustmentOperationPayload) : String :=
  (sha256 (canonicalPayload payload)).text

/-! ### Reading what is stored -/

def isHexDigit (c : Char) : Bool :=
  c.isDigit || ('a' ≤ c && c ≤ 'f') || ('A' ≤ c && c ≤ 'F')

/-- A text that has one character for each place of a pattern. -/
def matchesPattern : List (Char → Bool) → List Char → Bool
  | [], [] => true
  | place :: places, c :: cs => place c && matchesPattern places cs
  | _, _ => false

def digestPattern : List (Char → Bool) := List.replicate 64 isHexDigit

def uuidPattern : List (Char → Bool) :=
  List.replicate 8 isHexDigit ++ [(· == '-')] ++ List.replicate 4 isHexDigit ++
    [(· == '-'), (· == '4')] ++
    List.replicate 3 isHexDigit ++ [(· == '-'), "89abAB".toList.contains] ++
    List.replicate 3 isHexDigit ++ [(· == '-')] ++ List.replicate 12 isHexDigit

def isUuid (text : String) : Bool := matchesPattern uuidPattern text.toList

/-- The times that a `Date` holds. -/
def IsTime (instant : Int) : Prop := -8640000000000000 ≤ instant ∧ instant ≤ 8640000000000000

instance (instant : Int) : Decidable (IsTime instant) :=
  inferInstanceAs (Decidable (_ ∧ _))

/-- `Date.parse` of a text that `toISOString` may have given; on others, what it returns is
not written as that text. -/
def dateParse (text : String) : Option Int :=
  if IsTime (readInstant text) then some (readInstant text) else none

def isCanonicalIsoTimestamp (value : String) : Bool :=
  (dateParse value).any fun instant => toISOString instant = value

/-- A field that is a text. -/
def storedTextField (fields : List (String × JsonValue Decimal)) (name : String) : Option String :=
  match fields.lookup name with
  | some (.string text) => some text
  | _ => none

/-- What `isStoredAdjustmentOperation` asks of the four texts. -/
def StoredAdjustmentOperation.wellFormed (o : StoredAdjustmentOperation) : Bool :=
  matchesPattern digestPattern o.payloadDigest.toList && isUuid o.idempotencyKey &&
    isCanonicalIsoTimestamp o.effectiveAt && isCanonicalIsoTimestamp o.createdAt &&
    o.effectiveAt = o.createdAt

/-- An item that `isStoredAdjustmentOperation` accepts. -/
def asStoredAdjustmentOperation : JsonValue Decimal → Option StoredAdjustmentOperation
  | .object fields =>
      if ",".intercalate ((fields.map Prod.fst).insertionSort (· ≤ ·)) =
          "createdAt,effectiveAt,idempotencyKey,payloadDigest" then do
        let payloadDigest ← storedTextField fields "payloadDigest"
        let idempotencyKey ← storedTextField fields "idempotencyKey"
        let effectiveAt ← storedTextField fields "effectiveAt"
        let createdAt ← storedTextField fields "createdAt"
        let candidate : StoredAdjustmentOperation :=
          ⟨⟨idempotencyKey, effectiveAt, createdAt⟩, payloadDigest⟩
        if candidate.wellFormed then some candidate else none
      else none
  | _ => none

/-- The number of different texts, as the size of their `Set`. -/
def setSize (texts : List String) : Nat := texts.dedup.length

/-- The stored operations; `none` is an error. -/
def parseStoredOperations : Option StoredText → Option (List StoredAdjustmentOperation)
  | none => some []
  | some (.json (.array items)) => do
      let parsed ← items.mapM asStoredAdjustmentOperation
      let digests := parsed.map fun operation => operation.payloadDigest
      let keys := parsed.map fun operation => operation.idempotencyKey
      if setSize digests ≠ parsed.length ∨ setSize keys ≠ parsed.length then none
      else some parsed
  | some _ => none

def StoredAdjustmentOperation.fields (o : StoredAdjustmentOperation) :
    List (String × JsonValue Decimal) :=
  [("payloadDigest", .string o.payloadDigest), ("idempotencyKey", .string o.idempotencyKey),
    ("effectiveAt", .string o.effectiveAt), ("createdAt", .string o.createdAt)]

def storedText (operations : List StoredAdjustmentOperation) : StoredText :=
  .json (.array (operations.map fun operation => .object operation.fields))

/-! ### Getting and clearing -/

/-- What a call meets: whether the storage and the digest are there, the clock, the id that is
drawn where one can be, and which accesses to the storage throw. -/
structure AdjustmentSurroundings where
  sessionStorage : Bool
  subtle : Bool
  now : Int
  now_time : IsTime now
  randomUUID : Option String
  randomUUID_uuid : ∀ id ∈ randomUUID, isUuid id = true
  getItemThrows : Bool
  getItemThrowsAgain : Bool
  setItemThrows : Bool

abbrev AdjustmentStorage := Option StoredText

abbrev AdjustmentTurn (α : Type) := Txn AdjustmentStorage String α

/-- The operations that a turn reads. -/
def storedOperations (getItemThrows : Bool) : AdjustmentTurn (List StoredAdjustmentOperation) := do
  rejectIf getItemThrows ADJUSTMENT_IDENTITY_FAILURE_MESSAGE
  let storage ← Txn.get
  orFault (parseStoredOperations storage) ADJUSTMENT_IDENTITY_FAILURE_MESSAGE

def findStoredOperation (env : AdjustmentSurroundings) (payloadDigest : String)
    (currentTime : String) : AdjustmentTurn (Option StoredAdjustmentOperation) := do
  let operations ← storedOperations env.getItemThrows
  let existing := operations.find? fun item => item.payloadDigest = payloadDigest
  rejectIf (∃ item ∈ existing, ∃ now ∈ dateParse currentTime,
    ∃ createdAt ∈ dateParse item.createdAt,
    RETENTION_MS ≤ now - createdAt) ADJUSTMENT_IDENTITY_FAILURE_MESSAGE
  pure existing

/-- What a get does once it has the digest. -/
def getTurn (env : AdjustmentSurroundings) (payloadDigest : String) :
    AdjustmentTurn StoredAdjustmentOperation := do
  let createdAt := toISOString env.now
  let existing ← findStoredOperation env payloadDigest createdAt
  match existing with
  | some existing => pure existing
  | none => do
      let idempotencyKey ← orFault env.randomUUID "crypto.randomUUID is not a function"
      let identity : StoredAdjustmentOperation :=
        ⟨⟨idempotencyKey, createdAt, createdAt⟩, payloadDigest⟩
      let operations ← storedOperations env.getItemThrowsAgain
      rejectIf env.setItemThrows ADJUSTMENT_IDENTITY_FAILURE_MESSAGE
      update fun _ => some (storedText (operations ++ [identity]))
      pure identity

/-- What a clear does once it has the digest. -/
def clearTurn (env : AdjustmentSurroundings) (payloadDigest idempotencyKey : String) :
    AdjustmentTurn Unit := do
  let operations ← storedOperations env.getItemThrows
  rejectIf env.setItemThrows ADJUSTMENT_IDENTITY_FAILURE_MESSAGE
  update fun _ => some (storedText (operations.filter fun item =>
    item.payloadDigest ≠ payloadDigest || item.idempotencyKey ≠ idempotencyKey))

inductive AdjustmentCall
  | get (payload : AdjustmentOperationPayload)
  | clear (payload : AdjustmentOperationPayload) (identity : AdjustmentOperationIdentity)

def AdjustmentCall.payload : AdjustmentCall → AdjustmentOperationPayload
  | .get payload => payload
  | .clear payload _ => payload

abbrev CallProcess :=
  Process AdjustmentSurroundings AdjustmentStorage String (Option StoredAdjustmentOperation)

/-- The turn of a call after its digest: a get returns an identity. -/
def AdjustmentCall.turn (call : AdjustmentCall) (env : AdjustmentSurroundings) (digest : String) :
    AdjustmentTurn (Option StoredAdjustmentOperation) :=
  match call with
  | .get _ => getTurn env digest >>= fun identity => pure (some identity)
  | .clear _ identity => clearTurn env digest identity.idempotencyKey >>= fun _ => pure none

/-- `getAdjustmentOperationIdentity` and `clearAdjustmentOperationIdentity`: the storage is
looked up and the digest awaited, and the rest is one turn. -/
def AdjustmentCall.program (call : AdjustmentCall) : CallProcess := do
  let digest ← Process.attempt fun env storage =>
    (if env.sessionStorage && env.subtle && payloadDigest call.payload ≠ "" then
      .ok (payloadDigest call.payload) else .error ADJUSTMENT_IDENTITY_FAILURE_MESSAGE, storage)
  Process.transaction fun env => call.turn env digest

abbrev AdjustmentCalls :=
  Pool AdjustmentCall AdjustmentSurroundings AdjustmentStorage String
    (Option StoredAdjustmentOperation)

/-! ### What is read back -/

variable {operations : List StoredAdjustmentOperation} {o : StoredAdjustmentOperation}
  {storage storage' : AdjustmentStorage} {env : AdjustmentSurroundings} {digest key : String}
  {payload : AdjustmentOperationPayload}

lemma setSize_eq_iff {texts : List String} : setSize texts = texts.length ↔ texts.Nodup := by
  unfold setSize
  constructor
  · intro h
    have hsame : texts.dedup = texts := (List.dedup_sublist texts).eq_of_length h
    exact List.dedup_eq_self.1 hsame
  · intro h
    rw [List.dedup_eq_self.2 h]

/-- Operations that a get may store beside each other. -/
structure SoundOperations (operations : List StoredAdjustmentOperation) : Prop where
  wellFormed : ∀ o ∈ operations, o.wellFormed = true
  digests : (operations.map fun o => o.payloadDigest).Nodup
  keys : (operations.map fun o => o.idempotencyKey).Nodup

lemma asStoredAdjustmentOperation_fields (h : o.wellFormed = true) :
    asStoredAdjustmentOperation (.object o.fields) = some o := by
  have hkeys : ",".intercalate ((["payloadDigest", "idempotencyKey", "effectiveAt",
      "createdAt"] : List String).insertionSort (· ≤ ·)) =
      "createdAt,effectiveAt,idempotencyKey,payloadDigest" := by
    decide +kernel
  have hnames : o.fields.map Prod.fst =
      ["payloadDigest", "idempotencyKey", "effectiveAt", "createdAt"] := rfl
  have hdigest : storedTextField o.fields "payloadDigest" = some o.payloadDigest := rfl
  have hkey : storedTextField o.fields "idempotencyKey" = some o.idempotencyKey := rfl
  have heffective : storedTextField o.fields "effectiveAt" = some o.effectiveAt := rfl
  have hcreated : storedTextField o.fields "createdAt" = some o.createdAt := rfl
  unfold asStoredAdjustmentOperation
  simp only [hnames, if_pos hkeys, hdigest, hkey, heffective, hcreated, Option.bind_eq_bind,
    Option.bind_some]
  rw [if_pos h]

lemma asStoredAdjustmentOperation_wellFormed {item : JsonValue Decimal}
    (h : asStoredAdjustmentOperation item = some o) : o.wellFormed = true := by
  unfold asStoredAdjustmentOperation at h
  split at h
  · split at h
    · simp only [Option.bind_eq_bind, Option.bind_eq_some_iff] at h
      obtain ⟨_, -, _, -, _, -, _, -, h⟩ := h
      split at h
      · rename_i hwell
        rwa [← Option.some.inj h]
      · cases h
    · cases h
  · cases h

lemma mapM_asStored {items : List (JsonValue Decimal)}
    (h : items.mapM asStoredAdjustmentOperation = some operations) :
    ∀ o ∈ operations, o.wellFormed = true := by
  induction items generalizing operations with
  | nil =>
      obtain rfl : [] = operations := by simpa using h
      simp
  | cons item items ih =>
      simp only [List.mapM_cons, Option.bind_eq_bind, Option.bind_eq_some_iff, Option.pure_def,
        Option.some.injEq] at h
      obtain ⟨first, hfirst, rest, hrest, rfl⟩ := h
      intro o ho
      rcases List.mem_cons.1 ho with rfl | ho
      · exact asStoredAdjustmentOperation_wellFormed hfirst
      · exact ih hrest o ho

lemma mapM_fields (h : ∀ o ∈ operations, o.wellFormed = true) :
    (operations.map fun o => JsonValue.object o.fields).mapM asStoredAdjustmentOperation =
      some operations := by
  induction operations with
  | nil => rfl
  | cons first rest ih =>
      rw [List.map_cons, List.mapM_cons, asStoredAdjustmentOperation_fields (h first (by simp)),
        ih fun o ho => h o (List.mem_cons_of_mem _ ho)]
      rfl

lemma parseStoredOperations_sound (h : parseStoredOperations storage = some operations) :
    SoundOperations operations := by
  unfold parseStoredOperations at h
  split at h
  · obtain rfl := Option.some.inj h
    exact ⟨by simp, by simp, by simp⟩
  · simp only [Option.bind_eq_bind, Option.bind_eq_some_iff] at h
    obtain ⟨parsed, hparsed, h⟩ := h
    split at h
    · cases h
    · rename_i hsizes
      obtain rfl := Option.some.inj h
      obtain ⟨hdigests, hkeys⟩ := not_or.1 hsizes
      refine ⟨mapM_asStored hparsed, setSize_eq_iff.1 ?_, setSize_eq_iff.1 ?_⟩
      · rw [not_not.1 hdigests, List.length_map]
      · rw [not_not.1 hkeys, List.length_map]
  · cases h

/-- **Sound operations are read back** from the text that is stored of them. -/
theorem parseStoredOperations_storedText (h : SoundOperations operations) :
    parseStoredOperations (some (storedText operations)) = some operations := by
  have hdigests := setSize_eq_iff.2 h.digests
  have hkeys := setSize_eq_iff.2 h.keys
  rw [List.length_map] at hdigests hkeys
  unfold parseStoredOperations storedText
  simp only [mapM_fields h.wellFormed, Option.bind_eq_bind, Option.bind_some, hdigests, hkeys]
  rw [if_neg (by simp)]

/-! ### What a turn does -/

lemma isHexDigit_of_mem {c : Char} (h : c ∈ Sha256.hexDigits) : isHexDigit c = true := by
  have hall : Sha256.hexDigits.all isHexDigit = true := by decide
  exact List.all_eq_true.1 hall c h

lemma matchesPattern_replicate {place : Char → Bool} {cs : List Char}
    (h : ∀ c ∈ cs, place c = true) : matchesPattern (List.replicate cs.length place) cs = true := by
  induction cs with
  | nil => rfl
  | cons c cs ih =>
      simp only [List.length_cons, List.replicate_succ, matchesPattern, Bool.and_eq_true]
      exact ⟨h c (by simp), ih fun d hd => h d (List.mem_cons_of_mem _ hd)⟩

lemma payloadDigest_matches (payload : AdjustmentOperationPayload) :
    matchesPattern digestPattern (payloadDigest payload).toList = true := by
  have hlength := (sha256 (canonicalPayload payload)).length_eq
  have hdigits : ∀ c ∈ (sha256 (canonicalPayload payload)).chars, isHexDigit c = true :=
    fun c hc => isHexDigit_of_mem ((sha256 _).digits c hc)
  have hmatches := matchesPattern_replicate hdigits
  rw [hlength] at hmatches
  rwa [payloadDigest, Digest.toList_text]

lemma payloadDigest_ne (payload : AdjustmentOperationPayload) : payloadDigest payload ≠ "" := by
  intro h
  have hmatches := payloadDigest_matches payload
  rw [h] at hmatches
  cases hmatches

lemma dateParse_toISOString {instant : Int} (h : IsTime instant) :
    dateParse (toISOString instant) = some instant := by
  rw [dateParse, readInstant_toISOString, if_pos h]

lemma isCanonicalIsoTimestamp_toISOString {instant : Int} (h : IsTime instant) :
    isCanonicalIsoTimestamp (toISOString instant) = true := by
  simp [isCanonicalIsoTimestamp, dateParse_toISOString h]

/-- The identity that a get stores. -/
def newIdentity (env : AdjustmentSurroundings) (payload : AdjustmentOperationPayload)
    (idempotencyKey : String) : StoredAdjustmentOperation :=
  ⟨⟨idempotencyKey, toISOString env.now, toISOString env.now⟩, payloadDigest payload⟩

lemma newIdentity_wellFormed {id : String} (h : env.randomUUID = some id) :
    (newIdentity env payload id).wellFormed = true := by
  have huuid : isUuid id = true := env.randomUUID_uuid id h
  simp [StoredAdjustmentOperation.wellFormed, newIdentity, payloadDigest_matches, huuid,
    isCanonicalIsoTimestamp_toISOString env.now_time]

lemma SoundOperations.append {id : String} (h : SoundOperations operations)
    (hid : env.randomUUID = some id)
    (hdigest : ∀ o ∈ operations, o.payloadDigest ≠ payloadDigest payload)
    (hfresh : ∀ o ∈ operations, o.idempotencyKey ≠ id) :
    SoundOperations (operations ++ [newIdentity env payload id]) where
  wellFormed o ho := by
    rcases List.mem_append.1 ho with ho | ho
    · exact h.wellFormed o ho
    · rw [List.mem_singleton.1 ho]
      exact newIdentity_wellFormed hid
  digests := by
    rw [List.map_append, List.nodup_append]
    refine ⟨h.digests, by simp, fun d hd d' hd' heq => ?_⟩
    obtain ⟨o, ho, rfl⟩ := List.mem_map.1 hd
    have hnew : d' = payloadDigest payload := by simpa [newIdentity] using hd'
    exact hdigest o ho (heq.trans hnew)
  keys := by
    rw [List.map_append, List.nodup_append]
    refine ⟨h.keys, by simp, fun k hk k' hk' heq => ?_⟩
    obtain ⟨o, ho, rfl⟩ := List.mem_map.1 hk
    have hnew : k' = id := by simpa [newIdentity] using hk'
    exact hfresh o ho (heq.trans hnew)

lemma SoundOperations.filter (h : SoundOperations operations)
    (kept : StoredAdjustmentOperation → Bool) : SoundOperations (operations.filter kept) where
  wellFormed o ho := h.wellFormed o (List.mem_filter.1 ho).1
  digests := h.digests.sublist (List.filter_sublist.map _)
  keys := h.keys.sublist (List.filter_sublist.map _)

lemma storedOperations_ok {throws : Bool} :
    storedOperations throws storage = .ok (operations, storage') ↔
      throws = false ∧ parseStoredOperations storage = some operations ∧ storage' = storage := by
  simp only [storedOperations, bind_ok, get_ok, rejectIf_ok, orFault_ok]
  constructor
  · rintro ⟨_, _, ⟨hthrows, rfl⟩, _, _, ⟨rfl, rfl⟩, hparse, rfl⟩
    exact ⟨by simpa using hthrows, hparse, rfl⟩
  · rintro ⟨rfl, hparse, rfl⟩
    exact ⟨(), _, ⟨by simp, rfl⟩, _, _, ⟨rfl, rfl⟩, hparse, rfl⟩

/-- The time since an identity was created. -/
def StoredAdjustmentOperation.age (o : StoredAdjustmentOperation) (now : Int) : Int :=
  now - readInstant o.createdAt

lemma dateParse_createdAt (h : o.wellFormed = true) :
    dateParse o.createdAt = some (readInstant o.createdAt) := by
  simp only [StoredAdjustmentOperation.wellFormed, Bool.and_eq_true] at h
  have hcanonical := h.1.2
  unfold isCanonicalIsoTimestamp at hcanonical
  unfold dateParse at hcanonical ⊢
  by_cases htime : IsTime (readInstant o.createdAt)
  · rw [if_pos htime]
  · rw [if_neg htime] at hcanonical
    cases hcanonical

/-- The stored operation with a digest. -/
def findIn (operations : List StoredAdjustmentOperation) (digest : String) :
    Option StoredAdjustmentOperation :=
  operations.find? fun item => item.payloadDigest = digest

lemma findStoredOperation_ok {existing : Option StoredAdjustmentOperation} :
    findStoredOperation env digest (toISOString env.now) storage = .ok (existing, storage') ↔
      storage' = storage ∧ env.getItemThrows = false ∧
        ∃ operations, parseStoredOperations storage = some operations ∧
          existing = findIn operations digest ∧
          ∀ item ∈ existing, item.age env.now < RETENTION_MS := by
  have hage : ∀ {operations : List StoredAdjustmentOperation},
      parseStoredOperations storage = some operations →
      ((∃ item ∈ findIn operations digest, ∃ now ∈ dateParse (toISOString env.now),
        ∃ createdAt ∈ dateParse item.createdAt, RETENTION_MS ≤ now - createdAt) ↔
      ∃ item ∈ findIn operations digest, RETENTION_MS ≤ item.age env.now) := by
    intro operations hparse
    refine exists_congr fun item => and_congr_right fun hitem => ?_
    have hmem : item ∈ operations := List.mem_of_find?_eq_some hitem
    rw [dateParse_toISOString env.now_time,
      dateParse_createdAt ((parseStoredOperations_sound hparse).wellFormed item hmem)]
    simp [StoredAdjustmentOperation.age]
  simp only [findStoredOperation, bind_ok, storedOperations_ok, rejectIf_ok, pure_ok]
  constructor
  · rintro ⟨operations, _, ⟨hthrows, hparse, rfl⟩, _, _, ⟨hold, rfl⟩, rfl, rfl⟩
    refine ⟨rfl, hthrows, operations, hparse, rfl, fun item hitem => ?_⟩
    by_contra hle
    exact hold ((hage hparse).2 ⟨item, hitem, not_lt.1 hle⟩)
  · rintro ⟨rfl, hthrows, operations, hparse, rfl, hage'⟩
    refine ⟨operations, _, ⟨hthrows, hparse, rfl⟩, (), _, ⟨fun hold => ?_, rfl⟩, rfl, rfl⟩
    obtain ⟨item, hitem, hle⟩ := (hage hparse).1 hold
    exact absurd (hage' item hitem) (not_lt.2 hle)

/-- **What a get does in its turn**: it returns the identity of its payload, which is not too
old, or stores a new one where there is none. -/
theorem getTurn_ok {r : StoredAdjustmentOperation}
    (hparse : parseStoredOperations storage = some operations)
    (h : getTurn env (payloadDigest payload) storage = .ok (r, storage')) :
    (findIn operations (payloadDigest payload) = some r ∧ r.age env.now < RETENTION_MS ∧
        storage' = storage) ∨
      ∃ id, env.randomUUID = some id ∧ findIn operations (payloadDigest payload) = none ∧
        r = newIdentity env payload id ∧ storage' = some (storedText (operations ++ [r])) := by
  simp only [getTurn, bind_ok, findStoredOperation_ok] at h
  obtain ⟨existing, _, ⟨rfl, -, operations', hparse', rfl, hage⟩, h⟩ := h
  rw [hparse] at hparse'
  obtain rfl := Option.some.inj hparse'
  cases hfind : findIn operations (payloadDigest payload) with
  | some found =>
      simp only [hfind, pure_ok] at h
      obtain ⟨rfl, rfl⟩ := h
      exact .inl ⟨rfl, hage r hfind, rfl⟩
  | none =>
      simp only [hfind, bind_ok, orFault_ok, storedOperations_ok, rejectIf_ok, update_ok,
        pure_ok] at h
      obtain ⟨id, _, ⟨hid, rfl⟩, operations', _, ⟨-, hparse', rfl⟩, _, _, ⟨-, rfl⟩, _, _, rfl, rfl,
        rfl⟩ := h
      rw [hparse] at hparse'
      obtain rfl := Option.some.inj hparse'
      exact .inr ⟨id, hid, rfl, rfl, rfl⟩

lemma clearTurn_ok {u : Unit} (hparse : parseStoredOperations storage = some operations)
    (h : clearTurn env digest key storage = .ok (u, storage')) :
    storage' = some (storedText (operations.filter fun item =>
      item.payloadDigest ≠ digest || item.idempotencyKey ≠ key)) := by
  simp only [clearTurn, bind_ok, storedOperations_ok, rejectIf_ok, update_ok] at h
  obtain ⟨operations', _, ⟨-, hparse', rfl⟩, _, _, ⟨-, rfl⟩, rfl⟩ := h
  rw [hparse] at hparse'
  obtain rfl := Option.some.inj hparse'
  rfl

/-! ### Calls side by side -/

variable {w w' : AdjustmentCalls} {call : AdjustmentCall}
  {event : PoolEvent AdjustmentCall AdjustmentSurroundings}
  {payloads : Set AdjustmentOperationPayload}

/-- A call whose digest is there. -/
def AdjustmentCall.digested (call : AdjustmentCall) : CallProcess :=
  Process.transaction fun env => call.turn env (payloadDigest call.payload)

/-- A call is at its start, has its digest or is over. -/
def AdjustmentCall.At (call : AdjustmentCall) (p : CallProcess) : Prop :=
  p = call.program ∨ p = call.digested ∨ ¬ p.Running

def AdjustmentCalls.Staged (payloads : Set AdjustmentOperationPayload) (w : AdjustmentCalls) :
    Prop :=
  ∀ (n : Nat) call p, w.tasks[n]? = some (call, some p) → call.At p ∧ call.payload ∈ payloads

/-- The calls are about given payloads, and an id that is drawn is none of those stored. -/
def AdmissibleCalls (payloads : Set AdjustmentOperationPayload) (w : AdjustmentCalls)
    (event : PoolEvent AdjustmentCall AdjustmentSurroundings) : Prop :=
  (∀ call, event = .start call → call.payload ∈ payloads) ∧
    ∀ n env, event = .advance n env → ∀ id ∈ env.randomUUID, ∀ operations,
      parseStoredOperations w.state = some operations →
      ∀ o ∈ operations, o.idempotencyKey ≠ id

/-- A call waits for its digest, fails, or takes its turn. -/
inductive Taken (w w' : AdjustmentCalls) (n : Nat) (env : AdjustmentSurroundings)
    (call : AdjustmentCall) : Prop
  | digested (works : env.sessionStorage = true ∧ env.subtle = true) (same : w'.state = w.state)
      (task : w'.tasks[n]? = some (call, some call.digested))
  | unavailable (fails : ¬ (env.sessionStorage = true ∧ env.subtle = true))
      (same : w'.state = w.state) {e : String} (task : w'.tasks[n]? = some (call, some (.fail e)))
  | failed {e : String} (turn : call.turn env (payloadDigest call.payload) w.state = .error e)
      (same : w'.state = w.state) (task : w'.tasks[n]? = some (call, some (.fail e)))
  | returned {r : Option StoredAdjustmentOperation}
      (turn : call.turn env (payloadDigest call.payload) w.state = .ok (r, w'.state))
      (task : w'.tasks[n]? = some (call, some (.done r)))

lemma step_program {n : Nat} (htask : w.tasks[n]? = some (call, some call.program)) :
    w.step AdjustmentCall.program (.advance n env) =
      some ⟨w.state, w.tasks.set n
        (call, some (if env.sessionStorage = true ∧ env.subtle = true then
        call.digested else .fail ADJUSTMENT_IDENTITY_FAILURE_MESSAGE))⟩ := by
  have hdigest := payloadDigest_ne call.payload
  by_cases hworks : env.sessionStorage = true ∧ env.subtle = true
  · simp only [Pool.step, htask, AdjustmentCall.program, Process.attempt, act_bind, hworks,
      Bool.and_self, and_self, hdigest, ne_eq, not_false_eq_true, decide_true, if_true, done_bind,
      AdjustmentCall.digested]
  · have hnot : (env.sessionStorage && env.subtle &&
        decide (payloadDigest call.payload ≠ "")) = false := by
      simpa [hdigest] using hworks
    simp only [Pool.step, htask, AdjustmentCall.program, Process.attempt, act_bind, if_neg hworks,
      hnot,
      Bool.false_eq_true, if_false, fail_bind]

lemma step_digested {n : Nat} (htask : w.tasks[n]? = some (call, some call.digested)) :
    w.step AdjustmentCall.program (.advance n env) =
      some (match call.turn env (payloadDigest call.payload) w.state with
        | .ok (r, t) => ⟨t, w.tasks.set n (call, some (.done r))⟩
        | .error e => ⟨w.state, w.tasks.set n (call, some (.fail e))⟩) := by
  simp only [Pool.step, htask, AdjustmentCall.digested, Process.transaction, Process.attempt]
  cases call.turn env (payloadDigest call.payload) w.state with
  | ok r => rfl
  | error e => rfl

/-- **What a step does**, and the stages of the calls after it. -/
theorem AdjustmentCalls.Staged.step (hw : w.Staged payloads)
    (hadmissible : AdmissibleCalls payloads w event)
    (h : w.step AdjustmentCall.program event = some w') :
    w'.Staged payloads ∧ ((w'.state = w.state ∧ ∀ n env, event ≠ .advance n env) ∨
      ∃ n env call, event = .advance n env ∧ w.tasks[n]?.map Prod.fst = some call ∧
        Taken w w' n env call) := by
  cases event with
  | start call =>
      obtain rfl := Option.some.inj h
      refine ⟨fun n l p hp => ?_, .inl ⟨rfl, by simp⟩⟩
      rcases Pool.getElem?_start hp with hp | ⟨-, heq⟩
      · exact hw n l p hp
      · obtain ⟨rfl, hq⟩ := Prod.mk.inj heq
        rw [Option.some.inj hq]
        exact ⟨.inl rfl, hadmissible.1 l rfl⟩
  | crash n =>
      obtain ⟨call, -, rfl⟩ := Pool.crash_step h
      refine ⟨fun m l p hp => ?_, .inl ⟨rfl, by simp⟩⟩
      rcases Pool.getElem?_set_some hp with ⟨-, heq⟩ | ⟨-, hp⟩
      · cases (Prod.mk.inj heq).2
      · exact hw m l p hp
  | advance n env =>
      obtain ⟨call, β, st, next, htask, -⟩ := Pool.advance_step h
      obtain ⟨hat, hpayload⟩ := hw n call _ htask
      have hcall : w.tasks[n]?.map Prod.fst = some call := by rw [htask]; rfl
      have hset : ∀ q, (w.tasks.set n (call, some q))[n]? = some (call, some q) := fun q =>
        List.getElem?_set_self (List.getElem?_eq_some_iff.1 htask).1
      have hstaged : ∀ (s : AdjustmentStorage) (q : CallProcess), call.At q →
          AdjustmentCalls.Staged payloads ⟨s, w.tasks.set n (call, some q)⟩ := by
        intro s q hq m l p hp
        rcases Pool.getElem?_set_some hp with ⟨-, heq⟩ | ⟨-, hp⟩
        · obtain ⟨rfl, hsame⟩ := Prod.mk.inj heq
          rw [Option.some.inj hsame]
          exact ⟨hq, hpayload⟩
        · exact hw m l p hp
      have hover : ∀ e, call.At (.fail e) := fun e => .inr (.inr fun hrun => hrun)
      rcases hat with hprogram | hdigested | hover'
      · rw [hprogram] at htask
        rw [step_program htask] at h
        obtain rfl := Option.some.inj h
        -- without storage or digests the call fails before it reads anything
        by_cases hworks : env.sessionStorage = true ∧ env.subtle = true
        · rw [if_pos hworks]
          exact ⟨hstaged _ _ (.inr (.inl rfl)),
            .inr ⟨n, env, call, rfl, hcall, .digested hworks rfl (hset _)⟩⟩
        · rw [if_neg hworks]
          exact ⟨hstaged _ _ (hover _),
            .inr ⟨n, env, call, rfl, hcall, .unavailable hworks rfl (hset _)⟩⟩
      · rw [hdigested] at htask
        rw [step_digested htask] at h
        obtain rfl := Option.some.inj h
        cases hturn : call.turn env (payloadDigest call.payload) w.state with
        | ok r =>
            exact ⟨hstaged _ _ (.inr (.inr fun hrun => hrun)),
              .inr ⟨n, env, call, rfl, hcall, .returned hturn (hset _)⟩⟩
        | error e =>
            exact ⟨hstaged _ _ (hover _),
              .inr ⟨n, env, call, rfl, hcall, .failed hturn rfl (hset _)⟩⟩
      · exact absurd trivial hover'

/-! ### What the storage holds -/

/-- What a storage holds, where it is in order. -/
def Holds (s : AdjustmentStorage) (operations : List StoredAdjustmentOperation) : Prop :=
  parseStoredOperations s = some operations

/-- What a step may do to the operations: nothing, add a new identity for a payload that has
none, or take away what a clear names. -/
inductive Changed (operations : List StoredAdjustmentOperation) :
    AdjustmentCall → AdjustmentSurroundings → Option StoredAdjustmentOperation →
    List StoredAdjustmentOperation → Prop
  | found {payload : AdjustmentOperationPayload} {env : AdjustmentSurroundings}
      {o : StoredAdjustmentOperation} (find : findIn operations (payloadDigest payload) = some o)
      (young : o.age env.now < RETENTION_MS) :
      Changed operations (.get payload) env (some o) operations
  | issued {payload : AdjustmentOperationPayload} {env : AdjustmentSurroundings} {id : String}
      (drawn : env.randomUUID = some id) (none : findIn operations (payloadDigest payload) = none) :
      Changed operations (.get payload) env (some (newIdentity env payload id))
        (operations ++ [newIdentity env payload id])
  | cleared {payload : AdjustmentOperationPayload} {env : AdjustmentSurroundings}
      {identity : AdjustmentOperationIdentity} :
      Changed operations (.clear payload identity) env none
        (operations.filter fun item => item.payloadDigest ≠ payloadDigest payload ||
          item.idempotencyKey ≠ identity.idempotencyKey)

lemma findIn_none (h : findIn operations digest = none) :
    ∀ o ∈ operations, o.payloadDigest ≠ digest := by
  intro o ho
  simpa using List.find?_eq_none.1 h o ho

lemma SoundOperations.findIn_of_mem (h : SoundOperations operations) (ho : o ∈ operations) :
    findIn operations o.payloadDigest = some o := by
  cases hfind : findIn operations o.payloadDigest with
  | none => exact absurd rfl (findIn_none hfind o ho)
  | some found =>
      have hdigest : found.payloadDigest = o.payloadDigest := by
        simpa using List.find?_some hfind
      have hmem : found ∈ operations := List.mem_of_find?_eq_some hfind
      rw [List.inj_on_of_nodup_map h.digests hmem ho hdigest]

lemma AdjustmentCall.turn_ok {r : Option StoredAdjustmentOperation}
    (hholds : Holds storage operations)
    (hfresh : ∀ id ∈ env.randomUUID, ∀ o ∈ operations, o.idempotencyKey ≠ id)
    (h : call.turn env (payloadDigest call.payload) storage = .ok (r, storage')) :
    ∃ operations', Changed operations call env r operations' ∧ Holds storage' operations' := by
  have hsound := parseStoredOperations_sound hholds
  cases call with
  | get payload =>
      obtain ⟨identity, _, hturn, hr⟩ := bind_ok.1 h
      obtain ⟨rfl, rfl⟩ := pure_ok.1 hr
      rcases getTurn_ok hholds hturn with ⟨hfind, hage, rfl⟩ | ⟨id, hid, hfind, rfl, rfl⟩
      · exact ⟨operations, .found hfind hage, hholds⟩
      · refine ⟨_, .issued hid hfind, parseStoredOperations_storedText ?_⟩
        exact hsound.append hid (findIn_none hfind) (hfresh id hid)
  | clear payload identity =>
      obtain ⟨u, _, hturn, hr⟩ := bind_ok.1 h
      obtain ⟨rfl, rfl⟩ := pure_ok.1 hr
      rw [clearTurn_ok hholds hturn]
      exact ⟨_, .cleared, parseStoredOperations_storedText (hsound.filter _)⟩

/-- **Along a run the storage stays in order.** -/
theorem run_holds (hstaged : w.Staged payloads) (hholds : ∃ operations, Holds w.state operations)
    (hrun : Pool.StepsUnder AdjustmentCall.program (AdmissibleCalls payloads) w w') :
    w'.Staged payloads ∧ ∃ operations, Holds w'.state operations := by
  refine hrun.invariant (I := fun u => AdjustmentCalls.Staged payloads u ∧
    ∃ operations, Holds u.state operations)
    (fun {event u v} hadmissible hu hstep => ?_) ⟨hstaged, hholds⟩
  obtain ⟨hstaged, operations, hholds⟩ := hu
  obtain ⟨hstaged', hcase⟩ := hstaged.step hadmissible hstep
  refine ⟨hstaged', ?_⟩
  rcases hcase with ⟨hsame, -⟩ | ⟨n, env, call, rfl, -, htaken⟩
  · exact ⟨operations, by rwa [hsame]⟩
  · cases htaken with
    | digested _ hsame => exact ⟨operations, by rwa [hsame]⟩
    | unavailable _ hsame => exact ⟨operations, by rwa [hsame]⟩
    | failed _ hsame => exact ⟨operations, by rwa [hsame]⟩
    | returned hturn =>
        obtain ⟨operations', -, hholds'⟩ := AdjustmentCall.turn_ok hholds
          (fun id hid => hadmissible.2 n env rfl id hid operations hholds) hturn
        exact ⟨operations', hholds'⟩

/-! ### One payload, one identity -/

/-- A clear of a payload returns, which names a key. -/
def ClearReturns (payload : AdjustmentOperationPayload) (key : String) (w : AdjustmentCalls)
    (event : PoolEvent AdjustmentCall AdjustmentSurroundings) : Prop :=
  ∃ n env payload' identity w', event = .advance n env ∧
    w.step AdjustmentCall.program event = some w' ∧
    w'.tasks[n]? = some (.clear payload' identity, some (.done none)) ∧
    canonicalPayload payload' = canonicalPayload payload ∧ identity.idempotencyKey = key

/-- No two of the payloads have one digest, unless they have one text. -/
def NoCollisions (payloads : Set AdjustmentOperationPayload) : Prop :=
  ∀ p ∈ payloads, ∀ q ∈ payloads, payloadDigest p = payloadDigest q →
    canonicalPayload p = canonicalPayload q

/-- What a get for the payload of a stored identity comes to: the identity while it is younger
than the retention time, where nothing throws, and otherwise no identity. -/
structure AnswersWith (o : StoredAdjustmentOperation) (env : AdjustmentSurroundings)
    (q : CallProcess) : Prop where
  same : ∀ r, q = .done r → r = some o ∧ o.age env.now < RETENTION_MS
  answered : ¬ q.Running → env.sessionStorage = true ∧ env.subtle = true →
    env.getItemThrows = false → o.age env.now < RETENTION_MS → q = .done (some o)

lemma getTurn_found (hholds : Holds storage operations)
    (hfind : findIn operations (payloadDigest payload) = some o)
    (hage : o.age env.now < RETENTION_MS)
    (hreads : env.getItemThrows = false) :
    getTurn env (payloadDigest payload) storage = .ok (o, storage) := by
  refine bind_ok.2 ⟨some o, storage, findStoredOperation_ok.2 ⟨rfl, hreads, operations, hholds,
    hfind.symm, fun item hitem => ?_⟩, rfl⟩
  rwa [← Option.some.inj hitem]

/-- A get for a payload whose identity is stored changes nothing, and answers with it. -/
lemma Taken.answers {n : Nat} (hholds : Holds w.state operations) (ho : o ∈ operations)
    (hdigest : o.payloadDigest = payloadDigest payload)
    (htaken : Taken w w' n env (.get payload)) {q : CallProcess}
    (hq : w'.tasks[n]? = some (.get payload, some q)) :
    w'.state = w.state ∧ AnswersWith o env q := by
  have hfind : findIn operations (payloadDigest payload) = some o :=
    hdigest ▸ (parseStoredOperations_sound hholds).findIn_of_mem ho
  have htask : ∀ {p : CallProcess}, w'.tasks[n]? = some (.get payload, some p) → q = p := by
    intro p hp
    rw [hq] at hp
    exact Option.some.inj (Prod.mk.inj (Option.some.inj hp)).2
  cases htaken with
  | digested _ hsame hp =>
      obtain rfl := htask hp
      exact ⟨hsame, ⟨fun r hr => (by cases hr), fun hrun => absurd trivial hrun⟩⟩
  | unavailable hfails hsame hp =>
      obtain rfl := htask hp
      exact ⟨hsame, ⟨fun r hr => (by cases hr), fun _ hworks => absurd hworks hfails⟩⟩
  | failed hturn hsame hp =>
      obtain rfl := htask hp
      refine ⟨hsame, ⟨fun r hr => (by cases hr), fun _ _ hreads hage => ?_⟩⟩
      have hok : AdjustmentCall.turn (.get payload) env (payloadDigest payload) w.state =
          .ok (some o, w.state) := bind_of_ok (getTurn_found hholds hfind hage hreads)
      rw [AdjustmentCall.payload, hok] at hturn
      cases hturn
  | returned hturn hp =>
      obtain rfl := htask hp
      obtain ⟨identity, t, hget, hr⟩ := bind_ok.1 hturn
      obtain ⟨rfl, hstate⟩ := pure_ok.1 hr
      have hget : getTurn env (payloadDigest payload) w.state = .ok (identity, t) := hget
      rcases getTurn_ok hholds hget with ⟨hfound, hage, hsame⟩ | ⟨id, -, hnone, -, -⟩
      · rw [hfind] at hfound
        obtain rfl := Option.some.inj hfound
        refine ⟨hstate.trans hsame, ⟨fun r hr => ?_, fun _ _ _ _ => rfl⟩⟩
        cases hr
        exact ⟨rfl, hage⟩
      · rw [hfind] at hnone
        cases hnone

/-- What a run without a clear of an identity keeps. -/
lemma run_remembers (hcollisions : NoCollisions payloads) (hpayload : payload ∈ payloads)
    (hdigest : o.payloadDigest = payloadDigest payload) (hstaged : w.Staged payloads)
    (hholds : ∃ operations, Holds w.state operations ∧ o ∈ operations)
    (hrun : Pool.StepsUnder AdjustmentCall.program (fun u event =>
      AdmissibleCalls payloads u event ∧
      ¬ ClearReturns payload o.idempotencyKey u event) w w') :
    w'.Staged payloads ∧ ∃ operations, Holds w'.state operations ∧ o ∈ operations := by
  refine hrun.invariant (I := fun u => AdjustmentCalls.Staged payloads u ∧
    ∃ operations, Holds u.state operations ∧ o ∈ operations)
    (fun {event u v} hadmissible hu hstep => ?_) ⟨hstaged, hholds⟩
  obtain ⟨hadmissible, hclear⟩ := hadmissible
  obtain ⟨hstaged, operations, hholds, ho⟩ := hu
  obtain ⟨hstaged', hcase⟩ := hstaged.step hadmissible hstep
  refine ⟨hstaged', ?_⟩
  rcases hcase with ⟨hsame, -⟩ | ⟨n, env, call, rfl, -, htaken⟩
  · exact ⟨operations, by rwa [hsame], ho⟩
  cases htaken with
  | digested _ hsame => exact ⟨operations, by rwa [hsame], ho⟩
  | unavailable _ hsame => exact ⟨operations, by rwa [hsame], ho⟩
  | failed _ hsame => exact ⟨operations, by rwa [hsame], ho⟩
  | returned hturn htask =>
      obtain ⟨operations', hchanged, hholds'⟩ := AdjustmentCall.turn_ok hholds
        (fun id hid => hadmissible.2 n env rfl id hid operations hholds) hturn
      refine ⟨operations', hholds', ?_⟩
      cases hchanged with
      | found => exact ho
      | issued => exact List.mem_append_left _ ho
      | @cleared payload' env identity =>
          refine List.mem_filter.2 ⟨ho, ?_⟩
          rw [Bool.or_eq_true, decide_eq_true_eq, decide_eq_true_eq]
          by_contra hnamed
          obtain ⟨hsameDigest, hsameKey⟩ := not_or.1 hnamed
          -- the clear is one of this payload, for no other has its digest
          have hmem : payload' ∈ payloads := (hstaged' n _ _ htask).2
          have htext := hcollisions payload' hmem payload hpayload
            ((not_not.1 hsameDigest).symm.trans hdigest)
          exact hclear ⟨n, env, payload', identity, v, rfl, hstep, htask, htext,
            (not_not.1 hsameKey).symm⟩

/-! ### The law of the identities -/

section Law

variable (payloads : Set AdjustmentOperationPayload) (w : AdjustmentCalls)

/-- After a get has returned an identity, and as long as no clear of it returns, every get for
the payload leaves the storage alone and answers with that identity. -/
def GetsAgree : Prop :=
  ∀ n env payload o w₁, AdmissibleCalls payloads w (.advance n env) →
    w.step AdjustmentCall.program (.advance n env) = some w₁ →
    w₁.tasks[n]? = some (.get payload, some (.done (some o))) →
    ∀ w₂, Pool.StepsUnder AdjustmentCall.program (fun u event => AdmissibleCalls payloads u event ∧
      ¬ ClearReturns payload o.idempotencyKey u event) w₁ w₂ →
    ∀ m env' w₃ payload' q, AdmissibleCalls payloads w₂ (.advance m env') →
      w₂.step AdjustmentCall.program (.advance m env') = some w₃ →
      canonicalPayload payload' = canonicalPayload payload →
      w₃.tasks[m]? = some (.get payload', some q) →
      w₃.state = w₂.state ∧ AnswersWith o env' q

/-- A clear that returns takes away the operation with its payload's digest and with the key it
names, and no other. -/
def ClearsNamed : Prop :=
  ∀ n env payload identity w₁ operations, AdmissibleCalls payloads w (.advance n env) →
    w.step AdjustmentCall.program (.advance n env) = some w₁ →
    w₁.tasks[n]? = some (.clear payload identity, some (.done none)) →
    Holds w.state operations →
    Holds w₁.state (operations.filter fun item => item.payloadDigest ≠ payloadDigest payload ||
      item.idempotencyKey ≠ identity.idempotencyKey)

end Law

lemma AdjustmentCalls.Staged.returned {n : Nat} {r : Option StoredAdjustmentOperation}
    (hw : w.Staged payloads) (hadmissible : AdmissibleCalls payloads w (.advance n env))
    (hstep : w.step AdjustmentCall.program (.advance n env) = some w')
    (htask : w'.tasks[n]? = some (call, some (.done r))) :
    call.turn env (payloadDigest call.payload) w.state = .ok (r, w'.state) := by
  obtain ⟨-, hcase⟩ := hw.step hadmissible hstep
  rcases hcase with ⟨-, hnot⟩ | ⟨m, env', call', hevent, -, htaken⟩
  · exact absurd rfl (hnot n env)
  obtain ⟨rfl, rfl⟩ := PoolEvent.advance.inj hevent
  cases htaken with
  | digested _ _ hp => rw [htask] at hp; cases hp
  | unavailable _ _ hp => rw [htask] at hp; cases hp
  | failed _ _ hp => rw [htask] at hp; cases hp
  | returned hturn hp =>
      rw [htask] at hp
      obtain ⟨rfl, hdone⟩ := Prod.mk.inj (Option.some.inj hp)
      cases hdone
      exact hturn

theorem getsAgree (hcollisions : NoCollisions payloads) (hstaged : w.Staged payloads)
    (hholds : Holds w.state operations) : GetsAgree payloads w := by
  intro n env payload o w₁ hadmissible hstep hreturned w₂ hrun m env' w₃ payload' q hadmissible'
    hstep' hsame hq
  have hstaged₁ := (hstaged.step hadmissible hstep).1
  obtain ⟨operations₁, hchanged, hholds₁⟩ := AdjustmentCall.turn_ok hholds
    (fun id hid => hadmissible.2 n env rfl id hid operations hholds)
    (hstaged.returned hadmissible hstep hreturned)
  have ho : o ∈ operations₁ ∧ o.payloadDigest = payloadDigest payload := by
    cases hchanged with
    | found hfind _ => exact ⟨List.mem_of_find?_eq_some hfind, by simpa using List.find?_some hfind⟩
    | issued => exact ⟨by simp, rfl⟩
  obtain ⟨hstaged₂, operations₂, hholds₂, ho₂⟩ := run_remembers hcollisions
    (hstaged₁ n _ _ hreturned).2 ho.2 hstaged₁ ⟨operations₁, hholds₁, ho.1⟩ hrun
  obtain ⟨-, hcase⟩ := hstaged₂.step hadmissible' hstep'
  rcases hcase with ⟨-, hnot⟩ | ⟨m', env₂, call, hevent, htask, htaken⟩
  · exact absurd rfl (hnot m env')
  obtain ⟨rfl, rfl⟩ := PoolEvent.advance.inj hevent
  have hcall : call = .get payload' := by
    cases htaken with
    | digested _ _ hp | unavailable _ _ hp | failed _ _ hp | returned _ hp =>
        rw [hq] at hp
        exact (Prod.mk.inj (Option.some.inj hp)).1.symm
  subst hcall
  have hdigest : payloadDigest payload' = payloadDigest payload := by
    unfold payloadDigest
    rw [hsame]
  exact htaken.answers hholds₂ ho₂ (ho.2.trans hdigest.symm) hq

theorem clearsNamed (hstaged : w.Staged payloads) : ClearsNamed payloads w := by
  intro n env payload identity w₁ operations hadmissible hstep hreturned hholds
  obtain ⟨operations', hchanged, hholds'⟩ := AdjustmentCall.turn_ok hholds
    (fun id hid => hadmissible.2 n env rfl id hid operations hholds)
    (hstaged.returned hadmissible hstep hreturned)
  cases hchanged with
  | cleared => exact hholds'

/-- **The identities of adjustments**: whatever the order in which calls go on, the storage holds
operations with distinct digests and distinct keys that it is read back with; gets for one
payload agree until a clear or the retention time, and then fail; and a clear takes away only
what it names. -/
theorem adjustment_identities (hcollisions : NoCollisions payloads)
    (hstorage : ∃ operations, Holds storage operations)
    (hrun : Pool.StepsUnder AdjustmentCall.program (AdmissibleCalls payloads)
      (.initial storage) w) :
    (∃ operations, parseStoredOperations w.state = some operations ∧
      (operations.map fun o => o.payloadDigest).Nodup ∧
      (operations.map fun o => o.idempotencyKey).Nodup) ∧
    GetsAgree payloads w ∧ ClearsNamed payloads w := by
  have hinitial : AdjustmentCalls.Staged payloads (.initial storage) := by
    intro n call p hp
    simp [Pool.initial] at hp
  obtain ⟨hstaged, operations, hholds⟩ := run_holds hinitial hstorage hrun
  have hsound := parseStoredOperations_sound hholds
  exact ⟨⟨operations, hholds, hsound.digests, hsound.keys⟩, getsAgree hcollisions hstaged hholds,
    clearsNamed hstaged⟩

/-! ### Two gets side by side -/

namespace AdjustmentTab

def goodwill : AdjustmentOperationPayload :=
  ⟨"customer", .finite ⟨false, 5, 3, by decide⟩, "Goodwill", .CREDIT⟩

def sameText : Set AdjustmentOperationPayload :=
  {p | canonicalPayload p = canonicalPayload goodwill}

lemma noCollisions : NoCollisions sameText := fun _ hp _ hq _ => hp.trans hq.symm

/-- A call at the start of 2026, and the id it would draw. -/
def surroundings (id : String) (h : isUuid id = true) : AdjustmentSurroundings where
  sessionStorage := true
  subtle := true
  now := 1767225600000
  now_time := by decide
  randomUUID := some id
  randomUUID_uuid _ hid := Option.some.inj hid ▸ h
  getItemThrows := false
  getItemThrowsAgain := false
  setItemThrows := false

def first : AdjustmentSurroundings :=
  surroundings "11111111-1111-4111-8111-111111111111" (by decide +kernel)

def second : AdjustmentSurroundings :=
  surroundings "22222222-2222-4222-8222-222222222222" (by decide +kernel)

/-- Two gets that both await the digest before one goes on. -/
def twoGets : List (PoolEvent AdjustmentCall AdjustmentSurroundings) :=
  [.start (.get goodwill), .start (.get goodwill), .advance 0 first, .advance 1 second,
    .advance 1 second, .advance 0 first]

def admissible (w : AdjustmentCalls) : PoolEvent AdjustmentCall AdjustmentSurroundings → Bool
  | .start call => canonicalPayload call.payload = canonicalPayload goodwill
  | .advance _ env => env.randomUUID.all fun id =>
      (parseStoredOperations w.state).all fun operations =>
      operations.all fun o => o.idempotencyKey ≠ id
  | .crash _ => true

lemma admissible_of_check (h : admissible w event = true) : AdmissibleCalls sameText w event := by
  refine ⟨?_, ?_⟩
  · rintro call rfl
    have htext : canonicalPayload call.payload = canonicalPayload goodwill := of_decide_eq_true h
    exact htext
  · rintro n env rfl id hid operations hholds o ho
    simp only [Option.mem_def] at hid
    simp only [admissible, hid, Option.all_some, hholds, List.all_eq_true, decide_eq_true_eq] at h
    exact h o ho

/-- The key that a call has returned. -/
def returnedKey (task : AdjustmentCall × Option CallProcess) : Option String :=
  match task with
  | (_, some (.done (some o))) => some o.idempotencyKey
  | _ => none

end AdjustmentTab

/-- The get that goes on first stores an identity, and the other one returns it. -/
theorem adjustment_identities_twoGets : ∃ w : AdjustmentCalls,
    w.tasks.map AdjustmentTab.returnedKey =
      [some "22222222-2222-4222-8222-222222222222", some "22222222-2222-4222-8222-222222222222"] ∧
    (parseStoredOperations w.state).isSome = true ∧
    GetsAgree AdjustmentTab.sameText w ∧ ClearsNamed AdjustmentTab.sameText w := by
  have hw : ((Pool.initial none).runChecked AdjustmentCall.program AdjustmentTab.admissible
      AdjustmentTab.twoGets).map (fun w => w.tasks.map AdjustmentTab.returnedKey) =
      some [some "22222222-2222-4222-8222-222222222222",
        some "22222222-2222-4222-8222-222222222222"] := by
    decide +kernel
  obtain ⟨w, hw, hkeys⟩ := Option.map_eq_some_iff.1 hw
  obtain ⟨⟨operations, hholds, -⟩, hgets, hclears⟩ :=
    adjustment_identities AdjustmentTab.noCollisions
    ⟨[], (rfl : parseStoredOperations none = some [])⟩
    (.of_runChecked (fun _ _ => AdjustmentTab.admissible_of_check) hw)
  exact ⟨w, hkeys, by rw [hholds]; rfl, hgets, hclears⟩

end ShopcityLoyalty
