import ShopcityLoyalty.ReceiptWeeks
import ShopcityLoyalty.SmsTexts

/-!
The chain of an SMS: its payload is built, validated, stored with its event, read by the worker and
rendered.

Every payload goes through, unless a redemption has only one of its two settlement amounts or a
serial number ends in four blanks.
-/

namespace ShopcityLoyalty

open OutboxWorkerRuntime SmsTemplates

/-! ### Reading the fields -/

section fields

variable {payload : SmsPayload} {key v : String} {k : Int}

@[simp] lemma SmsTemplate.ofText_text (template : SmsTemplate) :
    SmsTemplate.ofText template.text = some template := by
  cases template <;> rfl

lemma readPayloadString_of (h : payload.lookup key = some (.string v)) (hv : NotBlank v) :
    readPayloadString payload key = some (trim v) := by
  unfold readPayloadString
  rw [h]
  exact if_neg hv

lemma requirePayloadString_of (h : payload.lookup key = some (.string v)) (hv : NotBlank v) :
    requirePayloadString payload key = .ok (trim v) := by
  unfold requirePayloadString
  rw [readPayloadString_of h hv]

lemma not_isWhiteSpace_of_isDigit {c : Char} (h : c.isDigit) : ¬ isWhiteSpace c := by
  have hrange : 48 ≤ c.toNat ∧ c.toNat ≤ 57 := Char.isDigit_iff_toNat.1 h
  simp only [isWhiteSpace]
  simp
  omega

lemma trim_toString (hk : 0 ≤ k) : trim (toString k) = toString k := by
  obtain ⟨n, rfl⟩ := Int.eq_ofNat_of_zero_le hk
  exact trim_of_forall fun c hc =>
    not_isWhiteSpace_of_isDigit (isDigit_of_mem_toString (n := n) hc)

lemma toString_ne_empty (hk : 0 ≤ k) : toString k ≠ "" := by
  obtain ⟨n, rfl⟩ := Int.eq_ofNat_of_zero_le hk
  intro hempty
  exact toString_nat_ne_empty n (congrArg String.toList hempty)

lemma notBlank_toString (hk : 0 ≤ k) : NotBlank (toString k) := by
  unfold NotBlank
  rw [trim_toString hk]
  exact toString_ne_empty hk

lemma isAmount_toString (hk : 0 ≤ k) : isAmount (toString k) := by
  have hne := toString_ne_empty hk
  obtain ⟨n, rfl⟩ := Int.eq_ofNat_of_zero_le hk
  simp only [isAmount, Bool.and_eq_true, decide_eq_true_eq]
  exact ⟨hne, List.all_eq_true.2 fun c hc => isDigit_of_mem_toString (n := n) hc⟩

lemma bigInt_of_nonneg (hk : 0 ≤ k) : bigInt (toString k) = k := by
  obtain ⟨n, rfl⟩ := Int.eq_ofNat_of_zero_le hk
  exact bigInt_toString n

lemma readPayloadAmount_of (h : payload.lookup key = some (.string (toString k))) (hk : 0 ≤ k) :
    readPayloadString payload key = some (toString k) := by
  rw [readPayloadString_of h (notBlank_toString hk), trim_toString hk]

lemma requirePayloadAmount_of (h : payload.lookup key = some (.string (toString k)))
    (hk : 0 ≤ k) : requirePayloadAmount payload key = .ok (toString k) := by
  unfold requirePayloadAmount
  rw [requirePayloadString_of h (notBlank_toString hk), trim_toString hk]
  exact if_pos (isAmount_toString hk)

lemma trim_phone (h : isE164 v) : trim v = v := by
  refine trim_of_forall fun c hc => ?_
  unfold isE164 at h
  split at h
  · rename_i d rest hlist
    rw [hlist] at hc
    simp only [Bool.and_eq_true, decide_eq_true_eq] at h
    obtain ⟨⟨⟨⟨hlow, hhigh⟩, -⟩, -⟩, hdigits⟩ := h
    rcases List.mem_cons.1 hc with rfl | hc
    · decide
    · rcases List.mem_cons.1 hc with rfl | hc
      · apply not_isWhiteSpace_of_isDigit
        have hlow' : ('1' : Char).toNat ≤ c.toNat := hlow
        have hhigh' : c.toNat ≤ ('9' : Char).toNat := hhigh
        exact Char.isDigit_iff_toNat.2 ⟨Nat.le_trans (by decide) hlow', hhigh'⟩
      · exact not_isWhiteSpace_of_isDigit (List.all_eq_true.1 hdigits c hc)
  · cases h

lemma phone_ne_empty (h : isE164 v) : v ≠ "" := by
  rintro rfl
  exact absurd h (by decide)

lemma requirePayloadPhone_of (h : payload.lookup "phoneE164" = some (.string v))
    (hv : isE164 v) : requirePayloadPhone payload = .ok () := by
  have hblank : NotBlank v := by
    unfold NotBlank
    rw [trim_phone hv]
    exact phone_ne_empty hv
  unfold requirePayloadPhone
  rw [readPayloadString_of h hblank, trim_phone hv]
  exact if_pos hv

lemma requirePayloadTemplate_of {template : SmsTemplate}
    (hversion : payload.lookup "version" = some (.number 1))
    (h : payload.lookup "template" = some (.string template.text)) :
    requirePayloadTemplate payload template = .ok () := by
  have hblank : NotBlank template.text := by
    unfold NotBlank
    cases template <;> decide +kernel
  have htrim : trim template.text = template.text := by
    cases template <;> decide +kernel
  unfold requirePayloadTemplate
  rw [hversion, readPayloadString_of h hblank, htrim, if_pos rfl]
  rfl

/-- A text without white space. -/
def Solid (s : String) : Prop := ∀ c ∈ s.toList, ¬ isWhiteSpace c

lemma Solid.of_all {s : String} (h : s.toList.all fun c => ¬ isWhiteSpace c) : Solid s := by
  intro c hc
  simpa using List.all_eq_true.1 h c hc

lemma Solid.append {a b : String} (ha : Solid a) (hb : Solid b) : Solid (a ++ b) := by
  intro c hc
  rw [String.toList_append] at hc
  rcases List.mem_append.1 hc with hc | hc
  · exact ha c hc
  · exact hb c hc

lemma solid_padded (w n : Nat) : Solid (Calendar.padded w n) := padded_notSpace

lemma solid_yearText (year : Int) : Solid (Calendar.yearText year) := by
  unfold Calendar.yearText
  split
  · exact solid_padded _ _
  · refine .append ?_ (solid_padded _ _)
    split <;> exact .of_all rfl

lemma Solid.field {a mark : String} (ha : Solid a) (hmark : Solid mark) (w n : Nat) :
    Solid (a ++ mark ++ Calendar.padded w n) :=
  (ha.append hmark).append (solid_padded w n)

lemma solid_toISOString (t : Int) : Solid (Calendar.toISOString t) := by
  have hdash : Solid "-" := .of_all rfl
  have htime : Solid "T" := .of_all rfl
  have hcolon : Solid ":" := .of_all rfl
  have hpoint : Solid "." := .of_all rfl
  have hzone : Solid "Z" := .of_all rfl
  have hdate : Solid (Calendar.dateText t) :=
    ((solid_yearText _).field hdash _ _).field hdash _ _
  exact (((((hdate.field htime _ _).field hcolon _ _).field hcolon _ _).field hpoint _ _).append
    hzone)

lemma toISOString_ne_empty (t : Int) : Calendar.toISOString t ≠ "" := by
  have hend : ∃ front, Calendar.toISOString t = front ++ "Z" := ⟨_, rfl⟩
  obtain ⟨front, hfront⟩ := hend
  rw [hfront]
  intro hempty
  have hlist := congrArg String.toList hempty
  rw [String.toList_append] at hlist
  exact absurd (List.append_eq_nil_iff.1 hlist).2 (by decide)

lemma requirePayloadDate_of {t : Int}
    (h : payload.lookup key = some (.string (Calendar.toISOString t))) :
    requirePayloadString payload key = .ok (Calendar.toISOString t) := by
  have htrim := trim_of_forall (solid_toISOString t)
  have hblank : NotBlank (Calendar.toISOString t) := by
    unfold NotBlank
    rw [htrim]
    exact toISOString_ne_empty t
  rw [requirePayloadString_of h hblank, htrim]

lemma requirePayloadDateString_of {dateParses : String → Bool} {t : Int}
    (h : payload.lookup key = some (.string (Calendar.toISOString t)))
    (hparses : dateParses (Calendar.toISOString t)) :
    requirePayloadDateString dateParses payload key = .ok (Calendar.toISOString t) := by
  unfold requirePayloadDateString
  rw [requirePayloadDate_of h]
  exact if_pos hparses

end fields

/-! ### The chain of each template -/

/-- A stored payload is valid, has what the worker asks for, and is rendered as the text. -/
structure Chained (dateParses : String → Bool) (intent : SmsIntent) (stored : SmsPayload) :
    Prop where
  version : stored.lookup "version" = some (.number 1)
  template : stored.lookup "template" = some (.string intent.template.text)
  phone : stored.lookup "phoneE164" = some (.string intent.phoneE164)
  isE164 : isE164 intent.phoneE164
  addressed : ∃ v, NotBlank v ∧ stored.lookup
    (match intent.template with
      | .creditExpiryReminder => "customerId"
      | .cardReplaced => "replacementCardId"
      | _ => "transactionId") = some (.string v)
  valid : validateSmsIntent dateParses intent.template.text stored = .ok ()
  rendered : renderSmsMessage dateParses (nonEmpty (trim (readStringField stored "receiptId")))
    intent.template.text stored = .ok intent.text

section chains

variable {dateParses : String → Bool} {stored : SmsPayload}

lemma ok_bind {α β : Type} (a : α) (f : α → Except JobError β) :
    (Except.ok a >>= f) = f a := rfl

lemma receiptId_of {v : String} (h : stored.lookup "receiptId" = some (.string v))
    (hv : NotBlank v) : nonEmpty (trim (readStringField stored "receiptId")) = some (trim v) := by
  unfold readStringField
  rw [h]
  exact if_neg hv

lemma earnPayload_chained {i : EarnConfirmedInput} {intent : SmsIntent}
    (hintent : intent.template = .earnConfirmed ∧ intent.text = SmsIntent.earnConfirmedText i)
    (hto : intent.phoneE164 = i.phoneE164)
    (hi : (SmsIntent.earnConfirmed i).WellFormed)
    (hs : SameFields stored (buildEarnConfirmedSmsPayload i)) :
    Chained dateParses intent stored := by
  obtain ⟨hreceipt, htransaction, hcustomer, hphone, hk⟩ := hi
  have version : stored.lookup "version" = some (.number 1) := (hs _).trans rfl
  have template : stored.lookup "template" = some (.string SmsTemplate.earnConfirmed.text) :=
    (hs _).trans rfl
  have phone : stored.lookup "phoneE164" = some (.string i.phoneE164) := (hs _).trans rfl
  have receiptId : stored.lookup "receiptId" = some (.string i.receiptId) := (hs _).trans rfl
  have transactionId : stored.lookup "transactionId" = some (.string i.transactionId) :=
    (hs _).trans rfl
  have customerId : stored.lookup "customerId" = some (.string i.customerId) := (hs _).trans rfl
  have creditKobo : stored.lookup "creditKobo" = some (.string (toString i.creditKobo)) :=
    (hs _).trans rfl
  have valid : validateSmsIntent dateParses SmsTemplate.earnConfirmed.text stored = .ok () := by
    simp only [validateSmsIntent, SmsTemplate.ofText_text, assertEarnConfirmedPayload,
      requirePayloadTemplate_of version template, requirePayloadString_of receiptId hreceipt,
      requirePayloadString_of transactionId htransaction,
      requirePayloadString_of customerId hcustomer, requirePayloadPhone_of phone hphone,
      requirePayloadAmount_of creditKobo hk, ok_bind, if_neg (toString_ne_empty hk)]
    rfl
  rw [← hintent.1] at valid template
  rw [← hto] at phone hphone
  refine ⟨version, template, phone, hphone, ⟨_, htransaction, ?_⟩, valid, ?_⟩
  · rw [hintent.1]
    exact transactionId
  · rw [receiptId_of receiptId hreceipt, hintent.2, renderSmsMessage, valid]
    simp only [hintent.1, SmsTemplate.ofText_text, renderEarnConfirmed, ok_bind,
      requirePayloadAmount_of creditKobo hk, bigInt_of_nonneg hk]
    rfl

/-- The fields of a redemption's payload. -/
structure RedemptionFields (i : RedemptionConfirmedInput) (stored : SmsPayload) : Prop where
  version : stored.lookup "version" = some (.number 1)
  template : stored.lookup "template" = some (.string SmsTemplate.redemptionConfirmed.text)
  phone : stored.lookup "phoneE164" = some (.string i.phoneE164)
  receiptId : stored.lookup "receiptId" = some (.string i.receiptId)
  transactionId : stored.lookup "transactionId" = some (.string i.transactionId)
  redemptionId : stored.lookup "redemptionId" = some (.string i.redemptionId)
  customerId : stored.lookup "customerId" = some (.string i.customerId)
  redeemedKobo : stored.lookup "redeemedKobo" = some (.string (toString i.redeemedKobo))
  netPaidKobo : stored.lookup "netPaidKobo" = i.netPaidKobo.map fun k => .string (toString k)
  earnedKobo : stored.lookup "earnedKobo" = i.earnedKobo.map fun k => .string (toString k)
  earnTransactionId : stored.lookup "earnTransactionId" = i.earnTransactionId.map orNull
  remainingBalanceKobo : stored.lookup "remainingBalanceKobo" =
    some (.string (toString i.remainingBalanceKobo))

lemma redemptionFields {i : RedemptionConfirmedInput}
    (hs : SameFields stored (SmsTemplates.buildRedemptionConfirmedSmsPayload i)) :
    RedemptionFields i stored := by
  have hlast : ∀ (n e : Option Int) (t : Option (Option String)),
      let optional := amountField "netPaidKobo" n ++ (amountField "earnedKobo" e ++
        ((t.map fun id => ("earnTransactionId", orNull id)).toList ++
          [("remainingBalanceKobo", Json.string (toString i.remainingBalanceKobo))]))
      optional.lookup "netPaidKobo" = n.map (fun k => .string (toString k)) ∧
      optional.lookup "earnedKobo" = e.map (fun k => .string (toString k)) ∧
      optional.lookup "earnTransactionId" = t.map orNull ∧
      optional.lookup "remainingBalanceKobo" =
        some (.string (toString i.remainingBalanceKobo)) := by
    intro n e t
    cases n <;> cases e <;> cases t <;> simp [amountField, List.lookup_cons]
  obtain ⟨hn, he, ht, hm⟩ := hlast i.netPaidKobo i.earnedKobo i.earnTransactionId
  simp only [SameFields, SmsTemplates.buildRedemptionConfirmedSmsPayload, List.append_assoc,
    List.cons_append, List.nil_append] at hs
  exact ⟨(hs _).trans rfl, (hs _).trans rfl, (hs _).trans rfl, (hs _).trans rfl,
    (hs _).trans rfl, (hs _).trans rfl, (hs _).trans rfl, (hs _).trans rfl, (hs _).trans hn,
    (hs _).trans he, (hs _).trans ht, (hs _).trans hm⟩

lemma isDefined_of_string {key v : String} (h : stored.lookup key = some (.string v)) :
    isDefined stored key = true := by
  unfold isDefined
  rw [h]

lemma isDefined_of_none {key : String} (h : stored.lookup key = none) :
    isDefined stored key = false := by
  unfold isDefined
  rw [h]

lemma readPayloadString_of_none {key : String} (h : stored.lookup key = none) :
    readPayloadString stored key = none := by
  unfold readPayloadString
  rw [h]

lemma optionalId_of {key : String} {o : Option (Option String)}
    (h : stored.lookup key = o.map orNull) (ho : ∀ id, o = some (some id) → NotBlank id) :
    (if isGiven stored key then do
      let _ ← requirePayloadString stored key
      pure () else pure () : Except JobError Unit) = .ok () := by
  unfold isGiven
  cases o with
  | none =>
      rw [h]
      rfl
  | some id =>
      cases id with
      | none =>
          rw [h]
          rfl
      | some id =>
          have hid : stored.lookup key = some (.string id) := h
          rw [requirePayloadString_of hid (ho id rfl), hid]
          rfl

lemma settlement_of_sendable {i : RedemptionConfirmedInput}
    (h : (SmsIntent.redemptionConfirmed i).Sendable) :
    (i.netPaidKobo = none ∧ i.earnedKobo = none) ∨
      ∃ n e, i.netPaidKobo = some n ∧ i.earnedKobo = some e := by
  have hsame : i.netPaidKobo.isSome = i.earnedKobo.isSome := h
  cases hn : i.netPaidKobo with
  | none =>
      rw [hn] at hsame
      exact .inl ⟨rfl, Option.not_isSome_iff_eq_none.1 (by rw [← hsame]; decide)⟩
  | some n =>
      rw [hn] at hsame
      obtain ⟨e, he⟩ := Option.isSome_iff_exists.1 hsame.symm
      exact .inr ⟨n, e, rfl, he⟩

lemma redemptionConfirmed_chained {i : RedemptionConfirmedInput}
    (hi : (SmsIntent.redemptionConfirmed i).WellFormed)
    (hsend : (SmsIntent.redemptionConfirmed i).Sendable)
    (hs : SameFields stored (SmsTemplates.buildRedemptionConfirmedSmsPayload i)) :
    Chained dateParses (.redemptionConfirmed i) stored := by
  obtain ⟨hreceipt, htransaction, hredemption, hcustomer, hphone, hk, hn, he, ht, hm⟩ := hi
  have f := redemptionFields hs
  -- up to the settled amounts both kinds are checked alike: `d` is whether these are given
  have hcommon : ∀ d, isDefined stored "netPaidKobo" = d → isDefined stored "earnedKobo" = d →
      validateSmsIntent dateParses SmsTemplate.redemptionConfirmed.text stored =
        if d then do
          let _ ← requirePayloadAmount stored "netPaidKobo"
          let _ ← requirePayloadAmount stored "earnedKobo"
          if isGiven stored "earnTransactionId" then do
            let _ ← requirePayloadString stored "earnTransactionId"
            pure ()
          else pure ()
        else pure () := by
    intro d hnet hearned
    simp only [validateSmsIntent, SmsTemplate.ofText_text, assertRedemptionConfirmedPayload,
      requirePayloadTemplate_of f.version f.template,
      requirePayloadString_of f.receiptId hreceipt,
      requirePayloadString_of f.transactionId htransaction,
      requirePayloadString_of f.redemptionId hredemption,
      requirePayloadString_of f.customerId hcustomer, requirePayloadPhone_of f.phone hphone,
      requirePayloadAmount_of f.redeemedKobo hk,
      requirePayloadAmount_of f.remainingBalanceKobo hm, ok_bind, toString_ne_empty hk,
      toString_ne_empty hm, or_self, if_false, hnet, hearned, ne_eq, not_true_eq_false]
  have hrender := receiptId_of f.receiptId hreceipt
  rcases settlement_of_sendable hsend with ⟨hnone, hnone'⟩ | ⟨n, e, hsome, hsome'⟩
  · have netPaidKobo : stored.lookup "netPaidKobo" = none := by
      rw [f.netPaidKobo, hnone]
      rfl
    have earnedKobo : stored.lookup "earnedKobo" = none := by
      rw [f.earnedKobo, hnone']
      rfl
    have valid := hcommon false (isDefined_of_none netPaidKobo) (isDefined_of_none earnedKobo)
    rw [if_neg Bool.false_ne_true] at valid
    refine ⟨f.version, f.template, f.phone, hphone, ⟨_, htransaction, f.transactionId⟩, valid, ?_⟩
    rw [hrender, renderSmsMessage]
    simp only [SmsIntent.template, valid, SmsTemplate.ofText_text, renderRedemptionConfirmed,
      requirePayloadAmount_of f.redeemedKobo hk,
      requirePayloadAmount_of f.remainingBalanceKobo hm, readPayloadString_of_none netPaidKobo,
      ok_bind, bigInt_of_nonneg hk, bigInt_of_nonneg hm]
    have htext : (SmsIntent.redemptionConfirmed i).text = SmsIntent.redemptionText i := by
      change SmsIntent.redemptionConfirmedText i = _
      unfold SmsIntent.redemptionConfirmedText
      rw [hnone]
    rw [htext]
    rfl
  · have netPaidKobo : stored.lookup "netPaidKobo" = some (.string (toString n)) := by
      rw [f.netPaidKobo, hsome]
      rfl
    have earnedKobo : stored.lookup "earnedKobo" = some (.string (toString e)) := by
      rw [f.earnedKobo, hsome']
      rfl
    have hn0 := hn n hsome
    have he0 := he e hsome'
    have valid := hcommon true (isDefined_of_string netPaidKobo) (isDefined_of_string earnedKobo)
    rw [if_pos rfl, requirePayloadAmount_of netPaidKobo hn0, ok_bind,
      requirePayloadAmount_of earnedKobo he0, ok_bind,
      optionalId_of f.earnTransactionId ht] at valid
    refine ⟨f.version, f.template, f.phone, hphone, ⟨_, htransaction, f.transactionId⟩, valid, ?_⟩
    rw [hrender, renderSmsMessage]
    simp only [SmsIntent.template, valid, SmsTemplate.ofText_text, renderRedemptionConfirmed,
      requirePayloadAmount_of f.redeemedKobo hk,
      requirePayloadAmount_of f.remainingBalanceKobo hm, readPayloadAmount_of netPaidKobo hn0,
      readPayloadAmount_of earnedKobo he0, ok_bind, bigInt_of_nonneg hk, bigInt_of_nonneg hm,
      bigInt_of_nonneg hn0, bigInt_of_nonneg he0]
    have htext : (SmsIntent.redemptionConfirmed i).text = SmsIntent.settlementText i n e := by
      change SmsIntent.redemptionConfirmedText i = _
      unfold SmsIntent.redemptionConfirmedText
      rw [hsome, hsome']
    rw [htext]
    rfl

/-- **The message of a settlement**: the payload that it queues is accepted, and is rendered with
what was redeemed, paid and earned, and with what is left. -/
theorem settlement_chained {rt : Runtime} {input : RedemptionSettlementInput}
    {transactionId : Nat} {netPaidKobo earnedKobo : Int} {earnTransactionId : Option Nat}
    {remainingBalanceKobo : Int} {payload : SmsPayload}
    (hpayload : ShopcityLoyalty.buildRedemptionConfirmedSmsPayload rt input transactionId
      netPaidKobo earnedKobo earnTransactionId remainingBalanceKobo = .object payload)
    (hi : (SmsIntent.redemptionConfirmed (input.confirmedSms rt transactionId netPaidKobo earnedKobo
      earnTransactionId remainingBalanceKobo)).WellFormed) (hs : SameFields stored payload) :
    Chained dateParses (.redemptionConfirmed (input.confirmedSms rt transactionId netPaidKobo
      earnedKobo earnTransactionId remainingBalanceKobo)) stored := by
  rw [settlementPayload_eq] at hpayload
  obtain rfl := Json.object.inj hpayload
  exact redemptionConfirmed_chained hi rfl hs

lemma optionalReceiptId_of {receiptId : Option String}
    (h : stored.lookup "receiptId" = some (orNull receiptId))
    (hid : ∀ id ∈ receiptId, NotBlank id) :
    (if isGiven stored "receiptId" then do
      let _ ← requirePayloadString stored "receiptId"
      pure () else pure () : Except JobError Unit) = .ok () :=
  optionalId_of (o := some receiptId) h fun id heq => hid id (Option.some.inj heq)

lemma transactionReversed_chained {i : TransactionReversedInput}
    (hi : (SmsIntent.transactionReversed i).WellFormed)
    (hs : SameFields stored (buildTransactionReversedSmsPayload i)) :
    Chained dateParses (.transactionReversed i) stored := by
  obtain ⟨htransaction, hphone, hreceipt⟩ := hi
  have version : stored.lookup "version" = some (.number 1) := (hs _).trans rfl
  have template : stored.lookup "template" =
      some (.string SmsTemplate.transactionReversed.text) := (hs _).trans rfl
  have phone : stored.lookup "phoneE164" = some (.string i.phoneE164) := (hs _).trans rfl
  have transactionId : stored.lookup "transactionId" = some (.string i.transactionId) :=
    (hs _).trans rfl
  have receiptId : stored.lookup "receiptId" = some (orNull i.receiptId) := (hs _).trans rfl
  have valid : validateSmsIntent dateParses SmsTemplate.transactionReversed.text stored =
      .ok () := by
    simp only [validateSmsIntent, SmsTemplate.ofText_text, assertTransactionReversedPayload,
      requirePayloadTemplate_of version template,
      requirePayloadString_of transactionId htransaction, requirePayloadPhone_of phone hphone,
      ok_bind]
    exact optionalReceiptId_of receiptId hreceipt
  refine ⟨version, template, phone, hphone, ⟨_, htransaction, transactionId⟩, valid, ?_⟩
  have hrendered : ∀ id, renderTransactionReversed id stored =
      SmsIntent.transactionReversedText i := by
    intro id
    unfold renderTransactionReversed SmsIntent.transactionReversedText
    rw [readPayloadString_of transactionId htransaction]
    rfl
  rw [renderSmsMessage]
  simp only [SmsIntent.template, valid, SmsTemplate.ofText_text, hrendered, ok_bind]
  rfl

/-- The fields of an adjustment's payload. -/
structure AdjustmentFields (i : BalanceAdjustedInput) (stored : SmsPayload) : Prop where
  version : stored.lookup "version" = some (.number 1)
  template : stored.lookup "template" = some (.string SmsTemplate.balanceAdjusted.text)
  phone : stored.lookup "phoneE164" = some (.string i.phoneE164)
  transactionId : stored.lookup "transactionId" = some (.string i.transactionId)
  adjustmentId : stored.lookup "adjustmentId" = some (.string i.adjustmentId)
  kind : stored.lookup "kind" = some (.string (adjustmentKind i.kind))
  amountKobo : stored.lookup "amountKobo" = some (.string (toString i.amountKobo))
  remainingBalanceKobo : stored.lookup "remainingBalanceKobo" =
    i.remainingBalanceKobo.map fun k => .string (toString k)

lemma adjustmentFields {i : BalanceAdjustedInput}
    (hs : SameFields stored (buildBalanceAdjustedSmsPayload i)) : AdjustmentFields i stored := by
  have hlast : (amountField "remainingBalanceKobo" i.remainingBalanceKobo).lookup
      "remainingBalanceKobo" = i.remainingBalanceKobo.map fun k => .string (toString k) := by
    cases i.remainingBalanceKobo <;> simp [amountField]
  simp only [SameFields, buildBalanceAdjustedSmsPayload, List.cons_append, List.nil_append] at hs
  exact ⟨(hs _).trans rfl, (hs _).trans rfl, (hs _).trans rfl, (hs _).trans rfl,
    (hs _).trans rfl, (hs _).trans rfl, (hs _).trans rfl, (hs _).trans hlast⟩

lemma adjustmentKind_text (kind : LedgerEntryDirection) :
    NotBlank (adjustmentKind kind) ∧ trim (adjustmentKind kind) = adjustmentKind kind := by
  unfold NotBlank
  cases kind <;> decide +kernel

lemma remainingBalance_of {o : Option Int}
    (h : stored.lookup "remainingBalanceKobo" = o.map fun k => .string (toString k))
    (ho : ∀ k ∈ o, 0 ≤ k) :
    (if isGiven stored "remainingBalanceKobo" then do
      let _ ← requirePayloadAmount stored "remainingBalanceKobo"
      pure () else pure () : Except JobError Unit) = .ok () ∧
    readPayloadString stored "remainingBalanceKobo" = o.map fun k => toString k := by
  cases o with
  | none =>
      have hnone : stored.lookup "remainingBalanceKobo" = none := h
      refine ⟨?_, readPayloadString_of_none hnone⟩
      unfold isGiven
      rw [hnone]
      rfl
  | some k =>
      have hk := ho k rfl
      have hsome : stored.lookup "remainingBalanceKobo" = some (.string (toString k)) := h
      refine ⟨?_, readPayloadAmount_of hsome hk⟩
      unfold isGiven
      rw [requirePayloadAmount_of hsome hk, hsome]
      rfl

lemma balanceAdjusted_chained {i : BalanceAdjustedInput}
    (hi : (SmsIntent.balanceAdjusted i).WellFormed)
    (hs : SameFields stored (buildBalanceAdjustedSmsPayload i)) :
    Chained dateParses (.balanceAdjusted i) stored := by
  obtain ⟨htransaction, hadjustment, hphone, -, hk, hm⟩ := hi
  have f := adjustmentFields hs
  obtain ⟨hblank, htrim⟩ := adjustmentKind_text i.kind
  obtain ⟨hgiven, hremaining⟩ := remainingBalance_of f.remainingBalanceKobo hm
  have hkind : ¬ (adjustmentKind i.kind ≠ "CREDIT" ∧ adjustmentKind i.kind ≠ "DEBIT") := by
    cases i.kind <;> decide
  have valid : validateSmsIntent dateParses SmsTemplate.balanceAdjusted.text stored = .ok () := by
    simp only [validateSmsIntent, SmsTemplate.ofText_text, assertBalanceAdjustedPayload,
      requirePayloadTemplate_of f.version f.template,
      requirePayloadString_of f.transactionId htransaction,
      requirePayloadString_of f.adjustmentId hadjustment, requirePayloadString_of f.kind hblank,
      htrim, if_neg hkind, requirePayloadPhone_of f.phone hphone,
      requirePayloadAmount_of f.amountKobo hk, ok_bind]
    exact hgiven
  refine ⟨f.version, f.template, f.phone, hphone, ⟨_, htransaction, f.transactionId⟩, valid, ?_⟩
  rw [renderSmsMessage]
  simp only [SmsIntent.template, valid, SmsTemplate.ofText_text, renderBalanceAdjusted,
    readPayloadString_of f.transactionId htransaction, requirePayloadAmount_of f.amountKobo hk,
    readPayloadString_of f.kind hblank, htrim, bigInt_of_nonneg hk, ok_bind, hremaining]
  change _ = Except.ok (SmsIntent.balanceAdjustedText i)
  unfold SmsIntent.balanceAdjustedText
  cases hbalance : i.remainingBalanceKobo with
  | none => cases i.kind <;> rfl
  | some k =>
      simp only [Option.map_some, bigInt_of_nonneg (hm k hbalance)]
      cases i.kind <;> rfl

lemma cardReplaced_chained {i : CardReplacedInput} {payload : SmsPayload}
    (hi : (SmsIntent.cardReplaced i).WellFormed) (hsend : (SmsIntent.cardReplaced i).Sendable)
    (hpayload : buildCardReplacedSmsPayload i = some payload) (hs : SameFields stored payload) :
    Chained dateParses (.cardReplaced i) stored := by
  obtain ⟨hprevious, hreplacement, hcustomer, -, -, hphone⟩ := hi
  obtain ⟨⟨before, hbefore, hbefore0⟩, after, hafter, hafter0⟩ := hsend
  have hbuilt := hpayload
  simp only [buildCardReplacedSmsPayload, Option.mem_def.1 hbefore,
    Option.mem_def.1 hafter] at hbuilt
  obtain rfl := Option.some.inj hbuilt
  have version : stored.lookup "version" = some (.number 1) := (hs _).trans rfl
  have template : stored.lookup "template" = some (.string SmsTemplate.cardReplaced.text) :=
    (hs _).trans rfl
  have phone : stored.lookup "phoneE164" = some (.string i.phoneE164) := (hs _).trans rfl
  have previousCardId : stored.lookup "previousCardId" = some (.string i.previousCardId) :=
    (hs _).trans rfl
  have replacementCardId : stored.lookup "replacementCardId" =
      some (.string i.replacementCardId) := (hs _).trans rfl
  have customerId : stored.lookup "customerId" = some (.string i.customerId) := (hs _).trans rfl
  have previousSuffix : stored.lookup "previousSerialSuffix" = some (.string before) :=
    (hs _).trans rfl
  have replacementSuffix : stored.lookup "replacementSerialSuffix" = some (.string after) :=
    (hs _).trans rfl
  have valid : validateSmsIntent dateParses SmsTemplate.cardReplaced.text stored = .ok () := by
    simp only [validateSmsIntent, SmsTemplate.ofText_text, assertCardReplacedPayload,
      requirePayloadTemplate_of version template, requirePayloadPhone_of phone hphone,
      requirePayloadString_of previousCardId hprevious,
      requirePayloadString_of replacementCardId hreplacement,
      requirePayloadString_of customerId hcustomer,
      requirePayloadString_of previousSuffix hbefore0,
      requirePayloadString_of replacementSuffix hafter0, ok_bind]
    rfl
  refine ⟨version, template, phone, hphone, ⟨_, hreplacement, replacementCardId⟩, valid, ?_⟩
  rw [renderSmsMessage]
  simp only [SmsIntent.template, valid, SmsTemplate.ofText_text, renderCardReplaced,
    requirePayloadString_of replacementSuffix hafter0, ok_bind]
  change _ = Except.ok (SmsIntent.cardReplacedText i)
  unfold SmsIntent.cardReplacedText
  rw [Option.mem_def.1 hafter]
  rfl

lemma creditExpiryReminder_chained {i : CreditExpiryReminderInput}
    (hdates : ∀ t, IsDate t → dateParses (Calendar.toISOString t))
    (hi : (SmsIntent.creditExpiryReminder i).WellFormed)
    (hs : SameFields stored (buildCreditExpiryReminderSmsPayload i)) :
    Chained dateParses (.creditExpiryReminder i) stored := by
  obtain ⟨hcustomer, hphone, hk, hearliest, hlatest⟩ := hi
  have version : stored.lookup "version" = some (.number 1) := (hs _).trans rfl
  have template : stored.lookup "template" =
      some (.string SmsTemplate.creditExpiryReminder.text) := (hs _).trans rfl
  have phone : stored.lookup "phoneE164" = some (.string i.phoneE164) := (hs _).trans rfl
  have customerId : stored.lookup "customerId" = some (.string i.customerId) := (hs _).trans rfl
  have totalExpiringKobo : stored.lookup "totalExpiringKobo" =
      some (.string (toString i.totalExpiringKobo)) := (hs _).trans rfl
  have earliest : stored.lookup "earliestExpiresAt" =
      some (.string (Calendar.toISOString i.earliestExpiresAt)) := (hs _).trans rfl
  have latest : stored.lookup "latestExpiresAt" =
      some (.string (Calendar.toISOString i.latestExpiresAt)) := (hs _).trans rfl
  have valid : validateSmsIntent dateParses SmsTemplate.creditExpiryReminder.text stored =
      .ok () := by
    simp only [validateSmsIntent, SmsTemplate.ofText_text, assertCreditExpiryReminderPayload,
      requirePayloadTemplate_of version template, requirePayloadString_of customerId hcustomer,
      requirePayloadPhone_of phone hphone, requirePayloadAmount_of totalExpiringKobo hk,
      requirePayloadDateString_of earliest (hdates _ hearliest),
      requirePayloadDateString_of latest (hdates _ hlatest), ok_bind]
    rfl
  refine ⟨version, template, phone, hphone, ⟨_, hcustomer, customerId⟩, valid, ?_⟩
  rw [renderSmsMessage]
  simp only [SmsIntent.template, valid, SmsTemplate.ofText_text, renderCreditExpiryReminder,
    requirePayloadAmount_of totalExpiringKobo hk, requirePayloadDate_of earliest,
    requirePayloadDate_of latest, bigInt_of_nonneg hk, ok_bind]
  rfl

lemma SmsIntent.chained {intent : SmsIntent}
    (hdates : ∀ t, IsDate t → dateParses (Calendar.toISOString t)) (hi : intent.WellFormed)
    (hsend : intent.Sendable) {payload : SmsPayload} (hpayload : intent.payload? = some payload)
    (hs : SameFields stored payload) : Chained dateParses intent stored := by
  cases intent with
  | earnConfirmed i =>
      obtain rfl := Option.some.inj hpayload
      exact earnPayload_chained ⟨rfl, rfl⟩ rfl hi hs
  | earnApproved i =>
      obtain rfl := Option.some.inj hpayload
      exact earnPayload_chained ⟨rfl, rfl⟩ rfl hi hs
  | redemptionConfirmed i =>
      obtain rfl := Option.some.inj hpayload
      exact redemptionConfirmed_chained hi hsend hs
  | transactionReversed i =>
      obtain rfl := Option.some.inj hpayload
      exact transactionReversed_chained hi hs
  | balanceAdjusted i =>
      obtain rfl := Option.some.inj hpayload
      exact balanceAdjusted_chained hi hs
  | cardReplaced i => exact cardReplaced_chained hi hsend hpayload hs
  | creditExpiryReminder i =>
      obtain rfl := Option.some.inj hpayload
      exact creditExpiryReminder_chained hdates hi hs

lemma SmsIntent.payload_of_sendable {intent : SmsIntent} (hsend : intent.Sendable) :
    ∃ payload, intent.payload? = some payload := by
  cases intent with
  | cardReplaced i =>
      obtain ⟨⟨before, hbefore, -⟩, after, hafter, -⟩ := hsend
      simp only [payload?, buildCardReplacedSmsPayload, Option.mem_def.1 hbefore,
        Option.mem_def.1 hafter]
      exact ⟨_, rfl⟩
  | _ => exact ⟨_, rfl⟩

/-- The worker that validates with the templates. -/
def templateWorker (dateParses : String → Bool) (ctx : WorkerContext) : WorkerContext :=
  { ctx with validateSmsIntent := validateSmsIntent dateParses }

/-- **The worker accepts** the payload of an event, and keeps it with its template. -/
lemma Chained.accepted {intent : SmsIntent} (h : Chained dateParses intent stored)
    (ctx : WorkerContext) {row : OutboxRow} (queuedAt : Int) (htype : row.eventType = "sms.send")
    (hrow : row.payload = .object stored) :
    ∃ message, smsMessageFromOutboxEvent (templateWorker dateParses ctx) row queuedAt =
        .ok message ∧
      message.receiptId = nonEmpty (trim (readStringField stored "receiptId")) ∧
      message.phoneE164 = intent.phoneE164 ∧ message.template = intent.template.text ∧
      message.payload = .object stored := by
  have htemplate : trim (readStringField stored "template") = intent.template.text := by
    unfold readStringField
    rw [h.template]
    cases intent.template <;> decide +kernel
  have hphone : trim (readStringField stored "phoneE164") = intent.phoneE164 := by
    unfold readStringField
    rw [h.phone]
    exact trim_phone h.isE164
  have hversion : readNumberField stored "version" = 1 := by
    unfold readNumberField
    rw [h.version]
  have hvalid : (templateWorker dateParses ctx).validateSmsIntent intent.template.text stored =
      .ok () := h.valid
  obtain ⟨v, hv, haddressed⟩ := h.addressed
  have hread : ∀ key, stored.lookup key = some (.string v) →
      trim (readStringField stored key) ≠ "" := by
    intro key hkey
    unfold readStringField
    rw [hkey]
    exact hv
  have hfields : ¬ ((trim (readStringField stored "transactionId") = "" ∧
        intent.template.text ≠ "credit-expiry-reminder-v1" ∧
        intent.template.text ≠ "card-replaced") ∨
      (intent.template.text = "credit-expiry-reminder-v1" ∧
        (nonEmpty (trim (readStringField stored "customerId"))).isNone) ∨
      (intent.template.text = "card-replaced" ∧
        (nonEmpty (trim (readStringField stored "replacementCardId"))).isNone) ∨
      intent.phoneE164 = "" ∨ intent.template.text = "") := by
    have hphone0 := phone_ne_empty h.isE164
    cases ht : intent.template <;> rw [ht] at haddressed <;> have hread' := hread _ haddressed <;>
      simp [SmsTemplate.text, hread', hphone0, nonEmpty]
  have hpayload : normalizeJsonPayload row.payload = stored := by
    rw [hrow]
    rfl
  unfold smsMessageFromOutboxEvent
  simp only [hpayload, htemplate, hphone, hversion, htype, hvalid, if_neg hfields, ne_eq,
    not_true_eq_false, if_false]
  exact ⟨_, rfl, rfl, rfl, rfl, rfl⟩

end chains

/-- **The chain of an SMS**: the payload that a builder, or an approved earning, makes is valid;
stored and read back it is accepted by the worker, and the message is rendered as its text, which
determines its amounts. -/
theorem sms_chain {dateParses : String → Bool} {intent : SmsIntent}
    (hdates : ∀ t, IsDate t → dateParses (Calendar.toISOString t)) (hi : intent.WellFormed)
    (hsend : intent.Sendable) :
    ∃ payload, intent.payload? = some payload ∧
      (∀ stored, SameFields stored payload →
        validateSmsIntent dateParses intent.template.text stored = .ok () ∧
        ∀ (ctx : WorkerContext) (row : OutboxRow) (queuedAt : Int), row.eventType = "sms.send" →
          row.payload = .object stored →
          ∃ message, smsMessageFromOutboxEvent (templateWorker dateParses ctx) row queuedAt =
              .ok message ∧
            message.template = intent.template.text ∧ message.phoneE164 = intent.phoneE164 ∧
            renderSmsMessage dateParses message.receiptId message.template
              (normalizeJsonPayload message.payload) = .ok intent.text) ∧
      ∀ other : SmsIntent, other.WellFormed → other.words = intent.words →
        other.text = intent.text → other = intent := by
  obtain ⟨payload, hpayload⟩ := SmsIntent.payload_of_sendable hsend
  refine ⟨payload, hpayload, fun stored hs => ?_, fun other hother hwords htext => ?_⟩
  · have hchain := SmsIntent.chained hdates hi hsend hpayload hs
    refine ⟨hchain.valid, fun ctx row queuedAt htype hrow => ?_⟩
    obtain ⟨message, hmessage, hreceipt, hphone, htemplate, hstored⟩ :=
      hchain.accepted ctx queuedAt htype hrow
    refine ⟨message, hmessage, htemplate, hphone, ?_⟩
    rw [hreceipt, htemplate, hstored]
    exact hchain.rendered
  · exact (SmsIntent.eq_of_text hi hother hsend hwords.symm htext.symm).symm

namespace Shop

/-- `Date.parse` on the texts of `toISOString`. -/
def dateParses (s : String) : Bool := s.toList.getLast? = some 'Z'

lemma dateParses_toISOString (t : Int) : dateParses (Calendar.toISOString t) := by
  have hend : ∃ front, Calendar.toISOString t = front ++ "Z" := ⟨_, rfl⟩
  obtain ⟨front, hfront⟩ := hend
  rw [hfront]
  simp [dateParses]

def settledRedemption : RedemptionConfirmedInput where
  receiptId := "receipt-1"
  transactionId := "entry-1"
  redemptionId := "redemption-1"
  customerId := "customer"
  phoneE164 := "+2348000000000"
  redeemedKobo := 100000
  netPaidKobo := some 900005
  earnedKobo := some 18000
  earnTransactionId := some (some "entry-2")
  remainingBalanceKobo := 318000

def cardReplacement : CardReplacedInput where
  previousCardId := "card-1"
  replacementCardId := "card-2"
  customerId := "customer"
  phoneE164 := "+2348000000000"
  previousSerial := "CARD-1"
  replacementSerial := "CARD-2    "

/-- The message of a payload's refusal. -/
def refusal (dateParses : String → Bool) (intent : SmsIntent) : Option String :=
  intent.payload?.bind fun payload =>
    match validateSmsIntent dateParses intent.template.text payload with
    | .error e => some e.message
    | .ok () => none

end Shop

theorem sms_chain_shop :
    ∃ payload, (SmsIntent.redemptionConfirmed Shop.settledRedemption).payload? = some payload ∧
      validateSmsIntent Shop.dateParses "redemption-confirmed" payload = .ok () ∧
      (SmsIntent.redemptionConfirmed Shop.settledRedemption).text =
        "ShopCity: Receipt receipt-1 redeemed NGN 1000.00; paid NGN 9000.05 and earned NGN 180.00. "
          ++ "Available credit NGN 3180.00." := by
  have hi : (SmsIntent.redemptionConfirmed Shop.settledRedemption).WellFormed := by
    simp only [SmsIntent.WellFormed, Shop.settledRedemption, NotBlank]
    refine ⟨by decide +kernel, by decide +kernel, by decide +kernel, by decide +kernel,
      by decide +kernel, by decide, ?_, ?_, ?_, by decide⟩
    · simp
    · simp
    · intro id hid
      obtain rfl : "entry-2" = id := by simpa using hid
      decide +kernel
  obtain ⟨payload, hpayload, hchain, -⟩ :=
    sms_chain (fun t _ => Shop.dateParses_toISOString t) hi rfl
  exact ⟨payload, hpayload, (hchain payload fun _ => rfl).1, by decide +kernel⟩

/-- One settlement amount without the other is refused, and so is a serial number that ends in
four blanks. -/
theorem sms_chain_refused :
    let oneAmount :=
      SmsIntent.redemptionConfirmed { Shop.settledRedemption with earnedKobo := none }
    let blankSuffix := SmsIntent.cardReplaced Shop.cardReplacement
    oneAmount.WellFormed ∧ Shop.refusal Shop.dateParses oneAmount =
        some "redemption-confirmed settlement amounts must be supplied together" ∧
      blankSuffix.WellFormed ∧ Shop.refusal Shop.dateParses blankSuffix =
        some "SMS payload is missing replacementSerialSuffix" := by
  refine ⟨?_, by decide +kernel, ?_, by decide +kernel⟩
  · simp only [SmsIntent.WellFormed, Shop.settledRedemption, NotBlank]
    refine ⟨by decide +kernel, by decide +kernel, by decide +kernel, by decide +kernel,
      by decide +kernel, by decide, ?_, ?_, ?_, by decide⟩
    · simp
    · simp
    · intro id hid
      obtain rfl : "entry-2" = id := by simpa using hid
      decide +kernel
  · simp only [SmsIntent.WellFormed, Shop.cardReplacement, NotBlank]
    decide +kernel

end ShopcityLoyalty
