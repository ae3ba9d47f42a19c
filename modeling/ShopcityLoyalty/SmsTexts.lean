import ShopcityLoyalty.Settlement
import ShopcityLoyalty.SmsTemplates

/-!
What an SMS is built from, and the text of its message.

The naira end at a point that two digits follow, so that an amount is read back from a text that
begins with it; and the text of a message determines its amounts.
-/

namespace ShopcityLoyalty

open OutboxWorkerRuntime SmsTemplates

/-- What a payload is built from; an approved earning writes its payload without a builder. -/
inductive SmsIntent
  | earnConfirmed (input : EarnConfirmedInput)
  | earnApproved (input : EarnConfirmedInput)
  | redemptionConfirmed (input : RedemptionConfirmedInput)
  | transactionReversed (input : TransactionReversedInput)
  | balanceAdjusted (input : BalanceAdjustedInput)
  | cardReplaced (input : CardReplacedInput)
  | creditExpiryReminder (input : CreditExpiryReminderInput)

def NotBlank (s : String) : Prop := trim s ≠ ""

/-- The instants that a `Date` can be. -/
def IsDate (instant : Int) : Prop := -8640000000000000 ≤ instant ∧ instant ≤ 8640000000000000

/-- Objects with the same value under each key, as the stored payload and the one that was built. -/
def SameFields (stored payload : SmsPayload) : Prop :=
  ∀ key, stored.lookup key = payload.lookup key

namespace SmsIntent

def template : SmsIntent → SmsTemplate
  | earnConfirmed _ | earnApproved _ => .earnConfirmed
  | redemptionConfirmed _ => .redemptionConfirmed
  | transactionReversed _ => .transactionReversed
  | balanceAdjusted _ => .balanceAdjusted
  | cardReplaced _ => .cardReplaced
  | creditExpiryReminder _ => .creditExpiryReminder

def phoneE164 : SmsIntent → String
  | earnConfirmed i | earnApproved i => i.phoneE164
  | redemptionConfirmed i => i.phoneE164
  | transactionReversed i => i.phoneE164
  | balanceAdjusted i => i.phoneE164
  | cardReplaced i => i.phoneE164
  | creditExpiryReminder i => i.phoneE164

/-- Its payload, where that is text. -/
def payload? : SmsIntent → Option SmsPayload
  | earnConfirmed input => some (buildEarnConfirmedSmsPayload input)
  | earnApproved input => some (approvedEarnSmsPayload input.receiptId input.transactionId
      input.customerId input.phoneE164 input.creditKobo)
  | redemptionConfirmed input => some (SmsTemplates.buildRedemptionConfirmedSmsPayload input)
  | transactionReversed input => some (buildTransactionReversedSmsPayload input)
  | balanceAdjusted input => some (buildBalanceAdjustedSmsPayload input)
  | cardReplaced input => buildCardReplacedSmsPayload input
  | creditExpiryReminder input => some (buildCreditExpiryReminderSmsPayload input)

/-- Ids that are not blank, a phone number in E.164 and amounts that are not negative. -/
def WellFormed : SmsIntent → Prop
  | earnConfirmed i | earnApproved i =>
      NotBlank i.receiptId ∧ NotBlank i.transactionId ∧ NotBlank i.customerId ∧
        isE164 i.phoneE164 ∧ 0 ≤ i.creditKobo
  | redemptionConfirmed i =>
      NotBlank i.receiptId ∧ NotBlank i.transactionId ∧ NotBlank i.redemptionId ∧
        NotBlank i.customerId ∧ isE164 i.phoneE164 ∧ 0 ≤ i.redeemedKobo ∧
        (∀ k ∈ i.netPaidKobo, 0 ≤ k) ∧ (∀ k ∈ i.earnedKobo, 0 ≤ k) ∧
        (∀ id, i.earnTransactionId = some (some id) → NotBlank id) ∧ 0 ≤ i.remainingBalanceKobo
  | transactionReversed i =>
      NotBlank i.transactionId ∧ isE164 i.phoneE164 ∧ ∀ id ∈ i.receiptId, NotBlank id
  | balanceAdjusted i =>
      NotBlank i.transactionId ∧ NotBlank i.adjustmentId ∧ isE164 i.phoneE164 ∧
        (∀ id ∈ i.receiptId, NotBlank id) ∧ 0 ≤ i.amountKobo ∧
        ∀ k ∈ i.remainingBalanceKobo, 0 ≤ k
  | cardReplaced i =>
      NotBlank i.previousCardId ∧ NotBlank i.replacementCardId ∧ NotBlank i.customerId ∧
        NotBlank i.previousSerial ∧ NotBlank i.replacementSerial ∧ isE164 i.phoneE164
  | creditExpiryReminder i =>
      NotBlank i.customerId ∧ isE164 i.phoneE164 ∧ 0 ≤ i.totalExpiringKobo ∧
        IsDate i.earliestExpiresAt ∧ IsDate i.latestExpiresAt

/-- The settlement amounts come together, and the serial numbers do not end in blanks. -/
def Sendable : SmsIntent → Prop
  | redemptionConfirmed i => i.netPaidKobo.isSome = i.earnedKobo.isSome
  | cardReplaced i =>
      (∃ s ∈ serialSuffix i.previousSerial, NotBlank s) ∧
        ∃ s ∈ serialSuffix i.replacementSerial, NotBlank s
  | _ => True

def earnConfirmedText (i : EarnConfirmedInput) : String :=
  "ShopCity: Your receipt " ++ trim i.receiptId ++ " earned " ++
    formatKoboAsNaira i.creditKobo ++ "."

def settlementText (i : RedemptionConfirmedInput) (netPaidKobo earnedKobo : Int) : String :=
  "ShopCity: Receipt " ++ trim i.receiptId ++ " redeemed " ++ formatKoboAsNaira i.redeemedKobo ++
    "; paid " ++ formatKoboAsNaira netPaidKobo ++ " and earned " ++ formatKoboAsNaira earnedKobo ++
    ". Available credit " ++ formatKoboAsNaira i.remainingBalanceKobo ++ "."

def redemptionText (i : RedemptionConfirmedInput) : String :=
  "ShopCity: Redeemed " ++ formatKoboAsNaira i.redeemedKobo ++ " from receipt " ++
    trim i.receiptId ++ ". Remaining balance " ++ formatKoboAsNaira i.remainingBalanceKobo ++ "."

def redemptionConfirmedText (i : RedemptionConfirmedInput) : String :=
  match i.netPaidKobo, i.earnedKobo with
  | some netPaidKobo, some earnedKobo => settlementText i netPaidKobo earnedKobo
  | _, _ => redemptionText i

def transactionReversedText (i : TransactionReversedInput) : String :=
  "ShopCity: Your transaction " ++ trim i.transactionId ++ " was reversed."

def adjustmentVerb : LedgerEntryDirection → String
  | .CREDIT => "increased"
  | .DEBIT => "reduced"

def remainingBalanceText : Option Int → String
  | some k => " Remaining balance " ++ formatKoboAsNaira k ++ "."
  | none => ""

def balanceAdjustedText (i : BalanceAdjustedInput) : String :=
  "ShopCity: Your balance was " ++ adjustmentVerb i.kind ++ " by " ++
    formatKoboAsNaira i.amountKobo ++ " for transaction " ++ trim i.transactionId ++ "." ++
    remainingBalanceText i.remainingBalanceKobo

def cardReplacedText (i : CardReplacedInput) : String :=
  "ShopCity: Your loyalty card ending " ++ trim ((serialSuffix i.replacementSerial).getD "") ++
    " was replaced. If you did not request this, contact ShopCity."

def creditExpiryReminderText (i : CreditExpiryReminderInput) : String :=
  "ShopCity: " ++ formatKoboAsNaira i.totalExpiringKobo ++ " expires soon. Expiry window " ++
    Calendar.toISOString i.earliestExpiresAt ++ " to " ++
    Calendar.toISOString i.latestExpiresAt ++ "."

/-- The text of the message. -/
def text : SmsIntent → String
  | earnConfirmed i | earnApproved i => earnConfirmedText i
  | redemptionConfirmed i => redemptionConfirmedText i
  | transactionReversed i => transactionReversedText i
  | balanceAdjusted i => balanceAdjustedText i
  | cardReplaced i => cardReplacedText i
  | creditExpiryReminder i => creditExpiryReminderText i

/-- All but the amounts. -/
def words : SmsIntent → SmsIntent
  | earnConfirmed i => earnConfirmed { i with creditKobo := 0 }
  | earnApproved i => earnApproved { i with creditKobo := 0 }
  | redemptionConfirmed i =>
      redemptionConfirmed { i with
        redeemedKobo := 0, netPaidKobo := i.netPaidKobo.map fun _ => 0
        earnedKobo := i.earnedKobo.map fun _ => 0, remainingBalanceKobo := 0 }
  | transactionReversed i => transactionReversed i
  | balanceAdjusted i =>
      balanceAdjusted { i with
        amountKobo := 0, remainingBalanceKobo := i.remainingBalanceKobo.map fun _ => 0 }
  | cardReplaced i => cardReplaced i
  | creditExpiryReminder i => creditExpiryReminder { i with totalExpiringKobo := 0 }

end SmsIntent

/-- What a settlement tells the customer. -/
def RedemptionSettlementInput.confirmedSms (input : RedemptionSettlementInput) (rt : Runtime)
    (transactionId : Nat) (netPaidKobo earnedKobo : Int) (earnTransactionId : Option Nat)
    (remainingBalanceKobo : Int) : RedemptionConfirmedInput where
  receiptId := rt.uuid .receipts input.receiptId
  transactionId := rt.uuid .ledger transactionId
  redemptionId := rt.uuid .redemptions input.redemptionId
  customerId := input.customerId
  phoneE164 := input.phoneE164
  redeemedKobo := input.redeemedAmountKobo
  netPaidKobo := some netPaidKobo
  earnedKobo := some earnedKobo
  earnTransactionId := some (earnTransactionId.map (rt.uuid .ledger))
  remainingBalanceKobo := remainingBalanceKobo

lemma settlementPayload_eq (rt : Runtime) (input : RedemptionSettlementInput)
    (transactionId : Nat) (netPaidKobo earnedKobo : Int) (earnTransactionId : Option Nat)
    (remainingBalanceKobo : Int) :
    ShopcityLoyalty.buildRedemptionConfirmedSmsPayload rt input transactionId netPaidKobo earnedKobo
        earnTransactionId remainingBalanceKobo =
      .object (SmsTemplates.buildRedemptionConfirmedSmsPayload (input.confirmedSms rt
        transactionId netPaidKobo earnedKobo earnTransactionId remainingBalanceKobo)) := by
  cases earnTransactionId <;> rfl

/-! ### Amounts in naira -/

lemma bigInt_toString (n : Nat) : bigInt (toString n) = n := by
  unfold bigInt
  rw [Nat.toString_eq_repr, Nat.toList_repr, Nat.ofDigitChars_toDigits (by decide) (by decide)]

lemma padStart2_toList (n : Nat) : (padStart2 (toString n)).toList =
    List.replicate (2 - (toString n).length) '0' ++ (toString n).toList := by
  simp [padStart2]

lemma ofDigitChars_padStart2 (n : Nat) :
    Nat.ofDigitChars 10 (padStart2 (toString n)).toList 0 = n := by
  have hzeros : ∀ m (l : List Char),
      Nat.ofDigitChars 10 (List.replicate m '0' ++ l) 0 = Nat.ofDigitChars 10 l 0 := by
    intro m l
    induction m with
    | zero => rfl
    | succ m ih =>
        rw [List.replicate_succ, List.cons_append, Nat.ofDigitChars_cons]
        exact ih
  rw [padStart2_toList, hzeros, Nat.toString_eq_repr, Nat.toList_repr,
    Nat.ofDigitChars_toDigits (by decide) (by decide)]

lemma padStart2_length {n : Nat} (h : n < 100) : (padStart2 (toString n)).toList.length = 2 := by
  have hlen : (toString n).length ≤ 2 := (Nat.length_repr_le_iff (by decide)).2 h
  rw [padStart2_toList, List.length_append, List.length_replicate, String.length_toList]
  omega

lemma formatKoboAsNaira_toList (n : Nat) : (formatKoboAsNaira n).toList =
    "NGN ".toList ++ (toString (n / 100)).toList ++ '.' ::
      (padStart2 (toString (n % 100))).toList := by
  have hdiv : (n : Int).tdiv 100 = ((n / 100 : Nat) : Int) := (Int.ofNat_tdiv n 100).symm
  have hmod : (n : Int).tmod 100 = ((n % 100 : Nat) : Int) := (Int.ofNat_tmod n 100).symm
  have htext (m : Nat) : toString (m : Int) = toString m := rfl
  simp only [formatKoboAsNaira, hdiv, hmod, htext, String.toList_append,
    List.append_assoc]
  rfl

lemma append_separator_inj {α : Type} {x : α} {l l' m m' : List α} (hl : x ∉ l) (hl' : x ∉ l')
    (h : l ++ x :: m = l' ++ x :: m') : l = l' ∧ m = m' := by
  induction l generalizing l' with
  | nil =>
      cases l' with
      | nil => exact ⟨rfl, (List.cons.inj h).2⟩
      | cons a l' => exact absurd (List.cons.inj h).1 (List.ne_of_not_mem_cons hl')
  | cons a l ih =>
      cases l' with
      | nil => exact absurd (List.cons.inj h).1.symm (List.ne_of_not_mem_cons hl)
      | cons b l' =>
          obtain ⟨rfl, htail⟩ := List.cons.inj h
          obtain ⟨rfl, rfl⟩ :=
            ih (List.not_mem_of_not_mem_cons hl) (List.not_mem_of_not_mem_cons hl') htail
          exact ⟨rfl, rfl⟩

/-- **An amount is read back** from a text that begins with it. -/
theorem formatKoboAsNaira_append_inj {k k' : Int} {s s' : String} (hk : 0 ≤ k) (hk' : 0 ≤ k')
    (h : formatKoboAsNaira k ++ s = formatKoboAsNaira k' ++ s') : k = k' ∧ s = s' := by
  obtain ⟨m, rfl⟩ := Int.eq_ofNat_of_zero_le hk
  obtain ⟨n, rfl⟩ := Int.eq_ofNat_of_zero_le hk'
  have hlist := congrArg String.toList h
  simp only [String.toList_append, formatKoboAsNaira_toList, List.append_assoc,
    List.append_cancel_left_eq, List.cons_append] at hlist
  have hpoint : ∀ q : Nat, '.' ∉ (toString q).toList := by
    intro q hq
    exact absurd (isDigit_of_mem_toString hq) (by decide)
  -- the point ends the naira, and two digits follow it
  obtain ⟨hnaira, hrest⟩ := append_separator_inj (hpoint _) (hpoint _) hlist
  have hlen : (padStart2 (toString (m % 100))).toList.length =
      (padStart2 (toString (n % 100))).toList.length := by
    rw [padStart2_length (Nat.mod_lt _ (by decide)), padStart2_length (Nat.mod_lt _ (by decide))]
  obtain ⟨hkobo, hs⟩ := List.append_inj hrest hlen
  have hdiv : m / 100 = n / 100 := toString_nat_inj.1 (String.toList_inj.1 hnaira)
  have hmod : m % 100 = n % 100 := by
    rw [← ofDigitChars_padStart2 (m % 100), hkobo, ofDigitChars_padStart2]
  refine ⟨?_, String.toList_inj.1 hs⟩
  omega

/-! ### The text determines the amounts -/

lemma earnConfirmedText_inj {i j : EarnConfirmedInput} (hi : 0 ≤ i.creditKobo)
    (hj : 0 ≤ j.creditKobo) (hwords : { i with creditKobo := 0 } = { j with creditKobo := 0 })
    (htext : SmsIntent.earnConfirmedText i = SmsIntent.earnConfirmedText j) : i = j := by
  obtain ⟨receiptId, transactionId, customerId, phoneE164, k⟩ := i
  obtain ⟨_, _, _, _, k'⟩ := j
  simp only [EarnConfirmedInput.mk.injEq] at hwords
  obtain ⟨rfl, rfl, rfl, rfl, -⟩ := hwords
  unfold SmsIntent.earnConfirmedText at htext
  simp only [String.append_assoc, String.append_right_inj] at htext
  obtain ⟨rfl, -⟩ := formatKoboAsNaira_append_inj hi hj htext
  rfl

lemma settlementText_inj {i j : RedemptionConfirmedInput} {n e n' e' : Int}
    (hreceipt : i.receiptId = j.receiptId) (hi : 0 ≤ i.redeemedKobo ∧ 0 ≤ n ∧ 0 ≤ e ∧
      0 ≤ i.remainingBalanceKobo) (hj : 0 ≤ j.redeemedKobo ∧ 0 ≤ n' ∧ 0 ≤ e' ∧
      0 ≤ j.remainingBalanceKobo)
    (htext : SmsIntent.settlementText i n e = SmsIntent.settlementText j n' e') :
    i.redeemedKobo = j.redeemedKobo ∧ n = n' ∧ e = e' ∧
      i.remainingBalanceKobo = j.remainingBalanceKobo := by
  unfold SmsIntent.settlementText at htext
  simp only [hreceipt, String.append_assoc, String.append_right_inj] at htext
  obtain ⟨hredeemed, htext⟩ := formatKoboAsNaira_append_inj hi.1 hj.1 htext
  rw [String.append_right_inj] at htext
  obtain ⟨hpaid, htext⟩ := formatKoboAsNaira_append_inj hi.2.1 hj.2.1 htext
  rw [String.append_right_inj] at htext
  obtain ⟨hearned, htext⟩ := formatKoboAsNaira_append_inj hi.2.2.1 hj.2.2.1 htext
  rw [String.append_right_inj] at htext
  obtain ⟨hremaining, -⟩ := formatKoboAsNaira_append_inj hi.2.2.2 hj.2.2.2 htext
  exact ⟨hredeemed, hpaid, hearned, hremaining⟩

lemma redemptionText_inj {i j : RedemptionConfirmedInput} (hreceipt : i.receiptId = j.receiptId)
    (hi : 0 ≤ i.redeemedKobo ∧ 0 ≤ i.remainingBalanceKobo)
    (hj : 0 ≤ j.redeemedKobo ∧ 0 ≤ j.remainingBalanceKobo)
    (htext : SmsIntent.redemptionText i = SmsIntent.redemptionText j) :
    i.redeemedKobo = j.redeemedKobo ∧ i.remainingBalanceKobo = j.remainingBalanceKobo := by
  unfold SmsIntent.redemptionText at htext
  simp only [hreceipt, String.append_assoc, String.append_right_inj] at htext
  obtain ⟨hredeemed, htext⟩ := formatKoboAsNaira_append_inj hi.1 hj.1 htext
  simp only [String.append_right_inj] at htext
  obtain ⟨hremaining, -⟩ := formatKoboAsNaira_append_inj hi.2 hj.2 htext
  exact ⟨hredeemed, hremaining⟩

lemma redemptionConfirmedText_inj {i j : RedemptionConfirmedInput}
    (hi : (SmsIntent.redemptionConfirmed i).WellFormed)
    (hj : (SmsIntent.redemptionConfirmed j).WellFormed)
    (hsend : (SmsIntent.redemptionConfirmed i).Sendable)
    (hwords : (SmsIntent.redemptionConfirmed i).words = (SmsIntent.redemptionConfirmed j).words)
    (htext : SmsIntent.redemptionConfirmedText i = SmsIntent.redemptionConfirmedText j) :
    i = j := by
  obtain ⟨receiptId, transactionId, redemptionId, customerId, phoneE164, k, n, e, earned, m⟩ := i
  obtain ⟨_, _, _, _, _, k', n', e', _, m'⟩ := j
  simp only [SmsIntent.words, SmsIntent.redemptionConfirmed.injEq,
    RedemptionConfirmedInput.mk.injEq] at hwords
  obtain ⟨rfl, rfl, rfl, rfl, rfl, -, hn, he, rfl, -⟩ := hwords
  obtain ⟨-, -, -, -, -, hk, hn0, he0, -, hm⟩ := hi
  obtain ⟨-, -, -, -, -, hk', hn0', he0', -, hm'⟩ := hj
  unfold SmsIntent.redemptionConfirmedText at htext
  cases n with
  | none =>
      obtain rfl : n' = none := by simpa [eq_comm] using hn
      have hnone : (none : Option Int).isSome = e.isSome := hsend
      obtain rfl : e = none := by simpa using hnone
      obtain rfl : e' = none := by simpa [eq_comm] using he
      obtain ⟨rfl, rfl⟩ : k = k' ∧ m = m' :=
        redemptionText_inj (by rfl) ⟨hk, hm⟩ ⟨hk', hm'⟩ htext
      rfl
  | some n =>
      obtain ⟨n', rfl⟩ : ∃ x, n' = some x := by cases n' <;> simp at hn ⊢
      have hsome : (some n).isSome = e.isSome := hsend
      obtain ⟨e, rfl⟩ : ∃ x, e = some x := Option.isSome_iff_exists.1 hsome.symm
      obtain ⟨e', rfl⟩ : ∃ x, e' = some x := by cases e' <;> simp at he ⊢
      obtain ⟨rfl, rfl, rfl, rfl⟩ : k = k' ∧ n = n' ∧ e = e' ∧ m = m' :=
        settlementText_inj (by rfl) ⟨hk, hn0 n rfl, he0 e rfl, hm⟩
          ⟨hk', hn0' n' rfl, he0' e' rfl, hm'⟩ htext
      rfl

lemma balanceAdjustedText_inj {i j : BalanceAdjustedInput}
    (hi : (SmsIntent.balanceAdjusted i).WellFormed)
    (hj : (SmsIntent.balanceAdjusted j).WellFormed)
    (hwords : (SmsIntent.balanceAdjusted i).words = (SmsIntent.balanceAdjusted j).words)
    (htext : SmsIntent.balanceAdjustedText i = SmsIntent.balanceAdjustedText j) : i = j := by
  obtain ⟨transactionId, adjustmentId, kind, phoneE164, receiptId, k, m⟩ := i
  obtain ⟨_, _, _, _, _, k', m'⟩ := j
  simp only [SmsIntent.words, SmsIntent.balanceAdjusted.injEq,
    BalanceAdjustedInput.mk.injEq] at hwords
  obtain ⟨rfl, rfl, rfl, rfl, rfl, -, hm⟩ := hwords
  obtain ⟨-, -, -, -, hk, hm0⟩ := hi
  obtain ⟨-, -, -, -, hk', hm0'⟩ := hj
  unfold SmsIntent.balanceAdjustedText at htext
  simp only [String.append_assoc, String.append_right_inj] at htext
  obtain ⟨rfl, htext⟩ := formatKoboAsNaira_append_inj hk hk' htext
  simp only [String.append_right_inj] at htext
  cases m with
  | none =>
      obtain rfl : m' = none := by simpa [eq_comm] using hm
      rfl
  | some m =>
      obtain ⟨m', rfl⟩ : ∃ x, m' = some x := by cases m' <;> simp at hm ⊢
      unfold SmsIntent.remainingBalanceText at htext
      simp only [String.append_assoc, String.append_right_inj] at htext
      obtain ⟨rfl, -⟩ := formatKoboAsNaira_append_inj (hm0 m rfl) (hm0' m' rfl) htext
      rfl

lemma creditExpiryReminderText_inj {i j : CreditExpiryReminderInput}
    (hi : 0 ≤ i.totalExpiringKobo) (hj : 0 ≤ j.totalExpiringKobo)
    (hwords : { i with totalExpiringKobo := 0 } = { j with totalExpiringKobo := 0 })
    (htext : SmsIntent.creditExpiryReminderText i = SmsIntent.creditExpiryReminderText j) :
    i = j := by
  obtain ⟨customerId, phoneE164, k, earliestExpiresAt, latestExpiresAt⟩ := i
  obtain ⟨_, _, k', _, _⟩ := j
  simp only [CreditExpiryReminderInput.mk.injEq] at hwords
  obtain ⟨rfl, rfl, -, rfl, rfl⟩ := hwords
  unfold SmsIntent.creditExpiryReminderText at htext
  simp only [String.append_assoc, String.append_right_inj] at htext
  obtain ⟨rfl, -⟩ := formatKoboAsNaira_append_inj hi hj htext
  rfl

/-- **The text of a message determines its amounts.** -/
theorem SmsIntent.eq_of_text {a b : SmsIntent} (ha : a.WellFormed) (hb : b.WellFormed)
    (hsend : a.Sendable) (hwords : a.words = b.words) (htext : a.text = b.text) : a = b := by
  cases a <;> cases b <;> try (simp [words] at hwords; done)
  case earnConfirmed.earnConfirmed i j =>
    obtain rfl := earnConfirmedText_inj ha.2.2.2.2 hb.2.2.2.2 (earnConfirmed.inj hwords) htext
    rfl
  case earnApproved.earnApproved i j =>
    obtain rfl := earnConfirmedText_inj ha.2.2.2.2 hb.2.2.2.2 (earnApproved.inj hwords) htext
    rfl
  case redemptionConfirmed.redemptionConfirmed i j =>
    obtain rfl := redemptionConfirmedText_inj ha hb hsend hwords htext
    rfl
  case transactionReversed.transactionReversed i j => exact hwords
  case balanceAdjusted.balanceAdjusted i j =>
    obtain rfl := balanceAdjustedText_inj ha hb hwords htext
    rfl
  case cardReplaced.cardReplaced i j => exact hwords
  case creditExpiryReminder.creditExpiryReminder i j =>
    obtain rfl :=
      creditExpiryReminderText_inj ha.2.2.1 hb.2.2.1 (creditExpiryReminder.inj hwords) htext
    rfl

end ShopcityLoyalty
