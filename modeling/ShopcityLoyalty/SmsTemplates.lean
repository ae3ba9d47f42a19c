import ShopcityLoyalty.OutboxWorker
import ShopcityLoyalty.Lib.Decimals

/-!
The SMS payloads: what the builders put into them, what `validateSmsIntent` asks of them, and the
texts rendered from them.

A field that a builder leaves out is absent from its list.
-/

namespace ShopcityLoyalty

inductive SmsTemplate
  | earnConfirmed | redemptionConfirmed | transactionReversed | balanceAdjusted | cardReplaced
  | creditExpiryReminder
  deriving DecidableEq

def SmsTemplate.text : SmsTemplate → String
  | earnConfirmed => "earn-confirmed"
  | redemptionConfirmed => "redemption-confirmed"
  | transactionReversed => "transaction-reversed"
  | balanceAdjusted => "balance-adjusted"
  | cardReplaced => "card-replaced"
  | creditExpiryReminder => "credit-expiry-reminder-v1"

/-- The template of a text, where it is one. -/
def SmsTemplate.ofText (s : String) : Option SmsTemplate :=
  [earnConfirmed, redemptionConfirmed, transactionReversed, balanceAdjusted, cardReplaced,
    creditExpiryReminder].find? fun template => template.text = s

abbrev SmsPayload := List (String × Json)

namespace SmsTemplates

open OutboxWorkerRuntime

/-! ### Builders -/

structure EarnConfirmedInput where
  receiptId : String
  transactionId : String
  customerId : String
  phoneE164 : String
  creditKobo : Int

def buildEarnConfirmedSmsPayload (input : EarnConfirmedInput) : SmsPayload :=
  [("version", .number 1), ("receiptId", .string input.receiptId),
    ("transactionId", .string input.transactionId), ("customerId", .string input.customerId),
    ("phoneE164", .string input.phoneE164), ("template", .string "earn-confirmed"),
    ("creditKobo", .string (toString input.creditKobo))]

/-- The payload that an approved earning writes without a builder. -/
def approvedEarnSmsPayload (receiptId ledgerEntryId customerId phoneE164 : String)
    (creditKobo : Int) : SmsPayload :=
  [("version", .number 1), ("receiptId", .string receiptId),
    ("transactionId", .string ledgerEntryId), ("customerId", .string customerId),
    ("phoneE164", .string phoneE164), ("template", .string "earn-confirmed"),
    ("creditKobo", .string (toString creditKobo))]

structure RedemptionConfirmedInput where
  receiptId : String
  transactionId : String
  redemptionId : String
  customerId : String
  phoneE164 : String
  redeemedKobo : Int
  netPaidKobo : Option Int
  earnedKobo : Option Int
  /-- `undefined`, `null` or an id. -/
  earnTransactionId : Option (Option String)
  remainingBalanceKobo : Int

/-- A text, or `null`. -/
def orNull (s : Option String) : Json := (s.map Json.string).getD .null

/-- A field with an amount, where there is one. -/
def amountField (key : String) (amount : Option Int) : SmsPayload :=
  (amount.map fun k => (key, Json.string (toString k))).toList

def buildRedemptionConfirmedSmsPayload (input : RedemptionConfirmedInput) : SmsPayload :=
  [("version", .number 1), ("receiptId", .string input.receiptId),
    ("transactionId", .string input.transactionId), ("redemptionId", .string input.redemptionId),
    ("customerId", .string input.customerId), ("phoneE164", .string input.phoneE164),
    ("template", .string "redemption-confirmed"),
    ("redeemedKobo", .string (toString input.redeemedKobo))] ++
  amountField "netPaidKobo" input.netPaidKobo ++
  amountField "earnedKobo" input.earnedKobo ++
  (input.earnTransactionId.map fun id => ("earnTransactionId", orNull id)).toList ++
  [("remainingBalanceKobo", .string (toString input.remainingBalanceKobo))]

structure TransactionReversedInput where
  transactionId : String
  phoneE164 : String
  receiptId : Option String

def buildTransactionReversedSmsPayload (input : TransactionReversedInput) : SmsPayload :=
  [("version", .number 1), ("receiptId", orNull input.receiptId),
    ("transactionId", .string input.transactionId), ("phoneE164", .string input.phoneE164),
    ("template", .string "transaction-reversed")]

structure BalanceAdjustedInput where
  transactionId : String
  adjustmentId : String
  kind : LedgerEntryDirection
  phoneE164 : String
  receiptId : Option String
  amountKobo : Int
  remainingBalanceKobo : Option Int

def adjustmentKind : LedgerEntryDirection → String
  | .CREDIT => "CREDIT"
  | .DEBIT => "DEBIT"

def buildBalanceAdjustedSmsPayload (input : BalanceAdjustedInput) : SmsPayload :=
  [("version", .number 1), ("receiptId", orNull input.receiptId),
    ("transactionId", .string input.transactionId), ("adjustmentId", .string input.adjustmentId),
    ("kind", .string (adjustmentKind input.kind)), ("phoneE164", .string input.phoneE164),
    ("template", .string "balance-adjusted"),
    ("amountKobo", .string (toString input.amountKobo))] ++
  amountField "remainingBalanceKobo" input.remainingBalanceKobo

/-- The last `n` UTF-16 code units of a reversed text; nothing where they begin within a
surrogate pair, so that they are no text. -/
def lastUnits : Nat → List Char → Option (List Char)
  | 0, _ => some []
  | _ + 1, [] => some []
  | 1, c :: _ => if 0x10000 ≤ c.toNat then none else some [c]
  | n + 2, c :: rest =>
      (lastUnits (if 0x10000 ≤ c.toNat then n else n + 1) rest).map (c :: ·)

/-- `slice(-4)`. -/
def serialSuffix (serial : String) : Option String :=
  (lastUnits 4 serial.toList.reverse).map fun cs => String.ofList cs.reverse

structure CardReplacedInput where
  previousCardId : String
  replacementCardId : String
  customerId : String
  phoneE164 : String
  previousSerial : String
  replacementSerial : String

def buildCardReplacedSmsPayload (input : CardReplacedInput) : Option SmsPayload := do
  let previousSerialSuffix ← serialSuffix input.previousSerial
  let replacementSerialSuffix ← serialSuffix input.replacementSerial
  pure [("version", .number 1), ("template", .string "card-replaced"),
    ("phoneE164", .string input.phoneE164), ("previousCardId", .string input.previousCardId),
    ("replacementCardId", .string input.replacementCardId),
    ("customerId", .string input.customerId),
    ("previousSerialSuffix", .string previousSerialSuffix),
    ("replacementSerialSuffix", .string replacementSerialSuffix)]

structure CreditExpiryReminderInput where
  customerId : String
  phoneE164 : String
  totalExpiringKobo : Int
  earliestExpiresAt : Int
  latestExpiresAt : Int

def buildCreditExpiryReminderSmsPayload (input : CreditExpiryReminderInput) : SmsPayload :=
  [("version", .number 1), ("customerId", .string input.customerId),
    ("phoneE164", .string input.phoneE164), ("template", .string "credit-expiry-reminder-v1"),
    ("totalExpiringKobo", .string (toString input.totalExpiringKobo)),
    ("earliestExpiresAt", .string (Calendar.toISOString input.earliestExpiresAt)),
    ("latestExpiresAt", .string (Calendar.toISOString input.latestExpiresAt))]

/-! ### Reading a payload -/

def readPayloadString (payload : SmsPayload) (key : String) : Option String :=
  match payload.lookup key with
  | some (.string value) => nonEmpty (trim value)
  | _ => none

def requirePayloadString (payload : SmsPayload) (key : String) : Except JobError String :=
  match readPayloadString payload key with
  | some value => .ok value
  | none => .error (.payload s!"SMS payload is missing {key}")

/-- `/^\d+$/`. -/
def isAmount (value : String) : Bool := value ≠ "" && value.toList.all Char.isDigit

def requirePayloadAmount (payload : SmsPayload) (key : String) : Except JobError String := do
  let value ← requirePayloadString payload key
  if isAmount value then pure value
  else throw (.payload s!"SMS payload has an invalid {key}")

/-- `/^\+[1-9]\d{7,14}$/`. -/
def isE164 (value : String) : Bool :=
  match value.toList with
  | '+' :: c :: rest =>
      '1' ≤ c && c ≤ '9' && 7 ≤ rest.length && rest.length ≤ 14 && rest.all Char.isDigit
  | _ => false

def requirePayloadPhone (payload : SmsPayload) : Except JobError Unit :=
  if (readPayloadString payload "phoneE164").any isE164 then pure ()
  else throw (.payload "SMS payload has an invalid phoneE164")

def requirePayloadTemplate (payload : SmsPayload) (expected : SmsTemplate) :
    Except JobError Unit := do
  match payload.lookup "version" with
  | some (.number 1) => pure ()
  | _ => throw (.payload "SMS payload version must be 1")
  if readPayloadString payload "template" = some expected.text then pure ()
  else throw (.payload s!"{expected.text} payload has an invalid or missing template")

/-- `dateParses` is whether `Date.parse` answers a number. -/
def requirePayloadDateString (dateParses : String → Bool) (payload : SmsPayload) (key : String) :
    Except JobError String := do
  let value ← requirePayloadString payload key
  if dateParses value then pure value
  else throw (.payload s!"SMS payload has an invalid {key}")

/-- A field that is not `undefined`. -/
def isDefined (payload : SmsPayload) (key : String) : Bool :=
  match payload.lookup key with
  | none | some .undefined => false
  | some _ => true

/-- A field that is neither `undefined` nor `null`. -/
def isGiven (payload : SmsPayload) (key : String) : Bool :=
  match payload.lookup key with
  | none | some .undefined | some .null => false
  | some _ => true

/-! ### Validation -/

def assertEarnConfirmedPayload (payload : SmsPayload) : Except JobError Unit := do
  requirePayloadTemplate payload .earnConfirmed
  let _ ← requirePayloadString payload "receiptId"
  let _ ← requirePayloadString payload "transactionId"
  let _ ← requirePayloadString payload "customerId"
  requirePayloadPhone payload
  let creditKobo ← requirePayloadAmount payload "creditKobo"
  if creditKobo = "" then throw (.payload "earn-confirmed payload is missing required fields")

def assertRedemptionConfirmedPayload (payload : SmsPayload) : Except JobError Unit := do
  requirePayloadTemplate payload .redemptionConfirmed
  let _ ← requirePayloadString payload "receiptId"
  let _ ← requirePayloadString payload "transactionId"
  let _ ← requirePayloadString payload "redemptionId"
  let _ ← requirePayloadString payload "customerId"
  requirePayloadPhone payload
  let redeemedKobo ← requirePayloadAmount payload "redeemedKobo"
  let remainingBalanceKobo ← requirePayloadAmount payload "remainingBalanceKobo"
  if redeemedKobo = "" ∨ remainingBalanceKobo = "" then
    throw (.payload "redemption-confirmed payload is missing required fields")
  let hasNetPaid := isDefined payload "netPaidKobo"
  let hasEarned := isDefined payload "earnedKobo"
  if hasNetPaid ≠ hasEarned then
    throw (.payload "redemption-confirmed settlement amounts must be supplied together")
  if hasNetPaid then
    let _ ← requirePayloadAmount payload "netPaidKobo"
    let _ ← requirePayloadAmount payload "earnedKobo"
    if isGiven payload "earnTransactionId" then
      let _ ← requirePayloadString payload "earnTransactionId"

def assertTransactionReversedPayload (payload : SmsPayload) : Except JobError Unit := do
  requirePayloadTemplate payload .transactionReversed
  let _ ← requirePayloadString payload "transactionId"
  requirePayloadPhone payload
  if isGiven payload "receiptId" then
    let _ ← requirePayloadString payload "receiptId"

def assertBalanceAdjustedPayload (payload : SmsPayload) : Except JobError Unit := do
  requirePayloadTemplate payload .balanceAdjusted
  let _ ← requirePayloadString payload "transactionId"
  let _ ← requirePayloadString payload "adjustmentId"
  let kind ← requirePayloadString payload "kind"
  if kind ≠ "CREDIT" ∧ kind ≠ "DEBIT" then
    throw (.payload "balance-adjusted payload has an invalid kind")
  requirePayloadPhone payload
  let _ ← requirePayloadAmount payload "amountKobo"
  if isGiven payload "remainingBalanceKobo" then
    let _ ← requirePayloadAmount payload "remainingBalanceKobo"

def assertCardReplacedPayload (payload : SmsPayload) : Except JobError Unit := do
  requirePayloadTemplate payload .cardReplaced
  requirePayloadPhone payload
  let _ ← requirePayloadString payload "previousCardId"
  let _ ← requirePayloadString payload "replacementCardId"
  let _ ← requirePayloadString payload "customerId"
  let _ ← requirePayloadString payload "previousSerialSuffix"
  let _ ← requirePayloadString payload "replacementSerialSuffix"

def assertCreditExpiryReminderPayload (dateParses : String → Bool) (payload : SmsPayload) :
    Except JobError Unit := do
  requirePayloadTemplate payload .creditExpiryReminder
  let _ ← requirePayloadString payload "customerId"
  requirePayloadPhone payload
  let _ ← requirePayloadAmount payload "totalExpiringKobo"
  let _ ← requirePayloadDateString dateParses payload "earliestExpiresAt"
  let _ ← requirePayloadDateString dateParses payload "latestExpiresAt"

/-- A text that is no template is let through. -/
def validateSmsIntent (dateParses : String → Bool) (template : String) (payload : SmsPayload) :
    Except JobError Unit :=
  match SmsTemplate.ofText template with
  | some .earnConfirmed => assertEarnConfirmedPayload payload
  | some .redemptionConfirmed => assertRedemptionConfirmedPayload payload
  | some .transactionReversed => assertTransactionReversedPayload payload
  | some .balanceAdjusted => assertBalanceAdjustedPayload payload
  | some .cardReplaced => assertCardReplacedPayload payload
  | some .creditExpiryReminder => assertCreditExpiryReminderPayload dateParses payload
  | none => .ok ()

/-! ### Rendering -/

/-- `BigInt` of a text of digits; no other text is rendered. -/
def bigInt (digits : String) : Int := Nat.ofDigitChars 10 digits.toList 0

/-- `padStart(2, '0')`. -/
def padStart2 (s : String) : String :=
  String.ofList (List.replicate (2 - s.length) '0') ++ s

def formatKoboAsNaira (kobo : Int) : String :=
  let naira := kobo.tdiv 100
  let remainder := kobo.tmod 100
  "NGN " ++ toString naira ++ "." ++ padStart2 (toString remainder)

def renderEarnConfirmed (receiptId : Option String) (payload : SmsPayload) :
    Except JobError String := do
  let creditKobo ← requirePayloadAmount payload "creditKobo"
  let creditNaira := formatKoboAsNaira (bigInt creditKobo)
  pure ("ShopCity: Your receipt " ++ receiptId.getD "unknown" ++ " earned " ++ creditNaira ++ ".")

def renderRedemptionConfirmed (receiptId : Option String) (payload : SmsPayload) :
    Except JobError String := do
  let redeemedKobo ← requirePayloadAmount payload "redeemedKobo"
  let remainingBalanceKobo ← requirePayloadAmount payload "remainingBalanceKobo"
  match readPayloadString payload "netPaidKobo", readPayloadString payload "earnedKobo" with
  | some netPaidKobo, some earnedKobo =>
      pure ("ShopCity: Receipt " ++ receiptId.getD "unknown" ++ " redeemed " ++
        formatKoboAsNaira (bigInt redeemedKobo) ++ "; paid " ++
        formatKoboAsNaira (bigInt netPaidKobo) ++ " and earned " ++
        formatKoboAsNaira (bigInt earnedKobo) ++ ". Available credit " ++
        formatKoboAsNaira (bigInt remainingBalanceKobo) ++ ".")
  | _, _ =>
      pure ("ShopCity: Redeemed " ++ formatKoboAsNaira (bigInt redeemedKobo) ++ " from receipt " ++
        receiptId.getD "unknown" ++ ". Remaining balance " ++
        formatKoboAsNaira (bigInt remainingBalanceKobo) ++ ".")

def renderTransactionReversed (receiptId : Option String) (payload : SmsPayload) : String :=
  let transactionId := readPayloadString payload "transactionId"
  "ShopCity: Your transaction " ++ (transactionId.orElse fun _ => receiptId).getD "unknown" ++
    " was reversed."

def renderBalanceAdjusted (receiptId : Option String) (payload : SmsPayload) :
    Except JobError String := do
  let transactionId := readPayloadString payload "transactionId"
  let amountKobo ← requirePayloadAmount payload "amountKobo"
  let amount := formatKoboAsNaira (bigInt amountKobo)
  let remainingBalance :=
    match readPayloadString payload "remainingBalanceKobo" with
    | some remainingBalanceKobo =>
        " Remaining balance " ++ formatKoboAsNaira (bigInt remainingBalanceKobo) ++ "."
    | none => ""
  let verb := if readPayloadString payload "kind" = some "CREDIT" then "increased" else "reduced"
  pure ("ShopCity: Your balance was " ++ verb ++ " by " ++ amount ++ " for transaction " ++
    (transactionId.orElse fun _ => receiptId).getD "unknown" ++ "." ++ remainingBalance)

def renderCardReplaced (payload : SmsPayload) : Except JobError String := do
  let replacementSuffix ← requirePayloadString payload "replacementSerialSuffix"
  pure ("ShopCity: Your loyalty card ending " ++ replacementSuffix ++
    " was replaced. If you did not request this, contact ShopCity.")

def renderCreditExpiryReminder (payload : SmsPayload) : Except JobError String := do
  let totalExpiringKobo ← requirePayloadAmount payload "totalExpiringKobo"
  let earliestExpiresAt ← requirePayloadString payload "earliestExpiresAt"
  let latestExpiresAt ← requirePayloadString payload "latestExpiresAt"
  pure ("ShopCity: " ++ formatKoboAsNaira (bigInt totalExpiringKobo) ++
    " expires soon. Expiry window " ++ earliestExpiresAt ++ " to " ++ latestExpiresAt ++ ".")

def renderSmsMessage (dateParses : String → Bool) (receiptId : Option String) (template : String)
    (payload : SmsPayload) : Except JobError String := do
  validateSmsIntent dateParses template payload
  match SmsTemplate.ofText template with
  | some .earnConfirmed => renderEarnConfirmed receiptId payload
  | some .redemptionConfirmed => renderRedemptionConfirmed receiptId payload
  | some .transactionReversed => pure (renderTransactionReversed receiptId payload)
  | some .balanceAdjusted => renderBalanceAdjusted receiptId payload
  | some .cardReplaced => renderCardReplaced payload
  | some .creditExpiryReminder => renderCreditExpiryReminder payload
  | none => throw (.other s!"Unsupported SMS template {template}")

end SmsTemplates

end ShopcityLoyalty
