import ShopcityLoyalty.OutboxWorker
import ShopcityLoyalty.Lib.Decimals

/-!
How the answer of Africa's Talking to a message is interpreted: the recipient's report is looked
up in the body, and its status code decides.

A status code is read from a number. The pattern for texts was meant for three digits, and matches
a backslash and three letters.
-/

namespace ShopcityLoyalty

/-- A parsed body. Numbers are rational. -/
inductive ResponseJson
  | null
  | bool (b : Bool)
  | number (q : Rat)
  | string (s : String)
  | array (elements : List ResponseJson)
  | object (fields : List (String × ResponseJson))

namespace ResponseJson

/-- `value[key]`; of the values that are no objects none has these keys. -/
def property (value : ResponseJson) (key : String) : Option ResponseJson :=
  match value with
  | object fields => fields.lookup key
  | _ => none

def isObject : ResponseJson → Bool
  | object _ => true
  | _ => false

end ResponseJson

/-- An answer of the provider: its HTTP status, and its body where that is JSON. -/
structure ProviderResponse where
  status : Nat
  body : Option ResponseJson

namespace AfricaTalkingSmsProvider

open ResponseJson

/-! ### Reading a body -/

def readResponseArray (value : Option ResponseJson) (key : String) : List ResponseJson :=
  match value.bind (·.property key) with
  | some (.array elements) => elements
  | _ => []

def readResponseObject (value : Option ResponseJson) (key : String) : Option ResponseJson :=
  (value.bind (·.property key)).filter isObject

def readResponseString (value : Option ResponseJson) (key : String) : Option String :=
  match value.bind (·.property key) with
  | some (.string s) => if trim s = "" then none else some (trim s)
  | _ => none

/-- What `readResponseNumber` returns: an integer, or no number. -/
inductive StatusCode
  | integer (n : Int)
  | NaN
  deriving DecidableEq

/-- `/^\\d{3}$/`. -/
def statusPattern (s : String) : Bool := s.toList = ['\\', 'd', 'd', 'd']

def readResponseNumber (value : Option ResponseJson) (key : String) : Option StatusCode :=
  match value.bind (·.property key) with
  | some (.number q) => if q.isInt then some (.integer q.num) else none
  -- `Number` of a text that matches is no number
  | some (.string s) => if statusPattern s then some .NaN else none
  | _ => none

def normalizeResponseRecipient (value : Option String) : Option String :=
  value.bind fun s =>
    let digits := if s.toList.head? = some '+' then s.toList.tail else s.toList
    if digits.all Char.isDigit ∧ 8 ≤ digits.length ∧ digits.length ≤ 15 then
      some (String.ofList digits)
    else none

/-- The report of the recipient among the reports of a body. -/
def isMatchingRecipient (recipient : String) (value : ResponseJson) : Bool :=
  value.isObject &&
    normalizeResponseRecipient (readResponseString (some value) "number") =
      normalizeResponseRecipient (some recipient)

/-! ### Interpreting it -/

def invalidAfricaTalkingResponse : SmsSendResult where
  status := .FAILED
  providerMessageId := none
  errorMessage := some "Africa's Talking returned an invalid response payload"
  terminal := true

section

-- the text of a number, as the platform writes it
variable (text : StatusCode → String)

def mapAfricaTalkingSmsResponse (body : Option ResponseJson) (recipient : String) :
    SmsSendResult :=
  let messageData := readResponseObject body "SMSMessageData"
  let matchingRecipient :=
    (readResponseArray messageData "Recipients").find? (isMatchingRecipient recipient)
  match readResponseNumber matchingRecipient "statusCode" with
  | none => invalidAfricaTalkingResponse
  | some statusCode =>
      if statusCode = .integer 100 ∨ statusCode = .integer 101 ∨ statusCode = .integer 102 then
        { status := .SENT
          providerMessageId := readResponseString matchingRecipient "messageId"
          errorMessage := none
          terminal := false }
      else
        { status := .FAILED
          providerMessageId := none
          errorMessage := some s!"Africa's Talking rejected SMS with status {text statusCode}"
          terminal := true }

/-- `response.ok`. -/
def ok (response : ProviderResponse) : Bool := 200 ≤ response.status ∧ response.status ≤ 299

/-- What `send` makes of an answer. -/
def interpret (response : ProviderResponse) (recipient : String) : SmsSendResult :=
  if ¬ ok response then
    { status := .FAILED
      providerMessageId := none
      errorMessage := some (if 500 ≤ response.status then
        s!"Africa's Talking outcome is unknown (HTTP {response.status}); verify provider history before retry"
        else s!"Africa's Talking request failed with {response.status}")
      terminal := response.status ≠ 429 }
  else mapAfricaTalkingSmsResponse text response.body recipient

end

end AfricaTalkingSmsProvider

/-! ### Outcomes, and one code in two representations -/

inductive SmsOutcome
  | accepted
  | terminalFailure
  | retryableFailure
  deriving DecidableEq

def SmsSendResult.outcome (result : SmsSendResult) : SmsOutcome :=
  if result.status ≠ .FAILED then .accepted
  else if result.terminal then .terminalFailure
  else .retryableFailure

namespace ResponseJson

/-- The object with another value of a property that it has. -/
def setProperty (value : ResponseJson) (key : String) (new : ResponseJson) : ResponseJson :=
  match value with
  | object fields => object (fields.map fun f => if f.1 = key then (key, new) else f)
  | _ => value

lemma lookup_set (fields : List (String × ResponseJson)) (key key' : String)
    (new : ResponseJson) :
    (fields.map fun f => if f.1 = key then (key, new) else f).lookup key' =
      if key' = key then (fields.lookup key).map fun _ => new else fields.lookup key' := by
  induction fields with
  | nil => simp
  | cons f fields ih =>
      obtain ⟨k, v⟩ := f
      rw [List.map_cons, List.lookup_cons, List.lookup_cons, List.lookup_cons, ih]
      by_cases hk : k = key
      · subst hk
        by_cases hkey : key' = k
        · simp [hkey]
        · have hbeq : (key' == k) = false := by simpa using hkey
          simp [hkey, hbeq]
      · have hne : (key == k) = false := by simpa using Ne.symm hk
        by_cases hkey : key' = key
        · subst hkey
          simp [hk, hne]
        · simp [hk, hkey]

lemma property_setProperty (value new : ResponseJson) (key key' : String) :
    (value.setProperty key new).property key' =
      if key' = key then (value.property key).map fun _ => new else value.property key' := by
  cases value with
  | object fields => exact lookup_set fields key key' new
  | _ => by_cases h : key' = key <;> simp [setProperty, property, h]

@[simp] lemma isObject_setProperty (value new : ResponseJson) (key : String) :
    (value.setProperty key new).isObject = value.isObject := by
  cases value <;> rfl

end ResponseJson

namespace AfricaTalkingSmsProvider

open ResponseJson

/-- The list with another first element that meets a condition. -/
def replaceFirst {α : Type} (p : α → Bool) (f : α → α) : List α → List α
  | [] => []
  | a :: rest => if p a then f a :: rest else a :: replaceFirst p f rest

lemma find_replaceFirst {α : Type} {p : α → Bool} {f : α → α} (h : ∀ a, p (f a) = p a)
    (l : List α) : (replaceFirst p f l).find? p = (l.find? p).map f := by
  induction l with
  | nil => rfl
  | cons a rest ih =>
      unfold replaceFirst
      by_cases ha : p a
      · simp [ha, h]
      · simp [ha, ih]

/-- The body with another status code in the report of the recipient. -/
def withStatusCode (recipient : String) (code body : ResponseJson) : ResponseJson :=
  match readResponseObject (some body) "SMSMessageData" with
  | none => body
  | some data => body.setProperty "SMSMessageData" (data.setProperty "Recipients" (.array
      (replaceFirst (isMatchingRecipient recipient) (·.setProperty "statusCode" code)
        (readResponseArray (some data) "Recipients"))))

end AfricaTalkingSmsProvider

/-- The answer with another status code in the report of the recipient. -/
def ProviderResponse.withStatusCode (response : ProviderResponse) (recipient : String)
    (code : ResponseJson) : ProviderResponse :=
  { response with body := response.body.map (AfricaTalkingSmsProvider.withStatusCode recipient code)
    }

namespace AfricaTalkingSmsProvider

open ResponseJson

/-- The report of the recipient. -/
def matchingRecipient (body : Option ResponseJson) (recipient : String) : Option ResponseJson :=
  (readResponseArray (readResponseObject body "SMSMessageData") "Recipients").find?
    (isMatchingRecipient recipient)

lemma isMatchingRecipient_setProperty (recipient : String) (value code : ResponseJson) :
    isMatchingRecipient recipient (value.setProperty "statusCode" code) =
      isMatchingRecipient recipient value := by
  have hother : ("number" : String) ≠ "statusCode" := by decide
  have hnumber : readResponseString (some (value.setProperty "statusCode" code)) "number" =
      readResponseString (some value) "number" := by
    simp only [readResponseString, Option.bind_some, property_setProperty, if_neg hother]
  unfold isMatchingRecipient
  rw [hnumber, isObject_setProperty]

/-- The report of the recipient has the new code. -/
lemma matchingRecipient_withStatusCode (body : Option ResponseJson) (recipient : String)
    (code : ResponseJson) :
    matchingRecipient (body.map (withStatusCode recipient code)) recipient =
      (matchingRecipient body recipient).map (·.setProperty "statusCode" code) := by
  cases body with
  | none => rfl
  | some body =>
      rw [Option.map_some]
      unfold withStatusCode
      cases hdata : readResponseObject (some body) "SMSMessageData" with
      | none => simp [matchingRecipient, hdata, readResponseArray]
      | some data =>
          obtain ⟨hproperty, hobject⟩ := Option.filter_eq_some_iff.1 hdata
          simp only [Option.bind_some] at hproperty
          have hset : readResponseObject (some (body.setProperty "SMSMessageData"
              (data.setProperty "Recipients" (.array (replaceFirst (isMatchingRecipient recipient)
                (·.setProperty "statusCode" code) (readResponseArray (some data) "Recipients"))))))
              "SMSMessageData" = some (data.setProperty "Recipients" (.array (replaceFirst
                (isMatchingRecipient recipient) (·.setProperty "statusCode" code)
                (readResponseArray (some data) "Recipients")))) := by
            simp [readResponseObject, property_setProperty, hproperty, hobject]
          unfold matchingRecipient
          simp only [hset, hdata]
          rw [← find_replaceFirst fun value => isMatchingRecipient_setProperty recipient value code]
          congr 1
          cases hrecipients : data.property "Recipients" with
          | none =>
              simp [readResponseArray, property_setProperty, hrecipients, replaceFirst]
          | some reports =>
              simp [readResponseArray, property_setProperty, hrecipients]

/-- The recipient's report, of a successful answer, has a status code. -/
def Reports (response : ProviderResponse) (recipient : String) : Prop :=
  ok response ∧ ∃ report ∈ matchingRecipient response.body recipient,
    (report.property "statusCode").isSome

/-- The codes of accepted messages. -/
def Accepting (n : Int) : Prop := n = 100 ∨ n = 101 ∨ n = 102

instance : DecidablePred Accepting := fun _ => inferInstanceAs (Decidable (_ ∨ _))

section

variable (text : StatusCode → String) {response : ProviderResponse} {recipient : String}

lemma readResponseNumber_setProperty {report code : ResponseJson}
    (h : (report.property "statusCode").isSome) :
    readResponseNumber (some (report.setProperty "statusCode" code)) "statusCode" =
      readResponseNumber (some (.object [("statusCode", code)])) "statusCode" := by
  obtain ⟨old, hold⟩ := Option.isSome_iff_exists.1 h
  have hobject : (ResponseJson.object [("statusCode", code)]).property "statusCode" = some code :=
    rfl
  simp only [readResponseNumber, Option.bind_some, property_setProperty, hold, hobject, if_true,
    Option.map_some]

lemma readResponseNumber_number (n : Int) :
    readResponseNumber (some (.object [("statusCode", .number n)])) "statusCode" =
      some (.integer n) := by
  have hobject : (ResponseJson.object [("statusCode", .number n)]).property "statusCode" =
      some (.number n) := rfl
  simp [readResponseNumber, hobject, Rat.isInt]

lemma readResponseNumber_string (n : Int) :
    readResponseNumber (some (.object [("statusCode", .string (toString n))])) "statusCode" =
      none := by
  have hobject : (ResponseJson.object [("statusCode", .string (toString n))]).property
      "statusCode" = some (.string (toString n)) := rfl
  have hpattern : statusPattern (toString n) = false := by
    by_contra h
    have hlist : (toString n).toList = ['\\', 'd', 'd', 'd'] := by
      simpa [statusPattern] using h
    have hmem : 'd' ∈ (toString n).toList := by
      rw [hlist]
      simp
    rcases mem_toString_int hmem with hdigit | hminus
    · cases hdigit
    · cases hminus
  simp only [readResponseNumber, Option.bind_some, hobject, hpattern]
  rfl

/-- What a code decides, in the report of a recipient. -/
lemma outcome_withStatusCode (h : Reports response recipient) (code : ResponseJson) :
    (interpret text (response.withStatusCode recipient code) recipient).outcome =
      match readResponseNumber (some (.object [("statusCode", code)])) "statusCode" with
      | none => .terminalFailure
      | some statusCode =>
          if statusCode = .integer 100 ∨ statusCode = .integer 101 ∨ statusCode = .integer 102
          then .accepted else .terminalFailure := by
  obtain ⟨hok, report, hreport, hcode⟩ := h
  have hnew := matchingRecipient_withStatusCode response.body recipient code
  rw [Option.mem_def.1 hreport, Option.map_some] at hnew
  unfold matchingRecipient at hnew
  have hok' : ok (response.withStatusCode recipient code) = true := hok
  unfold interpret mapAfricaTalkingSmsResponse
  simp only [hok', not_true_eq_false, if_false]
  change SmsSendResult.outcome (match readResponseNumber ((readResponseArray (readResponseObject
    (response.body.map (withStatusCode recipient code)) "SMSMessageData") "Recipients").find?
      (isMatchingRecipient recipient)) "statusCode" with
    | none => _
    | some _ => _) = _
  rw [hnew, readResponseNumber_setProperty hcode]
  cases readResponseNumber (some (.object [("statusCode", code)])) "statusCode" with
  | none => rfl
  | some statusCode =>
      by_cases haccepted : statusCode = .integer 100 ∨ statusCode = .integer 101 ∨
          statusCode = .integer 102
      · simp [haccepted, SmsSendResult.outcome]
      · simp [haccepted, SmsSendResult.outcome]

/-- Without a report there is no code to replace. -/
lemma outcome_without_report (h : ¬ Reports response recipient) (code code' : ResponseJson) :
    (interpret text (response.withStatusCode recipient code) recipient).outcome =
      (interpret text (response.withStatusCode recipient code') recipient).outcome := by
  have hok : ∀ code, ok (response.withStatusCode recipient code) = ok response := fun _ => rfl
  unfold interpret
  simp only [hok]
  by_cases hresponse : ok response
  · simp only [hresponse, not_true_eq_false, if_false]
    have hnone : ∀ code, readResponseNumber ((readResponseArray (readResponseObject
        (response.withStatusCode recipient code).body "SMSMessageData") "Recipients").find?
          (isMatchingRecipient recipient)) "statusCode" = none := by
      intro code
      have hnew := matchingRecipient_withStatusCode response.body recipient code
      unfold matchingRecipient at hnew
      change readResponseNumber ((readResponseArray (readResponseObject
        (response.body.map (withStatusCode recipient code)) "SMSMessageData") "Recipients").find?
          (isMatchingRecipient recipient)) "statusCode" = none
      rw [hnew]
      cases hreport : (readResponseArray (readResponseObject response.body "SMSMessageData")
          "Recipients").find? (isMatchingRecipient recipient) with
      | none => rfl
      | some report =>
          have hmissing : report.property "statusCode" = none := by
            by_contra hsome
            exact h ⟨hresponse, report, hreport, Option.isSome_iff_ne_none.2 hsome⟩
          simp [readResponseNumber, property_setProperty, hmissing]
    unfold mapAfricaTalkingSmsResponse
    simp only [hnone]
  · have hstatus : ∀ code, (response.withStatusCode recipient code).status = response.status :=
      fun _ => rfl
    rw [if_pos hresponse, if_pos hresponse]
    simp only [SmsSendResult.outcome, hstatus]

/-- A status code has one meaning, as a number and as its decimal text, and the codes of accepted
messages are accepted. -/
structure RepresentationIndependent (response : ProviderResponse) (recipient : String)
    (n : Int) : Prop where
  same : (interpret text (response.withStatusCode recipient (.number n)) recipient).outcome =
    (interpret text (response.withStatusCode recipient (.string (toString n))) recipient).outcome
  accepted : Reports response recipient → Accepting n →
    (interpret text (response.withStatusCode recipient (.number n)) recipient).outcome =
        .accepted ∧
      (interpret text (response.withStatusCode recipient (.string (toString n)))
        recipient).outcome = .accepted

/-- **A status code has one meaning** unless it is one of an accepted message, in the recipient's
report of a successful answer. -/
theorem representationIndependent_iff (response : ProviderResponse) (recipient : String)
    (n : Int) : RepresentationIndependent text response recipient n ↔
      ¬ (Reports response recipient ∧ Accepting n) := by
  by_cases hreports : Reports response recipient
  · have hnumber := outcome_withStatusCode text hreports (.number n)
    have hstring := outcome_withStatusCode text hreports (.string (toString n))
    rw [readResponseNumber_number] at hnumber
    rw [readResponseNumber_string] at hstring
    simp only [StatusCode.integer.injEq] at hnumber hstring
    by_cases haccepting : Accepting n
    · have hcodes : n = 100 ∨ n = 101 ∨ n = 102 := haccepting
      rw [if_pos hcodes] at hnumber
      refine iff_of_false (fun h => ?_) (fun h => h ⟨hreports, haccepting⟩)
      have hsame := h.same
      rw [hnumber, hstring] at hsame
      cases hsame
    · have hcodes : ¬ (n = 100 ∨ n = 101 ∨ n = 102) := haccepting
      rw [if_neg hcodes] at hnumber
      refine iff_of_true ⟨hnumber.trans hstring.symm, fun _ h => absurd h haccepting⟩ ?_
      exact fun h => haccepting h.2
  · refine iff_of_true ⟨outcome_without_report text hreports _ _, fun h => absurd h hreports⟩ ?_
    exact fun h => hreports h.1

end

end AfricaTalkingSmsProvider

namespace Shop

/-- The report of one recipient. -/
def providerResponse (code : ResponseJson) : ProviderResponse where
  status := 201
  body := some (.object [("SMSMessageData", .object [("Recipients", .array [.object
    [("number", .string "+2348012345678"), ("statusCode", code),
      ("messageId", .string "ATXid_1")]])])])

end Shop

open AfricaTalkingSmsProvider in
/-- Code 101 is accepted as a number, and a terminal failure as a text. -/
theorem statusCode_text_rejected :
    (interpret (fun _ => "") (Shop.providerResponse (.number 101)) "+2348012345678").outcome =
        .accepted ∧
      (interpret (fun _ => "") (Shop.providerResponse (.string "101")) "+2348012345678").outcome =
        .terminalFailure := by
  decide +kernel

end ShopcityLoyalty
