import ShopcityLoyalty.CardLifecycle
import ShopcityLoyalty.OutboxWorker
import ShopcityLoyalty.Lib.Decimals

/-!
The event of a card's replacement, and what the card replacement rule counts when it is evaluated.

The replaced row, the event and the end of the window all carry one instant, and the window does
not contain its end. The rule never counts the replacement that its event is about.
-/

namespace ShopcityLoyalty

open Txn OutboxWorkerRuntime

/-! ### The event -/

namespace CardsService

/-- The event that `replaceCard` creates for the fraud rules. -/
def cardReplacedEvent (rt : Runtime) (tenantId branchId customerId : String) (newCardId : Nat)
    (occurredAt : Int) : OutboxEvent where
  tenantId := tenantId
  aggregateType := "card"
  aggregateId := rt.uuid .cards newCardId
  eventType := "fraud.evaluate"
  payload := .object
    [("kind", .string "card.replaced"), ("tenantId", .string tenantId),
      ("branchId", .string branchId), ("customerId", .string customerId),
      ("cardId", .string (rt.uuid .cards newCardId)),
      ("occurredAt", .string (Calendar.toISOString occurredAt))]

/-- What a row keeps of the transaction that replaced it is what its event says, in every later
state of the cards. -/
theorem replaceTransaction_event {actor : AuthContext} {cardId : Nat}
    {customerId serialNumber : String} {key : CardRequestKey} {requestHash : Digest} {now : Int}
    {s t u : CardStore} {res : CardResponse}
    (hcustomer : ∃ c, s.cards[cardId]? = some c ∧ c.customerId = customerId)
    (h : replaceTransaction actor cardId customerId serialNumber key requestHash now s =
      .ok (res, t)) (hlater : t.Evolves u) (rt : Runtime) (branchId : String) :
    ∃ c, u.cards[cardId]? = some c ∧ c.replacedAt = some now ∧ c.replacedByCardId = some res.id ∧
      cardReplacedEvent rt c.tenantId branchId c.customerId res.id now =
        cardReplacedEvent rt actor.tenantId branchId customerId res.id now := by
  obtain ⟨c, hrow, hten, -, hid, ht⟩ := replaceTransaction_cards h
  obtain ⟨c₀, hc₀, hcus⟩ := hcustomer
  obtain rfl : c = c₀ := Option.some.inj (hrow.symm.trans hc₀)
  have hlt : cardId < s.cards.length := Table.lt_of_getElem? hrow
  have hreplaced : t.cards[cardId]? =
      some (linkedCard s.cards.length (replacedCard now c)) := by
    rw [ht]
    exact Table.getElem?_append (List.getElem?_set_self hlt)
  obtain ⟨c', hc', hkept⟩ := hlater.kept hreplaced
  obtain rfl := hkept.fixed rfl
  refine ⟨_, hc', rfl, by rw [hid]; rfl, ?_⟩
  change cardReplacedEvent rt c.tenantId branchId c.customerId res.id now = _
  rw [hten, hcus]

end CardsService

/-! ### What its evaluation reads -/

/-- The cards of a customer that were replaced at an instant of a set. -/
def replacedCards (cards : Table IssuedCard) (tenantId customerId : String) (p : Int → Bool) :
    List (Nat × IssuedCard) :=
  cards.select fun c => c.tenantId = tenantId && c.customerId = customerId && c.replacedAt.any p

/-- `card.count` over a half-open window. -/
def replacedWithin (cards : Table IssuedCard) (tenantId customerId : String)
    (windowStart windowEnd : Int) : List (Nat × IssuedCard) :=
  replacedCards cards tenantId customerId fun t => windowStart ≤ t && t < windowEnd

/-- The replacements of the window with its end. -/
def replacedUpTo (cards : Table IssuedCard) (tenantId customerId : String)
    (windowStart windowEnd : Int) : List (Nat × IssuedCard) :=
  replacedCards cards tenantId customerId fun t => windowStart ≤ t && t ≤ windowEnd

lemma mem_replacedCards {cards : Table IssuedCard} {tenantId customerId : String} {p : Int → Bool}
    {i : Nat} {c : IssuedCard} : (i, c) ∈ replacedCards cards tenantId customerId p ↔
      cards[i]? = some c ∧ c.tenantId = tenantId ∧ c.customerId = customerId ∧
        c.replacedAt.any p = true := by
  unfold replacedCards
  rw [Table.mem_select]
  simp [and_assoc]

/-- `card.findUnique`. -/
def findCard (rt : Runtime) (cards : Table IssuedCard) (tenantId cardId : String) :
    Option IssuedCard :=
  ((cards.select fun c => c.tenantId = tenantId).find? fun r => rt.uuid .cards r.1 = cardId).map
    (·.2)

/-- What an evaluation reads about cards is what the table holds. -/
def cardReading (rt : Runtime) (cards : Table IssuedCard) (branchOf : String → String)
    (reads : FraudReads) : FraudReads :=
  { reads with
    card := fun tenantId cardId => (findCard rt cards tenantId cardId).map fun c =>
      (c.customerId, branchOf c.customerId)
    cardReplacements := fun tenantId customerId windowStart windowEnd =>
      (replacedWithin cards tenantId customerId windowStart windowEnd).length }

lemma findCard_eq {rt : Runtime} (hinj : Function.Injective (rt.uuid .cards))
    {cards : Table IssuedCard} {j : Nat} {d : IssuedCard} (hd : cards[j]? = some d) :
    findCard rt cards d.tenantId (rt.uuid .cards j) = some d := by
  have hmem : (j, d) ∈ cards.select fun c => c.tenantId = d.tenantId :=
    Table.mem_select.2 ⟨hd, by simp⟩
  unfold findCard
  cases hfound : (cards.select fun c => c.tenantId = d.tenantId).find? fun r =>
      rt.uuid .cards r.1 = rt.uuid .cards j with
  | none =>
      have hnone := List.find?_eq_none.1 hfound (j, d) hmem
      simp at hnone
  | some r =>
      obtain ⟨k, e⟩ := r
      have hkey : rt.uuid .cards k = rt.uuid .cards j := by
        simpa using List.find?_some hfound
      obtain rfl := hinj hkey
      have hrow := (Table.mem_select.1 (List.mem_of_find?_eq_some hfound)).1
      rw [Option.map_some, ← hrow, hd]

/-! ### The rule -/

/-- The evaluation of an event flags a customer for frequent replacements. -/
def FlagsReplacements (rt : FraudRuntime) (reads : FraudReads) (now : Int)
    (event : OutboxEvent) : Prop :=
  ∃ findings, evaluateFraudForOutboxEvent rt reads now event
      (normalizeJsonPayload event.payload) = .ok findings ∧
    ∃ finding ∈ findings, finding.ruleCode = .FR_REPL_001

/-- The window that ends at a replacement. -/
def replacementWindow (occurredAt : Int) : Int × Int := (occurredAt - hoursMs (30 * 24), occurredAt)

lemma flagsReplacements_iff {rt : FraudRuntime} {reads : FraudReads} {now occurredAt : Int}
    {tenantId branchId customerId : String} {j : Nat} {owner : String × String}
    (hparse : rt.parse (Calendar.toISOString occurredAt) = some occurredAt)
    (hcard : reads.card tenantId (rt.uuid .cards j) = some owner) :
    FlagsReplacements rt reads now
        (CardsService.cardReplacedEvent rt.toRuntime tenantId branchId customerId j occurredAt) ↔
      FraudBehaviorRuntime.cardReplacementCountThreshold rt ≤
        reads.cardReplacements tenantId owner.1 (replacementWindow occurredAt).1
          (replacementWindow occurredAt).2 := by
  have hat : readOutboxOccurredAt rt now (normalizeJsonPayload (CardsService.cardReplacedEvent
      rt.toRuntime tenantId branchId customerId j occurredAt).payload) = occurredAt := by
    change (rt.parse (Calendar.toISOString occurredAt)).getD now = occurredAt
    rw [hparse]
    rfl
  have hfindings : evaluateFraudForOutboxEvent rt reads now (CardsService.cardReplacedEvent
      rt.toRuntime tenantId branchId customerId j occurredAt) (normalizeJsonPayload
        (CardsService.cardReplacedEvent rt.toRuntime tenantId branchId customerId j
          occurredAt).payload) =
      .ok (FraudBehaviorRuntime.evaluateCardReplacementBehavior rt reads tenantId
        (rt.uuid .cards j) (replacementWindow occurredAt)) := by
    unfold evaluateFraudForOutboxEvent
    rw [hat]
    rfl
  unfold FlagsReplacements
  rw [hfindings]
  unfold FraudBehaviorRuntime.evaluateCardReplacementBehavior
  rw [hcard]
  obtain ⟨customer, branch⟩ := owner
  unfold FraudBehaviorRuntime.evaluateCardReplacementFrequency
  dsimp only
  constructor
  · rintro ⟨findings, heq, finding, hmem, -⟩
    by_contra hless
    rw [if_pos (by omega)] at heq
    obtain rfl := Except.ok.inj heq
    cases hmem
  · intro hreached
    rw [if_neg (by omega)]
    exact ⟨_, rfl, _, List.mem_singleton.2 rfl, rfl⟩

/-- **The replacement rule and its trigger**: the replacement that an event is about is not
counted, though the window ends at it. The flag is raised as if it were, exactly when the others
decide alone. -/
theorem replacement_not_counted {rt : FraudRuntime} {w : CardRequests}
    {i j : Nat} {c : IssuedCard} {occurredAt : Int}
    (hrun : Pool.Steps (CardRequest.program rt.toRuntime) (Pool.initial noCards) w)
    (hinj : Function.Injective (rt.uuid .cards))
    (hparse : rt.parse (Calendar.toISOString occurredAt) = some occurredAt)
    (hrow : w.state.cards[i]? = some c) (hat : c.replacedAt = some occurredAt)
    (hlink : c.replacedByCardId = some j) (branchOf : String → String) (reads : FraudReads)
    (now : Int) :
    let window := replacementWindow occurredAt
    let counted := replacedWithin w.state.cards c.tenantId c.customerId window.1 window.2
    let included := replacedUpTo w.state.cards c.tenantId c.customerId window.1 window.2
    let threshold := FraudBehaviorRuntime.cardReplacementCountThreshold rt
    (i, c) ∉ counted ∧ (i, c) ∈ included ∧
      ((FlagsReplacements rt (cardReading rt.toRuntime w.state.cards branchOf reads) now
          (CardsService.cardReplacedEvent rt.toRuntime c.tenantId (branchOf c.customerId)
            c.customerId j occurredAt) ↔ threshold ≤ included.length) ↔
        ¬ (counted.length < threshold ∧ threshold ≤ included.length)) := by
  have hsound : CardsSound w.state.cards := (cards_evolve (.refl _) hrun).sound .noCards
  obtain ⟨-, d, hd, hsame⟩ := hsound.linked hrow hlink
  have hcard : (cardReading rt.toRuntime w.state.cards branchOf reads).card c.tenantId
      (rt.uuid .cards j) = some (c.customerId, branchOf c.customerId) := by
    change (findCard rt.toRuntime w.state.cards c.tenantId (rt.uuid .cards j)).map _ = _
    rw [hsame.1, findCard_eq hinj hd, hsame.2]
    rfl
  have hcount : FlagsReplacements rt (cardReading rt.toRuntime w.state.cards branchOf reads) now
      (CardsService.cardReplacedEvent rt.toRuntime c.tenantId (branchOf c.customerId)
        c.customerId j occurredAt) ↔
      FraudBehaviorRuntime.cardReplacementCountThreshold rt ≤
        (replacedWithin w.state.cards c.tenantId c.customerId (replacementWindow occurredAt).1
          (replacementWindow occurredAt).2).length := flagsReplacements_iff hparse hcard
  intro window counted included threshold
  refine ⟨fun hmem => ?_, ?_, ?_⟩
  -- the window ends before the instant of the event, which is the replacement's own
  · have hin : c.replacedAt.any (fun t => window.1 ≤ t && t < window.2) = true :=
      (mem_replacedCards.1 hmem).2.2.2
    simp [hat, window, replacementWindow] at hin
  · refine mem_replacedCards.2 ⟨hrow, rfl, rfl, ?_⟩
    simp [hat, window, replacementWindow, hoursMs]
  · have hle : counted.length ≤ included.length := by
      have hsub : counted.Sublist included := by
        refine (List.monotone_filter_right _ fun r hr => ?_).map _
        simp only [Bool.and_eq_true] at hr ⊢
        refine ⟨hr.1, ?_⟩
        cases hwhen : r.1.replacedAt with
        | none => simp [hwhen] at hr
        | some t =>
            have hwin := hr.2
            simp only [hwhen, Option.any_some, Bool.and_eq_true, decide_eq_true_eq] at hwin ⊢
            omega
      exact hsub.length_le
    rw [hcount]
    change (threshold ≤ counted.length ↔ threshold ≤ included.length) ↔ _
    omega

namespace Shop

/-- The desk a number of seconds into the night. -/
def cardDeskAt (seconds : Int) : CardSurroundings := ⟨night + seconds * 1000, registry.customers⟩

/-- A card that is issued and replaced three times, a second apart. -/
def threeReplacements : List (PoolEvent CardRequest CardSurroundings) :=
  [.start (.createCard supervisor "customer" "CARD-1" (some "k1"))] ++
    List.replicate 5 (.advance 0 (cardDeskAt 0)) ++
  [.start (.replaceCard supervisor 0 "CARD-2" (some "k2"))] ++
    List.replicate 6 (.advance 1 (cardDeskAt 1)) ++
  [.start (.replaceCard supervisor 1 "CARD-3" (some "k3"))] ++
    List.replicate 6 (.advance 2 (cardDeskAt 2)) ++
  [.start (.replaceCard supervisor 2 "CARD-4" (some "k4"))] ++
    List.replicate 6 (.advance 3 (cardDeskAt 3))

/-- A runtime that reads the instant of the third replacement. -/
def replacementRuntime : FraudRuntime :=
  { fraudRuntime with
    parse := fun text =>
      if text = Calendar.toISOString (night + 3000) then some (night + 3000) else none }

lemma replacementRuntime_cards_injective :
    Function.Injective (replacementRuntime.uuid .cards) := by
  intro i j hij
  exact toString_nat_inj.1 hij

lemma third_replacement : ∃ (w : CardRequests) (c : IssuedCard),
    Pool.Steps (CardRequest.program replacementRuntime.toRuntime) (Pool.initial noCards) w ∧
      w.state.cards[2]? = some c ∧ c.replacedAt = some (night + 3000) ∧
      c.replacedByCardId = some 3 ∧
      (replacedWithin w.state.cards c.tenantId c.customerId
        (replacementWindow (night + 3000)).1 (replacementWindow (night + 3000)).2).length = 2 ∧
      (replacedUpTo w.state.cards c.tenantId c.customerId
        (replacementWindow (night + 3000)).1 (replacementWindow (night + 3000)).2).length = 3 := by
  have hmap : ((Pool.initial noCards : CardRequests).runChecked
      (CardRequest.program replacementRuntime.toRuntime) (fun _ _ => true)
      threeReplacements).map (fun w => (w.state.cards[2]?.map fun c =>
        (c.replacedAt, c.replacedByCardId,
          (replacedWithin w.state.cards c.tenantId c.customerId
            (replacementWindow (night + 3000)).1 (replacementWindow (night + 3000)).2).length,
          (replacedUpTo w.state.cards c.tenantId c.customerId
            (replacementWindow (night + 3000)).1 (replacementWindow (night + 3000)).2).length))) =
      some (some (some (night + 3000), some 3, 2, 3)) := by decide +kernel
  obtain ⟨w, hw, hcard⟩ := Option.map_eq_some_iff.1 hmap
  obtain ⟨c, hc, hfacts⟩ := Option.map_eq_some_iff.1 hcard
  simp only [Prod.mk.injEq] at hfacts
  exact ⟨w, c, .of_runChecked (fun _ _ _ => trivial) hw, hc, hfacts⟩

end Shop

/-- The third replacement, with the two before it. -/
theorem replacement_not_counted_shop : ∃ (w : CardRequests) (c : IssuedCard),
    Pool.Steps (CardRequest.program Shop.replacementRuntime.toRuntime) (Pool.initial noCards) w ∧
      (2, c) ∉ replacedWithin w.state.cards c.tenantId c.customerId
        (replacementWindow (Shop.night + 3000)).1 (replacementWindow (Shop.night + 3000)).2 := by
  obtain ⟨w, c, hrun, hrow, hat, hlink, -⟩ := Shop.third_replacement
  have hrule := replacement_not_counted hrun Shop.replacementRuntime_cards_injective
    (by decide +kernel) hrow hat hlink (fun _ => "branch") Shop.noReads (Shop.night + 4000)
  exact ⟨w, c, hrun, hrule.1⟩

/-- Three replacements within seconds reach the threshold, and raise no flag. -/
theorem third_replacement_not_flagged : ∃ (w : CardRequests) (c : IssuedCard),
    Pool.Steps (CardRequest.program Shop.replacementRuntime.toRuntime) (Pool.initial noCards) w ∧
      w.state.cards[2]? = some c ∧ c.replacedAt = some (Shop.night + 3000) ∧
      FraudBehaviorRuntime.cardReplacementCountThreshold Shop.replacementRuntime ≤
        (replacedUpTo w.state.cards c.tenantId c.customerId
          (replacementWindow (Shop.night + 3000)).1
          (replacementWindow (Shop.night + 3000)).2).length ∧
      ¬ FlagsReplacements Shop.replacementRuntime
        (cardReading Shop.replacementRuntime.toRuntime w.state.cards (fun _ => "branch")
          Shop.noReads) (Shop.night + 4000)
        (CardsService.cardReplacedEvent Shop.replacementRuntime.toRuntime c.tenantId "branch"
          c.customerId 3 (Shop.night + 3000)) := by
  obtain ⟨w, c, hrun, hrow, hat, hlink, hcounted, hincluded⟩ := Shop.third_replacement
  have hthreshold : FraudBehaviorRuntime.cardReplacementCountThreshold
      Shop.replacementRuntime = 3 :=
    rfl
  have hsound : CardsSound w.state.cards := (cards_evolve (.refl _) hrun).sound .noCards
  obtain ⟨-, d, hd, hsame⟩ := hsound.linked hrow hlink
  have hcard : (cardReading Shop.replacementRuntime.toRuntime w.state.cards (fun _ => "branch")
      Shop.noReads).card c.tenantId (Shop.replacementRuntime.uuid .cards 3) =
      some (c.customerId, "branch") := by
    change (findCard _ w.state.cards c.tenantId _).map _ = _
    rw [hsame.1, findCard_eq Shop.replacementRuntime_cards_injective hd, hsame.2]
    rfl
  refine ⟨w, c, hrun, hrow, hat, ?_, fun hflag => ?_⟩
  · rw [hthreshold, hincluded]
  · have hcount := (flagsReplacements_iff (by decide +kernel) hcard).1 hflag
    change _ ≤ (replacedWithin _ _ _ _ _).length at hcount
    rw [hthreshold, hcounted] at hcount
    omega

end ShopcityLoyalty
