import ShopcityLoyalty.Cards
import ShopcityLoyalty.Lib.Links
import ShopcityLoyalty.System

/-!
The lifecycle of cards: one active card per customer, and replacement chains that end.
-/

namespace ShopcityLoyalty

open Txn

variable {cards cards' : Table IssuedCard} {i j k : Nat} {c d e : IssuedCard}

/-! ### The tables that requests leave -/

/-- The card that replaced a card. -/
def successor (cards : Table IssuedCard) (i : Nat) : Option Nat :=
  cards[i]?.bind (·.replacedByCardId)

/-- Two cards of one customer. -/
def IssuedCard.SameCustomer (c d : IssuedCard) : Prop :=
  c.tenantId = d.tenantId ∧ c.customerId = d.customerId

structure CardsSound (cards : Table IssuedCard) : Prop where
  oneActive : ∀ {i j : Nat} {c d : IssuedCard}, cards[i]? = some c → cards[j]? = some d →
    c.SameCustomer d →
    c.status = .ACTIVE → d.status = .ACTIVE → i = j
  replaced : ∀ {i : Nat} {c : IssuedCard}, cards[i]? = some c →
    (c.status = .REPLACED ↔ c.replacedByCardId ≠ none)
  linked : ∀ {i j : Nat} {c : IssuedCard}, cards[i]? = some c → c.replacedByCardId = some j →
    i < j ∧ ∃ d, cards[j]? = some d ∧ c.SameCustomer d
  distinct : ∀ {i j k : Nat} {c d : IssuedCard}, cards[i]? = some c → cards[j]? = some d →
    c.replacedByCardId = some k → d.replacedByCardId = some k → i = j

lemma CardsSound.noCards : CardsSound [] where
  oneActive h := by simp at h
  replaced h := by simp at h
  linked h := by simp at h
  distinct h := by simp at h

/-- No other card of the customer is active. -/
def NoOtherActive (cards : Table IssuedCard) (i : Nat) (c : IssuedCard) : Prop :=
  ∀ {j : Nat} {d : IssuedCard}, cards[j]? = some d → d.SameCustomer c → d.status = .ACTIVE → j = i

/-- What the transactions of card requests do to the table. -/
inductive CardStep (cards : Table IssuedCard) : Table IssuedCard → Prop
  | issued {c : IssuedCard} (active : c.status = .ACTIVE) (fresh : c.replacedByCardId = none)
      (alone : ∀ d ∈ cards, d.SameCustomer c → d.status ≠ .ACTIVE) :
      CardStep cards (cards ++ [c])
  | updated {i : Nat} {c c' : IssuedCard} (row : cards[i]? = some c) (open_ : c.status ≠ .REPLACED)
      (kept : c'.SameCustomer c ∧ c'.replacedByCardId = c.replacedByCardId)
      (status : c'.status ≠ .REPLACED) (alone : c'.status = .ACTIVE → NoOtherActive cards i c) :
      CardStep cards (cards.set i c')
  | replaced {i : Nat} {c c' d : IssuedCard} (row : cards[i]? = some c)
      (active : c.status = .ACTIVE)
      (kept : c'.SameCustomer c) (status : c'.status = .REPLACED)
      (link : c'.replacedByCardId = some cards.length) (same : d.SameCustomer c)
      (fresh : d.replacedByCardId = none ∧ d.status ≠ .REPLACED) :
      CardStep cards (cards.set i c' ++ [d])

/-- What becomes of a row. -/
structure CardKept (c c' : IssuedCard) : Prop where
  sameCustomer : c'.SameCustomer c
  fixed : c.status = .REPLACED → c' = c

lemma CardKept.refl (c : IssuedCard) : CardKept c c := ⟨⟨rfl, rfl⟩, fun _ => rfl⟩

lemma CardKept.trans (h : CardKept c d) (h' : CardKept d e) : CardKept c e where
  sameCustomer :=
    ⟨h'.sameCustomer.1.trans h.sameCustomer.1, h'.sameCustomer.2.trans h.sameCustomer.2⟩
  fixed hc := by
    have hd := h.fixed hc
    subst hd
    exact h'.fixed hc

lemma CardKept.terminal (h : CardKept c d) (hc : c.status = .REPLACED) :
    d.status = .REPLACED ∧ d.replacedByCardId = c.replacedByCardId := by
  rw [h.fixed hc]
  exact ⟨hc, rfl⟩

lemma kept_set {n : Nat} {x x' : IssuedCard} (hx : cards[n]? = some x) (hkept : CardKept x x')
    (hc : cards[i]? = some c) : ∃ c', (cards.set n x')[i]? = some c' ∧ CardKept c c' := by
  by_cases hn : n = i
  · subst hn
    obtain rfl : x = c := Option.some.inj (hx.symm.trans hc)
    exact ⟨x', List.getElem?_set_self (Table.lt_of_getElem? hc), hkept⟩
  · exact ⟨c, by rwa [List.getElem?_set_ne hn], .refl c⟩

lemma CardStep.kept (h : CardStep cards cards') (hc : cards[i]? = some c) :
    ∃ c', cards'[i]? = some c' ∧ CardKept c c' := by
  cases h with
  | issued => exact ⟨c, Table.getElem?_append hc, .refl c⟩
  | updated hrow hopen hkept =>
      exact kept_set hrow ⟨hkept.1, fun h => absurd h hopen⟩ hc
  | replaced hrow hactive hkept =>
      have hopen : ∀ {x : IssuedCard}, x.status = .ACTIVE → x.status ≠ .REPLACED := by
        intro x hx
        simp [hx]
      obtain ⟨c', hc', hk⟩ := kept_set hrow ⟨hkept, fun h => absurd h (hopen hactive)⟩ hc
      exact ⟨c', Table.getElem?_append hc', hk⟩

lemma IssuedCard.SameCustomer.symm (h : c.SameCustomer d) : d.SameCustomer c := ⟨h.1.symm, h.2.symm⟩

lemma IssuedCard.SameCustomer.trans (h : c.SameCustomer d) (h' : d.SameCustomer e) :
    c.SameCustomer e := ⟨h.1.trans h'.1, h.2.trans h'.2⟩

lemma CardsSound.link_lt (h : CardsSound cards) (hc : cards[i]? = some c)
    (hlink : c.replacedByCardId = some j) : j < cards.length := by
  obtain ⟨-, d, hd, -⟩ := h.linked hc hlink
  exact Table.lt_of_getElem? hd

lemma CardsSound.issued (h : CardsSound cards) (hactive : c.status = .ACTIVE)
    (hfresh : c.replacedByCardId = none)
    (halone : ∀ d ∈ cards, d.SameCustomer c → d.status ≠ .ACTIVE) : CardsSound (cards ++ [c]) where
  oneActive {i j x y} hx hy hsame hax hay := by
    rcases Table.getElem?_insert_iff.1 hx with hx | ⟨rfl, rfl⟩
    · rcases Table.getElem?_insert_iff.1 hy with hy | ⟨rfl, rfl⟩
      · exact h.oneActive hx hy hsame hax hay
      · exact absurd hax (halone x (List.mem_of_getElem? hx) hsame)
    · rcases Table.getElem?_insert_iff.1 hy with hy | ⟨rfl, rfl⟩
      · exact absurd hay (halone y (List.mem_of_getElem? hy) hsame.symm)
      · rfl
  replaced {i x} hx := by
    rcases Table.getElem?_insert_iff.1 hx with hx | ⟨rfl, rfl⟩
    · exact h.replaced hx
    · simp [hactive, hfresh]
  linked {i j x} hx hlink := by
    rcases Table.getElem?_insert_iff.1 hx with hx | ⟨rfl, rfl⟩
    · obtain ⟨hlt, d, hd, hsame⟩ := h.linked hx hlink
      exact ⟨hlt, d, Table.getElem?_append hd, hsame⟩
    · rw [hfresh] at hlink
      cases hlink
  distinct {i j k x y} hx hy hxk hyk := by
    rcases Table.getElem?_insert_iff.1 hx with hx | ⟨rfl, rfl⟩
    · rcases Table.getElem?_insert_iff.1 hy with hy | ⟨rfl, rfl⟩
      · exact h.distinct hx hy hxk hyk
      · rw [hfresh] at hyk
        cases hyk
    · rw [hfresh] at hxk
      cases hxk

lemma set_row {x y : IssuedCard} (hy : (cards.set i x)[j]? = some y) :
    (j = i ∧ y = x) ∨ (j ≠ i ∧ cards[j]? = some y) := by
  by_cases hij : i = j
  · subst hij
    have hlt := Table.lt_of_getElem? hy
    rw [List.length_set] at hlt
    rw [List.getElem?_set_self hlt] at hy
    exact .inl ⟨rfl, (Option.some.inj hy).symm⟩
  · rw [List.getElem?_set_ne hij] at hy
    exact .inr ⟨fun h => hij h.symm, hy⟩

lemma CardsSound.updated {c' : IssuedCard} (h : CardsSound cards) (hrow : cards[i]? = some c)
    (hopen : c.status ≠ .REPLACED)
    (hkept : c'.SameCustomer c ∧ c'.replacedByCardId = c.replacedByCardId)
    (hstatus : c'.status ≠ .REPLACED) (halone : c'.status = .ACTIVE → NoOtherActive cards i c) :
    CardsSound (cards.set i c') where
  oneActive {j k x y} hx hy hsame hax hay := by
    rcases set_row hx with ⟨rfl, rfl⟩ | ⟨-, hx'⟩
    · rcases set_row hy with ⟨rfl, rfl⟩ | ⟨-, hy⟩
      · rfl
      · exact (halone hax hy (hsame.symm.trans hkept.1) hay).symm
    · rcases set_row hy with ⟨rfl, rfl⟩ | ⟨-, hy'⟩
      · exact halone hay hx' (hsame.trans hkept.1) hax
      · exact h.oneActive hx' hy' hsame hax hay
  replaced {j x} hx := by
    rcases set_row hx with ⟨rfl, rfl⟩ | ⟨-, hx⟩
    · rw [hkept.2, ← h.replaced hrow]
      exact ⟨fun hr => absurd hr hstatus, fun hr => absurd hr hopen⟩
    · exact h.replaced hx
  linked {j k x} hx hlink := by
    have hold : ∃ y, cards[j]? = some y ∧ x.SameCustomer y ∧ y.replacedByCardId = some k := by
      rcases set_row hx with ⟨rfl, rfl⟩ | ⟨-, hx⟩
      · exact ⟨c, hrow, hkept.1, hkept.2 ▸ hlink⟩
      · exact ⟨x, hx, ⟨rfl, rfl⟩, hlink⟩
    obtain ⟨y, hy, hxy, hyk⟩ := hold
    obtain ⟨hlt, d, hd, hyd⟩ := h.linked hy hyk
    obtain ⟨d', hd', hk⟩ := kept_set hrow ⟨hkept.1, fun h => absurd h hopen⟩ hd
    exact ⟨hlt, d', hd', (hxy.trans hyd).trans hk.sameCustomer.symm⟩
  distinct {j k n x y} hx hy hxn hyn := by
    have hold : ∀ {m : Nat} {z : IssuedCard}, (cards.set i c')[m]? = some z →
      z.replacedByCardId = some n →
        ∃ z₀, cards[m]? = some z₀ ∧ z₀.replacedByCardId = some n := by
      intro m z hz hzn
      rcases set_row hz with ⟨rfl, rfl⟩ | ⟨-, hz⟩
      · exact ⟨c, hrow, hkept.2 ▸ hzn⟩
      · exact ⟨z, hz, hzn⟩
    obtain ⟨x₀, hx₀, hxn₀⟩ := hold hx hxn
    obtain ⟨y₀, hy₀, hyn₀⟩ := hold hy hyn
    exact h.distinct hx₀ hy₀ hxn₀ hyn₀

lemma CardsSound.replacement {c' : IssuedCard} (h : CardsSound cards) (hrow : cards[i]? = some c)
    (hactive : c.status = .ACTIVE) (hkept : c'.SameCustomer c) (hstatus : c'.status = .REPLACED)
    (hlink : c'.replacedByCardId = some cards.length) (hsame : d.SameCustomer c)
    (hfresh : d.replacedByCardId = none ∧ d.status ≠ .REPLACED) :
    CardsSound (cards.set i c' ++ [d]) := by
  have hi : i < cards.length := Table.lt_of_getElem? hrow
  -- a row is the new card, the replaced one, or another that stands as it was
  have hrows : ∀ {j : Nat} {x : IssuedCard}, (cards.set i c' ++ [d])[j]? = some x →
      (j = cards.length ∧ x = d) ∨ (j = i ∧ x = c') ∨ (j ≠ i ∧ cards[j]? = some x) := by
    intro j x hx
    rcases Table.getElem?_insert_iff.1 hx with hx | ⟨hj, rfl⟩
    · exact .inr (set_row hx)
    · exact .inl ⟨by rw [hj, List.length_set], rfl⟩
  have hnotActive : c'.status ≠ .ACTIVE := by simp [hstatus]
  have hnew : (cards.set i c' ++ [d])[cards.length]? = some d :=
    Table.getElem?_insert_iff.2 (.inr ⟨by rw [List.length_set], rfl⟩)
  refine ⟨?_, ?_, ?_, ?_⟩
  · intro j k x y hx hy hxy hax hay
    rcases hrows hx with ⟨rfl, rfl⟩ | ⟨rfl, rfl⟩ | ⟨hj, hx'⟩
    · rcases hrows hy with ⟨rfl, rfl⟩ | ⟨rfl, rfl⟩ | ⟨hk, hy⟩
      · rfl
      · exact absurd hay hnotActive
      · exact absurd (h.oneActive hy hrow (hxy.symm.trans hsame) hay hactive) hk
    · exact absurd hax hnotActive
    · rcases hrows hy with ⟨rfl, rfl⟩ | ⟨rfl, rfl⟩ | ⟨hk, hy'⟩
      · exact absurd (h.oneActive hx' hrow (hxy.trans hsame) hax hactive) hj
      · exact absurd hay hnotActive
      · exact h.oneActive hx' hy' hxy hax hay
  · intro j x hx
    rcases hrows hx with ⟨rfl, rfl⟩ | ⟨rfl, rfl⟩ | ⟨hj, hx⟩
    · simp [hfresh.1, hfresh.2]
    · simp [hstatus, hlink]
    · exact h.replaced hx
  · intro j k x hx hxk
    rcases hrows hx with ⟨rfl, rfl⟩ | ⟨rfl, rfl⟩ | ⟨hj, hx⟩
    · rw [hfresh.1] at hxk
      cases hxk
    · obtain rfl : cards.length = k := Option.some.inj (hlink.symm.trans hxk)
      exact ⟨hi, d, hnew, hkept.trans hsame.symm⟩
    · obtain ⟨hlt, y, hy, hxy⟩ := h.linked hx hxk
      have hkept' : CardKept c c' := ⟨hkept, fun hr => by simp [hactive] at hr⟩
      obtain ⟨y', hy', hk⟩ := kept_set hrow hkept' hy
      exact ⟨hlt, y', Table.getElem?_append hy', hxy.trans hk.sameCustomer.symm⟩
  · intro j k n x y hx hy hxn hyn
    rcases hrows hx with ⟨rfl, rfl⟩ | ⟨rfl, rfl⟩ | ⟨hj, hx'⟩
    · rw [hfresh.1] at hxn
      cases hxn
    · obtain rfl : cards.length = n := Option.some.inj (hlink.symm.trans hxn)
      rcases hrows hy with ⟨rfl, rfl⟩ | ⟨rfl, rfl⟩ | ⟨hk, hy'⟩
      · rw [hfresh.1] at hyn
        cases hyn
      · rfl
      · exact absurd (h.link_lt hy' hyn) (lt_irrefl _)
    · rcases hrows hy with ⟨rfl, rfl⟩ | ⟨rfl, rfl⟩ | ⟨hk, hy'⟩
      · rw [hfresh.1] at hyn
        cases hyn
      · obtain rfl : cards.length = n := Option.some.inj (hlink.symm.trans hyn)
        exact absurd (h.link_lt hx' hxn) (lt_irrefl _)
      · exact h.distinct hx' hy' hxn hyn

/-- **Card requests keep the table sound.** -/
theorem CardStep.sound (hstep : CardStep cards cards') (h : CardsSound cards) :
    CardsSound cards' := by
  cases hstep with
  | issued hactive hfresh halone => exact h.issued hactive hfresh halone
  | updated hrow hopen hkept hstatus halone => exact h.updated hrow hopen hkept hstatus halone
  | replaced hrow hactive hkept hstatus hlink hsame hfresh =>
      exact h.replacement hrow hactive hkept hstatus hlink hsame hfresh

/-! ### What transactions do -/

/-- Rows keep their customers and their replacements, and the table stays sound. -/
structure CardStore.Evolves (s t : CardStore) : Prop where
  kept : ∀ {i : Nat} {c : IssuedCard}, s.cards[i]? = some c →
    ∃ c', t.cards[i]? = some c' ∧ CardKept c c'
  sound : CardsSound s.cards → CardsSound t.cards

namespace CardStore.Evolves

variable {r s t u : CardStore}

lemma of_cards (h : t.cards = s.cards) : s.Evolves t where
  kept hc := ⟨_, by rw [h]; exact hc, .refl _⟩
  sound hs := by rwa [h]

lemma of_step (h : CardStep s.cards t.cards) : s.Evolves t := ⟨h.kept, h.sound⟩

lemma refl (s : CardStore) : s.Evolves s := of_cards rfl

lemma trans (h : s.Evolves t) (h' : t.Evolves u) : s.Evolves u where
  kept hc := by
    obtain ⟨c', hc', hk⟩ := h.kept hc
    obtain ⟨c'', hc'', hk'⟩ := h'.kept hc'
    exact ⟨c'', hc'', hk.trans hk'⟩
  sound hs := h'.sound (h.sound hs)

end CardStore.Evolves

namespace CardsService

variable {rt : Runtime} {s t : CardStore} {actor : AuthContext} {key : CardRequestKey}
  {requestHash : Digest} {now : Int} {res : CardResponse} {u : Unit}

lemma createRecord_ok (h : createRecord key requestHash now s = .ok (u, t)) :
    t.cards = s.cards := by
  simp only [createRecord, bind_ok, get_ok, rejectIf_ok, update_ok] at h
  obtain ⟨_, _, ⟨rfl, rfl⟩, _, _, ⟨-, rfl⟩, rfl⟩ := h
  rfl

lemma completeRecord_ok (h : completeRecord key res s = .ok (u, t)) : t.cards = s.cards := by
  simp only [completeRecord, update_ok] at h
  rw [h]

lemma insertCard_ok {card : IssuedCard} {id : Nat} (h : insertCard card s = .ok (id, t))
    (hactive : card.status = .ACTIVE) : id = s.cards.length ∧ t.cards = s.cards ++ [card] ∧
      ∀ d ∈ s.cards, d.SameCustomer card → d.status ≠ .ACTIVE := by
  simp only [insertCard, bind_ok, get_ok, rejectIf_ok, update_ok, pure_ok] at h
  obtain ⟨_, _, ⟨rfl, rfl⟩, _, _, ⟨-, rfl⟩, _, _, ⟨halone, rfl⟩, _, _, rfl, rfl, rfl⟩ := h
  refine ⟨rfl, rfl, fun d hd hsame hd_active => ?_⟩
  exact halone ⟨hactive, d, hd, hsame.1, hsame.2, hd_active⟩

lemma modifyCard_ok {id : Nat} {f : IssuedCard → IssuedCard} (h : modifyCard id f s = .ok (u, t)) :
    ∃ c, s.cards[id]? = some c ∧ t.cards = s.cards.set id (f c) ∧
      ((f c).status = .ACTIVE → NoOtherActive s.cards id c) := by
  simp only [modifyCard, bind_ok, get_ok, orFault_ok, rejectIf_ok, update_ok] at h
  obtain ⟨_, _, ⟨rfl, rfl⟩, c, _, ⟨hc, rfl⟩, _, _, ⟨halone, rfl⟩, _, _, ⟨-, rfl⟩, rfl⟩ := h
  refine ⟨c, hc, rfl, fun hactive j d hd hsame hd_active => ?_⟩
  by_contra hne
  refine halone ⟨hactive, (j, d), Table.mem_select.2 ⟨hd, ?_⟩, hne⟩
  simpa using ⟨hsame.1, hsame.2, hd_active⟩

lemma updateManyCard_ok {id : Nat} {tenantId : String} {status : CardStatus} {failed : Fault}
    {f : IssuedCard → IssuedCard} (h : updateManyCard id tenantId status failed f s = .ok (u, t)) :
    ∃ c, s.cards[id]? = some c ∧ c.tenantId = tenantId ∧ c.status = status ∧
      t.cards = s.cards.set id (f c) ∧ ((f c).status = .ACTIVE → NoOtherActive s.cards id c) := by
  simp only [updateManyCard, bind_ok, get_ok, orFault_ok] at h
  obtain ⟨_, _, ⟨rfl, rfl⟩, c, _, ⟨hc, rfl⟩, h⟩ := h
  obtain ⟨hrow, hcond⟩ := Option.filter_eq_some_iff.1 hc
  obtain ⟨hten, hst⟩ := of_decide_eq_true hcond
  obtain ⟨c', hc', ht, halone⟩ := modifyCard_ok h
  obtain rfl : c = c' := Option.some.inj (hrow.symm.trans hc')
  exact ⟨c, hrow, hten, hst, ht, halone⟩

lemma createTransaction_step {customerId serialNumber : String}
    (h : createTransaction actor customerId serialNumber key requestHash now s = .ok (res, t)) :
    CardStep s.cards t.cards := by
  simp only [createTransaction, bind_ok, pure_ok] at h
  obtain ⟨_, v, hv, id, w, hw, _, x, hx, -, rfl⟩ := h
  have hvs := createRecord_ok hv
  obtain ⟨-, hwv, halone⟩ := insertCard_ok hw rfl
  rw [completeRecord_ok hx, hwv, hvs]
  rw [hvs] at halone
  exact .issued rfl rfl halone

/-- The table after a replacement: the replaced row, linked to the card at the end. -/
lemma replaceTransaction_cards {cardId : Nat} {customerId serialNumber : String}
    (h : replaceTransaction actor cardId customerId serialNumber key requestHash now s =
      .ok (res, t)) :
    ∃ c, s.cards[cardId]? = some c ∧ c.tenantId = actor.tenantId ∧ c.status = .ACTIVE ∧
      res.id = s.cards.length ∧
      t.cards = s.cards.set cardId (linkedCard s.cards.length (replacedCard now c)) ++
        [newCard actor customerId serialNumber now] := by
  simp only [replaceTransaction, bind_ok, pure_ok] at h
  obtain ⟨_, v, hv, _, w, hw, id, x, hx, _, y, hy, _, z, hz, rfl, rfl⟩ := h
  have hvs := createRecord_ok hv
  obtain ⟨c, hrow, hten, hactive, hwv, -⟩ := updateManyCard_ok hw
  obtain ⟨hid, hxw, -⟩ := insertCard_ok hx rfl
  obtain ⟨c', hrow', hyx, -⟩ := modifyCard_ok hy
  rw [hvs] at hrow hwv
  have hlt : cardId < s.cards.length := Table.lt_of_getElem? hrow
  have hlen : w.cards.length = s.cards.length := by rw [hwv, List.length_set]
  obtain rfl : replacedCard now c = c' := by
    have hold : (s.cards.set cardId (replacedCard now c))[cardId]? = some (replacedCard now c) :=
      List.getElem?_set_self hlt
    rw [hxw, hwv, Table.getElem?_append hold] at hrow'
    exact Option.some.inj hrow'
  refine ⟨c, hrow, hten, hactive, hid.trans hlen, ?_⟩
  rw [completeRecord_ok hz, hyx, hxw, hid, hlen, hwv,
    List.set_append_left _ _ (by rw [List.length_set]; exact hlt), List.set_set]

lemma replaceTransaction_step {cardId : Nat} {customerId serialNumber : String}
    (hcustomer : ∃ c, s.cards[cardId]? = some c ∧ c.customerId = customerId)
    (h : replaceTransaction actor cardId customerId serialNumber key requestHash now s =
      .ok (res, t)) : CardStep s.cards t.cards := by
  obtain ⟨c, hrow, hten, hactive, -, ht⟩ := replaceTransaction_cards h
  have hsame : (newCard actor customerId serialNumber now).SameCustomer c := by
    obtain ⟨c₀, hc₀, hcustomer⟩ := hcustomer
    obtain rfl : c = c₀ := Option.some.inj (hrow.symm.trans hc₀)
    exact ⟨hten.symm, hcustomer.symm⟩
  rw [ht]
  exact .replaced hrow hactive ⟨rfl, rfl⟩ rfl rfl hsame ⟨rfl, by simp [newCard]⟩

lemma updateTransaction_step {cardId : Nat} {found status : CardStatus}
    (hfound : found ≠ .REPLACED) (hstatus : status ≠ .REPLACED)
    (h : updateTransaction actor cardId found status key requestHash now s = .ok (res, t)) :
    CardStep s.cards t.cards := by
  simp only [updateTransaction, bind_ok, get_ok, orFault_ok, pure_ok] at h
  obtain ⟨_, v, hv, _, w, hw, _, _, ⟨rfl, rfl⟩, _, _, ⟨-, rfl⟩, _, x, hx, -, rfl⟩ := h
  have hvs := createRecord_ok hv
  obtain ⟨c, hrow, -, hst, hwv, halone⟩ := updateManyCard_ok hw
  rw [hvs] at hrow hwv halone
  rw [completeRecord_ok hx, hwv]
  exact .updated hrow (hst ▸ hfound) ⟨⟨rfl, rfl⟩, rfl⟩ hstatus halone

/-! ### What requests do -/

open Process

/-- A process whose statements let the cards evolve. -/
abbrev Evolving {α : Type} (I : CardStore → Prop) (p : Handling α) : Prop :=
  Within CardStore.Evolves (fun _ _ => True) I p

variable {α β : Type}

lemma evolving_read {f : CardSurroundings → CardStore → β} {next : β → Handling α}
    {I : CardStore → Prop} {J : β → CardStore → Prop} (hI : ∀ s t, I s → s.Evolves t → I t)
    (hread : ∀ env s, I s → J (f env s) s) (hnext : ∀ b, Evolving (J b) (next b)) :
    Evolving I (read f >>= next) := by
  unfold read statement
  rw [act_bind]
  exact within_read CardStore.Evolves.refl hI (fun s env hs _ => hread env s hs) hnext

lemma evolving_commit {m : CardSurroundings → CardTx α} {I : CardStore → Prop}
    (hI : ∀ s t, I s → s.Evolves t → I t)
    (hm : ∀ env s a t, I s → m env s = .ok (a, t) → CardStep s.cards t.cards) :
    Evolving I (commit m) := by
  refine within_attempt hI fun s env hs _ => ?_
  cases hres : m env s with
  | error e => exact .refl s
  | ok r => exact .of_step (hm env s r.1 r.2 hs hres)

lemma evolving_reserve {next : Unit → Handling α} {I : CardStore → Prop}
    (hI : ∀ s t, I s → s.Evolves t → I t) (hnext : Evolving I (next ())) :
    Evolving I (reserve key >>= next) := by
  unfold reserve
  unfold read statement
  rw [act_bind, act_bind]
  refine within_read (J := fun _ => I) CardStore.Evolves.refl hI (fun _ _ hs _ => hs)
    fun taken => ?_
  cases taken with
  | true => exact within_fail
  | false => exact hnext

lemma stable_true : ∀ s t : CardStore, True → s.Evolves t → True := fun _ _ _ _ => trivial

lemma evolving_replayOr {existing : Option (IdempotencyRecord CardResponse)}
    {next : Handling CardResponse} (h : Evolving (fun _ => True) next) :
    Evolving (fun _ => True) (replayOr existing next) := by
  unfold replayOr
  split
  · exact h
  · split
    · exact within_done
    · exact within_fail

lemma evolving_request {next : Handling CardResponse} (h : Evolving (fun _ => True) next) :
    Evolving (fun _ => True) (do
      let existing ← findCardIdempotency key requestHash
      replayOr existing next) := by
  unfold findCardIdempotency statement
  rw [act_bind, act_bind]
  refine within_act (J := fun _ _ => True) stable_true (fun s env _ _ => ⟨.of_cards rfl, trivial⟩)
    fun existing => ?_
  cases existing with
  | none =>
      change Evolving _ (replayOr none next)
      exact evolving_replayOr h
  | some r =>
      by_cases hhash : r.requestHash = requestHash
      · simp only [done_bind, if_pos hhash]
        exact evolving_replayOr h
      · simp only [done_bind, if_neg hhash, fail_bind]
        exact within_fail

lemma evolving_checked {x : Except Fault β} {next : β → Handling α}
    (h : ∀ b, Evolving (fun _ => True) (next b)) :
    Evolving (fun _ => True) (ofExcept x >>= next) := by
  cases x with
  | ok b => exact h b
  | error e => exact within_fail

theorem evolving_createCard (customerId serialNumber : String) (idempotencyKey : Option String) :
    Evolving (fun _ => True) (createCard rt actor customerId serialNumber idempotencyKey) := by
  unfold createCard
  refine evolving_checked fun normalizedKey => evolving_checked fun serial => evolving_request ?_
  refine evolving_read (J := fun _ _ => True) stable_true (fun _ _ _ => trivial) fun customer => ?_
  split
  · exact within_fail
  refine evolving_read (J := fun _ _ => True) stable_true (fun _ _ _ => trivial) fun taken => ?_
  split
  · exact within_fail
  refine evolving_read (J := fun _ _ => True) stable_true (fun _ _ _ => trivial) fun active => ?_
  split
  · exact within_fail
  · exact evolving_commit stable_true fun env s a t _ h => createTransaction_step h

lemma stable_customer {cardId : Nat} {customerId : String} (s t : CardStore)
    (h : ∃ c, s.cards[cardId]? = some c ∧ c.customerId = customerId) (hst : s.Evolves t) :
    ∃ c, t.cards[cardId]? = some c ∧ c.customerId = customerId := by
  obtain ⟨c, hc, hcustomer⟩ := h
  obtain ⟨c', hc', hk⟩ := hst.kept hc
  exact ⟨c', hc', hk.sameCustomer.2.trans hcustomer⟩

theorem evolving_replaceCard (cardId : Nat) (serialNumber : String)
    (idempotencyKey : Option String) :
    Evolving (fun _ => True) (replaceCard rt actor cardId serialNumber idempotencyKey) := by
  unfold replaceCard
  refine evolving_checked fun normalizedKey => evolving_checked fun serial => evolving_request ?_
  -- the customer of the card found is what the transaction relies on
  refine evolving_read (J := fun current s => ∀ c, current = some c →
    ∃ c', s.cards[cardId]? = some c' ∧ c'.customerId = c.customerId) stable_true ?_
      fun current => ?_
  · intro env s _ c hc
    exact ⟨c, (Option.filter_eq_some_iff.1 hc).1, rfl⟩
  cases current with
  | none => exact within_fail
  | some current =>
      simp only
      split
      · exact within_fail
      refine Within.mono (I := fun s => ∃ c, s.cards[cardId]? = some c ∧
        c.customerId = current.customerId) ?_ fun s h => h current rfl
      refine evolving_read (J := fun _ s => ∃ c, s.cards[cardId]? = some c ∧
        c.customerId = current.customerId) stable_customer (fun _ _ hs => hs) fun customer => ?_
      split
      · exact within_fail
      refine evolving_reserve stable_customer ?_
      refine evolving_read (J := fun _ s => ∃ c, s.cards[cardId]? = some c ∧
        c.customerId = current.customerId) stable_customer (fun _ _ hs => hs) fun taken => ?_
      split
      · exact within_fail
      · exact evolving_commit stable_customer fun env s a t hs h => replaceTransaction_step hs h

lemma requestedStatus_open {status : String} {requested : CardStatus}
    (h : requestedStatus status = some requested) : requested ≠ .REPLACED := by
  unfold requestedStatus at h
  split at h
  · obtain rfl := Option.some.inj h
    simp
  · split at h
    · obtain rfl := Option.some.inj h
      simp
    · cases h

theorem evolving_updateStatus (cardId : Nat) (status : String) (idempotencyKey : Option String) :
    Evolving (fun _ => True) (updateStatus rt actor cardId status idempotencyKey) := by
  unfold updateStatus
  refine evolving_checked fun normalizedKey => evolving_request ?_
  cases hreq : requestedStatus status with
  | none => exact within_fail
  | some requested =>
      have hrequested := requestedStatus_open hreq
      refine evolving_read (J := fun _ _ => True) stable_true (fun _ _ _ => trivial) fun found => ?_
      cases found with
      | none => exact within_fail
      | some found =>
          obtain ⟨card, customer⟩ := found
          simp only
          split
          · exact within_fail
          rename_i hopen
          split
          · exact within_fail
          refine evolving_reserve stable_true ?_
          refine evolving_read (J := fun _ _ => True) stable_true (fun _ _ _ => trivial)
            fun active => ?_
          split
          · exact within_fail
          · exact evolving_commit stable_true fun env s a t _ h =>
              updateTransaction_step hopen hrequested h

end CardsService

lemma CardRequest.evolving (rt : Runtime) (request : CardRequest) :
    CardsService.Evolving (fun _ => True) (request.program rt) := by
  cases request with
  | createCard => exact CardsService.evolving_createCard _ _ _
  | replaceCard => exact CardsService.evolving_replaceCard _ _ _
  | updateStatus => exact CardsService.evolving_updateStatus _ _ _

/-! ### Every run -/

/-- What is promised of a table of cards. -/
structure CardLifecycle (cards : Table IssuedCard) : Prop where
  oneActive : ∀ {i j : Nat} {c d : IssuedCard}, cards[i]? = some c → cards[j]? = some d →
    c.SameCustomer d → c.status = .ACTIVE → d.status = .ACTIVE → i = j
  replacement : ∀ {i : Nat} {c : IssuedCard}, cards[i]? = some c → c.status = .REPLACED →
    ∃! j, successor cards i = some j ∧ ∃ d, cards[j]? = some d ∧ d.SameCustomer c
  distinct : ∀ {i j k : Nat}, successor cards i = some k → successor cards j = some k → i = j
  finite : WellFounded fun j i => successor cards i = some j
  ends : ∀ {i : Nat} {c : IssuedCard}, cards[i]? = some c → ∃ j d,
    Links.Reaches (successor cards) i j ∧ cards[j]? = some d ∧
      d.SameCustomer c ∧ d.status ≠ .REPLACED

lemma successor_eq_some : successor cards i = some j ↔
    ∃ c, cards[i]? = some c ∧ c.replacedByCardId = some j := by
  simp [successor, Option.bind_eq_some_iff]

lemma CardsSound.rising (h : CardsSound cards) :
    Links.Rising (successor cards) cards.length := by
  intro i j hij
  obtain ⟨c, hc, hlink⟩ := successor_eq_some.1 hij
  exact ⟨(h.linked hc hlink).1, h.link_lt hc hlink⟩

lemma CardsSound.reaches (h : CardsSound cards) (hc : cards[i]? = some c)
    (hij : Links.Reaches (successor cards) i j) : ∃ d, cards[j]? = some d ∧ d.SameCustomer c := by
  induction hij with
  | refl => exact ⟨c, hc, ⟨rfl, rfl⟩⟩
  | tail _ hlast ih =>
      obtain ⟨d, hd, hdc⟩ := ih
      obtain ⟨d', hd', hlink⟩ := successor_eq_some.1 hlast
      obtain rfl : d = d' := Option.some.inj (hd.symm.trans hd')
      obtain ⟨-, e, he, hde⟩ := h.linked hd hlink
      exact ⟨e, he, hde.symm.trans hdc⟩

lemma CardsSound.lifecycle (h : CardsSound cards) : CardLifecycle cards where
  oneActive := h.oneActive
  replacement {i c} hc hst := by
    obtain ⟨j, hlink⟩ := Option.ne_none_iff_exists'.1 ((h.replaced hc).1 hst)
    obtain ⟨-, d, hd, hsame⟩ := h.linked hc hlink
    have hij : successor cards i = some j := successor_eq_some.2 ⟨c, hc, hlink⟩
    refine ⟨j, ⟨hij, d, hd, hsame.symm⟩, fun k hk => ?_⟩
    exact Option.some.inj (hk.1.symm.trans hij)
  distinct {i j k} hi hj := by
    obtain ⟨c, hc, hck⟩ := successor_eq_some.1 hi
    obtain ⟨d, hd, hdk⟩ := successor_eq_some.1 hj
    exact h.distinct hc hd hck hdk
  finite := h.rising.wellFounded
  ends {i c} hc := by
    obtain ⟨j, hij, hend⟩ := h.rising.ends i
    obtain ⟨d, hd, hsame⟩ := h.reaches hc hij
    refine ⟨j, d, hij, hd, hsame, fun hst => ?_⟩
    obtain ⟨k, hk⟩ := Option.ne_none_iff_exists'.1 ((h.replaced hd).1 hst)
    rw [successor_eq_some.2 ⟨d, hd, hk⟩] at hend
    cases hend

/-- What a run leaves, and what more of it leaves of a replaced card. -/
structure CardRun (rt : Runtime) (w : CardRequests) : Prop where
  lifecycle : CardLifecycle w.state.cards
  terminal : ∀ {w' : CardRequests} {i : Nat} {c : IssuedCard},
    Pool.Steps (CardRequest.program rt) w w' → w.state.cards[i]? = some c → c.status = .REPLACED →
    ∃ c', w'.state.cards[i]? = some c' ∧ c'.status = .REPLACED ∧
      c'.replacedByCardId = c.replacedByCardId

lemma cards_evolve {rt : Runtime} {w u : CardRequests}
    (hrun : Pool.Steps (CardRequest.program rt) (Pool.initial noCards) w)
    (hmore : Pool.Steps (CardRequest.program rt) w u) : w.state.Evolves u.state := by
  have hevolves : ∀ {u v : CardRequests},
      u.Under (fun _ _ => Process.Contract.within CardStore.Evolves fun _ _ => True) () →
      Pool.Steps (CardRequest.program rt) u v →
      v.Under (fun _ _ => Process.Contract.within CardStore.Evolves fun _ _ => True) () ∧
        u.state.Evolves v.state := by
    intro u v hu huv
    exact Pool.run_within CardStore.Evolves.refl (fun _ _ _ => CardStore.Evolves.trans)
      (CardRequest.evolving rt) (fun _ _ _ _ => trivial) hu huv
  obtain ⟨hunder, -⟩ := hevolves (Pool.initial_under noCards) hrun
  exact (hevolves hunder hmore).2

/-- **The lifecycle of cards**, in every run of card requests side by side. -/
theorem card_lifecycle {rt : Runtime} {w : CardRequests}
    (hrun : Pool.Steps (CardRequest.program rt) (Pool.initial noCards) w) : CardRun rt w := by
  have hw : noCards.Evolves w.state := cards_evolve (.refl _) hrun
  refine ⟨(hw.sound .noCards).lifecycle, fun {w' i c} hmore hc hst => ?_⟩
  obtain ⟨c', hc', hk⟩ := (cards_evolve hrun hmore).kept hc
  exact ⟨c', hc', hk.terminal hst⟩

namespace Shop

/-- The registry's customers, at night. -/
def cardDesk : CardSurroundings := ⟨night, registry.customers⟩

/-- A card that is issued and replaced while another request blocks it. -/
def cardEvents : List (PoolEvent CardRequest CardSurroundings) :=
  [.start (.createCard supervisor "customer" "CARD-1" (some "k1"))] ++
    List.replicate 5 (.advance 0 cardDesk) ++
  [.start (.replaceCard supervisor 0 "CARD-2" (some "k2")),
    .start (.updateStatus supervisor 0 "BLOCKED" (some "k3"))] ++
  List.replicate 3 (.advance 2 cardDesk) ++ List.replicate 6 (.advance 1 cardDesk) ++
  List.replicate 2 (.advance 2 cardDesk)

end Shop

/-- A card replaced once, with a successor. -/
theorem card_lifecycle_shop : ∃ w : CardRequests,
    w.state.cards.map (·.status) = [.REPLACED, .ACTIVE] ∧ CardRun Shop.runtime w := by
  have hmap : ((Pool.initial noCards : CardRequests).runChecked (CardRequest.program Shop.runtime)
      (fun _ _ => true) Shop.cardEvents).map (fun w => w.state.cards.map (·.status)) =
      some [.REPLACED, .ACTIVE] := by decide +kernel
  obtain ⟨w, hw, hstatus⟩ := Option.map_eq_some_iff.1 hmap
  exact ⟨w, hstatus, card_lifecycle (.of_runChecked (fun _ _ _ => trivial) hw)⟩

end ShopcityLoyalty
