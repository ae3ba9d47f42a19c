import Mathlib.Tactic

/-!
Transaction bodies: computations that read and write a state and may fail.

A body that fails leaves no state, which is what a rolled back transaction leaves. The
lemmas say when a body built from smaller ones succeeds, and with which state; the last
section packages the argument that each part of a body keeps a transitive relation between
the states before and after it, and fails in certain ways only.
-/

/-! ### Lists related element by element -/

namespace List.Forall₂

variable {α β : Type} {R : α → β → Prop} {l : List α} {m : List β}

lemma exists_left_of_mem (h : List.Forall₂ R l m) {b : β} (hb : b ∈ m) : ∃ a ∈ l, R a b := by
  induction h with
  | nil => simp at hb
  | cons h _ ih =>
      rcases List.mem_cons.1 hb with rfl | hb
      · exact ⟨_, List.mem_cons_self, h⟩
      · obtain ⟨a, ha, hr⟩ := ih hb
        exact ⟨a, .tail _ ha, hr⟩

lemma exists_right_of_mem (h : List.Forall₂ R l m) {a : α} (ha : a ∈ l) : ∃ b ∈ m, R a b :=
  h.flip.exists_left_of_mem ha

lemma map_eq_map {γ : Type} {f : α → γ} {g : β → γ} (h : List.Forall₂ R l m)
    (hfg : ∀ a b, R a b → f a = g b) : l.map f = m.map g := by
  induction h with
  | nil => rfl
  | cons h _ ih => rw [List.map_cons, List.map_cons, hfg _ _ h, ih]

end List.Forall₂

namespace ShopcityLoyalty

/-- A transaction body over states `σ`, failing with `ε`. -/
def Txn (σ ε α : Type) := σ → Except ε (α × σ)

namespace Txn

variable {σ ε α β : Type}

instance : Monad (Txn σ ε) where
  pure a := fun s => .ok (a, s)
  bind m f := fun s => match m s with
    | .ok (a, t) => f a t
    | .error e => .error e

/-- Read the state. -/
def get : Txn σ ε σ := fun s => .ok (s, s)

/-- Replace the state by a function of it. -/
def update (f : σ → σ) : Txn σ ε Unit := fun s => .ok ((), f s)

/-- Roll back. -/
def fault (e : ε) : Txn σ ε α := fun _ => .error e

def rejectIf (c : Prop) [Decidable c] (e : ε) : Txn σ ε Unit :=
  if c then fault e else pure ()

/-- A part of a body that runs under a condition. -/
def onlyIf (c : Prop) [Decidable c] (m : Txn σ ε Unit) : Txn σ ε Unit := if c then m else pure ()

/-- The value found, or a rollback. -/
def orFault (o : Option α) (e : ε) : Txn σ ε α :=
  match o with
  | some a => pure a
  | none => fault e

/-- Run a body for each element, in order. -/
def each (f : α → Txn σ ε Unit) : List α → Txn σ ε Unit
  | [] => pure ()
  | a :: r => f a >>= fun _ => each f r

/-- Run a body for each element, in order, collecting the results. -/
def collect (f : α → Txn σ ε β) : List α → Txn σ ε (List β)
  | [] => pure []
  | a :: r => f a >>= fun b => collect f r >>= fun bs => pure (b :: bs)

/-! ### When a body succeeds -/

@[simp] lemma pure_ok {a b : α} {s t : σ} :
    (pure a : Txn σ ε α) s = .ok (b, t) ↔ b = a ∧ t = s := by
  simp [pure, eq_comm]

@[simp] lemma bind_ok {m : Txn σ ε α} {f : α → Txn σ ε β} {b : β} {s t : σ} :
    (m >>= f) s = .ok (b, t) ↔ ∃ a s', m s = .ok (a, s') ∧ f a s' = .ok (b, t) := by
  change (match m s with
    | .ok (a, t) => f a t
    | .error e => .error e) = .ok (b, t) ↔ _
  rcases hm : m s with e | ⟨a, s'⟩
  · simp
  · constructor
    · intro h; exact ⟨a, s', rfl, h⟩
    · rintro ⟨a', s'', h, h'⟩
      simp only [Except.ok.injEq, Prod.mk.injEq] at h
      obtain ⟨rfl, rfl⟩ := h
      exact h'

lemma bind_of_ok {m : Txn σ ε α} {f : α → Txn σ ε β} {a : α} {s s' : σ} (h : m s = .ok (a, s')) :
    (m >>= f) s = f a s' := by
  change (match m s with
    | .ok (a, t) => f a t
    | .error e => .error e) = _
  rw [h]

lemma bind_of_error {m : Txn σ ε α} {f : α → Txn σ ε β} {e : ε} {s : σ} (h : m s = .error e) :
    (m >>= f) s = .error e := by
  change (match m s with
    | .ok (a, t) => f a t
    | .error e => .error e) = _
  rw [h]

lemma rejectIf_of {c : Prop} [Decidable c] {e : ε} {s : σ} (h : c) :
    (rejectIf c e : Txn σ ε Unit) s = .error e := by
  rw [rejectIf, if_pos h]
  rfl

@[simp] lemma get_ok {a s t : σ} : (get : Txn σ ε σ) s = .ok (a, t) ↔ s = a ∧ s = t := by
  simp [get, eq_comm]

@[simp] lemma update_ok {f : σ → σ} {u : Unit} {s t : σ} :
    (update f : Txn σ ε Unit) s = .ok (u, t) ↔ t = f s := by
  simp [update, eq_comm]

@[simp] lemma fault_ok {e : ε} {a : α} {s t : σ} :
    (fault e : Txn σ ε α) s = .ok (a, t) ↔ False := by
  simp [fault]

@[simp] lemma rejectIf_ok {c : Prop} [Decidable c] {e : ε} {u : Unit} {s t : σ} :
    (rejectIf c e : Txn σ ε Unit) s = .ok (u, t) ↔ ¬ c ∧ s = t := by
  rw [@eq_comm _ s]
  unfold rejectIf; split <;> simp [*]

@[simp] lemma orFault_ok {o : Option α} {e : ε} {a : α} {s t : σ} :
    (orFault o e : Txn σ ε α) s = .ok (a, t) ↔ o = some a ∧ s = t := by
  cases o with
  | none => simp [orFault]
  | some b => rw [orFault, pure_ok, Option.some.injEq, eq_comm, @eq_comm _ t]

@[simp] lemma onlyIf_ok {c : Prop} [Decidable c] {m : Txn σ ε Unit} {u : Unit} {s t : σ} :
    onlyIf c m s = .ok (u, t) ↔ (c ∧ m s = .ok (u, t)) ∨ (¬ c ∧ s = t) := by
  rw [@eq_comm _ s]
  unfold onlyIf; split <;> simp [*]

@[simp] lemma each_nil_ok {f : α → Txn σ ε Unit} {u : Unit} {s t : σ} :
    each f [] s = .ok (u, t) ↔ t = s := by
  simp [each]

@[simp] lemma each_cons_ok {f : α → Txn σ ε Unit} {a : α} {r : List α} {u : Unit} {s t : σ} :
    each f (a :: r) s = .ok (u, t) ↔ ∃ v s', f a s = .ok (v, s') ∧ each f r s' = .ok (u, t) := by
  simp [each]

@[simp] lemma collect_nil_ok {f : α → Txn σ ε β} {bs : List β} {s t : σ} :
    collect f [] s = .ok (bs, t) ↔ bs = [] ∧ t = s := by
  simp [collect]

@[simp] lemma collect_cons_ok {f : α → Txn σ ε β} {a : α} {r : List α} {bs : List β} {s t : σ} :
    collect f (a :: r) s = .ok (bs, t) ↔
      ∃ b s', f a s = .ok (b, s') ∧ ∃ bs', collect f r s' = .ok (bs', t) ∧ bs = b :: bs' := by
  simp only [collect, bind_ok, pure_ok]
  constructor
  · rintro ⟨b, s', h, bs', t', h', rfl, rfl⟩; exact ⟨b, s', h, bs', h', rfl⟩
  · rintro ⟨b, s', h, bs', h', rfl⟩; exact ⟨b, s', h, bs', t, h', rfl, rfl⟩

lemma collect_ok_of_read {f : α → Txn σ ε β} {s t : σ} {l : List α} {bs : List β}
    (hf : ∀ a b t, f a s = .ok (b, t) → t = s) (h : collect f l s = .ok (bs, t)) :
    t = s ∧ List.Forall₂ (fun a b => f a s = .ok (b, s)) l bs := by
  induction l generalizing bs with
  | nil =>
      obtain ⟨rfl, rfl⟩ := collect_nil_ok.1 h
      exact ⟨rfl, .nil⟩
  | cons a r ih =>
      obtain ⟨b, s', hb, bs', hr, rfl⟩ := collect_cons_ok.1 h
      obtain rfl := hf a b s' hb
      obtain ⟨rfl, hs⟩ := ih hr
      exact ⟨rfl, .cons hb hs⟩

lemma collect_of_ok {f : α → Txn σ ε β} {g : α → β} {s : σ} {l : List α}
    (h : ∀ a ∈ l, f a s = .ok (g a, s)) : collect f l s = .ok (l.map g, s) := by
  induction l with
  | nil => rfl
  | cons a r ih =>
      have hrest := ih fun b hb => h b (.tail _ hb)
      exact collect_cons_ok.2 ⟨g a, s, h a List.mem_cons_self, r.map g, hrest, rfl⟩

/-! ### Bodies that do not look at the state -/

/-- The body returns or fails alike in every state, and leaves it as it is. -/
def Blind (m : Txn σ ε α) : Prop := ∃ x : Except ε α, ∀ s, m s = x.map fun a => (a, s)

lemma blind_pure (a : α) : Blind (pure a : Txn σ ε α) := ⟨.ok a, fun _ => rfl⟩

lemma blind_rejectIf (c : Prop) [Decidable c] (e : ε) : Blind (rejectIf c e : Txn σ ε Unit) := by
  by_cases hc : c
  · exact ⟨.error e, fun _ => rejectIf_of hc⟩
  · exact ⟨.ok (), fun _ => rejectIf_ok.2 ⟨hc, rfl⟩⟩

lemma Blind.bind {m : Txn σ ε α} {f : α → Txn σ ε β} (hm : Blind m) (hf : ∀ a, Blind (f a)) :
    Blind (m >>= f) := by
  obtain ⟨x, hx⟩ := hm
  cases x with
  | error e => exact ⟨.error e, fun s => bind_of_error (hx s)⟩
  | ok a =>
      obtain ⟨y, hy⟩ := hf a
      exact ⟨y, fun s => (bind_of_ok (hx s)).trans (hy s)⟩

/-! ### What a body leaves, and how it may fail -/

/-- Every run of the body ends in a related state or fails in an admitted way. -/
def Within (R : σ → σ → Prop) (E : ε → Prop) (m : Txn σ ε α) : Prop :=
  ∀ s, match m s with
    | .ok (_, t) => R s t
    | .error e => E e

section Within

variable {R : σ → σ → Prop} {E : ε → Prop} {m : Txn σ ε α} {f : α → Txn σ ε β}

lemma Within.ok (h : Within R E m) {s t : σ} {a : α} (hok : m s = .ok (a, t)) : R s t := by
  have hs := h s
  rw [hok] at hs
  exact hs

lemma Within.error (h : Within R E m) {s : σ} {e : ε} (herr : m s = .error e) : E e := by
  have hs := h s
  rw [herr] at hs
  exact hs

lemma within_update {f : σ → σ} (h : ∀ s, R s (f s)) : Within R E (update f) := h

lemma within_fault {e : ε} (h : E e) : Within R E (fault e : Txn σ ε α) := fun _ => h

lemma within_pure [Std.Refl R] (a : α) : Within R E (pure a : Txn σ ε α) := fun s => Std.Refl.refl s

lemma within_get [Std.Refl R] : Within R E (get : Txn σ ε σ) := fun s => Std.Refl.refl s

lemma Within.bind [IsTrans σ R] (hm : Within R E m) (hf : ∀ a, Within R E (f a)) :
    Within R E (m >>= f) := by
  intro s
  cases hs : m s with
  | error e =>
      rw [bind_of_error hs]
      exact hm.error hs
  | ok r =>
      obtain ⟨a, t⟩ := r
      rw [bind_of_ok hs]
      cases hft : f a t with
      | error e => exact (hf a).error hft
      | ok r =>
          obtain ⟨b, u⟩ := r
          exact IsTrans.trans s t u (hm.ok hs) ((hf a).ok hft)

lemma within_rejectIf [Std.Refl R] {c : Prop} [Decidable c] {e : ε} (h : c → E e) :
    Within R E (rejectIf c e) := by
  unfold rejectIf
  split
  · exact within_fault (h ‹_›)
  · exact within_pure ()

lemma within_orFault [Std.Refl R] {o : Option α} {e : ε} (h : o = none → E e) :
    Within R E (orFault o e) := by
  cases o with
  | none => exact within_fault (h rfl)
  | some a => exact within_pure a

lemma within_orFault_bind {o : Option α} {e : ε} (hnone : o = none → E e)
    (hsome : ∀ a, o = some a → Within R E (f a)) : Within R E (orFault o e >>= f) := by
  cases o with
  | none => exact fun _ => hnone rfl
  | some a => exact hsome a rfl

lemma Within.onlyIf [Std.Refl R] {c : Prop} [Decidable c] {m : Txn σ ε Unit} (hm : Within R E m) :
    Within R E (onlyIf c m) := by
  unfold Txn.onlyIf
  split
  · exact hm
  · exact within_pure ()

lemma Within.ite {c : Prop} [Decidable c] {k : Txn σ ε α} (hm : c → Within R E m)
    (hk : ¬ c → Within R E k) : Within R E (if c then m else k) := by
  split
  · exact hm ‹_›
  · exact hk ‹_›

lemma Within.each [Std.Refl R] [IsTrans σ R] {f : α → Txn σ ε Unit} (hf : ∀ a, Within R E (f a))
    (l : List α) : Within R E (each f l) := by
  induction l with
  | nil => exact within_pure ()
  | cons a r ih => exact (hf a).bind fun _ => ih

lemma Within.collect [Std.Refl R] [IsTrans σ R] (hf : ∀ a, Within R E (f a)) (l : List α) :
    Within R E (collect f l) := by
  induction l with
  | nil => exact within_pure []
  | cons a r ih => exact (hf a).bind fun b => ih.bind fun bs => within_pure (b :: bs)

end Within

end Txn

end ShopcityLoyalty
