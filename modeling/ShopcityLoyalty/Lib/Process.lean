import Mathlib.Tactic
import ShopcityLoyalty.Lib.Runs

/-!
Processes that share a state: each runs statements one at a time, and the statements of
different processes interleave in any order.

A statement is atomic. It reads what its environment supplies there (a clock reading, the
answer of a service, a failure) and the shared state, and returns a value that decides how
the process goes on. The last sections give the rely-guarantee rules: a process meets a
contract when each of its statements does what the contract guarantees, whatever the other
processes do between its statements within what it relies on; and in a pool whose
processes meet contracts that fit together, every run keeps what each statement keeps.
Contracts speak about the shared state and an auxiliary one, which no process reads.
-/

namespace ShopcityLoyalty

/-- A process with result `α` that may fail with `ε`. -/
inductive Process (ι σ ε α : Type) : Type 1
  | done (a : α)
  | fail (e : ε)
  | act {β : Type} (statement : ι → σ → β × σ) (next : β → Process ι σ ε α)

namespace Process

variable {ι σ ε α β : Type}

def bind (p : Process ι σ ε α) (f : α → Process ι σ ε β) : Process ι σ ε β :=
  match p with
  | done a => f a
  | fail e => fail e
  | act st next => act st fun b => (next b).bind f

/-- Go on with the handler where the process fails. -/
def catching (p : Process ι σ ε α) (handler : ε → Process ι σ ε α) : Process ι σ ε α :=
  match p with
  | done a => done a
  | fail e => handler e
  | act st next => act st fun b => (next b).catching handler

instance : Monad (Process ι σ ε) where
  pure := done
  bind := bind

@[simp] lemma pure_eq (a : α) : (pure a : Process ι σ ε α) = done a := rfl

@[simp] lemma done_bind (a : α) (f : α → Process ι σ ε β) : (done a >>= f) = f a := rfl

@[simp] lemma fail_bind (e : ε) (f : α → Process ι σ ε β) : (fail e >>= f) = fail e := rfl

@[simp] lemma act_bind {γ : Type} (st : ι → σ → γ × σ) (next : γ → Process ι σ ε α)
    (f : α → Process ι σ ε β) : (act st next >>= f) = act st fun c => next c >>= f := rfl

/-- One statement. -/
def statement (st : ι → σ → α × σ) : Process ι σ ε α := act st done

/-- One statement that may fail. -/
def attempt (st : ι → σ → Except ε α × σ) : Process ι σ ε α :=
  act st fun
    | .ok a => done a
    | .error e => fail e

/-- Run a process for each element, in order. -/
def each (f : α → Process ι σ ε Unit) : List α → Process ι σ ε Unit
  | [] => done ()
  | a :: r => f a >>= fun _ => each f r

/-- Run a process for each element, in order, collecting the results. -/
def collect (f : α → Process ι σ ε β) : List α → Process ι σ ε (List β)
  | [] => done []
  | a :: r => f a >>= fun b => collect f r >>= fun bs => done (b :: bs)

/-- There are statements left. -/
def Running : Process ι σ ε α → Prop
  | act _ _ => True
  | _ => False

instance : (p : Process ι σ ε α) → Decidable p.Running
  | act _ _ => .isTrue trivial
  | done _ => .isFalse id
  | fail _ => .isFalse id

end Process

/-! ### Pools of processes -/

/-- The shared state and the processes started so far, each under its name; a crashed one is
gone. The number of a process is its position. -/
structure Pool (κ ι σ ε α : Type) where
  state : σ
  tasks : List (κ × Option (Process ι σ ε α))

inductive PoolEvent (κ ι : Type)
  | start (name : κ)
  | advance (number : Nat) (input : ι)
  | crash (number : Nat)

namespace Pool

variable {κ ι σ ε α : Type}

def initial (s : σ) : Pool κ ι σ ε α := ⟨s, []⟩

/-- A process with statements left, under its number and name. -/
def Active (w : Pool κ ι σ ε α) (n : Nat) (k : κ) : Prop :=
  ∃ p, w.tasks[n]? = some (k, some p) ∧ p.Running

/-- One step of the pool, where it can be taken. -/
def step (program : κ → Process ι σ ε α) (w : Pool κ ι σ ε α) :
    PoolEvent κ ι → Option (Pool κ ι σ ε α)
  | .start k => some { w with tasks := w.tasks ++ [(k, some (program k))] }
  | .advance n i =>
      match w.tasks[n]? with
      | some (k, some (.act st next)) =>
          some { state := (st i w.state).2
                 tasks := w.tasks.set n (k, some (next (st i w.state).1)) }
      | _ => none
  | .crash n =>
      match w.tasks[n]? with
      | some (k, some _) => some { w with tasks := w.tasks.set n (k, none) }
      | _ => none

/-- Steps one after another, each checked where it is taken. -/
def runChecked (program : κ → Process ι σ ε α) (check : Pool κ ι σ ε α → PoolEvent κ ι → Bool)
    (w : Pool κ ι σ ε α) (events : List (PoolEvent κ ι)) : Option (Pool κ ι σ ε α) :=
  events.foldlM (fun u event => if check u event then u.step program event else none) w

/-- Any number of steps under a condition. -/
abbrev StepsUnder (program : κ → Process ι σ ε α) (P : Pool κ ι σ ε α → PoolEvent κ ι → Prop) :
    Pool κ ι σ ε α → Pool κ ι σ ε α → Prop :=
  Runs (fun event w w' => w.step program event = some w') P

abbrev Steps (program : κ → Process ι σ ε α) : Pool κ ι σ ε α → Pool κ ι σ ε α → Prop :=
  StepsUnder program fun _ _ => True

variable {program : κ → Process ι σ ε α} {w w' : Pool κ ι σ ε α}

lemma StepsUnder.of_runChecked {P : Pool κ ι σ ε α → PoolEvent κ ι → Prop}
    {check : Pool κ ι σ ε α → PoolEvent κ ι → Bool} (hcheck : ∀ u e, check u e → P u e)
    {events : List (PoolEvent κ ι)} (h : w.runChecked program check events = some w') :
    StepsUnder program P w w' :=
  Runs.of_steps hcheck h

/-- A step among given ones, between those before it and those after it. -/
lemma runChecked_split {check : Pool κ ι σ ε α → PoolEvent κ ι → Bool}
    {events more : List (PoolEvent κ ι)} {event : PoolEvent κ ι}
    (h : w.runChecked program check (events ++ event :: more) = some w') :
    ∃ u u', w.runChecked program check events = some u ∧
      w.runChecked program check (events ++ [event]) = some u' ∧
      u.step program event = some u' ∧ u'.runChecked program check more = some w' := by
  unfold runChecked at h ⊢
  rw [List.foldlM_append] at h
  obtain ⟨u, hu, hrest⟩ := Option.bind_eq_some_iff.1 h
  rw [List.foldlM_cons] at hrest
  obtain ⟨u', hu', hmore⟩ := Option.bind_eq_some_iff.1 hrest
  have hstep : u.step program event = some u' := by
    split at hu'
    · exact hu'
    · cases hu'
  refine ⟨u, u', hu, ?_, hstep, hmore⟩
  rw [List.foldlM_append, hu]
  simpa using hu'

lemma StepsUnder.of_runChecked_map {P : Pool κ ι σ ε α → PoolEvent κ ι → Prop}
    {check : Pool κ ι σ ε α → PoolEvent κ ι → Bool} (hcheck : ∀ u e, check u e → P u e)
    {β : Type} {f : Pool κ ι σ ε α → β} {events more : List (PoolEvent κ ι)} {b d : β}
    (h : (w.runChecked program check events).map f = some b)
    (h' : (w.runChecked program check (events ++ more)).map f = some d) :
    ∃ u u', StepsUnder program P w u ∧ StepsUnder program P u u' ∧ f u = b ∧ f u' = d := by
  obtain ⟨u, hu, hb⟩ := Option.map_eq_some_iff.1 h
  obtain ⟨u', hu', hd⟩ := Option.map_eq_some_iff.1 h'
  have hmore : u.runChecked program check more = some u' := by
    unfold runChecked at hu hu'
    rw [List.foldlM_append, hu] at hu'
    exact hu'
  exact ⟨u, u', .of_runChecked hcheck hu, .of_runChecked hcheck hmore, hb, hd⟩

/-- A process advances by the statement it stands at. -/
lemma advance_step {n : Nat} {i : ι} (h : w.step program (.advance n i) = some w') :
    ∃ (k : κ) (β : Type) (st : ι → σ → β × σ) (next : β → Process ι σ ε α),
      w.tasks[n]? = some (k, some (.act st next)) ∧
      w' = { state := (st i w.state).2
             tasks := w.tasks.set n (k, some (next (st i w.state).1)) } := by
  simp only [step] at h
  split at h
  · rename_i k β st next htask
    exact ⟨k, β, st, next, htask, (Option.some.inj h).symm⟩
  · cases h

lemma crash_step {n : Nat} (h : w.step program (.crash n) = some w') :
    ∃ k, (∃ p, w.tasks[n]? = some (k, some p)) ∧
      w' = { w with tasks := w.tasks.set n (k, none) } := by
  simp only [step] at h
  split at h
  · rename_i k p htask
    exact ⟨k, ⟨p, htask⟩, (Option.some.inj h).symm⟩
  · cases h

end Pool

/-! ### Contracts -/

namespace Process

variable {ι σ ε α β Γ : Type}

/-- What a process may assume of its inputs (`admits`) and of the steps of others (`rely`),
and what each of its statements must do (`guarantee`). -/
structure Contract (ι σ Γ : Type) where
  admits : σ × Γ → ι → Prop
  rely : σ × Γ → σ × Γ → Prop
  guarantee : σ × Γ → σ × Γ → Prop

/-- What others do is closed under doing nothing and doing more. -/
structure Contract.Closed (c : Contract ι σ Γ) : Prop where
  refl : ∀ s, c.rely s s
  trans : ∀ s t u, c.rely s t → c.rely t u → c.rely s u

/-- An assertion that others do not break. -/
def Contract.Stable (c : Contract ι σ Γ) (I : σ × Γ → Prop) : Prop :=
  ∀ s t, I s → c.rely s t → I t

/-- Every statement keeps the guarantee, with a suitable change of the auxiliary state, and
at the end the result and the state meet the postcondition. -/
def Meets (c : Contract ι σ Γ) (Q : Except ε α → σ × Γ → Prop) :
    Process ι σ ε α → σ × Γ → Prop
  | done a, s => Q (.ok a) s
  | fail e, s => Q (.error e) s
  | act st next, s => ∀ s', c.rely s s' → ∀ i, c.admits s' i →
      ∃ g, c.guarantee s' ((st i s'.1).2, g) ∧
        Meets c Q (next (st i s'.1).1) ((st i s'.1).2, g)

/-- A contract without a postcondition. -/
abbrev Keeps (c : Contract ι σ Γ) (p : Process ι σ ε α) (s : σ × Γ) : Prop :=
  p.Meets c (fun _ _ => True) s

/-- From every state that meets the precondition the process meets its contract. -/
def Triple (c : Contract ι σ Γ) (P : σ × Γ → Prop) (p : Process ι σ ε α)
    (Q : Except ε α → σ × Γ → Prop) : Prop :=
  ∀ s, P s → p.Meets c Q s

variable {c : Contract ι σ Γ} {P : σ × Γ → Prop} {Q : Except ε α → σ × Γ → Prop}
  {s s' : σ × Γ}

lemma Meets.stable (hc : c.Closed) {p : Process ι σ ε α} (hrun : p.Running) (h : p.Meets c Q s)
    (hs : c.rely s s') : p.Meets c Q s' := by
  cases p with
  | act st next => intro t ht; exact h t (hc.trans _ _ _ hs ht)
  | _ => cases hrun

lemma Meets.weaken {p : Process ι σ ε α} {Q' : Except ε α → σ × Γ → Prop}
    (h : p.Meets c Q s) (hpost : ∀ r t, Q r t → Q' r t) : p.Meets c Q' s := by
  induction p generalizing s with
  | done a => exact hpost _ _ h
  | fail e => exact hpost _ _ h
  | act st next ih =>
      intro t ht i hi
      obtain ⟨g, hg, hn⟩ := h t ht i hi
      exact ⟨g, hg, ih _ hn⟩

lemma Triple.consequence {p : Process ι σ ε α} {P' : σ × Γ → Prop}
    {Q' : Except ε α → σ × Γ → Prop} (h : Triple c P p Q) (hpre : ∀ s, P' s → P s)
    (hpost : ∀ r t, Q r t → Q' r t) : Triple c P' p Q' :=
  fun s hs => (h s (hpre s hs)).weaken hpost

lemma triple_done {a : α} (h : ∀ s, P s → Q (.ok a) s) : Triple c P (done a) Q := h

lemma triple_fail {e : ε} (h : ∀ s, P s → Q (.error e) s) : Triple c P (fail e) Q := h

lemma Meets.bind {p : Process ι σ ε α} {f : α → Process ι σ ε β}
    {Q' : Except ε β → σ × Γ → Prop} (hp : p.Meets c Q s)
    (hok : ∀ a t, Q (.ok a) t → (f a).Meets c Q' t)
    (herr : ∀ e t, Q (.error e) t → Q' (.error e) t) : (p >>= f).Meets c Q' s := by
  induction p generalizing s with
  | done a => exact hok a s hp
  | fail e => exact herr e s hp
  | act st next ih =>
      intro t ht i hi
      obtain ⟨g, hg, hn⟩ := hp t ht i hi
      exact ⟨g, hg, ih _ hn⟩

lemma Meets.catching {p : Process ι σ ε α} {handler : ε → Process ι σ ε α}
    {Q' : Except ε α → σ × Γ → Prop} (hp : p.Meets c Q s)
    (hok : ∀ a t, Q (.ok a) t → Q' (.ok a) t)
    (herr : ∀ e t, Q (.error e) t → (handler e).Meets c Q' t) :
    (p.catching handler).Meets c Q' s := by
  induction p generalizing s with
  | done a => exact hok a s hp
  | fail e => exact herr e s hp
  | act st next ih =>
      intro t ht i hi
      obtain ⟨g, hg, hn⟩ := hp t ht i hi
      exact ⟨g, hg, ih _ hn⟩

/-- **Sequencing**: the rest runs from every state the first part may leave. -/
theorem Triple.bind {p : Process ι σ ε α} {f : α → Process ι σ ε β}
    {Q' : Except ε β → σ × Γ → Prop} (hp : Triple c P p Q)
    (hok : ∀ a, Triple c (Q (.ok a)) (f a) Q')
    (herr : ∀ e t, Q (.error e) t → Q' (.error e) t) : Triple c P (p >>= f) Q' :=
  fun s hs => (hp s hs).bind hok herr

/-- **Handlers**: the handler runs from every state a failure may leave. -/
theorem Triple.catching {p : Process ι σ ε α} {handler : ε → Process ι σ ε α}
    {Q' : Except ε α → σ × Γ → Prop} (hp : Triple c P p Q)
    (hok : ∀ a t, Q (.ok a) t → Q' (.ok a) t)
    (herr : ∀ e, Triple c (Q (.error e)) (handler e) Q') :
    Triple c P (p.catching handler) Q' :=
  fun s hs => (hp s hs).catching hok herr

/-- **Loops**: the body keeps an invariant. -/
theorem Triple.each {I : σ × Γ → Prop} {f : α → Process ι σ ε Unit} {l : List α}
    (hf : ∀ a ∈ l, Triple c I (f a) fun _ => I) : Triple c I (Process.each f l) fun _ => I := by
  induction l with
  | nil => exact triple_done fun _ h => h
  | cons a r ih =>
      refine (hf a List.mem_cons_self).bind (fun _ => ?_) fun _ _ h => h
      exact ih fun b hb => hf b (.tail _ hb)

/-- **Loops with results**: the invariant is about the elements done and their results. -/
theorem Triple.collect {I : List α → List β → σ × Γ → Prop} {E : ε → σ × Γ → Prop}
    {f : α → Process ι σ ε β} {l : List α}
    (hf : ∀ done bs, ∀ a ∈ l, Triple c (I done bs) (f a) fun r s => match r with
      | .ok b => I (done ++ [a]) (bs ++ [b]) s
      | .error e => E e s) :
    Triple c (I [] []) (Process.collect f l) fun r s => match r with
      | .ok bs => I l bs s
      | .error e => E e s := by
  have hrest : ∀ (rest done : List α) (bs : List β), (∀ a ∈ rest, a ∈ l) →
      Triple c (I done bs) (Process.collect f rest) fun r s => match r with
        | .ok bs' => I (done ++ rest) (bs ++ bs') s
        | .error e => E e s := by
    intro rest
    induction rest with
    | nil =>
        intro done bs _
        refine triple_done fun s h => ?_
        simpa using h
    | cons a rest ih =>
        intro done bs hmem
        refine (hf done bs a (hmem a List.mem_cons_self)).bind (fun b => ?_) fun _ _ h => h
        refine (ih (done ++ [a]) (bs ++ [b]) fun x hx => hmem x (.tail _ hx)).bind
          (fun bs' => triple_done fun s h => ?_) fun _ _ h => h
        simpa using h
  simpa using hrest l [] [] fun _ h => h

/-- **Statements**: others keep the precondition, and from it the statement does what is
guaranteed. -/
theorem triple_statement {st : ι → σ → α × σ} (hpre : c.Stable P)
    (h : ∀ s i, P s → c.admits s i →
      ∃ g, c.guarantee s ((st i s.1).2, g) ∧ Q (.ok (st i s.1).1) ((st i s.1).2, g)) :
    Triple c P (statement st) Q := by
  intro s hs t ht i hi
  exact h t i (hpre _ _ hs ht) hi

theorem triple_attempt {st : ι → σ → Except ε α × σ} (hpre : c.Stable P)
    (h : ∀ s i, P s → c.admits s i →
      ∃ g, c.guarantee s ((st i s.1).2, g) ∧ Q (st i s.1).1 ((st i s.1).2, g)) :
    Triple c P (attempt st) Q := by
  intro s hs t ht i hi
  obtain ⟨g, hg, hp⟩ := h t i (hpre _ _ hs ht) hi
  refine ⟨g, hg, ?_⟩
  cases hr : (st i t.1).1 with
  | ok a => rw [hr] at hp; exact hp
  | error e => rw [hr] at hp; exact hp

/-! #### One relation for every process -/

/-- Every statement relates the state before it to the state after it, whatever the process. -/
def Contract.within (R : σ → σ → Prop) (admits : σ → ι → Prop) : Contract ι σ Unit where
  admits s i := admits s.1 i
  rely s t := R s.1 t.1
  guarantee s t := R s.1 t.1

/-- Every statement of a process, started where an assertion holds, is within a relation. -/
def Within (R : σ → σ → Prop) (admits : σ → ι → Prop) (I : σ → Prop) (p : Process ι σ ε α) : Prop :=
  Triple (Contract.within R admits) (fun s => I s.1) p fun _ _ => True

section within

variable {R : σ → σ → Prop} {admits : σ → ι → Prop} {I : σ → Prop}

lemma within_done {a : α} : Within R admits I (done a : Process ι σ ε α) := fun _ _ => trivial

lemma within_fail {e : ε} : Within R admits I (fail e : Process ι σ ε α) := fun _ _ => trivial

/-- **A statement**: the relation keeps what is known before it, and what it returns tells what
is known after it. -/
theorem within_act {J : β → σ → Prop} {st : ι → σ → β × σ} {next : β → Process ι σ ε α}
    (hI : ∀ s t, I s → R s t → I t)
    (hst : ∀ s i, I s → admits s i → R s (st i s).2 ∧ J (st i s).1 (st i s).2)
    (hnext : ∀ b, Within R admits (J b) (next b)) : Within R admits I (act st next) := by
  intro s hs t ht i hi
  obtain ⟨hR, hJ⟩ := hst t.1 i (hI s.1 t.1 hs ht) hi
  exact ⟨(), hR, hnext _ _ hJ⟩

/-- A read. -/
theorem within_read {J : β → σ → Prop} {f : ι → σ → β} {next : β → Process ι σ ε α}
    (hrefl : ∀ s, R s s) (hI : ∀ s t, I s → R s t → I t)
    (hread : ∀ s i, I s → admits s i → J (f i s) s)
    (hnext : ∀ b, Within R admits (J b) (next b)) :
    Within R admits I (act (fun i s => (f i s, s)) next) :=
  within_act hI (fun s i hs hi => ⟨hrefl s, hread s i hs hi⟩) hnext

lemma Within.mono {I' : σ → Prop} {p : Process ι σ ε α} (h : Within R admits I p)
    (hI : ∀ s, I' s → I s) : Within R admits I' p :=
  fun s hs => h s (hI s.1 hs)

/-- The last statement of a process. -/
theorem within_attempt {st : ι → σ → Except ε α × σ} (hI : ∀ s t, I s → R s t → I t)
    (hst : ∀ s i, I s → admits s i → R s (st i s).2) : Within R admits I (attempt st) := by
  refine within_act (J := fun _ _ => True) hI (fun s i hs hi => ⟨hst s i hs hi, trivial⟩) fun b =>
    ?_
  cases b with
  | ok a => exact within_done
  | error e => exact within_fail

end within

end Process

/-! ### Pools under contracts -/

namespace Pool

open Process

variable {κ ι σ ε α Γ : Type} {program : κ → Process ι σ ε α} {w w' : Pool κ ι σ ε α}

/-- A process is in flight under a number. -/
def InFlight (w : Pool κ ι σ ε α) (n : Nat) : Prop := ∃ k, w.Active n k

/-- Every process meets the contract of its number and name; one that is done has established
its postcondition. -/
def UnderPost (contract : Nat → κ → Contract ι σ Γ)
    (post : Nat → κ → Except ε α → σ × Γ → Prop) (w : Pool κ ι σ ε α) (g : Γ) : Prop :=
  ∀ n k (p : Process ι σ ε α), w.tasks[n]? = some (k, some p) →
    p.Meets (contract n k) (post n k) (w.state, g)

/-- Every process meets a contract without a postcondition. -/
abbrev Under (contract : Nat → κ → Contract ι σ Γ) (w : Pool κ ι σ ε α) (g : Γ) : Prop :=
  w.UnderPost contract (fun _ _ _ _ => True) g

/-- What holds of every number under which no process is in flight: none was started, or it is
done, or it crashed. -/
def Quiet (rest : Nat → σ × Γ → Prop) (w : Pool κ ι σ ε α) (g : Γ) : Prop :=
  ∀ n, ¬ w.InFlight n → rest n (w.state, g)

/-- Processes with statements left are pairwise related. -/
def Apart (C : κ → κ → Prop) (w : Pool κ ι σ ε α) : Prop :=
  ∀ n m k l, n ≠ m → w.Active n k → w.Active m l → C k l

/-- What the steps of a run are taken under: a process starts beside those it is related to,
and the inputs are admitted. -/
structure Disciplined (C : κ → κ → Prop) (admits : σ → ι → Prop) (w : Pool κ ι σ ε α)
    (event : PoolEvent κ ι) : Prop where
  start : ∀ k, event = .start k → ∀ n l, w.Active n l → C l k ∧ C k l
  admitted : ∀ n i, event = .advance n i → admits w.state i

/-- What the steps of a run may be restricted to: which processes are in flight beside each
other, where a process may start, which inputs it gets, and where it may crash. -/
structure Discipline (κ ι σ : Type) where
  beside : κ → κ → Prop
  startable : κ → σ → Prop
  admits : κ → σ → ι → Prop
  crashable : κ → σ → Prop

structure Discipline.Follows (d : Discipline κ ι σ) (w : Pool κ ι σ ε α) (event : PoolEvent κ ι) :
    Prop where
  start : ∀ k, event = .start k → (∀ n l, w.Active n l → d.beside l k ∧ d.beside k l) ∧
    d.startable k w.state
  admitted : ∀ n k i, event = .advance n i → w.Active n k → d.admits k w.state i
  crash : ∀ n k, event = .crash n → w.Active n k → d.crashable k w.state

/-- Contracts that fit together, over states that are `Good`: what each process does is
within what the processes beside it rely on, and keeps what is `known` of the others and what
holds of the numbers at `rest`. -/
structure Accord (program : κ → Process ι σ ε α) (contract : Nat → κ → Contract ι σ Γ)
    (post : Nat → κ → Except ε α → σ × Γ → Prop) (known : Nat → κ → σ × Γ → Prop)
    (rest : Nat → σ × Γ → Prop) (d : Discipline κ ι σ) (Good : σ × Γ → Prop) : Prop where
  closed : ∀ n k, (contract n k).Closed
  compatible : ∀ n m k l s t, n ≠ m → d.beside k l → Good s → (contract n k).guarantee s t →
    (contract m l).rely s t
  good : ∀ n k s t, Good s → (contract n k).guarantee s t → Good t
  admits : ∀ n k s i, Good s → d.admits k s.1 i → (contract n k).admits s i
  program : ∀ n k s, Good s → rest n s → d.startable k s.1 →
    (program k).Meets (contract n k) (post n k) s
  postStable : ∀ n m k l r s t, n ≠ m → Good s → (contract n k).guarantee s t → post m l r s →
    post m l r t
  started : ∀ n k s, Good s → rest n s → known n k s
  knownOwn : ∀ n k s t, Good s → (contract n k).guarantee s t → known n k s → known n k t
  knownStable : ∀ n m k l s t, n ≠ m → Good s → (contract n k).guarantee s t → known m l s →
    known m l t
  restStable : ∀ n m k s t, n ≠ m → Good s → (contract n k).guarantee s t → rest m s → rest m t
  ended : ∀ n k r s, Good s → post n k r s → rest n s
  crashed : ∀ n k s, Good s → known n k s → d.crashable k s.1 → rest n s

/-- Contracts without postconditions that fit together. -/
structure Fits (program : κ → Process ι σ ε α) (contract : Nat → κ → Contract ι σ Γ)
    (C : κ → κ → Prop) (admits : σ → ι → Prop) (Good : σ × Γ → Prop) : Prop where
  closed : ∀ n k, (contract n k).Closed
  compatible : ∀ n m k l s t, n ≠ m → C k l → Good s → (contract n k).guarantee s t →
    (contract m l).rely s t
  good : ∀ n k s t, Good s → (contract n k).guarantee s t → Good t
  admits : ∀ n k s i, Good s → admits s.1 i → (contract n k).admits s i
  program : ∀ n k s, Good s → (program k).Keeps (contract n k) s

lemma getElem?_set_some {l : List (κ × Option (Process ι σ ε α))} {n m : Nat}
    {a b : κ × Option (Process ι σ ε α)} (h : (l.set n a)[m]? = some b) :
    (n = m ∧ b = a) ∨ (n ≠ m ∧ l[m]? = some b) := by
  by_cases hnm : n = m
  · subst hnm
    obtain ⟨_, hb⟩ := List.getElem?_eq_some_iff.1 h
    rw [List.getElem_set_self] at hb
    exact .inl ⟨rfl, hb.symm⟩
  · rw [List.getElem?_set_ne hnm] at h
    exact .inr ⟨hnm, h⟩

/-- A process that has no statement left, or whose process goes on, was active before. -/
lemma Active.of_set {n m : Nat} {k l : κ} {o p : Option (Process ι σ ε α)} {s : σ}
    (hn : w.tasks[n]? = some (k, p)) (hp : ∀ q, o = some q → q.Running → w.Active n k)
    (h : Active ⟨s, w.tasks.set n (k, o)⟩ m l) : w.Active m l := by
  obtain ⟨q, hq, hrun⟩ := h
  rcases getElem?_set_some hq with ⟨rfl, heq⟩ | ⟨_, hq⟩
  · obtain ⟨rfl, ho⟩ := Prod.mk.injEq .. ▸ heq
    exact hp q ho.symm hrun
  · exact ⟨q, hq, hrun⟩

lemma InFlight.set {n m : Nat} {a : κ × Option (Process ι σ ε α)} {s : σ} (hne : n ≠ m)
    (h : w.InFlight m) : InFlight ⟨s, w.tasks.set n a⟩ m := by
  obtain ⟨l, q, hq, hrun⟩ := h
  exact ⟨l, q, by rw [List.getElem?_set_ne hne]; exact hq, hrun⟩

variable {contract : Nat → κ → Contract ι σ Γ} {post : Nat → κ → Except ε α → σ × Γ → Prop}
  {known : Nat → κ → σ × Γ → Prop} {rest : Nat → σ × Γ → Prop} {d : Discipline κ ι σ}
  {C : κ → κ → Prop} {admits : σ → ι → Prop} {Good : σ × Γ → Prop} {g : Γ}

lemma getElem?_start {l : List (κ × Option (Process ι σ ε α))} {n : Nat}
    {a b : κ × Option (Process ι σ ε α)} (h : (l ++ [a])[n]? = some b) :
    l[n]? = some b ∨ (n = l.length ∧ b = a) := by
  by_cases hn : n < l.length
  · rw [List.getElem?_append_left hn] at h
    exact .inl h
  · rw [List.getElem?_append_right (by omega), List.getElem?_singleton] at h
    split at h
    · exact .inr ⟨by omega, (Option.some.inj h).symm⟩
    · cases h

lemma Active.of_start {n : Nat} {k l : κ}
    (h : Active (⟨w.state, w.tasks ++ [(k, some (program k))]⟩ : Pool κ ι σ ε α) n l) :
    w.Active n l ∨ (n = w.tasks.length ∧ l = k) := by
  obtain ⟨p, hp, hrun⟩ := h
  rcases getElem?_start hp with hp | ⟨hn, heq⟩
  · exact .inl ⟨p, hp, hrun⟩
  · exact .inr ⟨hn, congrArg Prod.fst heq⟩

lemma InFlight.start {n : Nat} {a : κ × Option (Process ι σ ε α)} (h : w.InFlight n) :
    InFlight ⟨w.state, w.tasks ++ [a]⟩ n := by
  obtain ⟨k, p, hp, hrun⟩ := h
  refine ⟨k, p, ?_, hrun⟩
  rw [List.getElem?_append_left (List.getElem?_eq_some_iff.1 hp).1]
  exact hp

lemma not_inFlight_length : ¬ w.InFlight w.tasks.length := by
  rintro ⟨k, p, hp, _⟩
  simp at hp

lemma meets_ended {c : Contract ι σ Γ} {Q : Except ε α → σ × Γ → Prop} {s : σ × Γ}
    {p : Process ι σ ε α} (h : p.Meets c Q s) (hrun : ¬ p.Running) : ∃ r, Q r s := by
  cases p with
  | done a => exact ⟨.ok a, h⟩
  | fail e => exact ⟨.error e, h⟩
  | act st next => exact absurd trivial hrun

/-- What is kept about a pool along a run. -/
structure Kept (contract : Nat → κ → Contract ι σ Γ)
    (post : Nat → κ → Except ε α → σ × Γ → Prop) (known : Nat → κ → σ × Γ → Prop)
    (rest : Nat → σ × Γ → Prop) (C : κ → κ → Prop) (Good : σ × Γ → Prop) (w : Pool κ ι σ ε α)
    (g : Γ) : Prop where
  under : w.UnderPost contract post g
  apart : w.Apart C
  good : Good (w.state, g)
  known : ∀ n k, w.Active n k → known n k (w.state, g)
  quiet : w.Quiet rest g

lemma Kept.start (hfits : Accord program contract post known rest d Good)
    (h : w.Kept contract post known rest d.beside Good g) {k : κ}
    (hstart : ∀ n l, w.Active n l → d.beside l k ∧ d.beside k l) (hk : d.startable k w.state) :
    Kept contract post known rest d.beside Good ⟨w.state, w.tasks ++ [(k, some (program k))]⟩
      g := by
  have hrest := h.quiet _ not_inFlight_length
  have hmeets := hfits.program _ k _ h.good hrest hk
  refine ⟨?_, ?_, h.good, ?_, ?_⟩
  · intro n l p hp
    rcases getElem?_start hp with hp | ⟨hn, heq⟩
    · exact h.under n l p hp
    · obtain ⟨hl, hq⟩ := Prod.mk.inj heq
      rw [hl, Option.some.inj hq, hn]
      exact hmeets
  · intro n m l l' hnm hn hm
    rcases hn.of_start with hn | ⟨hn, hl⟩
    · rcases hm.of_start with hm | ⟨_, hl'⟩
      · exact h.apart n m l l' hnm hn hm
      · rw [hl']; exact (hstart n l hn).1
    · rcases hm.of_start with hm | ⟨hm, _⟩
      · rw [hl]; exact (hstart m l' hm).2
      · omega
  · intro n l hn
    rcases hn.of_start with hn | ⟨rfl, rfl⟩
    · exact h.known n l hn
    · exact hfits.started _ _ _ h.good hrest
  · intro n hn
    by_cases hlen : n = w.tasks.length
    · subst hlen
      obtain ⟨r, hr⟩ := meets_ended hmeets fun hrun => hn ⟨k, program k, by simp, hrun⟩
      exact hfits.ended _ k r _ h.good hr
    · exact h.quiet n fun hold => hn hold.start

lemma Kept.crash (hfits : Accord program contract post known rest d Good)
    (h : w.Kept contract post known rest d.beside Good g) {n : Nat} {k : κ}
    {p : Process ι σ ε α} (htask : w.tasks[n]? = some (k, some p))
    (hcrash : w.Active n k → d.crashable k w.state) :
    Kept contract post known rest d.beside Good ⟨w.state, w.tasks.set n (k, none)⟩ g := by
  have hactive : ∀ {m l}, Active ⟨w.state, w.tasks.set n (k, none)⟩ m l → w.Active m l :=
    fun hm => hm.of_set htask fun _ h => by cases h
  refine ⟨?_, ?_, h.good, fun m l hm => h.known m l (hactive hm), ?_⟩
  · intro m l q hq
    rcases getElem?_set_some hq with ⟨_, heq⟩ | ⟨_, hq⟩
    · cases (Prod.mk.inj heq).2
    · exact h.under m l q hq
  · intro m m' l l' hne hm hm'
    exact h.apart m m' l l' hne (hactive hm) (hactive hm')
  · intro m hm
    by_cases hnm : n = m
    · subst hnm
      by_cases hrun : p.Running
      · have hn : w.Active n k := ⟨p, htask, hrun⟩
        exact hfits.crashed n k _ h.good (h.known n k hn) (hcrash hn)
      · refine h.quiet n fun ⟨l, q, hq, hrun'⟩ => hrun ?_
        obtain ⟨-, hpq⟩ := Prod.mk.inj (Option.some.inj (htask.symm.trans hq))
        rw [Option.some.inj hpq]
        exact hrun'
    · exact h.quiet m fun hold => hm (hold.set hnm)

lemma Kept.advance (hfits : Accord program contract post known rest d Good)
    (h : w.Kept contract post known rest d.beside Good g) {n : Nat} {k : κ} {i : ι} {β : Type}
    {st : ι → σ → β × σ} {next : β → Process ι σ ε α}
    (htask : w.tasks[n]? = some (k, some (.act st next))) (hi : d.admits k w.state i) :
    ∃ g', (contract n k).guarantee (w.state, g) ((st i w.state).2, g') ∧
      Kept contract post known rest d.beside Good
        ⟨(st i w.state).2, w.tasks.set n (k, some (next (st i w.state).1))⟩ g' := by
  have hn : w.Active n k := ⟨_, htask, trivial⟩
  have hadm := hfits.admits n k (w.state, g) i h.good hi
  obtain ⟨g', hguar, hnext⟩ :=
    h.under n k _ htask (w.state, g) ((hfits.closed n k).refl _) i hadm
  have hgood := hfits.good n k _ _ h.good hguar
  have hactive : ∀ {m l}, Active ⟨(st i w.state).2,
      w.tasks.set n (k, some (next (st i w.state).1))⟩ m l → w.Active m l :=
    fun hm => hm.of_set htask fun _ _ _ => hn
  refine ⟨g', hguar, ?_, ?_, hgood, ?_, ?_⟩
  · intro m l p hp
    rcases getElem?_set_some hp with ⟨rfl, heq⟩ | ⟨hnm, hp⟩
    · obtain ⟨hl, hq⟩ := Prod.mk.inj heq
      rw [hl, Option.some.inj hq]
      exact hnext
    · have hmeets := h.under m l p hp
      by_cases hrun : p.Running
      · have hC := h.apart n m k l hnm hn ⟨p, hp, hrun⟩
        exact hmeets.stable (hfits.closed m l) hrun
          (hfits.compatible n m k l _ _ hnm hC h.good hguar)
      · cases p with
        | done a => exact hfits.postStable n m k l _ _ _ hnm h.good hguar hmeets
        | fail e => exact hfits.postStable n m k l _ _ _ hnm h.good hguar hmeets
        | act _ _ => exact absurd trivial hrun
  · intro m m' l l' hne hm hm'
    exact h.apart m m' l l' hne (hactive hm) (hactive hm')
  · intro m l hm
    have hold := hactive hm
    by_cases hnm : n = m
    · subst hnm
      obtain ⟨q, hq, -⟩ := hold
      obtain ⟨rfl, -⟩ := Prod.mk.inj (Option.some.inj (htask.symm.trans hq))
      exact hfits.knownOwn n k _ _ h.good hguar (h.known n k hn)
    · exact hfits.knownStable n m k l _ _ hnm h.good hguar (h.known m l hold)
  · intro m hm
    by_cases hnm : n = m
    · subst hnm
      have hlt := (List.getElem?_eq_some_iff.1 htask).1
      obtain ⟨r, hr⟩ := meets_ended hnext fun hrun =>
        hm ⟨k, _, List.getElem?_set_self hlt, hrun⟩
      exact hfits.ended n k r _ hgood hr
    · exact hfits.restStable n m k _ _ hnm h.good hguar (h.quiet m fun hold => hm (hold.set hnm))

/-- What a step does to the states: the process that advances does what its contract
guarantees, or else nothing changes. -/
def Moved (contract : Nat → κ → Contract ι σ Γ) (event : PoolEvent κ ι) (s t : σ × Γ) : Prop :=
  (t = s ∧ ∀ n i, event ≠ .advance n i) ∨
    ∃ n k i, event = .advance n i ∧ (contract n k).guarantee s t

lemma step_kept (hfits : Accord program contract post known rest d Good)
    (h : w.Kept contract post known rest d.beside Good g) {event : PoolEvent κ ι}
    (hd : d.Follows w event) (hstep : w.step program event = some w') :
    ∃ g', w'.Kept contract post known rest d.beside Good g' ∧
      Moved contract event (w.state, g) (w'.state, g') := by
  cases event with
  | start k =>
      obtain rfl := Option.some.inj hstep
      exact ⟨g, h.start hfits (hd.start k rfl).1 (hd.start k rfl).2, .inl ⟨rfl, by simp⟩⟩
  | advance n i =>
      obtain ⟨k, β, st, next, htask, rfl⟩ := advance_step hstep
      obtain ⟨g', hguar, hkept⟩ :=
        h.advance hfits htask (hd.admitted n k i rfl ⟨_, htask, trivial⟩)
      exact ⟨g', hkept, .inr ⟨n, k, i, rfl, hguar⟩⟩
  | crash n =>
      obtain ⟨k, ⟨p, htask⟩, rfl⟩ := crash_step hstep
      exact ⟨g, h.crash hfits htask (hd.crash n k rfl), .inl ⟨rfl, by simp⟩⟩

/-- **The rule for histories**: what holds at the start of a run, and is kept by each of its
steps, holds at its end. -/
theorem run_along (hfits : Accord program contract post known rest d Good)
    {P : Pool κ ι σ ε α → PoolEvent κ ι → Prop} (hP : ∀ u e, P u e → d.Follows u e)
    {J : Pool κ ι σ ε α → Γ → Prop}
    (hJ : ∀ u u' g g' event, StepsUnder program P w u → P u event →
      u.step program event = some u' → Good (u.state, g) →
      Moved contract event (u.state, g) (u'.state, g') → J u g → J u' g')
    (h : w.Kept contract post known rest d.beside Good g) (hw : J w g)
    (hrun : StepsUnder program P w w') :
    ∃ g', w'.Kept contract post known rest d.beside Good g' ∧ J w' g' := by
  induction hrun with
  | refl => exact ⟨g, h, hw⟩
  | tail hfirst hlast ih =>
      obtain ⟨event, hp, hstep⟩ := hlast
      obtain ⟨g₁, h₁, hj⟩ := ih
      obtain ⟨g₂, h₂, hmove⟩ := step_kept hfits h₁ (hP _ _ hp) hstep
      exact ⟨g₂, h₂, hJ _ _ _ _ event hfirst hp hstep h₁.good hmove hj⟩

/-- **The rule for pools**: along a run under a discipline, contracts that fit together stay
met, and the states are related by whatever every guarantee is within. -/
theorem run_kept (hfits : Accord program contract post known rest d Good)
    {P : Pool κ ι σ ε α → PoolEvent κ ι → Prop} (hP : ∀ u e, P u e → d.Follows u e)
    {R : σ × Γ → σ × Γ → Prop} (hrefl : ∀ s, R s s) (htrans : ∀ s t u, R s t → R t u → R s u)
    (hR : ∀ n k s t, Good s → (contract n k).guarantee s t → R s t)
    (h : w.Kept contract post known rest d.beside Good g) (hrun : StepsUnder program P w w') :
    ∃ g', w'.Kept contract post known rest d.beside Good g' ∧
      R (w.state, g) (w'.state, g') := by
  refine run_along (J := fun u g' => R (w.state, g) (u.state, g')) hfits hP ?_ h (hrefl _) hrun
  intro u u' g₁ g₂ event _ _ _ hgood hmove hrel
  rcases hmove with ⟨heq, _⟩ | ⟨n, k, i, _, hguar⟩
  · rw [heq]; exact hrel
  · exact htrans _ _ _ hrel (hR n k _ _ hgood hguar)

lemma Fits.accord (hfits : Fits program contract C admits Good) :
    Accord program contract (fun _ _ _ _ => True) (fun _ _ _ => True) (fun _ _ => True)
      ⟨C, fun _ _ => True, fun _ => admits, fun _ _ => True⟩ Good where
  closed := hfits.closed
  compatible := hfits.compatible
  good := hfits.good
  admits := hfits.admits
  program n k s hs _ _ := hfits.program n k s hs
  postStable _ _ _ _ _ _ _ _ _ _ _ := trivial
  started _ _ _ _ _ := trivial
  knownOwn _ _ _ _ _ _ _ := trivial
  knownStable _ _ _ _ _ _ _ _ _ _ := trivial
  restStable _ _ _ _ _ _ _ _ _ := trivial
  ended _ _ _ _ _ _ := trivial
  crashed _ _ _ _ _ _ := trivial

/-- The rule without postconditions. -/
theorem run_under (hfits : Fits program contract C admits Good)
    {P : Pool κ ι σ ε α → PoolEvent κ ι → Prop} (hP : ∀ u e, P u e → Disciplined C admits u e)
    {R : σ × Γ → σ × Γ → Prop} (hrefl : ∀ s, R s s)
    (htrans : ∀ s t u, R s t → R t u → R s u)
    (hR : ∀ n k s t, Good s → (contract n k).guarantee s t → R s t)
    (hunder : w.Under contract g) (hapart : w.Apart C) (hgood : Good (w.state, g))
    (hrun : StepsUnder program P w w') :
    ∃ g', w'.Under contract g' ∧ w'.Apart C ∧ Good (w'.state, g') ∧
      R (w.state, g) (w'.state, g') := by
  have hfollows : ∀ u e, P u e →
      Discipline.Follows ⟨C, fun _ _ => True, fun _ => admits, fun _ _ => True⟩ u e := by
    intro u e hp
    have hd := hP u e hp
    exact ⟨fun k hk => ⟨hd.start k hk, trivial⟩, fun n _ i hi _ => hd.admitted n i hi,
      fun _ _ _ _ => trivial⟩
  obtain ⟨g', h, hr⟩ := run_kept hfits.accord hfollows hrefl htrans hR
    ⟨hunder, hapart, hgood, fun _ _ _ => trivial, fun _ _ => trivial⟩ hrun
  exact ⟨g', h.under, h.apart, h.good, hr⟩

/-- **The rule for one relation**: what every statement does, in every process, a run does. -/
theorem run_within {R : σ → σ → Prop} {admits : σ → ι → Prop} (hrefl : ∀ s, R s s)
    (htrans : ∀ s t u, R s t → R t u → R s u)
    (hprogram : ∀ k, Within R admits (fun _ => True) (program k))
    {P : Pool κ ι σ ε α → PoolEvent κ ι → Prop}
    (hP : ∀ u n i, P u (.advance n i) → admits u.state i)
    (h : w.Under (fun _ _ => Contract.within R admits) ()) (hrun : StepsUnder program P w w') :
    w'.Under (fun _ _ => Contract.within R admits) () ∧ R w.state w'.state := by
  have hfits : Fits program (fun _ _ => Contract.within R admits) (fun _ _ => True) admits
      fun _ => True := by
    refine ⟨fun _ _ => ⟨fun s => hrefl s.1, fun s t u h h' => htrans _ _ _ h h'⟩, ?_, ?_, ?_, ?_⟩
    · intro _ _ _ _ _ _ _ _ _ hguar
      exact hguar
    · exact fun _ _ _ _ _ _ => trivial
    · exact fun _ _ _ _ _ hi => hi
    · exact fun _ k s _ => hprogram k s trivial
  have hdisc : ∀ u e, P u e → Disciplined (fun _ _ => True) admits u e := by
    intro u e hp
    exact ⟨fun _ _ _ _ _ => ⟨trivial, trivial⟩, fun n i he => hP u n i (he ▸ hp)⟩
  obtain ⟨⟨⟩, hunder, -, -, hR⟩ := run_under hfits hdisc (R := fun s t => R s.1 t.1)
    (fun s => hrefl s.1) (fun _ _ _ h h' => htrans _ _ _ h h') (fun _ _ _ _ _ hguar => hguar) h
    (fun _ _ _ _ _ _ _ => trivial) trivial hrun
  exact ⟨hunder, hR⟩

lemma initial_kept {s : σ} (hgood : Good (s, g)) (hrest : ∀ n, rest n (s, g)) :
    (initial s : Pool κ ι σ ε α).Kept contract post known rest C Good g := by
  refine ⟨?_, ?_, hgood, ?_, fun n _ => hrest n⟩
  · intro n k p hp
    simp [initial] at hp
  · rintro n m k l _ ⟨p, hp, _⟩
    simp [initial] at hp
  · rintro n k ⟨p, hp, _⟩
    simp [initial] at hp

lemma initial_under (s : σ) : (initial s : Pool κ ι σ ε α).UnderPost contract post g := by
  intro n k p hp
  simp [initial] at hp

lemma initial_apart (s : σ) : (initial s : Pool κ ι σ ε α).Apart C := by
  rintro n m k l _ ⟨p, hp, _⟩
  simp [initial] at hp

end Pool

end ShopcityLoyalty
