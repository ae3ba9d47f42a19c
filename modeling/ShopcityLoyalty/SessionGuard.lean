import ShopcityLoyalty.SessionAcceptance

/-!
The session guard: a request is let through when its session is accepted, and then the use of
the session is noted.

A use is noted only when the one noted before is more than five minutes old, so that the row
of a session falls behind its activity. Beside the guarded requests, sign-in and device
administration make their moves on the same rows.
-/

namespace ShopcityLoyalty

open Process AuthService

/-! ### The guard -/

/-- A request as the guard sees it. -/
structure GuardedRequest where
  isPublic : Bool
  token : Option String
  deviceToken : Option String

/-- The rows, and which sessions had a request let through at what time. No statement reads
the latter. -/
structure GuardedStore where
  store : AuthStore
  accepted : List (Nat × Int)

namespace SessionGuard

def STALE_AFTER_MS : Int := 5 * 60 * 1000

/-- `updateMany` of the session, where its `lastUsedAt` is null or stale. -/
def noteUse (s : AuthStore) (sessionId : Nat) (now : Int) : AuthStore :=
  { s with
    sessions := match s.sessions[sessionId]? with
      | some session =>
          if session.lastUsedAt.all fun lastUsedAt => lastUsedAt < now - STALE_AFTER_MS then
            s.sessions.set sessionId { session with lastUsedAt := some now }
          else s.sessions
      | none => s.sessions }

/-- A request of a session is let through. -/
def letThrough (g : GuardedStore) (sessionId : Nat) (now : Int) : GuardedStore where
  store := noteUse g.store sessionId now
  accepted := g.accepted ++ [(sessionId, now)]

/-- The context of a request that may go on; a public one has none. -/
def canActivate (rt : AuthRuntime) (request : GuardedRequest) :
    Process AuthSurroundings GuardedStore Fault (Option AuthContext) := do
  if request.isPublic then Process.done none else
  let authContext ← Process.statement fun env g =>
    (loadAuthContext rt env g.store request.token request.deviceToken, g)
  match authContext with
  | none => Process.fail (unauthorized "Authentication required")
  | some (sessionId, context) =>
      let _ ← Process.statement fun env g => ((), letThrough g sessionId env.now)
      Process.done (some context)

end SessionGuard

/-! ### Requests and other moves -/

abbrev Visits := Pool GuardedRequest AuthSurroundings GuardedStore Fault (Option AuthContext)

/-- A statement of a guarded request, or a commit of sign-in or of device administration. -/
inductive Visits.Step (rt : AuthRuntime) (w : Visits) : Visits → Prop
  | visit {event : PoolEvent GuardedRequest AuthSurroundings} {w' : Visits}
      (step : w.step (SessionGuard.canActivate rt) event = some w') : Visits.Step rt w w'
  | elsewhere {env : AuthSurroundings} {t : AuthStore} (move : AuthMove rt env w.state.store t) :
      Visits.Step rt w { w with state := { w.state with store := t } }

abbrev Visits.Run (rt : AuthRuntime) : Visits → Visits → Prop :=
  Relation.ReflTransGen (Visits.Step rt)

/-- A session that was issued at a time and has had no request yet. -/
structure GuardedStore.Issued (g : GuardedStore) (sid : Nat) (issuedAt : Int) : Prop where
  row : ∃ x, g.store.sessions[sid]? = some x ∧ x.lastUsedAt = some issuedAt
  unused : ∀ visit ∈ g.accepted, visit.1 ≠ sid

/-- The times at which requests of a session were let through, in order. -/
def GuardedStore.acceptedAt (g : GuardedStore) (sid : Nat) : List Int :=
  (g.accepted.filter fun visit => visit.1 = sid).map Prod.snd

/-! ### Activity and what is noted of it -/

/-- The last activity of a session. -/
def lastActivity (issuedAt : Int) (times : List Int) : Int := times.getLast?.getD issuedAt

/-- A time of activity that comes late enough after the noted one is noted. -/
def noted (before now : Int) : Int :=
  if before < now - SessionGuard.STALE_AFTER_MS then now else before

/-- The activity noted last. -/
def lastNoted (issuedAt : Int) (times : List Int) : Int := times.foldl noted issuedAt

/-- The idle limit of a role in milliseconds. -/
def idleLimit (rt : AuthRuntime) (role : UserRole) : Int := idleMinutes rt role * 60 * 1000

variable {rt : AuthRuntime} {env : AuthSurroundings} {s t : AuthStore} {g : GuardedStore}
  {w w' : Visits} {sid : Nat} {issuedAt now : Int} {times : List Int}

@[simp] lemma lastNoted_nil : lastNoted issuedAt [] = issuedAt := rfl

@[simp] lemma lastNoted_snoc :
    lastNoted issuedAt (times ++ [now]) = noted (lastNoted issuedAt times) now := by
  simp [lastNoted]

lemma lastNoted_mem : lastNoted issuedAt times ∈ issuedAt :: times := by
  induction times using List.reverseRecOn with
  | nil => simp
  | append_singleton times now ih =>
      rw [lastNoted_snoc]
      unfold noted
      by_cases hstale : lastNoted issuedAt times < now - SessionGuard.STALE_AFTER_MS
      · rw [if_pos hstale]
        simp
      · rw [if_neg hstale]
        rcases List.mem_cons.1 ih with h | h
        · simp [h]
        · exact List.mem_cons_of_mem _ (List.mem_append_left _ h)

lemma isSessionIdleExpired_iff (rt : AuthRuntime) {x : Session} (user : AuthUser) {mark : Int}
    (hmark : x.lastUsedAt = some mark) :
    isSessionIdleExpired rt x user now = true ↔ mark + idleLimit rt user.role ≤ now := by
  simp only [isSessionIdleExpired, hmark, decide_eq_true_eq, idleLimit]
  omega

/-! ### What a run notes -/

namespace GuardedStore

/-- The row of a session holds what is noted of its requests. -/
def Noted (sid : Nat) (issuedAt : Int) (g : GuardedStore) : Prop :=
  ∃ x, g.store.sessions[sid]? = some x ∧
    x.lastUsedAt = some (lastNoted issuedAt (g.acceptedAt sid))

lemma Issued.acceptedAt (h : g.Issued sid issuedAt) : g.acceptedAt sid = [] := by
  have hnone : g.accepted.filter (fun visit => visit.1 = sid) = [] := by
    refine List.filter_eq_nil_iff.2 fun visit hvisit => ?_
    simpa using h.unused visit hvisit
  simp [GuardedStore.acceptedAt, hnone]

lemma Issued.noted (h : g.Issued sid issuedAt) : g.Noted sid issuedAt := by
  obtain ⟨x, hrow, hused⟩ := h.row
  exact ⟨x, hrow, by rw [h.acceptedAt, hused, lastNoted_nil]⟩

lemma acceptedAt_letThrough (g : GuardedStore) (i : Nat) :
    (SessionGuard.letThrough g i now).acceptedAt sid =
      if i = sid then g.acceptedAt sid ++ [now] else g.acceptedAt sid := by
  unfold GuardedStore.acceptedAt SessionGuard.letThrough
  by_cases hi : i = sid
  · simp [hi]
  · simp [hi]

end GuardedStore

lemma noteUse_row {x : Session} (i : Nat) (now : Int) (hx : s.sessions[sid]? = some x) {mark : Int}
    (hmark : x.lastUsedAt = some mark) :
    ∃ y, (SessionGuard.noteUse s i now).sessions[sid]? = some y ∧
      y.lastUsedAt = some (if i = sid then noted mark now else mark) := by
  unfold SessionGuard.noteUse
  by_cases hi : i = sid
  · subst hi
    simp only [hx, hmark, Option.all_some, decide_eq_true_eq, if_true]
    unfold noted
    by_cases hstale : mark < now - SessionGuard.STALE_AFTER_MS
    · simp only [if_pos hstale]
      exact ⟨_, List.getElem?_set_self (Table.lt_of_getElem? hx), rfl⟩
    · simp only [if_neg hstale]
      exact ⟨x, hx, hmark⟩
  · refine ⟨x, ?_, by rw [if_neg hi, hmark]⟩
    cases hrow : s.sessions[i]? with
    | none => exact hx
    | some y =>
        simp only
        split
        · rwa [List.getElem?_set_ne hi]
        · exact hx

lemma AuthMove.lastUsedAt (hmove : AuthMove rt env s t) {x : Session}
    (hx : s.sessions[sid]? = some x) :
    ∃ y, t.sessions[sid]? = some y ∧ y.lastUsedAt = x.lastUsedAt := by
  obtain ⟨new, hafter, -⟩ := hmove.sessions
  obtain ⟨y, hy, hkept⟩ := hafter.row hx
  refine ⟨y, hy, ?_⟩
  obtain rfl | ⟨now, rfl⟩ := hkept
  · rfl
  · rfl

/-- What a statement of a guarded request, or a move elsewhere, does to the store. -/
inductive GuardMove (rt : AuthRuntime) (env : AuthSurroundings) (g : GuardedStore) :
    GuardedStore → Prop
  | letThrough {i : Nat} : GuardMove rt env g (SessionGuard.letThrough g i env.now)
  | elsewhere {env' : AuthSurroundings} {t : AuthStore} (move : AuthMove rt env' g.store t) :
      GuardMove rt env g { g with store := t }

lemma GuardMove.stay : GuardMove rt env g g :=
  .elsewhere (AuthMove.stay : AuthMove rt env g.store g.store)

lemma GuardMove.noted {g' : GuardedStore} (hmove : GuardMove rt env g g')
    (h : g.Noted sid issuedAt) : g'.Noted sid issuedAt := by
  obtain ⟨x, hx, hused⟩ := h
  cases hmove with
  | @letThrough i =>
      obtain ⟨y, hy, hnoted⟩ := noteUse_row i env.now hx hused
      refine ⟨y, hy, ?_⟩
      rw [hnoted, GuardedStore.acceptedAt_letThrough]
      by_cases hi : i = sid
      · simp [hi]
      · simp [hi]
  | elsewhere hmove =>
      obtain ⟨y, hy, hsame⟩ := hmove.lastUsedAt hx
      exact ⟨y, hy, hsame.trans hused⟩

lemma keptBy_true : KeptBy (GuardMove rt) fun _ : GuardedStore => True := fun _ _ _ _ _ => trivial

lemma canActivate_moves (request : GuardedRequest) :
    MovesFrom (GuardMove rt) (fun _ => True) (SessionGuard.canActivate rt request) := by
  unfold SessionGuard.canActivate
  by_cases hpublic : request.isPublic = true
  · rw [if_pos hpublic]
    exact movesFrom_done
  rw [if_neg hpublic]
  refine movesFrom_read (K := fun _ _ => True) (fun _ _ => .stay) keptBy_true (fun _ _ _ => trivial)
    fun authContext => ?_
  cases authContext with
  | none => exact movesFrom_fail
  | some loaded =>
      exact movesFrom_act (K := fun _ _ => True) keptBy_true (fun _ _ _ => .letThrough)
        (fun _ _ _ => trivial) fun _ => movesFrom_done

/-- **Along a run the row of a session holds what is noted of its requests**, whatever other
sessions, sign-in and device administration do. -/
theorem Visits.Run.noted (hrun : Visits.Run rt w w') (hmoving : w.Moving (GuardMove rt))
    (h : w.state.Noted sid issuedAt) :
    w'.Moving (GuardMove rt) ∧ w'.state.Noted sid issuedAt := by
  induction hrun with
  | refl => exact ⟨hmoving, h⟩
  | @tail u _ _ hlast ih =>
      obtain ⟨hmoving, h⟩ := ih
      cases hlast with
      | visit hstep =>
          obtain ⟨hmoving', -, hchange⟩ :=
            Pool.step_moving keptBy_true canActivate_moves hmoving trivial hstep
          refine ⟨hmoving', ?_⟩
          rcases hchange.move_or_same with ⟨n, env, -, hmove⟩ | hsame
          · exact hmove.noted h
          · rw [hsame]
            exact h
      | @elsewhere env t hmove =>
          have hguard : GuardMove rt env u.state { u.state with store := t } := .elsewhere hmove
          exact ⟨fun n k p hp => (hmoving n k p hp).stable (.single ⟨env, hguard⟩), hguard.noted h⟩

/-! ### Idle sessions -/

section Idle

variable (rt : AuthRuntime) (sid : Nat) (issuedAt : Int) (g : GuardedStore)

/-- The next request, when it comes before the session expires and less than the idle limit
after the last activity, is not rejected as idle. -/
def RespectsActivity : Prop :=
  ∀ x user now, g.store.sessions[sid]? = some x → g.store.users x.userId = some user →
    now < x.expiresAt → now < lastActivity issuedAt (g.acceptedAt sid) + idleLimit rt user.role →
    isSessionIdleExpired rt x user now = false

/-- Without activity for the idle limit, a request is rejected. -/
def RejectsIdle : Prop :=
  ∀ x user env token deviceToken context, g.store.sessions[sid]? = some x →
    g.store.users x.userId = some user →
    (∀ activity ∈ issuedAt :: g.acceptedAt sid, activity + idleLimit rt user.role ≤ env.now) →
    loadAuthContext rt env g.store token deviceToken ≠ some (sid, context)

/-- The last activity was noted, or the session expires before the idle limit is over. -/
def ActivityNoted : Prop :=
  ∀ x user, g.store.sessions[sid]? = some x → g.store.users x.userId = some user →
    lastActivity issuedAt (g.acceptedAt sid) ≤ lastNoted issuedAt (g.acceptedAt sid) ∨
      x.expiresAt ≤ lastNoted issuedAt (g.acceptedAt sid) + idleLimit rt user.role

end Idle

lemma respectsActivity_iff (h : g.Noted sid issuedAt) :
    RespectsActivity rt sid issuedAt g ↔ ActivityNoted rt sid issuedAt g := by
  obtain ⟨x, hx, hused⟩ := h
  constructor
  · intro hrespects y user hy huser
    rw [hx] at hy
    obtain rfl := Option.some.inj hy
    by_contra hlate
    obtain ⟨hbehind, hbefore⟩ := not_or.1 hlate
    -- the first time at which the noted activity is the idle limit ago
    have hnot := hrespects x user (lastNoted issuedAt (g.acceptedAt sid) + idleLimit rt user.role)
      hx huser (by omega) (by omega)
    have hidle := (isSessionIdleExpired_iff rt user hused).2 le_rfl
    rw [hnot] at hidle
    cases hidle
  · intro hnoted y user now hy huser hbefore hsoon
    rw [hx] at hy
    obtain rfl := Option.some.inj hy
    rw [← Bool.not_eq_true, isSessionIdleExpired_iff rt user hused]
    rcases hnoted x user hx huser with hle | hle
    · omega
    · omega

lemma rejectsIdle (h : g.Noted sid issuedAt) : RejectsIdle rt sid issuedAt g := by
  obtain ⟨x, hx, hused⟩ := h
  intro y user env token deviceToken context hy huser hquiet hload
  obtain ⟨z, row, hz, hrow, haccepts⟩ := loadAuthContext_some hload
  rw [hx] at hy hz
  obtain rfl := Option.some.inj hy
  obtain rfl := Option.some.inj hz
  rw [huser] at hrow
  obtain rfl := Option.some.inj hrow
  have hidle := (isSessionIdleExpired_iff rt user hused).2
    (hquiet _ lastNoted_mem)
  simp only [acceptsSession, hidle, Bool.not_true, Bool.and_false, Bool.false_and] at haccepts
  cases haccepts

/-- **Every session starts with its activity noted**: what `issueSession` stores is issued at the
instant of the sign-in. -/
theorem issueSession_issued {user : Option AuthUser} {r : SessionRequest} {x : IssuedSession}
    (h : issueSession rt env user r s = .ok (x, t)) :
    GuardedStore.Issued ⟨t, []⟩ x.sessionId env.now := by
  simp only [issueSession, Txn.bind_ok, Txn.get_ok, Txn.rejectIf_ok, Txn.orFault_ok, Txn.update_ok,
    Txn.pure_ok] at h
  obtain ⟨_, _, ⟨-, rfl⟩, row, _, ⟨-, rfl⟩, _, _, ⟨rfl, rfl⟩, _, _, ⟨-, rfl⟩, _, _, rfl,
    rfl, rfl⟩ := h
  refine ⟨⟨r.session rt env, ?_, rfl⟩, by simp⟩
  simp [Table.nextId]

/-- **When a session's activity keeps it from going idle**: in every state of every run, the next
request within the idle limit of the last activity is not rejected as idle exactly when that
activity was noted, or the session expires before; and a session without activity for the idle
limit is always rejected. -/
theorem idle_expiry_iff (hissued : g.Issued sid issuedAt) (hrun : Visits.Run rt (.initial g) w) :
    (RespectsActivity rt sid issuedAt w.state ↔ ActivityNoted rt sid issuedAt w.state) ∧
      RejectsIdle rt sid issuedAt w.state := by
  have hnoted := (hrun.noted (Pool.initial_moving g) hissued.noted).2
  exact ⟨respectsActivity_iff hnoted, rejectsIdle hnoted⟩

/-! ### A session and one request -/

namespace AuthShop

/-- A supervisor who has signed in at 1000. -/
def signedIn : GuardedStore where
  store := { store users [] with
    sessions := [(loginRequest "supervisor" none ⟨.none, 0, 0⟩).session runtime
      (surroundings 1000 "session token")] }
  accepted := []

lemma signedIn_issued : signedIn.Issued 0 1000 := ⟨⟨_, rfl, rfl⟩, by simp [signedIn]⟩

/-- A request of the supervisor. -/
def visit (now : Int) : List (PoolEvent GuardedRequest AuthSurroundings) :=
  [.start ⟨false, some "session token", none⟩, .advance 0 (surroundings now ""),
    .advance 0 (surroundings now "")]

/-- What there is after the request. -/
def visited (now : Int) : Option Visits :=
  (Pool.initial signedIn).runChecked (SessionGuard.canActivate runtime)
    (fun _ _ => true) (visit now)

lemma visited_run {now : Int} (h : visited now = some w) :
    Visits.Run runtime (.initial signedIn) w := by
  have hrun : Pool.Steps (SessionGuard.canActivate runtime) (.initial signedIn) w :=
    .of_runChecked (fun _ _ _ => trivial) h
  exact Relation.ReflTransGen.mono (fun _ _ ⟨_, _, hstep⟩ => .visit hstep) _ _ hrun

/-- A request that comes in time, and is rejected as idle. -/
def idleInTime (now : Int) (w : Visits) : Bool :=
  (w.state.store.sessions[0]?).any fun x => (w.state.store.users x.userId).any fun user =>
    now < x.expiresAt && now < lastActivity 1000 (w.state.acceptedAt 0) +
      idleLimit runtime user.role &&
      isSessionIdleExpired runtime x user now

lemma not_respectsActivity {now : Int} (h : idleInTime now w = true) :
    ¬ RespectsActivity runtime 0 1000 w.state := by
  intro hrespects
  unfold idleInTime at h
  cases hx : w.state.store.sessions[0]? with
  | none => simp [hx] at h
  | some x =>
      cases huser : w.state.store.users x.userId with
      | none => simp [hx, huser] at h
      | some user =>
          simp only [hx, huser, Option.any_some, Bool.and_eq_true, decide_eq_true_eq] at h
          obtain ⟨⟨hbefore, hsoon⟩, hidle⟩ := h
          rw [hrespects x user now hx huser hbefore hsoon] at hidle
          cases hidle

end AuthShop

/-- A request that came more than five minutes after the sign-in was noted. -/
theorem idle_expiry_iff_noted : ∃ w, AuthShop.visited 301001 = some w ∧
    AuthShop.signedIn.Issued 0 1000 ∧ w.state.acceptedAt 0 = [301001] ∧
    RespectsActivity AuthShop.runtime 0 1000 w.state ∧
    RejectsIdle AuthShop.runtime 0 1000 w.state := by
  have hw : (AuthShop.visited 301001).map (fun w => w.state.acceptedAt 0) = some [301001] := by
    decide +kernel
  obtain ⟨w, hw, htimes⟩ := Option.map_eq_some_iff.1 hw
  obtain ⟨hiff, hrejects⟩ := idle_expiry_iff AuthShop.signedIn_issued (AuthShop.visited_run hw)
  refine ⟨w, hw, AuthShop.signedIn_issued, htimes, hiff.2 fun x user hx huser => .inl ?_, hrejects⟩
  rw [htimes]
  decide

/-- Five minutes after the sign-in a request comes, and 25 minutes later, of a limit of 30, the
session is idle. -/
theorem idle_expiry_ignores_activity : ¬ ∀ (rt : AuthRuntime) (g : GuardedStore) (w : Visits)
    (sid : Nat) (issuedAt : Int), g.Issued sid issuedAt → Visits.Run rt (.initial g) w →
    RespectsActivity rt sid issuedAt w.state := by
  intro hclaim
  have hw : (AuthShop.visited 301000).map (AuthShop.idleInTime 1801000) = some true := by
    decide +kernel
  obtain ⟨w, hw, hidle⟩ := Option.map_eq_some_iff.1 hw
  exact AuthShop.not_respectsActivity hidle
    (hclaim _ _ _ _ _ AuthShop.signedIn_issued (AuthShop.visited_run hw))

end ShopcityLoyalty
