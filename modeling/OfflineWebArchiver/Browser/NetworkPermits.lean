import Mathlib.Data.List.Count
import Mathlib.Data.List.Nodup
import OfflineWebArchiver.Lib.Run

/-!
# The network permits of a page session

`PlaywrightPageSession`: the handlers of the paused requests of a page, interleaved at their
`await`s with each other, with the events of the page and with `close`. A handler acquires at
most one permit; the permit is named by its request.

* `step`: a handler begins, or what it awaits answers; the page reports a request, is gone, or
  is closed.
* `Allowed`: no event takes the permit of another request, and `close` leaves none behind.
* `step_invariant`: what every allowed step keeps.
-/

namespace OfflineWebArchiver.NetworkPermits

/-- What the session uses of a request. -/
structure PausedRequest where
  method : String
  url : String
  /-- `isLongLivedRequest` -/
  longLived : Bool
  /-- `canonicalOrigin` of the URL -/
  origin : String
deriving DecidableEq

def networkPermitKey (method url : String) : String := method ++ ":" ++ url

def PausedRequest.key (r : PausedRequest) : String := networkPermitKey r.method r.url

structure Policy where
  /-- `replayAdapter !== null` -/
  replay : Bool
  /-- `networkBudget !== undefined` -/
  budget : Bool
deriving DecidableEq

/-- Where the handler of a request stands, at an `await`. -/
inductive Pc
  | idle
  /-- `handleCdpRequest` -/
  | replaying
  /-- `authorizeUrl` -/
  | authorizing
  /-- `networkBudget.acquire` -/
  | acquiring
  /-- `Fetch.continueRequest` -/
  | continuing
  /-- `Fetch.failRequest` -/
  | failing
  | settled
deriving DecidableEq

inductive Closing
  | not_called
  /-- `close()` awaits the page, the session or the context. -/
  | closing
  | returned
deriving DecidableEq

structure State (ι : Type) where
  pc : ι → Pc
  networkPermits : String → List ι
  /-- The requests whose permit has been acquired, the last one first. -/
  acquired : List ι
  released : ι → Bool
  /-- What the session has added to the `inflight` count of an origin. -/
  inflight : String → ℕ
  /-- `Fetch.continueRequest` has succeeded. -/
  continued : ι → Bool
  /-- The page has reported the request as finished or failed. -/
  ended : ι → Bool
  /-- The page has crashed or is closed. -/
  gone : Bool
  closing : Closing

inductive Event (ι : Type)
  | requestPaused (i : ι)
  | replayed (i : ι) (deferred : Bool)
  | authorized (i : ι) (allowed : Bool)
  /-- `acquire` has given the permit, or has thrown. -/
  | acquired (i : ι) (ok : Bool)
  | continued (i : ι) (ok : Bool)
  /-- `Fetch.failRequest` has settled. -/
  | failed (i : ι)
  /-- The adapter or `authorizeUrl` has thrown: the handler goes to its `catch`. -/
  | thrown (i : ι)
  | requestfinished (i : ι)
  | requestfailed (i : ι)
  | gone
  | close
  | closed
deriving DecidableEq

variable {ι : Type} [DecidableEq ι] (request : ι → PausedRequest) (policy : Policy)

namespace State

variable (s : State ι)

def put (i : ι) (pc : Pc) : State ι := { s with pc := Function.update s.pc i pc }

/-- `permit.release()`, a second time without effect. -/
def release (i : ι) : State ι :=
  if s.released i then s
  else
    { s with
      released := Function.update s.released i true
      inflight := Function.update s.inflight (request i).origin
        (s.inflight (request i).origin - 1) }

/-- The first permit under the key of the request. -/
def releaseNetworkPermit (i : ι) : State ι :=
  match s.networkPermits (request i).key with
  | [] => s
  | permit :: permits =>
    { s with networkPermits := Function.update s.networkPermits (request i).key permits }.release
      request permit

def releaseNetworkPermitValue (i : ι) : State ι :=
  { s with networkPermits := fun key => (s.networkPermits key).erase i }.release request i

/-- The permit of the request is acquired and filed. -/
def file (i : ι) : State ι :=
  { s with
    acquired := i :: s.acquired
    inflight := Function.update s.inflight (request i).origin
      (s.inflight (request i).origin + 1)
    networkPermits := Function.update s.networkPermits (request i).key
      (s.networkPermits (request i).key ++ [i]) }

/-- A request that has been continued and is still in flight. -/
def live (i : ι) : Bool := s.continued i && !s.ended i

end State

/-- The method check. -/
def checkMethod (s : State ι) (i : ι) : State ι :=
  if (request i).method ≠ "GET" ∧ (request i).method ≠ "HEAD" then s.put i .failing
  else s.put i .authorizing

/-- `requestfinished` and `requestfailed`: at most one for each request, none of a page that is
gone. -/
def report (s : State ι) (i : ι) : State ι :=
  if s.ended i || s.gone then s
  else { s with ended := Function.update s.ended i true }.releaseNetworkPermit request i

def step (s : State ι) : Event ι → State ι
  | .requestPaused i =>
    if s.pc i = .idle then
      if policy.replay then s.put i .replaying else checkMethod request s i
    else s
  | .replayed i deferred =>
    if s.pc i = .replaying then
      if deferred then checkMethod request s i else s.put i .settled
    else s
  | .authorized i allowed =>
    if s.pc i = .authorizing then
      if !allowed then s.put i .failing
      else if policy.budget && !(request i).longLived then s.put i .acquiring
      else s.put i .continuing
    else s
  | .acquired i ok =>
    if s.pc i = .acquiring then
      if ok then (s.file request i).put i .continuing else s.put i .failing
    else s
  | .continued i ok =>
    if s.pc i = .continuing then
      if ok then { s with continued := Function.update s.continued i true }.put i .settled
      else if i ∈ s.acquired then (s.releaseNetworkPermitValue request i).put i .failing
      else s.put i .failing
    else s
  | .failed i => if s.pc i = .failing then s.put i .settled else s
  -- no permit has been acquired here
  | .thrown i =>
    if s.pc i = .replaying ∨ s.pc i = .authorizing then s.put i .failing else s
  | .requestfinished i => report request s i
  | .requestfailed i => report request s i
  | .gone => { s with gone := true }
  | .close => if s.closing = .not_called then { s with closing := .closing } else s
  | .closed => if s.closing = .closing then { s with closing := .returned } else s

/-! ### The condition on a step -/

/-- The event of a request finds no permit under its key, or its own first. -/
def ownFirst (s : State ι) (i : ι) : Prop :=
  s.ended i = false → s.gone = false →
    ∀ permit ∈ (s.networkPermits (request i).key).head?, permit = i

/-- **The condition** on a step: an event takes no permit of another request; when `close`
returns, every permit still held is that of a handler that awaits `Fetch.continueRequest`, and
that does not succeed afterwards. -/
def Allowed (s : State ι) : Event ι → Prop
  | .requestfinished i | .requestfailed i => ownFirst request s i
  | .closed => s.closing = .closing → ∀ i ∈ s.acquired, s.released i = false → s.pc i = .continuing
  | .continued i ok => s.closing = .returned → s.pc i = .continuing → ok = true →
      i ∈ s.acquired → s.released i = true
  | _ => True

instance (s : State ι) (i : ι) : Decidable (ownFirst request s i) :=
  inferInstanceAs (Decidable (_ → _ → ∀ permit ∈ (s.networkPermits (request i).key).head?, _))

instance (s : State ι) : (e : Event ι) → Decidable (Allowed request s e)
  | .requestfinished i | .requestfailed i => inferInstanceAs (Decidable (ownFirst request s i))
  | .closed => inferInstanceAs (Decidable (_ → ∀ i ∈ s.acquired, _ → _))
  | .continued i ok => inferInstanceAs
      (Decidable (s.closing = .returned → s.pc i = .continuing → ok = true → i ∈ s.acquired →
        s.released i = true))
  | .requestPaused _ | .replayed _ _ | .authorized _ _ | .acquired _ _ | .failed _ | .thrown _
  | .gone | .close => .isTrue trivial

/-! ### What every step keeps -/

/-- The permit of the request is counted for the origin. -/
def State.holds (s : State ι) (origin : String) (i : ι) : Bool :=
  (request i).origin = origin && !s.released i

structure Invariant (s : State ι) : Prop where
  filed : ∀ key i, i ∈ s.networkPermits key ↔
    i ∈ s.acquired ∧ s.released i = false ∧ (request i).key = key
  distinct : ∀ key, (s.networkPermits key).Nodup
  once : s.acquired.Nodup
  handler : ∀ i ∈ s.acquired, s.pc i = .continuing ∨ s.pc i = .failing ∨ s.pc i = .settled
  continued : ∀ i, s.continued i = true → s.pc i = .settled
  released : ∀ i, s.released i = true →
    i ∈ s.acquired ∧ (s.ended i = true ∨ s.continued i = false ∧ s.pc i ≠ .continuing)
  inflight : ∀ origin, s.inflight origin = s.acquired.countP (s.holds request origin)
  returned : s.closing = .returned → ∀ i ∈ s.acquired, s.released i = false →
    s.pc i = .continuing

omit [DecidableEq ι] in
/-- Two counts that differ in one element. -/
theorem countP_except [DecidableEq ι] {l : List ι} {p : ι} {f g : ι → Bool} (hl : l.Nodup)
    (hp : p ∈ l) (hfg : ∀ i ∈ l, i ≠ p → f i = g i) :
    l.countP f + (g p).toNat = l.countP g + (f p).toNat := by
  have hperm := List.perm_cons_erase hp
  have hrest : (l.erase p).countP f = (l.erase p).countP g := by
    refine List.countP_congr fun i hi => ?_
    have hi := (hl.mem_erase_iff).1 hi
    rw [hfg i hi.2 hi.1]
  rw [hperm.countP_eq, hperm.countP_eq, List.countP_cons, List.countP_cons, hrest]
  cases f p <;> cases g p <;> simp

variable {request : ι → PausedRequest} {policy : Policy} {s s' : State ι} {i j p : ι} {pc : Pc}

@[simp] theorem put_pc_self : (s.put i pc).pc i = pc := Function.update_self ..

theorem put_pc_ne (h : j ≠ i) : (s.put i pc).pc j = s.pc j := Function.update_of_ne h ..

/-- **A handler moves on.** -/
theorem Invariant.put (hs : Invariant request s)
    (hhandler : i ∈ s.acquired → pc = .continuing ∨ pc = .failing ∨ pc = .settled)
    (hcontinued : s.continued i = true → pc = .settled)
    (hreleased : s.released i = true → s.ended i = true ∨ s.continued i = false ∧ pc ≠ .continuing)
    (hreturned : s.closing = .returned → i ∈ s.acquired → s.released i = false →
      pc = .continuing) :
    Invariant request (s.put i pc) := by
  refine ⟨hs.filed, hs.distinct, hs.once, fun j hj => ?_, fun j hj => ?_, fun j hj => ?_,
    hs.inflight, fun hret j hj hr => ?_⟩
  · by_cases h : j = i
    · subst h; rw [put_pc_self]; exact hhandler hj
    · rw [put_pc_ne h]; exact hs.handler j hj
  · by_cases h : j = i
    · subst h; rw [put_pc_self]; exact hcontinued hj
    · rw [put_pc_ne h]; exact hs.continued j hj
  · by_cases h : j = i
    · subst h; rw [put_pc_self]; exact ⟨(hs.released j hj).1, hreleased hj⟩
    · rw [put_pc_ne h]; exact hs.released j hj
  · by_cases h : j = i
    · subst h; rw [put_pc_self]; exact hreturned hret hj hr
    · rw [put_pc_ne h]; exact hs.returned hret j hj hr

/-- A handler without a permit. -/
theorem Invariant.put_without (hs : Invariant request s) (hi : i ∉ s.acquired)
    (hpc : s.pc i ≠ .settled) : Invariant request (s.put i pc) := by
  refine hs.put (fun h => absurd h hi) (fun h => absurd (hs.continued i h) hpc) (fun h => ?_)
    (fun _ h => absurd h hi)
  exact absurd (hs.released i h).1 hi

omit [DecidableEq ι] in
theorem Invariant.not_acquired (hs : Invariant request s)
    (hpc : s.pc i = .idle ∨ s.pc i = .replaying ∨ s.pc i = .authorizing ∨ s.pc i = .acquiring) :
    i ∉ s.acquired ∧ s.pc i ≠ .settled := by
  refine ⟨fun hi => ?_, fun h => ?_⟩
  · rcases hs.handler i hi with h | h | h <;> rw [h] at hpc <;> simp at hpc
  · rw [h] at hpc
    simp at hpc

/-- **A handler acquires its permit.** -/
theorem Invariant.file (hs : Invariant request s) (hpc : s.pc i = .acquiring) :
    Invariant request ((s.file request i).put i .continuing) := by
  obtain ⟨hi, hset⟩ := hs.not_acquired (.inr (.inr (.inr hpc)))
  have hrel : s.released i = false := by
    by_contra h
    exact hi (hs.released i (by simpa using h)).1
  have hcon : s.continued i = false := by
    by_contra h
    exact hset (hs.continued i (by simpa using h))
  refine ⟨fun key j => ?_, fun key => ?_, ?_, fun j hj => ?_, fun j hj => ?_, fun j hj => ?_,
    fun origin => ?_, fun hret j hj hr => ?_⟩
  · show j ∈ Function.update s.networkPermits _ _ key ↔ j ∈ i :: s.acquired ∧ s.released j = false ∧ _
    by_cases hkey : key = (request i).key
    · subst hkey
      simp only [Function.update_self, List.mem_append, hs.filed, List.mem_cons, List.not_mem_nil,
        or_false]
      constructor
      · rintro (⟨h₁, h₂, h₃⟩ | rfl)
        · exact ⟨.inr h₁, h₂, h₃⟩
        · exact ⟨.inl rfl, hrel, rfl⟩
      · rintro ⟨rfl | h₁, h₂, h₃⟩
        · exact .inr rfl
        · exact .inl ⟨h₁, h₂, h₃⟩
    · rw [Function.update_of_ne hkey, hs.filed, List.mem_cons]
      constructor
      · rintro ⟨h₁, h₂, h₃⟩
        exact ⟨.inr h₁, h₂, h₃⟩
      · rintro ⟨rfl | h₁, h₂, h₃⟩
        · exact absurd h₃.symm hkey
        · exact ⟨h₁, h₂, h₃⟩
  · show (Function.update s.networkPermits _ _ key).Nodup
    by_cases hkey : key = (request i).key
    · subst hkey
      rw [Function.update_self, List.nodup_append]
      refine ⟨hs.distinct _, List.nodup_singleton i, fun a ha b hb hab => ?_⟩
      obtain rfl : b = i := by simpa using hb
      subst hab
      exact hi ((hs.filed _ _).1 ha).1
    · rw [Function.update_of_ne hkey]
      exact hs.distinct key
  · exact List.nodup_cons.2 ⟨hi, hs.once⟩
  · by_cases h : j = i
    · subst h; exact .inl put_pc_self
    · rw [put_pc_ne h]
      exact hs.handler j (by simpa [State.file, State.put, h] using hj)
  · have h : j ≠ i := by
      rintro rfl
      rw [show s.continued j = true from hj] at hcon
      cases hcon
    rw [put_pc_ne h]
    exact hs.continued j hj
  · have h : j ≠ i := by
      rintro rfl
      rw [show s.released j = true from hj] at hrel
      cases hrel
    obtain ⟨hmem, hor⟩ := hs.released j hj
    rw [put_pc_ne h]
    exact ⟨List.mem_cons_of_mem _ hmem, hor⟩
  · show Function.update s.inflight _ _ origin = (i :: s.acquired).countP (s.holds request origin)
    rw [List.countP_cons]
    by_cases horigin : origin = (request i).origin
    · subst horigin
      rw [Function.update_self, hs.inflight, if_pos (by simp [State.holds, hrel])]
    · rw [Function.update_of_ne horigin, hs.inflight,
        if_neg (by simp [State.holds, Ne.symm horigin]), Nat.add_zero]
  · by_cases h : j = i
    · subst h; exact put_pc_self
    · rw [put_pc_ne h]
      exact hs.returned hret j (by simpa [State.file, State.put, h] using hj) hr

/-- **A permit that is filed is taken from its list and released**, by the event of its request
or by the handler. -/
theorem Invariant.take (hs : Invariant request s) (hp : p ∈ s.acquired)
    (hr : s.released p = false) {lists : String → List ι} {ended : ι → Bool} {pc : ι → Pc}
    (hlists : ∀ key i, i ∈ lists key ↔ i ∈ s.networkPermits key ∧ i ≠ p)
    (hdistinct : ∀ key, (lists key).Nodup) (hended : ∀ i, s.ended i = true → ended i = true)
    (hpc : ∀ i, i ≠ p → pc i = s.pc i)
    (hhandler : pc p = .continuing ∨ pc p = .failing ∨ pc p = .settled)
    (hcontinued : s.continued p = true → pc p = .settled)
    (hreleased : ended p = true ∨ s.continued p = false ∧ pc p ≠ .continuing) :
    Invariant request
      { s with
        networkPermits := lists, ended, pc
        released := Function.update s.released p true
        inflight := Function.update s.inflight (request p).origin
          (s.inflight (request p).origin - 1) } := by
  have hne : ∀ j, Function.update s.released p true j = false → j ≠ p ∧ s.released j = false := by
    intro j hj
    by_cases h : j = p
    · subst h; rw [Function.update_self] at hj; cases hj
    · rw [Function.update_of_ne h] at hj; exact ⟨h, hj⟩
  refine ⟨fun key j => ?_, hdistinct, hs.once, fun j hj => ?_, fun j hj => ?_, fun j hj => ?_,
    fun origin => ?_, fun hret j hj hjr => ?_⟩
  · show j ∈ lists key ↔ j ∈ s.acquired ∧ Function.update s.released p true j = false ∧ _
    rw [hlists, hs.filed]
    constructor
    · rintro ⟨⟨h₁, h₂, h₃⟩, h⟩
      exact ⟨h₁, by rw [Function.update_of_ne h]; exact h₂, h₃⟩
    · rintro ⟨h₁, h₂, h₃⟩
      exact ⟨⟨h₁, (hne j h₂).2, h₃⟩, (hne j h₂).1⟩
  · by_cases h : j = p
    · subst h; exact hhandler
    · have hj := hs.handler j hj
      rw [← hpc j h] at hj
      exact hj
  · by_cases h : j = p
    · subst h; exact hcontinued hj
    · have hj := hs.continued j hj
      rw [← hpc j h] at hj
      exact hj
  · by_cases h : j = p
    · subst h; exact ⟨hp, hreleased⟩
    · have hj : Function.update s.released p true j = true := hj
      rw [Function.update_of_ne h] at hj
      obtain ⟨hmem, hor⟩ := hs.released j hj
      rw [← hpc j h] at hor
      exact ⟨hmem, hor.imp_left (hended j)⟩
  · show Function.update s.inflight _ _ origin = s.acquired.countP (State.holds request _ origin)
    set s' : State ι := { s with
      networkPermits := lists, ended, pc
      released := Function.update s.released p true
      inflight := Function.update s.inflight (request p).origin
        (s.inflight (request p).origin - 1) }
    have hcount := countP_except (f := s.holds request origin) (g := s'.holds request origin)
      hs.once hp (fun i _ hi => by simp [State.holds, s', Function.update_of_ne hi])
    by_cases horigin : origin = (request p).origin
    · subst horigin
      rw [Function.update_self, hs.inflight]
      simp only [State.holds, hr, s', Function.update_self, decide_true, Bool.not_true,
        Bool.not_false, Bool.and_true, Bool.and_false, Bool.toNat_true, Bool.toNat_false] at hcount ⊢
      omega
    · rw [Function.update_of_ne horigin, hs.inflight]
      simp only [State.holds, Ne.symm horigin, decide_false, Bool.false_and, Bool.toNat_false]
        at hcount ⊢
      omega
  · obtain ⟨h, hjr⟩ := hne j hjr
    have hret := hs.returned hret j hj hjr
    rw [← hpc j h] at hret
    exact hret

/-- The page reports a request that finds its own permit first, or none. -/
theorem Invariant.report (hs : Invariant request s) (h : ownFirst request s i) :
    Invariant request (report request s i) := by
  unfold NetworkPermits.report
  split_ifs with hover
  · exact hs
  obtain ⟨hend, hgone⟩ : s.ended i = false ∧ s.gone = false := by simpa using hover
  have hmono : ∀ j, s.ended j = true → Function.update s.ended i true j = true := by
    intro j hj
    by_cases hji : j = i
    · subst hji; exact Function.update_self ..
    · rw [Function.update_of_ne hji]; exact hj
  unfold State.releaseNetworkPermit
  cases hlist : s.networkPermits (request i).key with
  | nil =>
    refine ⟨hs.filed, hs.distinct, hs.once, hs.handler, hs.continued, fun j hj => ?_, hs.inflight,
      hs.returned⟩
    obtain ⟨hmem, hor⟩ := hs.released j hj
    exact ⟨hmem, hor.imp_left (hmono j)⟩
  | cons permit permits =>
    obtain rfl : permit = i := h hend hgone permit (by rw [hlist]; rfl)
    obtain ⟨hmem, hr, -⟩ := (hs.filed (request permit).key permit).1 (by rw [hlist]; simp)
    have hnodup := hs.distinct (request permit).key
    rw [hlist, List.nodup_cons] at hnodup
    have hlists : ∀ key j, j ∈ Function.update s.networkPermits (request permit).key permits key ↔
        j ∈ s.networkPermits key ∧ j ≠ permit := by
      intro key j
      by_cases hkey : key = (request permit).key
      · subst hkey
        rw [Function.update_self, hlist, List.mem_cons]
        constructor
        · intro hj
          exact ⟨.inr hj, fun hjp => hnodup.1 (hjp ▸ hj)⟩
        · rintro ⟨hj, hjp⟩
          exact hj.resolve_left hjp
      · rw [Function.update_of_ne hkey]
        refine ⟨fun hj => ⟨hj, fun hjp => ?_⟩, And.left⟩
        subst hjp
        exact hkey ((hs.filed _ _).1 hj).2.2.symm
    have hdistinct : ∀ key,
        (Function.update s.networkPermits (request permit).key permits key).Nodup := by
      intro key
      by_cases hkey : key = (request permit).key
      · subst hkey
        rw [Function.update_self]
        exact hnodup.2
      · rw [Function.update_of_ne hkey]
        exact hs.distinct key
    show Invariant request (State.release request _ permit)
    unfold State.release
    rw [if_neg (show ¬ s.released permit = true by rw [hr]; simp)]
    exact hs.take hmem hr hlists hdistinct hmono (fun _ _ => rfl) (hs.handler _ hmem)
      (hs.continued _) (.inl (Function.update_self ..))

/-- `Fetch.continueRequest` fails for a request with a permit. -/
theorem Invariant.giveBack (hs : Invariant request s) (hi : i ∈ s.acquired)
    (hpc : s.pc i = .continuing) :
    Invariant request ((s.releaseNetworkPermitValue request i).put i .failing) := by
  have hcon : s.continued i = false := by
    by_contra h
    have hset := hs.continued i (by simpa using h)
    rw [hpc] at hset
    cases hset
  unfold State.releaseNetworkPermitValue State.release
  by_cases hr : s.released i = true
  · -- the event of the request has come first
    have herase : (fun key => (s.networkPermits key).erase i) = s.networkPermits := by
      funext key
      refine List.erase_of_not_mem fun hmem => ?_
      rw [((hs.filed key i).1 hmem).2.1] at hr
      cases hr
    rw [if_pos hr, herase]
    refine hs.put (fun _ => .inr (.inl rfl)) (fun h => ?_) (fun _ => .inr ⟨hcon, by simp⟩)
      (fun _ _ h => ?_)
    · rw [hcon] at h
      cases h
    · rw [hr] at h
      cases h
  · rw [if_neg hr]
    have hr : s.released i = false := by simpa using hr
    refine hs.take hi hr (fun key j => ?_) (fun key => (hs.distinct key).erase i) (fun _ h => h)
      (fun j hj => Function.update_of_ne hj ..) (.inr (.inl (Function.update_self ..))) (fun h => ?_)
      (.inr ⟨hcon, ?_⟩)
    · rw [(hs.distinct key).mem_erase_iff]
      exact and_comm
    · rw [hcon] at h
      cases h
    · rw [Function.update_self]
      simp

/-- `Fetch.continueRequest` succeeds. -/
theorem Invariant.goOn (hs : Invariant request s) (hpc : s.pc i = .continuing)
    (h : s.closing = .returned → i ∈ s.acquired → s.released i = true) :
    Invariant request
      ({ s with continued := Function.update s.continued i true }.put i .settled) := by
  refine ⟨hs.filed, hs.distinct, hs.once, fun j hj => ?_, fun j hj => ?_, fun j hj => ?_,
    hs.inflight, fun hret j hj hr => ?_⟩
  · by_cases hji : j = i
    · subst hji; exact .inr (.inr put_pc_self)
    · rw [put_pc_ne hji]; exact hs.handler j hj
  · by_cases hji : j = i
    · subst hji; exact put_pc_self
    · have hj : Function.update s.continued i true j = true := hj
      rw [Function.update_of_ne hji] at hj
      rw [put_pc_ne hji]
      exact hs.continued j hj
  · obtain ⟨hmem, hor⟩ := hs.released j hj
    refine ⟨hmem, ?_⟩
    by_cases hji : j = i
    · subst hji
      exact .inl (hor.resolve_right fun h => h.2 hpc)
    · rw [put_pc_ne hji]
      refine hor.imp_right fun h => ⟨?_, h.2⟩
      exact (Function.update_of_ne hji ..).trans h.1
  · by_cases hji : j = i
    · subst hji
      have hr : s.released j = false := hr
      rw [h hret hj] at hr
      cases hr
    · rw [put_pc_ne hji]
      exact hs.returned hret j hj hr

theorem Invariant.checkMethod (hs : Invariant request s) (hi : i ∉ s.acquired)
    (hpc : s.pc i ≠ .settled) : Invariant request (checkMethod request s i) := by
  unfold NetworkPermits.checkMethod
  split_ifs
  · exact hs.put_without hi hpc
  · exact hs.put_without hi hpc

omit [DecidableEq ι] in
/-- The page is gone, or `close` goes on. -/
theorem Invariant.close (hs : Invariant request s) {gone : Bool} {c : Closing}
    (h : c = .returned → ∀ i ∈ s.acquired, s.released i = false → s.pc i = .continuing) :
    Invariant request { s with gone, closing := c } :=
  ⟨hs.filed, hs.distinct, hs.once, hs.handler, hs.continued, hs.released, hs.inflight, h⟩

/-- **Every step that the condition allows keeps the invariant.** -/
theorem step_invariant (hs : Invariant request s) {e : Event ι} (h : Allowed request s e) :
    Invariant request (step request policy s e) := by
  cases e with
  | requestPaused i =>
    by_cases hpc : s.pc i = .idle
    · obtain ⟨hi, hset⟩ := hs.not_acquired (.inl hpc)
      simp only [step, if_pos hpc]
      split_ifs
      · exact hs.put_without hi hset
      · exact hs.checkMethod hi hset
    · simp only [step, if_neg hpc]
      exact hs
  | replayed i deferred =>
    by_cases hpc : s.pc i = .replaying
    · obtain ⟨hi, hset⟩ := hs.not_acquired (.inr (.inl hpc))
      simp only [step, if_pos hpc]
      split_ifs
      · exact hs.checkMethod hi hset
      · exact hs.put_without hi hset
    · simp only [step, if_neg hpc]
      exact hs
  | authorized i allowed =>
    by_cases hpc : s.pc i = .authorizing
    · obtain ⟨hi, hset⟩ := hs.not_acquired (.inr (.inr (.inl hpc)))
      simp only [step, if_pos hpc]
      split_ifs
      · exact hs.put_without hi hset
      · exact hs.put_without hi hset
      · exact hs.put_without hi hset
    · simp only [step, if_neg hpc]
      exact hs
  | acquired i ok =>
    by_cases hpc : s.pc i = .acquiring
    · obtain ⟨hi, hset⟩ := hs.not_acquired (.inr (.inr (.inr hpc)))
      simp only [step, if_pos hpc]
      split_ifs
      · exact hs.file hpc
      · exact hs.put_without hi hset
    · simp only [step, if_neg hpc]
      exact hs
  | continued i ok =>
    have h : s.closing = .returned → s.pc i = .continuing → ok = true → i ∈ s.acquired →
        s.released i = true := h
    by_cases hpc : s.pc i = .continuing
    · simp only [step, if_pos hpc]
      split_ifs with hok hi
      · exact hs.goOn hpc fun hret hi => h hret hpc hok hi
      · exact hs.giveBack hi hpc
      · exact hs.put_without hi (by rw [hpc]; simp)
    · simp only [step, if_neg hpc]
      exact hs
  | failed i =>
    simp only [step]
    split_ifs with hpc
    · refine hs.put (fun _ => .inr (.inr rfl)) (fun _ => rfl) (fun hr => ?_) (fun hret hi hr => ?_)
      · exact (hs.released i hr).2.imp_right fun h => ⟨h.1, by simp⟩
      · have hcontinuing := hs.returned hret i hi hr
        rw [hpc] at hcontinuing
        cases hcontinuing
    · exact hs
  | thrown i =>
    simp only [step]
    split_ifs with hpc
    · obtain ⟨hi, hset⟩ := hs.not_acquired (.inr (hpc.imp_right .inl))
      exact hs.put_without hi hset
    · exact hs
  | requestfinished i => exact hs.report h
  | requestfailed i => exact hs.report h
  | gone => exact hs.close hs.returned
  | close =>
    simp only [step]
    split_ifs
    · exact hs.close (by simp)
    · exact hs
  | closed =>
    simp only [step]
    split_ifs with hclosing
    · exact hs.close fun _ => h hclosing
    · exact hs

end OfflineWebArchiver.NetworkPermits
