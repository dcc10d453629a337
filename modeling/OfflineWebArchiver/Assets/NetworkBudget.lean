import OfflineWebArchiver.Assets.Transfer
import OfflineWebArchiver.Scheduler.BudgetCalls

/-!
# A download and the budget of its requests

The ports of a download with the `InMemoryOriginNetworkBudget` as its budget. Other callers share
the budget: whenever the download awaits something, any number of their calls come between. They
have only their own permits to release.

* `acquire`: the loop of the budget's `acquire`.
* `budgetedPorts`: the ports; they count the requests and note the permits.
* `Aside`: what a part of the download leaves as it is. `keeps_shared` has it of every port.
-/

namespace OfflineWebArchiver

open Procedure

namespace Scheduler

/-- The requests of the origin in flight, as the budget counts them. -/
def BudgetSystem.inflight (s : BudgetSystem) (origin : String) : ℕ := (s.states origin).elim 0 (·.inflight)

/-- What is in flight are the permits that nobody has released. -/
def BudgetSystem.Counted (s : BudgetSystem) : Prop :=
  ∀ origin, s.inflight origin = s.permits.count (·.origin == origin)

/-- The permit of the ticket is not released. -/
def BudgetSystem.Live (s : BudgetSystem) (ticket : ℕ) : Prop := ∃ permit, (ticket, permit) ∈ s.permits.live

variable {env : BudgetEnv} {configuration : BudgetConfiguration} {s : BudgetSystem} {e : BudgetEvent}

theorem state_inflight (states : OriginBudgets) (origin : String) (nowMs : ℚ) :
    (states.state configuration origin nowMs).inflight = (states origin).elim 0 (·.inflight) := by
  unfold OriginBudgets.state
  cases states origin <;> rfl

theorem BudgetSystem.Counted.set {t : BudgetSystem} (h : s.Counted) {origin : String} {state : OriginBudgetState}
    (hstates : t.states = s.states.set origin state)
    (hsame : state.inflight = t.permits.count (·.origin == origin))
    (hother : ∀ other, other ≠ origin → t.permits.count (·.origin == other) = s.permits.count (·.origin == other)) :
    t.Counted := by
  intro other
  unfold BudgetSystem.inflight
  rw [hstates]
  by_cases hne : other = origin
  · subst hne
    rw [OriginBudgets.set_same]
    exact hsame
  · rw [OriginBudgets.set_of_ne hne, hother other hne]
    exact h other

/-- **Every call keeps the count.** -/
theorem BudgetSystem.Counted.of_step {t : BudgetSystem} (h : s.Counted) (hcases : BudgetStep env configuration s e t) :
    t.Counted := by
  have hstate (origin : String) : (s.states.state configuration origin e.nowMs).inflight =
      s.permits.count (·.origin == origin) := (state_inflight _ _ _).trans (h origin)
  cases hcases with
  | idle waiting _ => exact h
  | kept origin state waiting _ hkept =>
    exact h.set rfl (hkept.inflight.trans (hstate origin)) fun _ _ => rfl
  | granted origin waiting _ _ =>
    refine h.set rfl ?_ fun other hne => ?_
    · rw [Tickets.count_grant]
      change (refill configuration _ e.nowMs).inflight + 1 = _
      rw [refill_inflight, hstate]
      simp
    · simp [Tickets.count_grant, Ne.symm hne]
  | @released ticket permit _ hlive =>
    have hcount := fun origin : String => Tickets.count_giveBack (p := (·.origin == origin)) hlive
    cases hfound : s.states permit.origin with
    | none =>
      have hnone := h permit.origin
      have hone := hcount permit.origin
      simp only [BudgetSystem.inflight, hfound, Option.elim_none, beq_self_eq_true, if_true] at hnone hone
      omega
    | some state =>
      have hset : releasePermit permit.origin s.states =
          s.states.set permit.origin { state with inflight := state.inflight - 1 } := by simp [releasePermit, hfound]
      refine h.set hset ?_ fun other hne => ?_
      · have hsome := h permit.origin
        have hone := hcount permit.origin
        simp only [BudgetSystem.inflight, hfound, Option.elim_some, beq_self_eq_true, if_true] at hsome hone
        change state.inflight - 1 = (s.permits.giveBack ticket permit).count _
        omega
      · have hsame := hcount other
        simp only [beq_iff_eq, Ne.symm hne, if_false] at hsame
        exact hsame.symm
  | restored origin ms lastStatus _ => exact h.set rfl (hstate origin) fun _ _ => rfl

theorem BudgetSystem.Counted.step (h : s.Counted) : (s.step env configuration e).Counted :=
  h.of_step (BudgetSystem.step_cases env configuration s e)

theorem counted_budgetAt (es : List BudgetEvent) (n : ℕ) : (budgetAt env configuration es n).Counted :=
  Run.stAt_induction (P := BudgetSystem.Counted) (fun _ => rfl) (fun _ _ _ h => h.step) n

end Scheduler

namespace Assets

open Scheduler

/-- Everything outside, the budget, the permits that were granted to the download (by their
tickets), and how many requests it has issued. -/
structure BudgetedWorld (W : Type) where
  outside : W
  budget : BudgetSystem
  acquired : List ℕ
  requests : ℕ

/-- The budget of a run, and what else there is of it. -/
structure BudgetPorts (W : Type) where
  env : BudgetEnv
  configuration : BudgetConfiguration
  nowMs : W → ℚ
  /-- `sleep(milliseconds, signal)` -/
  sleep : ℚ → Procedure W DownloadThrown Unit
  /-- What the other callers do while the download awaits. -/
  others : W → List BudgetEvent
  /-- A bound on the rounds of an `acquire` that waits. -/
  acquireRounds : ℕ

/-- A call that releases no permit of the download. -/
def ofOthers (acquired : List ℕ) (e : BudgetEvent) : Bool :=
  match e.call with
  | .release ticket => !acquired.contains ticket
  | _ => true

variable {W α : Type} (ports : DownloadPorts W) (b : BudgetPorts W)

/-- Await a port while others call. -/
def shared (m : Procedure W DownloadThrown α) : Procedure (BudgetedWorld W) DownloadThrown α := fun s =>
  ((m s.outside).1, { s with
    outside := (m s.outside).2
    budget := ((b.others (m s.outside).2).filter (ofOthers s.acquired)).foldl
      (BudgetSystem.step b.env b.configuration) s.budget })

/-- The permit is granted to the download. -/
def BudgetedWorld.granted (s : BudgetedWorld W) (permit : OriginNetworkPermit) (states : OriginBudgets) :
    BudgetedWorld W :=
  { s with budget := ⟨states, s.budget.waiting, s.budget.permits.grant permit⟩
           acquired := s.acquired ++ [s.budget.permits.granted.length] }

/-- One round of the loop of `acquire`. -/
def acquireOnce (origin : String) : Procedure (BudgetedWorld W) DownloadThrown (Unit ⊕ ℕ) := do
  let s ← Procedure.read
  raiseIf (.error "The network request budget acquisition was cancelled") (ports.aborted s.outside = true)
  match acquireRound b.configuration origin (b.nowMs s.outside) s.budget.states with
  | (.inl permit, states) => do
    Procedure.modify fun s => s.granted permit states
    return .inr s.budget.permits.granted.length
  | (.inr wait, states) => do
    Procedure.modify fun s => { s with budget := { s.budget with states } }
    shared b (b.sleep wait)
    return .inl ()

/-- `acquire({ origin, signal })`: the ticket of the permit. -/
def acquire (url : String) : Procedure (BudgetedWorld W) DownloadThrown ℕ := do
  let origin ← check ((canonicalOrigin b.env.toSchedulerEnv url).mapError fun e => .error e.message)
  rounds (fun _ => acquireOnce ports b origin) b.acquireRounds ()

/-- `release()` of the permit. -/
def release (ticket : ℕ) (s : BudgetedWorld W) : BudgetedWorld W :=
  { s with budget := s.budget.step b.env b.configuration ⟨b.nowMs s.outside, .release ticket⟩ }

/-- The ports with this budget. -/
def budgetedPorts : DownloadPorts (BudgetedWorld W) where
  aborted s := ports.aborted s.outside
  now s := ports.now s.outside
  authorizeUrl url := shared b (ports.authorizeUrl url)
  acquire := acquire ports b
  release := release b
  request r := do
    Procedure.modify fun s => { s with requests := s.requests + 1 }
    shared b (ports.request r)
  observeResponse observed := shared b (ports.observeResponse observed)
  nextChunk := shared b ports.nextChunk
  cancelBody := shared b ports.cancelBody
  heartbeat := shared b ports.heartbeat
  saveArtifactCheckpoint c := shared b (ports.saveArtifactCheckpoint c)
  saveCompletedOutputs path byteLength sha256 := shared b (ports.saveCompletedOutputs path byteLength sha256)
  ensureAssetSource i := shared b (ports.ensureAssetSource i)
  beginAssetDownload i := shared b (ports.beginAssetDownload i)
  saveAssetProgress i := shared b (ports.saveAssetProgress i)
  assertAssetFinalizationOwnership i := shared b (ports.assertAssetFinalizationOwnership i)
  getAssetContent projectId sha256 := shared b (ports.getAssetContent projectId sha256)
  finalizeAssetDownload i := shared b (ports.finalizeAssetDownload i)
  markAssetInterrupted i := shared b (ports.markAssetInterrupted i)
  hashFile path maximumBytes := shared b (ports.hashFile path maximumBytes)
  preparePartial path previous offset := shared b (ports.preparePartial path previous offset)
  exists_ path := shared b (ports.exists_ path)
  openFile path := shared b (ports.openFile path)
  truncate length := shared b (ports.truncate length)
  write bytes bufferOffset length position := shared b (ports.write bytes bufferOffset length position)
  sync := shared b ports.sync
  close := shared b ports.close
  promote source destination := shared b (ports.promote source destination)
  remove path := shared b (ports.remove path)
  acquireContentLock sha256 := shared b (ports.acquireContentLock sha256)
  releaseContentLock := shared b ports.releaseContentLock

/-! ### What the parts of a download leave as it is -/

/-- The permits that others hold. -/
def BudgetedWorld.elsewhere (s : BudgetedWorld W) : List (ℕ × OriginNetworkPermit) :=
  s.budget.permits.live.filter fun held => !s.acquired.contains held.1

/-- The books are right: the permits of the download were granted, and what is in flight is
counted. -/
structure Booked (s : BudgetedWorld W) : Prop where
  granted : ∀ k ∈ s.acquired, k < s.budget.permits.granted.length
  counted : s.budget.Counted

/-- Nothing is acquired or requested, and of the permits of the download only those in `free` may
end. When the others are `quiet` they keep their permits. -/
structure Aside (quiet : Prop) (free : ℕ → Prop) (s t : BudgetedWorld W) : Prop where
  acquired : t.acquired = s.acquired
  requests : t.requests = s.requests
  booked : Booked s → Booked t
  live : Booked s → ∀ k ∈ s.acquired, ¬free k → (t.budget.Live k ↔ s.budget.Live k)
  elsewhere : Booked s → (∀ k, free k → k ∈ s.acquired) → quiet → t.elsewhere = s.elsewhere

instance (quiet : Prop) (free : ℕ → Prop) : IsPreorder (BudgetedWorld W) (Aside quiet free) where
  refl s := ⟨rfl, rfl, fun h => h, fun _ _ _ _ => Iff.rfl, fun _ _ _ => rfl⟩
  trans s t u h h' := by
    refine ⟨h'.acquired.trans h.acquired, h'.requests.trans h.requests, fun hs => h'.booked (h.booked hs),
      fun hs k hk hfree => ?_, fun hs hown hquiet => ?_⟩
    · exact (h'.live (h.booked hs) k (h.acquired ▸ hk) hfree).trans (h.live hs k hk hfree)
    · have hown' : ∀ k, free k → k ∈ t.acquired := fun k hk => h.acquired ▸ hown k hk
      exact (h'.elsewhere (h.booked hs) hown' hquiet).trans (h.elsewhere hs hown hquiet)

variable {ports b} {quiet : Prop} {free : ℕ → Prop} {s : BudgetedWorld W}

theorem Aside.weaken {t : BudgetedWorld W} (h : Aside quiet (fun _ => False) s t) : Aside quiet free s t where
  acquired := h.acquired
  requests := h.requests
  booked := h.booked
  live hs k hk _ := h.live hs k hk id
  elsewhere hs _ := h.elsewhere hs fun _ hk => hk.elim

/-- A call of another caller spares the permits of the download. -/
theorem step_spares {acquired : List ℕ} {budget : BudgetSystem} {e : BudgetEvent} {env : BudgetEnv}
    {configuration : BudgetConfiguration} (hgranted : ∀ k ∈ acquired, k < budget.permits.granted.length)
    (hothers : ofOthers acquired e = true) :
    (∀ k ∈ acquired, k < (budget.step env configuration e).permits.granted.length) ∧
      ∀ k ∈ acquired, ((budget.step env configuration e).Live k ↔ budget.Live k) := by
  unfold BudgetSystem.Live
  rcases BudgetSystem.step_permits env configuration budget e with hsame | ⟨permit, hgrant⟩ | ⟨ticket, permit, hcall, hback⟩
  · rw [hsame]
    exact ⟨hgranted, fun _ _ => Iff.rfl⟩
  · rw [hgrant]
    refine ⟨fun k hk => ?_, fun k hk => ?_⟩
    · have hlt := hgranted k hk
      simp only [Tickets.grant, List.length_append, List.length_singleton]
      omega
    · have hne : k ≠ budget.permits.granted.length := Nat.ne_of_lt (hgranted k hk)
      simp [Tickets.grant, hne]
  · rw [hback]
    refine ⟨hgranted, fun k hk => ?_⟩
    have hne : k ≠ ticket := by
      rintro rfl
      simp [ofOthers, hcall, hk] at hothers
    refine exists_congr fun p => List.mem_erase_of_ne ?_
    exact fun heq => hne (Prod.mk.injEq .. ▸ heq).1

/-- **Every port** leaves the permits of the download alone. -/
theorem keeps_shared (m : Procedure W DownloadThrown α) :
    Keeps (Aside (∀ w, b.others w = []) free) (shared b m) := by
  intro s
  refine Aside.weaken ?_
  have hfold : ∀ (es : List BudgetEvent) (budget : BudgetSystem), (∀ e ∈ es, ofOthers s.acquired e = true) →
      (∀ k ∈ s.acquired, k < budget.permits.granted.length) → budget.Counted →
      let after := es.foldl (BudgetSystem.step b.env b.configuration) budget
      (∀ k ∈ s.acquired, k < after.permits.granted.length) ∧ after.Counted ∧
        ∀ k ∈ s.acquired, (after.Live k ↔ budget.Live k) := by
    intro es
    induction es with
    | nil => exact fun budget _ hgranted hcounted => ⟨hgranted, hcounted, fun _ _ => Iff.rfl⟩
    | cons e es ih =>
      intro budget hothers hgranted hcounted
      obtain ⟨hgranted', hlive⟩ : _ ∧ ∀ k ∈ s.acquired,
          ((budget.step b.env b.configuration e).Live k ↔ budget.Live k) :=
        step_spares hgranted (hothers e List.mem_cons_self)
      have hrest := ih _ (fun e he => hothers e (List.mem_cons_of_mem _ he)) hgranted' hcounted.step
      exact ⟨hrest.1, hrest.2.1, fun k hk => (hrest.2.2 k hk).trans (hlive k hk)⟩
  have hafter := fun hs : Booked s => hfold ((b.others (m s.outside).2).filter (ofOthers s.acquired)) s.budget
    (fun e he => (List.mem_filter.1 he).2) hs.granted hs.counted
  refine ⟨rfl, rfl, fun hs => ⟨(hafter hs).1, (hafter hs).2.1⟩, fun hs k hk _ => (hafter hs).2.2 k hk, fun _ _ hquiet => ?_⟩
  unfold BudgetedWorld.elsewhere shared
  simp only [hquiet, List.filter_nil, List.foldl_nil]

end Assets

end OfflineWebArchiver
