import OfflineWebArchiver.Assets.Transfer
import OfflineWebArchiver.Scheduler.Calls
import OfflineWebArchiver.Scheduler.Sample

/-!
# Scheduler and downloader on the proxy of a job

The scheduler chooses a proxy for a job that names none; the downloader takes a job that
names none for one that must have none.

* `granted_affinity_iff`: **exactly which reservations the downloader accepts.**
* `affinity_refused`: a pool, a job without a proxy, and a reservation that is refused.
-/

namespace OfflineWebArchiver

open Scheduler Assets

/-- The job names its proxy where the downloader looks for it: in its session, when it has one. -/
def NamesProxy (job : SchedulerJob) : Prop :=
  match job.session with
  | some session => session.proxyId ≠ none
  | none => job.proxyId ≠ none

/-- A proxy was chosen, the one that the job asks for if it asks for one. -/
theorem assertProxyAffinity_chosen {r : WorkerReservation} {proxy : ProxyMetadata} (hproxy : r.proxy = some proxy)
    (hrequested : r.job.requestedProxyId.all (proxy.id == ·) = true) :
    assertProxyAffinity r = .ok () ↔ NamesProxy r.job := by
  unfold SchedulerJob.requestedProxyId at hrequested
  unfold assertProxyAffinity NamesProxy
  rw [hproxy, Option.map_some]
  cases hsession : r.job.session with
  | none =>
    rw [hsession] at hrequested
    cases hexplicit : r.job.proxyId with
    | none => simp
    | some id =>
      rw [hexplicit] at hrequested
      have hid : proxy.id = id := by simpa using hrequested
      simp [hid]
  | some session =>
    rw [hsession] at hrequested
    cases haffinity : session.proxyId with
    | none =>
      -- whatever the job itself names, the session must have the proxy
      simp only [Option.bind_some, haffinity, Option.none_or, Option.any_some, ne_eq, not_true_eq_false, iff_false]
      split_ifs <;> simp_all
    | some id =>
      have hid : proxy.id = id := by simpa [haffinity] using hrequested
      simp [haffinity, hid]

theorem assertProxyAffinity_direct {r : WorkerReservation} (hproxy : r.proxy = none)
    (hunbound : r.job.requestedProxyId = none) : assertProxyAffinity r = .ok () := by
  unfold SchedulerJob.requestedProxyId at hunbound
  obtain ⟨haffinity, -⟩ := Option.or_eq_none_iff.1 hunbound
  unfold assertProxyAffinity
  rw [hproxy, hunbound]
  cases hsession : r.job.session with
  | none => simp
  | some session =>
    have hnull : session.proxyId = none := by simpa [hsession] using haffinity
    simp [hnull]

/-- **Exactly which reservations the downloader accepts**: those of a direct pool, and those of
jobs that name their proxy, by the session when they have one. -/
theorem granted_affinity_iff {env : SchedulerEnv} {configuration : WorkerPoolConfiguration} {runId : String}
    {input : ReserveInput} {isPaused : String → ℤ → Bool} {clock : ℕ → ℤ} {s t : Scheduler.Pool} {r : WorkerReservation}
    (h : tryReserveWorker env configuration runId input isPaused clock s = (.ok (some r), t)) :
    assertProxyAffinity r = .ok () ↔ configuration.connectionMode = .direct ∨ NamesProxy input.job := by
  rcases tryReserveWorker_cases h with ⟨hnot, -⟩ | ⟨r', hr, hgranted⟩
  · exact absurd rfl (hnot r)
  obtain rfl : r = r' := Option.some.inj (Except.ok.inj hr)
  obtain ⟨u, hselection, -⟩ := hgranted.selection
  have hnames : NamesProxy r.job ↔ NamesProxy input.job := by rw [hgranted.job]; rfl
  have hrequested : r.job.requestedProxyId = input.job.requestedProxyId := by rw [hgranted.job]; rfl
  by_cases hmode : configuration.connectionMode = .direct
  · -- a direct pool refuses jobs that are bound to a proxy
    refine iff_of_true ?_ (.inl hmode)
    generalize hproxy : r.proxy = chosen at hselection
    generalize r.halfOpenProbe = probe at hselection
    cases hselection with
    | direct _ hunbound => exact assertProxyAffinity_direct hproxy (hrequested.trans hunbound)
    | nothing hnot _ => exact absurd hmode hnot
    | chosen hnot _ _ _ => exact absurd hmode hnot
  · generalize hproxy : r.proxy = chosen at hselection
    generalize r.halfOpenProbe = probe at hselection
    cases hselection with
    | direct hdirect _ => exact absurd hdirect hmode
    | nothing _ _ => exact absurd hproxy (hgranted.proxied hmode)
    | chosen _ hnamed _ _ =>
      rw [assertProxyAffinity_chosen hproxy (hrequested ▸ hnamed), hnames]
      exact ⟨.inr, fun h => h.resolve_left hmode⟩

/-- The reservation of the small pool for a job that names `proxyId`. -/
def sampleReservation (proxyId : Option String) : WorkerReservation where
  workerId := "w"
  runId := "r"
  job := { jobId := "j", url := "https://a.test/", origin := some "https://a.test", proxyId := proxyId }
  origin := "https://a.test"
  proxy := some Scheduler.Sample.proxy
  startedAtMs := 0
  halfOpenProbe := false

/-- A job that names its proxy gets it, and the downloader agrees. -/
theorem granted_affinity_named : assertProxyAffinity (sampleReservation (some "p")) = .ok () := by
  have h : Scheduler.Sample.reserve Scheduler.Sample.pool "w" (some "p") 0 {} =
      (.ok (some (sampleReservation (some "p"))),
        (Scheduler.Sample.reserve Scheduler.Sample.pool "w" (some "p") 0 {}).2) :=
    Prod.ext (by decide +kernel) rfl
  exact (granted_affinity_iff h).2 (.inr (Option.some_ne_none "p"))

/-- **A reservation that is refused**: the job names no proxy, the pool has chosen one. -/
theorem affinity_refused :
    ¬∀ (env : SchedulerEnv) (configuration : WorkerPoolConfiguration) (runId : String) (input : ReserveInput)
        (isPaused : String → ℤ → Bool) (clock : ℕ → ℤ) (s t : Scheduler.Pool) (r : WorkerReservation),
      tryReserveWorker env configuration runId input isPaused clock s = (.ok (some r), t) →
        assertProxyAffinity r = .ok () := by
  intro h
  have haccepted := h Scheduler.Sample.env Scheduler.Sample.pool "r" (Scheduler.Sample.input "w" none)
    Scheduler.Sample.never (fun _ => 0) {} _ (sampleReservation none) (Prod.ext (by decide +kernel) rfl)
  cases haccepted

end OfflineWebArchiver
