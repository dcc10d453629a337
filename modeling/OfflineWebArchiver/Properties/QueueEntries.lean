import Mathlib.Data.List.Nodup
import Mathlib.Order.Bounds.Basic
import OfflineWebArchiver.Lifecycle.Enqueue
import OfflineWebArchiver.Lifecycle.Outcome
import OfflineWebArchiver.Properties.Sample

/-!
# The queue against the history of its enqueues

The history of a run is the list of the enqueues that the store has accepted. `Enrolled` says what
one of them does to the jobs, `Collected` what all of them leave.

* `entries_run`: **no job is lost, and only its depth changes, which falls.**
* `pages_run`: **one job for each page of the history, at the least depth asked for.**
* `pageLimit_run`: **a page limit that all enqueues of a crawl share is never passed.**
-/

namespace OfflineWebArchiver

open Relational Program

/-- What a page limit is about: a run, a profile revision and an engine version. -/
abbrev Crawl := String × String × ℕ

/-- What no two jobs share. -/
abbrev PageKey := Crawl × Option String

def JobEntry.crawl (a : JobEntry) : Crawl := (a.runId, a.profileRevisionId, a.engineVersion)

def QueueEnqueueInput.crawl (input : QueueEnqueueInput) : Crawl :=
  (input.runId, input.scopeDecision.profileRevisionId, input.scopeDecision.engineVersion)

def JobEntry.page (a : JobEntry) : PageKey := (a.crawl, some a.identityHash)

def QueueEnqueueInput.page (input : QueueEnqueueInput) : PageKey := (input.crawl, input.scopeDecision.identityHash)

def QueueEnqueueInput.depth (input : QueueEnqueueInput) : ℕ := input.scopeDecision.depth.toNat

/-- The number of jobs of a crawl. -/
def pagesOf (c : Crawl) (xs : List JobEntry) : ℕ := xs.countP fun a => a.crawl = c

/-- The depths that the history asks for a page. -/
def depthsOf (history : List QueueEnqueueInput) (p : PageKey) : Set ℕ :=
  {d | ∃ i ∈ history, i.page = p ∧ i.depth = d}

/-- The enqueue has created or found a job. -/
def QueueEnqueueResult.queued : QueueEnqueueResult → Bool
  | .created _ _ | .existing _ _ => true
  | .blocked _ | .rejected _ => false

/-- The input of an enqueue that is no repeat and that the store accepts. -/
def acceptedEnqueue (env : Env) (db : Db) (e : Event) : Option QueueEnqueueInput :=
  match e.op, exec env db e with
  | .enqueue input, .ok (.stored (.enqueued result), _) =>
    if !recorded db .enqueue input.idempotencyKey && result.queued then some input else none
  | _, _ => none

/-- What the store has accepted in the first `n` events. -/
def acceptedAt (env : Env) (project : Project) (createdAt : Timestamp) (es : List Event) (n : ℕ) :
    List QueueEnqueueInput :=
  (List.range n).filterMap fun m => es[m]?.bind (acceptedEnqueue env (storeAt env project createdAt es m))

abbrev Db.entries (db : Db) : List JobEntry := db.pageJobs.rows.map entryOf

variable {env : Env} {db db' : Db} {input : QueueEnqueueInput} {jobId : String}
  {history : List QueueEnqueueInput} {xs ys zs : List JobEntry}

/-! ### One enqueue -/

/-- The jobs are there, and only their depths change. -/
def Lowered (xs ys : List JobEntry) : Prop :=
  ∀ a ∈ xs, ∃ b ∈ ys, { b with depth := a.depth } = a ∧ b.depth ≤ a.depth

theorem Lowered.refl (xs : List JobEntry) : Lowered xs xs := fun a ha => ⟨a, ha, rfl, le_rfl⟩

theorem Lowered.trans (h : Lowered xs ys) (h' : Lowered ys zs) : Lowered xs zs := by
  intro a ha
  obtain ⟨b, hb, hab, hle⟩ := h a ha
  obtain ⟨c, hc, hbc, hle'⟩ := h' b hb
  refine ⟨c, hc, ?_, hle'.trans hle⟩
  rw [← hbc] at hab
  exact hab

theorem Lowered.mem (h : Lowered xs ys) {p : PageKey} (ha : ∃ a ∈ xs, a.page = p) : ∃ b ∈ ys, b.page = p := by
  obtain ⟨a, ha, rfl⟩ := ha
  obtain ⟨b, hb, hab, -⟩ := h a ha
  have hpage := congrArg JobEntry.page hab
  exact ⟨b, hb, hpage⟩

/-- What an accepted enqueue does to the jobs. -/
structure Enrolled (input : QueueEnqueueInput) (xs ys : List JobEntry) : Prop where
  lowered : Lowered xs ys
  nodup : (xs.map JobEntry.page).Nodup → (ys.map JobEntry.page).Nodup
  entered : ∃ b ∈ ys, b.page = input.page
  depth : ∀ b ∈ ys, b.page = input.page →
    (∃ a ∈ xs, a.page = input.page ∧ b.depth = min input.depth a.depth) ∨
      (∀ a ∈ xs, a.page ≠ input.page) ∧ b.depth = input.depth
  other : ∀ b ∈ ys, b.page ≠ input.page → b ∈ xs
  limit : ∀ c, pagesOf c ys = pagesOf c xs ∨
    c = input.crawl ∧ ∀ maxPages, input.maxPages = some maxPages → (pagesOf c ys : ℤ) ≤ maxPages

theorem standsFor_iff {a : PageJobRow} : a.standsFor input ↔ (entryOf a).page = input.page := by
  simp only [PageJobRow.standsFor, JobEntry.page, JobEntry.crawl, QueueEnqueueInput.page,
    QueueEnqueueInput.crawl, entryOf, Prod.mk.injEq, and_assoc]

@[simp] theorem lower_page (d : ℕ) (a : JobEntry) : (a.lower jobId d).page = a.page := by
  unfold JobEntry.lower
  split <;> rfl

theorem Lowered.lower (d : ℕ) : Lowered xs (xs.map (.lower jobId d)) := by
  intro a ha
  refine ⟨a.lower jobId d, List.mem_map_of_mem ha, ?_⟩
  unfold JobEntry.lower
  split
  · exact ⟨rfl, min_le_left _ _⟩
  · exact ⟨rfl, le_rfl⟩

/-- The page is queued. -/
theorem Enrolled.existing {a : PageJobRow} (hnodup : (db.entries.map JobEntry.page).Nodup)
    (ha : a ∈ db.pageJobs.rows) (hpage : a.standsFor input) :
    Enrolled input db.entries (db.entries.map (.lower a.jobId input.depth)) := by
  rw [standsFor_iff] at hpage
  have hmem : entryOf a ∈ db.entries := List.mem_map_of_mem ha
  have hpages : (db.entries.map (.lower a.jobId input.depth)).map JobEntry.page =
      db.entries.map JobEntry.page := by simp [Function.comp_def]
  refine ⟨.lower _, fun _ => hpages ▸ hnodup, (Lowered.lower _).mem ⟨entryOf a, hmem, hpage⟩, ?_, ?_,
    fun c => Or.inl ?_⟩
  · intro _ hlower hp
    obtain ⟨b, hb, rfl⟩ := List.mem_map.1 hlower
    rw [lower_page] at hp
    obtain rfl := List.inj_on_of_nodup_map hnodup hb hmem (hp.trans hpage.symm)
    refine Or.inl ⟨_, hb, hp, ?_⟩
    simp [JobEntry.lower, entryOf, min_comm]
  · intro _ hlower hp
    obtain ⟨b, hb, rfl⟩ := List.mem_map.1 hlower
    rw [lower_page] at hp
    have hne : b.jobId ≠ a.jobId := by
      intro hid
      obtain ⟨row, hrow, rfl⟩ := List.mem_map.1 hb
      rw [job_eq hrow ha hid] at hp
      exact hp hpage
    unfold JobEntry.lower
    rwa [if_neg hne]
  · have hcrawl : ∀ b : JobEntry, (b.lower a.jobId input.depth).crawl = b.crawl := fun b =>
      congrArg Prod.fst (lower_page _ b)
    simp [pagesOf, List.countP_map, Function.comp_def, hcrawl]

/-- The page is new. -/
theorem Enrolled.created {a : PageJobRow} (hnodup : (db.entries.map JobEntry.page).Nodup)
    (hnew : ∀ b ∈ db.pageJobs.rows, ¬b.standsFor input) (ha : a.standsFor input)
    (hdepth : a.depth = input.depth)
    (hlimit : ∀ maxPages, input.maxPages = some maxPages → (pagesOf input.crawl db.entries : ℤ) < maxPages) :
    Enrolled input db.entries (db.entries ++ [entryOf a]) := by
  rw [standsFor_iff] at ha
  have hold : ∀ b ∈ db.entries, b.page ≠ input.page := by
    intro b hb hp
    obtain ⟨row, hrow, rfl⟩ := List.mem_map.1 hb
    exact hnew row hrow (standsFor_iff.2 hp)
  have hself : entryOf a ∈ db.entries ++ [entryOf a] := by simp
  refine ⟨fun b hb => ⟨b, List.mem_append_left _ hb, rfl, le_rfl⟩, ?_, ⟨_, hself, ha⟩, ?_, ?_, fun c => ?_⟩
  · intro _
    rw [List.map_append, List.map_singleton, ha]
    refine List.nodup_append.2 ⟨hnodup, List.nodup_singleton _, fun p hp q hq => ?_⟩
    obtain ⟨b, hb, rfl⟩ := List.mem_map.1 hp
    rw [List.mem_singleton.1 hq]
    exact hold b hb
  · intro b hb hp
    rcases List.mem_append.1 hb with hb | hb
    · exact absurd hp (hold b hb)
    · rw [List.mem_singleton.1 hb]
      exact Or.inr ⟨hold, hdepth⟩
  · intro b hb hp
    rcases List.mem_append.1 hb with hb | hb
    · exact hb
    · rw [List.mem_singleton.1 hb] at hp
      exact absurd ha hp
  · have hcrawl : (entryOf a).crawl = input.crawl := congrArg Prod.fst ha
    have hcount : pagesOf c (db.entries ++ [entryOf a]) =
        pagesOf c db.entries + if input.crawl = c then 1 else 0 := by
      simp [pagesOf, List.countP_append, List.countP_singleton, hcrawl]
    rw [hcount]
    by_cases hc : input.crawl = c
    · refine Or.inr ⟨hc.symm, fun maxPages hmax => ?_⟩
      have hlt := hlimit maxPages hmax
      rw [if_pos hc, ← hc]
      push_cast
      omega
    · rw [if_neg hc]
      exact Or.inl rfl

/-- **One step of a run**: it leaves the queue alone, or an enqueue is accepted. -/
theorem step_queue (env : Env) (e : Event) (hnodup : (db.entries.map JobEntry.page).Nodup) :
    (acceptedEnqueue env db e = none ∧ (step env db e).entries = db.entries) ∨
      ∃ input, acceptedEnqueue env db e = some input ∧ e.op = .enqueue input ∧
        Enrolled input db.entries (step env db e).entries := by
  rcases step_enqueued env db e with ⟨hcalm, hnone⟩ | ⟨input, result, hop, hnew, hx, he⟩
  · refine Or.inl ⟨?_, hcalm.entries⟩
    unfold acceptedEnqueue
    split
    · rename_i hop hx
      rcases hnone _ hop with hrec | ⟨t, ht⟩
      · simp [hrec]
      · rw [ht] at hx
        cases hx
    · rfl
  · have haccepted : acceptedEnqueue env db e = if result.queued then some input else none := by
      simp [acceptedEnqueue, hop, hx, hnew]
    rw [haccepted]
    generalize step env db e = db' at he
    cases he with
    | blocked _ hcalm => exact Or.inl ⟨rfl, hcalm.entries⟩
    | rejected _ hcalm => exact Or.inl ⟨rfl, hcalm.entries⟩
    | existing a job discovery hmem ha hjob hentries =>
      refine Or.inr ⟨input, rfl, hop, ?_⟩
      have heq : db'.entries = db.entries.map (.lower a.jobId input.depth) := hentries
      rw [heq]
      exact .existing hnodup hmem ha
    | created a job discovery hnew ha hlimit hsequence hjob hdepth hentries =>
      refine Or.inr ⟨input, rfl, hop, ?_⟩
      have heq : db'.entries = db.entries ++ [entryOf a] := hentries
      rw [heq]
      refine .created hnodup hnew ha hdepth fun maxPages hmax => ?_
      refine lt_of_eq_of_lt (congrArg _ ?_) (hlimit maxPages hmax)
      unfold pagesOf Table.count
      rw [List.countP_map]
      refine List.countP_congr fun b _ => ?_
      rw [Function.comp_apply, decide_eq_true_eq]
      simp [JobEntry.crawl, QueueEnqueueInput.crawl, entryOf, and_assoc]

/-! ### Runs -/

/-- What the history leaves. -/
structure Collected (history : List QueueEnqueueInput) (xs : List JobEntry) : Prop where
  nodup : (xs.map JobEntry.page).Nodup
  queued : ∀ i ∈ history, ∃ a ∈ xs, a.page = i.page
  depth : ∀ a ∈ xs, IsLeast (depthsOf history a.page) a.depth

/-- **An accepted enqueue joins the history.** -/
theorem Collected.admit (h : Collected history xs) (ha : Enrolled input xs ys) : Collected (history ++ [input]) ys := by
  refine ⟨ha.nodup h.nodup, fun i hi => ?_, fun b hb => ?_⟩
  · rcases List.mem_append.1 hi with hi | hi
    · exact ha.lowered.mem (h.queued i hi)
    · rw [List.mem_singleton.1 hi]
      exact ha.entered
  · by_cases hp : b.page = input.page
    · have hinsert : depthsOf (history ++ [input]) b.page = insert input.depth (depthsOf history b.page) := by
        ext n
        simp [depthsOf, or_and_right, exists_or, hp, eq_comm, or_comm]
      rw [hinsert]
      rcases ha.depth b hb hp with ⟨a, hmem, hpa, hmin⟩ | ⟨hnone, hdepth⟩
      · rw [hmin, hp, ← hpa]
        exact (h.depth a hmem).insert _
      · have hempty : depthsOf history b.page = ∅ := by
          refine Set.eq_empty_of_forall_notMem fun n hn => ?_
          obtain ⟨i, hi, hpi, -⟩ := hn
          obtain ⟨a, hmem, hpa⟩ := h.queued i hi
          exact hnone a hmem (hpa.trans (hpi.trans hp))
        rw [hempty, hdepth]
        simp
    · have hsame : depthsOf (history ++ [input]) b.page = depthsOf history b.page := by
        ext n
        simp [depthsOf, or_and_right, exists_or, Ne.symm hp]
      rw [hsame]
      exact h.depth b (ha.other b hb hp)

variable (env) (project : Project) (createdAt : Timestamp) (es : List Event) (n : ℕ)

theorem collected_run : Collected (acceptedAt env project createdAt es n)
    (storeAt env project createdAt es n).entries := by
  induction n with
  | zero => exact ⟨List.nodup_nil, fun i hi => absurd hi List.not_mem_nil, fun a ha => absurd ha List.not_mem_nil⟩
  | succ n ih =>
    have hhistory : acceptedAt env project createdAt es (n + 1) = acceptedAt env project createdAt es n ++
        (es[n]?.bind (acceptedEnqueue env (storeAt env project createdAt es n))).toList := by
      unfold acceptedAt
      rw [List.range_succ, List.filterMap_append]
      cases h : es[n]?.bind (acceptedEnqueue env (storeAt env project createdAt es n)) <;> simp [h]
    rw [hhistory]
    cases he : es[n]? with
    | none =>
      have hstay : storeAt env project createdAt es (n + 1) = storeAt env project createdAt es n :=
        Run.stAt_succ_none he
      rw [hstay]
      simpa using ih
    | some e =>
      have hstep : storeAt env project createdAt es (n + 1) = step env (storeAt env project createdAt es n) e :=
        dbAt_succ he
      rw [hstep, Option.bind_some]
      rcases step_queue env e ih.nodup with ⟨hnone, hsame⟩ | ⟨input, hsome, -, ha⟩
      · rw [hnone, hsame]
        simpa using ih
      · rw [hsome]
        exact ih.admit ha

/-- **No job is ever lost or moved**, as each keeps its place and its id: only its depth changes, which falls. -/
theorem entries_run (k : ℕ) : Lowered (storeAt env project createdAt es n).entries
    (storeAt env project createdAt es (n + k)).entries := by
  refine Run.stAt_trans (r := fun db db' : Db => Lowered db.entries db'.entries) (fun _ => .refl _)
    (fun _ _ _ => .trans) (fun m e _ => ?_) (Nat.le_add_right n k)
  rcases step_queue env e (collected_run env project createdAt es m).nodup with
    ⟨-, hsame⟩ | ⟨_, -, -, ha⟩
  · exact hsame ▸ .refl _
  · exact ha.lowered

/-- **One job for each page that was asked for**, at the least depth that was. -/
theorem pages_run : ((storeAt env project createdAt es n).entries.map JobEntry.page).Nodup ∧
    (∀ i ∈ acceptedAt env project createdAt es n,
      ∃ a ∈ (storeAt env project createdAt es n).entries, a.page = i.page) ∧
    ∀ a ∈ (storeAt env project createdAt es n).entries,
      IsLeast (depthsOf (acceptedAt env project createdAt es n) a.page) a.depth :=
  have h := collected_run env project createdAt es n
  ⟨h.nodup, h.queued, h.depth⟩

/-- **A page limit that every enqueue of a crawl names is never passed.** -/
theorem pageLimit_run (c : Crawl) (maxPages : ℤ)
    (hes : ∀ e ∈ es, ∀ i, e.op = .enqueue i → i.crawl = c → i.maxPages = some maxPages) :
    (pagesOf c (storeAt env project createdAt es n).entries : ℤ) ≤ max maxPages 0 := by
  refine Run.stAt_induction (P := fun db : Db => (pagesOf c db.entries : ℤ) ≤ max maxPages 0)
    (le_max_right _ _) (fun m e he h => ?_) n
  rcases step_queue env e (collected_run env project createdAt es m).nodup with
    ⟨-, hsame⟩ | ⟨input, -, hop, ha⟩
  · exact hsame ▸ h
  · rcases ha.limit c with heq | ⟨rfl, hle⟩
    · exact (congrArg Nat.cast heq).trans_le h
    · exact (hle maxPages (hes e (List.mem_of_getElem? he) input hop rfl)).trans (le_max_left _ _)

namespace Sample

/-- Enqueue a page of a crawl of one page. -/
def limited (c : Char) (key : String) : Op :=
  match enqueue c 3 key with
  | .enqueue input => .enqueue { input with maxPages := some 1 }
  | op => op

/-- Two pages are asked for. -/
def limitedPages : List Event := [event 0 "a" (limited 'a' "k"), event 1 "b" (limited 'b' "l")]

/-- The second page is not queued. -/
theorem pageLimit_limitedPages :
    (pagesOf ("r", "prev", 1) (storeAt Sample.env Sample.project (minute 0) limitedPages 2).entries : ℤ) ≤ max 1 0 := by
  refine pageLimit_run Sample.env Sample.project (minute 0) limitedPages 2 ("r", "prev", 1) 1 fun e he i hop _ => ?_
  simp only [limitedPages, List.mem_cons, List.not_mem_nil, or_false] at he
  rcases he with rfl | rfl <;> exact Op.enqueue.inj hop ▸ rfl

end Sample

end OfflineWebArchiver
