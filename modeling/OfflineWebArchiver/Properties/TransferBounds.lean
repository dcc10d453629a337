import OfflineWebArchiver.Assets.NetworkBudget

/-!
# The bounds of a download

A download follows at most 20 redirects and restarts at most once, so it issues at most 22
requests; and however it ends, it has released every permit that it was granted.

* `Owns`: what is known of the permits between two steps of the download.
* `transferRound_spec`: one round of the loop.
* `handleResponse_next`, `transfer_stable`: every round that goes on uses up a redirect or the
  restart, so the loop ends by itself.
* `downloadAsset_bounded`: **the bounds hold on every exit.**
-/

namespace OfflineWebArchiver.Assets

open Procedure Scheduler

variable {W α : Type} {ports : DownloadPorts W} {b : BudgetPorts W} {env : DownloadEnv} {input : AssetDownloadInput}
  {target : TransferTarget} {free : ℕ → Prop} {s t : BudgetedWorld W} {st : TransferState} {permit : ℕ}
  {response : AssetNetworkResponse}

/-- The other callers do nothing. -/
abbrev BudgetPorts.Quiet (b : BudgetPorts W) : Prop := ∀ w, b.others w = []

/-! ### The parts of a download -/

section Parts

theorem keeps_truncatePartial (path : String) :
    Keeps (Aside b.Quiet free) (truncatePartial (budgetedPorts ports b) path) :=
  (keeps_shared _).bind fun _ => (keeps_shared _).bind fun _ => keeps_shared _

theorem keeps_writeRest (bytes : Chunk) (filePosition : ℤ) (n : ℕ) (bufferOffset : ℤ) :
    Keeps (Aside b.Quiet free) (writeRest (budgetedPorts ports b) bytes filePosition n bufferOffset) := by
  induction n generalizing bufferOffset with
  | zero => exact keeps_pure _
  | succ n ih =>
    refine Keeps.ite ?_ (keeps_pure _)
    exact (keeps_shared _).bind fun written => (keeps_raiseIf _ _).bind fun _ => ih _

theorem keeps_checkpoint (assetSourceId : String) (c : ArtifactCheckpoint) :
    Keeps (Aside b.Quiet free) (checkpoint input (budgetedPorts ports b) assetSourceId c) :=
  Keeps.ite (keeps_shared _) (keeps_pure _)

theorem keeps_saveProgress (written : ℤ) :
    Keeps (Aside b.Quiet free) (saveProgress input (budgetedPorts ports b) target st written) :=
  (keeps_shared _).bind fun _ => keeps_checkpoint _ _

theorem keeps_throwIfAborted : Keeps (Aside b.Quiet free) (throwIfAborted (budgetedPorts ports b)) :=
  keeps_read.bind fun _ => keeps_raiseIf _ _

theorem keeps_drain (ending : Result DownloadThrown Unit) (chunks : List Chunk) :
    Keeps (Aside b.Quiet free) (drain (budgetedPorts ports b) ending chunks) := by
  induction chunks with
  | nil => exact (keeps_shared _).bind fun _ => keeps_ofResult _
  | cons chunk chunks ih => exact (keeps_shared _).bind fun _ => ih

theorem keeps_storeChunk (chunk : Chunk) (written checkpointAt : ℤ) :
    Keeps (Aside b.Quiet free) (storeChunk input (budgetedPorts ports b) target st chunk written checkpointAt) := by
  refine keeps_throwIfAborted.bind fun _ => (keeps_raiseIf _ _).bind fun _ => ?_
  refine (keeps_writeRest _ _ _ _).bind fun count => Keeps.ite ?_ (keeps_pure _)
  refine (keeps_shared _).bind fun _ => (keeps_saveProgress _).bind fun _ => ?_
  exact (keeps_shared _).bind fun _ => keeps_pure _

theorem keeps_storeBody (ending : Result DownloadThrown Unit) (chunks : List Chunk) (written checkpointAt : ℤ) :
    Keeps (Aside b.Quiet free)
      (storeBody input (budgetedPorts ports b) target st ending chunks written checkpointAt) := by
  induction chunks generalizing written checkpointAt with
  | nil => exact (keeps_shared _).bind fun _ => (keeps_ofResult _).bind fun _ => keeps_pure _
  | cons chunk chunks ih =>
    refine (keeps_shared _).bind fun _ => Keeps.bind ?_ fun stored => ih stored.1 stored.2
    refine (keeps_storeChunk _ _ _).catching fun e => Keeps.bind ?_ fun _ => keeps_raise e
    exact (keeps_shared _).catching fun _ => keeps_pure _

theorem keeps_receiveBody :
    Keeps (Aside b.Quiet free) (receiveBody input (budgetedPorts ports b) target st response) := by
  refine (keeps_shared _).bind fun _ => (keeps_shared _).bind fun _ => ?_
  refine Keeps.bind (Keeps.ensuring ?_ (keeps_shared _)) fun stored => ?_
  · exact (keeps_storeBody _ _ _ _).bind fun _ => (keeps_shared _).bind fun _ => keeps_pure _
  · exact (keeps_raiseIf _ _).bind fun _ => (keeps_saveProgress _).bind fun _ => keeps_pure _

theorem keeps_storeResponse (m : ResponseMetadata) :
    Keeps (Aside b.Quiet free) (storeResponse input (budgetedPorts ports b) target st response m) :=
  (keeps_raiseIf _ _).bind fun _ => keeps_receiveBody

theorem keeps_restart : Keeps (Aside b.Quiet free) (restart (budgetedPorts ports b) target st) :=
  (keeps_truncatePartial _).bind fun _ => keeps_pure _

/-! ### The permit of a round -/

/-- What is known of the permits: those in `free` are the download's own and may be live, its
others are not. While the others are quiet they hold `elsewhere`. -/
structure Owns (b : BudgetPorts W) (elsewhere : List (ℕ × OriginNetworkPermit)) (free : ℕ → Prop)
    (s : BudgetedWorld W) : Prop where
  booked : Booked s
  own : ∀ k, free k → k ∈ s.acquired
  released : ∀ k ∈ s.acquired, ¬free k → ¬s.budget.Live k
  elsewhere : b.Quiet → s.elsewhere = elsewhere

variable {elsewhere : List (ℕ × OriginNetworkPermit)}

theorem Owns.aside (h : Owns b elsewhere free s) (hst : Aside b.Quiet free s t) : Owns b elsewhere free t where
  booked := hst.booked h.booked
  own k hk := by
    rw [hst.acquired]
    exact h.own k hk
  released k hk hfree := by
    rw [hst.acquired] at hk
    rw [hst.live h.booked k hk hfree]
    exact h.released k hk hfree
  elsewhere hquiet := (hst.elsewhere h.booked h.own hquiet).trans (h.elsewhere hquiet)

/-- After the call the permit is released, whether it was before or not. -/
theorem release_ends (k : ℕ) : ¬(release b k s).budget.Live k := by
  rintro ⟨p, hp⟩
  unfold release BudgetSystem.step at hp
  dsimp only at hp
  split at hp
  · rename_i hnone
    have hnamed := s.budget.permits.named k p hp
    rw [hnone] at hnamed
    cases hnamed
  · rename_i q hsome
    split_ifs at hp with hlive
    · have hnamed := s.budget.permits.named k p (List.mem_of_mem_erase hp)
      obtain rfl := Option.some.inj (hsome.symm.trans hnamed)
      exact s.budget.permits.nodup.not_mem_erase hp
    · have hnamed := s.budget.permits.named k p hp
      obtain rfl := Option.some.inj (hsome.symm.trans hnamed)
      exact hlive hp

theorem keeps_release (k : ℕ) :
    Keeps (Aside b.Quiet (· = k)) (modify (release b k) : Procedure (BudgetedWorld W) DownloadThrown Unit) := by
  intro s
  have hpermits : (release b k s).budget.permits = s.budget.permits ∨
      ∃ p, (release b k s).budget.permits = s.budget.permits.giveBack k p := by
    unfold release BudgetSystem.step
    dsimp only
    split
    · exact .inl rfl
    · split_ifs
      · exact .inr ⟨_, rfl⟩
      · exact .inl rfl
  change Aside b.Quiet (· = k) s (release b k s)
  refine ⟨rfl, rfl, fun hs => ⟨?_, hs.counted.step⟩, fun _ j _ hne => ?_, fun _ hown _ => ?_⟩
  · rcases hpermits with h | ⟨p, h⟩
    · rw [h]
      exact hs.granted
    · rw [h]
      exact hs.granted
  · unfold BudgetSystem.Live
    rcases hpermits with h | ⟨p, h⟩
    · rw [h]
    · rw [h]
      exact exists_congr fun q => List.mem_erase_of_ne fun heq => hne (Prod.mk.injEq .. ▸ heq).1
  · unfold BudgetedWorld.elsewhere
    change (release b k s).budget.permits.live.filter (fun held => !s.acquired.contains held.1) = _
    rcases hpermits with h | ⟨p, h⟩
    · rw [h]
    · rw [h]
      have hmine : k ∈ s.acquired := hown k rfl
      change (s.budget.permits.live.erase (k, p)).filter _ = _
      rw [s.budget.permits.nodup.erase_eq_filter, List.filter_filter]
      refine List.filter_congr fun held _ => ?_
      by_cases heq : held = (k, p)
      · subst heq
        simp [hmine]
      · simp [heq]

theorem Owns.release (h : Owns b elsewhere (· = permit) s) : Owns b elsewhere (fun _ => False) (release b permit s) := by
  have hkept := h.aside (keeps_release permit s)
  refine ⟨hkept.booked, fun _ hk => hk.elim, fun k hk _ => ?_, hkept.elsewhere⟩
  by_cases hsame : k = permit
  · subst hsame
    exact release_ends k
  · exact hkept.released k hk hsame

/-- The permit of a download that holds none, as it is granted. -/
theorem Owns.granted (h : Owns b elsewhere (fun _ => False) s) {p : OriginNetworkPermit} {states : OriginBudgets}
    (hcounted : (s.granted p states).budget.Counted) :
    Owns b elsewhere (· = s.budget.permits.granted.length) (s.granted p states) := by
  refine ⟨⟨fun k hk => ?_, hcounted⟩, fun k hk => ?_, fun k hk hne => ?_, fun hquiet => ?_⟩
  · simp only [BudgetedWorld.granted, Tickets.grant, List.length_append, List.length_singleton]
    rcases List.mem_append.1 hk with hk | hk
    · have hlt := h.booked.granted k hk
      omega
    · rw [List.mem_singleton.1 hk]
      omega
  · rw [hk]
    exact List.mem_append_right _ (List.mem_singleton_self _)
  · rcases List.mem_append.1 hk with hk | hk
    · rintro ⟨q, hq⟩
      refine h.released k hk id ⟨q, ?_⟩
      simpa [BudgetedWorld.granted, Tickets.grant, hne] using hq
    · exact absurd (List.mem_singleton.1 hk) hne
  · rw [← h.elsewhere hquiet]
    unfold BudgetedWorld.elsewhere
    simp only [BudgetedWorld.granted, Tickets.grant, List.filter_append]
    have hnew : [(s.budget.permits.granted.length, p)].filter (fun held =>
        !(s.acquired ++ [s.budget.permits.granted.length]).contains held.1) = [] := by simp
    rw [hnew, List.append_nil]
    refine List.filter_congr fun held hheld => ?_
    have hold := (List.getElem?_eq_some_iff.1 (s.budget.permits.named held.1 held.2 hheld)).1
    have hne : held.1 ≠ s.budget.permits.granted.length := Nat.ne_of_lt hold
    simp [hne]

/-- One round of `acquire`: a permit, or nothing yet. -/
theorem acquireOnce_spec (origin : String) (h : Owns b elsewhere (fun _ => False) s) :
    wp (acquireOnce ports b origin)
      (fun next t => t.requests = s.requests ∧
        next.elim (fun _ => Owns b elsewhere (fun _ => False) t) fun k => Owns b elsewhere (· = k) t)
      (fun _ t => t.requests = s.requests ∧ Owns b elsewhere (fun _ => False) t)
      (fun t => t.requests = s.requests ∧ Owns b elsewhere (fun _ => False) t) s := by
  unfold acquireOnce
  simp only [wp_bind, wp_read, wp_raiseIf]
  refine ⟨fun _ => ⟨trivial, h⟩, fun _ => ?_⟩
  have hcounted : (s.budget.tryAcquire b.configuration origin (b.nowMs s.outside) s.budget.waiting).Counted :=
    h.booked.counted.of_step (show BudgetStep b.env _ _ ⟨b.nowMs s.outside, .snapshot ""⟩ _ from
      tryAcquire_cases s.budget origin s.budget.waiting rfl)
  unfold BudgetSystem.tryAcquire at hcounted
  rcases hround : acquireRound b.configuration origin (b.nowMs s.outside) s.budget.states with ⟨p | wait, states⟩
  · rw [hround] at hcounted
    simp only [wp_bind, wp_modify, wp_pure, Sum.elim_inr]
    exact ⟨rfl, h.granted hcounted⟩
  · rw [hround] at hcounted
    simp only [wp_bind, wp_modify, wp_pure, Sum.elim_inl]
    -- the refilled bucket of the origin
    have hrefilled : Owns b elsewhere (fun _ => False) { s with budget := { s.budget with states } } :=
      ⟨⟨h.booked.granted, hcounted⟩, h.own, h.released, h.elsewhere⟩
    have hsleep : Keeps (Aside b.Quiet fun _ => False) (shared b (b.sleep wait)) := keeps_shared _
    exact wp_mono (keeps_iff.1 hsleep { s with budget := { s.budget with states } }) (fun _ t ht => ⟨ht.requests, hrefilled.aside ht⟩)
      (fun _ t ht => ⟨ht.requests, hrefilled.aside ht⟩) fun t ht => ⟨ht.requests, hrefilled.aside ht⟩

theorem acquire_spec (url : String) (h : Owns b elsewhere (fun _ => False) s) :
    wp (acquire ports b url) (fun k t => t.requests = s.requests ∧ Owns b elsewhere (· = k) t)
      (fun _ t => t.requests = s.requests ∧ Owns b elsewhere (fun _ => False) t)
      (fun t => t.requests = s.requests ∧ Owns b elsewhere (fun _ => False) t) s := by
  unfold acquire
  simp only [wp_bind, wp_check]
  refine ⟨fun origin _ => ?_, fun _ _ => ⟨trivial, h⟩⟩
  refine wp_rounds (fun _ t => t.requests = s.requests ∧ Owns b elsewhere (fun _ => False) t) (fun _ t ht => ?_)
    (fun _ _ ht => ht) _ ⟨rfl, h⟩
  refine wp_mono (acquireOnce_spec origin ht.2) (fun next u hu => ?_) (fun _ u hu => ⟨hu.1.trans ht.1, hu.2⟩)
    fun u hu => ⟨hu.1.trans ht.1, hu.2⟩
  cases next with
  | inl _ => exact ⟨hu.1.trans ht.1, hu.2⟩
  | inr k => exact ⟨hu.1.trans ht.1, hu.2⟩

/-- The request is counted when it is issued; a throw releases the permit. -/
theorem sendRequest_spec (origin : String) (h : Owns b elsewhere (· = permit) s) :
    wp (sendRequest env input (budgetedPorts ports b) st origin permit)
      (fun _ t => t.requests = s.requests + 1 ∧ Owns b elsewhere (· = permit) t)
      (fun _ t => t.requests = s.requests + 1 ∧ Owns b elsewhere (fun _ => False) t)
      (fun t => t.requests = s.requests + 1 ∧ Owns b elsewhere (· = permit) t) s := by
  have hcounted : Owns b elsewhere (· = permit) { s with requests := s.requests + 1 } :=
    ⟨⟨h.booked.granted, h.booked.counted⟩, h.own, h.released, h.elsewhere⟩
  have hfailed : ∀ (e : DownloadThrown) (t : BudgetedWorld W),
      t.requests = s.requests + 1 ∧ Owns b elsewhere (· = permit) t →
      wp (do modify ((budgetedPorts ports b).release permit)
             throwIfAborted (budgetedPorts ports b)
             raise (failedRetryable .networkFailed (e.message "The Asset request failed")) :
          Procedure (BudgetedWorld W) DownloadThrown AssetNetworkResponse)
        (fun _ t => t.requests = s.requests + 1 ∧ Owns b elsewhere (· = permit) t)
        (fun _ t => t.requests = s.requests + 1 ∧ Owns b elsewhere (fun _ => False) t)
        (fun t => t.requests = s.requests + 1 ∧ Owns b elsewhere (· = permit) t) t := by
    intro e t ht
    unfold throwIfAborted
    simp only [wp_bind, wp_modify, wp_read, wp_raiseIf, wp_raise]
    exact ⟨fun _ => ⟨ht.1, ht.2.release⟩, fun _ => ⟨ht.1, ht.2.release⟩⟩
  have hport : ∀ {β : Type} (m : Procedure W DownloadThrown β), Keeps (Aside b.Quiet (· = permit)) (shared b m) :=
    fun m => keeps_shared m
  unfold sendRequest
  rw [wp_catching, wp_bind]
  change wp (shared b (ports.request _)) _ _ _ { s with requests := s.requests + 1 }
  refine wp_mono (keeps_iff.1 (hport _) _) (fun response t ht => ?_)
    (fun e t ht => hfailed e t ⟨ht.requests, hcounted.aside ht⟩) fun t ht => ⟨ht.requests, hcounted.aside ht⟩
  rw [wp_bind]
  have hsent := hcounted.aside ht
  refine wp_mono (keeps_iff.1 (hport _) t) (fun _ u hu => ?_)
    (fun e u hu => hfailed e u ⟨hu.requests.trans ht.requests, hsent.aside hu⟩)
    fun u hu => ⟨hu.requests.trans ht.requests, hsent.aside hu⟩
  exact ⟨hu.requests.trans ht.requests, hsent.aside hu⟩

theorem Keeps.map {β : Type} {r : BudgetedWorld W → BudgetedWorld W → Prop} [IsPreorder _ r]
    {m : Procedure (BudgetedWorld W) DownloadThrown α} {f : α → β} (hm : Keeps r m) : Keeps r (f <$> m) :=
  Keeps.bind hm fun _ => keeps_pure _

theorem keeps_followRedirect :
    Keeps (Aside b.Quiet (· = permit)) (followRedirect env (budgetedPorts ports b) st permit response) := by
  refine (keeps_drain _ _).bind fun _ => ?_
  split
  · exact keeps_raise _
  · refine (keeps_raiseIf _ _).bind fun _ => (keeps_orRaise _ _).bind fun resolved => (keeps_check _).bind fun nextUrl => ?_
    refine (keeps_shared _).bind fun _ => (keeps_raiseIf _ _).bind fun _ => ?_
    exact (keeps_release permit).bind fun _ => keeps_pure _

theorem keeps_rejectedRange :
    Keeps (Aside b.Quiet (· = permit)) (rejectedRange (budgetedPorts ports b) target st permit response) := by
  refine (keeps_drain _ _).bind fun _ => (keeps_raiseIf _ _).bind fun _ => keeps_restart.bind fun st => ?_
  exact (keeps_release permit).bind fun _ => keeps_pure _

theorem keeps_handleSuccess :
    Keeps (Aside b.Quiet (· = permit)) (handleSuccess env input (budgetedPorts ports b) target st permit response) := by
  refine (keeps_check _).bind fun m => (keeps_check _).bind fun decision => ?_
  split
  · exact keeps_restart.bind fun st => (keeps_release permit).bind fun _ => keeps_pure _
  · exact keeps_restart.bind fun st => (keeps_storeResponse m).bind fun _ => keeps_pure _
  · exact (keeps_storeResponse m).bind fun _ => keeps_pure _

theorem keeps_handleResponse :
    Keeps (Aside b.Quiet (· = permit)) (handleResponse env input (budgetedPorts ports b) target st permit response) := by
  refine Keeps.ite (Keeps.map keeps_followRedirect) (Keeps.ite (Keeps.map keeps_rejectedRange) (Keeps.ite ?_ ?_))
  · exact (keeps_drain _ _).bind fun _ => keeps_raise _
  · exact keeps_handleSuccess

end Parts

/-! ### What a round uses up -/

/-- A redirect or the restart is used up. -/
def Advanced (st st' : TransferState) : Prop :=
  st.redirectChain.length < 20 ∧ st'.redirectChain.length = st.redirectChain.length + 1 ∧ st'.restarted = st.restarted ∨
    st.restarted = false ∧ st'.restarted = true ∧ st'.redirectChain = st.redirectChain ∧ st'.offset = 0

section Rounds

variable {ports : DownloadPorts W}

theorem followRedirect_yields :
    Yields (followRedirect env ports st permit response) (Advanced st) := by
  refine yields_bind fun _ => ?_
  split
  · exact yields_raise _
  · refine (yields_raiseIf _ _).bind fun _ hroom => yields_bind fun resolved => yields_bind fun nextUrl => ?_
    refine yields_bind fun _ => yields_bind fun _ => yields_bind fun _ => yields_pure (.inl ⟨by omega, ?_, rfl⟩)
    simp

theorem restart_yields : Yields (restart ports target st)
    fun st' => st'.restarted = true ∧ st'.redirectChain = st.redirectChain ∧ st'.offset = 0 :=
  yields_bind fun _ => yields_pure ⟨rfl, rfl, rfl⟩

theorem rejectedRange_yields : Yields (rejectedRange ports target st permit response) (Advanced st) := by
  refine yields_bind fun _ => (yields_raiseIf _ _).bind fun _ hfresh => ?_
  refine restart_yields.bind fun st' hst' => yields_bind fun _ => yields_pure (.inr ⟨?_, hst'⟩)
  simpa using fun h => hfresh (Or.inr h)

theorem decideRange_again {status : ℤ} {m : ResponseMetadata} (h : decideRange st status m = .ok .again) :
    st.restarted = false := by
  unfold decideRange at h
  split at h
  · split at h
    · cases h
    · split at h
      · split at h
        · cases h
        · rename_i hrestarted
          simpa using hrestarted
      · cases h
  · split at h
    · split at h <;> cases h
    · split at h
      · split at h <;> cases h
      · cases h

theorem handleSuccess_yields : Yields (handleSuccess env input ports target st permit response)
    fun next => ∀ st', next = .inl st' → Advanced st st' := by
  refine yields_bind fun m => ?_
  intro s
  rw [wp_bind, wp_check]
  refine ⟨fun decision hdecision => ?_, fun _ _ => trivial⟩
  cases decision with
  | again =>
    have hfresh := decideRange_again hdecision
    refine Yields.bind restart_yields (fun st' hst' => yields_bind fun _ => yields_pure ?_) s
    rintro st'' ⟨rfl⟩
    exact .inr ⟨hfresh, hst'⟩
  | ignored =>
    exact yields_bind (fun _ => yields_bind fun _ => yields_pure fun _ h => nomatch h) s
  | follows expectedBytes => exact yields_bind (fun _ => yields_pure fun _ h => nomatch h) s

/-- **A response after which the loop goes on** is a redirect within the limit, or the restart. -/
theorem handleResponse_yields : Yields (handleResponse env input ports target st permit response)
    fun next => ∀ st', next = .inl st' → Advanced st st' := by
  refine Yields.ite (fun _ => ?_) fun _ => Yields.ite (fun _ => ?_) fun _ => Yields.ite (fun _ => ?_) fun _ => ?_
  · refine Yields.map ?_
    intro s
    exact wp_mono (followRedirect_yields s) (fun st' _ h st'' heq => Sum.inl.inj heq ▸ h) (fun _ _ h => h) fun _ h => h
  · refine Yields.map ?_
    intro s
    exact wp_mono (rejectedRange_yields s) (fun st' _ h st'' heq => Sum.inl.inj heq ▸ h) (fun _ _ h => h) fun _ h => h
  · exact yields_bind fun _ => yields_raise _
  · exact handleSuccess_yields

theorem transferRound_yields : Yields (transferRound env input ports target st)
    fun next => ∀ st', next = .inl st' → Advanced st st' := by
  refine yields_bind fun _ => yields_bind fun _ => yields_bind fun _ => yields_bind fun origin => ?_
  refine yields_bind fun permit => yields_bind fun response => Yields.ensuring ?_
  exact handleResponse_yields.catching fun e => yields_raise _

/-- The rounds that a download has left. -/
def roundsLeft (st : TransferState) : ℕ := (20 - st.redirectChain.length) + (if st.restarted then 0 else 1)

theorem Advanced.roundsLeft_lt {st st' : TransferState} (h : Advanced st st') : roundsLeft st' < roundsLeft st := by
  unfold roundsLeft
  rcases h with ⟨hroom, hchain, hsame⟩ | ⟨hbefore, hafter, hchain, -⟩
  · rw [hsame, hchain]
    omega
  · rw [hbefore, hafter, hchain]
    simp

/-- More rounds than are left make no difference. -/
theorem transfer_enough {n m : ℕ} (hn : roundsLeft st < n) (hm : roundsLeft st < m) :
    transfer env input ports target n st = transfer env input ports target m st :=
  rounds_stable roundsLeft (fun _ _ st' _ h => (transferRound_yields.apply h st' rfl).roundsLeft_lt) hn hm

/-- **The loop ends by itself**: 22 rounds are enough. -/
theorem transfer_stable {n : ℕ} (hn : 22 ≤ n) (st : TransferState) :
    transfer env input ports target n st = transfer env input ports target 22 st := by
  have hleft : roundsLeft st ≤ 21 := by
    unfold roundsLeft
    split <;> omega
  exact transfer_enough (by omega) (by omega)

end Rounds

/-! ### Runs -/

section Runs

variable {elsewhere : List (ℕ × OriginNetworkPermit)}

/-- The download holds no permit and has issued `n` requests. -/
def Ready (b : BudgetPorts W) (elsewhere : List (ℕ × OriginNetworkPermit)) (n : ℕ) (s : BudgetedWorld W) : Prop :=
  s.requests = n ∧ Owns b elsewhere (fun _ => False) s

theorem Ready.aside {n : ℕ} (hst : Aside b.Quiet (fun _ => False) s t) (h : Ready b elsewhere n s) :
    Ready b elsewhere n t := ⟨hst.requests.trans h.1, h.2.aside hst⟩

/-- The download holds no permit and is within the bound. -/
def Bounded (b : BudgetPorts W) (elsewhere : List (ℕ × OriginNetworkPermit)) (s : BudgetedWorld W) : Prop :=
  s.requests ≤ 22 ∧ Owns b elsewhere (fun _ => False) s

theorem Bounded.aside (hst : Aside b.Quiet (fun _ => False) s t) (h : Bounded b elsewhere s) : Bounded b elsewhere t :=
  ⟨hst.requests ▸ h.1, h.2.aside hst⟩

theorem Ready.bounded {n : ℕ} (h : Ready b elsewhere n s) (hn : n ≤ 22) : Bounded b elsewhere s := ⟨h.1.trans_le hn, h.2⟩

/-- The requests that have led to a round: a redirect or the restart is behind each. -/
def requestsBefore (st : TransferState) : ℕ := st.redirectChain.length + (if st.restarted then 1 else 0)

/-- What holds before a round of the loop. -/
def AtRound (b : BudgetPorts W) (elsewhere : List (ℕ × OriginNetworkPermit)) (st : TransferState)
    (s : BudgetedWorld W) : Prop := Ready b elsewhere (requestsBefore st) s ∧ st.redirectChain.length ≤ 20

theorem requestsBefore_le (h : st.redirectChain.length ≤ 20) : requestsBefore st ≤ 21 := by
  unfold requestsBefore
  split <;> omega

/-- One more request has led to the next round. -/
theorem Advanced.requestsBefore {st' : TransferState} (h : Advanced st st') (hchain : st.redirectChain.length ≤ 20) :
    requestsBefore st' = Assets.requestsBefore st + 1 ∧ st'.redirectChain.length ≤ 20 := by
  unfold Assets.requestsBefore
  rcases h with ⟨hroom, hnext, hsame⟩ | ⟨hbefore, hafter, hkept, -⟩
  · rw [hsame, hnext]
    omega
  · rw [hbefore, hafter, hkept]
    simpa using hchain

/-- From the permit to the end of a round. -/
theorem respond_spec {n : ℕ} (hn : n + 1 ≤ 22) (hreq : s.requests = n + 1) (h : Owns b elsewhere (· = permit) s) :
    wp (ensuring (catching (handleResponse env input (budgetedPorts ports b) target st permit response) fun e =>
        raise (streamFailure e)) (modify ((budgetedPorts ports b).release permit)))
      (fun next t => Ready b elsewhere (n + 1) t ∧ ∀ st', next = .inl st' → Advanced st st')
      (fun _ t => Bounded b elsewhere t) (fun t => t.requests ≤ 22) s := by
  rw [wp_ensuring, wp_catching]
  have hyields : Yields (handleResponse env input (budgetedPorts ports b) target st permit response) _ :=
    handleResponse_yields
  refine wp_mono (wp_and (keeps_iff.1 keeps_handleResponse s) (hyields s)) (fun next t ht => ?_) (fun e t ht => ?_) fun t ht => ?_
  · rw [wp_modify]
    exact ⟨⟨ht.1.requests.trans hreq, (h.aside ht.1).release⟩, ht.2⟩
  · rw [wp_raise, wp_modify]
    exact ⟨(ht.1.requests.trans hreq).trans_le hn, (h.aside ht.1).release⟩
  · exact (ht.1.requests.trans hreq).trans_le hn

/-- **One round of the loop.** -/
theorem transferRound_spec (h : AtRound b elsewhere st s) :
    wp (transferRound env input (budgetedPorts ports b) target st)
      (fun next t => next.elim (fun st' => AtRound b elsewhere st' t) fun _ => Bounded b elsewhere t)
      (fun _ t => Bounded b elsewhere t) (fun t => t.requests ≤ 22) s := by
  obtain ⟨hready, hchain⟩ := h
  have hle := requestsBefore_le hchain
  have hthrow : ∀ (_ : DownloadThrown) (t : BudgetedWorld W), Ready b elsewhere (requestsBefore st) t →
      Bounded b elsewhere t := fun _ t ht => ht.bounded (by omega)
  have hhang : ∀ t : BudgetedWorld W, Ready b elsewhere (requestsBefore st) t → t.requests ≤ 22 :=
    fun t ht => (ht.bounded (by omega)).1
  -- up to the permit
  refine wp_keeps_bind (P := Ready b elsewhere (requestsBefore st)) keeps_throwIfAborted (fun _ _ => Ready.aside)
    hready hthrow hhang fun _ s hready => ?_
  refine wp_keeps_bind (P := Ready b elsewhere (requestsBefore st)) (keeps_shared _) (fun _ _ => Ready.aside) hready
    hthrow hhang fun authorization s hready => ?_
  refine wp_keeps_bind (P := Ready b elsewhere (requestsBefore st)) (keeps_raiseIf _ _) (fun _ _ => Ready.aside) hready
    hthrow hhang fun _ s hready => ?_
  refine wp_keeps_bind (P := Ready b elsewhere (requestsBefore st)) (keeps_orRaise _ _) (fun _ _ => Ready.aside) hready
    hthrow hhang fun origin s hready => ?_
  rw [wp_bind]
  refine wp_mono (acquire_spec origin hready.2) (fun permit t ht => ?_)
    (fun e t ht => hthrow e t ⟨ht.1.trans hready.1, ht.2⟩) fun t ht => hhang t ⟨ht.1.trans hready.1, ht.2⟩
  have hbefore : t.requests = requestsBefore st := ht.1.trans hready.1
  -- the request, and what becomes of its response
  rw [wp_bind]
  refine wp_mono (sendRequest_spec origin ht.2) (fun response u hu => ?_) (fun e u hu => ⟨by omega, hu.2⟩)
    fun u hu => by omega
  refine wp_mono (respond_spec (n := requestsBefore st) (by omega) (by omega) hu.2) (fun next v hv => ?_)
    (fun _ _ hv => hv) fun _ hv => hv
  cases next with
  | inl st' =>
    obtain ⟨hnext, hchain'⟩ := (hv.2 st' rfl).requestsBefore hchain
    have hreq := hv.1.1
    exact ⟨⟨by omega, hv.1.2⟩, hchain'⟩
  | inr st' => exact hv.1.bounded (by omega)

/-- **The loop.** -/
theorem transfer_spec {n : ℕ} (h : AtRound b elsewhere st s) :
    wp (transfer env input (budgetedPorts ports b) target n st) (fun _ t => Bounded b elsewhere t)
      (fun _ t => Bounded b elsewhere t) (fun t => t.requests ≤ 22) s := by
  refine wp_rounds (AtRound b elsewhere) (fun st s h => transferRound_spec h) (fun st s h => ?_) n h
  exact (h.1.bounded ((requestsBefore_le h.2).trans (by omega))).1

theorem keeps_ensurePartialFile (source previous : AssetSource) :
    Keeps (Aside b.Quiet free) (ensurePartialFile env (budgetedPorts ports b) source previous) :=
  (keeps_check _).bind fun _ => (keeps_shared _).bind fun _ => keeps_pure _

theorem keeps_prepareTransfer (before : AssetSource) :
    Keeps (Aside b.Quiet free) (prepareTransfer env input (budgetedPorts ports b) before) := by
  refine (keeps_shared _).bind fun claimed => (keeps_ensurePartialFile _ _).bind fun part => ?_
  refine (keeps_check _).bind fun decided => Keeps.ite (keeps_pure _) (Keeps.bind ?_ fun _ => keeps_pure _)
  exact Keeps.ite (keeps_truncatePartial _) (keeps_pure _)

/-- The loop begins without a redirect or a restart behind it. -/
theorem prepareTransfer_yields {ports : DownloadPorts W} (before : AssetSource) :
    Yields (prepareTransfer env input ports before)
      fun prepared => prepared.2.2.redirectChain = [] ∧ prepared.2.2.restarted = false := by
  refine yields_bind fun claimed => yields_bind fun part => yields_bind fun decided => Yields.ite (fun _ => ?_) fun _ => ?_
  · exact yields_pure ⟨rfl, rfl⟩
  · exact yields_bind fun _ => yields_pure ⟨rfl, rfl⟩

theorem keeps_contentPresent (path : String) (maximumBytes : ℤ) (hashed : String × ℤ) :
    Keeps (Aside b.Quiet free) (contentPresent (budgetedPorts ports b) path maximumBytes hashed) := by
  refine (keeps_shared _).bind fun found => Keeps.ite ?_ (keeps_pure _)
  exact (keeps_shared _).bind fun _ => (keeps_raiseIf _ _).bind fun _ => keeps_pure _

theorem keeps_finalizeTransfer (hashed : String × ℤ) (path : String) :
    Keeps (Aside b.Quiet free) (finalizeTransfer input (budgetedPorts ports b) target st hashed path) := by
  refine (keeps_shared _).bind fun known => (keeps_raiseIf _ _).bind fun _ => ?_
  refine (keeps_contentPresent _ _ _).bind fun found => ?_
  refine Keeps.bind (Keeps.ite (keeps_shared _) (keeps_shared _)) fun _ => keeps_read.bind fun w => ?_
  refine (keeps_shared _).bind fun result => (keeps_checkpoint _ _).bind fun _ => ?_
  exact Keeps.bind (Keeps.ite (keeps_shared _) (keeps_pure _)) fun _ => keeps_pure _

theorem keeps_completeTransfer :
    Keeps (Aside b.Quiet free) (completeTransfer env input (budgetedPorts ports b) target st) := by
  refine (keeps_raiseIf _ _).bind fun _ => (keeps_shared _).bind fun hashed => (keeps_check _).bind fun path => ?_
  refine (keeps_shared _).bind fun _ => (keeps_shared _).bind fun _ => ?_
  exact ((keeps_finalizeTransfer _ _).ensuring (keeps_shared _)).bind fun _ => keeps_pure _

theorem keeps_interruptSource (e : DownloadThrown) :
    Keeps (Aside b.Quiet free) (interruptSource input (budgetedPorts ports b) e) :=
  (keeps_shared _).bind fun _ => Keeps.ite (keeps_shared _) (keeps_pure _)

theorem downloadAssetInternal_spec {n : ℕ} (h : Ready b elsewhere 0 s) :
    wp (downloadAssetInternal env input (budgetedPorts ports b) n) (fun _ t => Bounded b elsewhere t)
      (fun _ t => Bounded b elsewhere t) (fun t => t.requests ≤ 22) s := by
  have hthrow : ∀ (_ : DownloadThrown) (t : BudgetedWorld W), Ready b elsewhere 0 t → Bounded b elsewhere t :=
    fun _ t ht => ht.bounded (by omega)
  have hhang : ∀ t : BudgetedWorld W, Ready b elsewhere 0 t → t.requests ≤ 22 := fun t ht => (ht.bounded (by omega)).1
  refine wp_keeps_bind (P := Ready b elsewhere 0) (keeps_check _) (fun _ _ => Ready.aside) h hthrow hhang
    fun maximumBytes s h => ?_
  refine wp_keeps_bind (P := Ready b elsewhere 0) (keeps_check _) (fun _ _ => Ready.aside) h hthrow hhang
    fun checkpointInterval s h => ?_
  refine wp_keeps_bind (P := Ready b elsewhere 0) (keeps_check _) (fun _ _ => Ready.aside) h hthrow hhang fun _ s h => ?_
  refine wp_keeps_bind (P := Ready b elsewhere 0) (keeps_shared _) (fun _ _ => Ready.aside) h hthrow hhang
    fun before s h => ?_
  split
  · -- a completed source issues no request
    refine wp_keeps_bind (P := Ready b elsewhere 0) (keeps_shared _) (fun _ _ => Ready.aside) h hthrow hhang
      fun stored s h => ?_
    rw [wp_check]
    exact ⟨fun _ _ => h.bounded (by omega), fun e _ => hthrow e s h⟩
  · rw [wp_bind]
    have hkeeps : Keeps (Aside b.Quiet fun _ => False) (prepareTransfer env input (budgetedPorts ports b) before) :=
      keeps_prepareTransfer before
    have hyields : Yields (prepareTransfer env input (budgetedPorts ports b) before) _ := prepareTransfer_yields before
    refine wp_mono (wp_and (keeps_iff.1 hkeeps s) (hyields s)) (fun prepared t ht => ?_) (fun e t ht => hthrow e t (h.aside ht.1))
      fun t ht => hhang t (h.aside ht.1)
    have hround : AtRound b elsewhere prepared.2.2 t := by
      unfold AtRound requestsBefore
      rw [ht.2.1, ht.2.2]
      exact ⟨h.aside ht.1, Nat.zero_le 20⟩
    rw [wp_bind]
    refine wp_mono (transfer_spec hround) (fun st u hu => ?_) (fun _ _ hu => hu) fun _ hu => hu
    exact wp_mono (keeps_iff.1 keeps_completeTransfer u) (fun _ _ hv => hu.aside hv) (fun _ _ hv => hu.aside hv)
      fun _ hv => (hu.aside hv).1

theorem downloadAsset_spec {n : ℕ} (h : Ready b elsewhere 0 s) :
    wp (downloadAsset env input (budgetedPorts ports b) n) (fun _ t => Bounded b elsewhere t)
      (fun _ t => Bounded b elsewhere t) (fun t => t.requests ≤ 22) s := by
  unfold downloadAsset
  rw [wp_catching]
  refine wp_mono (downloadAssetInternal_spec h) (fun _ _ ht => ht) (fun e t ht => ?_) fun _ ht => ht
  refine wp_keeps_bind (P := Bounded b elsewhere) ((keeps_interruptSource e).catching fun _ => keeps_pure ())
    (fun _ _ => Bounded.aside) ht (fun _ _ hu => hu) (fun _ hu => hu.1) fun _ u hu => ?_
  split
  · exact hu
  · exact hu

/-- A download that holds no permit leaves in flight what the others hold. -/
theorem Owns.inflight (h : Owns b elsewhere (fun _ => False) s) (origin : String) :
    s.budget.inflight origin = s.elsewhere.countP fun held => held.2.origin == origin := by
  have hall : s.elsewhere = s.budget.permits.live := by
    refine List.filter_eq_self.2 fun held hheld => ?_
    simpa using fun hk => h.released held.1 hk id ⟨held.2, hheld⟩
  rw [hall]
  exact h.booked.counted origin

/-- **A download is bounded and returns its permits.** Whatever the server, the store, the signal
and the other callers of the budget do, it issues at most 22 requests; when it has returned or
thrown, the permits that it was granted are released, so the requests in flight are those of the
others, and as many as before the call when the others do nothing. It goes through its loop at
most 22 times. -/
theorem downloadAsset_bounded (env : DownloadEnv) (input : AssetDownloadInput) (ports : DownloadPorts W)
    (b : BudgetPorts W) (w : W) (before : List BudgetEvent) (calls transferRounds : ℕ) :
    let start : BudgetedWorld W := ⟨w, budgetAt b.env b.configuration before calls, [], 0⟩
    let run := downloadAsset env input (budgetedPorts ports b) transferRounds start
    run.2.requests ≤ 22 ∧
      (run.1.settled = true →
        (∀ ticket ∈ run.2.acquired, ¬run.2.budget.Live ticket) ∧
        (∀ origin, run.2.budget.inflight origin = run.2.elsewhere.countP fun held => held.2.origin == origin) ∧
        (b.Quiet → ∀ origin, run.2.budget.inflight origin = start.budget.inflight origin)) ∧
      (22 ≤ transferRounds → downloadAsset env input (budgetedPorts ports b) transferRounds =
        downloadAsset env input (budgetedPorts ports b) 22) := by
  intro start run
  have hstart : Owns b start.elsewhere (fun _ => False) start :=
    ⟨⟨fun _ hk => (by cases hk), counted_budgetAt before calls⟩, fun _ hk => hk.elim, fun _ hk => (by cases hk), fun _ => rfl⟩
  have hrun : wp (downloadAsset env input (budgetedPorts ports b) transferRounds) (fun _ t => Bounded b start.elsewhere t)
      (fun _ t => Bounded b start.elsewhere t) (fun t => t.requests ≤ 22) start := downloadAsset_spec ⟨rfl, hstart⟩
  have hbound : run.2.requests ≤ 22 :=
    wp_always.1 (wp_mono hrun (fun _ _ ht => ht.1) (fun _ _ ht => ht.1) fun _ ht => ht)
  refine ⟨hbound, fun hsettled => ?_, fun hmany => ?_⟩
  · obtain ⟨-, howns⟩ := wp_settled hrun hsettled
    refine ⟨fun k hk => howns.released k hk id, howns.inflight, fun hquiet origin => ?_⟩
    rw [howns.inflight, hstart.inflight, howns.elsewhere hquiet]
  · unfold downloadAsset downloadAssetInternal
    simp only [transfer_stable hmany]

end Runs

end OfflineWebArchiver.Assets
