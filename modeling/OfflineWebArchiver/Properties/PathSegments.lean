import OfflineWebArchiver.Archive.Sample

/-!
# Accepted paths and their segments

* `decodedTimes`: the path that a consumer sees who decodes it `n` times.
* `accepted_confined`: an accepted path has the same directory levels however
  often it is decoded, and an accepted list has no two paths with one key.
* `accepted_by_segment_iff`: a path with a directory is accepted segment by
  segment only where no segment has an escape.
-/

namespace OfflineWebArchiver

open Checks

/-- The value, percent-decoded `n` times; `none` where a decoding throws. -/
def decodedTimes : ℕ → JsString → Option JsString
  | 0, value => some value
  | n + 1, value => (decodeURIComponent value).bind (decodedTimes n)

variable {u : Unicode} {value s : JsString}

theorem splitOn_of_not_mem (h : '/' ∉ s) : s.splitOn '/' = [s] := by
  induction s with
  | nil => rfl
  | cons c s ih =>
    rw [List.mem_cons, not_or] at h
    rw [List.splitOn_cons_eq_if_modifyHead, if_neg (by simpa using fun e => h.1 e.symm), ih h.2]
    rfl

/-! ### Decoding again and again -/

theorem decodedTimes_fixed (h : decodeURIComponent value = some value) :
    ∀ n, decodedTimes n value = some value := by
  intro n
  induction n with
  | zero => rfl
  | succ n ih => rw [decodedTimes, h]; exact ih

/-- A string that the loop over the decodings lets pass. -/
structure Flat (s : JsString) : Prop where
  ne_nil : s ≠ []
  slash : '/' ∉ s
  backslash : '\\' ∉ s
  dot : isDotSegment s = false

/-- **What the loop has seen**: a decoding that changes the value has no
separator, and then the value had none either. -/
theorem decodePasses_flat {passes n : ℕ} (h : decodePasses passes value = none)
    (hne : value ≠ []) (hn : n ≤ passes) (hs : decodedTimes n value = some s) :
    s = value ∨ Flat s ∧ '/' ∉ value := by
  induction n generalizing passes value with
  | zero => exact .inl (Option.some.inj hs).symm
  | succ n ih =>
    obtain ⟨passes, rfl⟩ : ∃ p, passes = p + 1 := ⟨passes - 1, by omega⟩
    obtain ⟨next, hnext, hs⟩ := Option.bind_eq_some_iff.1 hs
    rw [decodePasses, hnext] at h
    simp only at h
    by_cases hfix : next = value
    · subst hfix
      rw [decodedTimes_fixed hnext] at hs
      exact .inl (Option.some.inj hs).symm
    · rw [if_neg hfix, ite_some_eq_none] at h
      obtain ⟨hbad, hrest⟩ := h
      simp only [Bool.or_eq_true, not_or, List.contains_iff_mem] at hbad
      obtain ⟨⟨hback, hslash⟩, hdot⟩ := hbad
      have hflat : Flat next := by
        refine ⟨decodeURIComponent_ne_nil hnext hne, hslash, hback, ?_⟩
        rw [splitOn_of_not_mem hslash] at hdot
        simpa using hdot
      -- a slash of the value is still in `next`
      have hvalue : '/' ∉ value := fun hm => hslash (decodeURIComponent_slash hnext hm)
      rcases ih hrest hflat.ne_nil (by omega) hs with rfl | ⟨hs, -⟩
      · exact .inr ⟨hflat, hvalue⟩
      · exact .inr ⟨hs, hvalue⟩

/-- The segments of an accepted path name an entry of their directory. -/
theorem Canonical.segment_named (h : Canonical u value) :
    ∀ segment ∈ value.splitOn '/', segment ≠ [] ∧ segment ≠ ['.'] ∧ segment ≠ ['.', '.'] := by
  intro segment hs
  obtain ⟨hne, hdot, -⟩ := segmentProblem_eq_none.1 (h.segments segment hs)
  simp only [isDotSegment, Bool.or_eq_false_iff, beq_eq_false_iff_ne] at hdot
  exact ⟨hne, hdot⟩

/-- An accepted path, decoded as often as the validation decodes it. -/
theorem Canonical.decoded (h : Canonical u value) {n : ℕ} (hn : n ≤ maximumDecodePasses)
    (hs : decodedTimes n value = some s) : s = value ∨ Flat s ∧ '/' ∉ value :=
  decodePasses_flat (pathProblem_eq_none.1 (canonical_iff.1 h)).2.2.2.2.2.2.2.1 h.ne_nil hn hs

/-! ### Accepted lists -/

/-- The paths of an accepted list are its values, and their keys are new and distinct. -/
theorem assertCanonicalPaths_ok {seen values paths : List JsString}
    (h : assertCanonicalPaths u seen values = .ok paths) :
    paths = values ∧ (∀ v ∈ values, Canonical u v) ∧ (values.map u.lower).Nodup ∧
      ∀ v ∈ values, u.lower v ∉ seen := by
  induction values generalizing seen paths with
  | nil => simp_all [assertCanonicalPaths]
  | cons value rest ih =>
    rw [assertCanonicalPaths_cons] at h
    obtain ⟨hc, hnew, others, hrest, rfl⟩ := h
    obtain ⟨rfl, hall, hnodup, hseen⟩ := ih hrest
    have hfresh : ∀ v ∈ others, u.lower v ∉ seen ∧ u.lower v ≠ u.lower value := by
      intro v hv
      simpa using hseen v hv
    refine ⟨rfl, List.forall_mem_cons.2 ⟨hc, hall⟩, ?_,
      List.forall_mem_cons.2 ⟨hnew, fun v hv => (hfresh v hv).1⟩⟩
    rw [List.map_cons, List.nodup_cons]
    refine ⟨fun hm => ?_, hnodup⟩
    obtain ⟨v, hv, he⟩ := List.mem_map.1 hm
    exact (hfresh v hv).2 he

/-- **Accepted paths are confined.** Decoded up to three times, an accepted path
has no backslash, no more slashes and no empty or dot segment; and a list that is
accepted comes back as it is, with collision keys that differ. -/
theorem accepted_confined (u : Unicode) :
    (∀ value, (validateCanonicalRelativePath u value).valid = true →
      ∀ n ≤ 3, ∀ s, decodedTimes n value = some s →
        '\\' ∉ s ∧ s.count '/' = value.count '/' ∧
        (s.splitOn '/').length = (value.splitOn '/').length ∧
        ∀ segment ∈ s.splitOn '/', segment ≠ [] ∧ segment ≠ ['.'] ∧ segment ≠ ['.', '.']) ∧
    ∀ values paths, assertCanonicalPathSet u values = .ok paths →
      paths = values ∧
      ∃ keys, values.mapM (canonicalPathCollisionKey u) = .ok keys ∧ keys.Nodup := by
  constructor
  · intro value h n hn s hs
    have hc : Canonical u value := h
    rcases hc.decoded hn hs with rfl | ⟨hflat, hslash⟩
    · exact ⟨hc.not_backslash, rfl, rfl, hc.segment_named⟩
    · have hdot := hflat.dot
      simp only [isDotSegment, Bool.or_eq_false_iff, beq_eq_false_iff_ne] at hdot
      rw [splitOn_of_not_mem hflat.slash, splitOn_of_not_mem hslash,
        List.count_eq_zero_of_not_mem hflat.slash, List.count_eq_zero_of_not_mem hslash]
      refine ⟨hflat.backslash, rfl, rfl, fun segment hm => ?_⟩
      obtain rfl := List.mem_singleton.1 hm
      exact ⟨hflat.ne_nil, hdot⟩
  · intro values paths h
    obtain ⟨rfl, hall, hnodup, -⟩ := assertCanonicalPaths_ok h
    refine ⟨rfl, paths.map u.lower, mapM_ok.2 ?_, hnodup⟩
    rw [List.forall₂_map_right_iff, List.forall₂_same]
    exact fun v hv => canonicalPathCollisionKey_ok.2 ⟨hall v hv, rfl⟩

/-! ### Segment by segment -/

variable (u) in
/-- What a segment must satisfy wherever it stands. -/
def SegmentRules (segment : JsString) : Prop :=
  '\\' ∉ segment ∧ segment = u.nfc segment ∧ hasInvalidPercent segment = false ∧
    decodePasses maximumDecodePasses segment = none ∧ segmentProblem segment = none

instance (segment : JsString) : Decidable (SegmentRules u segment) := by
  unfold SegmentRules; infer_instance

variable (u) in
/-- The normal form is taken segment by segment: no character is composed with a
slash, and none has a slash in its normal form. -/
def NormalizesSegments : Prop := ∀ s, (u.nfc s).splitOn '/' = (s.splitOn '/').map u.nfc

theorem utf8Length_le (s : JsString) : utf8Length s ≤ 3 * utf16Length s := by
  induction s with
  | nil => simp [utf8Length]
  | cons c s ih =>
    have hc : c.utf8Size ≤ 3 * if c.toNat < 0x10000 then 1 else 2 := by
      have htop := c.utf8Size_le_four
      by_cases hsmall : c.toNat < 0x10000
      · rw [if_pos hsmall]
        have : c.val ≤ 0xffff := by
          rw [UInt32.le_iff_toNat_le]
          exact Nat.le_of_lt_succ hsmall
        simp only [Char.utf8Size]
        split_ifs <;> first | omega | exact absurd this ‹_›
      · rw [if_neg hsmall]; omega
    simp only [utf8Length, utf16Length, List.map_cons, List.sum_cons] at ih ⊢
    omega

theorem not_driveQualified (h : ∀ c ∈ s, c ≠ ':') : isDriveQualified s = false := by
  unfold isDriveQualified
  split
  · exact absurd rfl (h ':' (by simp))
  · rfl

theorem SegmentRules.not_colon (h : SegmentRules u s) : ∀ c ∈ s, c ≠ ':' := by
  rintro c hc rfl
  have := (segmentProblem_eq_none.1 h.2.2.2.2).2.2.2.1 _ hc
  exact absurd this (by decide)

/-- **A path of one segment** is accepted when the segment keeps the rules. -/
theorem canonical_segment_iff (hs : '/' ∉ s) : Canonical u s ↔ SegmentRules u s := by
  rw [canonical_iff, pathProblem_eq_none, splitOn_of_not_mem hs]
  constructor
  · rintro ⟨-, -, hnfc, -, -, hback, hpercent, hdecode, hsegment⟩
    exact ⟨hback, hnfc, hpercent, hdecode, hsegment s (by simp)⟩
  · intro h
    obtain ⟨hback, hnfc, hpercent, hdecode, hsegment⟩ := id h
    obtain ⟨hne, -, hlength, -⟩ := segmentProblem_eq_none.1 hsegment
    have hbytes := utf8Length_le s
    simp only [maximumSegmentCharacters] at hlength
    refine ⟨hne, ⟨?_, ?_⟩, hnfc, ⟨?_, ?_⟩, not_driveQualified h.not_colon, hback, hpercent,
      hdecode, by simpa using hsegment⟩
    · simp only [maximumPathCharacters]; omega
    · simp only [maximumPathBytes]; omega
    · exact fun hhead => hs (List.mem_of_head? hhead)
    · exact fun hhead => hback (List.mem_of_head? hhead)

theorem hasInvalidPercent_of_not_mem (h : '%' ∉ s) : hasInvalidPercent s = false := by
  induction s with
  | nil => rfl
  | cons c s ih =>
    rw [List.mem_cons, not_or] at h
    rw [hasInvalidPercent.eq_def]
    split
    · rfl
    · next heq => exact absurd (List.cons.inj heq).1.symm h.1
    · next heq => rw [← (List.cons.inj heq).2]; exact ih h.2

theorem decodePasses_of_not_mem (h : '%' ∉ s) (passes : ℕ) : decodePasses passes s = none := by
  cases passes with
  | zero => rfl
  | succ passes => rw [decodePasses, decodeURIComponent_of_not_mem h]; simp

/-- **An accepted path with a directory has no escape**: decoding it leaves a slash behind. -/
theorem Canonical.no_escape (h : Canonical u value) (hslash : '/' ∈ value) : '%' ∉ value := by
  intro hm
  obtain ⟨-, -, -, -, -, -, -, hdecode, -⟩ := pathProblem_eq_none.1 (canonical_iff.1 h)
  rw [maximumDecodePasses, decodePasses] at hdecode
  cases hnext : decodeURIComponent value with
  | none => simp [hnext] at hdecode
  | some next =>
    have hlt := decodeURIComponent_lt hnext hm
    have hkept := decodeURIComponent_slash hnext hslash
    have hne : next ≠ value := by rintro rfl; omega
    simp [hnext, hne, hkept] at hdecode

theorem mem_intercalate {c : Char} {sep : JsString} {segments : List JsString} (hs : s ∈ segments)
    (hc : c ∈ s) : c ∈ sep.intercalate segments := by
  induction segments with
  | nil => cases hs
  | cons first others ih =>
    cases others with
    | nil =>
      obtain rfl := List.mem_singleton.1 hs
      simpa using hc
    | cons second others =>
      rw [List.intercalate_cons_cons]
      rcases List.mem_cons.1 hs with rfl | hs
      · simp [hc]
      · simp [ih hs]

/-- The segments of an accepted path without an escape keep the rules. -/
theorem Canonical.rules (hnfc : NormalizesSegments u) (h : Canonical u value)
    (hescape : '%' ∉ value) : ∀ segment ∈ value.splitOn '/', SegmentRules u segment := by
  intro segment hs
  have hpart : ∀ c ∈ segment, c ∈ value := by
    intro c hc
    rw [← @List.intercalate_splitOn _ value _ _ '/']
    exact mem_intercalate hs hc
  have hnone : '%' ∉ segment := fun hm => hescape (hpart _ hm)
  refine ⟨fun hm => h.not_backslash (hpart _ hm), ?_, hasInvalidPercent_of_not_mem hnone,
    decodePasses_of_not_mem hnone _, h.segments segment hs⟩
  have hsplit := hnfc value
  rw [h.nfc] at hsplit
  have hfixed : (value.splitOn '/').map id = (value.splitOn '/').map u.nfc := by simpa using hsplit
  exact List.map_inj_left.1 hfixed segment hs

/-- A path without an escape whose segments keep the rules is accepted. -/
theorem canonical_of_segments (hnfc : NormalizesSegments u) (hescape : '%' ∉ value)
    (hlength : utf16Length value ≤ maximumPathCharacters ∧ utf8Length value ≤ maximumPathBytes)
    (h : ∀ segment ∈ value.splitOn '/', SegmentRules u segment) : Canonical u value := by
  have hempty : [] ∉ value.splitOn '/' := fun hm =>
    (segmentProblem_eq_none.1 (h [] hm).2.2.2.2).1 rfl
  have hchar : ∀ c ∈ value, c ≠ '/' → ∃ segment, SegmentRules u segment ∧ c ∈ segment := by
    intro c hc hne
    obtain ⟨segment, hs, hm⟩ := exists_segment hc hne
    exact ⟨segment, h segment hs, hm⟩
  have hback : '\\' ∉ value := by
    intro hm
    obtain ⟨segment, hs, hm⟩ := hchar _ hm (by decide)
    exact hs.1 hm
  rw [canonical_iff, pathProblem_eq_none]
  refine ⟨?_, hlength, ?_, ⟨?_, ?_⟩, not_driveQualified ?_, hback,
    hasInvalidPercent_of_not_mem hescape, decodePasses_of_not_mem hescape _,
    fun segment hs => (h segment hs).2.2.2.2⟩
  · rintro rfl
    exact hempty (by simp)
  · have hfixed : (value.splitOn '/').map id = (value.splitOn '/').map u.nfc :=
      List.map_inj_left.2 fun segment hs => (h segment hs).2.1
    rw [← @List.intercalate_splitOn _ (u.nfc value) _ _ '/', hnfc value, ← hfixed, List.map_id,
      List.intercalate_splitOn]
  · intro hhead
    obtain ⟨rest, rfl⟩ := List.head?_eq_some_iff.1 hhead
    exact hempty (by simp [List.splitOn_cons_eq_if_modifyHead])
  · exact fun hhead => hback (List.mem_of_head? hhead)
  · rintro c hc rfl
    obtain ⟨segment, hs, hm⟩ := hchar _ hc (by decide)
    exact hs.not_colon _ hm rfl

/-- **Accepted segment by segment.** A path within the total limits is accepted
exactly when each segment is, unless the list is empty or it has two segments or
more, one of them has an escape, and all of them keep the rules: then the path is
rejected. -/
theorem accepted_by_segment_iff (hnfc : NormalizesSegments u) (segments : List JsString)
    (hslash : ∀ segment ∈ segments, '/' ∉ segment)
    (hlength : utf16Length (['/'].intercalate segments) ≤ maximumPathCharacters ∧
      utf8Length (['/'].intercalate segments) ≤ maximumPathBytes) :
    ((validateCanonicalRelativePath u (['/'].intercalate segments)).valid = true ↔
        ∀ segment ∈ segments, (validateCanonicalRelativePath u segment).valid = true) ↔
      segments ≠ [] ∧ (2 ≤ segments.length → (∃ segment ∈ segments, '%' ∈ segment) →
        ∃ segment ∈ segments, ¬SegmentRules u segment) := by
  change (Canonical u _ ↔ ∀ segment ∈ segments, Canonical u segment) ↔ _
  have hrules : (∀ segment ∈ segments, Canonical u segment) ↔
      ∀ segment ∈ segments, SegmentRules u segment :=
    forall₂_congr fun segment hs => canonical_segment_iff (hslash segment hs)
  rw [hrules]
  match segments with
  | [] =>
    have : ¬Canonical u [] := fun h => h.ne_nil rfl
    simpa using this
  | [segment] =>
    have hone := canonical_segment_iff (u := u) (hslash segment (by simp))
    simpa using hone
  | first :: second :: others =>
    set segments := first :: second :: others
    set value := ['/'].intercalate segments with hvalue
    have hne : segments ≠ [] := List.cons_ne_nil _ _
    have htwo : 2 ≤ segments.length := by simp [segments]
    have hsplit : value.splitOn '/' = segments := List.splitOn_intercalate '/' hslash hne
    have hdir : '/' ∈ value := by
      rw [hvalue, List.intercalate_cons_cons]; simp
    clear_value segments
    by_cases hescape : '%' ∈ value
    · -- the path is rejected, and a segment has the escape
      have hrejected : ¬Canonical u value := fun h => h.no_escape hdir hescape
      have hsome : ∃ segment ∈ segments, '%' ∈ segment :=
        hsplit ▸ exists_segment hescape (by decide)
      simp only [hrejected, hsome, hne, htwo, false_iff, not_forall, exists_prop, ne_eq,
        not_false_eq_true, true_and, forall_const]
    · -- no segment has an escape, and the rules decide
      have hiff : Canonical u value ↔ ∀ segment ∈ segments, SegmentRules u segment :=
        ⟨fun h => hsplit ▸ h.rules hnfc hescape,
          fun h => canonical_of_segments hnfc hescape hlength (hsplit.symm ▸ h)⟩
      have hnone : ¬∃ segment ∈ segments, '%' ∈ segment := fun ⟨segment, hs, hm⟩ =>
        hescape (mem_intercalate hs hm)
      simp only [hiff, hnone, hne, false_imp_iff, imp_true_iff, ne_eq, not_false_eq_true, and_self]

namespace Sample

/-- A decoded percent sign, and a list of two files. -/
theorem confined_percent :
    (∀ n ≤ 3, ∀ s, decodedTimes n "a%2541".toList = some s → '/' ∉ s) ∧
      ∃ keys, ["a/b".toList, "A".toList].mapM (canonicalPathCollisionKey ascii) = .ok keys ∧
        keys.Nodup := by
  refine ⟨fun n hn s hs hm => ?_, ((accepted_confined ascii).2 _ _ rfl).2⟩
  have hcount := ((accepted_confined ascii).1 "a%2541".toList (by decide) n hn s hs).2.1
  rw [show List.count '/' "a%2541".toList = 0 by decide] at hcount
  exact List.count_eq_zero.1 hcount hm

theorem ascii_segments : NormalizesSegments ascii := fun _ => (List.map_id _).symm

/-- The file `a%20b` is accepted, in the directory `dir` it is not. -/
theorem escape_in_directory :
    ¬((validateCanonicalRelativePath ascii "dir/a%20b".toList).valid = true ↔
      ∀ segment ∈ ["dir".toList, "a%20b".toList],
        (validateCanonicalRelativePath ascii segment).valid = true) := by decide

theorem escape_in_directory_iff :
    ((validateCanonicalRelativePath ascii (['/'].intercalate ["dir".toList, "a%20b".toList])).valid =
          true ↔
        ∀ segment ∈ ["dir".toList, "a%20b".toList],
          (validateCanonicalRelativePath ascii segment).valid = true) ↔
      ["dir".toList, "a%20b".toList] ≠ [] ∧
        (2 ≤ ["dir".toList, "a%20b".toList].length →
          (∃ segment ∈ ["dir".toList, "a%20b".toList], '%' ∈ segment) →
          ∃ segment ∈ ["dir".toList, "a%20b".toList], ¬SegmentRules ascii segment) :=
  accepted_by_segment_iff ascii_segments _ (by decide) (by decide)

end Sample

end OfflineWebArchiver
