import OfflineWebArchiver.Replay.Network

/-!
# Headers that are stored and read again

A stored record of headers is cleaned a second time when it is read.

* `fromEntries_of_distinct`: entries with distinct names are their own record.
* `sanitizeReplayResponseHeaders_idem`: **cleaned response headers stay as they are.**
* `selectReplayMatchHeaders_again`: selected request headers do when no cut leaves a blank at
  the end.
-/

namespace OfflineWebArchiver

/-! ### Cut texts -/

theorem utf16Length_cons (c : Char) (s : JsString) :
    utf16Length (c :: s) = (if c.toNat < 0x10000 then 1 else 2) + utf16Length s := rfl

theorem utf16Length_append (s t : JsString) : utf16Length (s ++ t) = utf16Length s + utf16Length t := by
  unfold utf16Length
  rw [List.map_append, List.sum_append]

theorem utf16Length_utf16Take (n : ℕ) (s : JsString) : utf16Length (utf16Take n s) ≤ n := by
  induction n, s using utf16Take.induct with
  | case1 n => simp [utf16Take, utf16Length]
  | case2 s hs => simp [utf16Take, utf16Length]
  | case3 c s hc => simp [utf16Take, utf16Length, hc]
  | case4 c s hc => simp [utf16Take, hc, utf16Length]
  | case5 n c s ih1 ih2 =>
    rw [utf16Take, utf16Length_cons]
    split_ifs <;> omega

/-- A text that is short enough is not cut. -/
theorem utf16Take_of_le {n : ℕ} {s : JsString} (h : utf16Length s ≤ n) : utf16Take n s = s := by
  induction n, s using utf16Take.induct with
  | case1 n => simp [utf16Take]
  | case2 s hs =>
    cases s with
    | nil => rfl
    | cons c s =>
      rw [utf16Length_cons] at h
      split_ifs at h <;> omega
  | case3 c s hc =>
    cases s with
    | nil => simp [utf16Take, hc]
    | cons d s =>
      rw [utf16Length_cons, utf16Length_cons, if_pos hc] at h
      split_ifs at h <;> omega
  | case4 c s hc =>
    rw [utf16Length_cons, if_neg hc] at h
    omega
  | case5 n c s ih1 ih2 =>
    rw [utf16Length_cons] at h
    rw [utf16Take]
    split_ifs at h ⊢
    · rw [ih1 (by omega)]
    · rw [ih2 (by omega)]

theorem mem_utf16Take {n : ℕ} {s : JsString} {c : Char} (h : c ∈ utf16Take n s) : c ∈ s ∨ c = Char.ofNat 0xfffd := by
  induction n, s using utf16Take.induct with
  | case1 n => simp [utf16Take] at h
  | case2 s hs => simp [utf16Take] at h
  | case3 d s hd => simp_all [utf16Take]
  | case4 d s hd =>
    rw [utf16Take, if_neg hd, List.mem_singleton] at h
    exact .inr h
  | case5 n d s ih1 ih2 =>
    rw [utf16Take, List.mem_cons] at h
    rcases h with rfl | h
    · exact .inl List.mem_cons_self
    · have hrest : c ∈ s ∨ c = Char.ofNat 0xfffd := by
        split_ifs at h
        · exact ih1 h
        · exact ih2 h
      exact hrest.imp_left (List.mem_cons_of_mem d)

/-! ### Trimmed texts -/

/-- No blank at either end. -/
structure Trimmed (s : JsString) : Prop where
  head : ∀ c, s.head? = some c → isJsSpace c = false
  last : ∀ c, s.getLast? = some c → isJsSpace c = false

theorem head?_dropWhile_space {s : JsString} {c : Char} (h : (s.dropWhile isJsSpace).head? = some c) :
    isJsSpace c = false := by
  have hnot := List.head?_dropWhile_not isJsSpace s
  rw [h] at hnot
  simpa using hnot

theorem dropWhile_space_of_head {s : JsString} (h : ∀ c, s.head? = some c → isJsSpace c = false) :
    s.dropWhile isJsSpace = s := by
  cases s with
  | nil => rfl
  | cons c s => rw [List.dropWhile_cons_of_neg (by simp [h c rfl])]

theorem trimmed_jsTrim (s : JsString) : Trimmed (jsTrim s) := by
  unfold jsTrim
  constructor
  · intro c hc
    rw [List.head?_reverse] at hc
    -- what is left of the end of the reversed text is its end, the head of the text
    obtain ⟨front, hfront⟩ := List.dropWhile_suffix isJsSpace (l := (s.dropWhile isJsSpace).reverse)
    have hlast : (s.dropWhile isJsSpace).reverse.getLast? = some c := by
      rw [← hfront, List.getLast?_append, hc]
      rfl
    rw [List.getLast?_reverse] at hlast
    exact head?_dropWhile_space hlast
  · intro c hc
    rw [List.getLast?_reverse] at hc
    exact head?_dropWhile_space hc

theorem jsTrim_of_trimmed {s : JsString} (h : Trimmed s) : jsTrim s = s := by
  unfold jsTrim
  rw [dropWhile_space_of_head h.head, dropWhile_space_of_head, List.reverse_reverse]
  intro c hc
  rw [List.head?_reverse] at hc
  exact h.last c hc

theorem utf16Length_reverse (s : JsString) : utf16Length s.reverse = utf16Length s := by
  unfold utf16Length
  rw [List.map_reverse, List.sum_reverse]

theorem utf16Length_dropWhile (p : Char → Bool) (s : JsString) : utf16Length (s.dropWhile p) ≤ utf16Length s := by
  have hsplit := congrArg utf16Length (List.takeWhile_append_dropWhile (p := p) (l := s))
  rw [utf16Length_append] at hsplit
  omega

theorem utf16Length_jsTrim (s : JsString) : utf16Length (jsTrim s) ≤ utf16Length s := by
  unfold jsTrim
  rw [utf16Length_reverse]
  refine (utf16Length_dropWhile _ _).trans ?_
  rw [utf16Length_reverse]
  exact utf16Length_dropWhile _ _

theorem mem_of_mem_jsTrim {s : JsString} {c : Char} (h : c ∈ jsTrim s) : c ∈ s := by
  unfold jsTrim at h
  have hdropped := (List.dropWhile_suffix isJsSpace).subset (List.mem_reverse.1 h)
  exact (List.dropWhile_suffix isJsSpace).subset (List.mem_reverse.1 hdropped)

namespace Replay

/-! ### Records -/

/-- No two entries share a name. -/
def Distinct (record : Headers) : Prop := (record.map (·.1)).Nodup

theorem setEntry_of_new {record : Headers} {name value : JsString} (h : name ∉ record.map (·.1)) :
    setEntry record name value = record ++ [(name, value)] := by
  unfold setEntry
  rw [if_neg]
  intro hany
  obtain ⟨entry, hentry, hname⟩ := List.any_eq_true.1 hany
  exact h (List.mem_map.2 ⟨entry, hentry, by simpa using hname⟩)

/-- Assignments keep the names distinct and what every entry has. -/
theorem setEntry_keeps {P : JsString × JsString → Prop} {record : Headers} {name value : JsString}
    (hdistinct : Distinct record) (hall : ∀ entry ∈ record, P entry) (hnew : P (name, value)) :
    Distinct (setEntry record name value) ∧ ∀ entry ∈ setEntry record name value, P entry := by
  by_cases hname : name ∈ record.map (·.1)
  · have hany : (record.any fun entry => entry.1 == name) = true := by
      obtain ⟨entry, hentry, rfl⟩ := List.mem_map.1 hname
      exact List.any_eq_true.2 ⟨entry, hentry, by simp⟩
    unfold setEntry
    rw [if_pos hany]
    constructor
    · have hnames : (record.map fun entry => if entry.1 == name then (name, value) else entry).map (·.1) =
          record.map (·.1) := by
        rw [List.map_map]
        refine List.map_congr_left fun entry _ => ?_
        by_cases hentry : entry.1 = name
        · simp [hentry]
        · simp [hentry]
      unfold Distinct
      rw [hnames]
      exact hdistinct
    · intro entry hentry
      obtain ⟨old, hold, rfl⟩ := List.mem_map.1 hentry
      split_ifs
      · exact hnew
      · exact hall old hold
  · rw [setEntry_of_new hname]
    constructor
    · unfold Distinct
      rw [List.map_append]
      exact List.nodup_append.2 ⟨hdistinct, List.nodup_singleton _, by
        rintro a ha b hb rfl
        rw [List.map_singleton, List.mem_singleton] at hb
        rw [hb] at ha
        exact hname ha⟩
    · intro entry hentry
      rcases List.mem_append.1 hentry with hold | hlast
      · exact hall entry hold
      · rw [List.mem_singleton.1 hlast]
        exact hnew

theorem foldl_setEntry_of_distinct (entries : Headers) :
    ∀ record : Headers, Distinct (record ++ entries) →
      entries.foldl (fun record entry => setEntry record entry.1 entry.2) record = record ++ entries := by
  induction entries with
  | nil =>
    intro record _
    rw [List.append_nil]
    rfl
  | cons entry rest ih =>
    intro record hdistinct
    have hnew : entry.1 ∉ record.map (·.1) := by
      intro hmem
      unfold Distinct at hdistinct
      rw [List.map_append] at hdistinct
      exact (List.nodup_append.1 hdistinct).2.2 _ hmem _ List.mem_cons_self rfl
    rw [List.foldl_cons, setEntry_of_new hnew, ih _ (by rwa [List.append_assoc]), List.append_assoc]
    rfl

/-- **Entries with distinct names are their own record.** -/
theorem fromEntries_of_distinct {entries : Headers} (h : Distinct entries) : fromEntries entries = entries := by
  unfold fromEntries
  rw [foldl_setEntry_of_distinct entries [] h]
  rfl

theorem Distinct.perm {a b : Headers} (h : Distinct a) (hperm : b.Perm a) : Distinct b :=
  (hperm.map _).nodup_iff.2 h

theorem nameNotAfter_trans (a b c : JsString × JsString) (hab : nameNotAfter a b = true) (hbc : nameNotAfter b c = true) :
    nameNotAfter a c = true := by
  unfold nameNotAfter at *
  rw [Bool.not_eq_true'] at *
  by_contra hca
  rw [Bool.not_eq_false] at hca
  by_cases hsame : b.1 = a.1
  · rw [hsame] at hbc
    exact Bool.false_ne_true (hbc.symm.trans hca)
  · rcases jsLt_total hsame with hlt | hlt
    · exact Bool.false_ne_true (hab.symm.trans hlt)
    · exact Bool.false_ne_true (hbc.symm.trans (jsLt_trans hca hlt))

theorem nameNotAfter_total (a b : JsString × JsString) : (nameNotAfter a b || nameNotAfter b a) = true := by
  unfold nameNotAfter
  cases hlt : jsLt b.1 a.1 with
  | false => rfl
  | true => rw [jsLt_asymm hlt]; rfl

/-- A sorted record with distinct names is the record of its sorted entries. -/
theorem fromEntries_mergeSort {entries : Headers} (h : Distinct entries) :
    fromEntries (entries.mergeSort nameNotAfter) = entries.mergeSort nameNotAfter :=
  fromEntries_of_distinct (h.perm (List.mergeSort_perm _ _))

theorem mergeSort_mergeSort (entries : Headers) :
    (entries.mergeSort nameNotAfter).mergeSort nameNotAfter = entries.mergeSort nameNotAfter :=
  List.mergeSort_of_pairwise (List.pairwise_mergeSort nameNotAfter_trans nameNotAfter_total entries)

/-! ### Response headers -/

variable {env : ReplayEnv}

/-- Header names in lower case are their own lower case. -/
def KeepsLowerCase (u : Unicode) : Prop := ∀ s : JsString, (∀ c ∈ s, c.isLower = true ∨ c = '-') → u.lower s = s

theorem utf16Length_cleanHeaderValue (value : JsString) : utf16Length (cleanHeaderValue value) ≤ 4096 :=
  (utf16Length_jsTrim _).trans (utf16Length_utf16Take _ _)

theorem cleanHeaderValue_idem (value : JsString) : cleanHeaderValue (cleanHeaderValue value) = cleanHeaderValue value := by
  generalize hclean : cleanHeaderValue value = t
  have hmap : (t.map fun c => if c.toNat == 10 || c.toNat == 13 || c.toNat == 0 then ' ' else c) = t := by
    refine (List.map_congr_left fun c hc => ?_).trans (List.map_id t)
    rw [if_neg]
    · rfl
    rw [← hclean] at hc
    rcases mem_utf16Take (mem_of_mem_jsTrim hc) with hmem | rfl
    · obtain ⟨d, -, rfl⟩ := List.mem_map.1 hmem
      split_ifs with hd
      · decide
      · exact hd
    · decide
  have hshort : utf16Length t ≤ 4096 := hclean ▸ utf16Length_cleanHeaderValue value
  unfold cleanHeaderValue
  rw [hmap, utf16Take_of_le hshort, jsTrim_of_trimmed]
  rw [← hclean]
  exact trimmed_jsTrim _

/-- An entry that cleaning leaves as it is. -/
structure Clean (env : ReplayEnv) (entry : JsString × JsString) : Prop where
  lower : env.unicode.lower entry.1 = entry.1
  known : (!SAFE_REPLAY_RESPONSE_HEADERS.contains entry.1 || UNSAFE_REPLAY_RESPONSE_HEADERS.contains entry.1) = false
  notLocation : (entry.1 == "location".toList) = false
  value : cleanHeaderValue entry.2 = entry.2
  nonempty : entry.2 ≠ []

/-- One turn of the loop of `sanitizeReplayResponseHeaders`. -/
def sanitizeStep (env : ReplayEnv) (result : Headers) (h : JsString × JsString) : Headers :=
  let name := env.unicode.lower h.1
  let value := cleanHeaderValue h.2
  if !SAFE_REPLAY_RESPONSE_HEADERS.contains name || UNSAFE_REPLAY_RESPONSE_HEADERS.contains name then result
  else if value = [] then result
  else if name == "location".toList then result
  else setEntry result name value

theorem sanitizeReplayResponseHeaders_eq (headers : Headers) :
    sanitizeReplayResponseHeaders env headers =
      fromEntries ((headers.foldl (sanitizeStep env) []).mergeSort nameNotAfter) := rfl

/-- Names of small letters and hyphens, read character by character. -/
theorem lowerNames {names : List JsString} (h : (names.all fun name => name.all fun c => c.isLower || c == '-') = true) :
    ∀ name ∈ names, ∀ c ∈ name, c.isLower = true ∨ c = '-' := by
  intro name hname c hc
  have hfound := List.all_eq_true.1 (List.all_eq_true.1 h name hname) c hc
  rwa [Bool.or_eq_true, beq_iff_eq] at hfound

theorem safe_lower (hlower : KeepsLowerCase env.unicode) {name : JsString}
    (h : SAFE_REPLAY_RESPONSE_HEADERS.contains name = true) : env.unicode.lower name = name := by
  have hall : ∀ name ∈ SAFE_REPLAY_RESPONSE_HEADERS, ∀ c ∈ name, c.isLower = true ∨ c = '-' := lowerNames (by decide)
  exact hlower name (hall name (List.contains_iff_mem.1 h))

theorem sanitizeStep_keeps (hlower : KeepsLowerCase env.unicode) {record : Headers} {h : JsString × JsString}
    (hrecord : Distinct record ∧ ∀ entry ∈ record, Clean env entry) :
    Distinct (sanitizeStep env record h) ∧ ∀ entry ∈ sanitizeStep env record h, Clean env entry := by
  unfold sanitizeStep
  simp only
  split_ifs with hknown hempty hlocal
  · exact hrecord
  · exact hrecord
  · exact hrecord
  · refine setEntry_keeps hrecord.1 hrecord.2 ?_
    have hsafe : SAFE_REPLAY_RESPONSE_HEADERS.contains (env.unicode.lower h.1) = true := by
      by_contra hnot
      exact hknown (by rw [Bool.eq_false_iff.2 hnot]; rfl)
    exact ⟨safe_lower hlower hsafe, by simpa using hknown, by simpa using hlocal, cleanHeaderValue_idem h.2, hempty⟩

theorem foldl_sanitizeStep_keeps (hlower : KeepsLowerCase env.unicode) (headers : Headers) :
    ∀ record : Headers, (Distinct record ∧ ∀ entry ∈ record, Clean env entry) →
      Distinct (headers.foldl (sanitizeStep env) record) ∧
        ∀ entry ∈ headers.foldl (sanitizeStep env) record, Clean env entry := by
  induction headers with
  | nil => exact fun record h => h
  | cons h rest ih => exact fun record hrecord => ih _ (sanitizeStep_keeps hlower hrecord)

/-- Clean entries are assigned one after the other. -/
theorem foldl_sanitizeStep_of_clean (entries : Headers) :
    ∀ record : Headers, (∀ entry ∈ entries, Clean env entry) →
      entries.foldl (sanitizeStep env) record =
        entries.foldl (fun record entry => setEntry record entry.1 entry.2) record := by
  induction entries with
  | nil => exact fun record _ => rfl
  | cons entry rest ih =>
    intro record hclean
    have hentry := hclean entry List.mem_cons_self
    have hstep : sanitizeStep env record entry = setEntry record entry.1 entry.2 := by
      unfold sanitizeStep
      simp only [hentry.lower, hentry.known, hentry.notLocation, hentry.value, hentry.nonempty, Bool.false_eq_true, if_false]
    rw [List.foldl_cons, List.foldl_cons, hstep]
    exact ih _ fun e he => hclean e (List.mem_cons_of_mem _ he)

/-- **Cleaned response headers stay as they are.** -/
theorem sanitizeReplayResponseHeaders_idem (hlower : KeepsLowerCase env.unicode) (headers : Headers) :
    sanitizeReplayResponseHeaders env (sanitizeReplayResponseHeaders env headers) =
      sanitizeReplayResponseHeaders env headers := by
  obtain ⟨hdistinct, hclean⟩ :=
    foldl_sanitizeStep_keeps hlower headers [] ⟨List.nodup_nil, fun entry h => by cases h⟩
  have hperm := List.mergeSort_perm (headers.foldl (sanitizeStep env) []) nameNotAfter
  have hsorted : Distinct ((headers.foldl (sanitizeStep env) []).mergeSort nameNotAfter) := hdistinct.perm hperm
  rw [sanitizeReplayResponseHeaders_eq headers, fromEntries_mergeSort hdistinct, sanitizeReplayResponseHeaders_eq,
    foldl_sanitizeStep_of_clean _ [] fun entry hentry => hclean entry (hperm.mem_iff.1 hentry),
    foldl_setEntry_of_distinct _ [] hsorted, List.nil_append, mergeSort_mergeSort, fromEntries_mergeSort hdistinct]

/-- Every header that is kept is clean. -/
theorem sanitizeReplayResponseHeaders_clean (hlower : KeepsLowerCase env.unicode) {headers : Headers}
    {entry : JsString × JsString} (h : entry ∈ sanitizeReplayResponseHeaders env headers) : Clean env entry := by
  obtain ⟨hdistinct, hclean⟩ :=
    foldl_sanitizeStep_keeps hlower headers [] ⟨List.nodup_nil, fun entry h => by cases h⟩
  rw [sanitizeReplayResponseHeaders_eq, fromEntries_mergeSort hdistinct] at h
  exact hclean entry ((List.mergeSort_perm _ _).mem_iff.1 h)

/-- A redirect's target is not kept. -/
theorem entry?_location (hlower : KeepsLowerCase env.unicode) (headers : Headers) :
    entry? (sanitizeReplayResponseHeaders env headers) "location".toList = none := by
  unfold entry?
  rw [Option.map_eq_none_iff, List.find?_eq_none]
  intro entry hentry
  rw [(sanitizeReplayResponseHeaders_clean hlower hentry).notLocation]
  exact Bool.false_ne_true

/-! ### Request headers -/

/-- The names of a record are, in order, among those of the entries that were assigned to it. -/
theorem foldl_setEntry_names (entries : Headers) :
    ∀ record : Headers, ((entries.foldl (fun record entry => setEntry record entry.1 entry.2) record).map (·.1)).Sublist
      (record.map (·.1) ++ entries.map (·.1)) := by
  induction entries with
  | nil =>
    intro record
    rw [List.map_nil, List.append_nil]
    exact List.Sublist.refl _
  | cons entry rest ih =>
    intro record
    have hstep : ((setEntry record entry.1 entry.2).map (·.1)).Sublist (record.map (·.1) ++ [entry.1]) := by
      by_cases hname : entry.1 ∈ record.map (·.1)
      · obtain ⟨old, hold, hsame⟩ := List.mem_map.1 hname
        have hany : (record.any fun e => e.1 == entry.1) = true := List.any_eq_true.2 ⟨old, hold, by simpa using hsame⟩
        have hnames : (setEntry record entry.1 entry.2).map (·.1) = record.map (·.1) := by
          unfold setEntry
          rw [if_pos hany, List.map_map]
          refine List.map_congr_left fun e _ => ?_
          by_cases he : e.1 = entry.1
          · simp [he]
          · simp [he]
        rw [hnames]
        exact List.sublist_append_left _ _
      · rw [setEntry_of_new hname, List.map_append]
        exact List.Sublist.refl _
    refine (ih _).trans ?_
    rw [List.map_cons, ← List.singleton_append, ← List.append_assoc]
    exact hstep.append_right _

/-- What a selected header is. -/
structure Selected (env : ReplayEnv) (entry : JsString × JsString) : Prop where
  lower : env.unicode.lower entry.1 = entry.1
  allowed : (SELECTED_REPLAY_HEADERS.contains entry.1 && !SENSITIVE_HEADERS.contains entry.1) = true
  short : utf16Length entry.2 ≤ 512
  nonempty : entry.2 ≠ []

theorem foldl_setEntry_keeps {P : JsString × JsString → Prop} (entries : Headers) :
    ∀ record : Headers, (Distinct record ∧ ∀ entry ∈ record, P entry) → (∀ entry ∈ entries, P entry) →
      Distinct (entries.foldl (fun record entry => setEntry record entry.1 entry.2) record) ∧
        ∀ entry ∈ entries.foldl (fun record entry => setEntry record entry.1 entry.2) record, P entry := by
  induction entries with
  | nil => exact fun record h _ => h
  | cons entry rest ih =>
    intro record h hall
    exact ih _ (setEntry_keeps h.1 h.2 (hall entry List.mem_cons_self)) fun e he => hall e (List.mem_cons_of_mem _ he)

/-- The entries that `selectReplayMatchHeaders` sorts. -/
def matchEntries (env : ReplayEnv) (headers : Headers) : Headers :=
  (headers.map fun h => (env.unicode.lower h.1, utf16Take 512 (jsTrim h.2))).filter fun h =>
    SELECTED_REPLAY_HEADERS.contains h.1 && !SENSITIVE_HEADERS.contains h.1 && h.2 != []

theorem selectReplayMatchHeaders_eq (headers : Headers) :
    selectReplayMatchHeaders env headers = fromEntries ((matchEntries env headers).mergeSort nameNotAfter) := rfl

theorem matchEntries_selected (hlower : KeepsLowerCase env.unicode) {headers : Headers} :
    ∀ entry ∈ matchEntries env headers, Selected env entry := by
  intro entry hentry
  obtain ⟨hmem, hkeep⟩ := List.mem_filter.1 hentry
  obtain ⟨h, -, rfl⟩ := List.mem_map.1 hmem
  obtain ⟨hallowed, hnonempty⟩ := Bool.and_eq_true_iff.1 hkeep
  have hall : ∀ name ∈ SELECTED_REPLAY_HEADERS, ∀ c ∈ name, c.isLower = true ∨ c = '-' := lowerNames (by decide)
  have hname := List.contains_iff_mem.1 (Bool.and_eq_true_iff.1 hallowed).1
  exact ⟨hlower _ (hall _ hname), hallowed, utf16Length_utf16Take _ _, by simpa using hnonempty⟩

/-- The selected headers have distinct names in order. -/
theorem selectReplayMatchHeaders_spec (hlower : KeepsLowerCase env.unicode) (headers : Headers) :
    Distinct (selectReplayMatchHeaders env headers) ∧
      (selectReplayMatchHeaders env headers).Pairwise (fun a b => nameNotAfter a b = true) ∧
      ∀ entry ∈ selectReplayMatchHeaders env headers, Selected env entry := by
  have hperm := List.mergeSort_perm (matchEntries env headers) nameNotAfter
  have hsorted := List.pairwise_mergeSort nameNotAfter_trans nameNotAfter_total (matchEntries env headers)
  rw [selectReplayMatchHeaders_eq]
  obtain ⟨hdistinct, hselected⟩ := foldl_setEntry_keeps ((matchEntries env headers).mergeSort nameNotAfter) []
    ⟨List.nodup_nil, fun e he => (by cases he)⟩ fun e he => matchEntries_selected hlower e (hperm.mem_iff.1 he)
  refine ⟨hdistinct, ?_, hselected⟩
  -- the order is one of the names, and these are a part of the sorted ones
  have hnames := foldl_setEntry_names ((matchEntries env headers).mergeSort nameNotAfter) []
  rw [List.map_nil, List.nil_append] at hnames
  have hsortedNames : (((matchEntries env headers).mergeSort nameNotAfter).map (·.1)).Pairwise
      (fun a b => (!jsLt b a) = true) := List.pairwise_map.2 hsorted
  exact List.pairwise_map.1 (hsortedNames.sublist hnames)

/-- **Selected headers that no cut has left with a blank at the end are selected again as they
are.** -/
theorem selectReplayMatchHeaders_again (hlower : KeepsLowerCase env.unicode) {headers : Headers}
    (htrimmed : ∀ entry ∈ selectReplayMatchHeaders env headers, Trimmed entry.2) :
    selectReplayMatchHeaders env (selectReplayMatchHeaders env headers) = selectReplayMatchHeaders env headers := by
  obtain ⟨hdistinct, hsorted, hselected⟩ := selectReplayMatchHeaders_spec hlower headers
  generalize selectReplayMatchHeaders env headers = selected at *
  have hentries : matchEntries env selected = selected := by
    unfold matchEntries
    have hmap : (selected.map fun h => (env.unicode.lower h.1, utf16Take 512 (jsTrim h.2))) = selected := by
      refine (List.map_congr_left fun h hh => ?_).trans (List.map_id selected)
      rw [(hselected h hh).lower, jsTrim_of_trimmed (htrimmed h hh), utf16Take_of_le (hselected h hh).short]
      rfl
    rw [hmap]
    refine List.filter_eq_self.2 fun h hh => ?_
    rw [(hselected h hh).allowed, Bool.true_and]
    simpa using (hselected h hh).nonempty
  rw [selectReplayMatchHeaders_eq, hentries, List.mergeSort_of_pairwise hsorted, fromEntries_of_distinct hdistinct]

end Replay

end OfflineWebArchiver
