import Mathlib.Data.List.Induction
import OfflineWebArchiver.Replay.Headers

/-!
# The key of a request

The key is the canonical text of the other fields of an identity.

* `quote_append`: a quoted text ends at its quote, whatever follows.
* `ReplayRequestIdentity.key_inj`: **a key names one identity.**
-/

namespace OfflineWebArchiver.Replay

open JsonText

/-- **A quoted text ends at its quote**, whatever follows. -/
theorem quote_append {a b rest rest' : JsString} (h : quote a ++ rest = quote b ++ rest') : a = b ∧ rest = rest' := by
  unfold quote at h
  simp only [List.cons_append, List.append_assoc, List.nil_append, List.cons.injEq, true_and] at h
  have ha := readChars_escape a (n := a.length + b.length + 1) (by omega) rest
  have hb := readChars_escape b (n := a.length + b.length + 1) (by omega) rest'
  rw [h, hb] at ha
  simpa using ha.symm

/-- A named value, as the text of a record has it. -/
def entryText (h : JsString × JsString) : JsString := quote h.1 ++ ':' :: quote h.2

theorem entryText_append {a b : JsString × JsString} {rest rest' : JsString}
    (h : entryText a ++ rest = entryText b ++ rest') : a = b ∧ rest = rest' := by
  unfold entryText at h
  rw [List.append_assoc, List.append_assoc] at h
  obtain ⟨hname, h⟩ := quote_append h
  obtain ⟨hvalue, h⟩ := quote_append (List.cons.inj h).2
  exact ⟨Prod.ext hname hvalue, h⟩

theorem entryText_ne_nil (h : JsString × JsString) : entryText h ≠ [] := by simp [entryText, quote]

/-- Entries between commas are read one after the other. -/
theorem intercalate_entryText_inj {a b : Headers}
    (h : List.intercalate [','] (a.map entryText) = List.intercalate [','] (b.map entryText)) : a = b := by
  have hsplit (e : JsString × JsString) (rest : Headers) :
      ∃ tail, List.intercalate [','] ((e :: rest).map entryText) = entryText e ++ tail ∧ (tail = [] ↔ rest = []) ∧
        (rest ≠ [] → tail = ',' :: List.intercalate [','] (rest.map entryText)) := by
    cases rest with
    | nil => exact ⟨[], by simp [List.intercalate], by simp, fun h => absurd rfl h⟩
    | cons f rest => exact ⟨_, by simp [List.intercalate]; rfl, by simp, fun _ => by simp [List.intercalate]⟩
  induction a generalizing b with
  | nil =>
    cases b with
    | nil => rfl
    | cons e rest =>
      obtain ⟨tail, htail, -⟩ := hsplit e rest
      rw [htail] at h
      exact absurd (List.append_eq_nil_iff.1 h.symm).1 (entryText_ne_nil e)
  | cons e a ih =>
    obtain ⟨tail, htail, hend, hmore⟩ := hsplit e a
    cases b with
    | nil =>
      rw [htail] at h
      exact absurd (List.append_eq_nil_iff.1 h).1 (entryText_ne_nil e)
    | cons f b =>
      obtain ⟨tail', htail', hend', hmore'⟩ := hsplit f b
      rw [htail, htail'] at h
      obtain ⟨rfl, rfl⟩ := entryText_append h
      by_cases hnil : a = []
      · rw [hnil, hend'.1 (hend.2 hnil)]
      · have hnil' : b ≠ [] := fun hb => hnil (hend.1 (hend'.2 hb))
        rw [ih (List.cons.inj ((hmore hnil).symm.trans (hmore' hnil'))).2]

theorem recordText_inj {a b : Headers} (h : recordText a = recordText b) : a = b := by
  unfold recordText at h
  exact intercalate_entryText_inj (List.append_cancel_right (List.cons.inj h).2)

theorem ReplayRequestMethod.text_inj {a b : ReplayRequestMethod} (h : a.text = b.text) : a = b := by
  cases a <;> cases b <;> first | rfl | exact absurd h (by decide)

/-- **A key names one identity.** -/
theorem ReplayRequestIdentity.key_inj {a b : ReplayRequestIdentity} (h : a.key = b.key) : a = b := by
  have hfield {name x y rest rest' : JsString}
      (h : ',' :: (quote name ++ ':' :: (quote x ++ rest)) = ',' :: (quote name ++ ':' :: (quote y ++ rest'))) :
      x = y ∧ rest = rest' :=
    quote_append (List.cons.inj (quote_append (List.cons.inj h).2).2).2
  unfold ReplayRequestIdentity.key at h
  simp only [List.append_assoc, List.cons_append, List.cons.injEq, true_and, List.append_cancel_left_eq] at h
  obtain ⟨hmethod, h⟩ := quote_append h
  obtain ⟨hurl, h⟩ := hfield h
  obtain ⟨hproject, h⟩ := hfield h
  obtain ⟨hrevision, h⟩ := hfield h
  obtain ⟨hrun, h⟩ := hfield h
  have hheaders := List.append_cancel_right (List.cons.inj (List.append_cancel_left (List.cons.inj h).2)).2
  cases a
  cases b
  simp only [ReplayRequestIdentity.mk.injEq]
  exact ⟨hproject, hrun, hrevision, ReplayRequestMethod.text_inj hmethod, hurl, recordText_inj hheaders⟩

end OfflineWebArchiver.Replay

/-!
## Which headers are selected

Under each name, `selectReplayMatchHeaders` keeps the last header that is not blank, trimmed and
then cut.

* `mem_selectReplayMatchHeaders`: what is selected, in terms of the request.
* `selectReplayMatchHeaders_again_iff`: **selected headers are selected again as they are if and
  only if no cut leaves a blank at the end.**
-/

namespace OfflineWebArchiver.Replay

variable {env : ReplayEnv} {headers record entries : Headers} {name value : JsString}

/-! ### Records -/

theorem name_of_find? {e : JsString × JsString} (h : record.find? (·.1 == name) = some e) : e.1 = name := by
  simpa using List.find?_some h

theorem entry?_setEntry (record : Headers) (name value asked : JsString) :
    entry? (setEntry record name value) asked = if name = asked then some value else entry? record asked := by
  unfold setEntry entry?
  by_cases hany : (record.any fun entry => entry.1 == name) = true
  · have hsame : (fun e : JsString × JsString => e.1 == asked) ∘ (fun e => if e.1 == name then (name, value) else e) =
        fun e => e.1 == asked := by
      funext e
      by_cases he : e.1 = name <;> simp [he]
    rw [if_pos hany, List.find?_map, hsame]
    by_cases hname : name = asked
    · subst hname
      obtain ⟨e, he, hfound⟩ := List.any_eq_true.1 hany
      cases hfind : record.find? (·.1 == name) with
      | none => exact absurd hfound (List.find?_eq_none.1 hfind e he)
      | some found => simp [name_of_find? hfind]
    · cases hfind : record.find? (·.1 == asked) with
      | none => simp [hname]
      | some found =>
        have hother : found.1 ≠ name := fun h => hname (h.symm.trans (name_of_find? hfind))
        simp [hname, hother]
  · rw [if_neg hany, List.find?_append]
    have hnone : record.find? (·.1 == name) = none := List.find?_eq_none.2 fun e he hfound =>
      hany (List.any_eq_true.2 ⟨e, he, hfound⟩)
    by_cases hname : name = asked
    · subst hname
      simp [hnone]
    · cases hfind : record.find? (·.1 == asked) <;> simp [hname]

/-- **The last value of a name counts.** -/
theorem entry?_fromEntries (entries : Headers) (name : JsString) :
    entry? (fromEntries entries) name = ((entries.filter (·.1 == name)).getLast?).map (·.2) := by
  unfold fromEntries
  induction entries using List.reverseRecOn with
  | nil => rfl
  | append_singleton entries e ih =>
    rw [List.foldl_append, List.foldl_cons, List.foldl_nil, entry?_setEntry, ih, List.filter_append]
    by_cases hname : e.1 = name
    · simp [hname]
    · simp [hname]

theorem mem_iff_entry? (hdistinct : Distinct record) : (name, value) ∈ record ↔ entry? record name = some value := by
  unfold entry?
  rw [Option.map_eq_some_iff]
  constructor
  · intro hmem
    cases hfind : record.find? (·.1 == name) with
    | none => exact absurd (beq_self_eq_true name) (List.find?_eq_none.1 hfind _ hmem)
    | some e =>
      have hname := name_of_find? hfind
      exact ⟨e, rfl, congrArg Prod.snd (List.inj_on_of_nodup_map hdistinct (List.mem_of_find?_eq_some hfind) hmem hname)⟩
  · rintro ⟨e, hfind, rfl⟩
    rw [← name_of_find? hfind]
    exact List.mem_of_find?_eq_some hfind

/-! ### Request headers -/

/-- The header that is selected under a name: the last one of this name that is not blank. -/
def lastHeader (env : ReplayEnv) (headers : Headers) (name : JsString) : Option JsString :=
  ((headers.filter fun h => env.unicode.lower h.1 == name && jsTrim h.2 != []).getLast?).map (·.2)

/-- What is kept of a header's value. -/
def keptValue (value : JsString) : JsString := utf16Take 512 (jsTrim value)

/-- A cut leaves nothing of nothing only. -/
theorem utf16Take_bne_nil (s : JsString) : (utf16Take 512 s != []) = (s != []) := by
  cases s with
  | nil => rfl
  | cons c s =>
    rw [utf16Take]
    split_ifs <;> rfl

/-- The sort keeps the order of the headers of one name. -/
theorem filter_mergeSort (entries : Headers) (name : JsString) :
    (entries.mergeSort nameNotAfter).filter (·.1 == name) = entries.filter (·.1 == name) := by
  have htie : (entries.filter (·.1 == name)).Pairwise (fun a b => nameNotAfter a b = true) := by
    refine List.pairwise_of_forall_mem_list fun a ha b hb => ?_
    have hname := (eq_of_beq (List.mem_filter.1 ha).2).trans (eq_of_beq (List.mem_filter.1 hb).2).symm
    unfold nameNotAfter
    rw [hname, jsLt_irrefl]
    rfl
  have hsub := List.sublist_mergeSort nameNotAfter_trans nameNotAfter_total htie List.filter_sublist
  have hfiltered := hsub.filter (·.1 == name)
  rw [List.filter_filter] at hfiltered
  simp only [Bool.and_self] at hfiltered
  exact (hfiltered.eq_of_length ((List.mergeSort_perm entries nameNotAfter).filter _).length_eq.symm).symm

theorem matchEntries_name (hname : name ∈ SELECTED_REPLAY_HEADERS) :
    (matchEntries env headers).filter (·.1 == name) =
      (headers.filter fun h => env.unicode.lower h.1 == name && jsTrim h.2 != []).map fun h =>
        (env.unicode.lower h.1, keptValue h.2) := by
  have hallowed : ∀ name ∈ SELECTED_REPLAY_HEADERS,
      (SELECTED_REPLAY_HEADERS.contains name && !SENSITIVE_HEADERS.contains name) = true := by decide
  unfold matchEntries
  rw [List.filter_filter, List.filter_map]
  refine congrArg (List.map _) (List.filter_congr fun h _ => ?_)
  simp only [Function.comp, utf16Take_bne_nil]
  by_cases hsame : env.unicode.lower h.1 = name
  · rw [hsame, hallowed name hname, Bool.true_and]
  · rw [beq_eq_false_iff_ne.2 hsame, Bool.false_and, Bool.false_and]

/-- **What is selected under a name.** -/
theorem mem_selectReplayMatchHeaders (hlower : KeepsLowerCase env.unicode) :
    (name, value) ∈ selectReplayMatchHeaders env headers ↔
      name ∈ SELECTED_REPLAY_HEADERS ∧ ∃ sent, lastHeader env headers name = some sent ∧ value = keptValue sent := by
  rw [ mem_iff_entry? (selectReplayMatchHeaders_spec hlower headers).1, selectReplayMatchHeaders_eq, entry?_fromEntries,
    filter_mergeSort]
  by_cases hname : name ∈ SELECTED_REPLAY_HEADERS
  · rw [matchEntries_name hname, List.getLast?_map, Option.map_map, lastHeader]
    cases (headers.filter fun h => env.unicode.lower h.1 == name && jsTrim h.2 != []).getLast? with
    | none => simp
    | some h => simp [hname, eq_comm]
  · have hnone : (matchEntries env headers).filter (·.1 == name) = [] := by
      rw [List.filter_eq_nil_iff]
      intro e he hsame
      have hallowed := (matchEntries_selected hlower e he).allowed
      rw [eq_of_beq hsame] at hallowed
      exact hname (List.contains_iff_mem.1 (Bool.and_eq_true_iff.1 hallowed).1)
    simp [hnone, hname]

/-- The cut of no selected header leaves a blank at its end. -/
def CutsClean (env : ReplayEnv) (headers : Headers) : Prop :=
  ∀ name ∈ SELECTED_REPLAY_HEADERS, ∀ value, lastHeader env headers name = some value →
    ∀ c, (keptValue value).getLast? = some c → isJsSpace c = false

theorem head?_utf16Take {n : ℕ} {s : JsString} {c : Char} (h : (utf16Take n s).head? = some c) :
    s.head? = some c ∨ c = Char.ofNat 0xfffd := by
  match n, s with
  | _, [] => simp [utf16Take] at h
  | 0, d :: s => cases h
  | 1, d :: s =>
    rw [utf16Take] at h
    split_ifs at h
    · exact .inl h
    · exact .inr (Option.some.inj h).symm
  | n + 2, d :: s => exact .inl h

theorem cutsClean_iff (hlower : KeepsLowerCase env.unicode) :
    CutsClean env headers ↔ ∀ entry ∈ selectReplayMatchHeaders env headers, Trimmed entry.2 := by
  constructor
  · rintro hclean ⟨name, value⟩ hentry
    obtain ⟨hname, sent, hsent, rfl⟩ := (mem_selectReplayMatchHeaders hlower).1 hentry
    refine ⟨fun c hc => ?_, hclean name hname sent hsent⟩
    rcases head?_utf16Take hc with hhead | rfl
    · exact (trimmed_jsTrim sent).head c hhead
    · decide
  · intro htrimmed name hname sent hsent
    exact (htrimmed _ ((mem_selectReplayMatchHeaders hlower).2 ⟨hname, sent, hsent, rfl⟩)).last

/-- **Selected headers are selected again as they are if and only if no cut leaves a blank at the
end.** -/
theorem selectReplayMatchHeaders_again_iff (hlower : KeepsLowerCase env.unicode) :
    selectReplayMatchHeaders env (selectReplayMatchHeaders env headers) = selectReplayMatchHeaders env headers ↔
      CutsClean env headers := by
  rw [cutsClean_iff hlower]
  refine ⟨fun hsame entry hentry => ?_, selectReplayMatchHeaders_again hlower⟩
  obtain ⟨hdistinct, -, hselected⟩ := selectReplayMatchHeaders_spec hlower headers
  -- the second selection cuts the value of the first, which is short already
  have hagain : (entry.1, entry.2) ∈ selectReplayMatchHeaders env (selectReplayMatchHeaders env headers) := by
    rwa [hsame]
  obtain ⟨-, sent, hsent, hvalue⟩ := (mem_selectReplayMatchHeaders hlower).1 hagain
  obtain ⟨old, hold, rfl⟩ := Option.map_eq_some_iff.1 hsent
  obtain ⟨hmem, hkeep⟩ := List.mem_filter.1 (List.mem_of_getLast? hold)
  have hname : old.1 = entry.1 := by
    rw [← (hselected old hmem).lower]
    exact eq_of_beq (Bool.and_eq_true_iff.1 hkeep).1
  obtain rfl := List.inj_on_of_nodup_map hdistinct hmem hentry hname
  have hshort := (hselected old hmem).short
  unfold keptValue at hvalue
  rw [utf16Take_of_le ((utf16Length_jsTrim _).trans hshort)] at hvalue
  rw [hvalue]
  exact trimmed_jsTrim _

end OfflineWebArchiver.Replay
