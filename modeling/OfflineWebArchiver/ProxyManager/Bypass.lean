import OfflineWebArchiver.ProxyManager.Import
import OfflineWebArchiver.ProxyManager.Records

/-!
# Bypass lists in one cell

A bypass list joined by semicolons, and what `normalizeImportBypass` reads.

* `map_trim_splitOnP`: trimming a text does not change its trimmed pieces.
* `normalizeImportBypass_join`: a list of hosts reads back as its trimmed entries.
* `normalizeBypass_join`: the list of hosts is the same in both forms.
-/

namespace OfflineWebArchiver.ProxyManager

open Checks

/-! ### Pieces -/

section Pieces

variable {p : CodeUnit → Bool} {t : Text} {c : CodeUnit}

theorem trimUnits_cons_space (hc : isSpaceUnit c = true) : trimUnits (c :: t) = trimUnits t := by
  unfold trimUnits
  rw [List.dropWhile_cons_of_pos hc]

theorem trimUnits_snoc_space (hc : isSpaceUnit c = true) : trimUnits (t ++ [c]) = trimUnits t := by
  unfold trimUnits
  rw [List.dropWhile_append]
  cases hfront : t.dropWhile isSpaceUnit with
  | nil => simp [hc]
  | cons d rest =>
    rw [List.isEmpty_cons, if_neg Bool.false_ne_true, List.reverse_append, List.reverse_singleton,
      List.singleton_append, List.dropWhile_cons_of_pos hc]

/-- The text is its trimmed part between two rows of spaces. -/
theorem trimUnits_spec (t : Text) : ∃ lead trail : Text, t = lead ++ (trimUnits t ++ trail) ∧
    (∀ c ∈ lead, isSpaceUnit c = true) ∧ ∀ c ∈ trail, isSpaceUnit c = true := by
  refine ⟨t.takeWhile isSpaceUnit, ((t.dropWhile isSpaceUnit).reverse.takeWhile isSpaceUnit).reverse, ?_, ?_, ?_⟩
  · unfold trimUnits
    rw [← List.reverse_append, List.takeWhile_append_dropWhile, List.reverse_reverse, List.takeWhile_append_dropWhile]
  · exact fun c hc => List.mem_takeWhile_imp hc
  · exact fun c hc => List.mem_takeWhile_imp (List.mem_reverse.1 hc)

/-- Only spaces are trimmed. -/
theorem mem_trimUnits (hc : c ∈ t) (hspace : isSpaceUnit c = false) : c ∈ trimUnits t := by
  obtain ⟨lead, trail, ht, hlead, htrail⟩ := trimUnits_spec t
  have hno : ∀ {s : Text}, (∀ d ∈ s, isSpaceUnit d = true) → c ∉ s := by
    intro s hs hmem
    rw [hs c hmem] at hspace
    cases hspace
  rw [ht] at hc
  rcases List.mem_append.1 hc with hc | hc
  · exact absurd hc (hno hlead)
  · exact (List.mem_append.1 hc).resolve_right (hno htrail)

theorem splitOnP_snoc (hc : p c = false) : ∃ init last, t.splitOnP p = init ++ [last] ∧
    (t ++ [c]).splitOnP p = init ++ [last ++ [c]] := by
  induction t with
  | nil => exact ⟨[], [], rfl, List.splitOnP_eq_singleton fun d hd => List.mem_singleton.1 hd ▸ hc⟩
  | cons d t ih =>
    obtain ⟨init, last, ht, hsnoc⟩ := ih
    rw [List.cons_append, List.splitOnP_cons_eq_if_modifyHead, List.splitOnP_cons_eq_if_modifyHead, ht, hsnoc]
    by_cases hd : p d = true
    · exact ⟨[] :: init, last, by rw [if_pos hd]; rfl, by rw [if_pos hd]; rfl⟩
    · rw [if_neg hd, if_neg hd]
      cases init with
      | nil => exact ⟨[], d :: last, rfl, rfl⟩
      | cons first init => exact ⟨(d :: first) :: init, last, rfl, rfl⟩

variable (hspace : ∀ c, isSpaceUnit c = true → p c = false)

include hspace

theorem map_trim_splitOnP_cons (hc : isSpaceUnit c = true) :
    ((c :: t).splitOnP p).map trimUnits = (t.splitOnP p).map trimUnits := by
  rw [List.splitOnP_cons_eq_if_modifyHead, if_neg (by simp [hspace c hc])]
  cases hsplit : t.splitOnP p with
  | nil => rfl
  | cons first rest => rw [List.modifyHead_cons, List.map_cons, List.map_cons, trimUnits_cons_space hc]

theorem map_trim_splitOnP_snoc (hc : isSpaceUnit c = true) :
    ((t ++ [c]).splitOnP p).map trimUnits = (t.splitOnP p).map trimUnits := by
  obtain ⟨init, last, ht, hsnoc⟩ := splitOnP_snoc (t := t) (hspace c hc)
  rw [ht, hsnoc, List.map_append, List.map_append, List.map_singleton, List.map_singleton, trimUnits_snoc_space hc]

/-- **Trimming a text does not change its trimmed pieces.** -/
theorem map_trim_splitOnP : ((trimUnits t).splitOnP p).map trimUnits = (t.splitOnP p).map trimUnits := by
  have hlead : ∀ (lead s : Text), (∀ c ∈ lead, isSpaceUnit c = true) →
      ((lead ++ s).splitOnP p).map trimUnits = (s.splitOnP p).map trimUnits := by
    intro lead s h
    induction lead with
    | nil => rfl
    | cons c lead ih =>
      rw [List.cons_append, map_trim_splitOnP_cons hspace (h c List.mem_cons_self),
        ih fun d hd => h d (List.mem_cons_of_mem _ hd)]
  have htrail : ∀ (s trail : Text), (∀ c ∈ trail, isSpaceUnit c = true) →
      ((s ++ trail).splitOnP p).map trimUnits = (s.splitOnP p).map trimUnits := by
    intro s trail h
    induction trail using List.reverseRecOn with
    | nil => rw [List.append_nil]
    | append_singleton trail c ih =>
      rw [← List.append_assoc, map_trim_splitOnP_snoc hspace (h c (by simp)),
        ih fun d hd => h d (List.mem_append_left _ hd)]
  obtain ⟨lead, trail, ht, hleading, htrailing⟩ := trimUnits_spec t
  conv_rhs => rw [ht, hlead _ _ hleading, htrail _ _ htrailing]

end Pieces

/-- `[';', ',']`, the units that separate the entries of a cell. -/
def isBypassSeparator (c : CodeUnit) : Bool := c == unit ';' || c == unit ','

theorem isBypassSeparator_cases {c : CodeUnit} (h : isBypassSeparator c = true) : c = unit ';' ∨ c = unit ',' := by
  simpa [isBypassSeparator] using h

theorem isBypassSeparator_space {c : CodeUnit} (h : isSpaceUnit c = true) : isBypassSeparator c = false := by
  rw [← Bool.not_eq_true]
  intro hsep
  rcases isBypassSeparator_cases hsep with rfl | rfl <;> exact absurd h (by decide)

theorem splitOnP_join {entries : List Text} (hne : entries ≠ [])
    (h : ∀ entry ∈ entries, ∀ c ∈ entry, isBypassSeparator c = false) :
    (joinUnits [unit ';'] entries).splitOnP isBypassSeparator = entries := by
  induction entries with
  | nil => exact absurd rfl hne
  | cons entry entries ih =>
    have hentry := h entry List.mem_cons_self
    cases entries with
    | nil =>
      have hjoin : joinUnits [unit ';'] [entry] = entry := List.append_nil entry
      rw [hjoin, List.splitOnP_eq_singleton hentry]
    | cons next entries =>
      have hjoin : joinUnits [unit ';'] (entry :: next :: entries)
          = entry ++ unit ';' :: joinUnits [unit ';'] (next :: entries) := rfl
      rw [hjoin, List.splitOnP_append_cons_of_forall_mem hentry _ (by decide),
        ih (List.cons_ne_nil _ _) fun e he => h e (List.mem_cons_of_mem _ he)]

/-! ### Hosts -/

variable {env : ProxyEnv} {t host : Text} {entries : List Text}

/-- What an entry that passes looks like: nothing of the syntax of a cell is in it. -/
structure IsBypassEntry (t : Text) : Prop where
  trim_ne : trimUnits t ≠ []
  separator : ∀ c ∈ t, isBypassSeparator c = false
  bracket : unit '[' ∉ trimUnits t

theorem isBypassText_units (h : isBypassText t = true) : ∀ c ∈ t, isHostUnit c = true ∨ c = unit '*' := by
  have hhost : ∀ {s : Text}, isHostText s = true → ∀ c ∈ s, isHostUnit c = true := by
    intro s hs
    simp only [isHostText, Bool.and_eq_true, List.all_eq_true] at hs
    exact hs.1.1.2
  intro c hc
  simp only [isBypassText, Bool.or_eq_true, Bool.and_eq_true] at h
  rcases h with h | ⟨hstar, h⟩
  · exact .inl (hhost h c hc)
  · obtain ⟨rest, rfl⟩ := List.isPrefixOf_iff_prefix.1 hstar
    rcases List.mem_append.1 hc with hc | hc
    · rcases List.mem_cons.1 hc with rfl | hc
      · exact .inr rfl
      · rw [List.mem_singleton.1 hc]
        exact .inl (by decide)
    · exact .inl (hhost h c hc)

/-- A plain unit stays in lower case. -/
theorem mem_lower {c : CodeUnit} (h : IsPlain c) (hc : c ∈ t) : c ∈ env.lower t := by
  obtain ⟨pieces, heq, hpieces⟩ := env.lowerCase t
  rw [heq]
  clear heq
  induction hpieces with
  | nil => cases hc
  | @cons d piece rest pieces hpiece _ ih =>
    rw [List.flatten_cons]
    rcases List.mem_cons.1 hc with rfl | hc
    · refine List.mem_append_left _ ?_
      have hlow := h.2.1
      cases hpiece with
      | ascii _ => rw [h.lowerUnit]; exact List.mem_singleton_self _
      | dotted => exact absurd hlow (by decide)
      | kelvin => exact absurd hlow (by decide)
      | other hhigh =>
        rw [UInt16.le_iff_toNat_le, show (0x80 : UInt16).toNat = 128 from rfl] at hhigh
        omega
    · exact List.mem_append_right _ (ih hc)

theorem normalizeBypassEntry_isEntry (h : normalizeBypassEntry env (.text t) = .ok host) : IsBypassEntry t := by
  unfold normalizeBypassEntry at h
  obtain ⟨raw, hraw, h⟩ := bind_ok.1 h
  obtain ⟨hraw, -, -⟩ := assertSafeString_ok hraw
  obtain rfl : t = raw := by simpa using hraw
  obtain ⟨hform, -⟩ := failIf_bind_ok.1 h
  rw [not_or, Bool.not_eq_false] at hform
  have hunits := isBypassText_units hform.1
  -- a mark of the cell would be a unit of the host
  have hmark : ∀ c : CodeUnit, IsPlain c → isHostUnit c = false → c ≠ unit '*' → c ∉ trimUnits t := by
    intro c hplain hhost hstar hmem
    rcases hunits c (mem_lower hplain hmem) with hc | hc
    · rw [hhost] at hc
      cases hc
    · exact hstar hc
  refine { trim_ne := ?_, separator := ?_, bracket := ?_ }
  · intro hnil
    obtain ⟨pieces, heq, hpieces⟩ := env.lowerCase (trimUnits t)
    rw [hnil] at hpieces heq hform
    cases hpieces
    rw [heq] at hform
    exact absurd hform.1 (by decide)
  · intro c hc
    rw [← Bool.not_eq_true]
    intro hsep
    rcases isBypassSeparator_cases hsep with rfl | rfl
    · exact hmark _ (by decide) (by decide) (by decide) (mem_trimUnits hc (by decide))
    · exact hmark _ (by decide) (by decide) (by decide) (mem_trimUnits hc (by decide))
  · exact hmark _ (by decide) (by decide) (by decide)

/-- **A list of hosts reads back as its trimmed entries.** -/
theorem normalizeImportBypass_join (h : ∀ entry ∈ entries, IsBypassEntry entry) :
    normalizeImportBypass env (joinUnits [unit ';'] entries)
      = .array ((entries.map trimUnits).map .text) := by
  cases hentries : entries with
  | nil => rfl
  | cons first rest =>
    rw [← hentries]
    have hpieces : ((trimUnits (joinUnits [unit ';'] entries)).splitOnP isBypassSeparator).map trimUnits
        = entries.map trimUnits := by
      rw [map_trim_splitOnP fun c => isBypassSeparator_space,
        splitOnP_join (by rw [hentries]; exact List.cons_ne_nil _ _) fun entry hmem => (h entry hmem).separator]
    have hfirst : first ∈ entries := by rw [hentries]; exact List.mem_cons_self
    unfold normalizeImportBypass
    set trimmed := trimUnits (joinUnits [unit ';'] entries) with htrimmed
    have hnil : trimmed ≠ [] := by
      intro hnil
      rw [hnil, hentries] at hpieces
      exact (h first hfirst).trim_ne (List.cons.inj hpieces).1.symm
    have hbracket : trimmed.head? ≠ some (unit '[') := by
      intro hhead
      obtain ⟨tail, htail⟩ : ∃ tail, trimmed = unit '[' :: tail := ⟨_, List.eq_cons_of_mem_head? hhead⟩
      rw [htail, List.splitOnP_cons_eq_if_modifyHead, if_neg (by decide), hentries] at hpieces
      cases hsplit : tail.splitOnP isBypassSeparator with
      | nil => exact List.splitOnP_ne_nil _ _ hsplit
      | cons piece pieces =>
        rw [hsplit, List.modifyHead_cons, List.map_cons, List.map_cons] at hpieces
        refine (h first hfirst).bracket ((List.cons.inj hpieces).1 ▸ ?_)
        exact mem_trimUnits List.mem_cons_self (by decide)
    rw [if_neg hnil, if_neg hbracket]
    show JsValue.array (List.map _ (((trimmed.splitOnP isBypassSeparator).map trimUnits).filter _)) = _
    rw [hpieces, List.filter_eq_self.2]
    intro entry hmem
    obtain ⟨raw, hraw, rfl⟩ := List.mem_map.1 hmem
    exact decide_eq_true (h raw hraw).trim_ne

theorem trimUnits_subset {c : CodeUnit} (hc : c ∈ trimUnits t) : c ∈ t := by
  obtain ⟨lead, trail, ht, -, -⟩ := trimUnits_spec t
  rw [ht]
  exact List.mem_append_right _ (List.mem_append_left _ hc)

/-- The spaces around an entry do not matter. -/
theorem normalizeBypassEntry_trim (h : normalizeBypassEntry env (.text t) = .ok host) :
    normalizeBypassEntry env (.text (trimUnits t)) = .ok host := by
  have hentry := normalizeBypassEntry_isEntry h
  unfold normalizeBypassEntry at h
  obtain ⟨raw, hraw, h⟩ := bind_ok.1 h
  obtain ⟨heq, hne, hlen⟩ := assertSafeString_ok hraw
  obtain rfl : t = raw := by simpa using heq
  have hcontrol : ∀ c ∈ t, isControlUnit c = false := assertSafeString_control hraw
  have htrim : assertSafeString (some (.text (trimUnits t))) "The Proxy bypass host" 253 = .ok (trimUnits t) :=
    assertSafeString_text hentry.trim_ne ((trimUnits_length_le t).trans hlen) fun c hc => hcontrol c (trimUnits_subset hc)
  unfold normalizeBypassEntry
  rw [htrim, ok_bind, trimUnits_idem]
  exact h

/-- **A list of hosts in one cell is the list itself.** -/
theorem normalizeBypass_join {hosts : List Text}
    (h : normalizeBypass env (some (.array (entries.map .text))) = .ok hosts) :
    normalizeBypass env (some (normalizeImportBypass env (joinUnits [unit ';'] entries))) = .ok hosts := by
  simp only [normalizeBypass] at h
  obtain ⟨hlen, h⟩ := failIf_bind_ok.1 h
  obtain ⟨normalized, hall, h⟩ := bind_ok.1 h
  have hentries : List.Forall₂ (fun entry host => normalizeBypassEntry env (.text entry) = .ok host) entries normalized :=
    List.forall₂_map_left_iff.1 (mapM_ok.1 hall)
  have hread : normalizeImportBypass env (joinUnits [unit ';'] entries) = .array ((entries.map trimUnits).map .text) := by
    refine normalizeImportBypass_join fun entry hmem => ?_
    obtain ⟨host, -, hhost⟩ := (mapM_mem hall).1 (.text entry) (List.mem_map_of_mem hmem)
    exact normalizeBypassEntry_isEntry hhost
  have htrimmed : ((entries.map trimUnits).map JsValue.text).mapM (normalizeBypassEntry env) = .ok normalized := by
    rw [mapM_ok, List.forall₂_map_left_iff, List.forall₂_map_left_iff]
    exact hentries.imp fun _ _ => normalizeBypassEntry_trim
  rw [hread]
  simp only [normalizeBypass]
  rw [failIf_bind, if_neg (by simpa using hlen), htrimmed]
  exact h

end OfflineWebArchiver.ProxyManager
