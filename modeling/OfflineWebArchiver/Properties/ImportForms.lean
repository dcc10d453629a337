import OfflineWebArchiver.Properties.CsvImport
import OfflineWebArchiver.ProxyManager.Bypass

/-!
# The two forms of a proxy import

The records of an import as a table and as an array of objects.

* `ImportRecord`, `CsvForm`, `JsonForm`: the records and their texts.
* `checkField_csv`: the fields that read alike in both forms.
* `firstError_eq_iff`: two configurations have one error when they are alike up to the first faulty
  field.
* `parseProxyImport_forms_iff`: when the two forms give the same import.
-/

namespace OfflineWebArchiver.ProxyManager

open Checks Csv

/-! ### Records -/

/-- A number and a text that reads as it. -/
structure NumberCell (env : ProxyEnv) where
  text : Text
  value : ℚ
  nonempty : text ≠ []
  reads : env.number text = some value

/-- A record of an import; the optional fields may be absent. -/
structure ImportRecord (env : ProxyEnv) where
  id : Option Text
  label : Option Text
  protocol : Text
  host : Text
  port : NumberCell env
  bypass : Option (List Text)
  credentialRef : Option Text
  username : Option Text
  password : Option Text
  weight : Option (NumberCell env)
  priority : Option (NumberCell env)
  maxConcurrency : Option (NumberCell env)
  enabled : Option Bool

variable {env : ProxyEnv}

/-- The value of a field in an object; an absent field is omitted. -/
def ImportRecord.value (r : ImportRecord env) : ImportField → Unknown
  | .id => r.id.map .text
  | .label => r.label.map .text
  | .protocol => some (.text r.protocol)
  | .host => some (.text r.host)
  | .port => some (.number (some r.port.value))
  | .bypass => r.bypass.map fun entries => .array (entries.map .text)
  | .credentialRef => r.credentialRef.map .text
  | .username => r.username.map .text
  | .password => r.password.map .text
  | .weight => r.weight.map fun n => .number (some n.value)
  | .priority => r.priority.map fun n => .number (some n.value)
  | .maxConcurrency => r.maxConcurrency.map fun n => .number (some n.value)
  | .enabled => r.enabled.map .bool

/-- The cell of a field in a table; the cell of an absent field is empty. -/
def ImportRecord.cell (r : ImportRecord env) : ImportField → Text
  | .id => r.id.getD []
  | .label => r.label.getD []
  | .protocol => r.protocol
  | .host => r.host
  | .port => r.port.text
  | .bypass => joinUnits [unit ';'] (r.bypass.getD [])
  | .credentialRef => r.credentialRef.getD []
  | .username => r.username.getD []
  | .password => r.password.getD []
  | .weight => (r.weight.map NumberCell.text).getD []
  | .priority => (r.priority.map NumberCell.text).getD []
  | .maxConcurrency => (r.maxConcurrency.map NumberCell.text).getD []
  | .enabled => (r.enabled.map fun b => asciiUnits (if b then "true" else "false")).getD []

/-- A table of the records: its header has every field that a record has. -/
structure CsvForm (header : List ImportField) (records : List (ImportRecord env)) (text : Text) : Prop where
  distinct : header.Nodup
  covers : ∀ r ∈ records, ∀ f, r.value f ≠ none → f ∈ header
  encodes : File csvMarks (header.map ImportField.name :: records.map fun r => header.map r.cell) text

/-- An object with the fields of the record, in any order. -/
def JsonObject (r : ImportRecord env) (item : JsValue) : Prop :=
  ∃ fields, item = .object fields ∧ KnownKeys fields ∧ ∀ f, valueOf fields f = r.value f

/-- An array of the records, or an envelope with it. -/
inductive JsonForm (records : List (ImportRecord env)) (text : Text) : Prop
  | array {items : List JsValue} (h : env.jsonParse text = some (.array items))
      (hitems : List.Forall₂ JsonObject records items)
  | envelope {wrapper : List (Text × JsValue)} {items : List JsValue} (h : env.jsonParse text = some (.object wrapper))
      (hversion : field wrapper "version" = some (.number (some 1)))
      (hproxies : field wrapper "proxies" = some (.array items)) (hkeys : ∀ entry ∈ wrapper, entry.1 ∈ envelopeFields)
      (hitems : List.Forall₂ JsonObject records items)

/-! ### The condition -/

/-- Alike in front of the first faulty element, and there. -/
def AlikeUpTo {α : Type} (alike faulty : α → Prop) : List α → Prop
  | [] => True
  | a :: rest => alike a ∧ (faulty a ∨ AlikeUpTo alike faulty rest)

/-- The field reads alike: it is not absent under a header, and the entries of a bypass list pass and
fail as those that the cell reads back as. -/
def ImportRecord.Alike (header : List ImportField) (r : ImportRecord env) : ImportField → Prop
  | .bypass => ∀ entries, r.bypass = some entries →
      errorOf (normalizeBypass env (some (.array (entries.map .text))))
        = errorOf (normalizeBypass env (some (normalizeImportBypass env (joinUnits [unit ';'] entries))))
  | f => r.value f ≠ none ∨ f ∉ header

/-- The record reads alike up to the first field that its object is rejected for. -/
def ImportRecord.ReadsAlike (header : List ImportField) (r : ImportRecord env) : Prop :=
  AlikeUpTo (r.Alike header) (fun f => checkField env f (r.value f) ≠ none) checkedFields

/-! ### Fields in both forms -/

variable {header : List ImportField} {r : ImportRecord env} {f : ImportField}

/-- The object of a row. -/
def csvFields (header : List ImportField) (r : ImportRecord env) : List (Text × JsValue) :=
  ((header.map ImportField.name).zip (header.map r.cell)).map fun (name, cell) => (name, coerceCell env name cell)

theorem csvFields_cons : csvFields (f :: header) r = (f.name, coerceCell env f.name (r.cell f)) :: csvFields header r :=
  rfl

theorem csvFields_known : KnownKeys (csvFields header r) := by
  induction header with
  | nil => exact fun _ h => absurd h List.not_mem_nil
  | cons f header ih =>
    refine List.forall_mem_cons.2 ⟨?_, ih⟩
    rw [ImportField.safeImportFields_eq]
    exact List.mem_map_of_mem f.mem_all

theorem valueOf_csvFields :
    valueOf (csvFields header r) f = if f ∈ header then some (coerceCell env f.name (r.cell f)) else none := by
  induction header with
  | nil => rfl
  | cons g header ih =>
    rw [csvFields_cons, valueOf, List.lookup_cons]
    by_cases hname : f.name = g.name
    · rw [ImportField.name_injective hname, beq_self_eq_true, if_pos List.mem_cons_self]
    · have hne : f ≠ g := fun h => hname (h ▸ rfl)
      rw [beq_eq_false_iff_ne.2 hname, ← valueOf, ih]
      simp only [List.mem_cons, hne, false_or]

/-- Outside the bypass list a cell reads as its value, and the cell of an absent field as the empty text. -/
theorem coerceCell_cell (hf : f ≠ .bypass) : coerceCell env f.name (r.cell f) = (r.value f).getD (.text []) := by
  have htext : ∀ f : ImportField, f.name ∉ coercedFields → ∀ t : Option Text,
      coerceCell env f.name (t.getD []) = (t.map JsValue.text).getD (.text []) := by
    intro f hf t
    rw [coerceCell_text env hf]
    cases t <;> rfl
  have hnumber : ∀ f : ImportField, f.name ≠ asciiUnits "bypass" →
      f.name ∈ ["port", "weight", "priority", "maxConcurrency"].map asciiUnits → ∀ n : Option (NumberCell env),
      coerceCell env f.name ((n.map NumberCell.text).getD [])
        = (n.map fun n => JsValue.number (some n.value)).getD (.text []) := by
    intro f hbypass hmem n
    cases n with
    | some n =>
      unfold coerceCell
      rw [if_neg hbypass, if_pos ⟨hmem, n.nonempty⟩]
      exact congrArg JsValue.number n.reads
    | none =>
      unfold coerceCell
      rw [if_neg hbypass, if_neg fun h => h.2 rfl, if_neg fun h => h.2 rfl]
      rfl
  cases f with
  | bypass => exact absurd rfl hf
  | id => exact htext .id (by decide) r.id
  | label => exact htext .label (by decide) r.label
  | protocol => exact htext .protocol (by decide) (some r.protocol)
  | host => exact htext .host (by decide) (some r.host)
  | credentialRef => exact htext .credentialRef (by decide) r.credentialRef
  | username => exact htext .username (by decide) r.username
  | password => exact htext .password (by decide) r.password
  | port => exact hnumber .port (by decide) (by decide) (some r.port)
  | weight => exact hnumber .weight (by decide) (by decide) r.weight
  | priority => exact hnumber .priority (by decide) (by decide) r.priority
  | maxConcurrency => exact hnumber .maxConcurrency (by decide) (by decide) r.maxConcurrency
  | enabled =>
    have hbool : ∀ b : Bool, coerceCell env ImportField.enabled.name (asciiUnits (if b then "true" else "false"))
        = .bool b := by
      intro b
      have hplain : env.lower (asciiUnits (if b then "true" else "false")) = asciiUnits (if b then "true" else "false") := by
        cases b <;> exact lower_plain (asciiUnits_plain rfl)
      unfold coerceCell
      rw [if_neg (by decide), if_neg fun h => absurd h.1 (by decide), if_pos ⟨rfl, by cases b <;> decide⟩, hplain]
      cases b <;> rfl
    cases henabled : r.enabled with
    | none =>
      simp only [ImportRecord.cell, ImportRecord.value, henabled]
      rfl
    | some b =>
      simp only [ImportRecord.cell, ImportRecord.value, henabled]
      exact hbool b

/-- No checked field accepts the empty text, and a bypass list is no text. -/
theorem checkField_empty (hf : f ∈ checkedFields) : checkField env f (some (.text [])) ≠ none := by
  have hlower : env.lower [] = [] := lower_plain (List.forall_mem_nil _)
  cases f with
  | username => exact absurd hf (by decide)
  | password => exact absurd hf (by decide)
  | protocol =>
    show errorOf (normalizeProxyProtocol env (some (.text []))) ≠ none
    simp only [normalizeProxyProtocol]
    rw [show trimUnits [] = [] from rfl, hlower]
    exact Option.some_ne_none _
  | host => exact Option.some_ne_none _
  | port => exact Option.some_ne_none _
  | id => exact Option.some_ne_none _
  | label => exact Option.some_ne_none _
  | bypass => exact Option.some_ne_none _
  | credentialRef => exact Option.some_ne_none _
  | weight => exact Option.some_ne_none _
  | priority => exact Option.some_ne_none _
  | maxConcurrency => exact Option.some_ne_none _
  | enabled => exact Option.some_ne_none _

/-- The value of a present field, and of an absent one without a header. -/
theorem valueOf_present (hcovers : r.value f ≠ none → f ∈ header) (hf : f ≠ .bypass)
    (h : r.value f ≠ none ∨ f ∉ header) : valueOf (csvFields header r) f = r.value f := by
  rw [valueOf_csvFields]
  cases hvalue : r.value f with
  | none => exact if_neg (h.resolve_left (not_not.2 hvalue))
  | some v => rw [if_pos (hcovers (by simp [hvalue])), coerceCell_cell hf, hvalue, Option.getD_some]

theorem valueOf_bypass (hcovers : r.value .bypass ≠ none → .bypass ∈ header) :
    (r.bypass = none ∧ normalizeBypass env (valueOf (csvFields header r) .bypass) = .ok []) ∨
      ∃ entries, r.bypass = some entries ∧ valueOf (csvFields header r) .bypass
        = some (normalizeImportBypass env (joinUnits [unit ';'] entries)) := by
  have hcell : coerceCell env ImportField.bypass.name (r.cell .bypass)
      = normalizeImportBypass env (joinUnits [unit ';'] (r.bypass.getD [])) := rfl
  rw [valueOf_csvFields, hcell]
  cases hbypass : r.bypass with
  | none =>
    refine .inl ⟨rfl, ?_⟩
    by_cases hmem : ImportField.bypass ∈ header
    · rw [if_pos hmem]; rfl
    · rw [if_neg hmem]; rfl
  | some entries =>
    refine .inr ⟨entries, rfl, if_pos (hcovers ?_)⟩
    rw [ImportRecord.value, hbypass]
    exact Option.some_ne_none _

/-- **A field has one error in both forms exactly when it reads alike.** -/
theorem checkField_csv (hcovers : r.value f ≠ none → f ∈ header) (hf : f ∈ checkedFields) :
    checkField env f (valueOf (csvFields header r) f) = checkField env f (r.value f) ↔ r.Alike header f := by
  by_cases hbypass : f = .bypass
  · subst hbypass
    rcases valueOf_bypass hcovers with ⟨hnone, herror⟩ | ⟨entries, hsome, hvalue⟩
    · have hvalue : r.value .bypass = none := by rw [ImportRecord.value, hnone]; rfl
      refine iff_of_true ?_ fun entries h => ?_
      · rw [hvalue]
        exact errorOf_eq_none.2 ⟨[], herror⟩
      · rw [hnone] at h
        cases h
    · have hjson : r.value .bypass = some (.array (entries.map .text)) := by rw [ImportRecord.value, hsome]; rfl
      rw [hvalue, hjson]
      constructor
      · intro h entries' h'
        rw [hsome] at h'
        obtain rfl := Option.some.inj h'
        exact h.symm
      · exact fun h => (h entries hsome).symm
  · have halike : r.Alike header f ↔ r.value f ≠ none ∨ f ∉ header := by
      cases f with
      | bypass => exact absurd rfl hbypass
      | _ => exact Iff.rfl
    rw [halike]
    constructor
    · intro h
      by_contra hno
      rw [not_or, not_not, not_not] at hno
      obtain ⟨hnone, hmem⟩ := hno
      rw [valueOf_csvFields, if_pos hmem, coerceCell_cell hbypass, hnone] at h
      -- the empty text is rejected, so the value is, too
      cases f with
      | protocol => cases hnone
      | host => cases hnone
      | port => cases hnone
      | _ => exact checkField_empty hf h
    · intro h
      rw [valueOf_present hcovers hbypass h]

/-! ### Configurations in both forms -/

variable {a b : ImportField → Unknown} {fields : List ImportField}

/-- **Two configurations have one error** exactly when they are alike up to the first faulty field:
the error of a later field is another one. -/
theorem firstError_eq_iff (hnodup : fields.Nodup) :
    (fields.findSome? fun f => checkField env f (b f)) = (fields.findSome? fun f => checkField env f (a f)) ↔
      AlikeUpTo (fun f => checkField env f (b f) = checkField env f (a f)) (fun f => checkField env f (a f) ≠ none)
        fields := by
  induction fields with
  | nil => exact iff_of_true rfl trivial
  | cons f fields ih =>
    obtain ⟨hnew, hnodup⟩ := List.nodup_cons.1 hnodup
    have hlater : ∀ (v : ImportField → Unknown) (w : Unknown) e, checkField env f w = some e →
        (fields.findSome? fun f => checkField env f (v f)) ≠ some e := by
      intro v w e he hfind
      obtain ⟨g, hg, hge⟩ := List.exists_of_findSome?_eq_some hfind
      have hsame := (fieldOf_checkField hge).symm.trans (fieldOf_checkField he)
      exact hnew (Option.some.inj hsame ▸ hg)
    rw [findSome?_cons_or, findSome?_cons_or, AlikeUpTo, ← ih hnodup]
    cases ha : checkField env f (a f) with
    | none =>
      cases hb : checkField env f (b f) with
      | none => simp
      | some e => simpa using fun h : some e = _ => hlater a _ e hb h.symm
    | some e =>
      cases hb : checkField env f (b f) with
      | none => simpa using hlater b _ e ha
      | some e' => simp

theorem AlikeUpTo.congr {α : Type} {alike alike' faulty : α → Prop} {l : List α} (h : ∀ x ∈ l, alike x ↔ alike' x) :
    AlikeUpTo alike faulty l ↔ AlikeUpTo alike' faulty l := by
  induction l with
  | nil => exact Iff.rfl
  | cons x l ih =>
    rw [AlikeUpTo, AlikeUpTo, h x List.mem_cons_self, ih fun y hy => h y (List.mem_cons_of_mem _ hy)]

theorem AlikeUpTo.all {α : Type} {alike faulty : α → Prop} {l : List α} (h : AlikeUpTo alike faulty l)
    (hgood : ∀ x ∈ l, ¬faulty x) : ∀ x ∈ l, alike x := by
  induction l with
  | nil => exact fun _ hx => absurd hx List.not_mem_nil
  | cons x l ih =>
    have hrest := h.2.resolve_left (hgood x List.mem_cons_self)
    exact List.forall_mem_cons.2 ⟨h.1, ih hrest fun y hy => hgood y (List.mem_cons_of_mem _ hy)⟩

variable {candidate : List (Text × JsValue)} (hcovers : ∀ f, r.value f ≠ none → f ∈ header)
  (hknown : KnownKeys candidate) (hvalues : ∀ f, valueOf candidate f = r.value f)

include hcovers hknown hvalues

theorem errorOf_fields_eq_iff : errorOf (normalizeProxyFields env (csvFields header r))
    = errorOf (normalizeProxyFields env candidate) ↔ r.ReadsAlike header := by
  have hvalue : valueOf candidate = r.value := funext hvalues
  rw [errorOf_fields csvFields_known, errorOf_fields hknown, hvalue, firstError_eq_iff (by decide)]
  exact AlikeUpTo.congr fun f hf => checkField_csv (hcovers f) hf

/-- **The row and the object give one configuration** exactly when the record reads alike. -/
theorem fields_eq_iff :
    normalizeProxyFields env (csvFields header r) = normalizeProxyFields env candidate ↔ r.ReadsAlike header := by
  have hvalue : valueOf candidate = r.value := funext hvalues
  have herror := errorOf_fields_eq_iff hcovers hknown hvalues
  refine ⟨fun h => herror.1 (congrArg errorOf h), fun h => ?_⟩
  cases hjson : normalizeProxyFields env candidate with
  | error e =>
    have hcsv := herror.2 h
    rw [hjson] at hcsv
    exact errorOf_eq_some.1 hcsv
  | ok draft =>
    have hnone : errorOf (normalizeProxyFields env candidate) = none := errorOf_eq_none.2 ⟨draft, hjson⟩
    rw [errorOf_fields hknown, hvalue, List.findSome?_eq_none_iff] at hnone
    have halike : ∀ f ∈ checkedFields, r.Alike header f := h.all fun f hf => not_not.2 (hnone f hf)
    rw [← hjson]
    refine fields_congr hknown csvFields_known (fun f hf hbypass => ?_) ?_
    · rw [hvalue]
      refine valueOf_present (hcovers f) hbypass ?_
      have hread := halike f hf
      cases f with
      | bypass => exact absurd rfl hbypass
      | username => exact absurd hf (by decide)
      | password => exact absurd hf (by decide)
      | _ => exact hread
    · rw [hvalue]
      rcases valueOf_bypass (hcovers .bypass) with ⟨habsent, hcsv⟩ | ⟨entries, hpresent, hcsv⟩
      · rw [hcsv, ImportRecord.value, habsent]
        rfl
      · have hentries : r.value .bypass = some (.array (entries.map .text)) := by
          rw [ImportRecord.value, hpresent]
          rfl
        have hok := hnone .bypass (by decide)
        rw [hentries] at hok ⊢
        obtain ⟨hosts, hhosts⟩ := errorOf_eq_none.1 hok
        rw [hcsv, hhosts, normalizeBypass_join hhosts]

omit hcovers hknown hvalues

/-! ### Credentials -/

/-- What `parseCandidate` does with the draft. -/
def withCredential (env : ProxyEnv) (username password : Unknown) (draft : ProxyDraft) :
    Except ProxyOperationError (ProxyDraft × Option ProxyCredential) := do
  if hasText env username || hasText env password then
    let credential ← normalizeProxyCredential env username password
    Checks.failIf ⟨.secretInvalid, "A Proxy import record cannot contain both a credential and credentialRef"⟩
      (draft.credentialRef ≠ none)
    return (draft, some credential)
  return (draft, none)

theorem parseCandidate_object : parseCandidate env (.object candidate)
    = normalizeProxyFields env candidate >>=
      withCredential env (valueOf candidate .username) (valueOf candidate .password) := by
  have hdraft : normalizeProxyDraft env (some (.object candidate)) false = normalizeProxyFields env candidate := by
    simp only [normalizeProxyDraft]
    cases normalizeProxyFields env candidate with
    | error e => rfl
    | ok draft => rw [ok_bind, failIf_bind, if_neg fun h => Bool.false_ne_true h.1]; rfl
  unfold parseCandidate
  rw [hdraft]
  rfl

/-- The errors of a credential name no field of the configuration. -/
theorem withCredential_error {username password : Unknown} {draft : ProxyDraft} {e : ProxyOperationError}
    (h : withCredential env username password draft = .error e) : fieldOf e.message = none := by
  unfold withCredential at h
  split at h
  · rcases bind_error.1 h with h | ⟨credential, -, h⟩
    · unfold normalizeProxyCredential at h
      split at h
      · cases h
      · obtain rfl := Except.error.inj h
        decide
    · rcases failIf_bind_error.1 h with ⟨-, rfl⟩ | ⟨-, h⟩
      · decide
      · cases h
  · cases h

/-- An empty cell is no credential, and neither is an absent field. -/
theorem hasText_cell {t : Option Text} (hcovers : t ≠ none → f ∈ header)
    (hvalue : valueOf (csvFields header r) f = if f ∈ header then some (.text (t.getD [])) else none) :
    hasText env (valueOf (csvFields header r) f) = hasText env (t.map .text) ∧
      stringOf env (valueOf (csvFields header r) f) = stringOf env (t.map .text) := by
  rw [hvalue]
  cases t with
  | some t => rw [if_pos (hcovers (Option.some_ne_none t))]; exact ⟨rfl, rfl⟩
  | none =>
    by_cases hmem : f ∈ header
    · rw [if_pos hmem]; exact ⟨rfl, rfl⟩
    · rw [if_neg hmem]; exact ⟨rfl, rfl⟩

include hcovers hvalues in
theorem withCredential_csv {draft : ProxyDraft} :
    withCredential env (valueOf (csvFields header r) .username) (valueOf (csvFields header r) .password) draft
      = withCredential env (valueOf candidate .username) (valueOf candidate .password) draft := by
  have husername := hasText_cell (r := r) (f := .username) (t := r.username)
    (fun h => hcovers .username (by simpa [ImportRecord.value] using h))
    (by rw [valueOf_csvFields, coerceCell_cell (by decide)]; cases hu : r.username <;> simp [ImportRecord.value, hu])
  have hpassword := hasText_cell (r := r) (f := .password) (t := r.password)
    (fun h => hcovers .password (by simpa [ImportRecord.value] using h))
    (by rw [valueOf_csvFields, coerceCell_cell (by decide)]; cases hp : r.password <;> simp [ImportRecord.value, hp])
  rw [hvalues, hvalues]
  unfold withCredential normalizeProxyCredential
  rw [husername.1, husername.2, hpassword.1, hpassword.2]
  rfl

include hcovers hknown hvalues in
/-- **The row and the object give one record, or one error,** exactly when the record reads alike. -/
theorem parseCandidate_eq_iff :
    parseCandidate env (.object (csvFields header r)) = parseCandidate env (.object candidate) ↔ r.ReadsAlike header := by
  rw [← fields_eq_iff hcovers hknown hvalues, parseCandidate_object, parseCandidate_object]
  have hstage : withCredential env (valueOf (csvFields header r) .username) (valueOf (csvFields header r) .password)
      = withCredential env (valueOf candidate .username) (valueOf candidate .password) :=
    funext fun draft => withCredential_csv hcovers hvalues
  rw [hstage]
  set stage := withCredential env (valueOf candidate .username) (valueOf candidate .password) with hstagedef
  refine ⟨fun h => ?_, fun h => by rw [h]⟩
  -- an error of the configuration names its field, and one of the credential names none
  have hfield : ∀ {c : List (Text × JsValue)} {e : ProxyOperationError} {d : ProxyDraft}, KnownKeys c →
      normalizeProxyFields env c = .error e → stage d ≠ .error e := by
    intro c e d hc he hd
    have hfind : errorOf (normalizeProxyFields env c) = some e := errorOf_eq_some.2 he
    rw [errorOf_fields hc] at hfind
    obtain ⟨f, -, hf⟩ := List.exists_of_findSome?_eq_some hfind
    have hnone := withCredential_error hd
    rw [fieldOf_checkField hf] at hnone
    cases hnone
  cases hcsv : normalizeProxyFields env (csvFields header r) with
  | error e =>
    rw [hcsv] at h
    cases hjson : normalizeProxyFields env candidate with
    | error e' => rw [hjson] at h; exact congrArg Except.error (Except.error.inj h)
    | ok d => rw [hjson] at h; exact absurd h.symm (hfield csvFields_known hcsv)
  | ok d =>
    rw [hcsv] at h
    cases hjson : normalizeProxyFields env candidate with
    | error e' => rw [hjson] at h; exact absurd h (hfield hknown hjson)
    | ok d' =>
      have hreads := (errorOf_eq_none.2 ⟨d, hcsv⟩).trans (errorOf_eq_none.2 ⟨d', hjson⟩).symm
      rw [← hcsv, ← hjson, fields_eq_iff hcovers hknown hvalues]
      exact (errorOf_fields_eq_iff hcovers hknown hvalues).1 hreads

/-! ### Imports in both forms -/

variable {items items' : List JsValue} {n : ℕ}

theorem collectRecords_ge : (∀ x ∈ (collectRecords env n items).records, n ≤ x.record) ∧
    ∀ x ∈ (collectRecords env n items).errors, n ≤ x.record := by
  induction items generalizing n with
  | nil => exact ⟨List.forall_mem_nil _, List.forall_mem_nil _⟩
  | cons item items ih =>
    obtain ⟨hrecords, herrors⟩ := ih (n := n + 1)
    have hrecords' : ∀ x ∈ (collectRecords env (n + 1) items).records, n ≤ x.record :=
      fun x hx => (Nat.le_succ n).trans (hrecords x hx)
    have herrors' : ∀ x ∈ (collectRecords env (n + 1) items).errors, n ≤ x.record :=
      fun x hx => (Nat.le_succ n).trans (herrors x hx)
    rw [collectRecords]
    cases parseCandidate env item with
    | ok result => exact ⟨List.forall_mem_cons.2 ⟨le_rfl, hrecords'⟩, herrors'⟩
    | error e => exact ⟨hrecords', List.forall_mem_cons.2 ⟨le_rfl, herrors'⟩⟩

theorem result_eq_iff {x y : ProxyImportParseResult} : x = y ↔ x.records = y.records ∧ x.errors = y.errors := by
  cases x
  cases y
  simp

theorem collectRecords_ok {item : JsValue} {draft : ProxyDraft} {credential : Option ProxyCredential}
    (h : parseCandidate env item = .ok (draft, credential)) : collectRecords env n (item :: items)
      = ⟨⟨n, draft, credential⟩ :: (collectRecords env (n + 1) items).records, (collectRecords env (n + 1) items).errors⟩ := by
  rw [collectRecords, h]

theorem collectRecords_error {item : JsValue} {e : ProxyOperationError} (h : parseCandidate env item = .error e) :
    collectRecords env n (item :: items)
      = ⟨(collectRecords env (n + 1) items).records, ⟨n, e.code, e.message⟩ :: (collectRecords env (n + 1) items).errors⟩ := by
  rw [collectRecords, h]

/-- Two lists of one length give one import when they do so item by item. -/
theorem collectRecords_eq_iff (hlength : items'.length = items.length) :
    collectRecords env n items' = collectRecords env n items ↔
      List.Forall₂ (fun item' item => parseCandidate env item' = parseCandidate env item) items' items := by
  induction items generalizing items' n with
  | nil =>
    obtain rfl := List.length_eq_zero_iff.1 hlength
    exact iff_of_true rfl .nil
  | cons item items ih =>
    cases items' with
    | nil => cases hlength
    | cons item' items' =>
      rw [List.forall₂_cons, ← ih (n := n + 1) (Nat.succ.inj hlength)]
      -- the number of the head is in no tail
      have hrecords : ∀ l d c rest, (collectRecords env (n + 1) l).records ≠ ⟨n, d, c⟩ :: rest := by
        intro l d c rest h
        exact Nat.not_succ_le_self n (collectRecords_ge.1 ⟨n, d, c⟩ (h ▸ List.mem_cons_self))
      cases hitem' : parseCandidate env item' with
      | ok result' =>
        rw [collectRecords_ok hitem']
        cases hitem : parseCandidate env item with
        | ok result => rw [collectRecords_ok hitem, result_eq_iff, result_eq_iff]; grind
        | error e =>
          rw [collectRecords_error hitem]
          exact iff_of_false (fun h => hrecords _ _ _ _ (congrArg ProxyImportParseResult.records h).symm)
            fun h => (nomatch h.1)
      | error e' =>
        rw [collectRecords_error hitem']
        cases hitem : parseCandidate env item with
        | ok result =>
          rw [collectRecords_ok hitem]
          exact iff_of_false (fun h => hrecords _ _ _ _ (congrArg ProxyImportParseResult.records h))
            fun h => (nomatch h.1)
        | error e =>
          obtain ⟨code, message⟩ := e
          obtain ⟨code', message'⟩ := e'
          rw [collectRecords_error hitem, result_eq_iff, result_eq_iff]
          grind

theorem parseJson_form {records : List (ImportRecord env)} {text : Text} (h : JsonForm records text) :
    ∃ items, parseJson env text = .ok items ∧ List.Forall₂ JsonObject records items := by
  cases h with
  | @array items h hitems => exact ⟨items, by rw [parseJson, h], hitems⟩
  | @envelope wrapper items h hversion hproxies hkeys hitems =>
    refine ⟨items, ?_, hitems⟩
    have hok : ¬((1 : ℚ) ≠ 1 ∨ (wrapper.any fun entry => !envelopeFields.contains entry.1) = true) := by
      rintro (h | h)
      · exact h rfl
      · obtain ⟨entry, hmem, hkey⟩ := List.any_eq_true.1 h
        rw [List.contains_iff_mem.2 (hkeys entry hmem)] at hkey
        exact Bool.false_ne_true hkey
    rw [parseJson, h]
    simp only [hversion, hproxies]
    exact if_neg hok

theorem JsonForm.not_blank {records : List (ImportRecord env)} {text : Text} (h : JsonForm records text) :
    trimUnits text ≠ [] := by
  intro hblank
  have hnone := env.jsonParse_blank text hblank
  cases h with
  | array h => rw [hnone] at h; cases h
  | envelope h => rw [hnone] at h; cases h

section Forms

variable {records : List (ImportRecord env)} {csv json : Text} (hcsv : CsvForm header records csv)

include hcsv

theorem CsvForm.parseCsv : ProxyManager.parseCsv env csv = .ok (records.map fun r => csvFields header r) := by
  have hallowed : ∀ name ∈ header.map ImportField.name, name ∈ safeImportFields := by
    intro name hname
    obtain ⟨f, -, rfl⟩ := List.mem_map.1 hname
    rw [ImportField.safeImportFields_eq]
    exact List.mem_map_of_mem f.mem_all
  have hwidth : ∀ row ∈ records.map fun r => header.map r.cell, row.length = (header.map ImportField.name).length := by
    intro row hrow
    obtain ⟨r, -, rfl⟩ := List.mem_map.1 hrow
    rw [List.length_map, List.length_map]
  have hne : ∀ row ∈ records.map fun r => header.map r.cell, ∃ cell ∈ row, cell ≠ [] := by
    intro row hrow
    obtain ⟨r, hr, rfl⟩ := List.mem_map.1 hrow
    have hport : ImportField.port ∈ header := hcsv.covers r hr .port (Option.some_ne_none _)
    exact ⟨r.port.text, List.mem_map_of_mem hport, r.port.nonempty⟩
  rw [parseCsv_table env hallowed (hcsv.distinct.map ImportField.name_injective) hwidth hne hcsv.encodes, List.map_map]
  rfl

theorem CsvForm.not_blank : trimUnits csv ≠ [] := by
  intro hblank
  obtain ⟨lead, trail, hspec, hlead, htrail⟩ := trimUnits_spec csv
  have hspace : ∀ c ∈ csv, isSpaceUnit c = true := by
    rw [hspec, hblank]
    intro c hc
    exact (List.mem_append.1 hc).elim (hlead c) fun hc => htrail c (by simpa using hc)
  -- a header begins with a letter
  cases hheader : header with
  | nil => exact hcsv.encodes.head_ne_nil (by rw [hheader]; rfl)
  | cons f rest =>
    have hname : ∃ c ∈ f.name, isSpaceUnit c = false := by
      have hall : (ImportField.all.all fun f => f.name.any fun c => !isSpaceUnit c) = true := by decide
      obtain ⟨c, hc, hspace⟩ := List.any_eq_true.1 (List.all_eq_true.1 hall f f.mem_all)
      exact ⟨c, hc, by simpa using hspace⟩
    obtain ⟨c, hc, hletter⟩ := hname
    have hcell : f.name ∈ header.map ImportField.name := List.mem_map_of_mem (hheader ▸ List.mem_cons_self)
    have hmem : c ∈ csv := hcsv.encodes.mem List.mem_cons_self hcell hc
    rw [hspace c hmem] at hletter
    cases hletter

variable (hjson : JsonForm records json)

include hjson

/-- **The two forms of an import agree** exactly when both are too long, or neither is and every record
reads alike up to the first field that its object is rejected for. -/
theorem parseProxyImport_forms_iff : parseProxyImport env .csv csv = parseProxyImport env .json json ↔
    (2000000 < csv.length ↔ 2000000 < json.length) ∧
      (csv.length ≤ 2000000 → ∀ r ∈ records, r.ReadsAlike header) := by
  obtain ⟨items, hparse, hitems⟩ := parseJson_form hjson
  have hcandidates : collectRecords env 1 ((records.map fun r => csvFields header r).map .object)
      = collectRecords env 1 items ↔ ∀ r ∈ records, r.ReadsAlike header := by
    rw [collectRecords_eq_iff (by rw [List.length_map, List.length_map, hitems.length_eq]), List.map_map,
      List.forall₂_map_left_iff]
    have hcovers := hcsv.covers
    clear hparse hcsv hjson
    induction hitems with
    | nil => exact iff_of_true .nil (List.forall_mem_nil _)
    | @cons r item records items hobject _ ih =>
      obtain ⟨fields, rfl, hknown, hvalues⟩ := hobject
      obtain ⟨hr, hcovers⟩ := List.forall_mem_cons.1 hcovers
      rw [List.forall₂_cons, List.forall_mem_cons]
      exact and_congr (parseCandidate_eq_iff hr hknown hvalues) (ih hcovers)
  have hlong : ∀ l : List JsValue, collectRecords env 1 l
      ≠ ⟨[], [⟨0, .importInvalid, "The Proxy import is empty or exceeds the safe size limit"⟩]⟩ := by
    intro l h
    have hzero : ∀ x ∈ (collectRecords env 1 l).errors, 1 ≤ x.record := collectRecords_ge.2
    rw [h] at hzero
    exact absurd (hzero _ List.mem_cons_self) (by decide)
  have hleft : ∀ hshort : ¬2000000 < csv.length, parseProxyImport env .csv csv
      = collectRecords env 1 ((records.map fun r => csvFields header r).map .object) := by
    intro hshort
    simp only [parseProxyImport]
    rw [if_neg hshort, if_neg hcsv.not_blank, hcsv.parseCsv]
    rfl
  have hright : ∀ hshort : ¬2000000 < json.length, parseProxyImport env .json json = collectRecords env 1 items := by
    intro hshort
    simp only [parseProxyImport]
    rw [if_neg hshort, if_neg hjson.not_blank, hparse]
  by_cases hlongCsv : 2000000 < csv.length
  · have hcsvLong : parseProxyImport env .csv csv = _ := if_pos hlongCsv
    by_cases hlongJson : 2000000 < json.length
    · have hjsonLong : parseProxyImport env .json json = _ := if_pos hlongJson
      rw [hcsvLong, hjsonLong]
      exact iff_of_true rfl ⟨iff_of_true hlongCsv hlongJson, fun h => absurd hlongCsv (not_lt.2 h)⟩
    · rw [hcsvLong, hright hlongJson]
      exact iff_of_false (fun h => hlong items h.symm) fun h => hlongJson (h.1.1 hlongCsv)
  · by_cases hlongJson : 2000000 < json.length
    · have hjsonLong : parseProxyImport env .json json = _ := if_pos hlongJson
      rw [hleft hlongCsv, hjsonLong]
      exact iff_of_false (hlong _) fun h => hlongCsv (h.1.2 hlongJson)
    · rw [hleft hlongCsv, hright hlongJson, hcandidates]
      exact ⟨fun h => ⟨iff_of_false hlongCsv hlongJson, fun _ => h⟩, fun h => h.2 (not_lt.1 hlongCsv)⟩

end Forms

/-! ### An empty cell -/

namespace Sample

def oneProxyJson : Text := asciiUnits "[\x7b\"protocol\":\"http\",\"host\":\"a.b\",\"port\":80\x7d]"

def oneProxyCsv : Text := asciiUnits "protocol,host,port,weight\nhttp,a.b,80,\n"

/-- `JSON.parse` on this one text. -/
def readJson (t : Text) : Option JsValue :=
  if t = oneProxyJson then some (.array [.object (endpointFields "a.b" 80)]) else none

theorem readJson_oneProxy : readJson oneProxyJson = some (.array [.object (endpointFields "a.b" 80)]) := if_pos rfl

/-- The sample platform that reads this text. -/
def jsonEnv : ProxyEnv where
  lower := lowerDotted
  lowerCase := lowerDotted_lowerCase
  number := decimal
  jsonParse := readJson
  jsonParse_blank t ht := if_neg fun h => by rw [h] at ht; exact absurd ht (by decide)
  string := Sample.env.string

/-- A proxy with its endpoint only. -/
def oneProxy : ImportRecord jsonEnv where
  id := none
  label := none
  protocol := asciiUnits "http"
  host := asciiUnits "a.b"
  port := ⟨asciiUnits "80", 80, by decide, by decide⟩
  bypass := none
  credentialRef := none
  username := none
  password := none
  weight := none
  priority := none
  maxConcurrency := none
  enabled := none

theorem bare_of_all {t : Text} (h : (t.all fun c => [unit '"', unit ',', unit '\r', unit '\n'].all (c != ·)) = true) :
    ∀ c ∈ t, csvMarks.Bare c := by
  intro c hc
  simpa [Marks.Bare, csvMarks] using List.all_eq_true.1 h c hc

theorem oneProxy_csv : CsvForm [.protocol, .host, .port, .weight] [oneProxy] oneProxyCsv where
  distinct := by decide
  covers := by
    intro r hr f hf
    rw [List.mem_singleton.1 hr] at hf
    cases f with
    | protocol => decide
    | host => decide
    | port => decide
    | _ => exact (hf rfl).elim
  encodes := by
    have hheader : Row csvMarks [asciiUnits "protocol", asciiUnits "host", asciiUnits "port", asciiUnits "weight"]
        (asciiUnits "protocol,host,port,weight") :=
      .cons (.bare (bare_of_all (by decide))) (.cons (.bare (bare_of_all (by decide)))
        (.cons (.bare (bare_of_all (by decide))) (.last (.bare (bare_of_all (by decide))))))
    have hrow : Row csvMarks [asciiUnits "http", asciiUnits "a.b", asciiUnits "80", []] (asciiUnits "http,a.b,80,") :=
      .cons (.bare (bare_of_all (by decide))) (.cons (.bare (bare_of_all (by decide)))
        (.cons (.bare (bare_of_all (by decide))) (.last (.bare (List.forall_mem_nil _)))))
    have hfile : File csvMarks
        ([asciiUnits "protocol", asciiUnits "host", asciiUnits "port", asciiUnits "weight"] ::
          [[asciiUnits "http", asciiUnits "a.b", asciiUnits "80", []]])
        (asciiUnits "protocol,host,port,weight\nhttp,a.b,80,\n") :=
      .cons hheader .lf (.cons hrow .lf .nil)
    exact hfile

theorem oneProxy_json : JsonForm [oneProxy] oneProxyJson := by
  refine .array readJson_oneProxy (.cons ⟨_, rfl, ?_, ?_⟩ .nil)
  · have hall : ((endpointFields "a.b" 80).all fun entry => safeImportFields.contains entry.1) = true := by decide
    intro entry hmem
    simpa using List.all_eq_true.1 hall entry hmem
  · intro f
    cases f <;> rfl

/-- **An empty cell is not an absent field**: the weight of the row is rejected, and the object is a
proxy of weight 1. -/
theorem emptyCell_differs :
    CsvForm [.protocol, .host, .port, .weight] [oneProxy] oneProxyCsv ∧ JsonForm [oneProxy] oneProxyJson ∧
      parseProxyImport jsonEnv .csv oneProxyCsv = ⟨[], [⟨1, .configInvalid, "The Proxy weight is invalid"⟩]⟩ ∧
      parseProxyImport jsonEnv .json oneProxyJson = ⟨[⟨1, draft "a.b" 80, none⟩], []⟩ := by
  refine ⟨oneProxy_csv, oneProxy_json, ?_⟩
  decide

theorem oneProxy_forms :
    parseProxyImport jsonEnv .csv oneProxyCsv = parseProxyImport jsonEnv .json oneProxyJson ↔
      (2000000 < oneProxyCsv.length ↔ 2000000 < oneProxyJson.length) ∧
        (oneProxyCsv.length ≤ 2000000 →
          ∀ r ∈ [oneProxy], r.ReadsAlike [.protocol, .host, .port, .weight]) :=
  parseProxyImport_forms_iff oneProxy_csv oneProxy_json

end Sample

end OfflineWebArchiver.ProxyManager
