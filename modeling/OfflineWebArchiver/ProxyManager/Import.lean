import OfflineWebArchiver.ProxyManager.Values

/-!
# Proxy imports

The two formats of an import, and what becomes of their records.

* `parseCsv`: a state machine over the units of the text.
* `parseJson`: an array of proxies, or one in an envelope.
* `parseProxyImport`: the drafts and the errors of all records.
-/

namespace OfflineWebArchiver.ProxyManager

/-! ### CSV -/

/-- The variables of the loop of `parseCsv`. After `index += 1` the next unit is skipped. -/
structure CsvState where
  rows : List (List Text) := []
  row : List Text := []
  field : Text := []
  quoted : Bool := false
  skip : Bool := false

/-- `row.push(field); if (row.some((value) => value.length > 0)) rows.push(row);` -/
def CsvState.endRow (s : CsvState) : List (List Text) :=
  if (s.row ++ [s.field]).any (· ≠ []) then s.rows ++ [s.row ++ [s.field]] else s.rows

/-- One unit of the text, with the unit behind it. -/
def CsvState.read (s : CsvState) (character : CodeUnit) (next : Option CodeUnit) : CsvState :=
  if s.skip then { s with skip := false }
  else if s.quoted then
    if character = unit '"' ∧ next = some (unit '"') then { s with field := s.field ++ [unit '"'], skip := true }
    else if character = unit '"' then { s with quoted := false }
    else { s with field := s.field ++ [character] }
  else if character = unit '"' ∧ s.field = [] then { s with quoted := true }
  else if character = unit ',' then { s with row := s.row ++ [s.field], field := [] }
  else if character = unit '\n' ∨ character = unit '\r' then
    { s with rows := s.endRow, row := [], field := [], skip := character = unit '\r' ∧ next = some (unit '\n') }
  else { s with field := s.field ++ [character] }

def scanCsv : Text → CsvState → CsvState
  | [], s => s
  | character :: rest, s => scanCsv rest (s.read character rest.head?)

variable (env : ProxyEnv)

def normalizeImportBypass (value : Text) : JsValue :=
  let trimmed := trimUnits value
  let texts := fun entries : List Text => JsValue.array (entries.map .text)
  if trimmed = [] then .array []
  else if trimmed.head? = some (unit '[') then
    match env.jsonParse trimmed with
    | some value => value
    | none => texts ((trimmed.splitOn (unit ';')).map trimUnits)
  else texts (((trimmed.splitOnP fun c => c == unit ';' || c == unit ',').map trimUnits).filter (· ≠ []))

/-- What `parseCsv` makes of one cell. -/
def coerceCell (header cell : Text) : JsValue :=
  if header = asciiUnits "bypass" then normalizeImportBypass env cell
  else if header ∈ ["port", "weight", "priority", "maxConcurrency"].map asciiUnits ∧ cell ≠ [] then
    .number (env.number cell)
  else if header = asciiUnits "enabled" ∧ cell ≠ [] then .bool (env.lower cell = asciiUnits "true")
  else .text cell

def importInvalid (message : String) : ProxyOperationError := ⟨.importInvalid, message⟩

/-- One data row. -/
def csvRecord (headers values : List Text) : Except ProxyOperationError (List (Text × JsValue)) :=
  if values.length ≠ headers.length then
    .error (importInvalid "The CSV row has an unexpected number of fields")
  else .ok ((headers.zip values).map fun (header, cell) => (header, coerceCell env header cell))

def parseCsv (text : Text) : Except ProxyOperationError (List (List (Text × JsValue))) := do
  let s := scanCsv text {}
  Checks.failIf (importInvalid "The CSV import contains an unterminated quoted field") (s.quoted = true)
  match if s.field ≠ [] ∨ s.row ≠ [] then s.endRow else s.rows with
  | [] => return []
  | first :: rows =>
    let headers := first.map trimUnits
    Checks.failIf (importInvalid "The CSV header is invalid")
      (headers = [] ∨ (∃ header ∈ headers, header ∉ safeImportFields ∨ header = []) ∨ ¬headers.Nodup)
    rows.mapM (csvRecord env headers)

/-! ### JSON -/

/-- The fields that an envelope may have. -/
def envelopeFields : List Text := ["version", "proxies"].map asciiUnits

def parseJson (text : Text) : Except ProxyOperationError (List JsValue) :=
  match env.jsonParse text with
  | none => .error (importInvalid "The JSON import is malformed")
  | some (.array items) => .ok items
  | some (.object wrapper) =>
    match field wrapper "version", field wrapper "proxies" with
    | some (.number (some q)), some (.array items) =>
      if q ≠ 1 ∨ wrapper.any fun entry => !envelopeFields.contains entry.1 then
        .error (importInvalid "The JSON import envelope is invalid")
      else .ok items
    | _, _ => .error (importInvalid "The JSON import envelope is invalid")
  | some _ => .error (importInvalid "The JSON import must contain a Proxy array")

/-! ### Records -/

/-- `String(value ?? "")`. -/
def stringOf (value : Unknown) : Text :=
  match value with
  | none | some .null => []
  | some (.text t) => t
  | some value => env.string value

/-- `/^[^\u0000-\u001f\u007f]{1,n}$/`. -/
def isCredentialText (n : ℕ) (t : Text) : Bool := 1 ≤ t.length && t.length ≤ n && !t.any isControlUnit

/-- `normalizeProxyCredential({ username, password })`. -/
def normalizeProxyCredential (username password : Unknown) : Except ProxyOperationError ProxyCredential :=
  if isCredentialText 256 (stringOf env username) && isCredentialText 4096 (stringOf env password) then
    .ok ⟨stringOf env username, stringOf env password⟩
  else .error ⟨.secretInvalid, "The Proxy credential is invalid"⟩

/-- `value !== undefined && String(value).trim() !== ""`. -/
def hasText (value : Unknown) : Bool :=
  match value with
  | none => false
  | some .null => true
  | value => trimUnits (stringOf env value) ≠ []

/-- `candidate[key]` of a value that `normalizeProxyDraft` accepts. -/
def valueField (candidate : JsValue) (key : String) : Unknown :=
  match candidate with
  | .object fields => field fields key
  | _ => none

/-- The body of the loop over the candidates: a draft and its credential. -/
def parseCandidate (candidate : JsValue) : Except ProxyOperationError (ProxyDraft × Option ProxyCredential) := do
  let draft ← normalizeProxyDraft env candidate false
  let username := valueField candidate "username"
  let password := valueField candidate "password"
  if hasText env username || hasText env password then
    let credential ← normalizeProxyCredential env username password
    Checks.failIf ⟨.secretInvalid, "A Proxy import record cannot contain both a credential and credentialRef"⟩
      (draft.credentialRef ≠ none)
    return (draft, some credential)
  return (draft, none)

structure ParsedProxyImportRecord where
  record : ℕ
  draft : ProxyDraft
  credential : Option ProxyCredential
deriving DecidableEq

/-- `ProxyImportError`; its `field` is always `null`. -/
structure ProxyImportError where
  record : ℕ
  code : ProxyOperationErrorCode
  message : String
deriving DecidableEq

structure ProxyImportParseResult where
  records : List ParsedProxyImportRecord
  errors : List ProxyImportError
deriving DecidableEq

inductive ImportFormat
  | csv | json
deriving DecidableEq

/-- The records and errors of the candidates, numbered from `n`. -/
def collectRecords : ℕ → List JsValue → ProxyImportParseResult
  | _, [] => ⟨[], []⟩
  | n, candidate :: rest =>
    let result := collectRecords (n + 1) rest
    match parseCandidate env candidate with
    | .ok (draft, credential) => { result with records := ⟨n, draft, credential⟩ :: result.records }
    | .error e => { result with errors := ⟨n, e.code, e.message⟩ :: result.errors }

def parseProxyImport (format : ImportFormat) (text : Text) : ProxyImportParseResult :=
  if 2000000 < text.length then
    ⟨[], [⟨0, .importInvalid, "The Proxy import is empty or exceeds the safe size limit"⟩]⟩
  else if trimUnits text = [] then ⟨[], []⟩
  else
    let candidates : Except ProxyOperationError (List JsValue) := match format with
      | .csv => (parseCsv env text).map (List.map JsValue.object)
      | .json => parseJson env text
    match candidates with
    | .error e => ⟨[], [⟨0, e.code, e.message⟩]⟩
    | .ok candidates => collectRecords env 1 candidates

end OfflineWebArchiver.ProxyManager

/-!
## The fields of a proxy, one by one

`normalizeProxyDraft` as a list of checks, one for each field.

* `ImportField`: the fields that a record may have.
* `checkField`: the error of one field.
* `errorOf_fields`: the error of a configuration is that of its first field that has one.
* `fields_congr`: the configuration depends on the fields only.
* `fieldOf_checkField`: an error tells its field.
-/

namespace OfflineWebArchiver.ProxyManager

open Checks

inductive ImportField
  | id | label | protocol | host | port | bypass | credentialRef | username | password
  | weight | priority | maxConcurrency | enabled
deriving DecidableEq

namespace ImportField

def text : ImportField → String
  | id => "id"
  | label => "label"
  | protocol => "protocol"
  | host => "host"
  | port => "port"
  | bypass => "bypass"
  | credentialRef => "credentialRef"
  | username => "username"
  | password => "password"
  | weight => "weight"
  | priority => "priority"
  | maxConcurrency => "maxConcurrency"
  | enabled => "enabled"

/-- The key of the field. -/
def name (f : ImportField) : Text := asciiUnits f.text

def all : List ImportField :=
  [id, label, protocol, host, port, bypass, credentialRef, username, password, weight, priority, maxConcurrency,
    enabled]

theorem mem_all (f : ImportField) : f ∈ all := by cases f <;> decide

theorem safeImportFields_eq : safeImportFields = all.map name := rfl

theorem name_injective : Function.Injective name := by
  have hfind : ∀ f : ImportField, all.find? (fun g => g.name == f.name) = some f := by
    intro f
    cases f <;> rfl
  intro f g h
  have hf := hfind f
  rw [h, hfind g] at hf
  exact (Option.some.inj hf).symm

end ImportField

/-- The value of a field. -/
def valueOf (candidate : List (Text × JsValue)) (f : ImportField) : Unknown := candidate.lookup f.name

/-- Every key is that of a field. -/
def KnownKeys (candidate : List (Text × JsValue)) : Prop := ∀ entry ∈ candidate, entry.1 ∈ safeImportFields

variable (env : ProxyEnv)

/-- The error of one field of a configuration. -/
def checkField (f : ImportField) (v : Unknown) : Option ProxyOperationError :=
  match f with
  | .protocol => errorOf (normalizeProxyProtocol env v)
  | .host => errorOf (normalizeProxyHost env v)
  | .port => errorOf (normalizeProxyPort v)
  | .credentialRef => errorOf (normalizeCredentialRef v)
  | .id => errorOf (normalizeOptionalId v)
  | .label => errorOf (normalizeLabel v)
  | .bypass => errorOf (normalizeBypass env v)
  | .weight => errorOf (normalizeBoundedInteger v "The Proxy weight" 1 1000 1)
  | .priority => errorOf (normalizeBoundedInteger v "The Proxy priority" 0 1000 0)
  | .maxConcurrency => errorOf (normalizeBoundedInteger v "The Proxy maximum concurrency" 1 1000 1)
  | .enabled => errorOf (normalizeEnabled v)
  | .username | .password => none

/-- The fields of a configuration, in the order of their checks. -/
def checkedFields : List ImportField :=
  [.protocol, .host, .port, .credentialRef, .id, .label, .bypass, .weight, .priority, .maxConcurrency, .enabled]

variable {env} {candidate candidate' : List (Text × JsValue)} {v : Unknown} {e : ProxyOperationError}

theorem KnownKeys.any (h : KnownKeys candidate) :
    ¬(candidate.any fun entry => !safeImportFields.contains entry.1) = true := by
  intro hany
  obtain ⟨entry, hmem, hkey⟩ := List.any_eq_true.1 hany
  rw [List.contains_iff_mem.2 (h entry hmem)] at hkey
  exact Bool.false_ne_true hkey

theorem findSome?_cons_or {α β : Type} {f : α → Option β} {a : α} {l : List α} :
    (a :: l).findSome? f = (f a).or (l.findSome? f) := by
  rw [List.findSome?_cons]
  cases f a <;> rfl

/-- **The error of a configuration** is that of its first field that has one. -/
theorem errorOf_fields (h : KnownKeys candidate) : errorOf (normalizeProxyFields env candidate)
    = checkedFields.findSome? fun f => checkField env f (valueOf candidate f) := by
  unfold normalizeProxyFields checkedFields
  rw [failIf_bind, if_neg h.any]
  repeat rw [findSome?_cons_or]
  refine errorOf_bind fun _ => errorOf_bind fun _ => errorOf_bind fun _ => errorOf_bind fun _ => ?_
  refine errorOf_bind fun _ => errorOf_bind fun _ => errorOf_bind fun _ => errorOf_bind fun _ => ?_
  exact errorOf_bind fun _ => errorOf_bind fun _ => errorOf_bind fun _ => rfl

/-- The configuration depends on the checked fields, and on the bypass list only through its entries. -/
theorem fields_congr (h : KnownKeys candidate) (h' : KnownKeys candidate')
    (hsame : ∀ f ∈ checkedFields, f ≠ .bypass → valueOf candidate' f = valueOf candidate f)
    (hbypass : normalizeBypass env (valueOf candidate' .bypass) = normalizeBypass env (valueOf candidate .bypass)) :
    normalizeProxyFields env candidate' = normalizeProxyFields env candidate := by
  have hfield : ∀ f ∈ checkedFields, f ≠ .bypass → field candidate' f.text = field candidate f.text := hsame
  unfold normalizeProxyFields
  rw [failIf_bind, failIf_bind, if_neg h.any, if_neg h'.any,
    show field candidate' "protocol" = _ from hfield .protocol (by decide) (by decide),
    show field candidate' "host" = _ from hfield .host (by decide) (by decide),
    show field candidate' "port" = _ from hfield .port (by decide) (by decide),
    show field candidate' "credentialRef" = _ from hfield .credentialRef (by decide) (by decide),
    show field candidate' "id" = _ from hfield .id (by decide) (by decide),
    show field candidate' "label" = _ from hfield .label (by decide) (by decide),
    show normalizeBypass env (field candidate' "bypass") = _ from hbypass,
    show field candidate' "weight" = _ from hfield .weight (by decide) (by decide),
    show field candidate' "priority" = _ from hfield .priority (by decide) (by decide),
    show field candidate' "maxConcurrency" = _ from hfield .maxConcurrency (by decide) (by decide),
    show field candidate' "enabled" = _ from hfield .enabled (by decide) (by decide)]
  rfl

/-! ### The field of an error -/

/-- The messages of a field. -/
def ImportField.messages : ImportField → List String
  | .protocol => ["The Proxy protocol is invalid", "The Proxy protocol is unsupported"]
  | .host => ["The Proxy host is invalid", "The Proxy host is not a valid IPv6 literal"]
  | .port => ["The Proxy port is invalid"]
  | .credentialRef => ["The Proxy credential reference is invalid"]
  | .id => ["The Proxy identifier is invalid"]
  | .label => ["The Proxy label is invalid", "The Proxy label must be non-sensitive"]
  | .bypass =>
    ["The Proxy bypass list is invalid", "The Proxy bypass host is invalid",
      "The Proxy bypass list contains an invalid host"]
  | .weight => ["The Proxy weight is invalid"]
  | .priority => ["The Proxy priority is invalid"]
  | .maxConcurrency => ["The Proxy maximum concurrency is invalid"]
  | .enabled => ["The Proxy enabled flag is invalid"]
  | .username | .password => []

/-- The field that a message names. -/
def fieldOf (message : String) : Option ImportField := checkedFields.find? fun f => f.messages.contains message

theorem fieldOf_mem {f : ImportField} {message : String} (h : message ∈ f.messages) : fieldOf message = some f := by
  have hall : (ImportField.all.all fun f => f.messages.all fun message => fieldOf message == some f) = true := by decide
  have hf := List.all_eq_true.1 hall f f.mem_all
  simpa using List.all_eq_true.1 hf message h

theorem assertSafeString_error {label : String} {maximum : ℕ} (h : assertSafeString v label maximum = .error e) :
    e = invalid (label ++ " is invalid") := by
  unfold assertSafeString at h
  split at h
  · split at h
    · exact (Except.error.inj h).symm
    · cases h
  · exact (Except.error.inj h).symm

theorem normalizeBoundedInteger_error {label : String} {low high fallback : ℤ}
    (h : normalizeBoundedInteger v label low high fallback = .error e) : e = invalid (label ++ " is invalid") := by
  unfold normalizeBoundedInteger at h
  split at h
  · cases h
  · split at h
    · cases h
    · exact (Except.error.inj h).symm

theorem normalizeProxyHost_error (h : normalizeProxyHost env v = .error e) :
    e.message ∈ ImportField.host.messages := by
  unfold normalizeProxyHost at h
  rcases bind_error.1 h with h | ⟨t, -, h⟩
  · rw [assertSafeString_error h]
    exact List.mem_cons_self
  · rcases failIf_bind_error.1 h with ⟨-, rfl⟩ | ⟨-, h⟩
    · exact List.mem_cons_self
    · split at h
      · rcases failIf_bind_error.1 h with ⟨-, rfl⟩ | ⟨-, h⟩
        · exact List.mem_cons_of_mem _ List.mem_cons_self
        · cases h
      · rcases failIf_bind_error.1 h with ⟨-, rfl⟩ | ⟨-, h⟩
        · exact List.mem_cons_self
        · cases h

theorem normalizeProxyId_error (h : normalizeProxyId v = .error e) : e.message ∈ ImportField.id.messages := by
  unfold normalizeProxyId at h
  rcases bind_error.1 h with h | ⟨t, -, h⟩
  · rw [assertSafeString_error h]
    exact List.mem_cons_self
  · rcases failIf_bind_error.1 h with ⟨-, rfl⟩ | ⟨-, h⟩
    · exact List.mem_cons_self
    · cases h

theorem normalizeOptionalId_error (h : normalizeOptionalId v = .error e) : e.message ∈ ImportField.id.messages := by
  unfold normalizeOptionalId at h
  split at h
  · cases h
  · cases hid : normalizeProxyId v with
    | ok id => rw [hid] at h; cases h
    | error e' =>
      rw [hid] at h
      obtain rfl := Except.error.inj h
      exact normalizeProxyId_error hid

theorem normalizeLabel_error (h : normalizeLabel v = .error e) : e.message ∈ ImportField.label.messages := by
  unfold normalizeLabel at h
  split at h
  · cases h
  · cases h
  · rcases bind_error.1 h with h | ⟨t, -, h⟩
    · rw [assertSafeString_error h]
      exact List.mem_cons_self
    · rcases failIf_bind_error.1 h with ⟨-, rfl⟩ | ⟨-, h⟩
      · exact List.mem_cons_of_mem _ List.mem_cons_self
      · cases h

theorem normalizeBypassEntry_error {entry : JsValue} (h : normalizeBypassEntry env entry = .error e) :
    e.message ∈ ImportField.bypass.messages := by
  unfold normalizeBypassEntry at h
  rcases bind_error.1 h with h | ⟨t, -, h⟩
  · rw [assertSafeString_error h]
    exact List.mem_cons_of_mem _ List.mem_cons_self
  · rcases failIf_bind_error.1 h with ⟨-, rfl⟩ | ⟨-, h⟩
    · exact List.mem_cons_of_mem _ (List.mem_cons_of_mem _ List.mem_cons_self)
    · cases h

theorem normalizeBypass_error (h : normalizeBypass env v = .error e) : e.message ∈ ImportField.bypass.messages := by
  unfold normalizeBypass at h
  split at h
  · cases h
  · cases h
  · rcases failIf_bind_error.1 h with ⟨-, rfl⟩ | ⟨-, h⟩
    · exact List.mem_cons_self
    · rcases bind_error.1 h with h | ⟨t, -, h⟩
      · obtain ⟨entry, -, hentry⟩ := mapM_error h
        exact normalizeBypassEntry_error hentry
      · cases h
  · obtain rfl := Except.error.inj h
    exact List.mem_cons_self

/-- **An error tells its field.** -/
theorem fieldOf_checkField {f : ImportField} (h : checkField env f v = some e) : fieldOf e.message = some f := by
  apply fieldOf_mem
  cases f with
  | id => exact normalizeOptionalId_error (errorOf_eq_some.1 h)
  | label => exact normalizeLabel_error (errorOf_eq_some.1 h)
  | protocol =>
    have h := errorOf_eq_some.1 h
    unfold normalizeProxyProtocol at h
    grind [ImportField.messages, invalid]
  | host => exact normalizeProxyHost_error (errorOf_eq_some.1 h)
  | port =>
    have h := errorOf_eq_some.1 h
    unfold normalizeProxyPort at h
    grind [ImportField.messages, invalid]
  | bypass => exact normalizeBypass_error (errorOf_eq_some.1 h)
  | credentialRef =>
    have h := errorOf_eq_some.1 h
    unfold normalizeCredentialRef at h
    grind [ImportField.messages, invalid]
  | username => cases h
  | password => cases h
  | weight =>
    rw [normalizeBoundedInteger_error (errorOf_eq_some.1 h)]
    exact List.mem_cons_self
  | priority =>
    rw [normalizeBoundedInteger_error (errorOf_eq_some.1 h)]
    exact List.mem_cons_self
  | maxConcurrency =>
    rw [normalizeBoundedInteger_error (errorOf_eq_some.1 h)]
    exact List.mem_cons_self
  | enabled =>
    have h := errorOf_eq_some.1 h
    unfold normalizeEnabled at h
    grind [ImportField.messages, invalid]

end OfflineWebArchiver.ProxyManager
