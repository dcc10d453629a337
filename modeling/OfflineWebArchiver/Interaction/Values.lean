import OfflineWebArchiver.Lib.Collect
import OfflineWebArchiver.ProxyManager.Values

/-!
# Values of interactions

How interaction profiles and plans are read from a value of the language, and written as one.

* `boundedString`, `boundedInteger`: a single value, or an issue.
* `validateTarget`: the descriptor of an element.
* `record`, `field_of_mem`: an object is written, and its fields are read.
* `validateTarget_ok`, `validateTarget_toValue`: **what is read of a target is within its bounds, and what is
  within its bounds is read as itself**.
-/

namespace OfflineWebArchiver.Interaction

open ProxyManager (JsValue Unknown field boundedInteger? isAlnumUnit)
open Collect (Quiet report reportIf quiet_pure quiet_bind quiet_reportIf)

/-- A path inside a value, such as `steps.0.target`. -/
abbrev Path := Text

/-- The path of a field. -/
def Path.at (path : Path) (name : String) : Path := path ++ asciiUnits ("." ++ name)

/-- The path of an element. -/
def Path.nth (path : Path) (index : ℕ) : Path := path ++ asciiUnits ("." ++ toString index)

structure InteractionValidationIssue where
  code : String
  path : Path
  message : String
deriving DecidableEq

abbrev Validate (α : Type) := Collect InteractionValidationIssue α

/-- `issue(code, path, message)`, at the path of a field of the value itself. -/
def issue (code path message : String) : InteractionValidationIssue := ⟨code, asciiUnits path, message⟩

/-! ### Writing values -/

def int (n : ℤ) : JsValue := .number (some n)

theorem int_inj {m n : ℤ} : int m = int n ↔ m = n := by
  simp [int]

/-- The value of a string literal. -/
def literal (s : String) : JsValue := .text (asciiUnits s)

/-- An object with these fields; a field that is `undefined` is left out. -/
def record (entries : List (String × Unknown)) : List (Text × JsValue) :=
  entries.filterMap fun entry => entry.2.map (asciiUnits entry.1, ·)

/-- The characters of these names have one code unit each. -/
def Plain (name : String) : Prop := ∀ c ∈ name.toList, c.toNat < 65536

/-- The name with the characters of a list. -/
theorem plain_ofList {l : List Char} (h : l.all (fun c => decide (c.toNat < 65536)) = true) :
    Plain (String.ofList l) := by
  intro c hc
  rw [String.toList_ofList] at hc
  exact of_decide_eq_true (List.all_eq_true.1 h c hc)

theorem asciiUnits_toNat {name : String} (h : Plain name) :
    (asciiUnits name).map UInt16.toNat = name.toList.map Char.toNat := by
  unfold asciiUnits
  rw [List.map_map]
  refine List.map_congr_left fun c hc => ?_
  exact UInt16.toNat_ofNat_of_lt (h c hc)

theorem asciiUnits_inj {a b : String} (ha : Plain a) (hb : Plain b) : asciiUnits a = asciiUnits b ↔ a = b := by
  refine ⟨fun h => ?_, congrArg asciiUnits⟩
  have hnat := congrArg (List.map UInt16.toNat) h
  rw [asciiUnits_toNat ha, asciiUnits_toNat hb] at hnat
  exact String.toList_inj.1 (List.map_injective_iff.2 (fun c d hcd => Char.toNat_inj.1 hcd) hnat)

/-- What is read of an object that has been written. -/
theorem field_record {entries : List (String × Unknown)} {key : String} (hkey : Plain key)
    (h : ∀ entry ∈ entries, Plain entry.1) :
    field (record entries) key = entries.findSome? fun entry => if entry.1 = key then entry.2 else none := by
  unfold field record
  induction entries with
  | nil => rfl
  | cons entry entries ih =>
    obtain ⟨hentry, hrest⟩ := List.forall_mem_cons.1 h
    rw [List.findSome?_cons, ← ih hrest]
    obtain ⟨name, value⟩ := entry
    cases value with
    | none => simp
    | some value =>
      by_cases hname : name = key
      · simp [hname]
      · have hunits : (asciiUnits key == asciiUnits name) = false := by
          rw [beq_eq_false_iff_ne, ne_eq, asciiUnits_inj hkey hentry]
          exact fun h => hname h.symm
        simp [List.lookup_cons, hunits, hname]

/-- The field of an object that has been written, where the names of its entries are distinct. -/
theorem field_of_mem {entries : List (String × Unknown)} {key : String} {value : Unknown} (hkey : Plain key)
    (hplain : ∀ entry ∈ entries, Plain entry.1) (hdistinct : (entries.map Prod.fst).Nodup)
    (h : (key, value) ∈ entries) : field (record entries) key = value := by
  rw [field_record hkey hplain]
  clear hplain
  induction entries with
  | nil => cases h
  | cons entry entries ih =>
    rw [List.map_cons, List.nodup_cons] at hdistinct
    rw [List.findSome?_cons]
    rcases List.mem_cons.1 h with rfl | hrest
    · have hnone : entries.findSome? (fun entry => if entry.1 = key then entry.2 else none) = none := by
        rw [List.findSome?_eq_none_iff]
        intro other hother
        rw [if_neg]
        rintro rfl
        exact hdistinct.1 (List.mem_map.2 ⟨_, hother, rfl⟩)
      rw [if_pos rfl, hnone]
      cases value <;> rfl
    · have hname : entry.1 ≠ key := by
        rintro rfl
        exact hdistinct.1 (List.mem_map.2 ⟨_, hrest, rfl⟩)
      rw [if_neg hname]
      exact ih hdistinct.2 hrest

theorem plain_nil : ∀ entry ∈ ([] : List (String × Unknown)), Plain entry.1 := by
  intro entry h
  cases h

theorem plain_cons {l : List Char} {value : Unknown} {entries : List (String × Unknown)}
    (h : l.all (fun c => decide (c.toNat < 65536)) = true) (hrest : ∀ entry ∈ entries, Plain entry.1) :
    ∀ entry ∈ (String.ofList l, value) :: entries, Plain entry.1 :=
  List.forall_mem_cons.2 ⟨plain_ofList h, hrest⟩

/-! ### Reading single values -/

/-- `value === "…"`. -/
def isLiteral (value : Unknown) (s : String) : Bool :=
  match value with
  | some (.text t) => t == asciiUnits s
  | _ => false

mutual

/-- `String(value) === name`, for a name of letters and hyphens: a string is itself, an array of one
element is that element, and every other value has a text that is no such name. -/
def stringIs (name : Text) : JsValue → Bool
  | .text t => t == name
  | .array items => onlyIs name items
  | _ => false

def onlyIs (name : Text) : List JsValue → Bool
  | [item] => stringIs name item
  | _ => false

end

/-- `names.includes(String(value))`. -/
def includesString (names : List String) (value : Unknown) : Bool :=
  match value with
  | none => false
  | some value => names.any fun name => stringIs (asciiUnits name) value

/-- `typeof value === "boolean" ? value : undefined`. -/
def boolean? : Unknown → Option Bool
  | some (.bool b) => some b
  | _ => none

theorem boolean?_map (b : Option Bool) : boolean? (b.map .bool) = b := by
  cases b <;> rfl

/-- `boundedString(value, path, maximum, errors, required)`. -/
def boundedString (value : Unknown) (path : Path) (maximum : ℤ) (required : Bool) : Validate (Option Text) :=
  let invalid : Validate (Option Text) := do
    report ⟨"INTERACTION_STRING_INVALID", path,
      "The value must be a bounded string of at most " ++ toString maximum ++ " characters without control characters."⟩
    return none
  if value.isNone && !required then return none
  else
    match value with
    | some (.text t) => if t = [] ∨ maximum < t.length ∨ t.any isControlUnit then invalid else return some t
    | _ => invalid

/-- `boundedInteger(value, path, minimum, maximum, errors, required)`. -/
def boundedInteger (value : Unknown) (path : Path) (minimum maximum : ℤ) (required : Bool) : Validate (Option ℤ) :=
  if value.isNone && !required then return none
  else
    match boundedInteger? value minimum maximum with
    | some n => return some n
    | none => do
      report ⟨"INTERACTION_INTEGER_INVALID", path,
        "The value must be an integer between " ++ toString minimum ++ " and " ++ toString maximum ++ "."⟩
      return none

section Single

variable {value : Unknown} {path : Path} {minimum maximum : ℤ} {required : Bool}

/-- A text within its bound, without control characters. -/
structure Bounded (maximum : ℤ) (t : Text) : Prop where
  ne_nil : t ≠ []
  short : (t.length : ℤ) ≤ maximum
  printable : t.any isControlUnit = false

theorem isNone_false (h : ¬(value.isNone && !required) = true) : value = none → required = true := by
  rintro rfl
  simpa using h

/-- **What `boundedString` reads.** -/
theorem quiet_boundedString {read : Option Text} : Quiet (boundedString value path maximum required) read ↔
    value = read.map .text ∧ (read = none → required = false) ∧ ∀ t, read = some t → Bounded maximum t := by
  unfold boundedString
  simp only
  split_ifs with hoptional
  · rw [Bool.and_eq_true, Option.isNone_iff_eq_none, Bool.not_eq_true'] at hoptional
    obtain ⟨rfl, rfl⟩ := hoptional
    rw [quiet_pure]
    cases read <;> simp
  · have hrequired := isNone_false hoptional
    split
    · rename_i t
      split_ifs with hbad
      · refine ⟨fun h => absurd h Collect.not_quiet_report_bind, ?_⟩
        rintro ⟨hvalue, -, hbounded⟩
        cases read with
        | none => cases hvalue
        | some t' =>
          cases hvalue
          have h := hbounded t rfl
          rcases hbad with hnil | hlong | hcontrol
          · exact absurd hnil h.ne_nil
          · exact absurd h.short (not_le.2 hlong)
          · rw [h.printable] at hcontrol
            cases hcontrol
      · rw [not_or, not_or, not_lt, Bool.not_eq_true] at hbad
        rw [quiet_pure]
        constructor
        · rintro rfl
          refine ⟨rfl, fun h => (nomatch h), ?_⟩
          rintro t' ⟨⟩
          exact ⟨hbad.1, hbad.2.1, hbad.2.2⟩
        · rintro ⟨hvalue, -, -⟩
          cases read with
          | none => cases hvalue
          | some t' =>
            cases hvalue
            rfl
    · rename_i htext
      refine ⟨fun h => absurd h Collect.not_quiet_report_bind, ?_⟩
      rintro ⟨hvalue, hnone, -⟩
      cases read with
      | none =>
        rw [hrequired hvalue] at hnone
        exact absurd (hnone rfl) (by decide)
      | some t => exact absurd hvalue (htext t)

theorem boundedInteger?_iff {n : ℤ} : boundedInteger? value minimum maximum = some n ↔
    value = some (int n) ∧ minimum ≤ n ∧ n ≤ maximum := by
  unfold boundedInteger?
  split
  · rename_i q
    constructor
    · intro h
      split_ifs at h with hq
      cases h
      refine ⟨?_, hq.2⟩
      unfold int
      rw [Rat.isInt, beq_iff_eq] at hq
      rw [Rat.den_eq_one_iff q |>.1 hq.1]
    · rintro ⟨hvalue, hlow, hhigh⟩
      cases hvalue
      simp [Rat.isInt, hlow, hhigh]
  · rename_i hnumber
    refine ⟨fun h => (nomatch h), ?_⟩
    rintro ⟨hvalue, -⟩
    exact absurd hvalue (hnumber _)

/-- **What `boundedInteger` reads.** -/
theorem quiet_boundedInteger {read : Option ℤ} : Quiet (boundedInteger value path minimum maximum required) read ↔
    value = read.map int ∧ (read = none → required = false) ∧ ∀ n, read = some n → minimum ≤ n ∧ n ≤ maximum := by
  unfold boundedInteger
  split_ifs with hoptional
  · rw [Bool.and_eq_true, Option.isNone_iff_eq_none, Bool.not_eq_true'] at hoptional
    obtain ⟨rfl, rfl⟩ := hoptional
    rw [quiet_pure]
    cases read <;> simp
  · have hrequired := isNone_false hoptional
    constructor
    · intro h
      split at h
      · rename_i n hn
        rw [quiet_pure] at h
        subst h
        obtain ⟨hvalue, hbounds⟩ := boundedInteger?_iff.1 hn
        refine ⟨hvalue, fun h => (nomatch h), ?_⟩
        rintro m ⟨⟩
        exact hbounds
      · exact absurd h Collect.not_quiet_report_bind
    · rintro ⟨hvalue, hnone, hbounds⟩
      cases read with
      | none =>
        rw [hrequired hvalue] at hnone
        exact absurd (hnone rfl) (by decide)
      | some n =>
        rw [boundedInteger?_iff.2 ⟨hvalue, hbounds n rfl⟩]
        exact quiet_pure.2 rfl

/-- A required text. -/
theorem quiet_requiredString {read : Option Text} : Quiet (boundedString value path maximum true) read ↔
    ∃ t, value = some (.text t) ∧ read = some t ∧ Bounded maximum t := by
  rw [quiet_boundedString]
  constructor
  · rintro ⟨hvalue, hnone, hbounded⟩
    cases read with
    | none => exact absurd (hnone rfl) (by decide)
    | some t => exact ⟨t, hvalue, rfl, hbounded t rfl⟩
  · rintro ⟨t, rfl, rfl, hbounded⟩
    exact ⟨rfl, fun h => (nomatch h), by rintro t' ⟨⟩; exact hbounded⟩

/-- A required integer. -/
theorem quiet_requiredInteger {read : Option ℤ} : Quiet (boundedInteger value path minimum maximum true) read ↔
    ∃ n, value = some (int n) ∧ read = some n ∧ minimum ≤ n ∧ n ≤ maximum := by
  rw [quiet_boundedInteger]
  constructor
  · rintro ⟨hvalue, hnone, hbounds⟩
    cases read with
    | none => exact absurd (hnone rfl) (by decide)
    | some n => exact ⟨n, hvalue, rfl, hbounds n rfl⟩
  · rintro ⟨n, rfl, rfl, hbounds⟩
    exact ⟨rfl, fun h => (nomatch h), by rintro m ⟨⟩; exact hbounds⟩

end Single

/-! ### Targets -/

inductive InteractionTargetDescriptor
  | role (role : Text) (name : Option Text) (exact : Option Bool)
  | label (text : Text) (exact : Option Bool)
  | placeholder (text : Text) (exact : Option Bool)
  | testId (value : Text)
  | css (selector : Text)
  | discoveryRef (reference : Text)
deriving DecidableEq

def InteractionTargetDescriptor.entries : InteractionTargetDescriptor → List (String × Unknown)
  | .role roleName name exact =>
    [("strategy", literal "role"), ("role", JsValue.text roleName), ("name", name.map .text), ("exact", exact.map .bool)]
  | .label text exact => [("strategy", literal "label"), ("text", JsValue.text text), ("exact", exact.map .bool)]
  | .placeholder text exact =>
    [("strategy", literal "placeholder"), ("text", JsValue.text text), ("exact", exact.map .bool)]
  | .testId value => [("strategy", literal "test-id"), ("value", JsValue.text value)]
  | .css selector => [("strategy", literal "css"), ("selector", JsValue.text selector)]
  | .discoveryRef reference => [("strategy", literal "discovery-ref"), ("reference", JsValue.text reference)]

/-- The descriptor as a value. -/
def InteractionTargetDescriptor.toValue (target : InteractionTargetDescriptor) : JsValue :=
  .object (record target.entries)

def maximumTargetLength : ℤ := 512

/-- `/^javascript\s*:/i.test(selector) || /[{};]/.test(selector)`. -/
def isUnsafeSelector (selector : Text) : Bool :=
  ((asciiUnits "javascript").isPrefixOf (selector.map lowerUnit) &&
    ((selector.drop 10).dropWhile isSpaceUnit).head? == some (unit ':')) ||
  selector.any fun c => c == 123 || c == 125 || c == unit ';'

/-- `/^[A-Za-z0-9._:-]+$/.test(reference)`. -/
def isDiscoveryRef (reference : Text) : Bool :=
  reference != [] && reference.all fun c => isAlnumUnit c || (asciiUnits "._:-").contains c

/-- Report an issue, and return `null`. -/
def refuse {α : Type} (code : String) (path : Path) (message : String) : Validate (Option α) := do
  report ⟨code, path, message⟩
  return none

/-- `validateTarget(value, path, errors, maximum)` for a strategy, on the fields of the value. -/
def validateStrategy (fields : List (Text × JsValue)) (strategy : Text) (path : Path) (maximum : ℤ) :
    Validate (Option InteractionTargetDescriptor) :=
  if strategy = asciiUnits "role" then do
    let role ← boundedString (field fields "role") (path.at "role") 64 true
    let name ← boundedString (field fields "name") (path.at "name") maximum false
    return role.map fun role => .role role name (boolean? (field fields "exact"))
  else if strategy = asciiUnits "label" then do
    let text ← boundedString (field fields "text") (path.at "text") maximum true
    return text.map fun text => .label text (boolean? (field fields "exact"))
  else if strategy = asciiUnits "placeholder" then do
    let text ← boundedString (field fields "text") (path.at "text") maximum true
    return text.map fun text => .placeholder text (boolean? (field fields "exact"))
  else if strategy = asciiUnits "test-id" then do
    let id ← boundedString (field fields "value") (path.at "value") maximum true
    return id.map .testId
  else if strategy = asciiUnits "css" then do
    let selector ← boundedString (field fields "selector") (path.at "selector") maximum true
    match selector with
    | none => return none
    | some selector =>
      if isUnsafeSelector selector then
        refuse "INTERACTION_SELECTOR_UNSAFE" (path.at "selector")
          "JavaScript and declaration-like selectors are not allowed."
      else return some (.css selector)
  else if strategy = asciiUnits "discovery-ref" then do
    let reference ← boundedString (field fields "reference") (path.at "reference") maximum true
    match reference with
    | none => return none
    | some reference =>
      if !isDiscoveryRef reference then
        refuse "INTERACTION_DISCOVERY_REF_INVALID" (path.at "reference")
          "Discovery references must use the approved identifier alphabet."
      else return some (.discoveryRef reference)
  else refuse "INTERACTION_TARGET_STRATEGY_INVALID" (path.at "strategy") "The target strategy is not approved."

/-- `validateTarget(value, path, errors, maximum)`. -/
def validateTarget (value : Unknown) (path : Path) (maximum : ℤ) : Validate (Option InteractionTargetDescriptor) :=
  match value with
  | some (.object fields) =>
    match field fields "strategy" with
    | some (.text strategy) => validateStrategy fields strategy path maximum
    | _ => refuse "INTERACTION_TARGET_INVALID" path "The target descriptor is invalid."
  | _ => refuse "INTERACTION_TARGET_INVALID" path "The target descriptor is invalid."

/-- The descriptors that `validateTarget` returns. -/
def TargetOk (maximum : ℤ) : InteractionTargetDescriptor → Prop
  | .role role name _ => Bounded 64 role ∧ ∀ t, name = some t → Bounded maximum t
  | .label text _ | .placeholder text _ => Bounded maximum text
  | .testId value => Bounded maximum value
  | .css selector => Bounded maximum selector ∧ isUnsafeSelector selector = false
  | .discoveryRef reference => Bounded maximum reference ∧ isDiscoveryRef reference = true

section Targets

variable {value : Unknown} {path : Path} {maximum : ℤ} {target : InteractionTargetDescriptor}
  {fields : List (Text × JsValue)} {strategy : Text} {read : Option InteractionTargetDescriptor}

theorem not_quiet_refuse {α : Type} {code message : String} {read : Option α} : ¬Quiet (refuse code path message) read :=
  Collect.not_quiet_report_bind

/-- **What is read of a target is a descriptor within its bounds.** -/
theorem validateStrategy_ok (h : Quiet (validateStrategy fields strategy path maximum) read) :
    ∃ target, read = some target ∧ TargetOk maximum target := by
  unfold validateStrategy at h
  split_ifs at h
  · obtain ⟨_, hrole, h⟩ := quiet_bind.1 h
    obtain ⟨name, hname, h⟩ := quiet_bind.1 h
    obtain ⟨role, -, rfl, hbounded⟩ := quiet_requiredString.1 hrole
    exact ⟨_, (quiet_pure.1 h).symm, hbounded, (quiet_boundedString.1 hname).2.2⟩
  · obtain ⟨_, htext, h⟩ := quiet_bind.1 h
    obtain ⟨text, -, rfl, hbounded⟩ := quiet_requiredString.1 htext
    exact ⟨_, (quiet_pure.1 h).symm, hbounded⟩
  · obtain ⟨_, htext, h⟩ := quiet_bind.1 h
    obtain ⟨text, -, rfl, hbounded⟩ := quiet_requiredString.1 htext
    exact ⟨_, (quiet_pure.1 h).symm, hbounded⟩
  · obtain ⟨_, hid, h⟩ := quiet_bind.1 h
    obtain ⟨id, -, rfl, hbounded⟩ := quiet_requiredString.1 hid
    exact ⟨_, (quiet_pure.1 h).symm, hbounded⟩
  · obtain ⟨_, hselector, h⟩ := quiet_bind.1 h
    obtain ⟨selector, -, rfl, hbounded⟩ := quiet_requiredString.1 hselector
    simp only at h
    split_ifs at h with hunsafe
    · exact absurd h not_quiet_refuse
    · exact ⟨_, (quiet_pure.1 h).symm, hbounded, Bool.eq_false_iff.2 hunsafe⟩
  · obtain ⟨_, hreference, h⟩ := quiet_bind.1 h
    obtain ⟨reference, -, rfl, hbounded⟩ := quiet_requiredString.1 hreference
    simp only at h
    split_ifs at h with hunsafe
    · exact absurd h not_quiet_refuse
    · exact ⟨_, (quiet_pure.1 h).symm, hbounded, by simpa using hunsafe⟩
  · exact absurd h not_quiet_refuse

theorem validateTarget_ok (h : Quiet (validateTarget value path maximum) read) :
    ∃ target, read = some target ∧ TargetOk maximum target := by
  unfold validateTarget at h
  split at h
  · split at h
    · exact validateStrategy_ok h
    · exact absurd h not_quiet_refuse
  · exact absurd h not_quiet_refuse

theorem plain_entries (target : InteractionTargetDescriptor) : ∀ entry ∈ target.entries, Plain entry.1 := by
  cases target <;> repeat' first | exact plain_nil | refine plain_cons rfl ?_

theorem entries_distinct (target : InteractionTargetDescriptor) : (target.entries.map Prod.fst).Nodup := by
  cases target <;> (unfold InteractionTargetDescriptor.entries; simp)

theorem field_target {target : InteractionTargetDescriptor} {key : String} {value : Unknown} (hkey : Plain key)
    (h : (key, value) ∈ target.entries) : field (record target.entries) key = value :=
  field_of_mem hkey (plain_entries target) (entries_distinct target) h

/-- The strategy that is read of a written descriptor. -/
theorem validateTarget_strategy {s : String} (h : field (record target.entries) "strategy" = some (literal s)) :
    validateTarget (some target.toValue) path maximum =
      validateStrategy (record target.entries) (asciiUnits s) path maximum := by
  unfold InteractionTargetDescriptor.toValue validateTarget
  simp only [h, literal]

/-- **A descriptor within its bounds is read as itself.** -/
theorem validateTarget_toValue (h : TargetOk maximum target) :
    Quiet (validateTarget (some target.toValue) path maximum) (some target) := by
  have hread {key : String} {value : Unknown} (hkey : Plain key) (hentry : (key, value) ∈ target.entries) :
      field (record target.entries) key = value := field_target hkey hentry
  have hstrategy (s : String) (hs : ("strategy", some (literal s)) ∈ target.entries) :
      validateTarget (some target.toValue) path maximum =
        validateStrategy (record target.entries) (asciiUnits s) path maximum :=
    validateTarget_strategy (hread (plain_ofList rfl) hs)
  cases target with
  | role role name exact =>
    have hrole := hread (plain_ofList rfl) (.tail _ (.head _))
    have hname := hread (plain_ofList rfl) (.tail _ (.tail _ (.head _)))
    have hexact := hread (plain_ofList rfl) (.tail _ (.tail _ (.tail _ (.head _))))
    rw [hstrategy "role" (.head _), validateStrategy, if_pos rfl]
    refine quiet_bind.2 ⟨some role, quiet_requiredString.2 ⟨role, hrole, rfl, h.1⟩, quiet_bind.2
      ⟨name, quiet_boundedString.2 ⟨hname, fun _ => rfl, h.2⟩, quiet_pure.2 ?_⟩⟩
    rw [hexact, boolean?_map]
    rfl
  | label text exact =>
    have htext := hread (plain_ofList rfl) (.tail _ (.head _))
    have hexact := hread (plain_ofList rfl) (.tail _ (.tail _ (.head _)))
    rw [hstrategy "label" (.head _), validateStrategy, if_neg (by decide), if_pos rfl]
    refine quiet_bind.2 ⟨some text, quiet_requiredString.2 ⟨text, htext, rfl, h⟩, quiet_pure.2 ?_⟩
    rw [hexact, boolean?_map]
    rfl
  | placeholder text exact =>
    have htext := hread (plain_ofList rfl) (.tail _ (.head _))
    have hexact := hread (plain_ofList rfl) (.tail _ (.tail _ (.head _)))
    rw [hstrategy "placeholder" (.head _), validateStrategy, if_neg (by decide), if_neg (by decide), if_pos rfl]
    refine quiet_bind.2 ⟨some text, quiet_requiredString.2 ⟨text, htext, rfl, h⟩, quiet_pure.2 ?_⟩
    rw [hexact, boolean?_map]
    rfl
  | testId value =>
    have hvalue := hread (plain_ofList rfl) (.tail _ (.head _))
    rw [hstrategy "test-id" (.head _), validateStrategy, if_neg (by decide), if_neg (by decide), if_neg (by decide),
      if_pos rfl]
    exact quiet_bind.2 ⟨some value, quiet_requiredString.2 ⟨value, hvalue, rfl, h⟩, quiet_pure.2 rfl⟩
  | css selector =>
    have hselector := hread (plain_ofList rfl) (.tail _ (.head _))
    rw [hstrategy "css" (.head _), validateStrategy, if_neg (by decide), if_neg (by decide), if_neg (by decide),
      if_neg (by decide), if_pos rfl]
    refine quiet_bind.2 ⟨some selector, quiet_requiredString.2 ⟨selector, hselector, rfl, h.1⟩, ?_⟩
    simp only [h.2]
    exact quiet_pure.2 rfl
  | discoveryRef reference =>
    have href := hread (plain_ofList rfl) (.tail _ (.head _))
    rw [hstrategy "discovery-ref" (.head _), validateStrategy, if_neg (by decide), if_neg (by decide),
      if_neg (by decide), if_neg (by decide), if_neg (by decide), if_pos rfl]
    refine quiet_bind.2 ⟨some reference, quiet_requiredString.2 ⟨reference, href, rfl, h.1⟩, ?_⟩
    simp only [h.2]
    exact quiet_pure.2 rfl

end Targets

end OfflineWebArchiver.Interaction
