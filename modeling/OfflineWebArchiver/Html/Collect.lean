import OfflineWebArchiver.Html.Rewrite
import OfflineWebArchiver.Html.Scan

/-!
# What the loops collect

* `referencesOf`: the texts that one attribute hands to the checks.
* `rewriteAttribute_ok_iff`: when one attribute is rewritten without a throw.
* `Adds`: what it adds to the state.
-/

namespace OfflineWebArchiver

open Checks Splice

variable {env : RewriteEnv} {mappings : RewriteMappingIndex} {site : ReferenceSite}
variable {raw value tagName name : Text} {base : JsString}

/-! ### One reference -/

theorem assertReferenceText_ok : assertReferenceText raw = .ok () ↔ isReferenceText raw = true := by
  rw [assertReferenceText, failIf_ok]
  simp

theorem resolveRewriteReference_ok {r : ResolvedReference} :
    resolveRewriteReference env raw base = .ok r ↔
      isReferenceText raw = true ∧ resolveReferenceText env raw base = r := by
  rw [resolveRewriteReference, bind_ok]
  simp only [pure_ok]
  constructor
  · rintro ⟨_, h, hr⟩
    exact ⟨assertReferenceText_ok.1 h, hr⟩
  · rintro ⟨h, hr⟩
    exact ⟨(), assertReferenceText_ok.2 h, hr⟩

theorem processReference_ok {p : ProcessedReference} :
    processReference env mappings site raw = .ok p ↔
      isReferenceText raw = true ∧ processResolved env mappings site raw
        (resolveReferenceText env raw site.baseUrl) = p := by
  rw [processReference, bind_ok]
  simp only [resolveRewriteReference_ok, pure_ok, and_assoc, exists_and_left, exists_eq_left']

/-- A reference is at most one dependency. -/
theorem processResolved_pushed (env : RewriteEnv) (mappings : RewriteMappingIndex)
    (site : ReferenceSite) (raw : Text) (r : ResolvedReference) :
    (processResolved env mappings site raw r).pushed.length ≤ 1 := by
  unfold processResolved
  simp only []
  split
  · exact Nat.zero_le 1
  split
  · exact Nat.le_refl 1
  split
  · exact Nat.zero_le 1
  split
  · exact Nat.zero_le 1
  · exact Nat.le_refl 1

/-- **A `srcset`** is rewritten when the URL of every candidate passes the check. -/
theorem rewriteSrcset_ok_iff : (∃ r, rewriteSrcset env mappings site value = .ok r) ↔
    ∀ candidate ∈ parseSrcset value, isReferenceText candidate.rawUrl = true := by
  constructor
  · rintro ⟨r, h⟩
    obtain ⟨processed, hprocessed, -⟩ := bind_ok.1 h
    intro candidate hmem
    obtain ⟨p, -, hp⟩ := (mapM_mem hprocessed).1 candidate hmem
    exact (processReference_ok.1 hp).1
  · intro h
    refine ⟨_, bind_ok.2 ⟨(parseSrcset value).map fun candidate =>
      processResolved env mappings site candidate.rawUrl
        (resolveReferenceText env candidate.rawUrl site.baseUrl), mapM_ok.2 ?_, pure_ok.2 rfl⟩⟩
    rw [List.forall₂_map_right_iff, List.forall₂_same]
    exact fun candidate hmem => processReference_ok.2 ⟨h candidate hmem, rfl⟩

theorem rewriteSrcset_pushed {r : RewrittenSrcset}
    (hok : rewriteSrcset env mappings site value = .ok r) :
    r.pushed.length ≤ (parseSrcset value).length := by
  obtain ⟨processed, hprocessed, h⟩ := bind_ok.1 hok
  obtain rfl := pure_ok.1 h
  simp only []
  have hall := mapM_ok.1 hprocessed
  clear hprocessed h hok
  generalize parseSrcset value = candidates at hall ⊢
  induction hall with
  | nil => exact Nat.le_refl 0
  | cons hp _ ih =>
    obtain ⟨-, rfl⟩ := processReference_ok.1 hp
    rw [List.flatMap_cons, List.length_append, List.length_cons, Nat.add_comm]
    exact Nat.add_le_add ih (processResolved_pushed env mappings site _ _)

/-! ### One attribute -/

/-- The texts that an attribute hands to `assertText`. -/
def referencesOf (canonical : Bool) (tagName attributeName value : Text) : List Text :=
  if canonical && attributeName == asciiUnits "href" then [value]
  else
    match resourceKindFor tagName attributeName with
    | .ok (some _) =>
      if attributeName = asciiUnits "srcset" then
        (parseSrcset (decodeHtmlEntities value)).map (·.rawUrl)
      else [value]
    | _ => []

/-- A property of the function `Object` that throws when it is read. -/
def isRestricted (canonical : Bool) (tagName attributeName : Text) : Bool :=
  !(canonical && attributeName == asciiUnits "href") &&
    match resourceKindFor tagName attributeName with
    | .ok _ => false
    | .error _ => true

/-- What a step adds: edits, and at most `n` dependencies. -/
structure Adds (state state' : RewriteState) (n : ℕ) (edits : List (Edit CodeUnit)) : Prop where
  replacements : state'.replacements = state.replacements ++ edits
  dependencies : state'.dependencies.length ≤ state.dependencies.length + n

theorem Adds.refl (state : RewriteState) : Adds state state 0 [] :=
  ⟨(List.append_nil _).symm, Nat.le_refl _⟩

theorem Adds.trans {s s' s'' : RewriteState} {m n : ℕ} {es es' : List (Edit CodeUnit)}
    (h : Adds s s' m es) (h' : Adds s' s'' n es') : Adds s s'' (m + n) (es ++ es') := by
  refine ⟨?_, ?_⟩
  · rw [h'.replacements, h.replacements, List.append_assoc]
  · have := h.dependencies
    have := h'.dependencies
    omega

variable {context : RewriteContext} {canonical : Bool} {state state' : RewriteState} {start stop : ℕ}

/-- **One attribute** is rewritten when its references pass the check and its rule can be read. -/
theorem rewriteAttribute_ok_iff :
    (∃ state', rewriteAttribute env context tagName canonical state name value start stop =
        .ok state') ↔
      isRestricted canonical tagName name = false ∧
        ∀ r ∈ referencesOf canonical tagName name value, isReferenceText r = true := by
  unfold rewriteAttribute isRestricted referencesOf
  simp only []
  by_cases hcanonical : (canonical && name == asciiUnits "href") = true
  · -- a canonical link is resolved but never looked up
    rw [if_pos hcanonical, if_pos hcanonical, hcanonical]
    simp only [bind_ok, pure_ok, resolveRewriteReference_ok, Bool.not_true, Bool.false_and,
      true_and, List.mem_singleton, forall_eq]
    constructor
    · rintro ⟨_, _, ⟨h, -⟩, -⟩
      exact h
    · exact fun h => ⟨_, _, ⟨h, rfl⟩, rfl⟩
  rw [if_neg hcanonical, if_neg hcanonical]
  cases hkind : resourceKindFor tagName name with
  | error e => simp [hcanonical, bind, Except.bind]
  | ok kind =>
    cases kind with
    | none => simp [ok_bind, pure_ok]
    | some kind =>
      simp only [ok_bind, Bool.and_false, true_and]
      by_cases hsrcset : name = asciiUnits "srcset"
      · simp only [if_pos hsrcset, List.forall_mem_map, bind_ok, pure_ok]
        constructor
        · rintro ⟨_, r, h, -⟩
          exact rewriteSrcset_ok_iff.1 ⟨r, h⟩
        · intro hrefs
          obtain ⟨r, h⟩ := rewriteSrcset_ok_iff.2 hrefs
          exact ⟨_, r, h, rfl⟩
      · simp only [if_neg hsrcset, List.mem_singleton, forall_eq, bind_ok, pure_ok,
          processReference_ok]
        constructor
        · rintro ⟨_, _, ⟨h, -⟩, -⟩
          exact h
        · exact fun h => ⟨_, _, ⟨h, rfl⟩, rfl⟩

/-- What one attribute adds: an edit of its value at most. -/
theorem rewriteAttribute_adds
    (h : rewriteAttribute env context tagName canonical state name value start stop = .ok state') :
    ∃ edits, Adds state state' (referencesOf canonical tagName name value).length edits ∧
      (edits = [] ∨ ∃ output, edits = [⟨start, stop, output⟩]) := by
  unfold rewriteAttribute at h
  unfold referencesOf
  simp only [] at h
  by_cases hcanonical : (canonical && name == asciiUnits "href") = true
  · rw [if_pos hcanonical] at h ⊢
    obtain ⟨resolved, -, h⟩ := bind_ok.1 h
    obtain rfl := pure_ok.1 h
    unfold RewriteState.addCanonical
    simp only []
    split
    · split
      · exact ⟨_, ⟨rfl, Nat.le_succ _⟩, Or.inr ⟨_, rfl⟩⟩
      · exact ⟨[], ⟨(List.append_nil _).symm, Nat.le_succ _⟩, Or.inl rfl⟩
    · exact ⟨[], ⟨(List.append_nil _).symm, Nat.le_succ _⟩, Or.inl rfl⟩
  rw [if_neg hcanonical] at h ⊢
  obtain ⟨kind, hkind, h⟩ := bind_ok.1 h
  rw [hkind]
  cases kind with
  | none =>
    obtain rfl := pure_ok.1 h
    exact ⟨[], .refl _, Or.inl rfl⟩
  | some kind =>
    simp only [] at h ⊢
    by_cases hsrcset : name = asciiUnits "srcset"
    · rw [if_pos hsrcset] at h ⊢
      obtain ⟨rewritten, hrewritten, h⟩ := bind_ok.1 h
      obtain rfl := pure_ok.1 h
      refine ⟨_, ⟨rfl, ?_⟩, Or.inr ⟨_, rfl⟩⟩
      rw [List.length_map]
      simp only [RewriteState.addSrcset, RewriteState.replace, List.length_append]
      exact Nat.add_le_add_left (rewriteSrcset_pushed hrewritten) _
    · rw [if_neg hsrcset] at h ⊢
      obtain ⟨processed, hprocessed, h⟩ := bind_ok.1 h
      obtain rfl := pure_ok.1 h
      obtain ⟨-, rfl⟩ := processReference_ok.1 hprocessed
      have hpushed := fun site => processResolved_pushed env context.mappings site value
        (resolveReferenceText env value context.baseInfo.base.url)
      unfold RewriteState.addProcessed
      simp only []
      split
      · refine ⟨_, ⟨rfl, ?_⟩, Or.inr ⟨_, rfl⟩⟩
        simp only [RewriteState.replace, List.length_append]
        exact Nat.add_le_add_left (hpushed _) _
      · refine ⟨[], ⟨(List.append_nil _).symm, ?_⟩, Or.inl rfl⟩
        simp only [List.length_append]
        exact Nat.add_le_add_left (hpushed _) _

/-! ### One tag -/

/-- The references of one attribute, which has none when it has no value. -/
def itemReferences (canonical : Bool) (tagName : Text) (item : HtmlAttribute) : List Text :=
  match item.value, item.valueStart, item.valueEnd with
  | some value, some _, some _ => referencesOf canonical tagName item.name value
  | _, _, _ => []

def isRestrictedItem (canonical : Bool) (tagName : Text) (item : HtmlAttribute) : Bool :=
  item.value.isSome && item.valueStart.isSome && item.valueEnd.isSome &&
    isRestricted canonical tagName item.name

/-- The name of a start tag whose attributes the loop looks at. -/
def rewrittenName (context : RewriteContext) (token : HtmlToken) : Option Text :=
  token.tagName.filter fun tagName =>
    !(token.isEndTag || !token.isStartTag) && !isRemovedBase context tagName token

/-- The references of one tag. -/
def tokenReferences (env : RewriteEnv) (context : RewriteContext) (token : HtmlToken) : List Text :=
  match rewrittenName context token with
  | none => []
  | some tagName =>
    token.attributes.flatMap
      (itemReferences (isCanonicalLink env tagName token.attributes) tagName)

def isRestrictedToken (env : RewriteEnv) (context : RewriteContext) (token : HtmlToken) : Bool :=
  match rewrittenName context token with
  | none => false
  | some tagName =>
    token.attributes.any (isRestrictedItem (isCanonicalLink env tagName token.attributes) tagName)

variable {item : HtmlAttribute} {attributes : List HtmlAttribute} {token : HtmlToken}
variable {tokens : List HtmlToken} {text : Text} {low high n : ℕ}

theorem rewriteItem_ok_iff (env : RewriteEnv) (context : RewriteContext) (tagName : Text)
    (canonical : Bool) (state : RewriteState) (item : HtmlAttribute) :
    (∃ state', rewriteItem env context tagName canonical state item = .ok state') ↔
      isRestrictedItem canonical tagName item = false ∧
        ∀ r ∈ itemReferences canonical tagName item, isReferenceText r = true := by
  unfold rewriteItem itemReferences isRestrictedItem
  cases item with
  | mk name value valueStart valueEnd quote =>
    cases value with
    | none => simp [pure_ok]
    | some value =>
      cases valueStart with
      | none => simp [pure_ok]
      | some start =>
        cases valueEnd with
        | none => simp [pure_ok]
        | some stop => simpa using rewriteAttribute_ok_iff

theorem rewriteItem_adds (h : rewriteItem env context tagName canonical state item = .ok state') :
    ∃ edits, Adds state state' (itemReferences canonical tagName item).length edits ∧
      (edits = [] ∨ ∃ start stop output, item.valueStart = some start ∧ item.valueEnd = some stop ∧
        edits = [⟨start, stop, output⟩]) := by
  unfold rewriteItem at h
  unfold itemReferences
  cases hvalue : item.value with
  | none =>
    rw [hvalue] at h
    obtain rfl := pure_ok.1 h
    exact ⟨[], ⟨(List.append_nil _).symm, Nat.le_add_right _ _⟩, Or.inl rfl⟩
  | some value =>
    cases hstart : item.valueStart with
    | none =>
      rw [hvalue, hstart] at h
      obtain rfl := pure_ok.1 h
      exact ⟨[], ⟨(List.append_nil _).symm, Nat.le_add_right _ _⟩, Or.inl rfl⟩
    | some start =>
      cases hstop : item.valueEnd with
      | none =>
        rw [hvalue, hstart, hstop] at h
        obtain rfl := pure_ok.1 h
        exact ⟨[], ⟨(List.append_nil _).symm, Nat.le_add_right _ _⟩, Or.inl rfl⟩
      | some stop =>
        rw [hvalue, hstart, hstop] at h
        obtain ⟨edits, hadds, hedits⟩ := rewriteAttribute_adds h
        refine ⟨edits, hadds, hedits.imp_right ?_⟩
        rintro ⟨output, rfl⟩
        exact ⟨start, stop, output, rfl, rfl, rfl⟩

/-- The edits of a list of attributes stand where their values stand. -/
structure EditsOf (attributes : List HtmlAttribute) (edits : List (Edit CodeUnit)) : Prop where
  ordered : edits.Pairwise fun a b => a.stop ≤ b.start ∧ a.start < b.start
  mem : ∀ e ∈ edits, ∃ item ∈ attributes, item.valueStart = some e.start ∧ item.valueEnd = some e.stop

theorem rewriteItems_add (hlocated : AttributesLocated text low high attributes)
    (h : attributes.foldlM (rewriteItem env context tagName canonical) state = .ok state') :
    ∃ edits, Adds state state' (attributes.flatMap (itemReferences canonical tagName)).length edits ∧
      EditsOf attributes edits := by
  induction attributes generalizing state with
  | nil =>
    obtain rfl := pure_ok.1 h
    exact ⟨[], .refl _, .nil, by simp⟩
  | cons item attributes ih =>
    obtain ⟨middle, hitem, hrest⟩ := bind_ok.1 h
    obtain ⟨hbefore, hordered⟩ := List.pairwise_cons.1 hlocated.ordered
    obtain ⟨es, hadds, hes⟩ := rewriteItem_adds hitem
    obtain ⟨es', hadds', hof⟩ :=
      ih ⟨fun x hx => hlocated.located x (List.mem_cons_of_mem _ hx), hordered⟩ hrest
    refine ⟨es ++ es', ?_, ?_, ?_⟩
    · rw [List.flatMap_cons, List.length_append]
      exact hadds.trans hadds'
    · refine List.pairwise_append.2 ⟨?_, hof.ordered, ?_⟩
      · rcases hes with rfl | ⟨start, stop, output, -, -, rfl⟩
        · exact .nil
        · exact List.pairwise_singleton _ _
      · -- the value of the first attribute ends before that of a later one begins
        intro a ha b hb
        rcases hes with rfl | ⟨start, stop, output, hstart, hstop, rfl⟩
        · cases ha
        obtain rfl := List.mem_singleton.1 ha
        obtain ⟨later, hlater, hfirst, -⟩ := hof.mem b hb
        have hlt := hbefore later hlater stop hstop b.start hfirst
        have hle : start ≤ stop := by
          have hlocated := hlocated.located item List.mem_cons_self
          cases hlocated with
          | bare => cases hstart
          | valued _ _ _ hle _ =>
            obtain rfl := Option.some.inj hstart
            obtain rfl := Option.some.inj hstop
            exact hle
        simp only []
        omega
    · intro e he
      rcases List.mem_append.1 he with he | he
      · rcases hes with rfl | ⟨start, stop, output, hstart, hstop, rfl⟩
        · cases he
        · obtain rfl := List.mem_singleton.1 he
          exact ⟨item, List.mem_cons_self, hstart, hstop⟩
      · obtain ⟨x, hx, hspan⟩ := hof.mem e he
        exact ⟨x, List.mem_cons_of_mem _ hx, hspan⟩

/-- **One tag** is rewritten when its references pass the check and its rules can be read. -/
theorem rewriteToken_ok_iff : (∃ state', rewriteToken env context state token = .ok state') ↔
    isRestrictedToken env context token = false ∧
      ∀ r ∈ tokenReferences env context token, isReferenceText r = true := by
  unfold rewriteToken isRestrictedToken tokenReferences rewrittenName
  cases htag : token.tagName with
  | none => simp [pure_ok]
  | some tagName =>
    by_cases hstart : (token.isEndTag || !token.isStartTag) = true
    · simp [hstart, Option.filter, pure_ok]
    by_cases hbase : isRemovedBase context tagName token = true
    · simp [hstart, hbase, Option.filter, pure_ok]
    simp only [hstart, hbase, Option.filter, Bool.not_false, Bool.and_self, if_true, if_false,
      Bool.false_eq_true]
    rw [foldlM_ok_iff (rewriteItem_ok_iff env context tagName
      (isCanonicalLink env tagName token.attributes))]
    simp only [List.any_eq_false, List.mem_flatMap, Bool.not_eq_true]
    constructor
    · intro h
      refine ⟨fun item hmem => (h item hmem).1, ?_⟩
      rintro r ⟨item, hmem, hr⟩
      exact (h item hmem).2 r hr
    · rintro ⟨hrestricted, hrefs⟩ item hmem
      exact ⟨hrestricted item hmem, fun r hr => hrefs r ⟨item, hmem, hr⟩⟩

/-- The edits of one tag: the whole tag, or values of its attributes. -/
structure EditsIn (token : HtmlToken) (edits : List (Edit CodeUnit)) : Prop where
  ordered : edits.Pairwise fun a b => a.stop ≤ b.start ∧ a.start < b.start
  range : ∀ e ∈ edits, token.start ≤ e.start ∧ e.start ≤ e.stop ∧ e.stop ≤ token.stop
  begins : ∀ e ∈ edits, e.start = token.start ∨
    ∃ item ∈ token.attributes, item.valueStart = some e.start

theorem rewriteToken_adds (hlocated : AttributesLocated text token.start token.stop token.attributes)
    (hlt : token.start < token.stop) (h : rewriteToken env context state token = .ok state') :
    ∃ edits, Adds state state' (tokenReferences env context token).length edits ∧
      EditsIn token edits := by
  have hnone : EditsIn token [] := ⟨.nil, by simp, by simp⟩
  unfold rewriteToken at h
  unfold tokenReferences rewrittenName
  cases htag : token.tagName with
  | none =>
    rw [htag] at h
    obtain rfl := pure_ok.1 h
    exact ⟨[], .refl _, hnone⟩
  | some tagName =>
    rw [htag] at h
    simp only [] at h
    by_cases hstart : (token.isEndTag || !token.isStartTag) = true
    · rw [if_pos hstart] at h
      obtain rfl := pure_ok.1 h
      exact ⟨[], by simp only [hstart, Option.filter]; exact .refl _, hnone⟩
    rw [if_neg hstart] at h
    by_cases hbase : isRemovedBase context tagName token = true
    · rw [if_pos hbase] at h
      obtain rfl := pure_ok.1 h
      refine ⟨[⟨token.start, token.stop, []⟩], ?_, List.pairwise_singleton _ _, ?_, ?_⟩
      · simp only [hstart, hbase, Option.filter]
        exact ⟨rfl, Nat.le_refl _⟩
      · intro e he
        obtain rfl := List.mem_singleton.1 he
        exact ⟨Nat.le_refl _, Nat.le_of_lt hlt, Nat.le_refl _⟩
      · intro e he
        obtain rfl := List.mem_singleton.1 he
        exact Or.inl rfl
    · rw [if_neg hbase] at h
      obtain ⟨edits, hadds, hof⟩ := rewriteItems_add hlocated h
      refine ⟨edits, ?_, hof.ordered, fun e he => ?_, fun e he => ?_⟩
      · simp only [hstart, hbase, Option.filter]
        exact hadds
      · obtain ⟨item, hmem, hfirst, hlast⟩ := hof.mem e he
        have hlocated := hlocated.located item hmem
        cases hlocated with
        | bare => cases hfirst
        | valued _ _ hlow hle hhigh =>
          obtain rfl := Option.some.inj hfirst
          obtain rfl := Option.some.inj hlast
          exact ⟨Nat.le_of_lt hlow, hle, hhigh⟩
      · obtain ⟨item, hmem, hfirst, -⟩ := hof.mem e he
        exact Or.inr ⟨item, hmem, hfirst⟩

/-! ### The loop over the tags -/

/-- **The loop** ends when the references of all tags pass the check and their rules can be read. -/
theorem rewriteTokens_ok_iff : (∃ state, rewriteTokens env context tokens = .ok state) ↔
    ∀ token ∈ tokens, isRestrictedToken env context token = false ∧
      ∀ r ∈ tokenReferences env context token, isReferenceText r = true :=
  foldlM_ok_iff fun _ _ => rewriteToken_ok_iff

/-- **What the loop adds**: edits that lie one behind the other, and a dependency for each
reference at most. -/
theorem rewriteTokens_add (hlocated : TokensLocated text low tokens)
    (hclosed : tokens.Pairwise fun a b => ∀ item ∈ a.attributes, ∀ i ∈ item.valueStart, i < b.start)
    (h : tokens.foldlM (rewriteToken env context) state = .ok state') :
    ∃ edits, Adds state state' (tokens.flatMap (tokenReferences env context)).length edits ∧
      Separate text.length edits ∧ ∀ e ∈ edits, ∃ token ∈ tokens, token.start ≤ e.start := by
  induction tokens generalizing state low with
  | nil =>
    obtain rfl := pure_ok.1 h
    exact ⟨[], .refl _, separate_nil, by simp⟩
  | cons token tokens ih =>
    obtain ⟨middle, htoken, hrest⟩ := bind_ok.1 h
    obtain ⟨hbehind, hordered⟩ := List.pairwise_cons.1 hlocated.ordered
    obtain ⟨hinside, hclosed⟩ := List.pairwise_cons.1 hclosed
    have hrange := hlocated.range token List.mem_cons_self
    obtain ⟨es, hadds, hin⟩ := rewriteToken_adds
      (hlocated.attributes token List.mem_cons_self) hrange.2.1 htoken
    obtain ⟨es', hadds', hseparate, hmem⟩ := ih
      ⟨fun x hx => hlocated.range x (List.mem_cons_of_mem _ hx), hordered,
        fun x hx => hlocated.attributes x (List.mem_cons_of_mem _ hx)⟩ hclosed hrest
    refine ⟨es ++ es', ?_, ⟨fun e he => ?_, List.pairwise_append.2 ⟨hin.ordered, hseparate.disjoint,
      fun a ha b hb => ?_⟩⟩, fun e he => ?_⟩
    · rw [List.flatMap_cons, List.length_append]
      exact hadds.trans hadds'
    · rcases List.mem_append.1 he with he | he
      · have := hin.range e he
        omega
      · exact hseparate.bounds e he
    · -- an edit of this tag and one of a later tag
      obtain ⟨later, hlater, hle⟩ := hmem b hb
      have hstop := hbehind later hlater
      have ha' := hin.range a ha
      refine ⟨by omega, ?_⟩
      rcases hin.begins a ha with hstart | ⟨item, hitem, hstart⟩
      · omega
      · have := hinside later hlater item hitem a.start hstart
        omega
    · rcases List.mem_append.1 he with he | he
      · exact ⟨token, List.mem_cons_self, (hin.range e he).1⟩
      · obtain ⟨x, hx, hle⟩ := hmem e he
        exact ⟨x, List.mem_cons_of_mem _ hx, hle⟩

end OfflineWebArchiver
