import Mathlib.Algebra.Order.BigOperators.Group.List
import OfflineWebArchiver.Archive.ProjectArchive

/-!
# Inspecting a truly reported archive

What `inspectZipArchive` says about an archive whose directory reports canonical paths
and true sizes.

* `Admitted`: what one entry must satisfy behind the entries before it.
* `inspectEntry_iff`, `inspectEntries_iff`: **the loop accepts exactly the entries that
  are admitted one after the other.**
* `inspectZipArchive_iff`: **the archive is accepted exactly when it keeps to the limits, its
  entries are admitted, and it needs no ZIP64 fields.**
-/

namespace OfflineWebArchiver.ProjectArchive

open Checks (bind_ok failIf_bind_ok failIf_ok)
open Zip (Bytes CentralHeader Listing)

/-- The UTF-8 encoding of a name. -/
def encodeUtf8 (s : JsString) : Bytes := s.flatMap String.utf8EncodeChar

theorem encodeUtf8_length (s : JsString) : (encodeUtf8 s).length = utf8Length s := by
  induction s with
  | nil => rfl
  | cons c s ih => simp [encodeUtf8, utf8Length] at ih ⊢

theorem mk_encodeUtf8 (s : JsString) : ByteArray.mk (encodeUtf8 s).toArray = s.utf8Encode := by
  unfold encodeUtf8 List.utf8Encode
  apply ByteArray.ext
  simp

/-- A name in UTF-8 is decoded as it was. -/
theorem decodeFatal_encode {s : JsString} (h : ∀ c ∈ s.head?, c.toNat ≠ 0xfeff) :
    decodeFatal (encodeUtf8 s) = some s := by
  unfold decodeFatal
  rw [mk_encodeUtf8, List.utf8Decode?_utf8Encode, Option.map_some]
  cases s with
  | nil => rfl
  | cons c s => simp [h c rfl]

/-- A canonical path without a byte order mark in front. -/
structure Portable (u : Unicode) (name : JsString) : Prop where
  canonical : Canonical u name
  noMark : ∀ c ∈ name.head?, c.toNat ≠ 0xfeff

variable {u : Unicode} {limits : ArchiveLimits} {name : JsString} {s s' : Inspection} {h : CentralHeader}

theorem safeArchiveName_ok (hc : Canonical u name) : safeArchiveName u name = .ok name := by
  have hok : normalizeArchiveEntry u name = .ok name := by
    have hvalid : (validateCanonicalRelativePath u name).valid = true := hc
    simp only [normalizeArchiveEntry, hvalid, if_true]
    exact canonicalRelativePath_ok.2 ⟨hc, rfl⟩
  rw [safeArchiveName, hok]

theorem portablePathCollisionKey_ok (hc : Canonical u name) :
    portablePathCollisionKey u name = .ok (u.lower name) := by
  have hkey : canonicalPathCollisionKey u name = .ok (u.lower name) := by
    unfold canonicalPathCollisionKey validateCanonicalRelativePath
    rw [canonical_iff.1 hc]
    simp only [hc.nfc]
  rw [portablePathCollisionKey, hkey]

theorem Portable.utf8Length_pos (hp : Portable u name) : 0 < utf8Length name := by
  obtain ⟨c, rest, rfl⟩ := List.exists_cons_of_ne_nil hp.canonical.ne_nil
  have hc : 0 < c.utf8Size := Char.utf8Size_pos c
  simp only [utf8Length, List.map_cons, List.sum_cons]
  omega

theorem Portable.not_slash (hp : Portable u name) : ¬name.getLast? = some '/' := by
  intro hlast
  obtain ⟨front, rfl⟩ := List.getLast?_eq_some_iff.1 hlast
  exact hp.canonical.not_concat_slash

/-! ### One entry -/

/-- The entry may follow the ones in hand. -/
structure Admitted (u : Unicode) (limits : ArchiveLimits) (s : Inspection) (name : JsString)
    (h : CentralHeader) : Prop where
  fresh : name ∉ s.names
  freshKey : u.lower name ∉ s.collisionKeys
  single : h.expandedSize ≤ limits.maximumSingleEntryBytes
  ratio : compressionRatio h.expandedSize h.compressedSize ≤ limits.maximumCompressionRatio
  total : s.expandedBytes + h.expandedSize ≤ limits.maximumExpandedBytes

/-- The state behind an entry. -/
def Inspection.next (u : Unicode) (s : Inspection) (name : JsString) (h : CentralHeader) : Inspection where
  cursor := s.cursor + h.bytes.length
  expandedBytes := s.expandedBytes + h.expandedSize
  names := s.names ++ [name]
  collisionKeys := s.collisionKeys ++ [u.lower name]
  entries := s.entries ++
    [{ name, compressedSize := h.compressedSize, expandedSize := h.expandedSize, crc32 := h.crc32 }]

/-- A plain header of a portable name is accepted exactly when its entry is admitted. -/
theorem inspectEntry_iff (hplain : h.Plain) (hname : h.name = encodeUtf8 name) (hp : Portable u name)
    (front rest : Bytes) (hs : s.cursor = front.length) :
    inspectEntry u limits (front ++ (h.bytes ++ rest)) s = .ok s' ↔
      Admitted u limits s name h ∧ s' = s.next u name h := by
  have hread : ∀ {i w n : ℕ}, h.fields[i]? = some (w, n) →
      Zip.read (front ++ (h.bytes ++ rest)) w (s.cursor + Zip.offset h.fields i) = n := by
    intro i w n hi
    rw [hs]
    exact h.read_bytes hplain.fits hi front rest
  have hsig : readUInt32 (front ++ (h.bytes ++ rest)) s.cursor = 0x02014b50 := hread (i := 0) rfl
  have hmade : readUInt16 (front ++ (h.bytes ++ rest)) (s.cursor + 4) = h.versionMadeBy := hread (i := 1) rfl
  have hflags : readUInt16 (front ++ (h.bytes ++ rest)) (s.cursor + 8) = h.flags := hread (i := 3) rfl
  have hmethod : readUInt16 (front ++ (h.bytes ++ rest)) (s.cursor + 10) = h.method := hread (i := 4) rfl
  have hcrc : readUInt32 (front ++ (h.bytes ++ rest)) (s.cursor + 16) = h.crc32 := hread (i := 6) rfl
  have hpacked : readUInt32 (front ++ (h.bytes ++ rest)) (s.cursor + 20) = h.compressedSize := hread (i := 7) rfl
  have hsize : readUInt32 (front ++ (h.bytes ++ rest)) (s.cursor + 24) = h.expandedSize := hread (i := 8) rfl
  have hlength : readUInt16 (front ++ (h.bytes ++ rest)) (s.cursor + 28) = h.name.length := hread (i := 9) rfl
  have hextra : readUInt16 (front ++ (h.bytes ++ rest)) (s.cursor + 30) = h.extra.length := hread (i := 10) rfl
  have hcomment : readUInt16 (front ++ (h.bytes ++ rest)) (s.cursor + 32) = h.comment.length := hread (i := 11) rfl
  have hdisk : readUInt16 (front ++ (h.bytes ++ rest)) (s.cursor + 34) = h.diskStart := hread (i := 12) rfl
  have hslice := h.name_slice front rest
  have hlen := h.bytes_length
  have htotal : (front ++ (h.bytes ++ rest)).length = s.cursor + (h.bytes.length + rest.length) := by
    rw [List.length_append, List.length_append, hs]
  have hnonempty : h.name.length ≠ 0 := by
    rw [hname, encodeUtf8_length]
    exact Nat.pos_iff_ne_zero.1 hp.utf8Length_pos
  have hdecode : decodeEntryName h.name (h.flags.testBit 11) = .ok name := by
    have hflag : ¬(h.flags.testBit 11 = false ∧ h.name.any (fun value => decide (0x7f < value)) = true) := by
      rintro ⟨hno, hany⟩
      rw [hplain.utf8 hany] at hno
      cases hno
    rw [decodeEntryName, if_neg hflag, hname, decodeFatal_encode hp.noMark]
  have hhost : ¬h.versionMadeBy / 0x100 = 3 := by
    have := hplain.host
    omega
  have hmethod' : ¬(h.method ≠ 0 ∧ h.method ≠ 8) := by
    rcases hplain.method with hm | hm <;> simp [hm]
  rw [← hs] at hslice
  generalize front ++ (h.bytes ++ rest) = data at *
  simp only [inspectEntry, hsig, hmade, hflags, hmethod, hcrc, hpacked, hsize, hlength, hextra, hcomment,
    hdisk, hslice, hdecode, hplain.notEncrypted, hplain.diskStart, safeArchiveName_ok hp.canonical,
    portablePathCollisionKey_ok hp.canonical, Checks.ok_bind, failIf_bind_ok, Checks.pure_ok]
  constructor
  · rintro ⟨-, -, -, -, -, -, -, hfresh, hsingle, hratio, htot, rfl⟩
    rw [not_or] at hfresh
    refine ⟨⟨hfresh.1, hfresh.2, not_lt.1 hsingle, not_lt.1 hratio, not_lt.1 htot⟩, ?_⟩
    have hcursor : s.cursor + 46 + h.name.length + h.extra.length + h.comment.length =
        s.cursor + h.bytes.length := by omega
    rw [hcursor]
    rfl
  · rintro ⟨hadm, rfl⟩
    have hcursor : s.cursor + 46 + h.name.length + h.extra.length + h.comment.length =
        s.cursor + h.bytes.length := by omega
    refine ⟨by omega, by omega, by simp, hmethod', by simp, hp.not_slash, fun hc => hhost hc.1,
      not_or.2 ⟨hadm.fresh, hadm.freshKey⟩, not_lt.2 hadm.single, not_lt.2 hadm.ratio,
      not_lt.2 hadm.total, ?_⟩
    rw [hcursor]
    rfl

/-! ### The loop -/

/-- The entries are admitted one after the other. -/
def AdmittedAll (u : Unicode) (limits : ArchiveLimits) : Inspection → List (JsString × CentralHeader) → Prop
  | _, [] => True
  | s, p :: ps => Admitted u limits s p.1 p.2 ∧ AdmittedAll u limits (s.next u p.1 p.2) ps

/-- The state behind all of them. -/
def Inspection.after (u : Unicode) (s : Inspection) (ps : List (JsString × CentralHeader)) : Inspection :=
  ps.foldl (fun s p => s.next u p.1 p.2) s

/-- The headers of portable names. -/
structure Reported (u : Unicode) (p : JsString × CentralHeader) : Prop where
  plain : p.2.Plain
  name : p.2.name = encodeUtf8 p.1
  portable : Portable u p.1

variable {ps : List (JsString × CentralHeader)}

/-- **The loop accepts exactly the entries that are admitted one after the other.** -/
theorem inspectEntries_iff (hps : ∀ p ∈ ps, Reported u p) (front rest : Bytes) (hs : s.cursor = front.length) :
    inspectEntries u limits (front ++ (Zip.directory (ps.map Prod.snd) ++ rest)) ps.length s = .ok s' ↔
      AdmittedAll u limits s ps ∧ s' = s.after u ps := by
  induction ps generalizing s front with
  | nil =>
    rw [List.length_nil, inspectEntries]
    exact ⟨fun h => ⟨trivial, (Except.ok.inj h).symm⟩, fun h => congrArg _ h.2.symm⟩
  | cons p ps ih =>
    have hp := hps p List.mem_cons_self
    have hdir : Zip.directory ((p :: ps).map Prod.snd) ++ rest =
        p.2.bytes ++ (Zip.directory (ps.map Prod.snd) ++ rest) := by
      rw [Zip.directory, List.map_cons, List.flatMap_cons, List.append_assoc]
      rfl
    have hfront : front ++ (p.2.bytes ++ (Zip.directory (ps.map Prod.snd) ++ rest)) =
        (front ++ p.2.bytes) ++ (Zip.directory (ps.map Prod.snd) ++ rest) := (List.append_assoc _ _ _).symm
    rw [List.length_cons, inspectEntries, hdir, bind_ok]
    constructor
    · rintro ⟨s₁, h₁, h₂⟩
      obtain ⟨hadm, rfl⟩ := (inspectEntry_iff hp.plain hp.name hp.portable front _ hs).1 h₁
      rw [hfront] at h₂
      have hcursor : (s.next u p.1 p.2).cursor = (front ++ p.2.bytes).length := by
        rw [List.length_append, ← hs]; rfl
      obtain ⟨hall, rfl⟩ := (ih (fun q hq => hps q (List.mem_cons_of_mem _ hq)) _ hcursor).1 h₂
      exact ⟨⟨hadm, hall⟩, rfl⟩
    · rintro ⟨⟨hadm, hall⟩, rfl⟩
      refine ⟨s.next u p.1 p.2, (inspectEntry_iff hp.plain hp.name hp.portable front _ hs).2 ⟨hadm, rfl⟩, ?_⟩
      rw [hfront]
      have hcursor : (s.next u p.1 p.2).cursor = (front ++ p.2.bytes).length := by
        rw [List.length_append, ← hs]; rfl
      exact (ih (fun q hq => hps q (List.mem_cons_of_mem _ hq)) _ hcursor).2 ⟨hall, rfl⟩

theorem after_cursor (s : Inspection) :
    (s.after u ps).cursor = s.cursor + (Zip.directory (ps.map Prod.snd)).length := by
  induction ps generalizing s with
  | nil => rfl
  | cons p ps ih =>
    have hdir : (Zip.directory ((p :: ps).map Prod.snd)).length =
        p.2.bytes.length + (Zip.directory (ps.map Prod.snd)).length := by
      rw [Zip.directory, List.map_cons, List.flatMap_cons, List.length_append]
      rfl
    have hafter : s.after u (p :: ps) = (s.next u p.1 p.2).after u ps := rfl
    rw [hafter, ih, hdir, ← Nat.add_assoc]
    rfl

/-- Every round of the loop adds an entry. -/
theorem inspectEntries_length {data : Bytes} {count : ℕ} (h : inspectEntries u limits data count s = .ok s') :
    s'.entries.length = s.entries.length + count := by
  induction count generalizing s with
  | zero => rw [Except.ok.inj h]; rfl
  | succ count ih =>
    obtain ⟨s₁, h₁, h₂⟩ := bind_ok.1 h
    have hone : s₁.entries.length = s.entries.length + 1 := by
      simp only [inspectEntry, bind_ok, Checks.pure_ok] at h₁
      obtain ⟨_, -, _, -, _, -, _, -, _, -, _, -, _, -, _, -, _, -, _, -, _, -, _, -, _, -, _, -, rfl⟩ := h₁
      rw [List.length_append]; rfl
    rw [ih h₂, hone]
    omega

/-- **What being admitted one after the other comes to.** -/
theorem admittedAll_iff (hkeys : s.collisionKeys = s.names.map u.lower) (hnodup : s.collisionKeys.Nodup)
    (htotal : s.expandedBytes ≤ limits.maximumExpandedBytes) :
    AdmittedAll u limits s ps ↔
      (s.collisionKeys ++ ps.map fun p => u.lower p.1).Nodup ∧
      (∀ p ∈ ps, p.2.expandedSize ≤ limits.maximumSingleEntryBytes) ∧
      (∀ p ∈ ps, compressionRatio p.2.expandedSize p.2.compressedSize ≤ limits.maximumCompressionRatio) ∧
      s.expandedBytes + (ps.map fun p => p.2.expandedSize).sum ≤ limits.maximumExpandedBytes := by
  induction ps generalizing s with
  | nil => simpa [AdmittedAll] using ⟨hnodup, htotal⟩
  | cons p ps ih =>
    have hsplit : s.collisionKeys ++ (p :: ps).map (fun p => u.lower p.1) =
        (s.collisionKeys ++ [u.lower p.1]) ++ ps.map fun p => u.lower p.1 := by simp
    have hkeys' : (s.next u p.1 p.2).collisionKeys = (s.next u p.1 p.2).names.map u.lower := by
      simp [Inspection.next, hkeys]
    have hsum : ((p :: ps).map fun p => p.2.expandedSize).sum =
        p.2.expandedSize + (ps.map fun p => p.2.expandedSize).sum := rfl
    rw [AdmittedAll, hsplit, List.forall_mem_cons, List.forall_mem_cons, hsum]
    constructor
    · rintro ⟨hadm, hall⟩
      have hnodup' : (s.next u p.1 p.2).collisionKeys.Nodup :=
        List.nodup_append.2 ⟨hnodup, List.nodup_singleton _, fun a ha b hb hab =>
          hadm.freshKey (by rw [← List.mem_singleton.1 hb, ← hab]; exact ha)⟩
      obtain ⟨hn, hs, hr, ht⟩ := (ih hkeys' hnodup' hadm.total).1 hall
      refine ⟨hn, ⟨hadm.single, hs⟩, ⟨hadm.ratio, hr⟩, ?_⟩
      simp only [Inspection.next] at ht
      omega
    · rintro ⟨hn, ⟨hsingle, hs⟩, ⟨hratio, hr⟩, ht⟩
      have hnodup' : (s.next u p.1 p.2).collisionKeys.Nodup := (List.nodup_append.1 hn).1
      have hkey : u.lower p.1 ∉ s.collisionKeys := fun hmem =>
        (List.nodup_append.1 hnodup').2.2 _ hmem _ (List.mem_singleton_self _) rfl
      have hname : p.1 ∉ s.names := fun hmem => hkey (by rw [hkeys]; exact List.mem_map_of_mem hmem)
      have htotal' : (s.next u p.1 p.2).expandedBytes ≤ limits.maximumExpandedBytes := by
        simp only [Inspection.next]; omega
      refine ⟨⟨hname, hkey, hsingle, hratio, htotal'⟩, (ih hkeys' hnodup' htotal').2 ⟨hn, hs, hr, ?_⟩⟩
      simp only [Inspection.next]
      omega

/-! ### The archive -/

/-- What the archive should report: the names, the packed sizes and the sizes. -/
def listing (env : Env) (entries : Files) : List Listing :=
  entries.map fun e => (encodeUtf8 e.1, env.deflatedSize e.2, e.2.length)

/-- Entries that are reported, with their headers. -/
theorem exists_headers {env : Env} {entries : Files} {headers : List CentralHeader}
    (h : headers.map (fun h => (h.name, h.compressedSize, h.expandedSize)) = listing env entries) :
    ∃ ps : List (JsString × CentralHeader), ps.map Prod.snd = headers ∧
      (ps.map fun p => (p.1, p.2.compressedSize, p.2.expandedSize)) =
        (entries.map fun e => (e.1, env.deflatedSize e.2, e.2.length)) ∧
      ∀ p ∈ ps, p.2.name = encodeUtf8 p.1 := by
  induction entries generalizing headers with
  | nil =>
    obtain rfl : headers = [] := by simpa [listing] using h
    exact ⟨[], rfl, rfl, fun p hp => by cases hp⟩
  | cons e entries ih =>
    cases headers with
    | nil => simp [listing] at h
    | cons hd headers =>
      simp only [listing, List.map_cons, List.cons.injEq, Prod.mk.injEq] at h
      obtain ⟨⟨hname, hpacked, hsize⟩, htail⟩ := h
      obtain ⟨ps, hps, hlist, hnames⟩ := ih htail
      refine ⟨(e.1, hd) :: ps, by rw [List.map_cons, hps], ?_, ?_⟩
      · rw [List.map_cons, List.map_cons, hlist, hpacked, hsize]
      · exact List.forall_mem_cons.2 ⟨hname, hnames⟩

theorem searchEnd_here {data : Bytes} {minimum index : ℕ} (hmin : minimum ≤ index)
    (hsig : readUInt32 data index = 0x06054b50) : searchEnd data minimum index = some index := by
  cases index with
  | zero => rw [searchEnd, if_neg (by omega), if_pos hsig]
  | succ index => rw [searchEnd, if_neg (by omega), if_pos hsig]

/-- The end record of an archive without a comment is found at once. -/
theorem findEnd_container (body : Bytes) (headers : List CentralHeader) :
    findEndOfCentralDirectory (Zip.container body headers) =
      .ok (body.length + (Zip.directory headers).length) := by
  have hlen := Zip.container_length body headers
  have hend : (Zip.container body headers).length - 22 = body.length + (Zip.directory headers).length := by
    omega
  have hsig : readUInt32 (Zip.container body headers) (body.length + (Zip.directory headers).length) =
      0x06054b50 := Zip.read_end (i := 0) rfl
  unfold findEndOfCentralDirectory
  rw [if_neg (by omega), hend, searchEnd_here (by omega) hsig]

/-- What the rules ask of the entries of an archive. -/
structure Acceptable (env : Env) (limits : ArchiveLimits) (entries : Files) (size : ℕ) : Prop where
  bytes : size ≤ limits.maximumArchiveBytes
  nonempty : entries ≠ []
  count : entries.length ≤ limits.maximumEntries
  single : ∀ e ∈ entries, e.2.length ≤ limits.maximumSingleEntryBytes
  total : (entries.map fun e => e.2.length).sum ≤ limits.maximumExpandedBytes
  ratio : ∀ e ∈ entries,
    compressionRatio e.2.length (env.deflatedSize e.2) ≤ limits.maximumCompressionRatio
  keys : (entries.map fun e => env.unicode.lower e.1).Nodup
  countZip64 : entries.length ≠ 0xffff
  offsetZip64 : Zip.bodyLength (listing env entries) ≠ 0xffffffff

variable {env : Env} {entries : Files} {data : Bytes} {r : InspectedArchive}

/-- The number of entries is the one that the archive reports. -/
theorem inspectZipArchive_length (hd : Zip.Describes data (listing env entries))
    (h : inspectZipArchive u limits data = .ok r) : r.entries.length = entries.length % 2 ^ 16 := by
  obtain ⟨⟨body, headers, rfl, -, -, hmap⟩, -⟩ := hd
  have hcount : readUInt16 (Zip.container body headers) (body.length + (Zip.directory headers).length + 10) =
      headers.length % 2 ^ 16 := Zip.read_end (i := 4) rfl
  have hlen : headers.length = entries.length := by
    have := congrArg List.length hmap
    simpa [listing] using this
  simp only [inspectZipArchive, findEnd_container, Checks.ok_bind, hcount, bind_ok, Checks.pure_ok] at h
  obtain ⟨_, -, _, -, _, -, _, -, _, -, s, hs, _, -, rfl⟩ := h
  rw [← hlen, ← Nat.zero_add (headers.length % 2 ^ 16)]
  exact inspectEntries_length hs

theorem sum_names_le {ps : List (JsString × CentralHeader)} (hps : ∀ p ∈ ps, Reported u p) :
    (ps.map fun p => 46 + p.2.name.length).sum ≤ ps.length * 1070 := by
  have hone : ∀ n ∈ ps.map (fun p => 46 + p.2.name.length), n ≤ 1070 := by
    intro n hn
    obtain ⟨p, hp, rfl⟩ := List.mem_map.1 hn
    have hbytes : utf8Length p.1 ≤ maximumPathBytes :=
      (pathProblem_eq_none.1 (canonical_iff.1 (hps p hp).portable.canonical)).2.1.2
    have h1024 : maximumPathBytes = 1024 := rfl
    rw [(hps p hp).name, encodeUtf8_length]
    omega
  have hsum := List.sum_le_card_nsmul _ _ hone
  rwa [List.length_map] at hsum

/-- The state before the first entry. -/
def Inspection.start (cursor : ℕ) : Inspection :=
  { cursor, expandedBytes := 0, names := [], collisionKeys := [], entries := [] }

/-- The checks around the loop, for a container whose end record is true. -/
theorem inspectZipArchive_container (hps : ∀ p ∈ ps, Reported u p) (hcount : ps.length < 2 ^ 16) {body : Bytes}
    (hbody : body.length < 2 ^ 32) :
    (∃ r, inspectZipArchive u limits (Zip.container body (ps.map Prod.snd)) = .ok r) ↔
      (Zip.container body (ps.map Prod.snd)).length ≤ limits.maximumArchiveBytes ∧
      (ps.length ≠ 0xffff ∧ body.length ≠ 0xffffffff) ∧ (ps ≠ [] ∧ ps.length ≤ limits.maximumEntries) ∧
      AdmittedAll u limits (.start body.length) ps := by
  have hcard : (ps.map Prod.snd).length = ps.length := List.length_map _
  have hplain : ∀ h ∈ ps.map Prod.snd, h.Plain := by
    intro h hh
    obtain ⟨p, hp, rfl⟩ := List.mem_map.1 hh
    exact (hps p hp).plain
  have hdir : (Zip.directory (ps.map Prod.snd)).length ≤ ps.length * 1070 := by
    rw [Zip.directory_length hplain, List.map_map]
    exact sum_names_le hps
  have hloop := fun s' => @inspectEntries_iff u limits (.start body.length) s' ps hps body
    (Zip.record (Zip.endFields (ps.map Prod.snd).length (Zip.directory (ps.map Prod.snd)).length
      body.length)) rfl
  have hfind := findEnd_container body (ps.map Prod.snd)
  have hlength := Zip.container_length body (ps.map Prod.snd)
  have hread : ∀ {i w n : ℕ}, (Zip.endFields (ps.map Prod.snd).length (Zip.directory (ps.map Prod.snd)).length
      body.length)[i]? = some (w, n) → n < 256 ^ w →
      Zip.read (Zip.container body (ps.map Prod.snd)) w (body.length + (Zip.directory (ps.map Prod.snd)).length +
        Zip.offset (Zip.endFields (ps.map Prod.snd).length (Zip.directory (ps.map Prod.snd)).length
          body.length) i) = n := by
    intro i w n hi hn
    rw [Zip.read_end hi, Nat.mod_eq_of_lt hn]
  have hafter := @after_cursor u ps (.start body.length)
  have hdata : body ++ (Zip.directory (ps.map Prod.snd) ++ Zip.record (Zip.endFields (ps.map Prod.snd).length
      (Zip.directory (ps.map Prod.snd)).length body.length)) = Zip.container body (ps.map Prod.snd) := rfl
  rw [hdata] at hloop
  generalize Zip.container body (ps.map Prod.snd) = data at *
  generalize (Zip.directory (ps.map Prod.snd)).length = size at *
  have hdisk : readUInt16 data (body.length + size + 4) = 0 := hread (i := 1) rfl (by omega)
  have hcentral : readUInt16 data (body.length + size + 6) = 0 := hread (i := 2) rfl (by omega)
  have hentries : readUInt16 data (body.length + size + 10) = ps.length := by
    rw [← hcard]
    exact hread (i := 4) rfl (by omega)
  have hsize : readUInt32 data (body.length + size + 12) = size := hread (i := 5) rfl (by omega)
  have hoffset : readUInt32 data (body.length + size + 16) = body.length := hread (i := 6) rfl (by omega)
  simp only [inspectZipArchive, hfind, Checks.ok_bind, hdisk, hcentral, hentries, hsize, hoffset, bind_ok]
  constructor
  · rintro ⟨r, _, hbytes, _, -, _, hzip64, _, hentries', _, -, s, hs, -⟩
    have hzip := failIf_ok.1 hzip64
    have hrange := failIf_ok.1 hentries'
    rw [not_or, not_or] at hzip
    rw [not_or, not_lt] at hrange
    refine ⟨not_lt.1 (failIf_ok.1 hbytes), ⟨hzip.1, hzip.2.2⟩, ⟨?_, hrange.2⟩, ((hloop s).1 hs).1⟩
    rintro rfl
    exact hrange.1 rfl
  · rintro ⟨hbytes, ⟨hmax, hoff⟩, ⟨hne, hle⟩, hadm⟩
    have hpos : ps.length ≠ 0 := fun h0 => hne (List.length_eq_zero_iff.1 h0)
    refine ⟨_, (), failIf_ok.2 (not_lt.2 hbytes), (), failIf_ok.2 (by simp), (),
      failIf_ok.2 (not_or.2 ⟨hmax, not_or.2 ⟨by omega, hoff⟩⟩), (),
      failIf_ok.2 (not_or.2 ⟨hpos, not_lt.2 hle⟩), (), failIf_ok.2 (by omega),
      Inspection.after u (.start body.length) ps, (hloop _).2 ⟨hadm, rfl⟩, (),
      failIf_ok.2 (not_not.2 hafter), rfl⟩

variable (limits) in
/-- **The archive is accepted exactly when it is acceptable.** -/
theorem inspectZipArchive_iff (hd : Zip.Describes data (listing env entries))
    (hp : ∀ e ∈ entries, Portable env.unicode e.1) (hsmall : entries.length < 2 ^ 16) :
    (∃ r, inspectZipArchive env.unicode limits data = .ok r) ↔ Acceptable env limits entries data.length := by
  obtain ⟨⟨body, headers, rfl, hbody, hplain, hmap⟩, hoff⟩ := hd
  obtain ⟨ps, rfl, hlist, hnames⟩ := exists_headers hmap
  have hlen : ps.length = entries.length := by
    have := congrArg List.length hlist
    simpa using this
  have hportable : ∀ p ∈ ps, Portable env.unicode p.1 := by
    intro p hmem
    have hin : (p.1, p.2.compressedSize, p.2.expandedSize) ∈
        entries.map fun e => (e.1, env.deflatedSize e.2, e.2.length) := by
      rw [← hlist]
      exact List.mem_map_of_mem (f := fun p : JsString × CentralHeader =>
        (p.1, p.2.compressedSize, p.2.expandedSize)) hmem
    obtain ⟨e, he, heq⟩ := List.mem_map.1 hin
    rw [← (Prod.mk.inj heq).1]
    exact hp e he
  have hps : ∀ p ∈ ps, Reported env.unicode p := fun p hmem =>
    ⟨hplain p.2 (List.mem_map_of_mem hmem), hnames p hmem, hportable p hmem⟩
  rw [inspectZipArchive_container hps (by rw [hlen]; exact hsmall) (by rw [hbody]; exact hoff),
    admittedAll_iff (s := .start body.length) rfl List.nodup_nil (Nat.zero_le _)]
  have hmap' : ∀ {β : Type} (f : JsString × ℕ × ℕ → β),
      ps.map (fun p => f (p.1, p.2.compressedSize, p.2.expandedSize)) =
        entries.map fun e => f (e.1, env.deflatedSize e.2, e.2.length) := by
    intro β f
    have := congrArg (List.map f) hlist
    simpa only [List.map_map, Function.comp_def] using this
  have hkeys := hmap' fun x => env.unicode.lower x.1
  have hsizes := hmap' fun x => x.2.2
  have hforall : ∀ P : ℕ → ℕ → Prop, (∀ p ∈ ps, P p.2.expandedSize p.2.compressedSize) ↔
      ∀ e ∈ entries, P e.2.length (env.deflatedSize e.2) := by
    intro P
    have hlists := hmap' fun x => P x.2.2 x.2.1
    have hl := List.forall_mem_map (l := ps) (f := fun p => P p.2.expandedSize p.2.compressedSize) (P := id)
    have hr := List.forall_mem_map (l := entries) (f := fun e => P e.2.length (env.deflatedSize e.2)) (P := id)
    rw [hlists] at hl
    exact hl.symm.trans hr
  have hnil : ps ≠ [] ↔ entries ≠ [] := by
    rw [← List.length_pos_iff, ← List.length_pos_iff, hlen]
  have hcollision : (Inspection.start body.length).collisionKeys = [] := rfl
  have hexpanded : (Inspection.start body.length).expandedBytes = 0 := rfl
  rw [hforall fun size _ => size ≤ limits.maximumSingleEntryBytes,
    hforall fun size packed => compressionRatio size packed ≤ limits.maximumCompressionRatio,
    hcollision, hexpanded, List.nil_append, Nat.zero_add, hkeys, hsizes, hnil, hlen, hbody]
  constructor
  · rintro ⟨hbytes, ⟨hcount, hoffset⟩, ⟨hne, hle⟩, hkeys, hsingle, hratio, htotal⟩
    exact ⟨hbytes, hne, hle, hsingle, htotal, hratio, hkeys, hcount, hoffset⟩
  · intro h
    exact ⟨h.bytes, ⟨h.countZip64, h.offsetZip64⟩, ⟨h.nonempty, h.count⟩, h.keys, h.single, h.ratio, h.total⟩

end OfflineWebArchiver.ProjectArchive
