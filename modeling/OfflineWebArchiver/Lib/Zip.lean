import Mathlib.Data.List.Basic
import Mathlib.Tactic.Ring

/-!
# ZIP containers

A ZIP archive is a body with the packed entries, a central directory with one header
for each entry, and an end record that says where the directory is. Numbers are
little-endian. Only archives without ZIP64 fields and without an archive comment are
described.

* `read`, `encode`: a number in the bytes at an offset.
* `read_field`: **a field of a record is read back at its offset.**
* `container`: the bytes of an archive with the given headers.
* `Describes`: the archive reports the names, the true sizes and the places of the entries.
-/

namespace Zip

/-- The bytes of a file. -/
abbrev Bytes := List UInt8

/-- The `w` low bytes of `n`, the lowest first. -/
def encode : ℕ → ℕ → Bytes
  | 0, _ => []
  | w + 1, n => UInt8.ofNat n :: encode w (n / 256)

/-- The number in the `w` bytes from `offset` on. Bytes past the end read as zero. -/
def read (data : Bytes) : ℕ → ℕ → ℕ
  | 0, _ => 0
  | w + 1, offset => (data.getD offset 0).toNat + 256 * read data w (offset + 1)

/-- Fields of the given widths and values, one after the other. -/
def record (fields : List (ℕ × ℕ)) : Bytes := fields.flatMap fun f => encode f.1 f.2

/-- Where the `i`-th field begins. -/
def offset (fields : List (ℕ × ℕ)) (i : ℕ) : ℕ := ((fields.take i).map Prod.fst).sum

@[simp] theorem encode_length (w n : ℕ) : (encode w n).length = w := by
  induction w generalizing n with
  | zero => rfl
  | succ w ih => simp [encode, ih]

theorem record_length (fields : List (ℕ × ℕ)) : (record fields).length = (fields.map Prod.fst).sum := by
  induction fields with
  | nil => rfl
  | cons f fields ih =>
    have h : record (f :: fields) = encode f.1 f.2 ++ record fields := rfl
    rw [h, List.length_append, encode_length, ih, List.map_cons, List.sum_cons]

/-- Reading behind a prefix. -/
theorem read_append (front rest : Bytes) (w k : ℕ) :
    read (front ++ rest) w (front.length + k) = read rest w k := by
  induction w generalizing k with
  | zero => rfl
  | succ w ih =>
    have hget : (front ++ rest).getD (front.length + k) 0 = rest.getD k 0 := by
      rw [List.getD_eq_getElem?_getD, List.getD_eq_getElem?_getD,
        List.getElem?_append_right (Nat.le_add_right _ _), Nat.add_sub_cancel_left]
    rw [read, read, hget, Nat.add_assoc, ih]

/-- Only the low bytes of a number are kept. -/
theorem read_encode (w n : ℕ) (rest : Bytes) : read (encode w n ++ rest) w 0 = n % 256 ^ w := by
  induction w generalizing n with
  | zero => rw [read, pow_zero, Nat.mod_one]
  | succ w ih =>
    have hcons : encode (w + 1) n ++ rest = [UInt8.ofNat n] ++ (encode w (n / 256) ++ rest) := rfl
    have hhigh : read (encode (w + 1) n ++ rest) w (0 + 1) = n / 256 % 256 ^ w := by
      rw [hcons, Nat.add_comm, show 1 + 0 = [UInt8.ofNat n].length + 0 from rfl, read_append, ih]
    have hlow : ((encode (w + 1) n ++ rest).getD 0 0).toNat = n % 256 := by
      show (UInt8.ofNat n).toNat = n % 256
      simp
    rw [read, hlow, hhigh, pow_succ, Nat.mul_comm (256 ^ w), Nat.mod_mul]

example : read (encode 2 258) 2 0 = 258 := by decide

/-- **A field of a record is read back at its offset**, as far as it fits. -/
theorem read_field {fields : List (ℕ × ℕ)} {i w n : ℕ} (hi : fields[i]? = some (w, n)) (rest : Bytes) :
    read (record fields ++ rest) w (offset fields i) = n % 256 ^ w := by
  obtain ⟨hlt, hget⟩ := List.getElem?_eq_some_iff.1 hi
  have hsplit : record fields = record (fields.take i) ++ (encode w n ++ record (fields.drop (i + 1))) := by
    have happend : ∀ l l', record (l ++ l') = record l ++ record l' := fun l l' =>
      List.flatMap_append
    have hdrop : fields.drop i = (w, n) :: fields.drop (i + 1) := by
      rw [List.drop_eq_getElem_cons hlt, hget]
    calc record fields = record (fields.take i ++ fields.drop i) := by rw [List.take_append_drop]
      _ = record (fields.take i) ++ record ((w, n) :: fields.drop (i + 1)) := by rw [happend, hdrop]
      _ = record (fields.take i) ++ (encode w n ++ record (fields.drop (i + 1))) := rfl
  have hlen : offset fields i = (record (fields.take i)).length + 0 := by
    rw [record_length]; rfl
  rw [hsplit, List.append_assoc, List.append_assoc, hlen, read_append, read_encode]

/-! ### Headers and containers -/

/-- What the central directory says about one entry. -/
structure CentralHeader where
  versionMadeBy : ℕ
  versionNeeded : ℕ
  flags : ℕ
  method : ℕ
  modified : ℕ
  crc32 : ℕ
  compressedSize : ℕ
  expandedSize : ℕ
  diskStart : ℕ
  internalAttributes : ℕ
  externalAttributes : ℕ
  localOffset : ℕ
  name : Bytes
  extra : Bytes
  comment : Bytes

/-- The signatures of a central header and of the end record. -/
def centralSignature : ℕ := 0x02014b50
def endSignature : ℕ := 0x06054b50

namespace CentralHeader

variable (h : CentralHeader)

/-- The fixed part of the header. -/
def fields : List (ℕ × ℕ) :=
  [(4, centralSignature), (2, h.versionMadeBy), (2, h.versionNeeded), (2, h.flags), (2, h.method),
    (4, h.modified), (4, h.crc32), (4, h.compressedSize), (4, h.expandedSize), (2, h.name.length),
    (2, h.extra.length), (2, h.comment.length), (2, h.diskStart), (2, h.internalAttributes),
    (4, h.externalAttributes), (4, h.localOffset)]

def bytes : Bytes := record h.fields ++ (h.name ++ (h.extra ++ h.comment))

/-- Every field fits into its bytes. -/
def Fits : Prop := ∀ f ∈ h.fields, f.2 < 256 ^ f.1

theorem fixed_length : (record h.fields).length = 46 := by rw [record_length]; rfl

theorem bytes_length : h.bytes.length = 46 + h.name.length + h.extra.length + h.comment.length := by
  rw [bytes, List.length_append, fixed_length, List.length_append, List.length_append]
  omega

/-- A field of the header, where it stands in an archive. -/
theorem read_bytes {i w n : ℕ} (hfits : h.Fits) (hi : h.fields[i]? = some (w, n)) (front rest : Bytes) :
    read (front ++ (h.bytes ++ rest)) w (front.length + offset h.fields i) = n := by
  have hn : n < 256 ^ w := hfits (w, n) (List.mem_of_getElem? hi)
  rw [read_append, bytes, List.append_assoc, read_field hi, Nat.mod_eq_of_lt hn]

/-- The name of the entry, where it stands in an archive. -/
theorem name_slice (front rest : Bytes) :
    ((front ++ (h.bytes ++ rest)).drop (front.length + 46)).take h.name.length = h.name := by
  have hdrop : (front ++ (h.bytes ++ rest)).drop (front.length + 46) =
      h.name ++ ((h.extra ++ h.comment) ++ rest) := by
    rw [← List.drop_drop, List.drop_left, bytes]
    have hlen := h.fixed_length
    rw [List.append_assoc, ← hlen, List.drop_left, List.append_assoc]
  rw [hdrop, List.take_left]

end CentralHeader

/-- The central directory. -/
def directory (headers : List CentralHeader) : Bytes := headers.flatMap (·.bytes)

/-- The fields of the end record, for one disk and without a comment. -/
def endFields (count size start : ℕ) : List (ℕ × ℕ) :=
  [(4, endSignature), (2, 0), (2, 0), (2, count), (2, count), (4, size), (4, start), (2, 0)]

/-- The bytes of an archive. -/
def container (body : Bytes) (headers : List CentralHeader) : Bytes :=
  body ++ (directory headers ++ record (endFields headers.length (directory headers).length body.length))

theorem container_length (body : Bytes) (headers : List CentralHeader) :
    (container body headers).length = body.length + (directory headers).length + 22 := by
  rw [container, List.length_append, List.length_append, record_length]
  show body.length + ((directory headers).length + 22) = _
  omega

/-- A field of the end record, where it stands in the archive. -/
theorem read_end {body : Bytes} {headers : List CentralHeader} {i w n : ℕ}
    (hi : (endFields headers.length (directory headers).length body.length)[i]? = some (w, n)) :
    read (container body headers) w (body.length + (directory headers).length +
      offset (endFields headers.length (directory headers).length body.length) i) = n % 256 ^ w := by
  have hfield := read_field hi []
  rw [List.append_nil] at hfield
  rw [container, Nat.add_assoc, read_append, read_append, hfield]

/-- The header of a plain file: not encrypted, stored or deflated, on the first disk, with
the permissions of no particular system, and with nothing added. -/
structure CentralHeader.Plain (h : CentralHeader) : Prop where
  fits : h.Fits
  notEncrypted : h.flags.testBit 0 = false
  utf8 : h.name.any (fun b => decide (0x7f < b)) = true → h.flags.testBit 11 = true
  method : h.method = 0 ∨ h.method = 8
  diskStart : h.diskStart = 0
  host : h.versionMadeBy < 256
  extra : h.extra = []
  comment : h.comment = []

/-- The name of an entry, its packed size and its size. -/
abbrev Listing := Bytes × ℕ × ℕ

/-- The bytes of the packed entries: a local header, the name and the packed content. -/
def bodyLength (entries : List Listing) : ℕ := (entries.map fun e => 30 + e.1.length + e.2.1).sum

/-- **The archive reports its entries truly**: their names, sizes and places. -/
structure Describes (data : Bytes) (entries : List Listing) : Prop where
  intro ::
  layout : ∃ body headers, data = container body headers ∧ body.length = bodyLength entries ∧
    (∀ h ∈ headers, h.Plain) ∧
    headers.map (fun h => (h.name, h.compressedSize, h.expandedSize)) = entries
  offset : bodyLength entries < 2 ^ 32

theorem CentralHeader.Plain.length {h : CentralHeader} (hp : h.Plain) : h.bytes.length = 46 + h.name.length := by
  rw [h.bytes_length, hp.extra, hp.comment]
  rfl

/-- The length of a directory of plain headers. -/
theorem directory_length {headers : List CentralHeader} (hp : ∀ h ∈ headers, h.Plain) :
    (directory headers).length = (headers.map fun h => 46 + h.name.length).sum := by
  induction headers with
  | nil => rfl
  | cons h headers ih =>
    rw [directory, List.flatMap_cons, List.length_append, (hp h List.mem_cons_self).length,
      List.map_cons, List.sum_cons]
    exact congrArg _ (ih fun h' hh => hp h' (List.mem_cons_of_mem _ hh))

end Zip
