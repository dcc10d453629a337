import Mathlib.Data.List.Basic

/-!
# SHA-256

The digest of a list of bytes (FIPS 180-4), as lower-case hexadecimal text. The words
are natural numbers below `2 ^ 32`.

* `digest_length`: a digest has 64 digits.
* `digest_eq`: `digestChars` computes the same digits, one word at a time.
-/

namespace Sha256

/-- Addition of 32-bit words. -/
def add (a b : ℕ) : ℕ := (a + b) % 4294967296

/-- Rotation of a 32-bit word to the right. -/
def rotr (n x : ℕ) : ℕ := (x >>> n) ||| ((x <<< (32 - n)) % 4294967296)

/-- The functions of the rounds, under their names in the standard. -/
def ch (x y z : ℕ) : ℕ := (x &&& y) ^^^ ((4294967295 - x) &&& z)
def maj (x y z : ℕ) : ℕ := (x &&& y) ^^^ (x &&& z) ^^^ (y &&& z)
def bigSigma0 (x : ℕ) : ℕ := rotr 2 x ^^^ rotr 13 x ^^^ rotr 22 x
def bigSigma1 (x : ℕ) : ℕ := rotr 6 x ^^^ rotr 11 x ^^^ rotr 25 x
def sigma0 (x : ℕ) : ℕ := rotr 7 x ^^^ rotr 18 x ^^^ (x >>> 3)
def sigma1 (x : ℕ) : ℕ := rotr 17 x ^^^ rotr 19 x ^^^ (x >>> 10)

/-- The round constants. -/
def constants : List ℕ :=
  [0x428a2f98, 0x71374491, 0xb5c0fbcf, 0xe9b5dba5, 0x3956c25b, 0x59f111f1, 0x923f82a4, 0xab1c5ed5,
   0xd807aa98, 0x12835b01, 0x243185be, 0x550c7dc3, 0x72be5d74, 0x80deb1fe, 0x9bdc06a7, 0xc19bf174,
   0xe49b69c1, 0xefbe4786, 0x0fc19dc6, 0x240ca1cc, 0x2de92c6f, 0x4a7484aa, 0x5cb0a9dc, 0x76f988da,
   0x983e5152, 0xa831c66d, 0xb00327c8, 0xbf597fc7, 0xc6e00bf3, 0xd5a79147, 0x06ca6351, 0x14292967,
   0x27b70a85, 0x2e1b2138, 0x4d2c6dfc, 0x53380d13, 0x650a7354, 0x766a0abb, 0x81c2c92e, 0x92722c85,
   0xa2bfe8a1, 0xa81a664b, 0xc24b8b70, 0xc76c51a3, 0xd192e819, 0xd6990624, 0xf40e3585, 0x106aa070,
   0x19a4c116, 0x1e376c08, 0x2748774c, 0x34b0bcb5, 0x391c0cb3, 0x4ed8aa4a, 0x5b9cca4f, 0x682e6ff3,
   0x748f82ee, 0x78a5636f, 0x84c87814, 0x8cc70208, 0x90befffa, 0xa4506ceb, 0xbef9a3f7, 0xc67178f2]

/-- The working variables. -/
structure State where
  a : ℕ
  b : ℕ
  c : ℕ
  d : ℕ
  e : ℕ
  f : ℕ
  g : ℕ
  h : ℕ

def initial : State where
  a := 0x6a09e667
  b := 0xbb67ae85
  c := 0x3c6ef372
  d := 0xa54ff53a
  e := 0x510e527f
  f := 0x9b05688c
  g := 0x1f83d9ab
  h := 0x5be0cd19

/-- One round. -/
def State.round (s : State) (k w : ℕ) : State :=
  let t1 := (s.h + bigSigma1 s.e + ch s.e s.f s.g + k + w) % 4294967296
  let t2 := (bigSigma0 s.a + maj s.a s.b s.c) % 4294967296
  ⟨add t1 t2, s.a, s.b, s.c, add s.d t1, s.e, s.f, s.g⟩

/-- The wordwise sum of two states. -/
def State.sum (s t : State) : State :=
  ⟨add s.a t.a, add s.b t.b, add s.c t.c, add s.d t.d, add s.e t.e, add s.f t.f, add s.g t.g, add s.h t.h⟩

/-- The rounds, with a window of the next 16 words of the message schedule. -/
def rounds : List ℕ → List ℕ → State → State
  | [], _, s => s
  | k :: ks, window, s =>
    match window with
    | w0 :: rest =>
      let next := (sigma1 (rest.getD 13 0) + rest.getD 8 0 + sigma0 (rest.getD 0 0) + w0) % 4294967296
      rounds ks (rest ++ [next]) (s.round k w0)
    | [] => s

/-- One block. -/
def compress (s : State) (block : List ℕ) : State := s.sum (rounds constants block s)

/-- Big-endian words. -/
def words : List ℕ → List ℕ
  | b0 :: b1 :: b2 :: b3 :: rest => (b0 * 16777216 + b1 * 65536 + b2 * 256 + b3) :: words rest
  | _ => []

/-- The last `n` bytes. -/
def bigEndian : ℕ → ℕ → List ℕ
  | 0, _ => []
  | n + 1, x => bigEndian n (x / 256) ++ [x % 256]

/-- Padding to whole blocks. -/
def pad (bytes : List ℕ) : List ℕ :=
  bytes ++ 128 :: List.replicate ((119 - bytes.length % 64) % 64) 0 ++ bigEndian 8 (bytes.length * 8)

/-- All blocks, `n` of them. -/
def blocks : ℕ → List ℕ → State → State
  | 0, _, s => s
  | n + 1, ws, s => blocks n (ws.drop 16) (compress s (ws.take 16))

/-- The last `n` hexadecimal digits. -/
def hexDigits : ℕ → ℕ → List Char
  | 0, _ => []
  | n + 1, x => hexDigits n (x / 16) ++ [Nat.digitChar (x % 16)]

def State.hex (s : State) : List Char :=
  hexDigits 8 s.a ++ hexDigits 8 s.b ++ hexDigits 8 s.c ++ hexDigits 8 s.d ++ hexDigits 8 s.e ++
    hexDigits 8 s.f ++ hexDigits 8 s.g ++ hexDigits 8 s.h

/-- The digest as lower-case hexadecimal text. -/
def digest (bytes : List UInt8) : String :=
  let ws := words (pad (bytes.map (·.toNat)))
  String.ofList (blocks (ws.length / 16) ws initial).hex

theorem hexDigits_length (n x : ℕ) : (hexDigits n x).length = n := by
  induction n generalizing x with
  | zero => rfl
  | succ n ih => simp [hexDigits, ih]

/-- A digest has 64 digits. -/
theorem digest_length (bytes : List UInt8) : (digest bytes).length = 64 := by
  simp [digest, State.hex, hexDigits_length]

/-! ### Word by word

The rounds above leave their words unevaluated until the digits are read. Here every
word is a numeral before the next round begins, so that a digest can be computed by
reduction. -/

/-- `k n`, where `n` is evaluated first. -/
def force {α : Type} (n : ℕ) (k : ℕ → α) : α := Nat.rec (k 0) (fun m _ => k (Nat.succ m)) n

@[simp] theorem force_eq {α : Type} (n : ℕ) (k : ℕ → α) : force n k = k n := by
  cases n <;> rfl

/-- Rotation, where `m` is `32 - n`. -/
def rotate (n m x : ℕ) : ℕ := Nat.lor (Nat.shiftRight x n) (Nat.mod (Nat.shiftLeft x m) 4294967296)

/-- `rounds`, with the window and the state spread out. -/
def wordRounds : List ℕ → ℕ → ℕ → ℕ → ℕ → ℕ → ℕ → ℕ → ℕ → ℕ → ℕ → ℕ → ℕ → ℕ → ℕ → ℕ → ℕ →
    ℕ → ℕ → ℕ → ℕ → ℕ → ℕ → ℕ → ℕ → State
  | [], _, _, _, _, _, _, _, _, _, _, _, _, _, _, _, _, a, b, c, d, e, f, g, h => ⟨a, b, c, d, e, f, g, h⟩
  | k :: ks, w0, w1, w2, w3, w4, w5, w6, w7, w8, w9, w10, w11, w12, w13, w14, w15, a, b, c, d, e, f, g, h =>
    force (Nat.mod (Nat.add (Nat.add (Nat.add
      (Nat.xor (Nat.xor (rotate 17 15 w14) (rotate 19 13 w14)) (Nat.shiftRight w14 10)) w9)
      (Nat.xor (Nat.xor (rotate 7 25 w1) (rotate 18 14 w1)) (Nat.shiftRight w1 3))) w0) 4294967296)
      fun next =>
    force (Nat.mod (Nat.add (Nat.add (Nat.add (Nat.add h
      (Nat.xor (Nat.xor (rotate 6 26 e) (rotate 11 21 e)) (rotate 25 7 e)))
      (Nat.xor (Nat.land e f) (Nat.land (Nat.sub 4294967295 e) g))) k) w0) 4294967296) fun t1 =>
    force (Nat.mod (Nat.add t1 (Nat.mod (Nat.add
      (Nat.xor (Nat.xor (rotate 2 30 a) (rotate 13 19 a)) (rotate 22 10 a))
      (Nat.xor (Nat.xor (Nat.land a b) (Nat.land a c)) (Nat.land b c))) 4294967296)) 4294967296) fun a' =>
    force (Nat.mod (Nat.add d t1) 4294967296) fun e' =>
    wordRounds ks w1 w2 w3 w4 w5 w6 w7 w8 w9 w10 w11 w12 w13 w14 w15 next a' a b c e' e f g

theorem rounds_eq (ks : List ℕ) : ∀ (w0 w1 w2 w3 w4 w5 w6 w7 w8 w9 w10 w11 w12 w13 w14 w15 : ℕ) (s : State),
    rounds ks [w0, w1, w2, w3, w4, w5, w6, w7, w8, w9, w10, w11, w12, w13, w14, w15] s =
      wordRounds ks w0 w1 w2 w3 w4 w5 w6 w7 w8 w9 w10 w11 w12 w13 w14 w15
        s.a s.b s.c s.d s.e s.f s.g s.h := by
  induction ks with
  | nil => intros; rfl
  | cons k ks ih =>
    intro w0 w1 w2 w3 w4 w5 w6 w7 w8 w9 w10 w11 w12 w13 w14 w15 s
    simp only [wordRounds, force_eq]
    exact ih w1 w2 w3 w4 w5 w6 w7 w8 w9 w10 w11 w12 w13 w14 w15 _ _

/-- `k s`, where the words of `s` are evaluated first. -/
def State.force {α : Type} (s : State) (k : State → α) : α :=
  Sha256.force s.a fun a => Sha256.force s.b fun b => Sha256.force s.c fun c =>
  Sha256.force s.d fun d => Sha256.force s.e fun e => Sha256.force s.f fun f =>
  Sha256.force s.g fun g => Sha256.force s.h fun h => k ⟨a, b, c, d, e, f, g, h⟩

@[simp] theorem State.force_eq {α : Type} (s : State) (k : State → α) : s.force k = k s := by
  simp only [State.force, Sha256.force_eq]

/-- `blocks`, word by word. -/
def wordBlocks : ℕ → List ℕ → State → State
  | 0, _, s => s
  | n + 1, ws, s =>
    match ws with
    | w0 :: w1 :: w2 :: w3 :: w4 :: w5 :: w6 :: w7 :: w8 :: w9 :: w10 :: w11 :: w12 :: w13 :: w14 ::
        w15 :: rest =>
      (s.sum (wordRounds constants w0 w1 w2 w3 w4 w5 w6 w7 w8 w9 w10 w11 w12 w13 w14 w15 s.a s.b s.c s.d
        s.e s.f s.g s.h)).force fun s => wordBlocks n rest s
    | _ => blocks (n + 1) ws s

theorem blocks_eq (n : ℕ) : ∀ ws s, blocks n ws s = wordBlocks n ws s := by
  induction n with
  | zero => intros; rfl
  | succ n ih =>
    intro ws s
    unfold wordBlocks
    split
    · rw [State.force_eq, ← ih, ← rounds_eq, blocks, compress]
      simp only [List.drop_succ_cons, List.drop_zero, List.take_succ_cons, List.take_zero]
    · rfl

/-- The digits of a digest. -/
def digestChars (bytes : List UInt8) : List Char :=
  let ws := words (pad (bytes.map (·.toNat)))
  (wordBlocks (ws.length / 16) ws initial).hex

/-- **The digest, word by word.** -/
theorem digest_eq (bytes : List UInt8) : digest bytes = String.ofList (digestChars bytes) := by
  unfold digest digestChars
  dsimp only
  rw [blocks_eq]

example : digest "abc".toUTF8.data.toList =
    "ba7816bf8f01cfea414140de5dae2223b00361a396177a9cb410ff61f20015ad" := by decide +kernel

end Sha256
