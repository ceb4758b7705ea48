import Mathlib

/-!
# The fallback hash of the browser

`sha256HexSync` computes the digest of FIPS 180-4.  The numbers of the code are integers: its sums
stay far below `2 ^ 53`, and lengths below `2 ^ 31`.
-/

namespace TrainingScheduler.Sha256

abbrev Word := BitVec 32

/-- A number as an operand of the bitwise operators. -/
def word (x : ℤ) : Word := .ofInt 32 x

/-- `x | 0`. -/
def toInt32 (x : ℤ) : ℤ := (word x).toInt

def xor (x y : ℤ) : ℤ := (word x ^^^ word y).toInt

def and (x y : ℤ) : ℤ := (word x &&& word y).toInt

def not (x : ℤ) : ℤ := (~~~word x).toInt

/-- `x >>> n`. -/
def ushr (x : ℤ) (n : ℕ) : ℤ := (word x >>> n).toNat

/-- `(x >>> n) | (x << m)`. -/
def rot (x : ℤ) (n m : ℕ) : ℤ := (word (ushr x n) ||| word (word x <<< m).toInt).toInt

def K : List ℤ := [0x428a2f98, 0x71374491, 0xb5c0fbcf, 0xe9b5dba5, 0x3956c25b, 0x59f111f1,
  0x923f82a4, 0xab1c5ed5, 0xd807aa98, 0x12835b01, 0x243185be, 0x550c7dc3, 0x72be5d74, 0x80deb1fe,
  0x9bdc06a7, 0xc19bf174, 0xe49b69c1, 0xefbe4786, 0x0fc19dc6, 0x240ca1cc, 0x2de92c6f, 0x4a7484aa,
  0x5cb0a9dc, 0x76f988da, 0x983e5152, 0xa831c66d, 0xb00327c8, 0xbf597fc7, 0xc6e00bf3, 0xd5a79147,
  0x06ca6351, 0x14292967, 0x27b70a85, 0x2e1b2138, 0x4d2c6dfc, 0x53380d13, 0x650a7354, 0x766a0abb,
  0x81c2c92e, 0x92722c85, 0xa2bfe8a1, 0xa81a664b, 0xc24b8b70, 0xc76c51a3, 0xd192e819, 0xd6990624,
  0xf40e3585, 0x106aa070, 0x19a4c116, 0x1e376c08, 0x2748774c, 0x34b0bcb5, 0x391c0cb3, 0x4ed8aa4a,
  0x5b9cca4f, 0x682e6ff3, 0x748f82ee, 0x78a5636f, 0x84c87814, 0x8cc70208, 0x90befffa, 0xa4506ceb,
  0xbef9a3f7, 0xc67178f2]

structure State (α : Type) where
  (a b c d e f g h : α)
  deriving DecidableEq

namespace State

variable {α β : Type}

def map (f : α → β) (x : State α) : State β :=
  ⟨f x.a, f x.b, f x.c, f x.d, f x.e, f x.f, f x.g, f x.h⟩

def zipWith (f : α → α → α) (x y : State α) : State α :=
  ⟨f x.a y.a, f x.b y.b, f x.c y.c, f x.d y.d, f x.e y.e, f x.f y.f, f x.g y.g, f x.h y.h⟩

def toList (x : State α) : List α := [x.a, x.b, x.c, x.d, x.e, x.f, x.g, x.h]

end State

def initial : State ℤ :=
  ⟨0x6a09e667, 0xbb67ae85, 0x3c6ef372, 0xa54ff53a, 0x510e527f, 0x9b05688c, 0x1f83d9ab, 0x5be0cd19⟩

/-- The bytes of `setUint32`. -/
def uint32 (value : ℕ) : List UInt8 :=
  [.ofNat (value / 2 ^ 24), .ofNat (value / 2 ^ 16), .ofNat (value / 2 ^ 8), .ofNat value]

def getUint32 (bytes : List UInt8) (position : ℕ) : Word :=
  .ofNat 32 (((bytes.drop position).take 4).foldl (fun value byte => value * 256 + byte.toNat) 0)

def write (array : List UInt8) (position : ℕ) (bytes : List UInt8) : List UInt8 :=
  array.take position ++ bytes ++ array.drop (position + bytes.length)

def paddedLen (data : List UInt8) : ℕ := (((data.length + 8) >>> 6) + 1) <<< 6

def padded (data : List UInt8) : List UInt8 :=
  let bitLen := data.length * 8
  let array := write (List.replicate (paddedLen data) 0) 0 data
  let array := write array data.length [0x80]
  let array := write array (paddedLen data - 4) (uint32 (bitLen % 2 ^ 32))
  write array (paddedLen data - 8) (uint32 (bitLen / 2 ^ 32))

/-- A loop that sets the elements of a `Uint32Array` from `start` on. -/
def fill (element : (ℕ → Word) → ℕ → ℤ) (start count : ℕ) (w : ℕ → Word) : ℕ → Word :=
  (List.range' start count).foldl (fun w i => Function.update w i (word (element w i))) w

def extend (w : ℕ → Word) (i : ℕ) : ℤ :=
  let x : ℤ := (w (i - 15)).toNat
  let y : ℤ := (w (i - 2)).toNat
  let s0 := xor (xor (rot x 7 25) (rot x 18 14)) (ushr x 3)
  let s1 := xor (xor (rot y 17 15) (rot y 19 13)) (ushr y 10)
  toInt32 ((w (i - 16)).toNat + s0 + (w (i - 7)).toNat + s1)

def round (w : ℕ → Word) (state : State ℤ) (i : ℕ) : State ℤ :=
  let ⟨a, b, c, d, e, f, g, h⟩ := state
  let S1 := xor (xor (rot e 6 26) (rot e 11 21)) (rot e 25 7)
  let ch := xor (and e f) (and (not e) g)
  let t1 := toInt32 (h + S1 + ch + K.getD i 0 + (w i).toNat)
  let S0 := xor (xor (rot a 2 30) (rot a 13 19)) (rot a 22 10)
  let maj := xor (xor (and a b) (and a c)) (and b c)
  let t2 := toInt32 (S0 + maj)
  ⟨toInt32 (t1 + t2), a, b, c, toInt32 (d + t1), e, f, g⟩

/-- The body of the loop over the blocks; the array `w` is one for all of them. -/
def block (bytes : List UInt8) (loop : (ℕ → Word) × State ℤ) (off : ℕ) : (ℕ → Word) × State ℤ :=
  let w := fill (fun _ i => (getUint32 bytes (off + i * 4)).toNat) 0 16 loop.1
  let w := fill extend 16 48 w
  (w, loop.2.zipWith (fun h x => toInt32 (h + x)) ((List.range 64).foldl (round w) loop.2))

def sha256HexSync (data : List UInt8) : List Char :=
  (((List.range (paddedLen data / 64)).map (64 * ·)).foldl (block (padded data))
    (fun _ => 0, initial)).2.toList.flatMap fun v =>
      (Nat.toDigits 16 (ushr v 0).toNat).leftpad 8 '0'

namespace Fips

def primes : List ℕ := (List.range 312).filter (Nat.Prime ·)

/-- The first 32 bits of the fractional part of a root of a prime. -/
def constant (degree i : ℕ) : Word :=
  .ofNat 32 (Nat.nthRoot degree (primes.getD i 0 * 2 ^ (32 * degree)))

def initialHash : State Word :=
  ⟨constant 2 0, constant 2 1, constant 2 2, constant 2 3, constant 2 4, constant 2 5,
    constant 2 6, constant 2 7⟩

/-- A one bit, the least number of zero bits and the length in 64 bits fill whole blocks. -/
def pad (message : List UInt8) : List UInt8 :=
  message ++ 0x80 :: List.replicate ((119 - message.length % 64) % 64) 0 ++
    uint32 (8 * message.length / 2 ^ 32) ++ uint32 (8 * message.length)

def schedule (block : ℕ → Word) (t : ℕ) : Word :=
  if t < 16 then block t
  else
    let sigma0 (x : Word) := x.rotateRight 7 ^^^ x.rotateRight 18 ^^^ x >>> 3
    let sigma1 (x : Word) := x.rotateRight 17 ^^^ x.rotateRight 19 ^^^ x >>> 10
    sigma1 (schedule block (t - 2)) + schedule block (t - 7) + sigma0 (schedule block (t - 15)) +
      schedule block (t - 16)

def step (block : ℕ → Word) (state : State Word) (t : ℕ) : State Word :=
  let ⟨a, b, c, d, e, f, g, h⟩ := state
  let Sigma0 := a.rotateRight 2 ^^^ a.rotateRight 13 ^^^ a.rotateRight 22
  let Sigma1 := e.rotateRight 6 ^^^ e.rotateRight 11 ^^^ e.rotateRight 25
  let T1 := h + Sigma1 + ((e &&& f) ^^^ (~~~e &&& g)) + constant 3 t + schedule block t
  let T2 := Sigma0 + ((a &&& b) ^^^ (a &&& c) ^^^ (b &&& c))
  ⟨T1 + T2, a, b, c, d + T1, e, f, g⟩

def compress (message : List UInt8) (hash : State Word) (i : ℕ) : State Word :=
  hash.zipWith (· + ·)
    ((List.range 64).foldl (step fun t => getUint32 message (64 * i + t * 4)) hash)

/-- The lowest hexadecimal digits of a number. -/
def hex : ℕ → ℕ → List Char
  | 0, _ => []
  | digits + 1, value => hex digits (value / 16) ++ [(value % 16).digitChar]

def sha256 (message : List UInt8) : List Char :=
  ((List.range ((pad message).length / 64)).foldl (compress (pad message))
    initialHash).toList.flatMap fun word => hex 8 word.toNat

end Fips

open Fips

theorem word_toInt (v : Word) : word v.toInt = v := BitVec.ofInt_toInt

theorem word_toNat (v : Word) : word v.toNat = v := by simp [word]

theorem word_add (x y : ℤ) : word (x + y) = word x + word y := BitVec.ofInt_add x y

theorem K_eq : ∀ i : Fin 64, word (K.getD i 0) = constant 3 i := by
  decide +kernel

theorem initial_eq : initial.map word = initialHash := by
  decide +kernel

theorem fill_eq {element : (ℕ → Word) → ℕ → ℤ} {start count : ℕ} {w result : ℕ → Word}
    (before : ∀ j < start, w j = result j)
    (next : ∀ w i, start ≤ i → (∀ j < i, w j = result j) → word (element w i) = result i) :
    ∀ j < start + count, fill element start count w j = result j := by
  induction count with
  | zero => exact before
  | succ count induction =>
    intro j bound
    have last := next _ (start + count) (Nat.le_add_right _ _) induction
    rw [fill, List.range'_1_concat, List.foldl_append, List.foldl_cons, List.foldl_nil, ← fill]
    by_cases here : j = start + count
    · subst here
      rw [Function.update_self, last]
    · rw [Function.update_of_ne here]
      exact induction j (by omega)

theorem schedule_eq (message : List UInt8) (w : ℕ → Word) (off : ℕ) :
    ∀ t < 64, fill extend 16 48
      (fill (fun _ i => (getUint32 message (off + i * 4)).toNat) 0 16 w) t =
        schedule (fun t => getUint32 message (off + t * 4)) t := by
  have loaded : ∀ j < 0 + 16, fill (fun _ i => (getUint32 message (off + i * 4)).toNat) 0 16 w j =
      getUint32 message (off + j * 4) :=
    fill_eq (fun _ impossible => absurd impossible (Nat.not_lt_zero _)) fun _ _ _ _ => word_toNat _
  refine @fill_eq extend 16 48 _ _ (fun t early => ?_) fun w i late known => ?_
  · rw [schedule, if_pos early, loaded t early]
  · have swap (a b c d : Word) : a + b + c + d = d + c + b + a := by ac_rfl
    rw [schedule, if_neg (Nat.not_lt.mpr late), ← known (i - 2) (by omega),
      ← known (i - 7) (by omega), ← known (i - 15) (by omega), ← known (i - 16) (by omega)]
    simp only [extend, toInt32, xor, rot, ushr, word_toInt, word_toNat, word_add]
    exact swap _ _ _ _

theorem round_eq {w message : ℕ → Word} {i : ℕ} (bound : i < 64)
    (scheduled : w i = schedule message i) (state : State ℤ) :
    (round w state i).map word = step message (state.map word) i := by
  have constant : word (K.getD i 0) = constant 3 i := K_eq ⟨i, bound⟩
  simp only [round, State.map, step, toInt32, xor, and, not, rot, ushr, word_toInt, word_toNat,
    word_add, constant, scheduled]
  rfl

theorem block_eq (message : List UInt8) (loop : (ℕ → Word) × State ℤ) (i : ℕ) :
    (block message loop (64 * i)).2.map word = compress message (loop.2.map word) i := by
  have rounds (n : ℕ) (bound : n ≤ 64) :
      ((List.range n).foldl (round (block message loop (64 * i)).1) loop.2).map word =
        (List.range n).foldl (step fun t => getUint32 message (64 * i + t * 4))
          (loop.2.map word) := by
    induction n with
    | zero => rfl
    | succ n induction =>
      simp only [List.range_succ, List.foldl_append, List.foldl_cons, List.foldl_nil,
        ← induction (Nat.le_of_lt bound)]
      exact round_eq bound (schedule_eq message loop.1 (64 * i) n bound) _
  rw [compress, ← rounds 64 le_rfl]
  simp only [block, State.map, State.zipWith, toInt32, word_toInt, word_add]

theorem write_eq {array : List UInt8} (first second third bytes : List UInt8) {position : ℕ}
    (split : array = first ++ (second ++ third)) (here : position = first.length)
    (same : bytes.length = second.length) :
    write array position bytes = first ++ (bytes ++ third) := by
  rw [write, split, here, List.take_left, same, ← List.length_append, ← List.append_assoc,
    List.drop_left, List.append_assoc]

theorem paddedLen_eq (data : List UInt8) :
    paddedLen data = data.length + (1 + ((119 - data.length % 64) % 64 + (4 + 4))) := by
  rw [paddedLen, Nat.shiftRight_eq_div_pow, Nat.shiftLeft_eq]
  omega

theorem padded_eq (data : List UInt8) : padded data = pad data := by
  have low : uint32 (8 * data.length % 2 ^ 32) = uint32 (8 * data.length) := by
    simp only [uint32, List.cons.injEq, ← UInt8.toNat_inj, UInt8.toNat_ofNat', and_true]
    omega
  simp only [padded, pad, paddedLen_eq, mul_comm data.length 8, low]
  generalize (119 - data.length % 64) % 64 = zeros
  rw [write_eq [] (List.replicate data.length 0) (List.replicate (1 + (zeros + (4 + 4))) 0)
      data (List.replicate_add ..) List.length_nil.symm (by simp),
    write_eq data [0] (List.replicate (zeros + (4 + 4)) 0) [0x80] (by simp [List.replicate_add]) rfl
      rfl,
    write_eq (data ++ 0x80 :: List.replicate (zeros + 4) 0) (List.replicate 4 0) []
      (uint32 (8 * data.length)) (by simp [List.replicate_add]) (by simp; omega) rfl,
    write_eq (data ++ 0x80 :: List.replicate zeros 0) (List.replicate 4 0)
      (uint32 (8 * data.length)) (uint32 (8 * data.length / 2 ^ 32))
      (by simp [List.replicate_add]) (by simp; omega) rfl]
  simp

private theorem leftpad_toDigits {digits value : ℕ} (bound : value < 16 ^ (digits + 1)) :
    (Nat.toDigits 16 value).leftpad (digits + 1) '0' = hex (digits + 1) value := by
  induction digits generalizing value with
  | zero =>
    have small : value < 16 := by simpa using bound
    simp [hex, Nat.toDigits_of_lt_base small, Nat.mod_eq_of_lt small, List.leftpad]
  | succ digits induction =>
    rw [hex, ← induction (Nat.div_lt_of_lt_mul (by rwa [← pow_succ'])), List.leftpad,
      List.leftpad]
    by_cases small : value < 16
    · simp [Nat.toDigits_of_lt_base, small, Nat.mod_eq_of_lt small, Nat.div_eq_of_lt small,
        List.replicate_succ', show Nat.digitChar 0 = '0' from rfl]
    · simp [Nat.toDigits_of_base_le (by decide) (not_lt.mp small)]

/-- The fallback hash is SHA-256. -/
theorem sha256HexSync_eq (data : List UInt8) : sha256HexSync data = sha256 data := by
  have length : paddedLen data = (pad data).length := by
    simp [paddedLen_eq, pad, uint32]
    omega
  have hash : ((List.range ((pad data).length / 64)).foldl
      (fun loop i => block (pad data) loop (64 * i)) (fun _ => 0, initial)).2.map word =
      (List.range ((pad data).length / 64)).foldl (compress (pad data))
        (initial.map word) :=
    (List.foldl_hom (fun loop : (ℕ → Word) × State ℤ => loop.2.map word) fun loop i =>
      (block_eq (pad data) loop i).symm).symm
  have digits (v : ℤ) : (Nat.toDigits 16 (ushr v 0).toNat).leftpad 8 '0' =
      hex 8 (word v).toNat := by
    rw [← leftpad_toDigits (word v).isLt]
    rfl
  unfold sha256HexSync sha256
  simp only [padded_eq, length, digits, List.foldl_map, ← initial_eq, ← hash]
  rfl

end TrainingScheduler.Sha256
