import Mathlib.Data.List.Basic
import Mathlib.Algebra.Group.Nat.Basic

/-!
`FileTransferService::calculate_file_hash`: the SHA-256 digest of the bytes
(`sha2::Sha256`), printed with `{:x}`, i.e. as 64 lowercase hexadecimal
digits. The digest follows FIPS 180-4 on byte messages: padding, the 64-word
message schedule and the 64-round compression over eight 32-bit words.
Each printed word reads back as the word, so two content hashes are equal
exactly when the digests are: the keys of `stored_files` collide only where
SHA-256 does.
-/

set_option autoImplicit false
set_option relaxedAutoImplicit false

namespace ChiralNetwork.Sha256

/-- The round constants of SHA-256. -/
def roundConstants : List UInt32 :=
  [0x428a2f98, 0x71374491, 0xb5c0fbcf, 0xe9b5dba5, 0x3956c25b, 0x59f111f1, 0x923f82a4, 0xab1c5ed5,
   0xd807aa98, 0x12835b01, 0x243185be, 0x550c7dc3, 0x72be5d74, 0x80deb1fe, 0x9bdc06a7, 0xc19bf174,
   0xe49b69c1, 0xefbe4786, 0x0fc19dc6, 0x240ca1cc, 0x2de92c6f, 0x4a7484aa, 0x5cb0a9dc, 0x76f988da,
   0x983e5152, 0xa831c66d, 0xb00327c8, 0xbf597fc7, 0xc6e00bf3, 0xd5a79147, 0x06ca6351, 0x14292967,
   0x27b70a85, 0x2e1b2138, 0x4d2c6dfc, 0x53380d13, 0x650a7354, 0x766a0abb, 0x81c2c92e, 0x92722c85,
   0xa2bfe8a1, 0xa81a664b, 0xc24b8b70, 0xc76c51a3, 0xd192e819, 0xd6990624, 0xf40e3585, 0x106aa070,
   0x19a4c116, 0x1e376c08, 0x2748774c, 0x34b0bcb5, 0x391c0cb3, 0x4ed8aa4a, 0x5b9cca4f, 0x682e6ff3,
   0x748f82ee, 0x78a5636f, 0x84c87814, 0x8cc70208, 0x90befffa, 0xa4506ceb, 0xbef9a3f7, 0xc67178f2]

/-- Eight 32-bit words: the hash value, or the working variables `a` to `h`. -/
structure Words where
  a : UInt32
  b : UInt32
  c : UInt32
  d : UInt32
  e : UInt32
  f : UInt32
  g : UInt32
  h : UInt32

/-- The initial hash value. -/
def initialHash : Words :=
  ⟨0x6a09e667, 0xbb67ae85, 0x3c6ef372, 0xa54ff53a, 0x510e527f, 0x9b05688c, 0x1f83d9ab, 0x5be0cd19⟩

def Words.toList (w : Words) : List UInt32 := [w.a, w.b, w.c, w.d, w.e, w.f, w.g, w.h]

def rotr (x : UInt32) (n : UInt32) : UInt32 := (x >>> n) ||| (x <<< (32 - n))

def bigSigma0 (x : UInt32) : UInt32 := rotr x 2 ^^^ rotr x 13 ^^^ rotr x 22
def bigSigma1 (x : UInt32) : UInt32 := rotr x 6 ^^^ rotr x 11 ^^^ rotr x 25
def smallSigma0 (x : UInt32) : UInt32 := rotr x 7 ^^^ rotr x 18 ^^^ (x >>> 3)
def smallSigma1 (x : UInt32) : UInt32 := rotr x 17 ^^^ rotr x 19 ^^^ (x >>> 10)

/-- The message padded to a multiple of 64 bytes: a one bit, zeros, and the
bit length as a 64-bit big-endian number. -/
def pad (msg : List UInt8) : List UInt8 :=
  let bits := 8 * msg.length
  msg ++ [(0x80 : UInt8)] ++ List.replicate ((119 - msg.length % 64) % 64) (0 : UInt8) ++
    (List.range 8).reverse.map (fun i => UInt8.ofNat (bits >>> (8 * i)))

/-- The big-endian word made of four bytes. -/
def word (bytes : List UInt8) : UInt32 :=
  (bytes.getD 0 0).toUInt32 <<< 24 ||| (bytes.getD 1 0).toUInt32 <<< 16 |||
    (bytes.getD 2 0).toUInt32 <<< 8 ||| (bytes.getD 3 0).toUInt32

/-- The 64 words of the message schedule of one 64-byte block. -/
def schedule (block : List UInt8) : List UInt32 :=
  (List.range 48).foldl
    (fun w _ =>
      let t := w.length
      w ++ [smallSigma1 (w.getD (t - 2) 0) + w.getD (t - 7) 0 +
        smallSigma0 (w.getD (t - 15) 0) + w.getD (t - 16) 0])
    ((List.range 16).map (fun i => word (block.drop (4 * i))))

/-- One compression round. -/
def round (s : Words) (k w : UInt32) : Words :=
  let t1 := s.h + bigSigma1 s.e + ((s.e &&& s.f) ^^^ (~~~s.e &&& s.g)) + k + w
  let t2 := bigSigma0 s.a + ((s.a &&& s.b) ^^^ (s.a &&& s.c) ^^^ (s.b &&& s.c))
  ⟨t1 + t2, s.a, s.b, s.c, s.d + t1, s.e, s.f, s.g⟩

/-- The hash value after one more block. -/
def compress (hv : Words) (block : List UInt8) : Words :=
  let s := (roundConstants.zip (schedule block)).foldl (fun s kw => round s kw.1 kw.2) hv
  ⟨hv.a + s.a, hv.b + s.b, hv.c + s.c, hv.d + s.d, hv.e + s.e, hv.f + s.f, hv.g + s.g,
    hv.h + s.h⟩

/-- SHA-256 of a byte message, as its eight hash words. -/
def digest (msg : List UInt8) : Words :=
  let padded := pad msg
  ((List.range (padded.length / 64)).map (fun i => (padded.drop (64 * i)).take 64)).foldl
    compress initialHash

/-- A word as eight lowercase hexadecimal digits, most significant first. -/
def hexWord (w : UInt32) : List Char :=
  (List.range 8).reverse.map (fun i => Nat.digitChar ((w >>> (4 * UInt32.ofNat i)) &&& 0xf).toNat)

/-- `FileTransferService::calculate_file_hash`. -/
def calculateFileHash (data : List UInt8) : String :=
  String.mk ((digest data).toList.flatMap hexWord)

set_option maxRecDepth 100000 in
example : calculateFileHash [] =
    "e3b0c44298fc1c149afbf4c8996fb92427ae41e4649b934ca495991b7852b855" := by rfl

theorem calculateFileHash_length (data : List UInt8) : (calculateFileHash data).length = 64 := by
  simp [calculateFileHash, Words.toList, hexWord, String.length]

/-- The value of a lowercase hexadecimal digit. -/
def hexValue (c : Char) : Nat := if c.isDigit then c.toNat - '0'.toNat else c.toNat - 'a'.toNat + 10

/-- Digits read as a number, most significant first. -/
def readHex (cs : List Char) : Nat := cs.foldl (fun acc c => 16 * acc + hexValue c) 0

theorem digitChar_lowercase : ∀ n < 16, (Nat.digitChar n).isDigit ∨ 'a' ≤ Nat.digitChar n ∧ Nat.digitChar n ≤ 'f' := by
  decide

theorem hexValue_digitChar : ∀ n < 16, hexValue (Nat.digitChar n) = n := by decide

theorem shiftRight_toNat (w s : UInt32) : (w >>> s).toNat = w.toNat >>> (s.toNat % 32) := by
  show (w.toBitVec >>> (UInt32.mod s 32).toBitVec).toNat = _
  simp [BitVec.toNat_ushiftRight]
  rfl

private theorem shift_amount : ∀ i < 8, (4 * UInt32.ofNat i).toNat % 32 = 4 * i := by decide

theorem nibble_toNat (w : UInt32) {i : Nat} (hi : i < 8) :
    ((w >>> (4 * UInt32.ofNat i)) &&& 0xf).toNat = w.toNat / 16 ^ i % 16 := by
  rw [UInt32.and_toNat, shiftRight_toNat, shift_amount i hi, Nat.shiftRight_eq_div_pow, Nat.pow_mul]
  exact Nat.and_pow_two_sub_one_eq_mod _ 4

private theorem foldl_digits (n : Nat) : ∀ j,
    ((List.range j).reverse.map fun i => Nat.digitChar (n / 16 ^ i % 16)).foldl
      (fun acc c => 16 * acc + hexValue c) (n / 16 ^ j) = n
  | 0 => by simp
  | j + 1 => by
    have step : 16 * (n / 16 ^ (j + 1)) + hexValue (Nat.digitChar (n / 16 ^ j % 16)) = n / 16 ^ j := by
      rw [hexValue_digitChar _ (Nat.mod_lt _ (by decide)), Nat.pow_succ, ← Nat.div_div_eq_div_mul]
      exact Nat.div_add_mod _ 16
    rw [List.range_succ, List.reverse_append, List.reverse_singleton, List.singleton_append,
      List.map_cons, List.foldl_cons, step]
    exact foldl_digits n j

theorem readHex_hexWord (w : UInt32) : readHex (hexWord w) = w.toNat := by
  have top : w.toNat / 16 ^ 8 = 0 := Nat.div_eq_of_lt (UInt32.toNat_lt_size w)
  have digits := foldl_digits w.toNat 8
  rw [top] at digits
  rw [readHex, hexWord, ← digits]
  congr 1
  exact List.map_congr_left fun i hi => by
    rw [nibble_toNat w (List.mem_range.mp (List.mem_reverse.mp hi))]

theorem hexWord_length (w : UInt32) : (hexWord w).length = 8 := by simp [hexWord]

private theorem flatMap_hexWord_injective :
    ∀ l₁ l₂ : List UInt32, l₁.flatMap hexWord = l₂.flatMap hexWord → l₁ = l₂
  | [], [], _ => rfl
  | [], b :: _, h => by
    have := congrArg List.length h
    simp [hexWord_length] at this
    omega
  | a :: _, [], h => by simpa [hexWord_length] using congrArg List.length h
  | a :: l₁, b :: l₂, h => by
    obtain ⟨same, rest⟩ := List.append_inj h ((hexWord_length a).trans (hexWord_length b).symm)
    have word : a = b := UInt32.toNat.inj (by rw [← readHex_hexWord, same, readHex_hexWord])
    rw [word, flatMap_hexWord_injective l₁ l₂ rest]

theorem Words.toList_injective {v w : Words} (h : v.toList = w.toList) : v = w := by
  cases v
  cases w
  simp_all [Words.toList]

/-- Every content hash is 64 lowercase hexadecimal digits, and two contents get
the same hash exactly when their SHA-256 digests are equal. -/
theorem file_hash_format (data : List UInt8) :
    (calculateFileHash data).length = 64 ∧
      (∀ c ∈ (calculateFileHash data).toList, c.isDigit ∨ 'a' ≤ c ∧ c ≤ 'f') ∧
      ∀ data', calculateFileHash data = calculateFileHash data' ↔ digest data = digest data' := by
  refine ⟨calculateFileHash_length data, fun c hc => ?_, fun data' => ⟨fun h => ?_, fun h => by
    rw [calculateFileHash, calculateFileHash, h]⟩⟩
  · obtain ⟨w, -, hc⟩ := List.mem_flatMap.mp hc
    obtain ⟨i, -, rfl⟩ := List.mem_map.mp hc
    exact digitChar_lowercase _ (by rw [UInt32.and_toNat]; exact Nat.lt_succ_of_le Nat.and_le_right)
  · exact Words.toList_injective (flatMap_hexWord_injective _ _ (congrArg String.data h))

end ChiralNetwork.Sha256
