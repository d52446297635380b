/-!
# Fingerprints

The fingerprint of a sequence of bytes is its 64-bit XXH3 hash with seed zero and the default
secret. Short inputs are hashed in one step by length class; long ones pass in stripes of 64 bytes
through eight accumulators, which are scrambled after every block of 16 stripes and merged at the
end.
-/

namespace Graft.Fingerprint

/-- The 32-bit primes of the hash family. -/
def prime32₁ : UInt64 := 0x9E3779B1
/-- The second 32-bit prime. -/
def prime32₂ : UInt64 := 0x85EBCA77
/-- The third 32-bit prime. -/
def prime32₃ : UInt64 := 0xC2B2AE3D
/-- The 64-bit primes of the hash family. -/
def prime64₁ : UInt64 := 0x9E3779B185EBCA87
/-- The second 64-bit prime. -/
def prime64₂ : UInt64 := 0xC2B2AE3D27D4EB4F
/-- The third 64-bit prime. -/
def prime64₃ : UInt64 := 0x165667B19E3779F9
/-- The fourth 64-bit prime. -/
def prime64₄ : UInt64 := 0x85EBCA77C2B2AE63
/-- The fifth 64-bit prime. -/
def prime64₅ : UInt64 := 0x27D4EB2F165667C5

/-- The default secret: 192 bytes that every input is mixed with. -/
def secret : ByteArray := ⟨#[
  0xB8, 0xFE, 0x6C, 0x39, 0x23, 0xA4, 0x4B, 0xBE, 0x7C, 0x01, 0x81, 0x2C,
  0xF7, 0x21, 0xAD, 0x1C, 0xDE, 0xD4, 0x6D, 0xE9, 0x83, 0x90, 0x97, 0xDB,
  0x72, 0x40, 0xA4, 0xA4, 0xB7, 0xB3, 0x67, 0x1F, 0xCB, 0x79, 0xE6, 0x4E,
  0xCC, 0xC0, 0xE5, 0x78, 0x82, 0x5A, 0xD0, 0x7D, 0xCC, 0xFF, 0x72, 0x21,
  0xB8, 0x08, 0x46, 0x74, 0xF7, 0x43, 0x24, 0x8E, 0xE0, 0x35, 0x90, 0xE6,
  0x81, 0x3A, 0x26, 0x4C, 0x3C, 0x28, 0x52, 0xBB, 0x91, 0xC3, 0x00, 0xCB,
  0x88, 0xD0, 0x65, 0x8B, 0x1B, 0x53, 0x2E, 0xA3, 0x71, 0x64, 0x48, 0x97,
  0xA2, 0x0D, 0xF9, 0x4E, 0x38, 0x19, 0xEF, 0x46, 0xA9, 0xDE, 0xAC, 0xD8,
  0xA8, 0xFA, 0x76, 0x3F, 0xE3, 0x9C, 0x34, 0x3F, 0xF9, 0xDC, 0xBB, 0xC7,
  0xC7, 0x0B, 0x4F, 0x1D, 0x8A, 0x51, 0xE0, 0x4B, 0xCD, 0xB4, 0x59, 0x31,
  0xC8, 0x9F, 0x7E, 0xC9, 0xD9, 0x78, 0x73, 0x64, 0xEA, 0xC5, 0xAC, 0x83,
  0x34, 0xD3, 0xEB, 0xC3, 0xC5, 0x81, 0xA0, 0xFF, 0xFA, 0x13, 0x63, 0xEB,
  0x17, 0x0D, 0xDD, 0x51, 0xB7, 0xF0, 0xDA, 0x49, 0xD3, 0x16, 0x55, 0x26,
  0x29, 0xD4, 0x68, 0x9E, 0x2B, 0x16, 0xBE, 0x58, 0x7D, 0x47, 0xA1, 0xFC,
  0x8F, 0xF8, 0xB8, 0xD1, 0x7A, 0xD0, 0x31, 0xCE, 0x45, 0xCB, 0x3A, 0x8F,
  0x95, 0x16, 0x04, 0x28, 0xAF, 0xD7, 0xFB, 0xCA, 0xBB, 0x4B, 0x40, 0x7E]⟩

/-- The byte at a position, zero past the end. -/
def byteAt (bytes : ByteArray) (i : Nat) : UInt64 :=
  if h : i < bytes.size then bytes[i].toUInt64 else 0

/-- The little-endian number in the `width` bytes from position `i` on. -/
def word (bytes : ByteArray) (i : Nat) : (width : Nat) → UInt64
  | 0 => 0
  | width + 1 => byteAt bytes i ||| (word bytes (i + 1) width <<< 8)

/-- The four bytes from position `i` on as a number. -/
def word32 (bytes : ByteArray) (i : Nat) : UInt64 := word bytes i 4

/-- The eight bytes from position `i` on as a number. -/
def word64 (bytes : ByteArray) (i : Nat) : UInt64 := word bytes i 8

/-- The word turned to the left by `n` bits. -/
def rotate (x : UInt64) (n : UInt64) : UInt64 :=
  (x <<< n) ||| (x >>> (64 - n))

/-- The word with its bytes in opposite order. -/
def swapBytes (x : UInt64) : UInt64 :=
  (List.range 8).foldl
    (fun acc i => (acc <<< 8) ||| ((x >>> (8 * i).toUInt64) &&& 0xFF)) 0

/-- The two halves of the 128-bit product, combined bit by bit. -/
def foldProduct (x y : UInt64) : UInt64 :=
  let product := x.toNat * y.toNat
  product.toUInt64 ^^^ (product >>> 64).toUInt64

/-- The word combined with itself moved right by `n` bits. -/
def xorShift (x : UInt64) (n : UInt64) : UInt64 :=
  x ^^^ (x >>> n)

/-- The final mixing of medium and long inputs. -/
def avalanche (x : UInt64) : UInt64 :=
  xorShift (xorShift x 37 * 0x165667919E3779F9) 32

/-- The final mixing of inputs of at most three bytes. -/
def avalancheShort (x : UInt64) : UInt64 :=
  xorShift (xorShift (xorShift x 33 * prime64₂) 29 * prime64₃) 32

/-- Sixteen bytes of the input mixed with sixteen bytes of the secret. -/
def mix16 (bytes : ByteArray) (i s : Nat) : UInt64 :=
  foldProduct (word64 bytes i ^^^ word64 secret s) (word64 bytes (i + 8) ^^^ word64 secret (s + 8))

/-- The hash of one to three bytes. -/
def hashUpTo3 (bytes : ByteArray) : UInt64 :=
  let n := bytes.size
  let combined := (byteAt bytes 0 <<< 16) ||| (byteAt bytes (n / 2) <<< 24)
    ||| byteAt bytes (n - 1) ||| (n.toUInt64 <<< 8)
  avalancheShort (combined ^^^ (word32 secret 0 ^^^ word32 secret 4))

/-- The hash of four to eight bytes. -/
def hashUpTo8 (bytes : ByteArray) : UInt64 :=
  let n := bytes.size
  let input := word32 bytes (n - 4) + (word32 bytes 0 <<< 32)
  let keyed := input ^^^ (word64 secret 8 ^^^ word64 secret 16)
  let x := keyed ^^^ rotate keyed 49 ^^^ rotate keyed 24
  let x := x * 0x9FB21C651E98DF25
  let x := x ^^^ ((x >>> 35) + n.toUInt64)
  xorShift (x * 0x9FB21C651E98DF25) 28

/-- The hash of nine to sixteen bytes. -/
def hashUpTo16 (bytes : ByteArray) : UInt64 :=
  let n := bytes.size
  let low := word64 bytes 0 ^^^ (word64 secret 24 ^^^ word64 secret 32)
  let high := word64 bytes (n - 8) ^^^ (word64 secret 40 ^^^ word64 secret 48)
  avalanche (n.toUInt64 + swapBytes low + high + foldProduct low high)

/-- The hash of 17 to 128 bytes: pairs of 16 bytes, from both ends inwards. -/
def hashUpTo128 (bytes : ByteArray) : UInt64 :=
  let n := bytes.size
  let pairs := (n - 1) / 32 + 1
  avalanche <| (List.range pairs).foldl
    (fun acc i =>
      acc + mix16 bytes (16 * i) (32 * i) + mix16 bytes (n - 16 * (i + 1)) (32 * i + 16))
    (n.toUInt64 * prime64₁)

/-- The hash of 129 to 240 bytes: every 16 bytes, mixed once more after the first eight. -/
def hashUpTo240 (bytes : ByteArray) : UInt64 :=
  let n := bytes.size
  let start := (List.range 8).foldl (fun acc i => acc + mix16 bytes (16 * i) (16 * i))
    (n.toUInt64 * prime64₁)
  let rest := (List.range (n / 16 - 8)).foldl
    (fun acc i => acc + mix16 bytes (16 * (i + 8)) (16 * i + 3)) (avalanche start)
  avalanche (rest + mix16 bytes (n - 16) 119)

/-- The accumulators before the first stripe of a long input. -/
def seeds : List UInt64 :=
  [prime32₃, prime64₁, prime64₂, prime64₃, prime64₄, prime32₂, prime64₅, prime32₁]

/-- The accumulators after the stripe of 64 bytes at `i`, keyed with the secret from `s` on. Each
accumulator gains the product of the halves of its own keyed word and its neighbour's word. -/
def addStripe (bytes : ByteArray) (lanes : List UInt64) (i s : Nat) : List UInt64 :=
  lanes.mapIdx fun lane acc =>
    let keyed := word64 bytes (i + 8 * lane) ^^^ word64 secret (s + 8 * lane)
    let neighbour := if lane % 2 = 0 then lane + 1 else lane - 1
    acc + word64 bytes (i + 8 * neighbour) + (keyed &&& (0xFFFFFFFF : UInt64)) * (keyed >>> 32)

/-- The accumulators at the end of a block. -/
def scramble (lanes : List UInt64) : List UInt64 :=
  lanes.mapIdx fun lane acc => (xorShift acc 47 ^^^ word64 secret (128 + 8 * lane)) * prime32₁

/-- The accumulators after `count` stripes from position `i` on. -/
def addStripes (bytes : ByteArray) (lanes : List UInt64) (i count : Nat) : List UInt64 :=
  (List.range count).foldl (fun acc k => addStripe bytes acc (i + 64 * k) (8 * k)) lanes

/-- The accumulators, two and two, folded into one word. -/
def mergePairs (s : Nat) : List UInt64 → UInt64
  | x :: y :: rest =>
    foldProduct (x ^^^ word64 secret s) (y ^^^ word64 secret (s + 8)) + mergePairs (s + 16) rest
  | _ => 0

/-- The hash of more than 240 bytes. -/
def hashLong (bytes : ByteArray) : UInt64 :=
  let n := bytes.size
  let blocks := (n - 1) / 1024
  let lanes := (List.range blocks).foldl
    (fun acc k => scramble (addStripes bytes acc (1024 * k) 16)) seeds
  let lanes := addStripes bytes lanes (1024 * blocks) ((n - 1 - 1024 * blocks) / 64)
  let lanes := addStripe bytes lanes (n - 64) 121
  avalanche (n.toUInt64 * prime64₁ + mergePairs 11 lanes)

end Graft.Fingerprint

namespace Graft

/-- The fingerprint of a sequence of bytes. -/
def fingerprint (bytes : ByteArray) : UInt64 :=
  let n := bytes.size
  if n = 0 then
    Fingerprint.avalancheShort (Fingerprint.word64 Fingerprint.secret 56 ^^^
      Fingerprint.word64 Fingerprint.secret 64)
  else if n ≤ 3 then Fingerprint.hashUpTo3 bytes
  else if n ≤ 8 then Fingerprint.hashUpTo8 bytes
  else if n ≤ 16 then Fingerprint.hashUpTo16 bytes
  else if n ≤ 128 then Fingerprint.hashUpTo128 bytes
  else if n ≤ 240 then Fingerprint.hashUpTo240 bytes
  else Fingerprint.hashLong bytes

end Graft
