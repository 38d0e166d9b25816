/-
The SHA-256 digest of Go's `crypto/sha256`, over lists of bytes.  The workload
naming uses its first four bytes as the suffix of an over-long name.
-/
import Mathlib.Data.UInt

namespace Sha256

/-- The eight working words of the compression function. -/
structure Words where
  a : UInt32
  b : UInt32
  c : UInt32
  d : UInt32
  e : UInt32
  f : UInt32
  g : UInt32
  h : UInt32
deriving Repr, DecidableEq

def initialWords : Words :=
  ⟨0x6a09e667, 0xbb67ae85, 0x3c6ef372, 0xa54ff53a,
    0x510e527f, 0x9b05688c, 0x1f83d9ab, 0x5be0cd19⟩

def roundConstants : List UInt32 :=
  [0x428a2f98, 0x71374491, 0xb5c0fbcf, 0xe9b5dba5, 0x3956c25b, 0x59f111f1,
    0x923f82a4, 0xab1c5ed5, 0xd807aa98, 0x12835b01, 0x243185be, 0x550c7dc3,
    0x72be5d74, 0x80deb1fe, 0x9bdc06a7, 0xc19bf174, 0xe49b69c1, 0xefbe4786,
    0x0fc19dc6, 0x240ca1cc, 0x2de92c6f, 0x4a7484aa, 0x5cb0a9dc, 0x76f988da,
    0x983e5152, 0xa831c66d, 0xb00327c8, 0xbf597fc7, 0xc6e00bf3, 0xd5a79147,
    0x06ca6351, 0x14292967, 0x27b70a85, 0x2e1b2138, 0x4d2c6dfc, 0x53380d13,
    0x650a7354, 0x766a0abb, 0x81c2c92e, 0x92722c85, 0xa2bfe8a1, 0xa81a664b,
    0xc24b8b70, 0xc76c51a3, 0xd192e819, 0xd6990624, 0xf40e3585, 0x106aa070,
    0x19a4c116, 0x1e376c08, 0x2748774c, 0x34b0bcb5, 0x391c0cb3, 0x4ed8aa4a,
    0x5b9cca4f, 0x682e6ff3, 0x748f82ee, 0x78a5636f, 0x84c87814, 0x8cc70208,
    0x90befffa, 0xa4506ceb, 0xbef9a3f7, 0xc67178f2]

def rotateRight (x n : UInt32) : UInt32 :=
  (x >>> n) ||| (x <<< (32 - n))

def wordBytes (w : UInt32) : List UInt8 :=
  [(w >>> 24).toUInt8, (w >>> 16).toUInt8, (w >>> 8).toUInt8, w.toUInt8]

/-- The message with its `0x80` byte, zero padding and bit length, a multiple
of sixty-four bytes long. -/
def padMessage (message : List UInt8) : List UInt8 :=
  let zeros := (119 - message.length % 64) % 64
  let bits := 8 * message.length
  message ++ [0x80] ++ List.replicate zeros 0 ++
    (List.range 8).map (fun i => UInt8.ofNat (bits / 2 ^ (8 * (7 - i))))

def bytesToWords : List UInt8 → List UInt32
  | b0 :: b1 :: b2 :: b3 :: rest =>
    ((b0.toUInt32 <<< 24) ||| (b1.toUInt32 <<< 16) ||| (b2.toUInt32 <<< 8) |||
      b3.toUInt32) :: bytesToWords rest
  | _ => []

/-- Extend a block by `n` words of the message schedule. -/
def extendSchedule : Nat → List UInt32 → List UInt32
  | 0, w => w
  | n + 1, w =>
    let back (i : Nat) : UInt32 := w.getD (w.length - i) 0
    let s0 := rotateRight (back 15) 7 ^^^ rotateRight (back 15) 18 ^^^
      (back 15 >>> 3)
    let s1 := rotateRight (back 2) 17 ^^^ rotateRight (back 2) 19 ^^^
      (back 2 >>> 10)
    extendSchedule n (w ++ [back 16 + s0 + back 7 + s1])

def compressRound (v : Words) (kw : UInt32 × UInt32) : Words :=
  let s1 := rotateRight v.e 6 ^^^ rotateRight v.e 11 ^^^ rotateRight v.e 25
  let ch := (v.e &&& v.f) ^^^ (~~~v.e &&& v.g)
  let t1 := v.h + s1 + ch + kw.1 + kw.2
  let s0 := rotateRight v.a 2 ^^^ rotateRight v.a 13 ^^^ rotateRight v.a 22
  let maj := (v.a &&& v.b) ^^^ (v.a &&& v.c) ^^^ (v.b &&& v.c)
  ⟨t1 + (s0 + maj), v.a, v.b, v.c, v.d + t1, v.e, v.f, v.g⟩

/-- One block of the digest. -/
def compressBlock (v : Words) (block : List UInt32) : Words :=
  let w := (roundConstants.zip (extendSchedule 48 block)).foldl compressRound v
  ⟨v.a + w.a, v.b + w.b, v.c + w.c, v.d + w.d,
    v.e + w.e, v.f + w.f, v.g + w.g, v.h + w.h⟩

/-- Run the compression over the first `n` sixteen-word blocks. -/
def compressBlocks : Nat → Words → List UInt32 → Words
  | 0, v, _ => v
  | n + 1, v, words => compressBlocks n (compressBlock v (words.take 16)) (words.drop 16)

/-- `sha256.Sum256`. -/
def sum256 (message : List UInt8) : List UInt8 :=
  let words := bytesToWords (padMessage message)
  let v := compressBlocks (words.length / 16) initialWords words
  [v.a, v.b, v.c, v.d, v.e, v.f, v.g, v.h].flatMap wordBytes

def hexDigit (n : Nat) : Char :=
  "0123456789abcdef".toList.getD n '0'

/-- `hex.EncodeToString`. -/
def encodeToString (bytes : List UInt8) : List Char :=
  bytes.flatMap fun b => [hexDigit (b.toNat / 16), hexDigit (b.toNat % 16)]

end Sha256
