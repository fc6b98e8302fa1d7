import Mathlib.Data.List.Nodup
import Runix.Lib.ByteStrings

/-!
# SHA-256

The hash function of FIPS 180-4 on byte lists, structurally recursive so that it
can be evaluated.  Theorems about programs that hash take the hash as a
parameter; this is the function those parameters stand for.
-/

namespace Runix.Lib.Sha256

open Lib.ByteStrings

def roundConstants : List UInt32 :=
  [0x428a2f98, 0x71374491, 0xb5c0fbcf, 0xe9b5dba5, 0x3956c25b, 0x59f111f1,
   0x923f82a4, 0xab1c5ed5, 0xd807aa98, 0x12835b01, 0x243185be, 0x550c7dc3,
   0x72be5d74, 0x80deb1fe, 0x9bdc06a7, 0xc19bf174, 0xe49b69c1, 0xefbe4786,
   0x0fc19dc6, 0x240ca1cc, 0x2de92c6f, 0x4a7484aa, 0x5cb0a9dc, 0x76f988da,
   0x983e5152, 0xa831c66d, 0xb00327c8, 0xbf597fc7, 0xc6e00bf3, 0xd5a79147,
   0x06ca6351, 0x14292967, 0x27b70a85, 0x2e1b2138, 0x4d2c6dfc, 0x53380d13,
   0x650a7354, 0x766a0abb, 0x81c2c92e, 0x92722c85, 0xa2bfe8a1, 0xa81a664b,
   0xc24b8b70, 0xc76c51a3, 0xd192e819, 0xd6990624, 0xf40e3585, 0x106aa070,
   0x19a4c116, 0x1e376c08, 0x2748774c, 0x34b0bcb5, 0x391c0cb3, 0x4ed8aa4a,
   0x5b9cca4f, 0x682e6ff3, 0x748f82ee, 0x78a5636f, 0x84c87814, 0x8cc70208,
   0x90befffa, 0xa4506ceb, 0xbef9a3f7, 0xc67178f2]

structure Registers where
  a : UInt32
  b : UInt32
  c : UInt32
  d : UInt32
  e : UInt32
  f : UInt32
  g : UInt32
  h : UInt32
deriving DecidableEq, Repr

def initial : Registers :=
  ⟨0x6a09e667, 0xbb67ae85, 0x3c6ef372, 0xa54ff53a, 0x510e527f, 0x9b05688c,
   0x1f83d9ab, 0x5be0cd19⟩

def rotr (x n : UInt32) : UInt32 := (x >>> n) ||| (x <<< (32 - n))

def choose (x y z : UInt32) : UInt32 := (x &&& y) ^^^ (~~~x &&& z)

def majority (x y z : UInt32) : UInt32 := (x &&& y) ^^^ (x &&& z) ^^^ (y &&& z)

def upperSigma0 (x : UInt32) : UInt32 := rotr x 2 ^^^ rotr x 13 ^^^ rotr x 22

def upperSigma1 (x : UInt32) : UInt32 := rotr x 6 ^^^ rotr x 11 ^^^ rotr x 25

def lowerSigma0 (x : UInt32) : UInt32 := rotr x 7 ^^^ rotr x 18 ^^^ (x >>> 3)

def lowerSigma1 (x : UInt32) : UInt32 := rotr x 17 ^^^ rotr x 19 ^^^ (x >>> 10)

/-- One more word of the message schedule; the list holds the newest first. -/
def extendSchedule (words : List UInt32) : List UInt32 :=
  (lowerSigma1 (words.getD 1 0) + words.getD 6 0 + lowerSigma0 (words.getD 14 0) +
    words.getD 15 0) :: words

def schedule (block : List UInt32) : List UInt32 :=
  (Nat.repeat extendSchedule 48 block.reverse).reverse

def round (r : Registers) (input : UInt32 × UInt32) : Registers :=
  let first := r.h + upperSigma1 r.e + choose r.e r.f r.g + input.1 + input.2
  let second := upperSigma0 r.a + majority r.a r.b r.c
  ⟨first + second, r.a, r.b, r.c, r.d + first, r.e, r.f, r.g⟩

def compress (r : Registers) (block : List UInt32) : Registers :=
  let s := (roundConstants.zip (schedule block)).foldl round r
  ⟨r.a + s.a, r.b + s.b, r.c + s.c, r.d + s.d, r.e + s.e, r.f + s.f, r.g + s.g, r.h + s.h⟩

def wordOf : Bytes → UInt32
  | [p, q, r, s] => (p.toUInt32 <<< 24) ||| (q.toUInt32 <<< 16) ||| (r.toUInt32 <<< 8) ||| s.toUInt32
  | _ => 0

def bytesOf (word : UInt32) : Bytes :=
  [(word >>> 24).toUInt8, (word >>> 16).toUInt8, (word >>> 8).toUInt8, word.toUInt8]

def pieces (size : Nat) : Nat → Bytes → List Bytes
  | 0, _ => []
  | count + 1, bytes => bytes.take size :: pieces size count (bytes.drop size)

/-- A one bit, zeros up to a multiple of 64 bytes, and the length in bits. -/
def pad (message : Bytes) : Bytes :=
  message ++ 0x80 :: List.replicate ((119 - message.length % 64) % 64) 0 ++
    (leBytes 8 (8 * message.length)).reverse

def sha256 (message : Bytes) : Bytes :=
  let padded := pad message
  let blocks := (pieces 64 (padded.length / 64) padded).map fun block =>
    (pieces 4 16 block).map wordOf
  let r := blocks.foldl compress initial
  bytesOf r.a ++ bytesOf r.b ++ bytesOf r.c ++ bytesOf r.d ++ bytesOf r.e ++ bytesOf r.f ++
    bytesOf r.g ++ bytesOf r.h

theorem sha256_length (message : Bytes) : (sha256 message).length = 32 := by
  simp [sha256, bytesOf]

/-- An injective function that agrees with SHA-256 on the listed messages. -/
def tabulated (messages : List Bytes) (message : Bytes) : Bytes :=
  if message ∈ messages then sha256 message else message ++ List.replicate 33 0

theorem tabulated_injective {messages : List Bytes} (distinct : (messages.map sha256).Nodup) :
    Function.Injective (tabulated messages) := by
  -- Digests are 32 bytes long, everything else is longer.
  have apart : ∀ listed other : Bytes, sha256 listed ≠ other ++ List.replicate 33 0 := by
    intro listed other same
    have lengths := congrArg List.length same
    rw [sha256_length, List.length_append, List.length_replicate] at lengths
    omega
  intro first second same
  unfold tabulated at same
  split_ifs at same with inFirst inSecond inSecond
  · exact List.inj_on_of_nodup_map distinct inFirst inSecond same
  · exact absurd same (apart first second)
  · exact absurd same.symm (apart second first)
  · exact List.append_cancel_right same

end Runix.Lib.Sha256
