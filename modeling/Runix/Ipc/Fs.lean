import Runix.Capability.Token
import Runix.Ipc.Marshal
import Runix.Lib.Reading

/-!
# The filesystem wire format

`ipc/src/fs.rs`: every request carries a file name and a capability token, and a tag
byte with length-prefixed fields as in the other formats.
-/

namespace Runix.Ipc

open Lib Lib.ByteStrings Lib.Reading Lib.Streaming List
open Capability (CapabilityToken)

def maxNameLen : Nat := 64

def maxTokenFieldLen : Nat := 256

def maxDataLen : Nat := 4096

namespace Fs

/-- A length from 65536 on wraps. -/
def encodeString (text : String) : Bytes := leBytes 2 (utf8 text).length ++ utf8 text

def decodeString (buf : Bytes) : Option (String × Nat) :=
  if buf.length < 2 then none
  else
    let len := leNat (buf.take 2)
    if len > maxTokenFieldLen then none
    else if buf.length < 2 + len then none
    else (Utf8.fromUtf8 ((buf.drop 2).take len)).map fun text => (text, 2 + len)

def encodeToken (token : CapabilityToken) : Bytes :=
  encodeString token.subject ++ encodeString token.resource ++
    leBytes 8 token.issuedAt ++ leBytes 8 token.expiresAt ++
    encodeString token.keyId ++ encodeString token.signature

def decodeToken (buf : Bytes) : Option (CapabilityToken × Nat) := do
  let (subject, n) ← decodeString buf
  let off := n
  let (resource, n) ← decodeString (buf.drop off)
  let off := off + n
  if buf.length < off + 16 then
    none
  else
    let issuedAt := leNat ((buf.drop off).take 8)
    let off := off + 8
    let expiresAt := leNat ((buf.drop off).take 8)
    let off := off + 8
    let (keyId, n) ← decodeString (buf.drop off)
    let off := off + n
    let (signature, n) ← decodeString (buf.drop off)
    let off := off + n
    some (⟨subject, resource, issuedAt, expiresAt, keyId, signature⟩, off)

def encodeData (data : Bytes) : Bytes := leBytes 2 data.length ++ data

def decodeData (buf : Bytes) : Option (Bytes × Nat) :=
  if buf.length < 2 then none
  else
    let len := leNat (buf.take 2)
    if len > maxDataLen then none
    else if buf.length < 2 + len then none
    else some ((buf.drop 2).take len, 2 + len)

end Fs

inductive FsRequest where
  | read (name : String) (token : CapabilityToken)
  | write (name : String) (token : CapabilityToken) (data : Bytes)
deriving DecidableEq, Repr

namespace FsRequest

def encode : FsRequest → Bytes
  | .read name token => 0 :: (Fs.encodeString name ++ Fs.encodeToken token)
  | .write name token data =>
    1 :: (Fs.encodeString name ++ (Fs.encodeToken token ++ Fs.encodeData data))

def decode (buf : Bytes) : Option (FsRequest × Nat) := do
  let tag ← buf.head?
  let off := 1
  let (name, n) ← Fs.decodeString (buf.drop off)
  if (utf8 name).length > maxNameLen then
    none
  else
    let off := off + n
    let (token, n) ← Fs.decodeToken (buf.drop off)
    let off := off + n
    match tag with
    | 0 => some (.read name token, off)
    | 1 => (Fs.decodeData (buf.drop off)).map fun (data, n) => (.write name token data, off + n)
    | _ => none

end FsRequest

inductive FsError where
  | unauthorized
  | notFound
  | badRequest
  | deviceFailed
deriving DecidableEq, Repr

namespace FsError

def toByte : FsError → UInt8
  | .unauthorized => 0
  | .notFound => 1
  | .badRequest => 2
  | .deviceFailed => 3

def fromByte (byte : UInt8) : Option FsError :=
  match byte with
  | 0 => some .unauthorized
  | 1 => some .notFound
  | 2 => some .badRequest
  | 3 => some .deviceFailed
  | _ => none

theorem from_byte_eq_some_iff (byte : UInt8) (error : FsError) :
    fromByte byte = some error ↔ error.toByte = byte := by
  unfold fromByte
  split <;> cases error <;> simp_all [toByte, eq_comm]

end FsError

inductive FsResponse where
  | data (contents : Bytes)
  | ok
  | error (cause : FsError)
deriving DecidableEq, Repr

namespace FsResponse

def encode : FsResponse → Bytes
  | .data contents => 0 :: Fs.encodeData contents
  | .ok => [1]
  | .error cause => [2, cause.toByte]

def decode (buf : Bytes) : Option (FsResponse × Nat) :=
  match buf with
  | [] => none
  | tag :: rest =>
    match tag with
    | 0 => (Fs.decodeData rest).map fun (contents, n) => (.data contents, 1 + n)
    | 1 => some (.ok, 1)
    | 2 => (rest.head?.bind FsError.fromByte).map fun cause => (.error cause, 2)
    | _ => none

end FsResponse

/-! ## The format -/

def Fs.StringBounded (text : String) : Prop := (utf8 text).length ≤ maxTokenFieldLen

def Fs.TokenBounded (token : CapabilityToken) : Prop :=
  Fs.StringBounded token.subject ∧ Fs.StringBounded token.resource ∧
    token.issuedAt < 2 ^ 64 ∧ token.expiresAt < 2 ^ 64 ∧
    Fs.StringBounded token.keyId ∧ Fs.StringBounded token.signature

def FsRequest.Bounded : FsRequest → Prop
  | .read name token => (utf8 name).length ≤ maxNameLen ∧ Fs.TokenBounded token
  | .write name token data =>
    (utf8 name).length ≤ maxNameLen ∧ Fs.TokenBounded token ∧ data.length ≤ maxDataLen

def FsResponse.Bounded : FsResponse → Prop
  | .data contents => contents.length ≤ maxDataLen
  | _ => True

namespace Fs

theorem data_format :
    BlobFormat 2 maxDataLen leNat (leBytes 2) (some : Bytes → Option Bytes) id where
  header_length := le_bytes_length 2
  length_header := by
    intro size bound
    apply le_nat_le_bytes
    exact Nat.lt_of_le_of_lt bound (by decide)
  header_of_length := fun _ full => le_bytes_of_le_nat full
  parse_iff := by
    intro letters value
    rw [Option.some.injEq, id_eq, eq_comm]
  sizes := fun size _ => ⟨List.replicate size 0, by simp⟩

theorem string_reads : Reads decodeString encodeString StringBounded :=
  reads_blob string_format

theorem data_reads : Reads decodeData encodeData fun data => data.length ≤ maxDataLen := by
  have same : decodeData = blobDecode 2 maxDataLen leNat (some : Bytes → Option Bytes) := by
    funext buf
    simp [decodeData, blobDecode]
  exact reads_blob data_format

def decodeTimes (buf : Bytes) : Option ((Nat × Nat) × Nat) :=
  if buf.length < 16 then none
  else some ((leNat (buf.take 8), leNat ((buf.drop 8).take 8)), 16)

theorem times_reads :
    Reads decodeTimes (fun times => leBytes 8 times.1 ++ leBytes 8 times.2)
      (fun times => times.1 < 2 ^ 64 ∧ times.2 < 2 ^ 64) := by
  apply reads_of_round_trip
  · rintro ⟨issued, expires⟩ ⟨issuedSmall, expiresSmall⟩ rest
    have issuedRead : leNat (leBytes 8 issued) = issued := le_nat_le_bytes issuedSmall
    have expiresRead : leNat (leBytes 8 expires) = expires := le_nat_le_bytes expiresSmall
    have long : ¬ 8 + (8 + rest.length) < 16 := by omega
    simp only [decodeTimes, append_assoc, length_append, le_bytes_length, if_neg long,
      take_left' (le_bytes_length 8 _), drop_left' (le_bytes_length 8 _), issuedRead,
      expiresRead]
  · rintro buf ⟨issued, expires⟩ size found
    unfold decodeTimes at found
    split_ifs at found with short
    obtain ⟨⟨rfl, rfl⟩, -⟩ := found
    have first : (buf.take 8).length = 8 := by simp; omega
    have second : ((buf.drop 8).take 8).length = 8 := by simp; omega
    refine ⟨⟨?_, ?_⟩, buf.drop 16, ?_⟩
    · have small := le_nat_lt (buf.take 8)
      rwa [first] at small
    · have small := le_nat_lt ((buf.drop 8).take 8)
      rwa [second] at small
    · rw [le_bytes_of_le_nat first, le_bytes_of_le_nat second, append_assoc]
      have later : buf.drop 16 = (buf.drop 8).drop 8 := by rw [drop_drop]
      rw [later, take_append_drop, take_append_drop]

def buildToken (fields : String × String × (Nat × Nat) × String × String) : CapabilityToken :=
  ⟨fields.1, fields.2.1, fields.2.2.1.1, fields.2.2.1.2, fields.2.2.2.1, fields.2.2.2.2⟩

theorem decode_times_at (buf : Bytes) (off : Nat) :
    decodeTimes (buf.drop off) =
      if buf.length < off + 16 then none
      else some ((leNat ((buf.drop off).take 8), leNat ((buf.drop (off + 8)).take 8)), 16) := by
  have short : (buf.drop off).length < 16 ↔ buf.length < off + 16 := by
    rw [length_drop]
    omega
  simp only [decodeTimes, short, drop_drop]

theorem decode_token_eq (buf : Bytes) :
    decodeToken buf =
      (readPair decodeString (readPair decodeString
        (readPair decodeTimes (readPair decodeString decodeString))) buf).map
        fun found => (buildToken found.1, found.2) := by
  -- The offsets of the source add up to those of the pairs.
  simp only [decodeToken, readPair, Option.bind_eq_bind, Option.map_bind, Function.comp_def,
    drop_drop, decode_times_at]
  rcases decodeString buf with _ | ⟨subject, n⟩
  · rfl
  simp only [Option.bind_some]
  rcases decodeString (buf.drop n) with _ | ⟨resource, m⟩
  · rfl
  simp only [Option.bind_some]
  split_ifs with short
  · rfl
  simp only [Option.bind_some]
  rcases decodeString (buf.drop (n + m + 16)) with _ | ⟨keyId, k⟩
  · rfl
  simp only [Option.bind_some]
  rcases decodeString (buf.drop (n + m + 16 + k)) with _ | ⟨signature, l⟩
  · rfl
  simp [buildToken, Nat.add_assoc]

theorem token_reads : Reads decodeToken encodeToken TokenBounded := by
  have fields := string_reads.pair (string_reads.pair
    (times_reads.pair (string_reads.pair string_reads)))
  have same : decodeToken = _ := funext decode_token_eq
  rw [same]
  apply fields.wrap buildToken
  · rintro ⟨subject, resource, ⟨issued, expires⟩, keyId, signature⟩
    simp [buildToken, encodeToken]
  · rintro ⟨subject, resource, issued, expires, keyId, signature⟩
    simp [buildToken, TokenBounded, and_assoc]

end Fs

/-! A request: a tag, then a name and a token, and the contents to write. -/

namespace FsRequest

def tag : FsRequest → UInt8
  | .read .. => 0
  | .write .. => 1

def body : FsRequest → Bytes
  | .read name token => Fs.encodeString name ++ Fs.encodeToken token
  | .write name token data =>
    Fs.encodeString name ++ (Fs.encodeToken token ++ Fs.encodeData data)

def decodeName (buf : Bytes) : Option (String × Nat) :=
  (Fs.decodeString buf).filter fun found => (utf8 found.1).length ≤ maxNameLen

def bodyDecode (tag : UInt8) (rest : Bytes) : Option (FsRequest × Nat) :=
  match tag with
  | 0 => (readPair decodeName Fs.decodeToken rest).map fun found =>
    (.read found.1.1 found.1.2, found.2)
  | 1 => (readPair decodeName (readPair Fs.decodeToken Fs.decodeData) rest).map fun found =>
    (.write found.1.1 found.1.2.1 found.1.2.2, found.2)
  | _ => none

theorem name_reads :
    Reads decodeName Fs.encodeString fun name => (utf8 name).length ≤ maxNameLen := by
  have checked := Fs.string_reads.restrict fun name => (utf8 name).length ≤ maxNameLen
  apply checked.congr
  intro name
  refine and_iff_right_of_imp fun short => ?_
  exact Nat.le_trans short (by decide)

theorem decode_eq : decode = dispatchDecode bodyDecode := by
  funext buf
  cases buf with
  | nil => rfl
  | cons tag rest =>
    have start : (tag :: rest).drop 1 = rest := rfl
    simp only [decode, dispatchDecode, bodyDecode, List.head?_cons, Option.bind_eq_bind,
      Option.bind_some, start, readPair, decodeName]
    rcases Fs.decodeString rest with _ | ⟨name, n⟩
    · split <;> rfl
    have later : (tag :: rest).drop (1 + n) = rest.drop n := by rw [← drop_drop, start]
    by_cases short : (utf8 name).length ≤ maxNameLen
    · simp only [Option.bind_some, if_neg (Nat.not_lt.mpr short), later, Option.filter_some,
        short, decide_true, if_true]
      rcases Fs.decodeToken (rest.drop n) with _ | ⟨token, m⟩
      · split <;> rfl
      have last : (tag :: rest).drop (1 + n + m) = (rest.drop n).drop m := by
        rw [← drop_drop, later]
      simp only [Option.bind_some, last]
      split <;> simp [Nat.add_assoc, Function.comp_def]
    · simp only [Option.bind_some, if_pos (Nat.lt_of_not_le short), short, Option.filter_some,
        decide_false, if_false, Bool.false_eq_true]
      split <;> rfl

theorem body_reads (tag : UInt8) :
    Reads (bodyDecode tag) body fun request => request.tag = tag ∧ request.Bounded := by
  by_cases read : tag = 0
  · subst read
    apply (name_reads.pair Fs.token_reads).wrap fun found => FsRequest.read found.1 found.2
    · intro found
      rfl
    · rintro (⟨name, token⟩ | ⟨name, token, data⟩) <;> simp [FsRequest.tag, Bounded]
  by_cases write : tag = 1
  · subst write
    apply (name_reads.pair (Fs.token_reads.pair Fs.data_reads)).wrap
      fun found => FsRequest.write found.1 found.2.1 found.2.2
    · intro found
      rfl
    · rintro (⟨name, token⟩ | ⟨name, token, data⟩) <;> simp [FsRequest.tag, Bounded]
  · have decode : bodyDecode tag = fun _ => none := by
      funext rest
      unfold bodyDecode
      split <;> simp_all
    rw [decode]
    apply (reads_none body).congr
    rintro (⟨name, token⟩ | ⟨name, token, data⟩) <;> simp_all [FsRequest.tag, eq_comm]

theorem encode_eq : encode = fun request => request.tag :: request.body := by
  funext request
  cases request <;> rfl

theorem reads : Reads decode encode Bounded := by
  rw [decode_eq, encode_eq]
  exact reads_dispatch body_reads

end FsRequest

/-! A response: a tag, then the contents or an error code. -/

namespace FsResponse

theorem reads : Reads decode encode Bounded := by
  apply reads_of_round_trip
  · intro response bounded rest
    cases response with
    | data contents =>
      simp [encode, decode, Fs.data_reads.decode_encode bounded, Nat.add_comm]
    | ok => rfl
    | error cause =>
      have code : FsError.fromByte cause.toByte = some cause :=
        (FsError.from_byte_eq_some_iff _ _).mpr rfl
      simp [encode, decode, code]
  · intro buf response size found
    cases buf with
    | nil => simp [decode] at found
    | cons tag rest =>
      simp only [decode] at found
      split at found
      · simp only [Option.map_eq_some_iff, Prod.mk.injEq, Prod.exists] at found
        obtain ⟨contents, n, read, rfl, -⟩ := found
        obtain ⟨bounded, front, -⟩ := (Fs.data_reads _ _ _).mp read
        exact ⟨bounded, cons_prefix_cons.mpr ⟨rfl, front⟩⟩
      · cases found
        exact ⟨trivial, cons_prefix_cons.mpr ⟨rfl, nil_prefix⟩⟩
      · cases rest with
        | nil => simp at found
        | cons code rest =>
          simp only [List.head?_cons, Option.bind_some, Option.map_eq_some_iff,
            Prod.mk.injEq, FsError.from_byte_eq_some_iff] at found
          obtain ⟨cause, rfl, rfl, -⟩ := found
          exact ⟨trivial, by simp [encode]⟩
      · simp at found

end FsResponse

end Runix.Ipc
