import Runix.Lib.ByteStrings

/-!
# The sockets wire format

`ipc/src/sockets.rs`: the requests a client of `net-driver-host` sends over a session
and the responses it reads back.
-/

namespace Runix.Ipc

open Lib.ByteStrings

def maxSockets : Nat := 4

theorem max_sockets_pos : 0 < maxSockets := by decide

def maxPayloadLen : Nat := 4096

/-- `[u8; 4]`. -/
abbrev Ipv4 := UInt8 × UInt8 × UInt8 × UInt8

inductive SocketError where
  | alreadyOpen
  | notOpen
  | invalidLength
  | connectFailed
  | tooManyOpen
  | invalidHandle
deriving DecidableEq, Repr

namespace SocketError

def toByte : SocketError → UInt8
  | .alreadyOpen => 0
  | .notOpen => 1
  | .invalidLength => 2
  | .connectFailed => 3
  | .tooManyOpen => 4
  | .invalidHandle => 5

def fromByte (byte : UInt8) : Option SocketError :=
  match byte with
  | 0 => some .alreadyOpen
  | 1 => some .notOpen
  | 2 => some .invalidLength
  | 3 => some .connectFailed
  | 4 => some .tooManyOpen
  | 5 => some .invalidHandle
  | _ => none

@[simp]
theorem from_byte_to_byte (error : SocketError) : fromByte error.toByte = some error := by
  cases error <;> rfl

end SocketError

inductive SocketRequest where
  | openSocket
  | connect (handle : UInt8) (remoteIp : Ipv4) (remotePort localPort : UInt16)
  | send (handle : UInt8) (data : Bytes)
  | recv (handle : UInt8) (maxLen : UInt16)
  | close (handle : UInt8)
deriving DecidableEq, Repr

inductive SocketResponse where
  | connected (handle : UInt8)
  | openFailed (error : SocketError)
  | connectFailed (handle : UInt8) (error : SocketError)
  | sent (handle : UInt8) (len : UInt16)
  | sendFailed (handle : UInt8) (error : SocketError)
  | data (handle : UInt8) (data : Bytes)
  | opened (handle : UInt8)
  | closed (handle : UInt8)
  | error (handle : UInt8) (error : SocketError)
deriving DecidableEq, Repr

/-- `to_le_bytes` of a `u16`. -/
def word (value : UInt16) : Bytes := leBytes 2 value.toNat

/-- `from_le_bytes` of a `u16`. -/
def fromWord (low high : UInt8) : UInt16 := UInt16.ofNat (leNat [low, high])

/-- A length as a `u16` and the data; a length from 65536 on wraps. -/
def encodeData (data : Bytes) : Bytes := leBytes 2 data.length ++ data

/-- The data of a `Send` or `Data` message, after its handle. -/
def decodeData (buf : Bytes) : Option Bytes :=
  if buf.length < 2 then none
  else
    let len := leNat (buf.take 2)
    if len > maxPayloadLen then none
    else if buf.length < 2 + len then none
    else some ((buf.drop 2).take len)

namespace SocketRequest

def encode : SocketRequest → Bytes
  | .connect handle (a, b, c, d) remotePort localPort =>
    0 :: handle :: a :: b :: c :: d :: (word remotePort ++ word localPort)
  | .send handle data => 1 :: handle :: encodeData data
  | .recv handle maxLen => 2 :: handle :: word maxLen
  | .close handle => [3, handle]
  | .openSocket => [4]

def decode (buf : Bytes) : Option (SocketRequest × Nat) :=
  match buf with
  | [] => none
  | tag :: rest =>
    match tag with
    | 0 =>
      match rest with
      | handle :: a :: b :: c :: d :: r0 :: r1 :: l0 :: l1 :: _ =>
        some (.connect handle (a, b, c, d) (fromWord r0 r1) (fromWord l0 l1), 10)
      | _ => none
    | 1 =>
      match rest with
      | handle :: body =>
        (decodeData body).map fun data => (.send handle data, 4 + data.length)
      | [] => none
    | 2 =>
      match rest with
      | handle :: m0 :: m1 :: _ => some (.recv handle (fromWord m0 m1), 4)
      | _ => none
    | 3 =>
      match rest with
      | handle :: _ => some (.close handle, 2)
      | [] => none
    | 4 => some (.openSocket, 1)
    | _ => none

def Bounded : SocketRequest → Prop
  | .send _ data => data.length ≤ maxPayloadLen
  | _ => True

end SocketRequest

namespace SocketResponse

def encode : SocketResponse → Bytes
  | .connected handle => [0, handle]
  | .openFailed cause => [1, cause.toByte]
  | .sent handle len => 2 :: handle :: word len
  | .sendFailed handle cause => [3, handle, cause.toByte]
  | .data handle payload => 4 :: handle :: encodeData payload
  | .closed handle => [5, handle]
  | .error handle cause => [6, handle, cause.toByte]
  | .opened handle => [7, handle]
  | .connectFailed handle cause => [8, handle, cause.toByte]

def decodeFailure (failure : UInt8 → SocketError → SocketResponse) (rest : Bytes) :
    Option (SocketResponse × Nat) :=
  match rest with
  | handle :: code :: _ => (SocketError.fromByte code).map fun cause => (failure handle cause, 3)
  | _ => none

def decode (buf : Bytes) : Option (SocketResponse × Nat) :=
  match buf with
  | [] => none
  | tag :: rest =>
    match tag with
    | 0 => rest.head?.map fun handle => (.connected handle, 2)
    | 1 => (rest.head?.bind SocketError.fromByte).map fun cause => (.openFailed cause, 2)
    | 2 =>
      match rest with
      | handle :: l0 :: l1 :: _ => some (.sent handle (fromWord l0 l1), 4)
      | _ => none
    | 3 => decodeFailure .sendFailed rest
    | 4 =>
      match rest with
      | handle :: body =>
        (decodeData body).map fun payload => (.data handle payload, 4 + payload.length)
      | [] => none
    | 5 => rest.head?.map fun handle => (.closed handle, 2)
    | 6 => decodeFailure .error rest
    | 7 => rest.head?.map fun handle => (.opened handle, 2)
    | 8 => decodeFailure .connectFailed rest
    | _ => none

def Bounded : SocketResponse → Prop
  | .data _ payload => payload.length ≤ maxPayloadLen
  | _ => True

end SocketResponse

/-! ## Round trips -/

theorem word_eq (value : UInt16) :
    word value = [UInt8.ofNat (value.toNat % 256), UInt8.ofNat (value.toNat / 256 % 256)] := rfl

@[simp]
theorem from_word_word (value : UInt16) :
    fromWord (UInt8.ofNat (value.toNat % 256)) (UInt8.ofNat (value.toNat / 256 % 256)) = value := by
  have small : value.toNat < 256 ^ 2 := value.toNat_lt
  have read := le_nat_le_bytes small
  rw [fromWord, ← word_eq, word, read, UInt16.ofNat_toNat]

theorem decode_data_encode {data : Bytes} (bounded : data.length ≤ maxPayloadLen)
    (rest : Bytes) : decodeData (encodeData data ++ rest) = some data := by
  have small : data.length < 256 ^ 2 := by
    rw [maxPayloadLen] at bounded
    omega
  have field : (encodeData data ++ rest).take 2 = leBytes 2 data.length := by
    rw [encodeData, List.append_assoc, List.take_left' (le_bytes_length _ _)]
  have body : (encodeData data ++ rest).drop 2 = data ++ rest := by
    rw [encodeData, List.append_assoc, List.drop_left' (le_bytes_length _ _)]
  have size : (encodeData data ++ rest).length = 2 + data.length + rest.length := by
    simp [encodeData, Nat.add_assoc]
  unfold decodeData
  simp only [field, body, size, le_nat_le_bytes small]
  rw [if_neg (by omega), if_neg (by omega), if_neg (by omega), List.take_left' rfl]

theorem SocketRequest.decode_encode {request : SocketRequest} (bounded : request.Bounded)
    (rest : Bytes) : decode (request.encode ++ rest) = some (request, request.encode.length) := by
  cases request with
  | openSocket => rfl
  | connect handle remoteIp remotePort localPort => simp [encode, decode, word_eq]
  | send handle data =>
    simp only [encode, List.cons_append, decode, decode_data_encode bounded, Option.map_some]
    simp [encodeData]
    omega
  | recv handle maxLen => simp [encode, decode, word_eq]
  | close handle => rfl

theorem SocketResponse.decode_encode {response : SocketResponse} (bounded : response.Bounded)
    (rest : Bytes) :
    decode (response.encode ++ rest) = some (response, response.encode.length) := by
  cases response with
  | data handle payload =>
    simp only [encode, List.cons_append, decode, decode_data_encode bounded, Option.map_some]
    simp [encodeData]
    omega
  | _ => simp [encode, decode, decodeFailure, word_eq]

end Runix.Ipc
