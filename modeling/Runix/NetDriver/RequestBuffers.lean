import Runix.NetDriver.ServerRuns
import Mathlib.Order.Bounds.Basic

/-!
# The request buffers

`SocketRequest::decode` gives the same answer for a request that is not yet whole and for
bytes that no request begins with.  The server keeps both, so how long a request buffer gets
depends on where in its stream a client first sends something that is not a request.
-/

namespace Runix.NetDriver

open Ipc Lib Lib.ByteStrings Lib.Reading Lib.Runs List SocketRequest

def maxRequestLen : Nat := 4 + maxPayloadLen

theorem encode_length_le {request : SocketRequest} (bounded : request.Bounded) :
    request.encode.length ≤ maxRequestLen := by
  have room : maxRequestLen = 4100 := rfl
  rw [room]
  cases request with
  | openSocket => simp [encode]
  | connect handle remoteIp remotePort localPort =>
    simp [encode, word, le_bytes_length]
  | send handle data =>
    have small : data.length ≤ 4096 := bounded
    simp only [encode, encodeData, length_cons, length_append,
      le_bytes_length]
    omega
  | recv handle maxLen => simp [encode, word, le_bytes_length]
  | close handle => simp [encode]

theorem max_request_len_greatest :
    IsGreatest
      { length | ∃ request : SocketRequest, request.Bounded ∧ request.encode.length = length }
      maxRequestLen := by
  constructor
  · refine ⟨.send 0 (List.replicate maxPayloadLen 0), by simp [SocketRequest.Bounded], ?_⟩
    simp only [encode, encodeData, length_cons, length_append,
      le_bytes_length, length_replicate, maxRequestLen]
    omega
  · rintro _ ⟨request, bounded, rfl⟩
    exact encode_length_le bounded

/-- The bytes begin with no request: with a tag that is none, or with a length above the
bound. -/
def Malformed : Bytes → Prop
  | 1 :: _ :: low :: high :: _ => maxPayloadLen < leNat [low, high]
  | tag :: _ => 4 < tag
  | [] => False

theorem decode_malformed {bytes : Bytes} (malformed : Malformed bytes) (later : Bytes) :
    decode (bytes ++ later) = none := by
  unfold Malformed at malformed
  split at malformed
  · simp [decode, decodeData, malformed]
  · rename_i tag rest _
    unfold decode
    split
    · rfl
    · rename_i heq
      obtain ⟨rfl, -⟩ := List.cons.inj heq
      split <;> first | exact absurd malformed (by decide) | rfl
  · exact malformed.elim

/-- Other bytes that are not yet a request are part of one. -/
theorem partly_length_le {bytes : Bytes} (partly : decode bytes = none)
    (wellFormed : ¬ Malformed bytes) : bytes.length ≤ maxRequestLen := by
  have room : maxRequestLen = 4100 := rfl
  rw [room]
  rcases bytes with _ | ⟨tag, rest⟩
  · simp
  by_cases connects : tag = 0
  · subst connects
    rcases rest with _ | ⟨_, _ | ⟨_, _ | ⟨_, _ | ⟨_, _ | ⟨_, _ | ⟨_, _ | ⟨_, _ | ⟨_, _ |
      ⟨_, rest⟩⟩⟩⟩⟩⟩⟩⟩⟩ <;> simp_all [decode]
  by_cases sends : tag = 1
  · subst sends
    rcases rest with _ | ⟨handle, _ | ⟨low, _ | ⟨high, data⟩⟩⟩
    · simp
    · simp
    · simp
    have announced : leNat [low, high] ≤ maxPayloadLen := Nat.le_of_not_lt wellFormed
    have small : leNat [low, high] ≤ 4096 := announced
    have short : data.length < leNat [low, high] := by
      by_contra enough
      have long : ¬ (low :: high :: data).length < 2 + leNat [low, high] := by
        simp only [length_cons]
        omega
      simp [decode, decodeData, Nat.not_lt.mpr announced] at partly
      exact absurd partly (by simpa using long)
    simp only [length_cons]
    omega
  by_cases receives : tag = 2
  · subst receives
    rcases rest with _ | ⟨_, _ | ⟨_, _ | ⟨_, rest⟩⟩⟩ <;> simp_all [decode]
  by_cases closes : tag = 3
  · subst closes
    rcases rest with _ | ⟨_, rest⟩ <;> simp_all [decode]
  by_cases opens : tag = 4
  · subst opens
    simp [decode] at partly
  -- The tag is above all of them, so the bytes are malformed.
  exfalso
  apply wellFormed
  have above : 4 < tag := by
    have known : tag.toNat ≠ 0 ∧ tag.toNat ≠ 1 ∧ tag.toNat ≠ 2 ∧ tag.toNat ≠ 3 ∧ tag.toNat ≠ 4 :=
      ⟨fun same => connects (UInt8.toNat_inj.mp same), fun same => sends (UInt8.toNat_inj.mp same),
        fun same => receives (UInt8.toNat_inj.mp same),
        fun same => closes (UInt8.toNat_inj.mp same), fun same => opens (UInt8.toNat_inj.mp same)⟩
    change 4 < tag.toNat
    omega
  unfold Malformed
  split
  · rename_i same
    exact absurd (List.cons.inj same).1 sends
  · rename_i same
    obtain ⟨rfl, -⟩ := List.cons.inj same
    exact above
  · rename_i same
    cases same

/-- What a client may send on a session: before the last bytes, requests; and where it sends
anything else, no more bytes than a request has. -/
def Admissible (stream : Bytes) : Prop :=
  ∀ (requests : List SocketRequest) (rest : Bytes), (∀ request ∈ requests, request.Bounded) →
    stream = requests.flatMap encode ++ rest → Malformed rest →
      rest.length ≤ maxRequestLen

theorem encode_ne_nil (request : SocketRequest) : request.encode ≠ [] := by
  cases request <;> simp [encode]

theorem requests_of_malformed {requests : List SocketRequest} {rest : Bytes}
    (bounded : ∀ request ∈ requests, request.Bounded) (malformed : Malformed rest) :
    requestsOf (requests.flatMap encode ++ rest) = (requests, rest) := by
  have kept : receive decode [] rest = ([], [] ++ rest) := by
    apply receive_unread reads
    simpa using decode_malformed malformed []
  rw [requestsOf, receive_words_append SocketRequest.reads encode_ne_nil bounded, kept]
  simp

theorem waiting_length_le_iff (stream : Bytes) (partly : decode (requestsOf stream).2 = none) :
    (requestsOf stream).2.length ≤ maxRequestLen ↔ Admissible stream := by
  obtain ⟨bounded, whole⟩ := receive_whole reads [] stream
  constructor
  · intro short requests rest valid split malformed
    rw [split, requests_of_malformed valid malformed] at short
    exact short
  · intro admissible
    by_cases malformed : Malformed (requestsOf stream).2
    · exact admissible (requestsOf stream).1 (requestsOf stream).2 bounded whole.symm malformed
    · exact partly_length_le partly malformed

namespace ServerHistory

variable {Sock : Type}

/-- In every state of a run, the buffers are within the longest request exactly as long as
every client sends what it may. -/
theorem request_bufs_bounded_iff (stack : TcpStack Sock) (steps : List (LoopStep Sock)) :
    IsGreatest
        { length | ∃ request : SocketRequest, request.Bounded ∧ request.encode.length = length }
        maxRequestLen ∧
      (EveryState (step stack)
          (fun history => ∀ index, (history.loop.requestBufs index).length ≤ maxRequestLen)
          ready steps ↔
        EveryState (step stack) (fun history => ∀ index, Admissible (history.streams index))
          ready steps) := by
  refine ⟨max_request_len_greatest, forall₂_congr fun before _ => forall_congr' fun index => ?_⟩
  have lawful := (run_lawful stack before).places index
  have buffered : (requestsOf ((run (step stack) ready before).streams index)).2 =
      (run (step stack) ready before).loop.requestBufs index := lawful.buffered
  rw [← buffered]
  refine waiting_length_le_iff _ ?_
  rw [buffered]
  exact lawful.partly

/-! ## A client that never sends a request -/

variable {index : Fin maxSockets}

theorem serve_unknown (stack : TcpStack Sock) {loop : ServerLoop Sock} (serves : loop.Serves index)
    {count : Nat} (junk : loop.requestBufs index = List.replicate count 255) (offset : UInt32) :
    (loop.serve stack index offset (some 255)).2 =
      loop.setBuf index (List.replicate (count + 1) 255) := by
  have received : loop.received index (some 255) = List.replicate (count + 1) 255 := by
    rw [ServerLoop.received, junk, replicate_succ']
    rfl
  have partly : decode (List.replicate (count + 1) 255) = none := rfl
  obtain ⟨bound, settled⟩ := serves
  obtain ⟨session, live⟩ := Option.isSome_iff_exists.mp bound
  simp only [ServerLoop.serve, live, settled, received, partly, Option.isSome_none,
    Bool.false_eq_true, if_false]

theorem unknown_bytes_kept (stack : TcpStack Sock) (count : Nat) {history : ServerHistory Sock} (serves : history.loop.Serves index) {before : Nat}
    (junk : history.loop.requestBufs index = List.replicate before 255) :
    (run (step stack) history (List.replicate count (.serve index 0 (some 255)))).loop.requestBufs
        index = List.replicate (before + count) 255 := by
  induction count generalizing history before with
  | zero => exact junk
  | succ count ih =>
    have next := serve_unknown stack serves junk 0
    rw [replicate_succ, run_cons]
    have loop : (history.step stack (.serve index 0 (some 255))).loop =
        history.loop.setBuf index (List.replicate (before + 1) 255) := next
    have more : (history.step stack (.serve index 0 (some 255))).loop.requestBufs index =
        List.replicate (before + 1) 255 := by
      rw [loop]
      exact Function.update_self ..
    rw [ih _ more]
    · congr 1
      omega
    · rw [loop]
      exact serves

def silentStack : TcpStack Unit where
  new := ()
  isOpen := fun _ => false
  established := fun _ => false
  closed := fun _ => true
  connect := fun _ _ _ _ => none
  sendSlice := fun _ _ => none
  canRecv := fun _ => false
  recvSlice := fun _ _ => none

def slotZero : Fin maxSockets := ⟨0, max_sockets_pos⟩

/-- One more byte than the longest request has, none of them a tag. -/
theorem junk_outgrows_requests :
    maxRequestLen <
      ((run (step silentStack) ready
        (.accept (some 0) :: List.replicate 4101 (.serve slotZero 0 (some 255)))).loop.requestBufs
          slotZero).length := by
  have empty : ((ready : ServerHistory Unit).step silentStack (.accept (some 0))).loop.requestBufs
      slotZero = List.replicate 0 255 := rfl
  rw [run_cons, unknown_bytes_kept silentStack 4101 (by decide) empty, length_replicate]
  decide

end ServerHistory

end Runix.NetDriver
