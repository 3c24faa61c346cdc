import UIoT.Defs

/-!
# The network below the clients

`utils_network_t` holds the functions a client reads and writes through. What
they do is up to the transport and the peer, so a network is a parameter: a
state and a read function on it. A read of `n` bytes returns a code or a count,
and the bytes it stored.
-/

set_option autoImplicit false

namespace UIoT

/-- The read function of `utils_network_t` over a network in some state. -/
structure NetworkStack (σ : Type) where
  /-- `read(pNetwork, buffer, len, timeout_ms)`: the value returned, the bytes
  stored at the start of `buffer`, and the network afterwards. The timeout only
  bounds what the network may do, which is arbitrary here. -/
  read : σ → Nat → Int × List UInt8 × σ

/-- What a call of `recv` on a socket does: it stores bytes, maybe none, or fails
with an error that is not to be tried again. -/
inductive Recv where
  | got (bytes : List UInt8)
  | failed

/-- The loop of `HAL_TCP_Read` over the calls of `recv` before its time is up,
with the bytes received so far. -/
def halTcpRead (len : Nat) : List UInt8 → List Recv → Int × List UInt8
  | received, [] => (received.length, received)
  | received, .failed :: _ =>
      if received = [] then (errTcpReadFailed, []) else (received.length, received)
  | received, .got bytes :: recvs =>
      let received := received ++ bytes.take (len - received.length)
      if received.length < len then halTcpRead len received recvs else (received.length, received)

/-- The network over a TCP socket: the state tells what `recv` does during each
read. -/
def tcpNetwork {σ : Type} (recvs : σ → Nat → List Recv × σ) : NetworkStack σ where
  read s len :=
    let (results, s) := recvs s len
    let (ret, bytes) := halTcpRead len [] results
    (ret, bytes, s)

/-- `HAL_TCP_Read` returns a count or the one code that it has. -/
theorem halTcpRead_code (len : Nat) (recvs : List Recv) (received : List UInt8) :
    0 ≤ (halTcpRead len received recvs).1 ∨ (halTcpRead len received recvs).1 = errTcpReadFailed := by
  induction recvs generalizing received with
  | nil => exact .inl (Int.natCast_nonneg _)
  | cons recv recvs ih =>
      cases recv with
      | failed =>
          rw [halTcpRead]
          split
          · exact .inr rfl
          · exact .inl (Int.natCast_nonneg _)
      | got bytes =>
          simp only [halTcpRead]
          split
          · exact ih _
          · exact .inl (Int.natCast_nonneg _)

/-- Storing bytes into a buffer at an offset. -/
def overwrite (buf : List UInt8) (offset : Nat) (bytes : List UInt8) : List UInt8 :=
  buf.take offset ++ bytes ++ buf.drop (offset + bytes.length)

theorem overwrite_length {buf : List UInt8} {offset : Nat} {bytes : List UInt8}
    (fits : offset + bytes.length ≤ buf.length) :
    (overwrite buf offset bytes).length = buf.length := by
  simp only [overwrite, List.length_append, List.length_take, List.length_drop]
  omega

theorem overwrite_take {buf bytes : List UInt8} {offset : Nat}
    (fits : offset + bytes.length ≤ buf.length) :
    (overwrite buf offset bytes).take (offset + bytes.length) = buf.take offset ++ bytes := by
  have front : (buf.take offset ++ bytes).length = offset + bytes.length := by
    rw [List.length_append, List.length_take]
    omega
  rw [overwrite, ← front, List.take_left]

theorem overwrite_zero (buf bytes : List UInt8) :
    overwrite buf 0 bytes = bytes ++ buf.drop bytes.length := by
  simp [overwrite]

/-- Storing right after a known prefix. -/
theorem overwrite_append (start after bytes : List UInt8) :
    overwrite (start ++ after) start.length bytes = start ++ bytes ++ after.drop bytes.length := by
  have drops : (start ++ after).drop (start.length + bytes.length) = after.drop bytes.length := by
    rw [← List.drop_drop, List.drop_left]
  rw [overwrite, List.take_left, drops]

end UIoT
