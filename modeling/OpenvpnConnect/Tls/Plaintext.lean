import OpenvpnConnect.Tls.Records

namespace OpenvpnConnect.Tls

open Transition

section Calls

variable {rustls : Rustls}

-- The connection once one read_tls has taken `read` bytes of the input and the
-- packets are processed.
def ClientConnection.fed (rustls : Rustls) (connection : ClientConnection) (input : List UInt8) :
    ClientConnection :=
  let read := rustls.take connection.taken input.length
  let taken := connection.taken ++ input.take read
  { taken := taken
    processed := taken
    received := connection.received ++ (rustls.decrypt taken).drop (rustls.decrypt connection.processed).length
    hasReceivedCloseNotify := rustls.status taken == .Closed
    hasSeenEof := connection.hasSeenEof || read == 0 }

theorem take_le_isizeMax (rustls : Rustls) (taken : List UInt8) (input : Slice) :
    rustls.take taken input.val.length ≤ isizeMax :=
  Nat.le_trans (rustls.take_le taken input.val.length) input.property

theorem writeCiphertext_full {handle : TlsConnection} (input : Slice)
    (hfull : rustls.limit < handle.connection.received.length) :
    writeCiphertext rustls handle input = (-3, handle) := by
  simp [writeCiphertext, ClientConnection.readTls, hfull, ffiIo]

-- After the close_notify a read_tls takes nothing.
theorem writeCiphertext_closed {handle : TlsConnection} (input : Slice)
    (hroom : handle.connection.received.length ≤ rustls.limit)
    (hclose : handle.connection.hasReceivedCloseNotify = true)
    (hprocessed : handle.connection.processed = handle.connection.taken)
    (hclosed : rustls.status handle.connection.taken = .Closed) :
    writeCiphertext rustls handle input =
      (0, { handle with plaintextReady := handle.connection.received.length, peerClosed := true }) := by
  have hlt : ¬rustls.limit < handle.connection.received.length := by omega
  have hsame : (handle.connection.processNewPackets rustls).2 = handle.connection := by
    obtain ⟨⟨taken, processed, received, closed, seen⟩, ready, peer⟩ := handle
    replace hprocessed : processed = taken := hprocessed
    replace hclose : closed = true := hclose
    replace hclosed : rustls.status taken = .Closed := hclosed
    simp [ClientConnection.processNewPackets, hclosed, hprocessed, hclose]
  have hresult : handle.connection.processNewPackets rustls =
      (.ok ⟨handle.connection.received.length, true⟩, handle.connection) := by
    refine Prod.ext ?_ hsame
    simp [ClientConnection.processNewPackets, hclosed, hprocessed]
  simp [writeCiphertext, ClientConnection.readTls, hlt, hclose, hresult, ffiIo, usizeMax]

theorem writeCiphertext_failed {handle : TlsConnection} (input : Slice)
    (hroom : handle.connection.received.length ≤ rustls.limit)
    (hclose : handle.connection.hasReceivedCloseNotify = false)
    (hfailed : rustls.status (handle.connection.fed rustls input.val).taken = .Failed) :
    writeCiphertext rustls handle input =
      (-3, { handle with connection := handle.connection.fed rustls input.val }) := by
  have hlt : ¬rustls.limit < handle.connection.received.length := by omega
  simp only [ClientConnection.fed] at hfailed
  simp [writeCiphertext, ClientConnection.readTls, hlt, hclose, ClientConnection.processNewPackets, hfailed,
    ffiIo, ClientConnection.fed]

theorem writeCiphertext_ok {handle : TlsConnection} (input : Slice)
    (hroom : handle.connection.received.length ≤ rustls.limit)
    (hclose : handle.connection.hasReceivedCloseNotify = false)
    (halive : rustls.status (handle.connection.fed rustls input.val).taken ≠ .Failed) :
    writeCiphertext rustls handle input =
      ((rustls.take handle.connection.taken input.val.length : Int),
        { connection := handle.connection.fed rustls input.val
          plaintextReady := (handle.connection.fed rustls input.val).received.length
          peerClosed := (handle.connection.fed rustls input.val).hasReceivedCloseNotify }) := by
  have hlt : ¬rustls.limit < handle.connection.received.length := by omega
  have hread := ffiIo_length (take_le_isizeMax rustls handle.connection.taken input)
  simp only [ClientConnection.fed] at halive ⊢
  cases hstatus : rustls.status
      (handle.connection.taken ++ input.val.take (rustls.take handle.connection.taken input.val.length)) with
  | Failed => exact absurd hstatus halive
  | Open | Closed =>
      simp [writeCiphertext, ClientConnection.readTls, hlt, hclose, ClientConnection.processNewPackets, hstatus,
        hread]

-- A read gives what there is, and else tells what the connection has come to.
theorem readPlaintext_data {handle : TlsConnection} (output : Capacity)
    (hdata : handle.connection.received ≠ []) :
    readPlaintext handle output =
      (((handle.connection.received.take output.val).length : Int),
        handle.connection.received.take output.val,
        { handle with
          connection := { handle.connection with received := handle.connection.received.drop output.val }
          plaintextReady := handle.plaintextReady - (handle.connection.received.take output.val).length }) := by
  have hsome : handle.connection.received.take output.val ≠ [] := by
    obtain ⟨hpos, -⟩ := output.property
    cases hreceived : handle.connection.received with
    | nil => exact absurd hreceived hdata
    | cons byte rest =>
        obtain ⟨length, hlength⟩ : ∃ length, output.val = length + 1 := ⟨output.val - 1, by omega⟩
        simp [hlength]
  have hlength : (handle.connection.received.take output.val).length ≤ isizeMax := by
    have hle := output.property.2
    rw [List.length_take]
    omega
  have hcode := ffiIo_length hlength
  rw [List.length_take] at hcode
  simp [readPlaintext, ClientConnection.read, hsome, hcode]

theorem readPlaintext_empty {handle : TlsConnection} (output : Capacity)
    (hnone : handle.connection.received = []) :
    readPlaintext handle output =
      if handle.connection.hasReceivedCloseNotify then (if handle.peerClosed then -2 else 0, [], handle)
      else if handle.connection.hasSeenEof then (-3, [], handle)
      else (0, [], handle) := by
  have hpos : output.val ≠ 0 := by
    obtain ⟨hpos, -⟩ := output.property
    omega
  obtain ⟨connection, ready, peer⟩ := handle
  replace hnone : connection.received = [] := hnone
  cases hclose : connection.hasReceivedCloseNotify with
  | true =>
      cases peer <;> simp [readPlaintext, ClientConnection.read, hnone, hpos, hclose, ffiIo, usizeMax, isizeMax]
  | false =>
      cases heof : connection.hasSeenEof <;>
        simp [readPlaintext, ClientConnection.read, hnone, hpos, hclose, heof, ffiIo, usizeMax, isizeMax]

end Calls

section Exact

variable {rustls : Rustls}

def Event.bytes : Event → List UInt8
  | .Wrote _ _ => []
  | .Read bytes _ => bytes

-- All that has been read, in the order of the reads.
def delivered (trace : List Event) : List UInt8 := trace.flatMap Event.bytes

structure Exact (rustls : Rustls) (trace : List Event) (handle : TlsConnection) : Prop where
  processed : handle.connection.processed = handle.connection.taken
  flow : delivered trace ++ handle.connection.received = rustls.decrypt handle.connection.taken
  ready : handle.plaintextReady = handle.connection.received.length
  closed : handle.connection.hasReceivedCloseNotify = (rustls.status handle.connection.taken == .Closed)
  peer : handle.peerClosed = handle.connection.hasReceivedCloseNotify
  eof : handle.connection.hasSeenEof → handle.connection.hasReceivedCloseNotify

theorem exact_new : Exact rustls [] connectionNew where
  processed := rfl
  flow := by simp [delivered, connectionNew, rustls.start.1]
  ready := rfl
  closed := by simp [connectionNew, rustls.start.2]
  peer := rfl
  eof := fun h => by cases h

-- What is decrypted of more ciphertext comes after what is decrypted already.
theorem Rustls.decrypt_append (rustls : Rustls) (taken more : List UInt8) :
    rustls.decrypt taken ++ (rustls.decrypt (taken ++ more)).drop (rustls.decrypt taken).length =
      rustls.decrypt (taken ++ more) := by
  obtain ⟨fresh, hfresh⟩ := rustls.grows taken more
  rw [← hfresh, List.drop_left]

theorem Exact.write {trace : List Event} {handle next : TlsConnection} {input : Slice} {code : Int}
    (he : Exact rustls trace handle) (hinput : input.val ≠ [])
    (hwrite : writeCiphertext rustls handle input = (code, next)) (hok : 0 ≤ code) :
    Exact rustls (trace ++ [.Wrote input.val code]) next := by
  by_cases hfull : rustls.limit < handle.connection.received.length
  · rw [writeCiphertext_full input hfull] at hwrite
    obtain ⟨rfl, -⟩ := Prod.mk.inj hwrite
    omega
  · have hroom : handle.connection.received.length ≤ rustls.limit := by omega
    have hdelivered : delivered (trace ++ [.Wrote input.val code]) = delivered trace := by
      simp [delivered, Event.bytes]
    cases hclose : handle.connection.hasReceivedCloseNotify with
    | true =>
        have hclosed : rustls.status handle.connection.taken = .Closed := by
          have hsame := he.closed
          rw [hclose] at hsame
          exact eq_of_beq hsame.symm
        rw [writeCiphertext_closed input hroom hclose he.processed hclosed] at hwrite
        obtain ⟨-, rfl⟩ := Prod.mk.inj hwrite
        exact ⟨he.processed, by rw [hdelivered]; exact he.flow, rfl, he.closed, hclose.symm, he.eof⟩
    | false =>
        have hopen : rustls.status handle.connection.taken ≠ .Closed := by
          have hsame := he.closed
          rw [hclose] at hsame
          exact ne_of_beq_false hsame.symm
        by_cases hfailed : rustls.status (handle.connection.fed rustls input.val).taken = .Failed
        · rw [writeCiphertext_failed input hroom hclose hfailed] at hwrite
          obtain ⟨rfl, -⟩ := Prod.mk.inj hwrite
          omega
        · rw [writeCiphertext_ok input hroom hclose hfailed] at hwrite
          obtain ⟨-, rfl⟩ := Prod.mk.inj hwrite
          refine ⟨rfl, ?_, rfl, rfl, rfl, ?_⟩
          · rw [hdelivered]
            show delivered trace ++ (handle.connection.received ++ _) = _
            rw [← List.append_assoc, he.flow, he.processed]
            exact rustls.decrypt_append _ _
          · -- a read_tls of some bytes on an open connection takes a byte
            intro heof
            exfalso
            rcases Bool.or_eq_true_iff.mp heof with hold | hzero
            · have hseen := he.eof hold
              rw [hclose] at hseen
              cases hseen
            · cases hstatus : rustls.status handle.connection.taken with
              | Closed => exact hopen hstatus
              | Open =>
                  have hlength := List.length_pos_iff.mpr hinput
                  have hpos := rustls.take_pos _ _ hstatus hlength
                  rw [eq_of_beq hzero] at hpos
                  omega
              | Failed =>
                  have hstays := (rustls.settled handle.connection.taken
                    (input.val.take (rustls.take handle.connection.taken input.val.length))
                    (by rw [hstatus]; simp)).2
                  rw [hstatus] at hstays
                  exact hfailed hstays

theorem Exact.read {trace : List Event} {handle next : TlsConnection} {output : Capacity} {code : Int}
    {bytes : List UInt8} (he : Exact rustls trace handle)
    (hread : readPlaintext handle output = (code, bytes, next)) :
    Exact rustls (trace ++ [.Read bytes code]) next := by
  have hdelivered : delivered (trace ++ [.Read bytes code]) = delivered trace ++ bytes := by
    simp [delivered, Event.bytes]
  by_cases hnone : handle.connection.received = []
  · -- an empty read changes nothing
    have hsame : bytes = [] ∧ next = handle := by
      rw [readPlaintext_empty output hnone] at hread
      split at hread
      · obtain ⟨-, hrest⟩ := Prod.mk.inj hread
        obtain ⟨rfl, rfl⟩ := Prod.mk.inj hrest
        exact ⟨rfl, rfl⟩
      · split at hread <;>
        · obtain ⟨-, hrest⟩ := Prod.mk.inj hread
          obtain ⟨rfl, rfl⟩ := Prod.mk.inj hrest
          exact ⟨rfl, rfl⟩
    obtain ⟨rfl, rfl⟩ := hsame
    exact ⟨he.processed, by rw [hdelivered, List.append_nil]; exact he.flow, he.ready, he.closed, he.peer,
      he.eof⟩
  · rw [readPlaintext_data output hnone] at hread
    obtain ⟨-, hrest⟩ := Prod.mk.inj hread
    obtain ⟨rfl, rfl⟩ := Prod.mk.inj hrest
    refine ⟨he.processed, ?_, ?_, he.closed, he.peer, he.eof⟩
    · rw [hdelivered, List.append_assoc]
      show delivered trace ++ (handle.connection.received.take output.val ++
        handle.connection.received.drop output.val) = _
      rw [List.take_append_drop]
      exact he.flow
    · show handle.plaintextReady - (handle.connection.received.take output.val).length =
        (handle.connection.received.drop output.val).length
      rw [he.ready, List.length_take, List.length_drop]
      omega

theorem run_exact {trace : List Event} {last : TlsConnection}
    (hrun : Run (machine rustls) (Successful rustls) connectionNew trace last) :
    Exact rustls trace last := by
  refine hrun.invariant (Exact rustls) exact_new ?_
  intro trace handle label after seen he hguard hstep
  cases label with
  | Write input =>
      obtain ⟨rfl, rfl⟩ := Prod.mk.inj (Option.some.inj hstep)
      exact he.write hguard.1 rfl hguard.2
  | Read output =>
      obtain ⟨rfl, rfl⟩ := Prod.mk.inj (Option.some.inj hstep)
      exact he.read rfl

-- What the next read returns where the counter and the flag are exact.
theorem Exact.code {trace : List Event} {handle : TlsConnection} (he : Exact rustls trace handle)
    (output : Capacity) :
    (readPlaintext handle output).1 =
      if handle.connection.received ≠ [] then ((handle.connection.received.take output.val).length : Int)
      else if rustls.status handle.connection.taken = .Closed then -2
      else 0 := by
  by_cases hnone : handle.connection.received = []
  · rw [readPlaintext_empty output hnone, if_neg (not_not.mpr hnone), he.peer]
    by_cases hclosed : rustls.status handle.connection.taken = .Closed
    · have hclose : handle.connection.hasReceivedCloseNotify = true := by simp [he.closed, hclosed]
      simp [hclose, hclosed]
    · have hclose : handle.connection.hasReceivedCloseNotify = false := by simp [he.closed, hclosed]
      have heof : handle.connection.hasSeenEof = false := by
        cases hseen : handle.connection.hasSeenEof with
        | false => rfl
        | true => rw [he.eof hseen] at hclose; cases hclose
      simp [hclose, hclosed, heof]
  · rw [readPlaintext_data output hnone, if_pos hnone]

-- The bytes read so far are a prefix of what is decrypted and the rest is still
-- there, the counter counts it, close is reported after it, and the readiness
-- is that of the next read.
theorem plaintext_exact {trace : List Event} {last : TlsConnection}
    (hrun : Run (machine rustls) (Successful rustls) connectionNew trace last) :
    delivered trace ++ last.connection.received = rustls.decrypt last.connection.taken ∧
      last.plaintextReady = (rustls.decrypt last.connection.taken).length - (delivered trace).length ∧
      ∀ output, ((readPlaintext last output).1 = -2 →
          rustls.status last.connection.taken = .Closed ∧
            delivered trace = rustls.decrypt last.connection.taken) ∧
        (plaintextReady last = 1 ↔ 0 < (readPlaintext last output).1 ∨ (readPlaintext last output).1 = -2) ∧
        (plaintextReady last ≠ 1 → (readPlaintext last output).1 = 0) := by
  have he := run_exact hrun
  have hflow := he.flow
  refine ⟨hflow, ?_, fun output => ?_⟩
  · rw [← hflow, List.length_append, he.ready]
    omega
  · have hready : plaintextReady last =
        if last.connection.received ≠ [] ∨ rustls.status last.connection.taken = .Closed then 1 else 0 := by
      rw [plaintextReady, he.ready, he.peer, he.closed]
      cases last.connection.received with
      | nil => by_cases hclosed : rustls.status last.connection.taken = .Closed <;> simp [ffiState, hclosed]
      | cons => simp [ffiState]
    rw [he.code output, hready]
    obtain ⟨hpos, -⟩ := output.property
    cases hreceived : last.connection.received with
    | nil =>
        by_cases hclosed : rustls.status last.connection.taken = .Closed
        · refine ⟨fun _ => ⟨hclosed, ?_⟩, by simp [hclosed], by simp [hclosed]⟩
          rw [hreceived, List.append_nil] at hflow
          exact hflow
        · simp [hclosed]
    | cons byte rest =>
        have hlength : 0 < ((byte :: rest).take output.val).length := by
          rw [List.length_take, List.length_cons]
          omega
        refine ⟨fun hcode => ?_, ?_, ?_⟩
        · rw [if_pos (by simp)] at hcode
          omega
        · rw [if_pos (by simp), if_pos (by simp)]
          omega
        · rw [if_pos (by simp)]
          exact fun h => absurd rfl h

instance (rustls : Rustls) (trace : List Event) (handle : TlsConnection) (label : Label) :
    Decidable (Successful rustls trace handle label) :=
  match label with
  | .Write input => inferInstanceAs (Decidable (input.val ≠ [] ∧ 0 ≤ (writeCiphertext rustls handle input).1))
  | .Read _ => inferInstanceAs (Decidable True)

-- The two bytes are read one by one, with the close_notify between them.
theorem plaintext_exact_greeting : ∃ trace last,
    Run (machine plainRecords) (Successful plainRecords) connectionNew trace last ∧
      (delivered trace = [104, 105] ∧ trace.getLast? = some (.Read [] (-2))) ∧
      last.plaintextReady =
        (plainRecords.decrypt last.connection.taken).length - (delivered trace).length := by
  obtain ⟨trace, last, hrun, hread⟩ : ∃ trace last,
      Run (machine plainRecords) (Successful plainRecords) connectionNew trace last ∧
        (delivered trace = [104, 105] ∧ trace.getLast? = some (.Read [] (-2))) :=
    exists_run [.Write greeting, .Read byteBuffer, .Write farewell,
      .Read byteBuffer, .Read byteBuffer] (by decide)
  exact ⟨trace, last, hrun, hread, (plaintext_exact hrun).2.1⟩

end Exact

end OpenvpnConnect.Tls
