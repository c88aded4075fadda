import OpenvpnConnect.Transition.Run
import Mathlib.Algebra.Group.Nat.Defs
import Mathlib.Data.List.Basic

namespace OpenvpnConnect.Tls

open Transition

inductive Status
  | Open
  | Closed
  | Failed
deriving DecidableEq, Repr

-- What rustls makes of the server's ciphertext: the bytes that it decrypts from
-- all that it has taken so far, whether that ends in a close_notify or in an
-- error, and how much of a reader one read_tls takes. What follows a
-- close_notify or an error changes nothing. More than `limit` unread bytes are
-- not added to.
structure Rustls where
  decrypt : List UInt8 → List UInt8
  status : List UInt8 → Status
  failure : List UInt8 → String
  take : List UInt8 → Nat → Nat
  limit : Nat
  start : decrypt [] = [] ∧ status [] = .Open
  grows : ∀ taken more, decrypt taken <+: decrypt (taken ++ more)
  settled : ∀ taken more, status taken ≠ .Open →
    decrypt (taken ++ more) = decrypt taken ∧ status (taken ++ more) = status taken
  take_le : ∀ taken length, take taken length ≤ length
  take_pos : ∀ taken length, status taken = .Open → 0 < length → 0 < take taken length

-- isize::MAX and usize::MAX
def isizeMax : Nat := 2 ^ 63 - 1

def usizeMax : Nat := 2 ^ 64 - 1

-- No slice is longer than isize::MAX bytes.
abbrev Slice := { bytes : List UInt8 // bytes.length ≤ isizeMax }

-- The length of an output buffer that is there.
abbrev Capacity := { length : Nat // 0 < length ∧ length ≤ isizeMax }

-- `received` are the decrypted bytes that have not been read.
structure ClientConnection where
  taken : List UInt8
  processed : List UInt8
  received : List UInt8
  hasReceivedCloseNotify : Bool
  hasSeenEof : Bool
deriving DecidableEq, Repr

structure IoState where
  plaintextBytesToRead : Nat
  peerHasClosed : Bool

inductive ErrorKind
  | WouldBlock
  | UnexpectedEof
deriving DecidableEq, Repr

structure TlsConnection where
  connection : ClientConnection
  plaintextReady : Nat
  peerClosed : Bool
deriving DecidableEq, Repr

def ClientConnection.readTls (rustls : Rustls) (connection : ClientConnection) (reader : List UInt8) :
    Except String (Nat × ClientConnection) :=
  if rustls.limit < connection.received.length then .error "received plaintext buffer full"
  else if connection.hasReceivedCloseNotify then .ok (0, connection)
  else
    let read := rustls.take connection.taken reader.length
    .ok (read,
      { connection with
        taken := connection.taken ++ reader.take read
        hasSeenEof := connection.hasSeenEof || read == 0 })

-- What is decrypted before an error can be read like all the rest.
def ClientConnection.processNewPackets (rustls : Rustls) (connection : ClientConnection) :
    Except String IoState × ClientConnection :=
  let fresh := (rustls.decrypt connection.taken).drop (rustls.decrypt connection.processed).length
  let next :=
    { connection with
      processed := connection.taken
      received := connection.received ++ fresh
      hasReceivedCloseNotify := rustls.status connection.taken == .Closed }
  match rustls.status connection.taken with
  | .Failed => (.error (rustls.failure connection.taken), next)
  | _ => (.ok ⟨next.received.length, next.hasReceivedCloseNotify⟩, next)

-- reader().read(): the bytes that it writes to the output.
def ClientConnection.read (connection : ClientConnection) (capacity : Nat) :
    Except ErrorKind (List UInt8) × ClientConnection :=
  let bytes := connection.received.take capacity
  if bytes ≠ [] ∨ capacity = 0 then
    (.ok bytes, { connection with received := connection.received.drop capacity })
  else if connection.hasReceivedCloseNotify then (.ok [], connection)
  else if connection.hasSeenEof then (.error .UnexpectedEof, connection)
  else (.error .WouldBlock, connection)

def connectionNew : TlsConnection where
  connection := ⟨[], [], [], false, false⟩
  plaintextReady := 0
  peerClosed := false

def ffiIo : Except String Nat → Int
  | .ok value =>
      if value = usizeMax then -2
      else if value ≤ isizeMax then value
      else -1
  | .error _ => -3

theorem ffiIo_length {length : Nat} (hle : length ≤ isizeMax) : ffiIo (.ok length) = length := by
  have hne : length ≠ usizeMax := by
    have hlt : isizeMax < usizeMax := by decide
    omega
  simp [ffiIo, hne, hle]

def ffiState (value : Bool) : Int := if value then 1 else 0

-- The code, what is written to the output, and the handle after the call.
def readPlaintext (handle : TlsConnection) (output : Capacity) : Int × List UInt8 × TlsConnection :=
  match handle.connection.read output.val with
  | (.ok bytes, connection) =>
      if bytes = [] ∧ handle.peerClosed then
        (ffiIo (.ok usizeMax), [], { handle with connection := connection })
      else
        (ffiIo (.ok bytes.length), bytes,
          { handle with
            connection := connection
            plaintextReady := handle.plaintextReady - bytes.length })
  | (.error .WouldBlock, connection) => (ffiIo (.ok 0), [], { handle with connection := connection })
  | (.error .UnexpectedEof, connection) =>
      (ffiIo (.error "peer closed connection without sending TLS close_notify"), [],
        { handle with connection := connection })

def plaintextReady (handle : TlsConnection) : Int :=
  ffiState (handle.plaintextReady != 0 || handle.peerClosed)

def writeCiphertext (rustls : Rustls) (handle : TlsConnection) (input : Slice) : Int × TlsConnection :=
  match handle.connection.readTls rustls input.val with
  | .error error => (ffiIo (.error error), handle)
  | .ok (read, connection) =>
      match connection.processNewPackets rustls with
      | (.error error, connection) => (ffiIo (.error error), { handle with connection := connection })
      | (.ok state, connection) =>
          (ffiIo (.ok read),
            { connection := connection
              plaintextReady := state.plaintextBytesToRead
              peerClosed := state.peerHasClosed })

-- The exceptions of SSL.
inductive Exception
  | CallFailed
  | CiphertextInOverflow
deriving DecidableEq, Repr

def writeCiphertextUnbuffered (rustls : Rustls) (handle : TlsConnection) (data : Slice) :
    Except Exception Unit × TlsConnection :=
  match writeCiphertext rustls handle data with
  | (written, next) =>
      if written < 0 then (.error .CallFailed, next)
      else if written ≠ data.val.length then (.error .CiphertextInOverflow, next)
      else (.ok (), next)

section Machine

inductive Label
  | Write (input : Slice)
  | Read (output : Capacity)

inductive Event
  | Wrote (input : List UInt8) (code : Int)
  | Read (bytes : List UInt8) (code : Int)
deriving DecidableEq, Repr

def machine (rustls : Rustls) : Machine TlsConnection Label Event where
  step
    | handle, .Write input =>
        let (code, next) := writeCiphertext rustls handle input
        some (next, [.Wrote input.val code])
    | handle, .Read output =>
        let (code, bytes, next) := readPlaintext handle output
        some (next, [.Read bytes code])

-- Every write is of some bytes and succeeds.
def Successful (rustls : Rustls) (_ : List Event) (handle : TlsConnection) : Label → Prop
  | .Write input => input.val ≠ [] ∧ 0 ≤ (writeCiphertext rustls handle input).1
  | .Read _ => True

end Machine

end OpenvpnConnect.Tls
