import OpenvpnConnect.Tls.Connection

namespace OpenvpnConnect.Tls.Output

open Transition

-- The output side of a rustls connection: its state (`σ`), the output that it
-- holds, and the operations (`ω`) with what they add to it.
structure Writer (σ ω : Type) where
  pending : σ → List UInt8
  wantsWrite : σ → Bool
  writeTls : σ → Except String (List UInt8 × σ)
  operate : ω → σ → σ × List UInt8
  wants_iff : ∀ connection, wantsWrite connection = true ↔ pending connection ≠ []
  writes : ∀ connection, pending connection ≠ [] → ∃ bytes next,
    writeTls connection = .ok (bytes, next) ∧ bytes ≠ [] ∧ pending connection = bytes ++ pending next
  queues : ∀ operation connection,
    pending (operate operation connection).1 = pending connection ++ (operate operation connection).2

-- The fields of a TlsConnection that the output goes through.
structure TlsConnection (σ : Type) where
  connection : σ
  ciphertext : List UInt8
deriving DecidableEq, Repr

-- The output of a call; what is there has the size of a slice.
structure OutputPointer where
  isNull : Bool
  capacity : Nat
  valid : isNull = false → capacity ≤ isizeMax

def outputSlice (output : OutputPointer) : Except String Nat :=
  if output.capacity = 0 then .ok 0
  else if output.isNull then .error "output pointer is null"
  else .ok output.capacity

variable {σ ω : Type}

def refill (writer : Writer σ ω) (handle : TlsConnection σ) : Except String (TlsConnection σ) :=
  if handle.ciphertext.isEmpty ∧ writer.wantsWrite handle.connection then
    match writer.writeTls handle.connection with
    | .error error => .error error
    | .ok (pending, connection) => .ok ⟨connection, handle.ciphertext ++ pending⟩
  else .ok handle

-- The code, what is written to the output, and the handle after the call.
def readCiphertext (writer : Writer σ ω) (handle : TlsConnection σ) (output : OutputPointer) :
    Int × List UInt8 × TlsConnection σ :=
  match refill writer handle with
  | .error error => (ffiIo (.error error), [], handle)
  | .ok handle =>
      match outputSlice output with
      | .error error => (ffiIo (.error error), [], handle)
      | .ok capacity =>
          let length := min capacity handle.ciphertext.length
          (ffiIo (.ok length), handle.ciphertext.take length,
            { handle with ciphertext := handle.ciphertext.drop length })

def ciphertextReady (writer : Writer σ ω) (handle : TlsConnection σ) : Int :=
  ffiState (!handle.ciphertext.isEmpty || writer.wantsWrite handle.connection)

-- SSL::read_ciphertext into a frame, of which it keeps what has been written.
def sslReadCiphertext (writer : Writer σ ω) (handle : TlsConnection σ) (frame : Slice) :
    Except Exception (List UInt8) × TlsConnection σ :=
  match readCiphertext writer handle ⟨false, frame.val.length, fun _ => frame.property⟩ with
  | (length, bytes, next) =>
      if length < 0 then (.error .CallFailed, next)
      else (.ok ((bytes ++ frame.val.drop bytes.length).take length.toNat), next)

inductive Label (ω : Type)
  | Operate (operation : ω)
  | Read (output : OutputPointer)

inductive Event
  | Queued (bytes : List UInt8)
  | Returned (bytes : List UInt8) (code : Int)
deriving DecidableEq, Repr

def machine (writer : Writer σ ω) : Machine (TlsConnection σ) (Label ω) Event where
  step
    | handle, .Operate operation =>
        let (connection, bytes) := writer.operate operation handle.connection
        some ({ handle with connection := connection }, [.Queued bytes])
    | handle, .Read output =>
        let (code, bytes, next) := readCiphertext writer handle output
        some (next, [.Returned bytes code])

def connectionNew (connection : σ) : TlsConnection σ := ⟨connection, []⟩

-- The output that rustls has added, and what the calls have returned.
def queued (trace : List Event) : List UInt8 :=
  trace.flatMap fun
    | .Queued bytes => bytes
    | .Returned _ _ => []

def returned (trace : List Event) : List UInt8 :=
  trace.flatMap fun
    | .Queued _ => []
    | .Returned bytes _ => bytes

section Calls

variable {writer : Writer σ ω} {handle : TlsConnection σ}

-- What is not in the queue is still with rustls.
def held (writer : Writer σ ω) (handle : TlsConnection σ) : List UInt8 :=
  handle.ciphertext ++ writer.pending handle.connection

theorem refill_ok (writer : Writer σ ω) (handle : TlsConnection σ) :
    ∃ next, refill writer handle = .ok next ∧ held writer next = held writer handle ∧
      (next.ciphertext = [] ↔ held writer handle = []) := by
  by_cases hempty : handle.ciphertext = []
  · by_cases hpending : writer.pending handle.connection = []
    · have hidle : ¬(handle.ciphertext.isEmpty ∧ writer.wantsWrite handle.connection) := by
        rintro ⟨_, hwants⟩
        exact (writer.wants_iff handle.connection).mp hwants hpending
      refine ⟨handle, if_neg hidle, rfl, ?_⟩
      simp [held, hempty, hpending]
    · obtain ⟨bytes, connection, hwrite, hsome, hbytes⟩ := writer.writes handle.connection hpending
      have hwants := (writer.wants_iff handle.connection).mpr hpending
      refine ⟨⟨connection, handle.ciphertext ++ bytes⟩, ?_, ?_, ?_⟩
      · simp [refill, hempty, hwants, hwrite]
      · rw [held, held, hbytes, List.append_assoc]
      · simp [held, hempty, hsome, hpending]
  · have hidle : ¬(handle.ciphertext.isEmpty ∧ writer.wantsWrite handle.connection) := by
      rintro ⟨hnone, _⟩
      exact hempty (List.isEmpty_iff.mp hnone)
    refine ⟨handle, if_neg hidle, rfl, ?_⟩
    simp [held, hempty]

-- A call takes what it returns from the front of what is held, and nothing else.
theorem readCiphertext_held {output : OutputPointer} {code : Int} {bytes : List UInt8} {next : TlsConnection σ}
    (hread : readCiphertext writer handle output = (code, bytes, next)) :
    bytes ++ held writer next = held writer handle := by
  obtain ⟨filled, hrefill, hheld, _⟩ := refill_ok writer handle
  rw [readCiphertext, hrefill] at hread
  cases hslice : outputSlice output with
  | error error =>
      simp only [hslice] at hread
      obtain ⟨_, hread⟩ := Prod.mk.inj hread
      obtain ⟨rfl, rfl⟩ := Prod.mk.inj hread
      exact hheld
  | ok capacity =>
      simp only [hslice] at hread
      obtain ⟨_, hread⟩ := Prod.mk.inj hread
      obtain ⟨rfl, rfl⟩ := Prod.mk.inj hread
      rw [← hheld, held, held, ← List.append_assoc, List.take_append_drop]

-- With an output the code is the number of bytes.
theorem readCiphertext_code (output : OutputPointer) (hvalid : output.isNull = false) :
    (readCiphertext writer handle output).1 = (readCiphertext writer handle output).2.1.length := by
  obtain ⟨filled, hrefill, _, _⟩ := refill_ok writer handle
  have hslice : outputSlice output = .ok output.capacity := by
    by_cases hzero : output.capacity = 0
    · simp [outputSlice, hzero]
    · simp [outputSlice, hzero, hvalid]
  have hle : min output.capacity filled.ciphertext.length ≤ isizeMax := by
    have hcapacity := output.valid hvalid
    omega
  simp only [readCiphertext, hrefill, hslice]
  rw [ffiIo_length hle, List.length_take]
  omega

theorem readCiphertext_some (output : OutputPointer) (hvalid : output.isNull = false) (hroom : 0 < output.capacity) :
    1 ≤ (readCiphertext writer handle output).1 ↔ held writer handle ≠ [] := by
  have hcode := @readCiphertext_code σ ω writer handle output hvalid
  obtain ⟨filled, hrefill, _, hempty⟩ := refill_ok writer handle
  have hslice : outputSlice output = .ok output.capacity := by
    have hne : output.capacity ≠ 0 := by omega
    simp [outputSlice, hne, hvalid]
  rw [hcode, Ne, ← hempty]
  simp only [readCiphertext, hrefill, hslice]
  rw [List.length_take, ← List.length_eq_zero_iff]
  omega

theorem ciphertextReady_iff (writer : Writer σ ω) (handle : TlsConnection σ) :
    ciphertextReady writer handle = 1 ↔ held writer handle ≠ [] := by
  have hwants := writer.wants_iff handle.connection
  rw [ciphertextReady, held, Ne, List.append_eq_nil_iff]
  by_cases hempty : handle.ciphertext = []
  · by_cases hpending : writer.pending handle.connection = []
    · have hidle : writer.wantsWrite handle.connection = false :=
        Bool.eq_false_iff.mpr fun h => hwants.mp h hpending
      simp [hempty, hpending, hidle, ffiState]
    · simp [hempty, hpending, hwants.mpr hpending, ffiState]
  · simp [hempty, ffiState]

-- SSL keeps exactly what has been written to its frame.
theorem sslReadCiphertext_eq (frame : Slice) : (sslReadCiphertext writer handle frame).1 =
    .ok (readCiphertext writer handle ⟨false, frame.val.length, fun _ => frame.property⟩).2.1 := by
  have hcode := @readCiphertext_code σ ω writer handle
    ⟨false, frame.val.length, fun _ => frame.property⟩ rfl
  rw [sslReadCiphertext]
  cases hread : readCiphertext writer handle ⟨false, frame.val.length, fun _ => frame.property⟩ with
  | mk code rest => ?_
  obtain ⟨bytes, next⟩ := rest
  rw [hread] at hcode
  obtain rfl : code = bytes.length := hcode
  have hsome : ¬(bytes.length : Int) < 0 := by omega
  simp only [if_neg hsome, Int.toNat_natCast, List.take_left]

end Calls

section Exact

variable {writer : Writer σ ω}

theorem queued_append (trace more : List Event) : queued (trace ++ more) = queued trace ++ queued more :=
  List.flatMap_append

theorem returned_append (trace more : List Event) : returned (trace ++ more) = returned trace ++ returned more :=
  List.flatMap_append

theorem run_held {connection : σ} {trace : List Event} {last : TlsConnection σ}
    (hrun : Reaches (machine writer) (connectionNew connection) trace last) :
    returned trace ++ held writer last = writer.pending connection ++ queued trace := by
  refine hrun.invariant
    (fun trace handle => returned trace ++ held writer handle = writer.pending connection ++ queued trace) ?_ ?_
  · exact (List.append_nil _).symm
  · intro trace handle label after seen hflow _ hstep
    rw [returned_append, queued_append, List.append_assoc]
    cases label with
    | Operate operation =>
        obtain ⟨rfl, rfl⟩ := Prod.mk.inj (Option.some.inj hstep)
        have hafter : held writer { handle with connection := (writer.operate operation handle.connection).1 } =
            held writer handle ++ (writer.operate operation handle.connection).2 := by
          rw [held, held, writer.queues, List.append_assoc]
        rw [hafter, ← List.append_assoc _ (queued trace), ← hflow]
        simp [returned, queued]
    | Read output =>
        obtain ⟨rfl, rfl⟩ := Prod.mk.inj (Option.some.inj hstep)
        have hread := @readCiphertext_held σ ω writer handle output _ _ _ rfl
        rw [← hread] at hflow
        simpa [returned, queued] using hflow

-- What has been returned, what is in the queue and what rustls holds are all its
-- output in order, and the readiness is that of the next call.
theorem ciphertext_exact {connection : σ} {trace : List Event} {last : TlsConnection σ}
    (hrun : Reaches (machine writer) (connectionNew connection) trace last) :
    returned trace ++ last.ciphertext ++ writer.pending last.connection =
        writer.pending connection ++ queued trace ∧
      (∀ output : OutputPointer, output.isNull = false → 0 < output.capacity →
        (ciphertextReady writer last = 1 ↔ 1 ≤ (readCiphertext writer last output).1) ∧
          (readCiphertext writer last output).1 = (readCiphertext writer last output).2.1.length) ∧
      ∀ (frame : Slice), (sslReadCiphertext writer last frame).1 =
        .ok (readCiphertext writer last ⟨false, frame.val.length, fun _ => frame.property⟩).2.1 := by
  refine ⟨?_, ?_, ?_⟩
  · rw [List.append_assoc]
    exact run_held hrun
  · intro output hvalid hroom
    refine ⟨?_, readCiphertext_code output hvalid⟩
    rw [ciphertextReady_iff, readCiphertext_some output hvalid hroom]
  · exact sslReadCiphertext_eq

-- A writer that passes everything on at once.
def wholeWriter : Writer (List UInt8) (List UInt8) where
  pending connection := connection
  wantsWrite connection := !connection.isEmpty
  writeTls connection := .ok (connection, [])
  operate operation connection := (connection ++ operation, operation)
  wants_iff connection := by simp
  writes connection hpending := ⟨connection, [], rfl, hpending, (List.append_nil connection).symm⟩
  queues _ _ := rfl

def nullOutput : OutputPointer := ⟨true, 16, nofun⟩

def twoBytes : OutputPointer := ⟨false, 2, fun _ => by decide⟩

-- A call that fails keeps what it has fetched, and later output comes after it.
theorem ciphertext_exact_hello : ∃ trace last,
    Reaches (machine wholeWriter) (connectionNew [22, 3, 1]) trace last ∧ returned trace = [22, 3, 1] ∧
      returned trace ++ last.ciphertext ++ wholeWriter.pending last.connection =
        wholeWriter.pending [22, 3, 1] ++ queued trace := by
  obtain ⟨trace, last, hrun, hreturned⟩ : ∃ trace last,
      Run (machine wholeWriter) Unguarded (connectionNew [22, 3, 1]) trace last ∧ returned trace = [22, 3, 1] :=
    exists_run [.Read nullOutput, .Operate [23, 3], .Read twoBytes, .Read twoBytes] (by decide)
  exact ⟨trace, last, hrun, hreturned, (ciphertext_exact hrun).1⟩

end Exact

end OpenvpnConnect.Tls.Output
