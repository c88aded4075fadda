import OpenvpnConnect.Tls.Plaintext

namespace OpenvpnConnect.Tls

section Session

-- Reads until there is nothing more to read; the code is that of the last read.
def drainWith : Nat → TlsConnection → Capacity → List UInt8 × Int × TlsConnection
  | 0, handle, _ => ([], 0, handle)
  | fuel + 1, handle, output =>
      let (code, bytes, next) := readPlaintext handle output
      if 0 < code then
        let (more, last, final) := drainWith fuel next output
        (bytes ++ more, last, final)
      else ([], code, next)

-- A read takes at least a byte of what there is.
def drain (handle : TlsConnection) (output : Capacity) : List UInt8 × Int × TlsConnection :=
  drainWith (handle.connection.received.length + 1) handle output

-- What comes of a stream: the bytes that are read, how it ends, and whether
-- every successful write returned the length of its input.
structure Delivery where
  plaintext : List UInt8
  outcome : Status
  exact : Bool
deriving DecidableEq, Repr

def outcome (code : Int) : Status :=
  if code = -2 then .Closed else if code = -3 then .Failed else .Open

-- The chunks are written one after the other, until a call fails, and all
-- plaintext is read after each.
def session (rustls : Rustls) (output : Capacity) : TlsConnection → List Slice → Delivery
  | handle, [] => ⟨[], outcome (readPlaintext handle output).1, true⟩
  | handle, chunk :: rest =>
      let (written, handle) := writeCiphertext rustls handle chunk
      let (bytes, last, handle) := drain handle output
      let exact := decide (written < 0 ∨ written = chunk.val.length)
      if written < 0 ∨ last = -3 then ⟨bytes, .Failed, exact⟩
      else
        let after := session rustls output handle rest
        ⟨bytes ++ after.plaintext, after.outcome, exact && after.exact⟩

def stream (chunks : List Slice) : List UInt8 := (chunks.map Subtype.val).flatten

@[simp] theorem stream_cons (chunk : Slice) (rest : List Slice) :
    stream (chunk :: rest) = chunk.val ++ stream rest := rfl

-- The SSL throws ssl_ciphertext_in_overflow for a write that is not exact.
theorem writeCiphertextUnbuffered_overflow (rustls : Rustls) (handle : TlsConnection) (data : Slice) :
    (writeCiphertextUnbuffered rustls handle data).1 = .error .CiphertextInOverflow ↔
      0 ≤ (writeCiphertext rustls handle data).1 ∧
        (writeCiphertext rustls handle data).1 ≠ data.val.length := by
  unfold writeCiphertextUnbuffered
  cases hwrite : writeCiphertext rustls handle data with
  | mk written next =>
      show (if written < 0 then (Except.error Exception.CallFailed, next)
        else if written ≠ data.val.length then (.error .CiphertextInOverflow, next) else (.ok (), next)).1 =
          .error .CiphertextInOverflow ↔ 0 ≤ written ∧ written ≠ data.val.length
      by_cases hneg : written < 0
      · rw [if_pos hneg]
        simp
        omega
      · rw [if_neg hneg]
        by_cases hlength : written = data.val.length
        · simp [hlength]
        · simp [hlength]
          omega

end Session

section Drain

variable {rustls : Rustls}

-- Where nothing is left to read a read changes nothing.
theorem readPlaintext_idle {handle : TlsConnection} (output : Capacity)
    (hnone : handle.connection.received = []) : (readPlaintext handle output).2.2 = handle ∧
      (readPlaintext handle output).1 ≤ 0 := by
  rw [readPlaintext_empty output hnone]
  split
  · refine ⟨rfl, ?_⟩
    show (if handle.peerClosed then (-2 : Int) else 0) ≤ 0
    split <;> decide
  · split
    · exact ⟨rfl, show (-3 : Int) ≤ 0 by decide⟩
    · exact ⟨rfl, Int.le_refl 0⟩

theorem drainWith_eq {fuel : Nat} {handle : TlsConnection} (output : Capacity)
    (hfuel : handle.connection.received.length < fuel) :
    ∃ ready, drainWith fuel handle output =
      let empty : TlsConnection :=
        { handle with connection := { handle.connection with received := [] }, plaintextReady := ready }
      (handle.connection.received, (readPlaintext empty output).1, empty) := by
  induction fuel generalizing handle with
  | zero => omega
  | succ fuel ih =>
      by_cases hnone : handle.connection.received = []
      · refine ⟨handle.plaintextReady, ?_⟩
        obtain ⟨hsame, hcode⟩ := readPlaintext_idle output hnone
        have hempty : ({ handle with
            connection := { handle.connection with received := [] }
            plaintextReady := handle.plaintextReady } : TlsConnection) = handle := by
          rw [← hnone]
        have hnot : ¬0 < (readPlaintext handle output).1 := by omega
        simp only [drainWith, hnot, if_false, hsame, hempty, hnone]
      · obtain ⟨hpos, -⟩ := output.property
        have hlength : 0 < handle.connection.received.length := List.length_pos_iff.mpr hnone
        rw [drainWith, readPlaintext_data output hnone]
        have hcode : (0 : Int) < ((handle.connection.received.take output.val).length : Nat) := by
          rw [List.length_take]
          omega
        simp only [hcode, if_true]
        obtain ⟨ready, hrest⟩ := @ih
          { handle with
            connection := { handle.connection with received := handle.connection.received.drop output.val }
            plaintextReady := handle.plaintextReady - (handle.connection.received.take output.val).length }
          (by simp only [List.length_drop]; omega)
        refine ⟨ready, ?_⟩
        rw [hrest]
        simp only [List.take_append_drop]

theorem drain_eq (handle : TlsConnection) (output : Capacity) : ∃ ready, drain handle output =
    let empty : TlsConnection :=
      { handle with connection := { handle.connection with received := [] }, plaintextReady := ready }
    (handle.connection.received, (readPlaintext empty output).1, empty) :=
  drainWith_eq output (Nat.lt_succ_self _)

end Drain

section Cuts

variable {rustls : Rustls}

-- A handle that has been given `taken` without a failure and has nothing left
-- to read.
structure Waits (rustls : Rustls) (taken : List UInt8) (handle : TlsConnection) : Prop where
  isTaken : handle.connection.taken = taken
  processed : handle.connection.processed = taken
  received : handle.connection.received = []
  unseen : handle.connection.hasSeenEof = false
  closed : handle.connection.hasReceivedCloseNotify = (rustls.status taken == .Closed)
  peer : handle.peerClosed = (rustls.status taken == .Closed)
  alive : rustls.status taken ≠ .Failed

theorem waits_new : Waits rustls [] connectionNew where
  isTaken := rfl
  processed := rfl
  received := rfl
  unseen := rfl
  closed := by simp [connectionNew, rustls.start.2]
  peer := by simp [connectionNew, rustls.start.2]
  alive := by simp [rustls.start.2]

-- What such a handle answers to a read.
theorem Waits.code {taken : List UInt8} {handle : TlsConnection} (hw : Waits rustls taken handle)
    (output : Capacity) : (readPlaintext handle output).1 = if rustls.status taken = .Closed then -2 else 0 := by
  rw [readPlaintext_empty output hw.received, hw.closed, hw.peer, hw.unseen]
  by_cases hclosed : rustls.status taken = .Closed <;> simp [hclosed]

theorem Waits.unclosed {taken : List UInt8} {handle : TlsConnection} (hw : Waits rustls taken handle)
    (hopen : rustls.status taken = .Open) : handle.connection.hasReceivedCloseNotify = false := by
  simp [hw.closed, hopen]

-- The plaintext that `more` adds to what has been taken.
def Rustls.fresh (rustls : Rustls) (taken more : List UInt8) : List UInt8 :=
  (rustls.decrypt (taken ++ more)).drop (rustls.decrypt taken).length

theorem Rustls.decrypt_fresh (rustls : Rustls) (taken more : List UInt8) :
    rustls.decrypt taken ++ rustls.fresh taken more = rustls.decrypt (taken ++ more) :=
  rustls.decrypt_append taken more

theorem Rustls.fresh_append (rustls : Rustls) (taken first second : List UInt8) :
    rustls.fresh taken (first ++ second) = rustls.fresh taken first ++ rustls.fresh (taken ++ first) second := by
  apply (List.append_right_inj (rustls.decrypt taken)).mp
  rw [← List.append_assoc, rustls.decrypt_fresh, rustls.decrypt_fresh, rustls.decrypt_fresh, List.append_assoc]

theorem Rustls.fresh_settled (rustls : Rustls) {taken first : List UInt8} (second : List UInt8)
    (hsettled : rustls.status (taken ++ first) ≠ .Open) :
    rustls.fresh taken (first ++ second) = rustls.fresh taken first ∧
      rustls.status (taken ++ (first ++ second)) = rustls.status (taken ++ first) := by
  obtain ⟨hdecrypt, hstatus⟩ := rustls.settled (taken ++ first) second hsettled
  rw [List.append_assoc] at hdecrypt hstatus
  exact ⟨by rw [Rustls.fresh, Rustls.fresh, hdecrypt], hstatus⟩

-- What one read_tls takes of a chunk.
def Rustls.part (rustls : Rustls) (taken chunk : List UInt8) : List UInt8 :=
  chunk.take (rustls.take taken chunk.length)

theorem Waits.fed {taken : List UInt8} {handle : TlsConnection} (hw : Waits rustls taken handle)
    (chunk : Slice) : handle.connection.fed rustls chunk.val =
      { taken := taken ++ rustls.part taken chunk.val
        processed := taken ++ rustls.part taken chunk.val
        received := rustls.fresh taken (rustls.part taken chunk.val)
        hasReceivedCloseNotify := rustls.status (taken ++ rustls.part taken chunk.val) == .Closed
        hasSeenEof := rustls.take taken chunk.val.length == 0 } := by
  simp [ClientConnection.fed, hw.isTaken, hw.processed, hw.received, hw.unseen, Rustls.part, Rustls.fresh]

theorem Waits.room {taken : List UInt8} {handle : TlsConnection} (hw : Waits rustls taken handle) :
    handle.connection.received.length ≤ rustls.limit := by
  rw [hw.received]
  exact Nat.zero_le _

theorem session_nil {taken : List UInt8} {handle : TlsConnection} (hw : Waits rustls taken handle)
    (output : Capacity) : session rustls output handle [] = ⟨[], rustls.status taken, true⟩ := by
  rw [session, hw.code output]
  cases hstatus : rustls.status taken with
  | Open | Closed => simp [outcome]
  | Failed => exact absurd hstatus hw.alive

theorem session_failed {taken : List UInt8} {handle : TlsConnection} (hw : Waits rustls taken handle)
    (hopen : rustls.status taken = .Open) (output : Capacity) {chunk : Slice} (rest : List Slice)
    (hstatus : rustls.status (taken ++ rustls.part taken chunk.val) = .Failed) :
    session rustls output handle (chunk :: rest) =
      ⟨rustls.fresh taken (rustls.part taken chunk.val), .Failed, true⟩ := by
  have hfed := hw.fed chunk
  have hwrite := writeCiphertext_failed chunk hw.room (hw.unclosed hopen) (by rw [hfed]; exact hstatus)
  obtain ⟨ready, hdrain⟩ := drain_eq { handle with connection := handle.connection.fed rustls chunk.val } output
  simp only [session, hwrite, hdrain]
  simp [hfed]

-- The handle with the part taken and all plaintext read.
def emptied (rustls : Rustls) (taken chunk : List UInt8) (ready : Nat) : TlsConnection where
  connection :=
    { taken := taken ++ rustls.part taken chunk
      processed := taken ++ rustls.part taken chunk
      received := []
      hasReceivedCloseNotify := rustls.status (taken ++ rustls.part taken chunk) == .Closed
      hasSeenEof := rustls.take taken chunk.length == 0 }
  plaintextReady := ready
  peerClosed := rustls.status (taken ++ rustls.part taken chunk) == .Closed

theorem session_written {taken : List UInt8} {handle : TlsConnection} (hw : Waits rustls taken handle)
    (hopen : rustls.status taken = .Open) (output : Capacity) (chunk : Slice) (rest : List Slice)
    (halive : rustls.status (taken ++ rustls.part taken chunk.val) ≠ .Failed) : ∃ ready,
    session rustls output handle (chunk :: rest) =
      let after := session rustls output (emptied rustls taken chunk.val ready) rest
      let fresh := rustls.fresh taken (rustls.part taken chunk.val)
      let exact := decide (rustls.take taken chunk.val.length = chunk.val.length)
      if (readPlaintext (emptied rustls taken chunk.val ready) output).1 = -3 then ⟨fresh, .Failed, exact⟩
      else ⟨fresh ++ after.plaintext, after.outcome, exact && after.exact⟩ := by
  have hfed := hw.fed chunk
  have hwrite := writeCiphertext_ok chunk hw.room (hw.unclosed hopen) (by rw [hfed]; exact halive)
  rw [hfed, hw.isTaken] at hwrite
  obtain ⟨ready, hdrain⟩ := drain_eq (writeCiphertext rustls handle chunk).2 output
  rw [hwrite] at hdrain
  refine ⟨ready, ?_⟩
  have hneg : ¬((rustls.take taken chunk.val.length : Int) < 0) := by omega
  have hexact : decide ((rustls.take taken chunk.val.length : Int) = chunk.val.length) =
      decide (rustls.take taken chunk.val.length = chunk.val.length) := by
    rw [decide_eq_decide]
    omega
  rw [session, hwrite]
  simp only [hdrain, hneg, false_or, hexact]
  rfl

-- An empty chunk is taken for the end of the connection.
theorem session_starved {taken : List UInt8} {handle : TlsConnection} (hw : Waits rustls taken handle)
    (hopen : rustls.status taken = .Open) (output : Capacity) {chunk : Slice} (rest : List Slice)
    (hempty : chunk.val = []) : session rustls output handle (chunk :: rest) = ⟨[], .Failed, true⟩ := by
  have hpart : rustls.part taken [] = [] := by rw [Rustls.part, List.take_nil]
  have hread : rustls.take taken 0 = 0 := Nat.le_zero.mp (rustls.take_le taken 0)
  obtain ⟨ready, hsession⟩ := session_written hw hopen output chunk rest
    (by rw [hempty, hpart, List.append_nil, hopen]; decide)
  rw [hsession, readPlaintext_empty output rfl]
  simp [emptied, hpart, hempty, hread, hopen, Rustls.fresh]

theorem session_taken {taken : List UInt8} {handle : TlsConnection} (hw : Waits rustls taken handle)
    (hopen : rustls.status taken = .Open) (output : Capacity) {chunk : Slice} (rest : List Slice)
    (hsome : chunk.val ≠ []) (halive : rustls.status (taken ++ rustls.part taken chunk.val) ≠ .Failed) :
    ∃ after, Waits rustls (taken ++ rustls.part taken chunk.val) after ∧
      session rustls output handle (chunk :: rest) =
        ⟨rustls.fresh taken (rustls.part taken chunk.val) ++ (session rustls output after rest).plaintext,
          (session rustls output after rest).outcome,
          decide (rustls.take taken chunk.val.length = chunk.val.length) &&
            (session rustls output after rest).exact⟩ := by
  have hpos := rustls.take_pos taken chunk.val.length hopen (List.length_pos_iff.mpr hsome)
  have hread : (rustls.take taken chunk.val.length == 0) = false := by
    rw [beq_eq_false_iff_ne]
    omega
  obtain ⟨ready, hsession⟩ := session_written hw hopen output chunk rest halive
  have hafter : Waits rustls (taken ++ rustls.part taken chunk.val) (emptied rustls taken chunk.val ready) :=
    ⟨rfl, rfl, rfl, hread, rfl, rfl, halive⟩
  have hcode : (readPlaintext (emptied rustls taken chunk.val ready) output).1 ≠ -3 := by
    rw [hafter.code output]
    split <;> decide
  exact ⟨_, hafter, by rw [hsession, if_neg hcode]⟩

theorem Waits.drain {taken : List UInt8} {handle : TlsConnection} (hw : Waits rustls taken handle)
    (output : Capacity) : drain handle output = ([], (readPlaintext handle output).1, handle) := by
  obtain ⟨hsame, hcode⟩ := readPlaintext_idle output hw.received
  have hnot : ¬0 < (readPlaintext handle output).1 := by omega
  simp [Tls.drain, drainWith, hnot, hsame]

-- After the close_notify nothing is taken, and only an empty chunk is exact.
theorem session_ended {taken : List UInt8} {handle : TlsConnection} (hw : Waits rustls taken handle)
    (hclosed : rustls.status taken = .Closed) (output : Capacity) (chunk : Slice) (rest : List Slice) :
    ∃ after, Waits rustls taken after ∧
      session rustls output handle (chunk :: rest) =
        ⟨(session rustls output after rest).plaintext, (session rustls output after rest).outcome,
          decide (chunk.val = []) && (session rustls output after rest).exact⟩ := by
  have hwrite := writeCiphertext_closed chunk hw.room (by simp [hw.closed, hclosed])
    (hw.processed.trans hw.isTaken.symm) (by rw [hw.isTaken]; exact hclosed)
  have hafter : Waits rustls taken
      { handle with plaintextReady := handle.connection.received.length, peerClosed := true } :=
    { hw with peer := by simp [hclosed] }
  have hexact : decide ((0 : Int) < 0 ∨ (0 : Int) = chunk.val.length) = decide (chunk.val = []) := by
    rw [decide_eq_decide, ← List.length_eq_zero_iff]
    omega
  refine ⟨_, hafter, ?_⟩
  rw [session, hwrite]
  simp only [hafter.drain output, hafter.code output, if_pos hclosed, hexact]
  simp

-- What an ideal connection gives of a stream, however it is cut.
def reference (rustls : Rustls) (taken bytes : List UInt8) : Delivery :=
  ⟨rustls.fresh taken bytes, rustls.status (taken ++ bytes), true⟩

-- While the connection is open every chunk is not empty and is taken whole by
-- its one read_tls, and after the close_notify every chunk is empty. What is
-- taken may fail as well, and an empty chunk may be where the rest of the stream
-- only fails.
def Fits (rustls : Rustls) : List UInt8 → List Slice → Prop
  | _, [] => True
  | taken, chunk :: rest =>
      if rustls.status taken = .Closed then chunk.val = [] ∧ Fits rustls taken rest
      else if chunk.val = [] then
        rustls.status (taken ++ stream rest) = .Failed ∧
          rustls.decrypt (taken ++ stream rest) = rustls.decrypt taken
      else
        rustls.status (taken ++ rustls.part taken chunk.val) = .Failed ∨
          rustls.take taken chunk.val.length = chunk.val.length ∧ Fits rustls (taken ++ chunk.val) rest

instance decidableFits (rustls : Rustls) : (taken : List UInt8) → (chunks : List Slice) →
    Decidable (Fits rustls taken chunks)
  | _, [] => inferInstanceAs (Decidable True)
  | taken, chunk :: rest =>
      have := decidableFits rustls taken rest
      have := decidableFits rustls (taken ++ chunk.val) rest
      inferInstanceAs (Decidable (if rustls.status taken = .Closed then chunk.val = [] ∧ Fits rustls taken rest
        else if chunk.val = [] then
          rustls.status (taken ++ stream rest) = .Failed ∧
            rustls.decrypt (taken ++ stream rest) = rustls.decrypt taken
        else
          rustls.status (taken ++ rustls.part taken chunk.val) = .Failed ∨
            rustls.take taken chunk.val.length = chunk.val.length ∧ Fits rustls (taken ++ chunk.val) rest))

theorem part_append_rest (taken chunk more : List UInt8) :
    chunk ++ more = rustls.part taken chunk ++ (chunk.drop (rustls.take taken chunk.length) ++ more) := by
  rw [Rustls.part, ← List.append_assoc, List.take_append_drop]

theorem part_whole {taken chunk : List UInt8} (hwhole : rustls.take taken chunk.length = chunk.length) :
    rustls.part taken chunk = chunk := by
  rw [Rustls.part, hwhole, List.take_length]

-- A session is the reference where its first chunk gives the plaintext and is
-- taken whole, and what follows is the reference.
theorem session_step_iff {taken : List UInt8} {after chunk more : List UInt8} {rest : Delivery} {exact : Bool}
    (hsplit : rustls.fresh taken (chunk ++ more) = after ++ rustls.fresh (taken ++ chunk) more) :
    (⟨after ++ rest.plaintext, rest.outcome, exact && rest.exact⟩ : Delivery) =
        reference rustls taken (chunk ++ more) ↔
      exact = true ∧ rest = reference rustls (taken ++ chunk) more := by
  obtain ⟨plaintext, ending, whole⟩ := rest
  rw [reference, reference, hsplit, Delivery.mk.injEq, Delivery.mk.injEq, List.append_right_inj,
    List.append_assoc, Bool.and_eq_true_iff]
  exact ⟨fun ⟨hplain, hending, hexact, hwhole⟩ => ⟨hexact, hplain, hending, hwhole⟩,
    fun ⟨hexact, hplain, hending, hwhole⟩ => ⟨hplain, hending, hexact, hwhole⟩⟩

theorem session_eq_reference_iff {taken : List UInt8} {handle : TlsConnection} (output : Capacity)
    (chunks : List Slice) (hw : Waits rustls taken handle) :
    session rustls output handle chunks = reference rustls taken (stream chunks) ↔
      Fits rustls taken chunks := by
  induction chunks generalizing taken handle with
  | nil =>
      refine ⟨fun _ => trivial, fun _ => ?_⟩
      rw [session_nil hw output]
      simp [reference, stream, Rustls.fresh]
  | cons chunk rest ih =>
      rw [Fits, stream_cons]
      cases hopen : rustls.status taken with
      | Failed => exact absurd hopen hw.alive
      | Closed =>
          obtain ⟨after, hafter, hsession⟩ := session_ended hw hopen output chunk rest
          have hsettled : reference rustls taken (chunk.val ++ stream rest) =
              reference rustls taken (stream rest) := by
            have hall : ∀ bytes, reference rustls taken bytes = ⟨[], .Closed, true⟩ := by
              intro bytes
              obtain ⟨hdecrypt, hstatus⟩ := rustls.settled taken bytes (by rw [hopen]; decide)
              simp [reference, Rustls.fresh, hdecrypt, hstatus, hopen]
            rw [hall, hall]
          rw [if_pos rfl, hsession, hsettled, ← ih hafter]
          constructor
          · intro hsame
            have hexact : (decide (chunk.val = []) && (session rustls output after rest).exact) = true :=
              congrArg Delivery.exact hsame
            obtain ⟨hempty, hrest⟩ := Bool.and_eq_true_iff.mp hexact
            refine ⟨of_decide_eq_true hempty, ?_⟩
            rw [← hsame, hempty, Bool.true_and]
          · intro ⟨hempty, hrest⟩
            rw [hrest, decide_eq_true hempty, Bool.true_and]
      | Open =>
          rw [if_neg (by decide)]
          by_cases hempty : chunk.val = []
          · have hfresh : [] = rustls.fresh taken (stream rest) ↔
                rustls.decrypt (taken ++ stream rest) = rustls.decrypt taken := by
              rw [← rustls.decrypt_fresh taken (stream rest), List.append_right_eq_self]
              exact eq_comm
            rw [if_pos hempty, session_starved hw hopen output rest hempty, hempty, List.nil_append, reference,
              Delivery.mk.injEq, hfresh]
            exact ⟨fun ⟨hsame, hfailed, _⟩ => ⟨hfailed.symm, hsame⟩,
              fun ⟨hfailed, hsame⟩ => ⟨hsame, hfailed.symm, rfl⟩⟩
          · rw [if_neg hempty]
            by_cases hfailed : rustls.status (taken ++ rustls.part taken chunk.val) = .Failed
            · refine ⟨fun _ => .inl hfailed, fun _ => ?_⟩
              obtain ⟨hfresh, hsettled⟩ := rustls.fresh_settled
                (chunk.val.drop (rustls.take taken chunk.val.length) ++ stream rest)
                (by rw [hfailed]; decide)
              rw [session_failed hw hopen output rest hfailed, reference, part_append_rest taken, hfresh,
                hsettled, hfailed]
            · obtain ⟨after, hafter, hsession⟩ := session_taken hw hopen output rest hempty hfailed
              by_cases hwhole : rustls.take taken chunk.val.length = chunk.val.length
              · rw [part_whole hwhole] at hsession hafter hfailed
                rw [hsession, decide_eq_true hwhole, session_step_iff (rustls.fresh_append _ _ _),
                  ih hafter, part_whole hwhole]
                exact ⟨fun ⟨_, hrest⟩ => .inr ⟨hwhole, hrest⟩,
                  fun h => ⟨rfl, (h.resolve_left hfailed).2⟩⟩
              · constructor
                · intro hsame
                  have hexact := congrArg Delivery.exact (hsession.symm.trans hsame)
                  exact absurd (of_decide_eq_true (Bool.and_eq_true_iff.mp hexact).1) hwhole
                · intro h
                  exact absurd (h.resolve_left hfailed).1 hwhole

-- The stream a byte at a time.
def bytewise (bytes : List UInt8) : List Slice :=
  bytes.map fun byte => ⟨[byte], by simp [isizeMax]⟩

@[simp] theorem stream_bytewise (bytes : List UInt8) : stream (bytewise bytes) = bytes := by
  induction bytes with
  | nil => rfl
  | cons byte rest ih => exact congrArg (byte :: ·) ih

-- Nothing follows the close_notify of the stream.
def Ends (rustls : Rustls) (bytes : List UInt8) : Prop :=
  ∀ before after, bytes = before ++ after → rustls.status before = .Closed → after = []

theorem fits_bytewise {taken : List UInt8} (bytes : List UInt8) (hends : Ends rustls (taken ++ bytes)) :
    Fits rustls taken (bytewise bytes) ∨ rustls.status taken = .Failed := by
  induction bytes generalizing taken with
  | nil => exact .inl trivial
  | cons byte rest ih =>
      cases hstatus : rustls.status taken with
      | Failed => exact .inr rfl
      | Closed =>
          have hnone := hends taken (byte :: rest) rfl hstatus
          cases hnone
      | Open =>
          have hle := rustls.take_le taken 1
          have hpos := rustls.take_pos taken 1 hstatus (Nat.lt_succ_self 0)
          have hone : rustls.take taken 1 = 1 := by omega
          have hnext := @ih (taken ++ [byte]) (by rw [List.append_assoc]; exact hends)
          have hpart : rustls.part taken [byte] = [byte] := part_whole hone
          refine .inl ?_
          show if rustls.status taken = .Closed then _ else _
          rw [if_neg (by rw [hstatus]; decide)]
          show rustls.status (taken ++ rustls.part taken [byte]) = .Failed ∨ _
          rw [hpart]
          exact hnext.elim (fun hfits => .inr ⟨hone, hfits⟩) .inl

-- Two ways of cutting a stream agree: the same plaintext and outcome, and every
-- successful write returns the length of its input.
def Agree (rustls : Rustls) (first second : Capacity × List Slice) : Prop :=
  let one := session rustls first.1 connectionNew first.2
  let other := session rustls second.1 connectionNew second.2
  one.plaintext = other.plaintext ∧ one.outcome = other.outcome ∧ one.exact ∧ other.exact

theorem session_reference (rustls : Rustls) (output : Capacity) {chunks : List Slice}
    (hfits : Fits rustls [] chunks) :
    session rustls output connectionNew chunks = reference rustls [] (stream chunks) :=
  (session_eq_reference_iff output chunks waits_new).mpr hfits

-- A cut gives what rustls decrypts of its stream exactly where its chunks fit,
-- and then any cut of the stream agrees with it exactly where its own chunks
-- fit. The bytewise cut fits where nothing follows the close_notify. A write
-- that is not exact is an overflow.
theorem write_ciphertext_chunks (rustls : Rustls) :
    (∀ (chunks : List Slice) (output : Capacity),
      session rustls output connectionNew chunks = reference rustls [] (stream chunks) ↔
        Fits rustls [] chunks) ∧
    (∀ (first second : List Slice) (output other : Capacity), stream first = stream second →
      Fits rustls [] second → (Agree rustls (output, first) (other, second) ↔ Fits rustls [] first)) ∧
    (∀ bytes, Ends rustls bytes → Fits rustls [] (bytewise bytes)) ∧
    ∀ (handle : TlsConnection) (data : Slice),
      (writeCiphertextUnbuffered rustls handle data).1 = .error .CiphertextInOverflow ↔
        0 ≤ (writeCiphertext rustls handle data).1 ∧
          (writeCiphertext rustls handle data).1 ≠ data.val.length := by
  refine ⟨fun chunks output => session_eq_reference_iff output chunks waits_new, ?_, ?_,
    writeCiphertextUnbuffered_overflow rustls⟩
  · intro first second output other he hsecond
    have hother := session_reference rustls other hsecond
    constructor
    · rintro ⟨hplaintext, houtcome, hexact, -⟩
      apply (session_eq_reference_iff output first waits_new).mp
      have hsame : session rustls output connectionNew first =
          ⟨_, _, (session rustls output connectionNew first).exact⟩ := rfl
      rw [hsame, hplaintext, houtcome, hexact, hother, he]
      rfl
    · intro hfirst
      rw [Agree, session_reference rustls output hfirst, hother, he]
      exact ⟨rfl, rfl, rfl, rfl⟩
  · intro bytes hends
    exact (fits_bytewise bytes hends).resolve_right (by rw [rustls.start.2]; decide)

end Cuts

-- The record and the close_notify cut between them and in the middle of the record.
def halves : List Slice :=
  [⟨greeting.val.take 3, by decide⟩, ⟨greeting.val.drop 3 ++ farewell.val, by decide⟩, ⟨[], by decide⟩]

theorem write_ciphertext_chunks_greeting :
    Agree plainRecords (byteBuffer, [greeting, farewell]) (smallBuffer, halves) :=
  ((write_ciphertext_chunks plainRecords).2.1 _ _ byteBuffer smallBuffer (by decide) (by decide)).mpr (by decide)

-- One record of 5000 bytes.
def lengthy : Slice := ⟨[23, 3, 3, 19, 131] ++ List.replicate 4995 0, by
  simp only [List.length_append, List.length_replicate]; decide⟩

-- An empty chunk fails a stream that is open without it, and a chunk of 5000
-- bytes and a chunk after the close_notify are an overflow.
theorem chunks_disagree :
    ¬Agree plainRecords (smallBuffer, [⟨[], by decide⟩, greeting]) (smallBuffer, [greeting]) ∧
      session plainRecords smallBuffer connectionNew [⟨[], by decide⟩, greeting] =
        ⟨[], .Failed, true⟩ ∧
      session plainRecords smallBuffer connectionNew [greeting] = ⟨[104, 105], .Open, true⟩ ∧
      (writeCiphertextUnbuffered plainRecords connectionNew lengthy).1 = .error .CiphertextInOverflow ∧
      session plainRecords smallBuffer connectionNew [greeting, farewell, greeting] =
        ⟨[104, 105], .Closed, false⟩ ∧
      (writeCiphertextUnbuffered plainRecords (writeCiphertext plainRecords connectionNew farewell).2
        greeting).1 = .error .CiphertextInOverflow := by
  refine ⟨?_, by decide, by decide, by decide +kernel, by decide, by decide⟩
  rintro ⟨hplaintext, -⟩
  exact absurd hplaintext (by decide)

end OpenvpnConnect.Tls
