import ProjectNeon.Run

/-!
# The per-thread error channel

`set_error` copies a message into the calling thread's `g_error_buffer` (`strncpy` of at most 511
bytes, then a terminator), and `neon_get_last_error` hands that buffer back, or `NULL` while its
first byte is `NUL`.  The channel is abstracted as an `ErrView`: every thread's buffer, and the
messages written so far with their threads, newest first, read off the trace (each `set_error`
leaves one `Event.error` there).

* `ErrView.Outcome`, `ErrView.Step`: what one call on thread `t` may do to the channel: nothing, or
  exactly one `set_error` on `t` of one of the library's messages (`errorMessages`).
* `St.Answers` sharpens a step for the calls with a failure value: the call records a message
  exactly when it returns that value.  `ProjectNeon.ErrorReports` shows that every call of the C
  API is a step (`Call.exec_step`) and which calls answer so (`neonClientNew_reports`, ...).
* `ErrView.Consistent`: each buffer holds the first 511 bytes of its thread's last message.  Every
  step keeps it (`ErrView.Consistent.step`), and on a consistent channel `neon_get_last_error`
  returns `NULL` or exactly those bytes (`ErrView.Consistent.read`).
-/

namespace ProjectNeon

open NeonClientJNI NeonHostJNI

/-! ## The channel -/

/-- What the error channel holds: every thread's buffer, and the messages `set_error` has written,
newest first, each with its thread. -/
structure ErrView where
  buffer : Tid → Fin 512 → UInt8
  messages : List (Tid × String)

/-- The message an event writes, with its thread. -/
def Event.message? : Event → Option (Tid × String)
  | .jni .. => none
  | .error t msg => some (t, msg)

/-- The error channel of a state. -/
def St.errView (s : St) : ErrView := ⟨s.errorBuffer, s.trace.filterMap Event.message?⟩

/-- Every message `neon_jni.c` passes to `set_error`, in the order of the source. -/
def errorMessages : List String :=
  ["JVM not initialized", "Failed to attach thread to JVM", "Failed to get JNI environment",
    "Client name cannot be null", "Failed to get client name string",
    "Failed to find NeonClient constructor", "Failed to create NeonClient instance",
    "Failed to allocate client handle", "Invalid client handle",
    "Failed to get relay address string", "Invalid relay address format (expected host:port)",
    "Failed to find connect method", "Failed to create host string", "Exception during connect",
    "Failed to find processPackets method", "Exception during processPackets",
    "Failed to find getClientId method", "Failed to find getSessionId method",
    "Failed to find sendPing method", "Exception during sendPing",
    "Failed to find setAutoPing method", "Relay address cannot be null",
    "Failed to find NeonHost constructor", "Failed to create NeonHost instance",
    "Failed to allocate host handle", "Invalid host handle", "Failed to find start method",
    "Exception during start", "Failed to find getClientCount method",
    "Failed to create name string", "Failed to create relay address string"]

/-- Every message is a non-empty C string: `neon_get_last_error` can tell it from an empty buffer,
and `strncpy` copies all of its first 511 bytes. -/
theorem errorMessages_readable : ∀ m ∈ errorMessages, cBytes m ≠ [] ∧ (0 : UInt8) ∉ cBytes m := by
  decide

/-- Every message is short enough for the buffer, and ASCII, so modified UTF-8 carries it unchanged
to a Java string and back. -/
theorem errorMessages_ascii :
    ∀ m ∈ errorMessages, (cBytes m).length ≤ 511 ∧ ∀ b ∈ cBytes m, ModifiedUtf8.IsAscii b := by
  decide

theorem bindErrors_subset {m : String} (h : m ∈ bindErrors) : m ∈ errorMessages := by
  simp only [bindErrors, List.mem_cons, List.mem_singleton, List.not_mem_nil, or_false] at h
  rcases h with rfl | rfl | rfl <;> simp only [errorMessages, List.mem_cons, or_true, true_or]

namespace ErrView

/-- `set_error(msg)` on thread `t`, writing `buf` into its buffer. -/
def record (v : ErrView) (t : Tid) (msg : String) (buf : Fin 512 → UInt8) : ErrView :=
  ⟨fun u => if u = t then buf else v.buffer u, (t, msg) :: v.messages⟩

/-- The message thread `t` wrote last. -/
def lastError (v : ErrView) (t : Tid) : Option String := (v.messages.find? (·.1 = t)).map (·.2)

@[simp] theorem record_buffer (v : ErrView) (t : Tid) (msg : String) (buf : Fin 512 → UInt8)
    (u : Tid) : (v.record t msg buf).buffer u = if u = t then buf else v.buffer u := rfl

@[simp] theorem lastError_record (v : ErrView) (t : Tid) (msg : String) (buf : Fin 512 → UInt8)
    (u : Tid) : (v.record t msg buf).lastError u = if u = t then some msg else v.lastError u := by
  by_cases h : u = t
  · subst h
    simp [record, lastError]
  · simp [record, lastError, List.find?_cons, Ne.symm h, h]

/-! ## One call -/

/-- The channel after one call on thread `t` that failed (`true`) or did not: a failure wrote
exactly one of the library's messages, on `t`; any other call wrote nothing at all. -/
def Outcome (t : Tid) : Bool → ErrView → ErrView → Prop
  | false, v, v' => v' = v
  | true, v, v' => ∃ m ∈ errorMessages, v' = v.record t m (errorBufferOf (cBytes m))

/-- What one call on thread `t` may do to the channel, whether it failed or not. -/
def Step (t : Tid) (v v' : ErrView) : Prop := Outcome t false v v' ∨ Outcome t true v v'

variable {t : Tid} {v v' : ErrView}

@[simp] theorem outcome_false_iff : Outcome t false v v' ↔ v' = v := Iff.rfl

@[simp] theorem outcome_true_record {m : String} (hm : m ∈ errorMessages) :
    Outcome t true v (v.record t m (errorBufferOf (cBytes m))) :=
  ⟨m, hm, rfl⟩

theorem Outcome.step {b : Bool} (h : Outcome t b v v') : Step t v v' := by
  cases b
  · exact .inl h
  · exact .inr h

@[simp] theorem step_refl : Step t v v := .inl rfl

@[simp] theorem step_record {m : String} (hm : m ∈ errorMessages) :
    Step t v (v.record t m (errorBufferOf (cBytes m))) :=
  .inr ⟨m, hm, rfl⟩

/-! ## What a consistent channel reads -/

/-- The bytes `g_error_buffer` holds after the message `m`, or its initial zeros. -/
def bufferOf : Option String → Fin 512 → UInt8
  | none => fun _ => 0
  | some m => errorBufferOf (cBytes m)

/-- Each thread's buffer holds its last message, and that message is one of the library's. -/
def Consistent (v : ErrView) : Prop :=
  ∀ u, v.buffer u = bufferOf (v.lastError u) ∧ ∀ m ∈ v.lastError u, m ∈ errorMessages

/-- The channel of a process that has written no message yet. -/
theorem consistent_empty : Consistent ⟨fun _ _ => 0, []⟩ := fun _ => ⟨rfl, by simp [lastError]⟩

theorem Consistent.step (hv : Consistent v) (h : Step t v v') : Consistent v' := by
  rcases h with rfl | ⟨m, hm, rfl⟩
  · exact hv
  · intro u
    by_cases hu : u = t
    · subst hu
      simp [bufferOf, hm]
    · simpa [hu] using hv u

end ErrView

/-- `buf` read as `neon_get_last_error` reads it: `NULL` for an empty buffer, else its C string. -/
def readLastError (buf : Fin 512 → UInt8) : Option (List UInt8) :=
  if buf 0 = 0 then none else some (cStringAt buf)

/-- `neon_get_last_error` reads the calling thread's buffer and changes nothing. -/
theorem neonGetLastError_apply (t : Tid) (s : St) :
    neonGetLastError t s = (readLastError (s.errorBuffer t), s) := by
  simp only [neonGetLastError, readLastError, readSt_bind, Jni.ite_apply]
  split <;> rfl

/-- The C string of a buffer `strncpy` filled from `NUL`-free bytes: their first 511. -/
theorem cStringFrom_errorBufferOf {bytes : List UInt8} (h0 : (0 : UInt8) ∉ bytes) :
    ∀ n i, cStringFrom (errorBufferOf bytes) i n = (bytes.drop i).take (min n (511 - i))
  | 0, i => by simp [cStringFrom]
  | n + 1, i => by
    by_cases hi : i < 511
    · have h512 : i < 512 := by omega
      rcases Nat.lt_or_ge i bytes.length with hl | hl
      · have hg : bytes.getD i 0 = bytes[i] := by simp [hl]
        have hb : bytes[i] ≠ 0 := fun h => h0 (h ▸ List.getElem_mem hl)
        have hmin : min (n + 1) (511 - i) = min n (511 - (i + 1)) + 1 := by omega
        simp only [cStringFrom, dif_pos h512, errorBufferOf, hi, if_true, hg, hb, if_false,
          cStringFrom_errorBufferOf h0 n (i + 1), hmin, List.drop_eq_getElem_cons hl,
          List.take_succ_cons]
      · have hg : bytes.getD i 0 = 0 := by simp [List.getElem?_eq_none hl]
        simp only [cStringFrom, dif_pos h512, errorBufferOf, if_pos hi, hg, if_true,
          List.drop_eq_nil_of_le hl, List.take_nil]
    · by_cases h512 : i < 512
      · simp [cStringFrom, h512, errorBufferOf, hi, show 511 - i = 0 by omega]
      · simp [cStringFrom, h512, show 511 - i = 0 by omega]

theorem cStringAt_errorBufferOf {bytes : List UInt8} (h0 : (0 : UInt8) ∉ bytes) :
    cStringAt (errorBufferOf bytes) = bytes.take 511 := by
  simpa using cStringFrom_errorBufferOf h0 512 0

/-- The first byte of a message's buffer is not `NUL`. -/
theorem errorBufferOf_zero_ne {m : String} (hm : m ∈ errorMessages) :
    errorBufferOf (cBytes m) 0 ≠ 0 := by
  obtain ⟨hne, h0⟩ := errorMessages_readable m hm
  obtain ⟨c, cs, hc⟩ := List.exists_cons_of_ne_nil hne
  simpa [errorBufferOf, hc] using fun e : c = 0 => h0 (by simp [hc, e])

/-- On a consistent channel `neon_get_last_error` returns `NULL` while the thread has written no
message, and otherwise the first 511 bytes of the last one. -/
theorem ErrView.Consistent.read {v : ErrView} (hv : v.Consistent) (t : Tid) :
    readLastError (v.buffer t) = (v.lastError t).map fun m => (cBytes m).take 511 := by
  obtain ⟨hb, hm⟩ := hv t
  rw [hb]
  cases h : v.lastError t with
  | none => simp [readLastError, ErrView.bufferOf]
  | some m =>
    have hmem := hm m (by simp [h])
    simp only [readLastError, ErrView.bufferOf, if_neg (errorBufferOf_zero_ne hmem),
      cStringAt_errorBufferOf (errorMessages_readable m hmem).2, Option.map_some']

/-- A buffer `set_error` filled with one of the library's messages reads back as the whole
message. -/
theorem readLastError_errorBufferOf {m : String} (hm : m ∈ errorMessages) :
    readLastError (errorBufferOf (cBytes m)) = some (cBytes m) := by
  rw [readLastError, if_neg (errorBufferOf_zero_ne hm),
    cStringAt_errorBufferOf (errorMessages_readable m hm).2,
    List.take_of_length_le (errorMessages_ascii m hm).1]

/-! ## The channel through the state's updates -/

section Updates

variable (s : St) (t : Tid)

@[simp] theorem St.errView_log (q : Request) : (s.log t q).errView = s.errView := rfl
@[simp] theorem St.errView_setPending (b : Bool) : (s.setPending t b).errView = s.errView := rfl
@[simp] theorem St.errView_recordError (msg : String) (buf : Fin 512 → UInt8) :
    (s.recordError t msg buf).errView = s.errView.record t msg buf := rfl
@[simp] theorem St.errView_pushLocal (r : Ref) : (s.pushLocal t r).errView = s.errView := rfl
@[simp] theorem St.errView_eraseLocal (r : Ref) : (s.eraseLocal t r).errView = s.errView := rfl
@[simp] theorem St.errView_pin (r : Ref) : (s.pin t r).errView = s.errView := rfl
@[simp] theorem St.errView_unpin (r : Ref) : (s.unpin t r).errView = s.errView := rfl
@[simp] theorem St.errView_bump : s.bump.errView = s.errView := rfl
@[simp] theorem St.errView_addGlobal (o : Obj) : (s.addGlobal o).errView = s.errView := rfl
@[simp] theorem St.errView_eraseGlobal (g : Option Ref) : (s.eraseGlobal g).errView = s.errView := by
  cases g <;> rfl
@[simp] theorem St.errView_setClient (p : Nat) (o : Option ClientHandle) :
    (s.setClient p o).errView = s.errView := rfl
@[simp] theorem St.errView_setHost (p : Nat) (o : Option HostHandle) :
    (s.setHost p o).errView = s.errView := rfl

/-- `get_jni_env`'s own requests write no message. -/
theorem St.errView_bindRequests {evs : List Event} {p : Bool}
    (h : ∀ e ∈ evs, IsBindRequest t p e) : { s with trace := evs ++ s.trace }.errView = s.errView := by
  have hn : evs.filterMap Event.message? = [] :=
    List.filterMap_eq_nil_iff.2 fun e he => by rcases h e he with rfl | rfl <;> rfl
  simp [St.errView, hn]

end Updates

/-- A call on `t` from `s` that returned `r.1` in state `r.2` wrote exactly one message, on `t`,
when it returned `failure`, and wrote nothing otherwise. -/
def St.Answers {α : Type} [DecidableEq α] (t : Tid) (failure : α) (s : St) (r : α × St) : Prop :=
  ErrView.Outcome t (r.1 = failure) s.errView r.2.errView

@[simp] theorem St.answers_mk {α : Type} [DecidableEq α] (t : Tid) (failure a : α) (s s' : St) :
    s.Answers t failure (a, s') ↔ ErrView.Outcome t (a = failure) s.errView s'.errView := Iff.rfl

/-- A branch that records `msg` and returns the failure value. -/
theorem St.answers_recordError {α : Type} [DecidableEq α] {t : Tid} {failure : α} {s s' : St}
    {msg : String} (hm : msg ∈ errorMessages) (h : s'.errView = s.errView) :
    s.Answers t failure (failure, s'.recordError t msg (errorBufferOf (cBytes msg))) := by
  simp [h, hm]

/-- A branch that records nothing and returns another value. -/
theorem St.answers_of_ne {α : Type} [DecidableEq α] {t : Tid} {failure a : α} {s s' : St}
    (ha : a ≠ failure) (h : s'.errView = s.errView) : s.Answers t failure (a, s') := by
  simp [h, ha]

theorem St.Answers.step {α : Type} [DecidableEq α] {t : Tid} {failure : α} {s : St} {r : α × St}
    (h : s.Answers t failure r) : ErrView.Step t s.errView r.2.errView :=
  ErrView.Outcome.step h

/-- After a call that returned its failure value, `neon_get_last_error` on its thread reads the
message the call recorded. -/
theorem St.Answers.reads {α : Type} [DecidableEq α] {t : Tid} {failure : α} {s : St} {r : α × St}
    (h : s.Answers t failure r) (hf : r.1 = failure) :
    ∃ m ∈ errorMessages, (neonGetLastError t r.2).1 = some (cBytes m) := by
  obtain ⟨m, hm, hv⟩ : ErrView.Outcome t true s.errView r.2.errView := by
    simpa [St.Answers, hf] using h
  refine ⟨m, hm, ?_⟩
  have hb : r.2.errorBuffer t = errorBufferOf (cBytes m) := by
    simpa using congrArg (·.buffer t) hv
  rw [neonGetLastError_apply, hb, readLastError_errorBufferOf hm]

end ProjectNeon
