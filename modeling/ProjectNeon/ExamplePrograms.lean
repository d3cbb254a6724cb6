import ProjectNeon.Callbacks
import ProjectNeon.ErrorReports
import ProjectNeon.Loading

/-!
# The example programs

`examples/client_example.c` and `examples/host_example.c` are `main`s that drive the C API from one
native thread `t`.  Each is modelled from the call of its constructor on, with the arguments it parsed
(`atoi` and the defaults are not modelled), the addresses of its callback functions as parameters, and
`sleep_ms` dropped (it touches no state of the library).  What a program prints is kept as far as it
carries a value the library returned (`Line`); the lines of fixed text, and those that only echo the
program's arguments, are left out.

* `examples_error_lines`: whatever the runtime and the state, every error line an example prints
  holds a message: `neon_get_last_error()` is never `NULL` where the examples pass it to `%s`.
* `clientLoop_jvm`, `hostLoop_jvm`: the programs leave `g_jvm` alone, so a virtual machine loaded
  before them stays loaded throughout; `ProjectNeon.Registry` uses this to show that they leave the
  handle registry as they found it (`examples_keep_registry`).
-/

namespace ProjectNeon

/-- A line an example prints that carries a value the library returned. -/
inductive Line where
  /-- `"Failed to create client: %s"` or `"Failed to create host: %s"`. -/
  | createFailed (err : Option (List UInt8))
  /-- `"Failed to connect: %s"`. -/
  | connectFailed (err : Option (List UInt8))
  /-- `"Processed %d packets"`, after the first `neon_client_process_packets`. -/
  | processed (n : JInt)
  /-- `"Client is connected!"` (`true`) or `"Client is not connected"` (`false`). -/
  | connected (b : Bool)
  /-- `"Client ID: %u"`. -/
  | clientId (id : UInt8)
  /-- `"Session ID: %u"`, as `neon_client_get_session_id` or `neon_host_get_session_id` returned
  it. -/
  | sessionId (id : UInt32)
  /-- `"Processed %d packets (iteration %d)"`. -/
  | processedAt (n : JInt) (iteration : Nat)
  /-- `"Client disconnected!"`. -/
  | disconnected
  /-- `"Initial client count: %zu"` or `"Current client count: %zu"`. -/
  | clientCount (n : UInt64)
deriving DecidableEq, Repr

/-- The error lines, with the `%s` they print. -/
def Line.error? : Line → Option (Option (List UInt8))
  | .createFailed err | .connectFailed err => some err
  | _ => none

section Programs

variable (rt : Runtime) (t : Tid)

/-- The loop of `client_example.c`, `for (int i = 0; i < 30; i++)`, from iteration `i` with `n`
iterations left. -/
def clientLoop (client : Nat) : Nat → Nat → Jni (List Line)
  | _, 0 => pure []
  | i, n + 1 => do
    let packets ← neonClientProcessPackets rt t client
    let shown := if 0 < packets.toInt then [Line.processedAt packets (i + 1)] else []
    if i % 5 = 0 ∧ 0 < i then
      let _ ← neonClientSendPing rt t client
    if !(← neonClientIsConnected rt t client) then
      return shown ++ [.disconnected]
    return shown ++ (← clientLoop client (i + 1) n)

/-- `main` of `client_example.c`, from `neon_client_new(client_name)` on: its exit status and the
lines it prints. -/
def clientExample (clientName : CString) (sessionId : UInt32) (relayAddr : CString)
    (callbacks : ClientEvent → Nat) : Jni (Nat × List Line) := do
  let client ← neonClientNew rt t clientName
  if client = 0 then
    return (1, [.createFailed (← neonGetLastError t)])
  neonClientSetPongCallback rt t client (callbacks .pong)
  neonClientSetSessionConfigCallback rt t client (callbacks .sessionConfig)
  neonClientSetPacketTypeRegistryCallback rt t client (callbacks .packetTypeRegistry)
  neonClientSetUnhandledPacketCallback rt t client (callbacks .unhandledPacket)
  neonClientSetWrongDestinationCallback rt t client (callbacks .wrongDestination)
  if !(← neonClientConnect rt t client sessionId relayAddr) then
    let err ← neonGetLastError t
    neonClientFree rt t client
    return (1, [.connectFailed err])
  let packets ← neonClientProcessPackets rt t client
  let status ← if ← neonClientIsConnected rt t client then do
      let id ← neonClientGetId rt t client
      let sid ← neonClientGetSessionId rt t client
      pure [Line.connected true, .clientId id, .sessionId sid]
    else pure [Line.connected false]
  let looped ← clientLoop rt t client 0 30
  neonClientFree rt t client
  return (0, Line.processed packets :: status ++ looped)

/-- The loop of `host_example.c`, `for (int i = 0; i < 60; i++)`, from iteration `i` with `n`
iterations left. -/
def hostLoop (host : Nat) : Nat → Nat → Jni (List Line)
  | _, 0 => pure []
  | i, n + 1 => do
    let packets ← neonHostProcessPackets rt t host
    let shown ← if 0 < packets.toInt then do
        let count ← neonHostGetClientCount rt t host
        pure [Line.processedAt packets (i + 1), .clientCount count]
      else pure []
    return shown ++ (← hostLoop host (i + 1) n)

/-- `main` of `host_example.c`, from `neon_host_new(session_id, relay_addr)` on: its exit status and
the lines it prints. -/
def hostExample (sessionId : UInt32) (relayAddr : CString) (callbacks : HostEvent → Nat) :
    Jni (Nat × List Line) := do
  let host ← neonHostNew rt t sessionId relayAddr
  if host = 0 then
    return (1, [.createFailed (← neonGetLastError t)])
  neonHostSetClientConnectCallback rt t host (callbacks .clientConnect)
  neonHostSetClientDenyCallback rt t host (callbacks .clientDeny)
  neonHostSetPingReceivedCallback rt t host (callbacks .pingReceived)
  neonHostSetUnhandledPacketCallback rt t host (callbacks .unhandledPacket)
  let sid ← neonHostGetSessionId rt t host
  let count ← neonHostGetClientCount rt t host
  let looped ← hostLoop rt t host 0 60
  neonHostFree rt t host
  return (0, .sessionId sid :: .clientCount count :: looped)

end Programs

/-! ## Run with no virtual machine -/

/-- `neon_get_last_error` right after `set_error` of one of the library's messages reads that
message. -/
theorem neonGetLastError_recordError {m : String} (hm : m ∈ errorMessages) (t : Tid) (s : St) :
    neonGetLastError t (s.recordError t m (errorBufferOf (cBytes m))) =
      (some (cBytes m), s.recordError t m (errorBufferOf (cBytes m))) := by
  rw [neonGetLastError_apply]
  simp only [St.recordError, ↓reduceIte, readLastError_errorBufferOf hm]

theorem jvmNotInitialized_mem : "JVM not initialized" ∈ errorMessages := by
  simp only [errorMessages, List.mem_cons, true_or]

section Standalone

variable (rt : Runtime) (t : Tid) (s : St) (hj : s.jvm = none)
include hj

theorem neonClientNew_unloaded (name : CString) :
    neonClientNew rt t name s =
      (0, s.recordError t "JVM not initialized" (errorBufferOf (cBytes "JVM not initialized"))) := by
  simp only [neonClientNew, getJniEnv_bind, getJniEnv_of_unloaded rt t s hj, Jni.pure_apply]

theorem clientExample_unloaded (clientName : CString) (sessionId : UInt32) (relayAddr : CString)
    (callbacks : ClientEvent → Nat) :
    (clientExample rt t clientName sessionId relayAddr callbacks s).1 =
      (1, [.createFailed (some (cBytes "JVM not initialized"))]) := by
  simp only [clientExample, Jni.bind_apply (neonClientNew rt t clientName),
    neonClientNew_unloaded rt t s hj, ↓reduceIte, Jni.bind_apply (neonGetLastError t),
    neonGetLastError_recordError jvmNotInitialized_mem, Jni.pure_apply]

end Standalone

/-! ## What the examples print -/

section Lines

variable (rt : Runtime) (t : Tid)

theorem clientLoop_no_error (client : Nat) :
    ∀ n i s, ∀ l ∈ (clientLoop rt t client i n s).1, l.error? = none
  | 0, _, _ => by simp [clientLoop]
  | n + 1, i, s => by
    intro l hl
    simp only [clientLoop, Jni.bind_apply, Jni.ite_apply, Jni.pure_apply] at hl
    generalize hsh : (if 0 < (neonClientProcessPackets rt t client s).1.toInt then
      [Line.processedAt (neonClientProcessPackets rt t client s).1 (i + 1)] else []) = shown at hl
    have hshown : ∀ l ∈ shown, l.error? = none := by
      subst hsh
      split_ifs <;> simp [Line.error?]
    split_ifs at hl <;> rcases List.mem_append.1 hl with h | h <;>
      first
      | exact hshown l h
      | exact clientLoop_no_error client n _ _ l h
      | obtain rfl := List.mem_singleton.1 h; rfl

theorem hostLoop_no_error (host : Nat) :
    ∀ n i s, ∀ l ∈ (hostLoop rt t host i n s).1, l.error? = none
  | 0, _, _ => by simp [hostLoop]
  | n + 1, i, s => by
    intro l hl
    simp only [hostLoop, Jni.bind_apply, Jni.ite_apply, Jni.pure_apply] at hl
    split_ifs at hl <;> rcases List.mem_append.1 hl with h | h
    · simp only [List.mem_cons, List.mem_singleton, List.not_mem_nil, or_false] at h
      rcases h with rfl | rfl <;> rfl
    · exact hostLoop_no_error host n _ _ l h
    · exact absurd h (List.not_mem_nil l)
    · exact hostLoop_no_error host n _ _ l h

theorem clientExample_error_lines (clientName : CString) (sessionId : UInt32) (relayAddr : CString)
    (callbacks : ClientEvent → Nat) (s : St) :
    ∀ l ∈ (clientExample rt t clientName sessionId relayAddr callbacks s).1.2, ∀ err,
      l.error? = some err → ∃ m ∈ errorMessages, err = some (cBytes m) := by
  intro l hl err he
  simp only [clientExample, Jni.bind_apply, Jni.ite_apply, Jni.pure_apply] at hl
  split_ifs at hl with h0 hc hconn
  · obtain rfl := List.mem_singleton.1 hl
    cases he
    exact (neonClientNew_reports rt t _ _).reads h0
  · obtain rfl := List.mem_singleton.1 hl
    cases he
    exact (neonClientConnect_reports rt t _ _ _ _).reads (by simpa using hc)
  all_goals
    simp only [List.cons_append, List.nil_append, List.mem_cons] at hl
    have hnone : l.error? = none := by
      repeat' rcases hl with rfl | hl
      all_goals first | rfl | exact clientLoop_no_error rt t _ _ _ _ l hl
    simp [hnone] at he

theorem hostExample_error_lines (sessionId : UInt32) (relayAddr : CString)
    (callbacks : HostEvent → Nat) (s : St) :
    ∀ l ∈ (hostExample rt t sessionId relayAddr callbacks s).1.2, ∀ err,
      l.error? = some err → ∃ m ∈ errorMessages, err = some (cBytes m) := by
  intro l hl err he
  simp only [hostExample, Jni.bind_apply, Jni.ite_apply, Jni.pure_apply] at hl
  split_ifs at hl with h0
  · obtain rfl := List.mem_singleton.1 hl
    cases he
    exact (neonHostNew_reports rt t _ _ _).reads h0
  · simp only [List.mem_cons] at hl
    have hnone : l.error? = none := by
      rcases hl with rfl | rfl | hl
      · rfl
      · rfl
      · exact hostLoop_no_error rt t _ _ _ _ l hl
    simp [hnone] at he

end Lines

/-! ## `g_jvm` along the programs -/

section Jvm

variable (rt : Runtime) (t : Tid) (s : St)

/-! The calls the examples make leave `g_jvm` alone (`Call.exec_jvm`). -/

@[simp] theorem neonClientNew_jvm (name : CString) : (neonClientNew rt t name s).2.jvm = s.jvm :=
  Call.exec_jvm rt t (.clientNew name) s
@[simp] theorem neonHostNew_jvm (sessionId : UInt32) (relayAddr : CString) :
    (neonHostNew rt t sessionId relayAddr s).2.jvm = s.jvm :=
  Call.exec_jvm rt t (.hostNew sessionId relayAddr) s
@[simp] theorem neonClientSetCallback_jvm (e : ClientEvent) (client callback : Nat) :
    (neonClientSetCallback rt t e client callback s).2.jvm = s.jvm :=
  Call.exec_jvm rt t (.clientSetCallback e client callback) s
@[simp] theorem neonClientConnect_jvm (client : Nat) (sessionId : UInt32) (relayAddr : CString) :
    (neonClientConnect rt t client sessionId relayAddr s).2.jvm = s.jvm :=
  Call.exec_jvm rt t (.clientConnect client sessionId relayAddr) s
@[simp] theorem neonClientProcessPackets_jvm (client : Nat) :
    (neonClientProcessPackets rt t client s).2.jvm = s.jvm :=
  Call.exec_jvm rt t (.clientProcessPackets client) s
@[simp] theorem neonClientIsConnected_jvm (client : Nat) :
    (neonClientIsConnected rt t client s).2.jvm = s.jvm :=
  Call.exec_jvm rt t (.clientIsConnected client) s
@[simp] theorem neonClientSendPing_jvm (client : Nat) :
    (neonClientSendPing rt t client s).2.jvm = s.jvm :=
  Call.exec_jvm rt t (.clientSendPing client) s
@[simp] theorem neonClientGetId_jvm (client : Nat) : (neonClientGetId rt t client s).2.jvm = s.jvm :=
  Call.exec_jvm rt t (.clientGetId client) s
@[simp] theorem neonClientGetSessionId_jvm (client : Nat) :
    (neonClientGetSessionId rt t client s).2.jvm = s.jvm :=
  Call.exec_jvm rt t (.clientGetSessionId client) s
@[simp] theorem neonHostSetCallback_jvm (e : HostEvent) (host callback : Nat) :
    (neonHostSetCallback rt t e host callback s).2.jvm = s.jvm :=
  Call.exec_jvm rt t (.hostSetCallback e host callback) s
@[simp] theorem neonHostProcessPackets_jvm (host : Nat) :
    (neonHostProcessPackets rt t host s).2.jvm = s.jvm :=
  Call.exec_jvm rt t (.hostProcessPackets host) s
@[simp] theorem neonHostGetSessionId_jvm (host : Nat) :
    (neonHostGetSessionId rt t host s).2.jvm = s.jvm :=
  Call.exec_jvm rt t (.hostGetSessionId host) s
@[simp] theorem neonHostGetClientCount_jvm (host : Nat) :
    (neonHostGetClientCount rt t host s).2.jvm = s.jvm :=
  Call.exec_jvm rt t (.hostGetClientCount host) s

theorem clientLoop_jvm (client : Nat) : ∀ n i s, (clientLoop rt t client i n s).2.jvm = s.jvm
  | 0, _, _ => rfl
  | n + 1, i, s => by
    simp only [clientLoop, Jni.bind_apply, Jni.ite_apply, Jni.pure_apply]
    split_ifs <;> simp [clientLoop_jvm client n]

theorem hostLoop_jvm (host : Nat) : ∀ n i s, (hostLoop rt t host i n s).2.jvm = s.jvm
  | 0, _, _ => rfl
  | n + 1, i, s => by
    simp only [hostLoop, Jni.bind_apply, Jni.ite_apply, Jni.pure_apply]
    split_ifs <;> simp [hostLoop_jvm host n]

end Jvm

/-! ## The examples as programs -/

/-- The arguments `client_example.c` runs with by default. -/
def defaultClientName : CString := ⟨cBytes "TestClient", by decide⟩

/-- The relay address both examples use by default. -/
def defaultRelayAddr : CString := ⟨cBytes "127.0.0.1:7777", by decide⟩

/-- **Every error line has its message.**  Whatever the runtime and the state, every
`"Failed to create ...: %s"` or `"Failed to connect: %s"` line the examples print passes
`neon_get_last_error()` a buffer that holds the whole of one of the library's messages: the constructor
or `neon_client_connect` that failed recorded it just before, so `%s` is never given `NULL`. -/
theorem examples_error_lines (rt : Runtime) (t : Tid) :
    (∀ clientName sessionId relayAddr callbacks s,
      ∀ l ∈ (clientExample rt t clientName sessionId relayAddr callbacks s).1.2, ∀ err,
        l.error? = some err → ∃ m ∈ errorMessages, err = some (cBytes m)) ∧
    ∀ sessionId relayAddr callbacks s,
      ∀ l ∈ (hostExample rt t sessionId relayAddr callbacks s).1.2, ∀ err,
        l.error? = some err → ∃ m ∈ errorMessages, err = some (cBytes m) :=
  ⟨clientExample_error_lines rt t, hostExample_error_lines rt t⟩

theorem examples_error_lines_standalone :
    ∃ m ∈ errorMessages, some (cBytes "JVM not initialized") = some (cBytes m) :=
  (examples_error_lines .cooperative 0).1 defaultClientName 12345 defaultRelayAddr (fun _ => 1) {}
    (.createFailed (some (cBytes "JVM not initialized")))
    (by rw [clientExample_unloaded .cooperative 0 {} rfl]; exact List.mem_singleton_self _) _ rfl

end ProjectNeon
