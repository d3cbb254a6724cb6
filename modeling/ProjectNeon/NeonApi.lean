import ProjectNeon.NeonJni

/-!
# `project_neon.h`: the C API

The functions a game engine calls, from any native thread `t`.  Each binds the thread with
`get_jni_env` and forwards to the JNI layer; the two constructors and `neon_client_connect` first
convert their `const char *` argument with `NewStringUTF` and delete that local reference after the
forwarded call.  Handles are addresses, `0` being `NULL`.

All the other functions share one shape, `forward`: a `NULL` handle returns the function's failure
value (recording `Invalid client handle` or `Invalid host handle` only where the source does), a
failed `get_jni_env` returns it too, and otherwise the JNI function's result is converted to the C
return type.
-/

namespace ProjectNeon

open NeonClientJNI NeonHostJNI

variable (rt : Runtime) (t : Tid)

/-- The shape of the forwarding functions: reject `NULL` (recording `nullError` if the source does),
bind the thread, forward. -/
def forward {α : Type} (nullError : Option String) (failure : α) (ptr : Nat)
    (f : JNIEnv → Jni α) : Jni α :=
  if ptr = 0 then do
    if let some msg := nullError then setError t msg
    pure failure
  else do
    match ← getJniEnv rt t with
    | none => pure failure
    | some env => f env

/-- `neon_client_new(name)`. -/
def neonClientNew (name : CString) : Jni Nat := do
  match ← getJniEnv rt t with
  | none => pure 0
  | some env => do
    match ← newStringUTF rt env name with
    | none => do
      setError t "Failed to create name string"
      pure 0
    | some nameStr => do
      let ptr ← NeonClientJNI.neonClientNew rt env (some nameStr)
      deleteLocalRef env nameStr
      pure ptr

/-- `neon_client_connect(client, session_id, relay_addr)`. -/
def neonClientConnect (client : Nat) (sessionId : UInt32) (relayAddr : CString) : Jni Bool :=
  forward rt t (some "Invalid client handle") false client fun env => do
    match ← newStringUTF rt env relayAddr with
    | none => do
      setError t "Failed to create relay address string"
      pure false
    | some addrStr => do
      let result ← NeonClientJNI.neonClientConnect rt env client (JInt.ofInt sessionId.toNat) addrStr
      deleteLocalRef env addrStr
      pure result

/-- `neon_client_process_packets(client)`. -/
def neonClientProcessPackets (client : Nat) : Jni JInt :=
  forward rt t (some "Invalid client handle") (-1) client fun env =>
    NeonClientJNI.neonClientProcessPackets rt env client

/-- `neon_client_get_id(client)`: the `jint` cast to `uint8_t`. -/
def neonClientGetId (client : Nat) : Jni UInt8 :=
  forward rt t none 0 client fun env => do
    let r ← NeonClientJNI.neonClientGetId rt env client
    pure (toUInt8 r.toInt)

/-- `neon_client_get_session_id(client)`: the `jint` cast to `uint32_t`. -/
def neonClientGetSessionId (client : Nat) : Jni UInt32 :=
  forward rt t none 0 client fun env => do
    let r ← NeonClientJNI.neonClientGetSessionId rt env client
    pure (toUInt32 r.toInt)

/-- `neon_client_is_connected(client)`. -/
def neonClientIsConnected (client : Nat) : Jni Bool :=
  forward rt t none false client fun env => NeonClientJNI.neonClientIsConnected rt env client

/-- `neon_client_send_ping(client)`. -/
def neonClientSendPing (client : Nat) : Jni Bool :=
  forward rt t (some "Invalid client handle") false client fun env =>
    NeonClientJNI.neonClientSendPing rt env client

/-- `neon_client_set_auto_ping(client, enabled)`. -/
def neonClientSetAutoPing (client : Nat) (enabled : Bool) : Jni Unit :=
  forward rt t none () client fun env => NeonClientJNI.neonClientSetAutoPing rt env client enabled

/-- The five `neon_client_set_<e>_callback(client, callback)`. -/
def neonClientSetCallback (e : ClientEvent) (client callback : Nat) : Jni Unit :=
  forward rt t none () client fun env => NeonClientJNI.neonClientSetCallback env e client callback

/-- `neon_client_set_pong_callback`. -/
def neonClientSetPongCallback : Nat → Nat → Jni Unit := neonClientSetCallback rt t .pong
/-- `neon_client_set_session_config_callback`. -/
def neonClientSetSessionConfigCallback : Nat → Nat → Jni Unit :=
  neonClientSetCallback rt t .sessionConfig
/-- `neon_client_set_packet_type_registry_callback`. -/
def neonClientSetPacketTypeRegistryCallback : Nat → Nat → Jni Unit :=
  neonClientSetCallback rt t .packetTypeRegistry
/-- `neon_client_set_unhandled_packet_callback`. -/
def neonClientSetUnhandledPacketCallback : Nat → Nat → Jni Unit :=
  neonClientSetCallback rt t .unhandledPacket
/-- `neon_client_set_wrong_destination_callback`. -/
def neonClientSetWrongDestinationCallback : Nat → Nat → Jni Unit :=
  neonClientSetCallback rt t .wrongDestination

/-- `neon_client_free(client)`. -/
def neonClientFree (client : Nat) : Jni Unit :=
  forward rt t none () client fun env => NeonClientJNI.neonClientFree rt env client

/-- `neon_host_new(session_id, relay_addr)`. -/
def neonHostNew (sessionId : UInt32) (relayAddr : CString) : Jni Nat := do
  match ← getJniEnv rt t with
  | none => pure 0
  | some env => do
    match ← newStringUTF rt env relayAddr with
    | none => do
      setError t "Failed to create relay address string"
      pure 0
    | some addrStr => do
      let ptr ← NeonHostJNI.neonHostNew rt env (JInt.ofInt sessionId.toNat) (some addrStr)
      deleteLocalRef env addrStr
      pure ptr

/-- `neon_host_start(host)`. -/
def neonHostStart (host : Nat) : Jni Bool :=
  forward rt t (some "Invalid host handle") false host fun env =>
    NeonHostJNI.neonHostStart rt env host

/-- `neon_host_process_packets(host)`. -/
def neonHostProcessPackets (host : Nat) : Jni JInt :=
  forward rt t (some "Invalid host handle") (-1) host fun env =>
    NeonHostJNI.neonHostProcessPackets rt env host

/-- `neon_host_get_session_id(host)`: the `jint` cast to `uint32_t`. -/
def neonHostGetSessionId (host : Nat) : Jni UInt32 :=
  forward rt t none 0 host fun env => do
    let r ← NeonHostJNI.neonHostGetSessionId rt env host
    pure (toUInt32 r.toInt)

/-- `neon_host_get_client_count(host)`: the `jint` cast to `size_t`. -/
def neonHostGetClientCount (host : Nat) : Jni UInt64 :=
  forward rt t none 0 host fun env => do
    let r ← NeonHostJNI.neonHostGetClientCount rt env host
    pure (toSizeT r.toInt)

/-- The four `neon_host_set_<e>_callback(host, callback)`. -/
def neonHostSetCallback (e : HostEvent) (host callback : Nat) : Jni Unit :=
  forward rt t none () host fun env => NeonHostJNI.neonHostSetCallback env e host callback

/-- `neon_host_set_client_connect_callback`. -/
def neonHostSetClientConnectCallback : Nat → Nat → Jni Unit :=
  neonHostSetCallback rt t .clientConnect
/-- `neon_host_set_client_deny_callback`. -/
def neonHostSetClientDenyCallback : Nat → Nat → Jni Unit := neonHostSetCallback rt t .clientDeny
/-- `neon_host_set_ping_received_callback`. -/
def neonHostSetPingReceivedCallback : Nat → Nat → Jni Unit :=
  neonHostSetCallback rt t .pingReceived
/-- `neon_host_set_unhandled_packet_callback`. -/
def neonHostSetUnhandledPacketCallback : Nat → Nat → Jni Unit :=
  neonHostSetCallback rt t .unhandledPacket

/-- `neon_host_free(host)`. -/
def neonHostFree (host : Nat) : Jni Unit :=
  forward rt t none () host fun env => NeonHostJNI.neonHostFree rt env host

/-- The bytes of a buffer from index `i` up to the first `NUL`, reading at most `n` of them. -/
def cStringFrom (buf : Fin 512 → UInt8) (i : Nat) : Nat → List UInt8
  | 0 => []
  | n + 1 =>
    if h : i < 512 then
      if buf ⟨i, h⟩ = 0 then [] else buf ⟨i, h⟩ :: cStringFrom buf (i + 1) n
    else []

/-- The C string a buffer holds: its bytes up to the first `NUL`. -/
def cStringAt (buf : Fin 512 → UInt8) : List UInt8 := cStringFrom buf 0 512

/-- `neon_get_last_error()` on thread `t`: `NULL` when the buffer is empty, else its message. -/
def neonGetLastError : Jni (Option (List UInt8)) := do
  let buf ← readSt (·.errorBuffer t)
  if buf 0 = 0 then pure none else pure (some (cStringAt buf))

end ProjectNeon
