import ProjectNeon.Jni
import ProjectNeon.Sscanf

/-!
# `neon_jni.c`: the JNI layer

The native methods of `NeonClientJNI` and `NeonHostJNI`, with the helpers they share (`set_error`,
`get_jni_env`) and the library's load and unload hooks, translated statement by statement.  Each
`return` of the C source is the end of a branch here.

The exported functions come in families that differ only in the class, the method and the messages
they use; each family is one definition (`intQuery`, `checkedIntCall`, `checkedVoidCall`,
`setCallback`, `freeHandle`) and each exported function is that definition at its own values, under
its own name.  `neonClientIsConnected` (which records no error) and `neonClientSetAutoPing` (which
checks no exception) keep bodies of their own.
-/

namespace ProjectNeon

open Sscanf

/-- `strncpy(g_error_buffer, msg, 511); g_error_buffer[511] = '\0'`: the 511 first bytes of the
message, `NUL`-padded, then the terminator. -/
def errorBufferOf (msg : List UInt8) : Fin 512 → UInt8 :=
  fun i => if i.val < 511 then msg.getD i.val 0 else 0

/-- `set_error(msg)`, on the calling thread `t`. -/
def setError (t : Tid) (msg : String) : Jni Unit := fun s =>
  ((), s.recordError t msg (errorBufferOf (cBytes msg)))

@[simp] theorem setError_bind {β : Type} (t : Tid) (msg : String) (f : Unit → Jni β) (s : St) :
    (setError t msg >>= f) s = f () (s.recordError t msg (errorBufferOf (cBytes msg))) := rfl

@[simp] theorem setError_apply (t : Tid) (msg : String) (s : St) :
    setError t msg s = ((), s.recordError t msg (errorBufferOf (cBytes msg))) := rfl

/-- `get_jni_env()` on thread `t`: the thread's environment, attaching the thread if it is not. -/
def getJniEnv (rt : Runtime) (t : Tid) : Jni (Option JNIEnv) := do
  if (← readSt (·.jvm)) = none then do
    setError t "JVM not initialized"
    pure none
  else do
    let result ← getEnv rt t
    if result = JNI_EDETACHED then do
      let result ← attachCurrentThread rt t
      if result ≠ JNI_OK then do
        setError t "Failed to attach thread to JVM"
        pure none
      else pure (some ⟨t⟩)
    else if result ≠ JNI_OK then do
      setError t "Failed to get JNI environment"
      pure none
    else pure (some ⟨t⟩)

@[simp] theorem getJniEnv_bind {β : Type} (rt : Runtime) (t : Tid) (f : Option JNIEnv → Jni β)
    (s : St) : (getJniEnv rt t >>= f) s = f (getJniEnv rt t s).1 (getJniEnv rt t s).2 := rfl

/-- A request `get_jni_env` makes: `GetEnv`, then `AttachCurrentThread` for a detached thread. -/
def IsBindRequest (t : Tid) (p : Bool) (e : Event) : Prop :=
  e = .jni t .getEnv p ∨ e = .jni t .attachCurrentThread p

/-- The messages `get_jni_env` records. -/
def bindErrors : List String :=
  ["JVM not initialized", "Failed to attach thread to JVM", "Failed to get JNI environment"]

/-- What `get_jni_env` can do: bind the calling thread, or record one of its messages and fail;
either way it adds only its own requests to the trace and changes nothing else. -/
theorem getJniEnv_spec (rt : Runtime) (t : Tid) (s : St) :
    ∃ evs, (∀ e ∈ evs, IsBindRequest t (s.pending t) e) ∧
      (getJniEnv rt t s = (some ⟨t⟩, { s with trace := evs ++ s.trace }) ∨
       ∃ msg ∈ bindErrors, getJniEnv rt t s =
         (none, { s with trace := evs ++ s.trace }.recordError t msg (errorBufferOf (cBytes msg)))) := by
  simp only [getJniEnv, Jni.bind_assoc, readSt_bind, Jni.ite_apply, setError_bind, getEnv_bind,
    Jni.pure_apply, attachCurrentThread_bind]
  split_ifs
  · exact ⟨[], by simp, .inr ⟨_, by simp [bindErrors], rfl⟩⟩
  · exact ⟨[_, _], by simp [IsBindRequest], .inr ⟨_, by simp [bindErrors], rfl⟩⟩
  · exact ⟨[_, _], by simp [IsBindRequest], .inl rfl⟩
  · exact ⟨[_], by simp [IsBindRequest], .inr ⟨_, by simp [bindErrors], rfl⟩⟩
  · exact ⟨[_], by simp [IsBindRequest], .inl rfl⟩

/-- `JNI_OnLoad(vm, reserved)`, run by the virtual machine on thread `t`. -/
def jniOnLoad (rt : Runtime) (vm : Nat) (t : Tid) : Jni JInt := do
  modifySt (·.setJvm (some vm))
  let env : JNIEnv := ⟨t⟩
  if (← getEnv rt t) ≠ JNI_OK then pure JNI_ERR
  else
    match ← findClass rt env "com/quietterminal/projectneon/client/NeonClient" with
    | none => pure JNI_ERR
    | some localClientClass => do
      let g ← newGlobalRef rt env (some localClientClass)
      modifySt (·.setNeonClientClass g)
      deleteLocalRef env localClientClass
      match ← findClass rt env "com/quietterminal/projectneon/host/NeonHost" with
      | none => pure JNI_ERR
      | some localHostClass => do
        let g ← newGlobalRef rt env (some localHostClass)
        modifySt (·.setNeonHostClass g)
        deleteLocalRef env localHostClass
        pure JNI_VERSION_1_8

/-- `JNI_OnUnload(vm, reserved)`, run by the virtual machine on thread `t`. -/
def jniOnUnload (rt : Runtime) (t : Tid) : Jni Unit := do
  let env : JNIEnv := ⟨t⟩
  if (← getEnv rt t) = JNI_OK then do
    if let some c ← readSt (·.neonClientClass) then do
      deleteGlobalRef env (some c)
      modifySt (·.setNeonClientClass none)
    if let some h ← readSt (·.neonHostClass) then do
      deleteGlobalRef env (some h)
      modifySt (·.setNeonHostClass none)
  modifySt (·.setJvm none)

/-- The two kinds of handle. -/
inductive Kind where
  | client | host
deriving DecidableEq, Repr

/-- The cached class of a kind: `g_neonClientClass` or `g_neonHostClass`. -/
def Kind.cls : Kind → St → Option Ref
  | .client => St.neonClientClass
  | .host => St.neonHostClass

/-- `handle->javaObject` for the handle of kind `k` at address `p`. -/
def St.javaObject (s : St) : Kind → Nat → Option Ref
  | .client, p => (s.clients p).bind (·.javaObject)
  | .host, p => (s.hosts p).bind (·.javaObject)

/-! The class caches and the handles are untouched by the requests a call makes before it reads
them. -/

section Reads

variable (s : St) (k : Kind) (t : Tid)

@[simp] theorem Kind.cls_log (q : Request) : k.cls (s.log t q) = k.cls s := by cases k <;> rfl
@[simp] theorem Kind.cls_setPending (b : Bool) : k.cls (s.setPending t b) = k.cls s := by
  cases k <;> rfl
@[simp] theorem Kind.cls_recordError (msg : String) (buf : Fin 512 → UInt8) :
    k.cls (s.recordError t msg buf) = k.cls s := by cases k <;> rfl
@[simp] theorem St.javaObject_log (q : Request) (p : Nat) :
    (s.log t q).javaObject k p = s.javaObject k p := by cases k <;> rfl
@[simp] theorem St.javaObject_setPending (b : Bool) (p : Nat) :
    (s.setPending t b).javaObject k p = s.javaObject k p := by cases k <;> rfl
@[simp] theorem St.javaObject_recordError (msg : String) (buf : Fin 512 → UInt8) (p : Nat) :
    (s.recordError t msg buf).javaObject k p = s.javaObject k p := by cases k <;> rfl

end Reads

section Families

variable (rt : Runtime) (env : JNIEnv)

/-- The getters `neonClientGetId`, `neonClientGetSessionId`, `neonHostGetSessionId` and
`neonHostGetClientCount`: reject a null handle, look the method up, return what it returns.  Nothing
checks for an exception after the call. -/
def intQuery (k : Kind) (invalid name notFound : String) (failure : JInt) (ptr : Nat) : Jni JInt :=
  if ptr = 0 then do
    setError env.thread invalid
    pure failure
  else do
    match ← getMethodID rt env (← readSt k.cls) name "()I" with
    | none => do
      setError env.thread notFound
      pure failure
    | some m => callIntMethod rt env (← readSt (·.javaObject k ptr)) m

/-- `neonClientProcessPackets` and `neonHostProcessPackets`: an `int` call whose exception is
described, cleared and reported. -/
def checkedIntCall (k : Kind) (invalid name notFound exception : String) (ptr : Nat) : Jni JInt :=
  if ptr = 0 then do
    setError env.thread invalid
    pure (-1)
  else do
    match ← getMethodID rt env (← readSt k.cls) name "()I" with
    | none => do
      setError env.thread notFound
      pure (-1)
    | some m => do
      let result ← callIntMethod rt env (← readSt (·.javaObject k ptr)) m
      if ← exceptionCheck env then do
        exceptionDescribe env
        exceptionClear env
        setError env.thread exception
        pure (-1)
      else pure result

/-- `neonClientSendPing` and `neonHostStart`: a `void` call whose exception is described, cleared
and reported. -/
def checkedVoidCall (k : Kind) (invalid name notFound exception : String) (ptr : Nat) : Jni Bool :=
  if ptr = 0 then do
    setError env.thread invalid
    pure false
  else do
    match ← getMethodID rt env (← readSt k.cls) name "()V" with
    | none => do
      setError env.thread notFound
      pure false
    | some m => do
      callVoidMethod rt env (← readSt (·.javaObject k ptr)) m []
      if ← exceptionCheck env then do
        exceptionDescribe env
        exceptionClear env
        setError env.thread exception
        pure false
      else pure true

/-- The `neonClientFree` and `neonHostFree` shape: call `close()` if it resolves, clear what it
throws, then delete the global reference and free the block. -/
def freeHandle (k : Kind) (ptr : Nat) : Jni Unit :=
  if ptr = 0 then pure ()
  else do
    match ← getMethodID rt env (← readSt k.cls) "close" "()V" with
    | some closeMethod => do
      callVoidMethod rt env (← readSt (·.javaObject k ptr)) closeMethod []
      if ← exceptionCheck env then exceptionClear env
    | none => pure ()
    deleteGlobalRef env (← readSt (·.javaObject k ptr))
    free ptr

end Families

namespace NeonClientJNI

variable (rt : Runtime) (env : JNIEnv)

/-- `Java_..._NeonClientJNI_neonClientNew(env, cls, name)`. -/
def neonClientNew (name : Option Ref) : Jni Nat :=
  match name with
  | none => do
    setError env.thread "Client name cannot be null"
    pure 0
  | some name => do
    match ← getStringUTFChars rt env name with
    | none => do
      setError env.thread "Failed to get client name string"
      pure 0
    | some _nameStr => do
      let cls ← readSt (·.neonClientClass)
      match ← getMethodID rt env cls "<init>" "(Ljava/lang/String;)V" with
      | none => do
        releaseStringUTFChars env name
        setError env.thread "Failed to find NeonClient constructor"
        pure 0
      | some constructor => do
        match ← newObject rt env cls constructor [.ref (some name)] with
        | none => do
          releaseStringUTFChars env name
          setError env.thread "Failed to create NeonClient instance"
          pure 0
        | some clientObj => do
          let handle ← malloc rt
          if handle = 0 then do
            deleteLocalRef env clientObj
            releaseStringUTFChars env name
            setError env.thread "Failed to allocate client handle"
            pure 0
          else do
            let javaObject ← newGlobalRef rt env (some clientObj)
            storeClient handle ⟨javaObject, 0, 0, 0, 0, 0⟩
            deleteLocalRef env clientObj
            releaseStringUTFChars env name
            pure handle

/-- `Java_..._NeonClientJNI_neonClientConnect(env, cls, clientPtr, sessionId, relayAddr)`. -/
def neonClientConnect (clientPtr : Nat) (sessionId : JInt) (relayAddr : Ref) : Jni Bool :=
  if clientPtr = 0 then do
    setError env.thread "Invalid client handle"
    pure false
  else do
    match ← getStringUTFChars rt env relayAddr with
    | none => do
      setError env.thread "Failed to get relay address string"
      pure false
    | some addrStr => do
      let scanned := sscanfHostPort addrStr
      if scanned.1 ≠ 2 then do
        releaseStringUTFChars env relayAddr
        setError env.thread "Invalid relay address format (expected host:port)"
        pure false
      else do
        let cls ← readSt (·.neonClientClass)
        match ← getMethodID rt env cls "connect" "(ILjava/lang/String;I)V" with
        | none => do
          releaseStringUTFChars env relayAddr
          setError env.thread "Failed to find connect method"
          pure false
        | some connectMethod => do
          match ← newStringUTF rt env scanned.2.1 with
          | none => do
            releaseStringUTFChars env relayAddr
            setError env.thread "Failed to create host string"
            pure false
          | some hostStr => do
            callVoidMethod rt env (← readSt (·.javaObject .client clientPtr)) connectMethod
              [.int sessionId, .ref (some hostStr), .int scanned.2.2]
            deleteLocalRef env hostStr
            releaseStringUTFChars env relayAddr
            if ← exceptionCheck env then do
              exceptionDescribe env
              exceptionClear env
              setError env.thread "Exception during connect"
              pure false
            else pure true

/-- `neonClientProcessPackets`. -/
def neonClientProcessPackets : Nat → Jni JInt :=
  checkedIntCall rt env .client "Invalid client handle" "processPackets"
    "Failed to find processPackets method" "Exception during processPackets"

/-- `neonClientGetId`. -/
def neonClientGetId : Nat → Jni JInt :=
  intQuery rt env .client "Invalid client handle" "getClientId" "Failed to find getClientId method"
    (-1)

/-- `neonClientGetSessionId`. -/
def neonClientGetSessionId : Nat → Jni JInt :=
  intQuery rt env .client "Invalid client handle" "getSessionId"
    "Failed to find getSessionId method" (-1)

/-- `neonClientIsConnected`: fails silently to `JNI_FALSE`. -/
def neonClientIsConnected (clientPtr : Nat) : Jni Bool :=
  if clientPtr = 0 then pure false
  else do
    match ← getMethodID rt env (← readSt (·.neonClientClass)) "isConnected" "()Z" with
    | none => pure false
    | some m => callBooleanMethod rt env (← readSt (·.javaObject .client clientPtr)) m

/-- `neonClientSendPing`. -/
def neonClientSendPing : Nat → Jni Bool :=
  checkedVoidCall rt env .client "Invalid client handle" "sendPing" "Failed to find sendPing method"
    "Exception during sendPing"

/-- `neonClientSetAutoPing`: nothing checks the call for an exception. -/
def neonClientSetAutoPing (clientPtr : Nat) (enabled : Bool) : Jni Unit :=
  if clientPtr = 0 then setError env.thread "Invalid client handle"
  else do
    match ← getMethodID rt env (← readSt (·.neonClientClass)) "setAutoPing" "(Z)V" with
    | none => setError env.thread "Failed to find setAutoPing method"
    | some m => callVoidMethod rt env (← readSt (·.javaObject .client clientPtr)) m [.bool enabled]

/-- The five client callback setters: `handle-><e>Callback = callback`. -/
def neonClientSetCallback (e : ClientEvent) (clientPtr callback : Nat) : Jni Unit :=
  if clientPtr = 0 then setError env.thread "Invalid client handle"
  else modifyClient clientPtr (·.setCallback e callback)

/-- `neonClientSetPongCallback`. -/
def neonClientSetPongCallback : Nat → Nat → Jni Unit := neonClientSetCallback env .pong
/-- `neonClientSetSessionConfigCallback`. -/
def neonClientSetSessionConfigCallback : Nat → Nat → Jni Unit :=
  neonClientSetCallback env .sessionConfig
/-- `neonClientSetPacketTypeRegistryCallback`. -/
def neonClientSetPacketTypeRegistryCallback : Nat → Nat → Jni Unit :=
  neonClientSetCallback env .packetTypeRegistry
/-- `neonClientSetUnhandledPacketCallback`. -/
def neonClientSetUnhandledPacketCallback : Nat → Nat → Jni Unit :=
  neonClientSetCallback env .unhandledPacket
/-- `neonClientSetWrongDestinationCallback`. -/
def neonClientSetWrongDestinationCallback : Nat → Nat → Jni Unit :=
  neonClientSetCallback env .wrongDestination

/-- `neonClientFree`. -/
def neonClientFree : Nat → Jni Unit := freeHandle rt env .client

/-- `neonGetLastError`: the thread's message as a new string, or `NULL` when the buffer is empty. -/
def neonGetLastError : Jni (Option Ref) := do
  let buf ← readSt (·.errorBuffer env.thread)
  if buf 0 = 0 then pure none
  else
    newStringUTF rt env ⟨((List.finRange 512).map buf).takeWhile (· != 0), fun h => by
      simpa using List.mem_takeWhile_imp h⟩

end NeonClientJNI

namespace NeonHostJNI

variable (rt : Runtime) (env : JNIEnv)

/-- `Java_..._NeonHostJNI_neonHostNew(env, cls, sessionId, relayAddr)`. -/
def neonHostNew (sessionId : JInt) (relayAddr : Option Ref) : Jni Nat :=
  match relayAddr with
  | none => do
    setError env.thread "Relay address cannot be null"
    pure 0
  | some relayAddr => do
    match ← getStringUTFChars rt env relayAddr with
    | none => do
      setError env.thread "Failed to get relay address string"
      pure 0
    | some addrStr => do
      let scanned := sscanfHostPort addrStr
      if scanned.1 ≠ 2 then do
        releaseStringUTFChars env relayAddr
        setError env.thread "Invalid relay address format (expected host:port)"
        pure 0
      else do
        let cls ← readSt (·.neonHostClass)
        match ← getMethodID rt env cls "<init>" "(ILjava/lang/String;I)V" with
        | none => do
          releaseStringUTFChars env relayAddr
          setError env.thread "Failed to find NeonHost constructor"
          pure 0
        | some constructor => do
          match ← newStringUTF rt env scanned.2.1 with
          | none => do
            releaseStringUTFChars env relayAddr
            setError env.thread "Failed to create host string"
            pure 0
          | some hostStr => do
            let hostObj ← newObject rt env cls constructor
              [.int sessionId, .ref (some hostStr), .int scanned.2.2]
            deleteLocalRef env hostStr
            releaseStringUTFChars env relayAddr
            match hostObj with
            | none => do
              setError env.thread "Failed to create NeonHost instance"
              pure 0
            | some hostObj => do
              let handle ← malloc rt
              if handle = 0 then do
                deleteLocalRef env hostObj
                setError env.thread "Failed to allocate host handle"
                pure 0
              else do
                let javaObject ← newGlobalRef rt env (some hostObj)
                storeHost handle ⟨javaObject, 0, 0, 0, 0⟩
                deleteLocalRef env hostObj
                pure handle

/-- `neonHostStart`. -/
def neonHostStart : Nat → Jni Bool :=
  checkedVoidCall rt env .host "Invalid host handle" "start" "Failed to find start method"
    "Exception during start"

/-- `neonHostProcessPackets`. -/
def neonHostProcessPackets : Nat → Jni JInt :=
  checkedIntCall rt env .host "Invalid host handle" "processPackets"
    "Failed to find processPackets method" "Exception during processPackets"

/-- `neonHostGetSessionId`. -/
def neonHostGetSessionId : Nat → Jni JInt :=
  intQuery rt env .host "Invalid host handle" "getSessionId" "Failed to find getSessionId method"
    (-1)

/-- `neonHostGetClientCount`: unlike its siblings it fails to `0`. -/
def neonHostGetClientCount : Nat → Jni JInt :=
  intQuery rt env .host "Invalid host handle" "getClientCount"
    "Failed to find getClientCount method" 0

/-- The four host callback setters: `handle-><e>Callback = callback`. -/
def neonHostSetCallback (e : HostEvent) (hostPtr callback : Nat) : Jni Unit :=
  if hostPtr = 0 then setError env.thread "Invalid host handle"
  else modifyHost hostPtr (·.setCallback e callback)

/-- `neonHostSetClientConnectCallback`. -/
def neonHostSetClientConnectCallback : Nat → Nat → Jni Unit :=
  neonHostSetCallback env .clientConnect
/-- `neonHostSetClientDenyCallback`. -/
def neonHostSetClientDenyCallback : Nat → Nat → Jni Unit := neonHostSetCallback env .clientDeny
/-- `neonHostSetPingReceivedCallback`. -/
def neonHostSetPingReceivedCallback : Nat → Nat → Jni Unit :=
  neonHostSetCallback env .pingReceived
/-- `neonHostSetUnhandledPacketCallback`. -/
def neonHostSetUnhandledPacketCallback : Nat → Nat → Jni Unit :=
  neonHostSetCallback env .unhandledPacket

/-- `neonHostFree`. -/
def neonHostFree : Nat → Jni Unit := freeHandle rt env .host

end NeonHostJNI

end ProjectNeon
