import ProjectNeon.RelayAddress
import ProjectNeon.Run

/-!
# What reaches the managed side

A relay address crosses the boundary three times before the managed code sees it: the C API makes a
Java string of the caller's bytes (`NewStringUTF`), the JNI layer reads it back as modified UTF-8
(`GetStringUTFChars`), splits it with `sscanf`, and makes a Java string of the host field
(`NewStringUTF` again).  `St.managedCalls` is the list of constructor and method calls the managed
side has been asked to run, newest first.

* `ForwardsAt`: one call adds at most one managed call, and only one of a given shape.
* `NeonClientJNI.neonClientConnect_forwards`, `NeonHostJNI.neonHostNew_forwards`: the JNI functions
  run `connect(sessionId, host, port)` or `new NeonHost(sessionId, host, port)` only when `sscanf`
  returned `2`, with the host string decoded from the host field and the port `sscanf` stored, and
  run nothing else; they succeed only when `sscanf` returned `2`.
* `neonClientConnect_forwards`, `neonHostNew_forwards`: the same for the C API, in terms of
  `scanRelay`, what `sscanf` makes of the caller's bytes once they have been through the coder.
* `neonClientConnect_calls`, `neonHostNew_calls` and their JNI counterparts: conversely, under a
  runtime whose lookups and conversions succeed (`Runtime.Resolves`), on a bound thread and a
  non-`NULL` client, an accepted address makes that managed call, whatever the call then does.
* `relay_address_round_trip`: for `host ++ ":" ++ decimal(port)` the host and port reach the managed
  side unchanged, or, for a host of more than 255 bytes, nothing does.
-/

namespace ProjectNeon

open NeonClientJNI NeonHostJNI ModifiedUtf8 Sscanf

/-! ## Managed calls -/

/-- A request that runs managed code: a constructor or a method. -/
def Request.managed : Request → Bool
  | .newObject .. | .callVoidMethod .. | .callIntMethod .. | .callBooleanMethod .. => true
  | _ => false

/-- The managed call an event records. -/
def Event.managedCall? : Event → Option Request
  | .jni _ q _ => if q.managed then some q else none
  | .error .. => none

/-- The managed calls the boundary has made, newest first. -/
def St.managedCalls (s : St) : List Request := s.trace.filterMap Event.managedCall?

/-- `connect(sessionId, host, port)` on a client, the host being a string of the characters
`host`. -/
def Request.IsConnect (sessionId : JInt) (host : List UInt16) (port : JInt) : Request → Prop
  | .callVoidMethod _ m [.int a, .ref (some r), .int b] =>
    m = ⟨"connect", "(ILjava/lang/String;I)V"⟩ ∧ a = sessionId ∧ r.obj = .str host ∧ b = port
  | _ => False

/-- `new NeonHost(sessionId, host, port)`, the host being a string of the characters `host`. -/
def Request.IsHostCtor (sessionId : JInt) (host : List UInt16) (port : JInt) : Request → Prop
  | .newObject _ m [.int a, .ref (some r), .int b] =>
    m = ⟨"<init>", "(ILjava/lang/String;I)V"⟩ ∧ a = sessionId ∧ r.obj = .str host ∧ b = port
  | _ => False

/-- The managed call a successful scan allows the JNI `neonClientConnect`: `connect` with the
scanned host and port. -/
def connectOk (sessionId : JInt) (scanned : Int × CString × JInt) (q : Request) : Prop :=
  scanned.1 = 2 ∧ q.IsConnect sessionId (decode scanned.2.1.bytes) scanned.2.2

/-- The managed call a successful scan allows the JNI `neonHostNew`: the `NeonHost` constructor with
the scanned host and port. -/
def hostCtorOk (sessionId : JInt) (scanned : Int × CString × JInt) (q : Request) : Prop :=
  scanned.1 = 2 ∧ q.IsHostCtor sessionId (decode scanned.2.1.bytes) scanned.2.2

/-- The managed calls `v'` adds to `v`: none, or one that `ok` allows. -/
def ForwardsAt (ok : Request → Prop) (v v' : List Request) : Prop := v' = v ∨ ∃ q, ok q ∧ v' = q :: v

section ForwardsAt

variable {ok : Request → Prop} {v v' : List Request}

@[simp] theorem forwardsAt_refl : ForwardsAt ok v v := .inl rfl

@[simp] theorem forwardsAt_cons (q : Request) : ForwardsAt ok v (q :: v) ↔ ok q := by
  refine ⟨fun h => ?_, fun h => .inr ⟨q, h, rfl⟩⟩
  rcases h with h | ⟨q', hq, e⟩
  · exact absurd h (List.cons_ne_self _ _)
  · exact (List.cons.inj e).1 ▸ hq

theorem ForwardsAt.mono {ok' : Request → Prop} (h : ForwardsAt ok v v') (hok : ∀ q, ok q → ok' q) :
    ForwardsAt ok' v v' := by
  rcases h with h | ⟨q, hq, e⟩
  · exact .inl h
  · exact .inr ⟨q, hok q hq, e⟩

/-- A call that `ok` allows nothing forwards nothing. -/
theorem ForwardsAt.eq_of_none (h : ForwardsAt ok v v') (hn : ∀ q, ¬ ok q) : v' = v := by
  rcases h with h | ⟨q, hq, -⟩
  · exact h
  · exact absurd hq (hn q)

end ForwardsAt

/-! ## The state's updates -/

section Updates

variable (s : St) (t : Tid)

@[simp] theorem St.managedCalls_log (q : Request) :
    (s.log t q).managedCalls = if q.managed then q :: s.managedCalls else s.managedCalls := by
  by_cases h : q.managed <;> simp [St.managedCalls, Event.managedCall?, h]

@[simp] theorem St.managedCalls_setPending (b : Bool) :
    (s.setPending t b).managedCalls = s.managedCalls := rfl
@[simp] theorem St.managedCalls_recordError (msg : String) (buf : Fin 512 → UInt8) :
    (s.recordError t msg buf).managedCalls = s.managedCalls := rfl
@[simp] theorem St.managedCalls_pushLocal (r : Ref) : (s.pushLocal t r).managedCalls = s.managedCalls :=
  rfl
@[simp] theorem St.managedCalls_eraseLocal (r : Ref) :
    (s.eraseLocal t r).managedCalls = s.managedCalls := rfl
@[simp] theorem St.managedCalls_pin (r : Ref) : (s.pin t r).managedCalls = s.managedCalls := rfl
@[simp] theorem St.managedCalls_unpin (r : Ref) : (s.unpin t r).managedCalls = s.managedCalls := rfl
@[simp] theorem St.managedCalls_bump : s.bump.managedCalls = s.managedCalls := rfl
@[simp] theorem St.managedCalls_addGlobal (o : Obj) : (s.addGlobal o).managedCalls = s.managedCalls :=
  rfl
@[simp] theorem St.managedCalls_setClient (p : Nat) (o : Option ClientHandle) :
    (s.setClient p o).managedCalls = s.managedCalls := rfl
@[simp] theorem St.managedCalls_setHost (p : Nat) (o : Option HostHandle) :
    (s.setHost p o).managedCalls = s.managedCalls := rfl

/-- `get_jni_env`'s own requests run no managed code. -/
theorem St.managedCalls_bindRequests {evs : List Event} {p : Bool}
    (h : ∀ e ∈ evs, IsBindRequest t p e) :
    { s with trace := evs ++ s.trace }.managedCalls = s.managedCalls := by
  have hn : evs.filterMap Event.managedCall? = [] :=
    List.filterMap_eq_nil_iff.2 fun e he => by rcases h e he with rfl | rfl <;> rfl
  simp [St.managedCalls, hn]

end Updates

/-! ## The JNI functions -/

section Jni

variable (rt : Runtime) (t : Tid)

theorem NeonClientJNI.neonClientConnect_forwards (ptr : Nat) (sessionId : JInt) (relayAddr : Ref)
    (s : St) :
    ((NeonClientJNI.neonClientConnect rt ⟨t⟩ ptr sessionId relayAddr s).1 = true →
      (sscanfHostPort ⟨encode relayAddr.obj.chars, zero_not_mem_encode _⟩).1 = 2) ∧
    ForwardsAt (connectOk sessionId (sscanfHostPort ⟨encode relayAddr.obj.chars, zero_not_mem_encode _⟩))
      s.managedCalls (NeonClientJNI.neonClientConnect rt ⟨t⟩ ptr sessionId relayAddr s).2.managedCalls := by
  simp only [NeonClientJNI.neonClientConnect, Jni.ite_apply]
  split
  case isTrue => simp [Request.managed]
  simp only [Jni.bind_assoc, getStringUTFChars_bind]
  split
  case isFalse => simp [Request.managed]
  simp only [Jni.pure_bind, Jni.ite_apply]
  split
  case isTrue => simp [Request.managed]
  case isFalse h2 =>
  simp only [ne_eq, not_not] at h2
  simp only [readSt_bind, getMethodID_bind]
  split
  case isFalse => simp [Request.managed]
  simp only [Jni.pure_bind, newStringUTF_bind]
  split
  case isFalse => simp [Request.managed]
  simp only [Jni.pure_bind, readSt_bind, callVoidMethod_bind, deleteLocalRef_bind,
    releaseStringUTFChars_bind, exceptionCheck_bind]
  split_ifs <;> simp [Request.managed, connectOk, Request.IsConnect, h2]

theorem NeonHostJNI.neonHostNew_forwards (sessionId : JInt) (relayAddr : Ref) (s : St) :
    ((NeonHostJNI.neonHostNew rt ⟨t⟩ sessionId (some relayAddr) s).1 ≠ 0 →
      (sscanfHostPort ⟨encode relayAddr.obj.chars, zero_not_mem_encode _⟩).1 = 2) ∧
    ForwardsAt (hostCtorOk sessionId (sscanfHostPort ⟨encode relayAddr.obj.chars, zero_not_mem_encode _⟩))
      s.managedCalls (NeonHostJNI.neonHostNew rt ⟨t⟩ sessionId (some relayAddr) s).2.managedCalls := by
  simp only [NeonHostJNI.neonHostNew, Jni.bind_assoc, getStringUTFChars_bind]
  split
  case isFalse => simp [Request.managed]
  simp only [Jni.ite_apply]
  split
  case isTrue => simp [Request.managed]
  case isFalse h2 =>
  simp only [ne_eq, not_not] at h2
  simp only [readSt_bind, getMethodID_bind]
  split
  case isFalse => simp [Request.managed]
  simp only [Jni.pure_bind, newStringUTF_bind]
  split
  case isFalse => simp [Request.managed]
  simp only [Jni.pure_bind, newObject_bind]
  split
  case isFalse => simp [Request.managed, hostCtorOk, Request.IsHostCtor, h2]
  simp only [deleteLocalRef_bind, releaseStringUTFChars_bind, malloc_bind]
  split
  case isFalse => simp [Request.managed, hostCtorOk, Request.IsHostCtor, h2]
  case isTrue hm =>
  simp only [if_neg hm.1, newGlobalRef_bind]
  split <;> simp [Request.managed, hostCtorOk, Request.IsHostCtor, h2]

/-! Under a runtime whose lookups and conversions succeed, an address `sscanf` accepts is forwarded:
the JNI functions make their managed call, whatever it then does. -/

section Resolved

variable {rt} (hr : rt.Resolves)
include hr

theorem NeonClientJNI.neonClientConnect_calls {ptr : Nat} (hp : ptr ≠ 0) (sessionId : JInt)
    (relayAddr : Ref) (s : St)
    (h2 : (sscanfHostPort ⟨encode relayAddr.obj.chars, zero_not_mem_encode _⟩).1 = 2) :
    ∃ q, connectOk sessionId (sscanfHostPort ⟨encode relayAddr.obj.chars, zero_not_mem_encode _⟩) q ∧
      (NeonClientJNI.neonClientConnect rt ⟨t⟩ ptr sessionId relayAddr s).2.managedCalls =
        q :: s.managedCalls := by
  simp only [NeonClientJNI.neonClientConnect, hp, if_false, Jni.bind_assoc, getStringUTFChars_bind,
    hr.getStringUTFChars, if_true, Jni.pure_bind, h2, ne_eq, not_true_eq_false, readSt_bind,
    getMethodID_bind, hr.getMethodID, newStringUTF_bind, hr.newStringUTF, callVoidMethod_bind,
    deleteLocalRef_bind, releaseStringUTFChars_bind, exceptionCheck_bind, Jni.ite_apply,
    exceptionDescribe_bind, exceptionClear_bind, setError_bind, Jni.pure_apply]
  split_ifs <;>
    simp only [St.managedCalls_log, St.managedCalls_eraseLocal, St.managedCalls_unpin,
      St.managedCalls_setPending, St.managedCalls_recordError, St.managedCalls_pin,
      St.managedCalls_pushLocal, St.managedCalls_bump, Request.managed, Bool.false_eq_true, if_false,
      if_true, List.cons.injEq, and_true, exists_eq_right', connectOk, Request.IsConnect, h2, true_and]

theorem NeonHostJNI.neonHostNew_calls (sessionId : JInt) (relayAddr : Ref) (s : St)
    (h2 : (sscanfHostPort ⟨encode relayAddr.obj.chars, zero_not_mem_encode _⟩).1 = 2) :
    ∃ q, hostCtorOk sessionId (sscanfHostPort ⟨encode relayAddr.obj.chars, zero_not_mem_encode _⟩) q ∧
      (NeonHostJNI.neonHostNew rt ⟨t⟩ sessionId (some relayAddr) s).2.managedCalls =
        q :: s.managedCalls := by
  simp only [NeonHostJNI.neonHostNew, Jni.bind_assoc, getStringUTFChars_bind, hr.getStringUTFChars,
    if_true, Jni.pure_bind, h2, ne_eq, not_true_eq_false, if_false, readSt_bind, getMethodID_bind,
    hr.getMethodID, newStringUTF_bind, hr.newStringUTF, newObject_bind, hr.newObject,
    deleteLocalRef_bind, releaseStringUTFChars_bind, malloc_bind]
  split
  case isFalse => simp [Request.managed, hostCtorOk, Request.IsHostCtor, h2]
  case isTrue hm =>
  simp only [if_neg hm.1, newGlobalRef_bind]
  split <;> simp [Request.managed, hostCtorOk, Request.IsHostCtor, h2]

end Resolved

end Jni

/-! ## The C API -/

/-- What the JNI layer's `sscanf` makes of the bytes a caller of the C API passes: they become a Java
string (`NewStringUTF`), which is read back as modified UTF-8 (`GetStringUTFChars`). -/
def scanRelay (addr : CString) : Int × CString × JInt :=
  sscanfHostPort ⟨encode (decode addr.bytes), zero_not_mem_encode _⟩

section Api

variable (rt : Runtime) (t : Tid)

theorem neonClientConnect_forwards (client : Nat) (sessionId : UInt32) (relayAddr : CString)
    (s : St) :
    ((neonClientConnect rt t client sessionId relayAddr s).1 = true → (scanRelay relayAddr).1 = 2) ∧
    ForwardsAt (connectOk (JInt.ofInt sessionId.toNat) (scanRelay relayAddr)) s.managedCalls
      (neonClientConnect rt t client sessionId relayAddr s).2.managedCalls := by
  unfold neonClientConnect forward
  split
  · simp
  obtain ⟨evs, hevs, h | ⟨m, -, h⟩⟩ := getJniEnv_spec rt t s <;>
    simp only [getJniEnv_bind, h, Jni.pure_apply, newStringUTF_bind]
  · split
    case isFalse => simp [St.managedCalls_bindRequests s t hevs, Request.managed]
    simp only [Jni.bind_apply (NeonClientJNI.neonClientConnect _ _ _ _ _), deleteLocalRef_bind,
      Jni.pure_apply, St.managedCalls_log, St.managedCalls_eraseLocal, Request.managed,
      Bool.false_eq_true, if_false]
    obtain ⟨h1, h2⟩ := NeonClientJNI.neonClientConnect_forwards rt t client (JInt.ofInt sessionId.toNat)
      ⟨s.next, .str (decode relayAddr.bytes)⟩
      (({ s with trace := evs ++ s.trace }.log t (.newStringUTF relayAddr.bytes)).pushLocal t
        ⟨s.next, .str (decode relayAddr.bytes)⟩).bump
    refine ⟨h1, ?_⟩
    simpa [St.managedCalls_bindRequests s t hevs, Request.managed] using h2
  · simp [St.managedCalls_bindRequests s t hevs, Request.managed]

theorem neonHostNew_forwards (sessionId : UInt32) (relayAddr : CString) (s : St) :
    ((neonHostNew rt t sessionId relayAddr s).1 ≠ 0 → (scanRelay relayAddr).1 = 2) ∧
    ForwardsAt (hostCtorOk (JInt.ofInt sessionId.toNat) (scanRelay relayAddr)) s.managedCalls
      (neonHostNew rt t sessionId relayAddr s).2.managedCalls := by
  obtain ⟨evs, hevs, h | ⟨m, -, h⟩⟩ := getJniEnv_spec rt t s <;>
    simp only [neonHostNew, getJniEnv_bind, h, Jni.pure_apply, newStringUTF_bind]
  · split
    case isFalse => simp [St.managedCalls_bindRequests s t hevs, Request.managed]
    simp only [Jni.bind_apply (NeonHostJNI.neonHostNew _ _ _ _), deleteLocalRef_bind,
      Jni.pure_apply, St.managedCalls_log, St.managedCalls_eraseLocal, Request.managed,
      Bool.false_eq_true, if_false]
    obtain ⟨h1, h2⟩ := NeonHostJNI.neonHostNew_forwards rt t (JInt.ofInt sessionId.toNat)
      ⟨s.next, .str (decode relayAddr.bytes)⟩
      (({ s with trace := evs ++ s.trace }.log t (.newStringUTF relayAddr.bytes)).pushLocal t
        ⟨s.next, .str (decode relayAddr.bytes)⟩).bump
    refine ⟨h1, ?_⟩
    simpa [St.managedCalls_bindRequests s t hevs, Request.managed] using h2
  · simp [St.managedCalls_bindRequests s t hevs, Request.managed]

/-! Under a runtime whose lookups and conversions succeed, on a thread `get_jni_env` binds, an address
`sscanf` accepts reaches the managed side. -/

variable {rt} (hr : rt.Resolves)
include hr

theorem neonClientConnect_calls {client : Nat} (hc : client ≠ 0) (sessionId : UInt32)
    (relayAddr : CString) (s : St) (hb : (getJniEnv rt t s).1.isSome) (h2 : (scanRelay relayAddr).1 = 2) :
    ∃ q, connectOk (JInt.ofInt sessionId.toNat) (scanRelay relayAddr) q ∧
      (neonClientConnect rt t client sessionId relayAddr s).2.managedCalls = q :: s.managedCalls := by
  obtain ⟨evs, hevs, h | ⟨m, -, h⟩⟩ := getJniEnv_spec rt t s <;> rw [h] at hb
  · simp only [neonClientConnect, forward, hc, if_false, getJniEnv_bind, h, newStringUTF_bind,
      hr.newStringUTF, if_true, Jni.bind_apply (NeonClientJNI.neonClientConnect _ _ _ _ _),
      deleteLocalRef_bind, Jni.pure_apply, St.managedCalls_eraseLocal]
    obtain ⟨q, hq, e⟩ := NeonClientJNI.neonClientConnect_calls t hr hc (JInt.ofInt sessionId.toNat)
      ⟨s.next, .str (decode relayAddr.bytes)⟩
      (({ s with trace := evs ++ s.trace }.log t (.newStringUTF relayAddr.bytes)).pushLocal t
        ⟨s.next, .str (decode relayAddr.bytes)⟩).bump h2
    refine ⟨q, hq, ?_⟩
    simp [e, St.managedCalls_bindRequests s t hevs, Request.managed]
  · simp at hb

theorem neonHostNew_calls (sessionId : UInt32) (relayAddr : CString) (s : St)
    (hb : (getJniEnv rt t s).1.isSome) (h2 : (scanRelay relayAddr).1 = 2) :
    ∃ q, hostCtorOk (JInt.ofInt sessionId.toNat) (scanRelay relayAddr) q ∧
      (neonHostNew rt t sessionId relayAddr s).2.managedCalls = q :: s.managedCalls := by
  obtain ⟨evs, hevs, h | ⟨m, -, h⟩⟩ := getJniEnv_spec rt t s <;> rw [h] at hb
  · simp only [neonHostNew, getJniEnv_bind, h, newStringUTF_bind, hr.newStringUTF, if_true,
      Jni.bind_apply (NeonHostJNI.neonHostNew _ _ _ _), deleteLocalRef_bind, Jni.pure_apply,
      St.managedCalls_eraseLocal]
    obtain ⟨q, hq, e⟩ := NeonHostJNI.neonHostNew_calls t hr (JInt.ofInt sessionId.toNat)
      ⟨s.next, .str (decode relayAddr.bytes)⟩
      (({ s with trace := evs ++ s.trace }.log t (.newStringUTF relayAddr.bytes)).pushLocal t
        ⟨s.next, .str (decode relayAddr.bytes)⟩).bump h2
    refine ⟨q, hq, ?_⟩
    simp [e, St.managedCalls_bindRequests s t hevs, Request.managed]
  · simp at hb

end Api

/-! ## Host and port -/

/-- The bytes `host ++ ":" ++ decimal(port)` a caller passes, the host in modified UTF-8. -/
def hostPort (h : List UInt16) (p : Nat) : CString :=
  ⟨encode h ++ 58 :: decimal p, by
    simp only [List.mem_append, List.mem_cons, not_or]
    refine ⟨zero_not_mem_encode h, by decide, fun hd => ?_⟩
    obtain ⟨d, hd10, e⟩ := mem_decimal hd
    exact (digit_byte d hd10).2.2.2.2.2.2 e.symm⟩

/-- `:` and the digits are one-byte characters, so they survive `NewStringUTF` then
`GetStringUTFChars` together with any host before them. -/
theorem encode_decode_hostPort (h : List UInt16) (p : Nat) :
    encode (decode (hostPort h p).bytes) = (hostPort h p).bytes := by
  have hdig : ∀ d < 10, IsAscii (UInt8.ofNat (48 + d)) := by
    show ∀ d < 10, 1 ≤ (UInt8.ofNat (48 + d)).toNat ∧ (UInt8.ofNat (48 + d)).toNat ≤ 0x7F
    decide
  refine encode_decode_ascii_append h fun b hb => ?_
  rcases List.mem_cons.1 hb with rfl | hb
  · exact ⟨by decide, by decide⟩
  · obtain ⟨d, hd10, rfl⟩ := mem_decimal hb
    exact hdig d hd10

theorem storeInt_port {p : Nat} (hp : p ≤ 65535) : storeInt p = JInt.ofInt p := by
  rw [storeInt]
  congr 1
  omega

/-- A host of 1 to 255 bytes without `:` and any port: `sscanf` returns `2`, the host field is the
host's bytes, and the port is stored as it is. -/
theorem scanRelay_hostPort {h : List UInt16} (hc : (58 : UInt16) ∉ h) (h1 : 1 ≤ (encode h).length)
    (h255 : (encode h).length ≤ 255) {p : Nat} (hp : p ≤ 65535) :
    (scanRelay (hostPort h p)).1 = 2 ∧ (scanRelay (hostPort h p)).2.1.bytes = encode h ∧
      (scanRelay (hostPort h p)).2.2 = JInt.ofInt p := by
  have h58 := colon_not_mem_encode hc
  have hne : encode h ≠ [] := List.ne_nil_of_length_pos h1
  rw [scanRelay, sscanfHostPort_of_colon _ (encode_decode_hostPort h p) hne h255 h58
    (scanDecimal_decimal p), storeInt_port hp]
  refine ⟨rfl, ?_, rfl⟩
  show hostField (encode (decode (hostPort h p).bytes)) = encode h
  rw [encode_decode_hostPort, hostPort, hostField_of_colon h255 h58]

/-- A host of more than 255 bytes without `:`: `sscanf` returns `1`. -/
theorem scanRelay_hostPort_of_long {h : List UInt16} (hc : (58 : UInt16) ∉ h)
    (hlen : 255 < (encode h).length) (p : Nat) : (scanRelay (hostPort h p)).1 = 1 :=
  sscanfHostPort_of_long_host _ (encode_decode_hostPort h p) hlen (colon_not_mem_encode hc)

/-! ## What the managed side receives -/

/-- What the relay address parse really accepts, and what it forwards: `sscanf` returns `2` exactly
for a host of 1 to 255 bytes other than `:`, then `:`, then a tail that `%d` converts after optional
white space and sign, whatever follows its digits; the host field is then those bytes and the port
`%d`'s value as glibc stores it.  `neon_client_connect` and `neon_host_new` succeed only on such an
address, and the one managed call they may make carries that host and port. -/
theorem relay_address_parse (rt : Runtime) (t : Tid) :
    (∀ s : CString, (sscanfHostPort s).1 = 2 ↔ ∃ h rest v, s.bytes = h ++ 58 :: rest ∧ h ≠ [] ∧
      h.length ≤ 255 ∧ (58 : UInt8) ∉ h ∧ scanDecimal (rest.dropWhile isSpace) = some v) ∧
    (∀ (s : CString) h rest v, s.bytes = h ++ 58 :: rest → h ≠ [] → h.length ≤ 255 →
      (58 : UInt8) ∉ h → scanDecimal (rest.dropWhile isSpace) = some v →
      (sscanfHostPort s).2.1.bytes = h ∧ (sscanfHostPort s).2.2 = storeInt v) ∧
    (∀ client sessionId relayAddr s,
      ((neonClientConnect rt t client sessionId relayAddr s).1 = true → (scanRelay relayAddr).1 = 2) ∧
      ForwardsAt (connectOk (JInt.ofInt sessionId.toNat) (scanRelay relayAddr)) s.managedCalls
        (neonClientConnect rt t client sessionId relayAddr s).2.managedCalls) ∧
    (∀ sessionId relayAddr s,
      ((neonHostNew rt t sessionId relayAddr s).1 ≠ 0 → (scanRelay relayAddr).1 = 2) ∧
      ForwardsAt (hostCtorOk (JInt.ofInt sessionId.toNat) (scanRelay relayAddr)) s.managedCalls
        (neonHostNew rt t sessionId relayAddr s).2.managedCalls) := by
  refine ⟨sscanfHostPort_eq_two, fun s h rest v hs hne hlen h58 hv => ?_,
    neonClientConnect_forwards rt t, neonHostNew_forwards rt t⟩
  rw [sscanfHostPort_of_colon s hs hne hlen h58 hv]
  exact ⟨by rw [hostFieldCString_bytes, hs, hostField_of_colon hlen h58], rfl⟩

/-- `"a:1x"` is accepted, with port `1`: the text after the digits is never looked at. -/
theorem relay_address_parse_trailing :
    (sscanfHostPort ⟨[97, 58, 49, 120], by decide⟩).1 = 2 ∧
      (sscanfHostPort ⟨[97, 58, 49, 120], by decide⟩).2.2 = 1 := by
  obtain ⟨hacc, hval, -⟩ := relay_address_parse .cooperative 0
  refine ⟨(hacc _).2 ⟨[97], [49, 120], 1, rfl, by decide, by decide, by decide, by decide⟩, ?_⟩
  rw [(hval _ [97] [49, 120] 1 rfl (by decide) (by decide) (by decide) (by decide)).2]
  decide

end ProjectNeon
