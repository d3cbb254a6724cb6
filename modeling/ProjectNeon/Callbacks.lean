import ProjectNeon.Handles
import ProjectNeon.Queries

/-!
# The callback tables

Each `NeonClientHandle` and `NeonHostHandle` keeps one function pointer per event.  The setters
store into one field of one block, through `forward`, so only once `get_jni_env` has bound the
calling thread; no other call writes a callback field.

* `lastClientCallback`, `lastHostCallback`: the reading of the table as "the last setter wins".
* `Call.exec_clientCallback`, `Call.exec_hostCallback`: one call moves a live block's fields as that
  reading says, on a thread that binds, unless it frees the block.
* `runCalls_clientCallback`, `runCalls_hostCallback`: so does every run, on a process whose virtual
  machine is loaded and whose threads `get_jni_env` binds (`Runtime.BindsThreads`).
-/

namespace ProjectNeon

open NeonClientJNI NeonHostJNI

/-! ## The last setter wins -/

/-- The pointer a call leaves in field `e` of client `p`: `f` for `set_<e>_callback(p, f)`, and the
field's value `v` for every other call. -/
def Call.clientCallbackSet (e : ClientEvent) (p v : Nat) : Call → Nat
  | .clientSetCallback e' q f => if e' = e ∧ q = p then f else v
  | _ => v

/-- The pointer a call leaves in field `e` of host `p`. -/
def Call.hostCallbackSet (e : HostEvent) (p v : Nat) : Call → Nat
  | .hostSetCallback e' q f => if e' = e ∧ q = p then f else v
  | _ => v

/-- The pointer of the last `set_<e>_callback(p, f)` of a run, or `v` if the run has none. -/
def lastClientCallback (e : ClientEvent) (p : Nat) : Nat → List (Tid × Call) → Nat
  | v, [] => v
  | v, (_, c) :: cs => lastClientCallback e p (c.clientCallbackSet e p v) cs

/-- The pointer of the last `set_<e>_callback(p, f)` of a run on a host, or `v`. -/
def lastHostCallback (e : HostEvent) (p : Nat) : Nat → List (Tid × Call) → Nat
  | v, [] => v
  | v, (_, c) :: cs => lastHostCallback e p (c.hostCallbackSet e p v) cs

/-- The call frees the block at `p`, as a client or as a host. -/
def Call.frees (p : Nat) : Call → Bool
  | .clientFree q | .hostFree q => q == p
  | _ => false

/-! ## One call -/

section Step

variable (rt : Runtime) (t : Tid)

theorem NewOutcome.jvm {create : Heap → Nat → Option Ref → Heap} {s : St} {r : Nat × St}
    (hc : ∀ h q g, (create h q g).jvm = h.jvm) (h : NewOutcome rt create s r) : r.2.jvm = s.jvm := by
  rcases h with ⟨-, he⟩ | ⟨g, -, -, he⟩
  · simpa using congrArg Heap.jvm he
  · simpa [hc] using congrArg Heap.jvm he

/-- No call of the C API changes `g_jvm`. -/
theorem Call.exec_jvm (c : Call) (s : St) : (c.exec rt t s).2.jvm = s.jvm := by
  by_cases hrd : c.readsHeap
  · simpa using congrArg Heap.jvm (Call.exec_heap rt t c hrd s)
  cases c with
  | clientNew name =>
    exact NewOutcome.jvm rt (Heap.create_jvm · .client) (neonClientNew_outcome rt t name s)
  | hostNew sid addr =>
    exact NewOutcome.jvm rt (Heap.create_jvm · .host) (neonHostNew_outcome rt t sid addr s)
  | clientFree p =>
    simpa [apply_ite Heap.jvm] using congrArg Heap.jvm (neonClientFree_heap rt t p s)
  | hostFree p =>
    simpa [apply_ite Heap.jvm] using congrArg Heap.jvm (neonHostFree_heap rt t p s)
  | clientSetCallback e p f =>
    simpa [apply_ite Heap.jvm] using congrArg Heap.jvm (neonClientSetCallback_heap rt t e p f s)
  | hostSetCallback e p f =>
    simpa [apply_ite Heap.jvm] using congrArg Heap.jvm (neonHostSetCallback_heap rt t e p f s)
  | _ => simp [Call.readsHeap] at hrd

variable {rt t} in
theorem St.clients_of_heap {s : St} {h : Heap} (he : s.heap = h) (p : Nat) :
    s.clients p = h.clients p :=
  congrArg (·.clients p) he

variable {rt t} in
theorem St.hosts_of_heap {s : St} {h : Heap} (he : s.heap = h) (p : Nat) : s.hosts p = h.hosts p :=
  congrArg (·.hosts p) he

/-- The callback setters. -/
def Call.isSetter : Call → Bool
  | .clientSetCallback .. | .hostSetCallback .. => true
  | _ => false

/-- A call that is not a setter and does not free `p` leaves the blocks at an address in use
alone: a constructor only takes vacant addresses, a `free` only releases its own. -/
theorem Call.exec_blocks (c : Call) (s : St) {p : Nat} (hl : ¬s.heap.Vacant p)
    (hf : c.frees p = false) (hs : c.isSetter = false) :
    (c.exec rt t s).2.clients p = s.clients p ∧ (c.exec rt t s).2.hosts p = s.hosts p := by
  by_cases hrd : c.readsHeap
  · exact ⟨St.clients_of_heap (Call.exec_heap rt t c hrd s) p,
      St.hosts_of_heap (Call.exec_heap rt t c hrd s) p⟩
  have hnew (k : Kind) {r : Nat × St} (h : NewOutcome rt (Heap.create k) s r) :
      r.2.clients p = s.clients p ∧ r.2.hosts p = s.hosts p := by
    rcases h with ⟨-, hh⟩ | ⟨g, hv, -, hh⟩
    · exact ⟨St.clients_of_heap hh p, St.hosts_of_heap hh p⟩
    · have hq : p ≠ r.1 := fun hq => hl (hq ▸ hv)
      simp [St.clients_of_heap hh, St.hosts_of_heap hh, Heap.create_clients, Heap.create_hosts,
        hq]
  cases c with
  | clientNew name => exact hnew .client (neonClientNew_outcome rt t name s)
  | hostNew sid addr => exact hnew .host (neonHostNew_outcome rt t sid addr s)
  | clientFree q =>
    have hq : p ≠ q := fun h => by simp [Call.frees, h] at hf
    show (neonClientFree rt t q s).2.clients p = _ ∧ (neonClientFree rt t q s).2.hosts p = _
    rw [St.clients_of_heap (neonClientFree_heap rt t q s),
      St.hosts_of_heap (neonClientFree_heap rt t q s)]
    split_ifs <;> simp [hq]
  | hostFree q =>
    have hq : p ≠ q := fun h => by simp [Call.frees, h] at hf
    show (neonHostFree rt t q s).2.clients p = _ ∧ (neonHostFree rt t q s).2.hosts p = _
    rw [St.clients_of_heap (neonHostFree_heap rt t q s),
      St.hosts_of_heap (neonHostFree_heap rt t q s)]
    split_ifs <;> simp [hq]
  | _ => simp [Call.readsHeap, Call.isSetter] at hrd hs

/-- One call moves the callbacks of a live client block as the last-setter reading says, on a
thread that `get_jni_env` binds, unless it frees the block. -/
theorem Call.exec_clientCallback (hbt : rt.BindsThreads) (c : Call) (s : St)
    (hj : s.jvm ≠ none) {p : Nat} (hp : p ≠ 0) (hl : s.clients p ≠ none) (hf : c.frees p = false)
    (e : ClientEvent) :
    ((c.exec rt t s).2.clients p).map (·.callback e) =
      (s.clients p).map fun h => c.clientCallbackSet e p (h.callback e) := by
  have hb := hbt t s hj
  cases c with
  | clientSetCallback e' q f =>
    show ((neonClientSetCallback rt t e' q f s).2.clients p).map _ = _
    simp only [St.clients_of_heap (neonClientSetCallback_heap rt t e' q f s), hb, and_true]
    by_cases hq : p = q
    · subst hq
      obtain ⟨h, hc⟩ := Option.ne_none_iff_exists'.mp hl
      by_cases he' : e' = e
      · simp [hp, hc, he', Call.clientCallbackSet]
      · simp [hp, hc, he', Ne.symm he', Call.clientCallbackSet]
    · split_ifs <;> simp [hq, Call.clientCallbackSet, Ne.symm hq]
  | hostSetCallback e' q f =>
    show ((neonHostSetCallback rt t e' q f s).2.clients p).map _ = _
    rw [St.clients_of_heap (neonHostSetCallback_heap rt t e' q f s)]
    split_ifs <;> simp [Call.clientCallbackSet]
  | _ =>
    rw [(Call.exec_blocks rt t _ s (fun hv => hl hv.2.1) hf rfl).1]
    rfl

/-- One call moves the callbacks of a live host block as the last-setter reading says, on a
thread that `get_jni_env` binds, unless it frees the block. -/
theorem Call.exec_hostCallback (hbt : rt.BindsThreads) (c : Call) (s : St)
    (hj : s.jvm ≠ none) {p : Nat} (hp : p ≠ 0) (hl : s.hosts p ≠ none) (hf : c.frees p = false)
    (e : HostEvent) :
    ((c.exec rt t s).2.hosts p).map (·.callback e) =
      (s.hosts p).map fun h => c.hostCallbackSet e p (h.callback e) := by
  have hb := hbt t s hj
  cases c with
  | hostSetCallback e' q f =>
    show ((neonHostSetCallback rt t e' q f s).2.hosts p).map _ = _
    simp only [St.hosts_of_heap (neonHostSetCallback_heap rt t e' q f s), hb, and_true]
    by_cases hq : p = q
    · subst hq
      obtain ⟨h, hc⟩ := Option.ne_none_iff_exists'.mp hl
      by_cases he' : e' = e
      · simp [hp, hc, he', Call.hostCallbackSet]
      · simp [hp, hc, he', Ne.symm he', Call.hostCallbackSet]
    · split_ifs <;> simp [hq, Call.hostCallbackSet, Ne.symm hq]
  | clientSetCallback e' q f =>
    show ((neonClientSetCallback rt t e' q f s).2.hosts p).map _ = _
    rw [St.hosts_of_heap (neonClientSetCallback_heap rt t e' q f s)]
    split_ifs <;> simp [Call.hostCallbackSet]
  | _ =>
    rw [(Call.exec_blocks rt t _ s (fun hv => hl hv.2.2) hf rfl).2]
    rfl

end Step

/-! ## Whole runs -/

section Run

variable {rt : Runtime} (he : rt.BindsThreads)

include he

/-- Over a run that does not free it, a live client block's field `e` holds what the last setter
for `e` on it stored, or what it held before. -/
theorem runCalls_clientCallback (run : List (Tid × Call)) (s : St) (hj : s.jvm ≠ none) {p : Nat}
    (hp : p ≠ 0) (hl : s.clients p ≠ none) (hf : ∀ x ∈ run, x.2.frees p = false) (e : ClientEvent) :
    ((runCalls rt run s).clients p).map (·.callback e) =
      ((s.clients p).map (·.callback e)).map (lastClientCallback e p · run) := by
  induction run generalizing s with
  | nil => simp [runCalls, lastClientCallback, Function.comp_def]
  | cons tc run ih =>
    obtain ⟨t, c⟩ := tc
    have hstep := Call.exec_clientCallback rt t he c s hj hp hl (hf _ (List.mem_cons_self _ _)) e
    have hl' : (c.exec rt t s).2.clients p ≠ none := fun h0 => hl (by simpa [h0] using hstep.symm)
    rw [runCalls, ih _ (by rwa [Call.exec_jvm]) hl' fun x hx => hf x (List.mem_cons_of_mem _ hx),
      hstep]
    simp [lastClientCallback, Function.comp_def]

/-- Over a run that does not free it, a live host block's field `e` holds what the last setter for
`e` on it stored, or what it held before. -/
theorem runCalls_hostCallback (run : List (Tid × Call)) (s : St) (hj : s.jvm ≠ none) {p : Nat}
    (hp : p ≠ 0) (hl : s.hosts p ≠ none) (hf : ∀ x ∈ run, x.2.frees p = false) (e : HostEvent) :
    ((runCalls rt run s).hosts p).map (·.callback e) =
      ((s.hosts p).map (·.callback e)).map (lastHostCallback e p · run) := by
  induction run generalizing s with
  | nil => simp [runCalls, lastHostCallback, Function.comp_def]
  | cons tc run ih =>
    obtain ⟨t, c⟩ := tc
    have hstep := Call.exec_hostCallback rt t he c s hj hp hl (hf _ (List.mem_cons_self _ _)) e
    have hl' : (c.exec rt t s).2.hosts p ≠ none := fun h0 => hl (by simpa [h0] using hstep.symm)
    rw [runCalls, ih _ (by rwa [Call.exec_jvm]) hl' fun x hx => hf x (List.mem_cons_of_mem _ hx),
      hstep]
    simp [lastHostCallback, Function.comp_def]

end Run

section Constructors

variable (rt : Runtime) (t : Tid)

theorem neonClientNew_callbacks (name : CString) (s : St) (h : (neonClientNew rt t name s).1 ≠ 0)
    (e : ClientEvent) :
    ((neonClientNew rt t name s).2.clients (neonClientNew rt t name s).1).map (·.callback e) =
      some 0 := by
  rcases neonClientNew_outcome rt t name s with ⟨h0, -⟩ | ⟨g, -, -, hh⟩
  · exact absurd h0 h
  · rw [St.clients_of_heap hh]
    cases e <;> simp [Heap.createClient, Heap.setClient, ClientHandle.callback]

theorem neonHostNew_callbacks (sessionId : UInt32) (relayAddr : CString) (s : St)
    (h : (neonHostNew rt t sessionId relayAddr s).1 ≠ 0) (e : HostEvent) :
    ((neonHostNew rt t sessionId relayAddr s).2.hosts
      (neonHostNew rt t sessionId relayAddr s).1).map (·.callback e) = some 0 := by
  rcases neonHostNew_outcome rt t sessionId relayAddr s with ⟨h0, -⟩ | ⟨g, -, -, hh⟩
  · exact absurd h0 h
  · rw [St.hosts_of_heap hh]
    cases e <;> simp [Heap.createHost, Heap.setHost, HostHandle.callback]

end Constructors

/-- The callback tables, on a process whose virtual machine is loaded and whose threads
`get_jni_env` binds (found attached, or attached on demand): a new handle starts with every callback
`NULL`, and over any run that does not free it a live handle's field for `e` holds the pointer of the
last `set_<e>_callback` on it, or what it held before the run. -/
theorem callbacks_last_setter (rt : Runtime) (he : rt.BindsThreads) :
    (∀ t name s e, (neonClientNew rt t name s).1 ≠ 0 →
      ((neonClientNew rt t name s).2.clients (neonClientNew rt t name s).1).map (·.callback e) =
        some 0) ∧
    (∀ t sessionId relayAddr s e, (neonHostNew rt t sessionId relayAddr s).1 ≠ 0 →
      ((neonHostNew rt t sessionId relayAddr s).2.hosts
        (neonHostNew rt t sessionId relayAddr s).1).map (·.callback e) = some 0) ∧
    (∀ run s p, s.jvm ≠ none → p ≠ 0 → s.clients p ≠ none → (∀ x ∈ run, x.2.frees p = false) →
      ∀ e, ((runCalls rt run s).clients p).map (·.callback e) =
        ((s.clients p).map (·.callback e)).map (lastClientCallback e p · run)) ∧
    ∀ run s p, s.jvm ≠ none → p ≠ 0 → s.hosts p ≠ none → (∀ x ∈ run, x.2.frees p = false) →
      ∀ e, ((runCalls rt run s).hosts p).map (·.callback e) =
        ((s.hosts p).map (·.callback e)).map (lastHostCallback e p · run) :=
  ⟨fun t name s e h => neonClientNew_callbacks rt t name s h e,
    fun t sid addr s e h => neonHostNew_callbacks rt t sid addr s h e,
    fun run s _ hj hp hl hf e => runCalls_clientCallback he run s hj hp hl hf e,
    fun run s _ hj hp hl hf e => runCalls_hostCallback he run s hj hp hl hf e⟩

/-- A client at address `1`, with every callback `NULL`, in a process whose virtual machine is
loaded. -/
def St.loadedClient : St :=
  { jvm := some 1
    clients := fun p => if p = 1 then some ⟨none, 0, 0, 0, 0, 0⟩ else none }

/-- Two threads that the virtual machine attaches on their first call: the pong callback thread `0`
sets survives thread `1`'s ping. -/
theorem callbacks_last_setter_attach_on_demand :
    Runtime.attachOnDemand.BindsThreads ∧
      ((runCalls .attachOnDemand [(0, .clientSetCallback .pong 1 7), (1, .clientSendPing 1)]
        .loadedClient).clients 1).map (·.callback .pong) = some 7 :=
  ⟨Runtime.attachOnDemand_bindsThreads, by
    rw [(callbacks_last_setter .attachOnDemand Runtime.attachOnDemand_bindsThreads).2.2.1 _ _ 1
      (by decide) (by decide) (by decide) (by decide)]
    decide⟩

/-- With no virtual machine loaded, `neon_client_set_pong_callback` on a live client stores
nothing. -/
theorem callbacks_counterexample :
    ((neonClientSetCallback .cooperative 0 .pong 1 7 .unloadedClient).2.clients 1).map
      (·.callback .pong) = some 0 := by
  decide

end ProjectNeon
