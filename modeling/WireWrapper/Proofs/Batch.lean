import WireWrapper.Generator
import WireWrapper.Proofs.Registrations

/-!
# Batches

A batch takes the messages of a registry and puts the result of each one under its key.  It may take
them in any order, for no two of them write to one place and none looks at what another has written:
the results are the registry itself, with a result in the place of each message.  The log is that of
the calling thread, and closes with the two numbers wherever the messages were worked on.

* `foldl_addResult`        messages in any order give the registry with results in it;
* `getElem?_generateAll`   the result of one message;
* `generateAll_exact`      which results there are, what they depend on, and the two numbers in the
                           log.
-/

namespace WireWrapper
namespace Generator
variable (g : Generator) (methods : KeyMap MethodBody) (documented : DocumentedFields)

/-! ## results -/

/-- what messages of the registry leave in a map of results: each its own -/
theorem getElem?_foldl_addResult (ms : List MessageType) (hms : ∀ m ∈ ms, m ∈ g.registry.messages)
    (results : BatchResults) (key : MessageKey) :
    (ms.foldl (g.addResult methods documented) results)[key]?
      = if key ∈ ms.map MessageType.key then
          (g.registry.resolve? key).map fun m => (g.resultFor methods documented m).value
        else results[key]? := by
  induction ms generalizing results with
  | nil => rfl
  | cons m ms ih =>
    rw [List.foldl_cons, ih fun m' hm' => hms m' (List.mem_cons_of_mem m hm'), List.map_cons]
    by_cases hlater : key ∈ ms.map MessageType.key
    · rw [if_pos hlater, if_pos (List.mem_cons_of_mem _ hlater)]
    · rw [if_neg hlater, addResult, KeyMap.getElem?_insert]
      by_cases hkey : m.key = key
      · have hm := Registry.mem_messages.mp (hms m List.mem_cons_self)
        rw [if_pos hkey, if_pos (List.mem_cons.mpr (.inl hkey.symm)), ← hkey, hm]
        rfl
      · have hother : key ∉ m.key :: ms.map MessageType.key :=
          List.not_mem_cons_of_ne_of_not_mem (Ne.symm hkey) hlater
        rw [if_neg hkey, if_neg hother]

/-- **Messages in any order leave the registry with results in it.** -/
theorem foldl_addResult {order : List MessageType} (horder : order.Perm g.registry.messages) :
    order.foldl (g.addResult methods documented) ∅
      = g.registry.byKey.map fun _ m => (g.resultFor methods documented m).value := by
  refine Std.ExtTreeMap.ext_getElem? fun key => ?_
  rw [g.getElem?_foldl_addResult methods documented order fun m hm => horder.mem_iff.mp hm,
    Std.ExtTreeMap.getElem?_map, Std.ExtTreeMap.getElem?_empty]
  split
  · rfl
  · next hkey =>
    -- a key that no message of the batch has is not registered
    have hfree : g.registry.byKey[key]? = none := by
      rw [Option.eq_none_iff_forall_ne_some]
      intro m hm
      have hown : m.key = key := g.registry.keyed key m hm
      have hmem : m ∈ g.registry.messages := Registry.mem_messages.mpr (hown.symm ▸ hm)
      exact hkey (List.mem_map.mpr ⟨m, horder.mem_iff.mpr hmem, hown⟩)
    rw [hfree, Option.map_none]

theorem generateAll_value :
    (g.generateAll methods documented).value
      = g.registry.byKey.map fun _ m => (g.resultFor methods documented m).value :=
  g.foldl_addResult methods documented (List.Perm.refl _)

theorem getElem?_generateAll (key : MessageKey) :
    (g.generateAll methods documented).value[key]?
      = (g.registry.resolve? key).map fun m =>
          (g.generateFrom m methods[key]? documented[key]?).value := by
  rw [generateAll_value, Std.ExtTreeMap.getElem?_map]
  show (g.registry.resolve? key).map _ = _
  cases hm : g.registry.resolve? key with
  | none => rfl
  | some m =>
    have hkey := Registry.resolve?_key hm
    rw [Option.map_some, Option.map_some, resultFor, hkey]

theorem generate_eq_ok {m : MessageType} {method : MethodBody} {docs : List DocField} {w : Wrapper}
    (h : (g.generate m method docs).value = .ok w) :
    ∃ result, (g.scan method).value = .ok result ∧
      w = ⟨m, g.classWriter.className m, (g.classWriter.write m result docs).value⟩ := by
  rw [generate, Logged.value_bind] at h
  cases hscan : (g.scan method).value with
  | error failure => rw [hscan] at h; cases h
  | ok result =>
    rw [hscan] at h
    exact ⟨result, rfl, (Except.ok.inj h).symm⟩

theorem generate_ok {m : MessageType} {method : MethodBody} {docs : List DocField} {w : Wrapper}
    (h : (g.generate m method docs).value = .ok w) :
    w.messageType = m ∧ w.className = g.classWriter.className m := by
  obtain ⟨result, -, rfl⟩ := g.generate_eq_ok h
  exact ⟨rfl, rfl⟩

/-- a wrapper of a batch is that of the message registered under its key -/
theorem generateAll_ok {key : MessageKey} {w : Wrapper}
    (h : (g.generateAll methods documented).value[key]? = some (.ok w)) :
    g.registry.resolve? key = some w.messageType ∧
      w.className = g.classWriter.className w.messageType := by
  rw [getElem?_generateAll] at h
  obtain ⟨m, hm, hw⟩ := Option.map_eq_some_iff.mp h
  cases hmethod : methods[key]? with
  | none => rw [hmethod] at hw; cases hw
  | some method =>
    cases hdocs : documented[key]? with
    | none => rw [hmethod, hdocs] at hw; cases hw
    | some docs =>
      rw [hmethod, hdocs] at hw
      obtain ⟨htype, hname⟩ := g.generate_ok hw
      rw [htype]
      exact ⟨hm, hname⟩

/-! ## the log -/

def finishedEvent (generated failed : Nat) : Event :=
  .ofMessage .info target "generation finished"
    [("generated", .integer generated), ("failed", .integer failed)]

def wrapperCount (results : BatchResults) : Nat :=
  results.toList.countP fun (_, result) => !isFailed result

def failureCount (results : BatchResults) : Nat :=
  results.toList.countP fun (_, result) => isFailed result

theorem wrapperCount_add_failureCount (results : BatchResults) :
    wrapperCount results + failureCount results = results.size := by
  have hsplit := List.length_eq_countP_add_countP
    (fun entry : MessageKey × Except Failure Wrapper => isFailed entry.2) (l := results.toList)
  rw [Std.ExtTreeMap.length_toList] at hsplit
  have hnot : wrapperCount results
      = results.toList.countP fun entry => decide ¬ isFailed entry.2 = true := by
    refine List.countP_congr fun entry _ => ?_
    simp
  rw [hnot, Nat.add_comm]
  exact hsplit.symm

theorem generateAll_events :
    (g.generateAll methods documented).events
      = g.batchEvents methods documented
        ++ [finishedEvent (wrapperCount (g.generateAll methods documented).value)
            (failureCount (g.generateAll methods documented).value)] := by
  have hsum := wrapperCount_add_failureCount (g.generateAll methods documented).value
  have hfailed : failureCount (g.generateAll methods documented).value
      = ((g.generateAll methods documented).value.toList.filter
          fun (_, result) => isFailed result).length := List.countP_eq_length_filter
  have hgenerated : wrapperCount (g.generateAll methods documented).value
      = (g.generateAll methods documented).value.size
        - failureCount (g.generateAll methods documented).value := by omega
  rw [hgenerated, hfailed]
  rfl

/-- **A batch has one result for each registered key**: the wrapper of the first message that was
registered under it, or what is missing, and nothing for any other key.  A result depends on the
inputs of its own message only, and on no order of the messages.  The log of the calling thread counts
every registered message once. -/
theorem generateAll_exact (calls : List MessageType) (hcalls : g.registry = Registry.ofCalls calls) :
    (∀ key, (g.generateAll methods documented).value[key]?
      = (calls.find? (·.key == key)).map fun m =>
          match methods[key]?, documented[key]? with
          | some method, some docs => (g.generate m method docs).value
          | none, _ => .error (.missingInput .serializationMethod m.reference)
          | some _, none => .error (.missingInput .documentation m.reference)) ∧
    (∀ (methods' : KeyMap MethodBody) (documented' : DocumentedFields) (key : MessageKey),
      methods'[key]? = methods[key]? → documented'[key]? = documented[key]? →
      (g.generateAll methods' documented').value[key]?
        = (g.generateAll methods documented).value[key]?) ∧
    (∀ order : List MessageType, order.Perm g.registry.messages →
      order.foldl (g.addResult methods documented) ∅ = (g.generateAll methods documented).value) ∧
    (g.generateAll methods documented).events
      = g.batchEvents methods documented
        ++ [finishedEvent (wrapperCount (g.generateAll methods documented).value)
            (failureCount (g.generateAll methods documented).value)] ∧
    wrapperCount (g.generateAll methods documented).value
        + failureCount (g.generateAll methods documented).value = g.registry.size := by
  refine ⟨fun key => ?_, fun methods' documented' key hmethod hdocs => ?_, fun order horder => ?_,
    g.generateAll_events methods documented, ?_⟩
  · rw [getElem?_generateAll, hcalls, Registry.resolve?_ofCalls]
    refine congrArg (Option.map · _) (funext fun m => ?_)
    cases methods[key]? with
    | none => rfl
    | some method => cases documented[key]? <;> rfl
  · rw [getElem?_generateAll, getElem?_generateAll, hmethod, hdocs]
  · rw [g.foldl_addResult methods documented horder, generateAll_value]
  · rw [wrapperCount_add_failureCount, generateAll_value, Std.ExtTreeMap.size_map]
    rfl

end Generator

/-! ## a batch with a refused call and a missing method -/

def pingKey : MessageKey := ⟨.play, .client, 0⟩

def spawnKey : MessageKey := ⟨.play, .server, 0⟩

/-- two messages, and one more whose key is taken -/
def pingCalls : List MessageType := [⟨pingKey, "PING"⟩, ⟨pingKey, "PONG"⟩, ⟨spawnKey, "SPAWN"⟩]

def pingMethod : MethodBody := ⟨"Ping", "write", [.line 1, .field .getField "Ping" "id"]⟩

def pingGenerator : Generator :=
  .ofParts .stock .empty (.ofTypes [("Ping", ⟨none, [⟨"id", "long", false⟩]⟩)]) (.ofCalls pingCalls)

def pingMethods : KeyMap MethodBody := (∅ : KeyMap MethodBody).insert pingKey pingMethod

def pingDocumented : DocumentedFields :=
  ((∅ : DocumentedFields).insert pingKey [⟨some "Id", "Long", ""⟩]).insert spawnKey []

/-- The message that was registered first has the result of its inputs, the other one lacks its
method, also when nothing is documented for the first any more. -/
theorem generateAll_exact_ping :
    pingGenerator.registry = Registry.ofCalls pingCalls ∧
    (pingGenerator.generateAll pingMethods pingDocumented).value[pingKey]?
      = some (pingGenerator.generate ⟨pingKey, "PING"⟩ pingMethod [⟨some "Id", "Long", ""⟩]).value ∧
    (pingGenerator.generateAll pingMethods pingDocumented).value[spawnKey]?
      = some (.error (.missingInput .serializationMethod "PacketType.Play.Server.SPAWN")) ∧
    (pingDocumented.erase pingKey)[spawnKey]? = pingDocumented[spawnKey]? ∧
    (pingGenerator.generateAll pingMethods (pingDocumented.erase pingKey)).value[spawnKey]?
      = some (.error (.missingInput .serializationMethod "PacketType.Play.Server.SPAWN")) ∧
    [⟨pingKey, "PING"⟩, ⟨spawnKey, "SPAWN"⟩].Perm pingGenerator.registry.messages ∧
    [⟨pingKey, "PING"⟩, ⟨spawnKey, "SPAWN"⟩].foldl
        (pingGenerator.addResult pingMethods pingDocumented) ∅
      = (pingGenerator.generateAll pingMethods pingDocumented).value ∧
    Generator.wrapperCount (pingGenerator.generateAll pingMethods pingDocumented).value
      + Generator.failureCount (pingGenerator.generateAll pingMethods pingDocumented).value = 2 := by
  obtain ⟨hresult, hframe, horder, -, hcount⟩ :=
    Generator.generateAll_exact pingGenerator pingMethods pingDocumented pingCalls rfl
  have hping : pingCalls.find? (·.key == pingKey) = some ⟨pingKey, "PING"⟩ := by decide
  have hspawn : pingCalls.find? (·.key == spawnKey) = some ⟨spawnKey, "SPAWN"⟩ := by decide
  have hmethod : pingMethods[pingKey]? = some pingMethod := by decide +kernel
  have hno : pingMethods[spawnKey]? = none := by decide +kernel
  have hdocs : pingDocumented[pingKey]? = some [⟨some "Id", "Long", ""⟩] := by decide +kernel
  have hkept : (pingDocumented.erase pingKey)[spawnKey]? = pingDocumented[spawnKey]? := by
    decide +kernel
  have hmissing : (pingGenerator.generateAll pingMethods pingDocumented).value[spawnKey]?
      = some (.error (.missingInput .serializationMethod "PacketType.Play.Server.SPAWN")) := by
    rw [hresult, hspawn, Option.map_some, hno]
    rfl
  have hmessages : pingGenerator.registry.messages
      = [⟨pingKey, "PING"⟩, ⟨spawnKey, "SPAWN"⟩] := by decide +kernel
  refine ⟨rfl, ?_, hmissing, hkept, (hframe _ _ _ rfl hkept).trans hmissing,
    hmessages ▸ List.Perm.refl _, horder _ (hmessages ▸ List.Perm.refl _), ?_⟩
  · rw [hresult, hping, Option.map_some, hmethod, hdocs]
  · rw [hcount]
    decide +kernel

end WireWrapper
