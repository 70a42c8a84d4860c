import WireWrapper.Registry

/-!
# Registrations

A registry is filled by one call after the other, and a call may be refused.  A key belongs to the
first call that names it, so a refused call might as well not have been made; and what the registry
holds in the end is the first message with each key, in the order of the keys.

* `MessageKey.Precedes`                    the order of keys, spelled out;
* `Registry.attempt`, `Registry.ofCalls`   registries after calls that may fail;
* `resolve?_ofCalls`                       the first call with a key counts;
* `register_ofCalls`                       what one more call gives;
* `ofCalls_eraseIdx`                       a refused call leaves no trace in the rest of the run;
* `messages_pairwise`                      messages stand in the order of their keys;
* `registrations_exact`                    all of this, for every run of calls.
-/

namespace WireWrapper

/-! ## the order of keys -/

namespace MessageKey

/-- by category, then by direction, then by number -/
def Precedes (a b : MessageKey) : Prop :=
  a.category.rank < b.category.rank ∨
    a.category = b.category ∧
      (a.direction.rank < b.direction.rank ∨ a.direction = b.direction ∧ a.id < b.id)

theorem order_eq_lt {a b : MessageKey} : order a b = .lt ↔ a.Precedes b := by
  unfold order Precedes compareLex compareOn
  have hcategory : a.category.rank = b.category.rank ↔ a.category = b.category :=
    ⟨Category.rank_injective, congrArg _⟩
  have hdirection : a.direction.rank = b.direction.rank ↔ a.direction = b.direction :=
    ⟨Direction.rank_injective, congrArg _⟩
  rw [Ordering.then_eq_lt, Ordering.then_eq_lt, Nat.compare_eq_lt, Nat.compare_eq_eq,
    Nat.compare_eq_lt, Nat.compare_eq_eq, Std.compare_eq_lt, hcategory, hdirection]

theorem Precedes.ne {a b : MessageKey} (h : a.Precedes b) : a ≠ b := by
  rintro rfl
  have hself : order a a = .eq := Std.ReflCmp.compare_self
  rw [order_eq_lt.mpr h] at hself
  cases hself

end MessageKey

namespace Registry

/-! ## calls -/

/-- a registry after a call that adds a message: as it was if the key is taken -/
def attempt (r : Registry) (m : MessageType) : Registry :=
  match r.register m with
  | .ok added => added
  | .error _ => r

/-- an empty registry after calls in turn -/
def ofCalls (calls : List MessageType) : Registry := calls.foldl attempt empty

theorem resolve?_insert (r : Registry) (m : MessageType) (key : MessageKey) :
    (r.insert m).resolve? key = if m.key = key then some m else r.resolve? key :=
  KeyMap.getElem?_insert r.byKey m.key key m

theorem resolve?_attempt (r : Registry) (m : MessageType) (key : MessageKey) :
    (r.attempt m).resolve? key
      = (r.resolve? key).or (if m.key = key then some m else none) := by
  rw [attempt, register]
  cases hm : r.resolve? m.key with
  | some existing =>
    show r.resolve? key = _
    split
    · next hkey => rw [← hkey, hm, Option.some_or]
    · rw [Option.or_none]
  | none =>
    show (r.insert m).resolve? key = _
    rw [resolve?_insert]
    split
    · next hkey => rw [← hkey, hm, Option.none_or]
    · rw [Option.or_none]

/-- **A key belongs to the first call that names it.** -/
theorem resolve?_foldl_attempt (calls : List MessageType) (r : Registry) (key : MessageKey) :
    (calls.foldl attempt r).resolve? key = (r.resolve? key).or (calls.find? (·.key == key)) := by
  induction calls generalizing r with
  | nil => exact (Option.or_none).symm
  | cons m calls ih =>
    rw [List.foldl_cons, ih, resolve?_attempt, Option.or_assoc, List.find?_cons]
    by_cases hkey : m.key = key
    · rw [if_pos hkey, beq_iff_eq.mpr hkey, Option.some_or]
    · rw [if_neg hkey, beq_eq_false_iff_ne.mpr hkey, Option.none_or]

theorem resolve?_ofCalls (calls : List MessageType) (key : MessageKey) :
    (ofCalls calls).resolve? key = calls.find? (·.key == key) := by
  have hempty : empty.resolve? key = none := Std.ExtTreeMap.getElem?_empty
  rw [ofCalls, resolve?_foldl_attempt, hempty, Option.none_or]

/-! ## one call of a run -/

section
variable {calls : List MessageType} {i : Nat} {m : MessageType}

theorem ofCalls_take_succ (hi : calls[i]? = some m) :
    ofCalls (calls.take (i + 1)) = (ofCalls (calls.take i)).attempt m := by
  have hlast : calls.take (i + 1) = calls.take i ++ [m] := by
    rw [List.take_add_one, hi]
    rfl
  rw [ofCalls, hlast, List.foldl_append]
  rfl

theorem register_ofCalls (hi : calls[i]? = some m) :
    (ofCalls (calls.take i)).register m
      = match (calls.take i).find? (·.key == m.key) with
        | some first => .error (.duplicateKey (claimText first m))
        | none => .ok (ofCalls (calls.take (i + 1))) := by
  rw [ofCalls_take_succ hi, attempt, register, resolve?_ofCalls]
  cases (calls.take i).find? (·.key == m.key) <;> rfl

theorem register_eq_error_iff (hi : calls[i]? = some m) :
    (∃ failure, (ofCalls (calls.take i)).register m = .error failure) ↔
      ∃ earlier ∈ calls.take i, earlier.key = m.key := by
  rw [register_ofCalls hi]
  cases hfirst : (calls.take i).find? (·.key == m.key) with
  | some first =>
    have hkey : first.key = m.key := by simpa using List.find?_some hfirst
    have hmem : first ∈ calls.take i := List.mem_of_find?_eq_some hfirst
    exact ⟨fun _ => ⟨first, hmem, hkey⟩, fun _ => ⟨_, rfl⟩⟩
  | none =>
    constructor
    · rintro ⟨failure, hfailure⟩
      cases hfailure
    · rintro ⟨earlier, hmem, hkey⟩
      exact absurd (beq_iff_eq.mpr hkey) (List.find?_eq_none.mp hfirst earlier hmem)

/-- **A refused call leaves no trace**: neither in the registry behind it, nor in that at the end of
the run. -/
theorem ofCalls_eraseIdx (hi : calls[i]? = some m) {failure : RegistryFailure}
    (h : (ofCalls (calls.take i)).register m = .error failure) :
    ofCalls (calls.take (i + 1)) = ofCalls (calls.take i) ∧
      ofCalls (calls.eraseIdx i) = ofCalls calls := by
  have hsame : ofCalls (calls.take (i + 1)) = ofCalls (calls.take i) := by
    rw [ofCalls_take_succ hi, attempt, h]
  refine ⟨hsame, ?_⟩
  -- with the call or without it, the rest of the run goes on from one registry
  calc ofCalls (calls.eraseIdx i)
      = (calls.drop (i + 1)).foldl attempt (ofCalls (calls.take i)) := by
        rw [List.eraseIdx_eq_take_drop_succ, ofCalls, List.foldl_append]
        rfl
    _ = (calls.drop (i + 1)).foldl attempt (ofCalls (calls.take (i + 1))) := by rw [hsame]
    _ = ofCalls calls := by
        rw [ofCalls, ← List.foldl_append, List.take_append_drop]
        rfl

end

/-! ## all messages -/

theorem mem_messages {r : Registry} {m : MessageType} :
    m ∈ r.messages ↔ r.resolve? m.key = some m := by
  rw [messages, List.mem_map]
  constructor
  · rintro ⟨⟨key, m⟩, hmem, rfl⟩
    have hkey := Std.ExtTreeMap.mem_toList_iff_getElem?_eq_some.mp hmem
    rw [r.keyed key m hkey]
    exact hkey
  · intro hm
    exact ⟨(m.key, m), Std.ExtTreeMap.mem_toList_iff_getElem?_eq_some.mpr hm, rfl⟩

theorem messages_pairwise (r : Registry) :
    r.messages.Pairwise fun a b => a.key.Precedes b.key := by
  -- the map is in the order of its keys, and each message is filed under its own
  have hown : ∀ entry ∈ r.byKey.toList, entry.2.key = entry.1 := fun entry hentry =>
    r.keyed entry.1 entry.2 (Std.ExtTreeMap.mem_toList_iff_getElem?_eq_some.mp hentry)
  rw [messages, List.pairwise_map]
  refine List.Pairwise.imp_of_mem ?_ Std.ExtTreeMap.ordered_keys_toList
  intro a b ha hb hlt
  rw [hown a ha, hown b hb]
  exact MessageKey.order_eq_lt.mp hlt

theorem messages_nodup (r : Registry) : r.messages.Nodup :=
  r.messages_pairwise.imp fun hlt hsame => hlt.ne (congrArg _ hsame)

theorem length_messages (r : Registry) : r.messages.length = r.size := by
  rw [messages, List.length_map]
  exact Std.ExtTreeMap.length_toList

/-! ## runs -/

/-- **What a run of registrations does.**  Call by call: one is refused exactly if an earlier one names
its key, the refusal names the first message with it, and a refused call changes neither the registry
nor what the rest of the run makes of it.  At the end the first message with a key is found by it, the
messages are filed under their own keys, and the list of all of them has each once, by category,
direction and number. -/
theorem registrations_exact (calls : List MessageType) :
    (∀ i m, calls[i]? = some m →
      (ofCalls (calls.take i)).register m
          = (match (calls.take i).find? (·.key == m.key) with
            | some first => .error (.duplicateKey (claimText first m))
            | none => .ok (ofCalls (calls.take (i + 1)))) ∧
        ((∃ failure, (ofCalls (calls.take i)).register m = .error failure) ↔
          ∃ earlier ∈ calls.take i, earlier.key = m.key) ∧
        ∀ failure, (ofCalls (calls.take i)).register m = .error failure →
          ofCalls (calls.take (i + 1)) = ofCalls (calls.take i) ∧
            ofCalls (calls.eraseIdx i) = ofCalls calls) ∧
    (∀ key, (ofCalls calls).resolve? key = calls.find? (·.key == key)) ∧
    (∀ (key : MessageKey) (m : MessageType), (ofCalls calls).byKey[key]? = some m →
      m.key = key ∧ m ∈ calls) ∧
    (∀ m, m ∈ (ofCalls calls).messages ↔ calls.find? (·.key == m.key) = some m) ∧
    (ofCalls calls).messages.Pairwise (fun a b => a.key.Precedes b.key) ∧
    (ofCalls calls).messages.Nodup ∧
    (ofCalls calls).messages.length = (ofCalls calls).size := by
  refine ⟨fun i m hi => ⟨register_ofCalls hi, register_eq_error_iff hi, fun failure h =>
      ofCalls_eraseIdx hi h⟩, resolve?_ofCalls calls, fun key m hm => ?_, fun m => ?_,
    messages_pairwise _, messages_nodup _, length_messages _⟩
  · have hfirst : calls.find? (·.key == key) = some m := by
      rw [← resolve?_ofCalls]
      exact hm
    exact ⟨(ofCalls calls).keyed key m hm, List.mem_of_find?_eq_some hfirst⟩
  · rw [mem_messages, resolve?_ofCalls]

end Registry

/-! ## a run with a refused call -/

/-- the second call names the key of the first; the third stands before both in the order of keys -/
def spawnCalls : List MessageType :=
  [⟨⟨.play, .server, 1⟩, "SPAWN"⟩, ⟨⟨.play, .server, 1⟩, "RESPAWN"⟩, ⟨⟨.play, .client, 7⟩, "PING"⟩]

/-- The second call is refused for the first, and the registry is that of the other two. -/
theorem registrations_exact_spawn :
    spawnCalls[1]? = some ⟨⟨.play, .server, 1⟩, "RESPAWN"⟩ ∧
    (Registry.ofCalls (spawnCalls.take 1)).register ⟨⟨.play, .server, 1⟩, "RESPAWN"⟩
      = .error (.duplicateKey "Play/Server/0x01 (SPAWN and RESPAWN)") ∧
    Registry.ofCalls [⟨⟨.play, .server, 1⟩, "SPAWN"⟩, ⟨⟨.play, .client, 7⟩, "PING"⟩]
      = Registry.ofCalls spawnCalls ∧
    (Registry.ofCalls spawnCalls).byKey[(⟨.play, .server, 1⟩ : MessageKey)]?
      = some ⟨⟨.play, .server, 1⟩, "SPAWN"⟩ ∧
    (⟨⟨.play, .server, 1⟩, "SPAWN"⟩ : MessageType) ∈ spawnCalls := by
  obtain ⟨hcalls, hresolve, hown, -⟩ := Registry.registrations_exact spawnCalls
  obtain ⟨hregister, -, hrefused⟩ := hcalls 1 ⟨⟨.play, .server, 1⟩, "RESPAWN"⟩ rfl
  have herror : (Registry.ofCalls (spawnCalls.take 1)).register ⟨⟨.play, .server, 1⟩, "RESPAWN"⟩
      = .error (.duplicateKey "Play/Server/0x01 (SPAWN and RESPAWN)") := by
    rw [hregister]
    rfl
  have hspawn : (Registry.ofCalls spawnCalls).resolve? ⟨.play, .server, 1⟩
      = some ⟨⟨.play, .server, 1⟩, "SPAWN"⟩ := by
    rw [hresolve]
    rfl
  exact ⟨rfl, herror, (hrefused _ herror).2, hspawn, (hown _ _ hspawn).2⟩

end WireWrapper
