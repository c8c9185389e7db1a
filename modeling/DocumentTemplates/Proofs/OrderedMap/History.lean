import DocumentTemplates.OrderedMap
import Mathlib.Data.List.Induction
import Mathlib.Data.List.Nodup

/-!
# Histories of ordered maps

Every operation on a map puts keys in, writes to the values of keys that are there, or drops keys.
The history of a run is the list of these events, and it says all about the map that is left: which
keys are there, with which values, and in which order. A key stands where it was put in after it
was last absent.
-/

namespace DocumentTemplates.OrderedMap

variable {β : Type}

/-! ## Operations and events -/

/-- An operation on a map. -/
inductive Operation (β : Type) where
  | insert (key : String) (value : β)
  /-- Writes a value in place, if the key is there. -/
  | replace (key : String) (value : β)
  | erase (key : String)
  /-- Puts in entries one after the other, those of another map or any others. -/
  | merge (entries : List (String × β))
  /-- Begins a new map and puts in entries one after the other. -/
  | collect (entries : List (String × β))
  /-- Visits the entries in order and keeps those for which `visit` gives a value, with that value.
  No key is visited twice, so a visitor that remembers what it has seen is such a function, too. -/
  | retain (visit : String → β → Option β)

/-- What can happen to the keys of a map. -/
inductive Event (β : Type) where
  | start
  | put (key : String) (value : β)
  /-- A value is written, if the key is there. -/
  | write (key : String) (value : β)
  | drop (key : String)

def Operation.apply (m : OrderedMap β) : Operation β → OrderedMap β
  | .insert key value => m.insert key value
  | .replace key value => m.replace key value
  | .erase key => m.erase key
  | .merge entries => m.merge entries
  | .collect entries => ofEntries entries
  | .retain visit => m.retainWith visit

/-- The event of a visit to an entry. -/
def Event.ofVisit (visit : String → β → Option β) (entry : String × β) : Event β :=
  match visit entry.1 entry.2 with
  | some value => .write entry.1 value
  | none => .drop entry.1

/-- The events of an operation on a map. -/
def Operation.events (m : OrderedMap β) : Operation β → List (Event β)
  | .insert key value => [.put key value]
  | .replace key value => [.write key value]
  | .erase key => [.drop key]
  | .merge entries => entries.map fun entry => .put entry.1 entry.2
  | .collect entries => .start :: entries.map fun entry => .put entry.1 entry.2
  | .retain visit => m.map (Event.ofVisit visit)

/-- The map that is left of a map after operations. -/
def run (m : OrderedMap β) (operations : List (Operation β)) : OrderedMap β :=
  operations.foldl Operation.apply m

/-- The events of operations on a map, in order. -/
def history (m : OrderedMap β) : List (Operation β) → List (Event β)
  | [] => []
  | operation :: rest => operation.events m ++ history (operation.apply m) rest

/-! ## What a history says -/

namespace Event

/-- True of an event after which a key is absent. -/
def Ends (key : String) : Event β → Prop
  | .start => True
  | .drop other => other = key
  | _ => False

def Puts (key : String) : Event β → Prop
  | .put other _ => other = key
  | _ => False

/-- The value that an event gives to a key. -/
def value? (key : String) : Event β → Option β
  | .put other value => if other = key then some value else none
  | .write other value => if other = key then some value else none
  | _ => none

end Event

/-- Some event of a history is as `P` says, which also sees the events before it, and all events
after it are as `Q` says. -/
def Since (P : List (Event β) → Event β → Prop) (Q : Event β → Prop) (h : List (Event β)) : Prop :=
  ∃ before e after, h = before ++ e :: after ∧ P before e ∧ ∀ later ∈ after, Q later

/-- The key was put in, and has not been dropped since. -/
def Present (h : List (Event β)) (key : String) : Prop :=
  Since (fun _ e => e.Puts key) (fun e => ¬ e.Ends key) h

/-- The value is the last one that was given to the key. -/
def Latest (h : List (Event β)) (key : String) (value : β) : Prop :=
  Since (fun _ e => e.value? key = some value) (fun e => e.value? key = none) h

/-- The event at which the key, absent before, was put in, and since which it has been there. -/
def Arrives (h : List (Event β)) (key : String) (time : Nat) : Prop :=
  Since (fun before e => e.Puts key ∧ ¬ Present before key ∧ before.length = time)
    (fun e => ¬ e.Ends key) h

/-- A map that is as its history says. -/
structure Reflects (h : List (Event β)) (m : OrderedMap β) : Prop where
  distinct : m.DistinctKeys
  present : ∀ key, key ∈ m.keys ↔ Present h key
  latest : ∀ key value, m.get? key = some value ↔ Present h key ∧ Latest h key value
  /-- Every key that is there has arrived at one time. -/
  arrives : ∀ key ∈ m.keys, ∃! time, Arrives h key time
  /-- Keys stand in the order of their arrival. -/
  order : m.keys.Pairwise fun a b => ∀ s t, Arrives h a s → Arrives h b t → s < t

/-! ## One event more -/

section
variable {P : List (Event β) → Event β → Prop} {Q : Event β → Prop} {h : List (Event β)}
  {e : Event β} {key : String} {time : Nat}

theorem not_since_nil : ¬ Since P Q [] := by
  rintro ⟨before, e, after, hsplit, -⟩
  simp at hsplit

theorem since_concat : Since P Q (h ++ [e]) ↔ P h e ∨ Since P Q h ∧ Q e := by
  constructor
  · rintro ⟨before, x, after, hsplit, hP, hQ⟩
    rcases List.eq_nil_or_concat after with rfl | ⟨after, last, rfl⟩
    · obtain ⟨rfl, hlast⟩ := List.append_inj' hsplit rfl
      obtain rfl := List.singleton_inj.1 hlast
      exact Or.inl hP
    · rw [List.concat_eq_append, ← List.cons_append, ← List.append_assoc] at hsplit
      obtain ⟨rfl, hlast⟩ := List.append_inj' hsplit rfl
      obtain rfl := List.singleton_inj.1 hlast
      refine Or.inr ⟨⟨before, x, after, rfl, hP, fun later hm => hQ later ?_⟩, hQ e ?_⟩
      · simp [hm]
      · simp
  · rintro (hP | ⟨⟨before, x, after, rfl, hP, hQ⟩, hlast⟩)
    · exact ⟨h, e, [], rfl, hP, fun _ hm => absurd hm List.not_mem_nil⟩
    · refine ⟨before, x, after ++ [e], by simp, hP, fun later hm => ?_⟩
      rcases List.mem_append.1 hm with hm | hm
      · exact hQ later hm
      · obtain rfl := List.mem_singleton.1 hm
        exact hlast

theorem present_concat : Present (h ++ [e]) key ↔ e.Puts key ∨ Present h key ∧ ¬ e.Ends key :=
  since_concat

theorem Arrives.present (ha : Arrives h key time) : Present h key := by
  obtain ⟨before, e, after, rfl, hP, hQ⟩ := ha
  exact ⟨before, e, after, rfl, hP.1, hQ⟩

theorem Arrives.lt_length (ha : Arrives h key time) : time < h.length := by
  obtain ⟨before, e, after, rfl, ⟨-, -, rfl⟩, -⟩ := ha
  simp

/-- The arrival of a key that was there before the last event. -/
theorem Arrives.of_concat (ha : Arrives (h ++ [e]) key time) (hp : Present h key) :
    Arrives h key time := by
  rcases since_concat.1 ha with ⟨-, habsent, -⟩ | ⟨hbefore, -⟩
  · exact absurd hp habsent
  · exact hbefore

theorem Arrives.concat (ha : Arrives h key time) (he : ¬ e.Ends key) :
    Arrives (h ++ [e]) key time :=
  since_concat.2 (Or.inr ⟨ha, he⟩)

theorem arrives_put (hp : ¬ Present h key) (value : β) :
    Arrives (h ++ [.put key value]) key h.length :=
  since_concat.2 (Or.inl ⟨rfl, hp, rfl⟩)

/-- A key arrives once. -/
theorem Arrives.unique {s t : Nat} (hs : Arrives h key s) (ht : Arrives h key t) : s = t := by
  induction h using List.reverseRecOn with
  | nil => exact absurd hs not_since_nil
  | append_singleton h e ih =>
    rcases since_concat.1 hs with ⟨-, habsent, rfl⟩ | ⟨hs', -⟩
    · rcases since_concat.1 ht with ⟨-, -, rfl⟩ | ⟨ht', -⟩
      · rfl
      · exact absurd (Arrives.present ht') habsent
    · exact ih hs' (ht.of_concat (Arrives.present hs'))

end

/-! ## One event at a time -/

def Event.apply (m : OrderedMap β) : Event β → OrderedMap β
  | .start => []
  | .put key value => m.insert key value
  | .write key value => m.replace key value
  | .drop key => m.erase key

section
variable {h : List (Event β)} {m : OrderedMap β}

theorem reflects_nil : Reflects ([] : List (Event β)) [] where
  distinct := List.nodup_nil
  present key := ⟨fun hm => absurd hm List.not_mem_nil, fun hp => absurd hp not_since_nil⟩
  latest key value := ⟨fun hv => (by cases hv), fun hv => absurd hv.1 not_since_nil⟩
  arrives key hm := absurd hm List.not_mem_nil
  order := .nil

namespace Reflects

/-- Keys keep their order when others are dropped or one that was absent is put in behind them. -/
theorem order_concat (r : Reflects h m) {e : Event β} {kept : List String}
    (hkept : kept.Sublist m.keys) :
    kept.Pairwise fun a b => ∀ s t, Arrives (h ++ [e]) a s → Arrives (h ++ [e]) b t → s < t := by
  have hmem : ∀ key ∈ kept, Present h key := fun key hm => (r.present key).1 (hkept.subset hm)
  refine (r.order.sublist hkept).imp_of_mem fun ha hb hab s t hs ht => ?_
  exact hab s t (hs.of_concat (hmem _ ha)) (ht.of_concat (hmem _ hb))

theorem arrives_concat (r : Reflects h m) {e : Event β} {key : String} (hm : key ∈ m.keys)
    (he : ¬ e.Ends key) : ∃! time, Arrives (h ++ [e]) key time := by
  obtain ⟨time, ha, -⟩ := r.arrives key hm
  exact ⟨time, ha.concat he, fun t ht => ht.unique (ha.concat he)⟩

theorem start (h : List (Event β)) : Reflects (h ++ [.start]) [] where
  distinct := List.nodup_nil
  present key := by simp [keys, present_concat, Event.Puts, Event.Ends]
  latest key value := by simp [get?, present_concat, Event.Puts, Event.Ends]
  arrives key hm := absurd hm List.not_mem_nil
  order := .nil

theorem put (r : Reflects h m) (key : String) (value : β) :
    Reflects (h ++ [.put key value]) (m.insert key value) where
  distinct := distinctKeys_insert r.distinct key value
  present other := by
    rw [present_concat, ← r.present, keys_insert]
    by_cases hm : key ∈ m.keys <;> grind [Event.Puts, Event.Ends]
  latest other w := by
    rw [get?_insert, present_concat, Latest, since_concat, ← Latest]
    have hlatest := r.latest other w
    by_cases hk : key = other <;> simp [Event.Puts, Event.Ends, Event.value?, hk, hlatest]
  arrives other hm := by
    by_cases hp : other ∈ m.keys
    · exact r.arrives_concat hp id
    · rw [keys_insert] at hm
      obtain rfl : other = key := by grind
      have ha := arrives_put (fun h => hp ((r.present _).2 h)) value
      exact ⟨_, ha, fun t ht => ht.unique ha⟩
  order := by
    rw [keys_insert]
    split
    · exact r.order_concat (.refl _)
    · rename_i habsent
      refine List.pairwise_append.2 ⟨r.order_concat (.refl _), List.pairwise_singleton _ _, ?_⟩
      intro a ha b hb s t hs ht
      obtain rfl := List.mem_singleton.1 hb
      have hp : ¬ Present h b := fun hp => habsent ((r.present b).2 hp)
      rw [ht.unique (arrives_put hp value)]
      exact (hs.of_concat ((r.present a).1 ha)).lt_length

theorem write (r : Reflects h m) (key : String) (value : β) :
    Reflects (h ++ [.write key value]) (m.replace key value) where
  distinct := by
    unfold DistinctKeys
    rw [keys_replace]
    exact r.distinct
  present other := by
    rw [present_concat, ← r.present, keys_replace]
    simp [Event.Puts, Event.Ends]
  latest other w := by
    rw [get?_replace, present_concat, Latest, since_concat, ← Latest, ← r.present, ← isSome_get?]
    have hlatest := r.latest other w
    rw [← r.present, ← isSome_get?] at hlatest
    by_cases hk : key = other
    · cases hg : m.get? other <;> simp [Event.Puts, Event.Ends, Event.value?, hk]
    · simp [Event.Puts, Event.Ends, Event.value?, hk, hlatest]
  arrives other hm := by
    rw [keys_replace] at hm
    exact r.arrives_concat hm id
  order := by
    rw [keys_replace]
    exact r.order_concat (.refl _)

theorem drop (r : Reflects h m) (key : String) : Reflects (h ++ [.drop key]) (m.erase key) where
  distinct := by
    unfold DistinctKeys
    rw [keys_erase]
    exact r.distinct.erase key
  present other := by
    rw [present_concat, ← r.present, keys_erase, r.distinct.mem_erase_iff]
    simp only [Event.Puts, Event.Ends, false_or]
    exact ⟨fun hm => ⟨hm.2, Ne.symm hm.1⟩, fun hm => ⟨Ne.symm hm.2, hm.1⟩⟩
  latest other w := by
    rw [get?_erase r.distinct, present_concat, Latest, since_concat, ← Latest]
    have hlatest := r.latest other w
    by_cases hk : key = other <;> simp [Event.Puts, Event.Ends, Event.value?, hk, hlatest]
  arrives other hm := by
    rw [keys_erase, r.distinct.mem_erase_iff] at hm
    exact r.arrives_concat hm.2 fun hk => hm.1 hk.symm
  order := by
    rw [keys_erase]
    exact r.order_concat List.erase_sublist

theorem concat (r : Reflects h m) (e : Event β) : Reflects (h ++ [e]) (e.apply m) := by
  cases e with
  | start => exact .start h
  | put key value => exact r.put key value
  | write key value => exact r.write key value
  | drop key => exact r.drop key

theorem append (r : Reflects h m) (events : List (Event β)) :
    Reflects (h ++ events) (events.foldl Event.apply m) := by
  induction events generalizing h m with
  | nil => simpa using r
  | cons e rest ih => simpa using ih (r.concat e)

end Reflects

/-- Two keys that an event leaves in a map keep their order. -/
theorem Event.sublist_keys_apply {a b : String} (hab : [a, b].Sublist m.keys) {e : Event β}
    (ha : ¬ e.Ends a) (hb : ¬ e.Ends b) : [a, b].Sublist (e.apply m).keys := by
  cases e with
  | start => exact absurd trivial ha
  | put key value =>
    rw [Event.apply, keys_insert]
    split
    · exact hab
    · exact hab.trans (List.sublist_append_left _ _)
  | write key value =>
    rw [Event.apply, keys_replace]
    exact hab
  | drop key =>
    rw [Event.apply, keys_erase]
    have hkept : [a, b].erase key = [a, b] := by
      refine List.erase_of_not_mem ?_
      simp only [List.mem_cons, List.not_mem_nil, or_false, not_or]
      exact ⟨ha, hb⟩
    exact hkept ▸ hab.erase key

end

/-! ## Operations as events -/

section
variable {m : OrderedMap β}

theorem replace_append {kept : OrderedMap β} {key : String} (hkey : key ∉ kept.keys)
    (rest : OrderedMap β) (value : β) :
    replace (kept ++ rest) key value = kept ++ rest.replace key value := by
  induction kept with
  | nil => rfl
  | cons entry kept ih => grind [replace, keys]

theorem erase_append {kept : OrderedMap β} {key : String} (hkey : key ∉ kept.keys)
    (rest : OrderedMap β) : erase (kept ++ rest) key = kept ++ rest.erase key := by
  induction kept with
  | nil => rfl
  | cons entry kept ih => grind [erase, keys]

/-- A visit entry by entry, where `kept` is what is left of the entries visited so far. -/
theorem foldl_ofVisit (visit : String → β → Option β) (kept : OrderedMap β) {rest : OrderedMap β}
    (h : DistinctKeys (kept ++ rest)) :
    (rest.map (Event.ofVisit visit)).foldl Event.apply (kept ++ rest) =
      kept ++ rest.retainWith visit := by
  induction rest generalizing kept with
  | nil => rfl
  | cons entry rest ih =>
    obtain ⟨key, value⟩ := entry
    have hkeys : (keys kept ++ key :: keys rest).Nodup := by
      simpa [DistinctKeys, keys] using h
    have hkey : key ∉ kept.keys := fun hm =>
      (List.nodup_append.1 hkeys).2.2 key hm key List.mem_cons_self rfl
    rw [List.map_cons, List.foldl_cons, Event.ofVisit]
    cases hv : visit key value with
    | some w =>
      have hstep : (Event.write key w).apply (kept ++ (key, value) :: rest) =
          (kept ++ [(key, w)]) ++ rest := by
        simp [Event.apply, replace_append hkey, replace]
      change (rest.map (Event.ofVisit visit)).foldl Event.apply ((Event.write key w).apply _) = _
      rw [hstep, ih]
      · simp [retainWith, hv]
      · simpa [DistinctKeys, keys] using hkeys
    | none =>
      have hstep : (Event.drop key).apply (kept ++ (key, value) :: rest) = kept ++ rest := by
        simp [Event.apply, erase_append hkey, erase]
      change (rest.map (Event.ofVisit visit)).foldl Event.apply ((Event.drop key).apply _) = _
      rw [hstep, ih]
      · simp [retainWith, hv]
      · have hsub : (keys kept ++ keys rest).Sublist (keys kept ++ key :: keys rest) :=
          (List.sublist_cons_self key _).append_left _
        simpa [DistinctKeys, keys] using hkeys.sublist hsub

/-- An operation does what its events do. -/
theorem Operation.apply_eq_foldl (h : m.DistinctKeys) (operation : Operation β) :
    operation.apply m = (operation.events m).foldl Event.apply m := by
  cases operation with
  | insert key value => rfl
  | replace key value => rfl
  | erase key => rfl
  | merge entries =>
    rw [Operation.events, List.foldl_map]
    rfl
  | collect entries =>
    rw [Operation.events, List.foldl_cons, List.foldl_map]
    rfl
  | retain visit => exact (foldl_ofVisit visit [] h).symm

end

/-! ## Runs -/

section
variable {h : List (Event β)} {m : OrderedMap β}

theorem Reflects.apply (r : Reflects h m) (operation : Operation β) :
    Reflects (h ++ operation.events m) (operation.apply m) := by
  rw [operation.apply_eq_foldl r.distinct]
  exact r.append _

theorem Reflects.run (r : Reflects h m) (operations : List (Operation β)) :
    Reflects (h ++ history m operations) (run m operations) := by
  induction operations generalizing h m with
  | nil => simpa [history, OrderedMap.run] using r
  | cons operation rest ih =>
    have hrun := ih (r.apply operation)
    rwa [List.append_assoc] at hrun

theorem Event.sublist_keys_foldl {a b : String} {events : List (Event β)}
    (hkept : ∀ e ∈ events, ¬ e.Ends a ∧ ¬ e.Ends b) (hab : [a, b].Sublist m.keys) :
    [a, b].Sublist (keys (events.foldl Event.apply m)) := by
  induction events generalizing m with
  | nil => exact hab
  | cons e rest ih =>
    obtain ⟨ha, hb⟩ := hkept e List.mem_cons_self
    exact ih (fun later hm => hkept later (List.mem_cons_of_mem _ hm))
      (e.sublist_keys_apply hab ha hb)

theorem Reflects.sublist_keys_run (r : Reflects h m) {operations : List (Operation β)}
    {a b : String} (hkept : ∀ e ∈ history m operations, ¬ e.Ends a ∧ ¬ e.Ends b)
    (hab : [a, b].Sublist m.keys) : [a, b].Sublist (OrderedMap.run m operations).keys := by
  induction operations generalizing h m with
  | nil => exact hab
  | cons operation rest ih =>
    rw [history, List.forall_mem_append] at hkept
    refine ih (r.apply operation) hkept.2 ?_
    rw [operation.apply_eq_foldl r.distinct]
    exact Event.sublist_keys_foldl hkept.1 hab

end

/-- A run leaves the map that its history describes: keys that were put in and not dropped since,
each with the value last given to it, in the order in which they came after they were last absent.
So whatever else happens, two keys that are not dropped keep their order. -/
theorem run_reflects_history (operations : List (Operation β)) :
    Reflects (history [] operations) (run [] operations) ∧
      ∀ (more : List (Operation β)) (a b : String), [a, b].Sublist (run [] operations).keys →
        (∀ e ∈ history (run [] operations) more, ¬ e.Ends a ∧ ¬ e.Ends b) →
        [a, b].Sublist (run [] (operations ++ more)).keys := by
  have hrun : Reflects (history [] operations) (run [] operations) := reflects_nil.run operations
  refine ⟨hrun, fun more a b hab hkept => ?_⟩
  have hmore := hrun.sublist_keys_run hkept hab
  rwa [run, run, ← List.foldl_append] at hmore

/-- A key that is dropped and put in again comes behind one that was put in meanwhile, and there it
stays while it is overwritten and another key is dropped. -/
theorem run_reflects_history_dropped :
    let operations : List (Operation Nat) := [.collect [("a", 1), ("b", 2)], .insert "a" 3,
      .erase "b", .merge [("c", 4), ("b", 5)]]
    let more : List (Operation Nat) := [.insert "c" 6, .retain fun key n =>
      if key = "a" then none else some (n + 1), .merge [("d", 9), ("c", 8)]]
    run [] operations = [("a", 3), ("c", 4), ("b", 5)] ∧
      ["c", "b"].Sublist (run [] operations).keys ∧
      (∀ e ∈ history (run [] operations) more, ¬ e.Ends "c" ∧ ¬ e.Ends "b") ∧
      ["c", "b"].Sublist (run [] (operations ++ more)).keys ∧
      run [] (operations ++ more) = [("c", 8), ("b", 6), ("d", 9)] := by
  intro operations more
  have hrun : run [] operations = [("a", 3), ("c", 4), ("b", 5)] := by decide
  have hab : ["c", "b"].Sublist (run [] operations).keys := by decide
  have hkept : ∀ e ∈ history (run [] operations) more, ¬ e.Ends "c" ∧ ¬ e.Ends "b" := by
    rw [hrun]
    simp [more, history, Operation.events, Operation.apply, Event.ofVisit, Event.Ends, insert]
  exact ⟨hrun, hab, hkept, (run_reflects_history operations).2 more "c" "b" hab hkept, by decide⟩

end DocumentTemplates.OrderedMap
