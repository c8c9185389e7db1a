/-!
# Insertion-ordered maps

A map from names to values as the list of its entries, in the order in which the names were first
put in. Writing a name that is present replaces its value in place; removing one keeps the order
of the rest. The operations keep names distinct (`DistinctKeys`).
-/

namespace DocumentTemplates

/-- The entries of a map, in order. -/
abbrev OrderedMap (β : Type) := List (String × β)

namespace OrderedMap

variable {β : Type}

def get? : OrderedMap β → String → Option β
  | [], _ => none
  | (k, v) :: rest, key => if k = key then some v else get? rest key

def contains (m : OrderedMap β) (key : String) : Bool :=
  (m.get? key).isSome

def keys (m : OrderedMap β) : List String :=
  m.map Prod.fst

def values (m : OrderedMap β) : List β :=
  m.map Prod.snd

/-- Stores a value: in place if the name is present, else at the end. -/
def insert : OrderedMap β → String → β → OrderedMap β
  | [], key, value => [(key, value)]
  | (k, v) :: rest, key, value =>
    if k = key then (key, value) :: rest else (k, v) :: insert rest key value

/-- Overwrites the value of a name that is present; another name changes nothing. -/
def replace : OrderedMap β → String → β → OrderedMap β
  | [], _, _ => []
  | (k, v) :: rest, key, value =>
    if k = key then (key, value) :: rest else (k, v) :: replace rest key value

def erase : OrderedMap β → String → OrderedMap β
  | [], _ => []
  | (k, v) :: rest, key => if k = key then rest else (k, v) :: erase rest key

/-- Stores the entries of `other` one after the other. -/
def merge (m other : OrderedMap β) : OrderedMap β :=
  other.foldl (fun m entry => m.insert entry.1 entry.2) m

/-- The map that the given entries make: of entries with one name, the first gives the place and
the last the value. -/
def ofEntries (entries : List (String × β)) : OrderedMap β :=
  merge [] entries

def retain (m : OrderedMap β) (keep : String → β → Bool) : OrderedMap β :=
  m.filter fun entry => keep entry.1 entry.2

/-- Keeps the entries for which `visit` gives a value, each with that value. -/
def retainWith (m : OrderedMap β) (visit : String → β → Option β) : OrderedMap β :=
  m.filterMap fun entry => (visit entry.1 entry.2).map fun value => (entry.1, value)

/-- No name occurs twice. -/
def DistinctKeys (m : OrderedMap β) : Prop :=
  m.keys.Nodup

theorem get?_insert (m : OrderedMap β) (key other : String) (value : β) :
    (m.insert key value).get? other = if key = other then some value else m.get? other := by
  induction m with
  | nil => rfl
  | cons entry rest ih => grind [insert, get?]

theorem keys_insert (m : OrderedMap β) (key : String) (value : β) :
    (m.insert key value).keys = if key ∈ m.keys then m.keys else m.keys ++ [key] := by
  induction m with
  | nil => rfl
  | cons entry rest ih => grind [insert, keys]

theorem distinctKeys_insert {m : OrderedMap β} (h : m.DistinctKeys) (key : String) (value : β) :
    (m.insert key value).DistinctKeys := by
  unfold DistinctKeys at *
  rw [keys_insert]
  split
  · exact h
  · rename_i absent
    exact List.nodup_append.2 ⟨h, by simp, by grind⟩

theorem isSome_get? (m : OrderedMap β) (key : String) : (m.get? key).isSome ↔ key ∈ m.keys := by
  induction m with
  | nil => simp [get?, keys]
  | cons entry rest ih => grind [get?, keys]

theorem get?_replace (m : OrderedMap β) (key other : String) (value : β) :
    (m.replace key value).get? other =
      if key = other then (m.get? other).map fun _ => value else m.get? other := by
  induction m with
  | nil => simp [replace, get?]
  | cons entry rest ih => grind [replace, get?]

theorem keys_replace (m : OrderedMap β) (key : String) (value : β) :
    (m.replace key value).keys = m.keys := by
  induction m with
  | nil => rfl
  | cons entry rest ih => grind [replace, keys]

theorem keys_erase (m : OrderedMap β) (key : String) : (m.erase key).keys = m.keys.erase key := by
  induction m with
  | nil => rfl
  | cons entry rest ih => grind [erase, keys]

theorem get?_erase {m : OrderedMap β} (h : m.DistinctKeys) (key other : String) :
    (m.erase key).get? other = if key = other then none else m.get? other := by
  induction m with
  | nil => simp [erase, get?]
  | cons entry rest ih =>
    obtain ⟨habsent, hrest⟩ := List.nodup_cons.1 h
    have hnone : get? rest entry.1 = none := by
      rw [← Option.not_isSome_iff_eq_none, isSome_get?]
      exact habsent
    specialize ih hrest
    grind [erase, get?]

end OrderedMap

end DocumentTemplates
