import EtcdRoster.Object.Family

/-!
# Caches of watched objects

For each kind a cache holds the objects of the cluster by name and namespace. A watch feeds it: it
lists all objects into a side buffer, which then takes the place of what the cache held, and reports
single changes after that. A cache is ready once a first list is complete, and stays so.

Main facts: what a cache holds under a key after a change (`Cache.lookup_put`,
`Cache.lookup_remove`).
-/

namespace EtcdRoster

/-- An object is known by its name, and by its namespace if it has one. -/
structure ObjectKey where
  name : String
  scope : Option String := none
deriving DecidableEq, Inhabited

/-- The key of an object; one without a name has none. -/
def ObjectMeta.key? (m : ObjectMeta) : Option ObjectKey :=
  m.name.map fun name => ⟨name, m.namespace⟩

namespace Cluster

/-- What a watch reports. -/
inductive Change (α : Type)
  | applied (object : α)
  | deleted (object : α)
  /-- A list begins. -/
  | listing
  | listed (object : α)
  /-- The list is complete. -/
  | complete

/-- Why a cache cannot take what the cluster holds. -/
inductive CacheFault
  /-- A document is no object of its kind. -/
  | unreadable
  /-- An object has no name. -/
  | unnamed
deriving DecidableEq, Inhabited, Repr

structure Cache (α : Type) where
  entries : List (ObjectKey × α) := []
  /-- The objects of a list that is not complete yet. -/
  buffer : List (ObjectKey × α) := []
  ready : Bool := false

namespace Cache

variable {α : Type}

def put (key : ObjectKey) (object : α) (entries : List (ObjectKey × α)) : List (ObjectKey × α) :=
  entries.filter (fun entry => entry.1 ≠ key) ++ [(key, object)]

def remove (key : ObjectKey) (entries : List (ObjectKey × α)) : List (ObjectKey × α) :=
  entries.filter fun entry => entry.1 ≠ key

def objects (c : Cache α) : List α := c.entries.map Prod.snd

/-- The object under a key. -/
def find? (c : Cache α) (key : ObjectKey) : Option α := c.entries.lookup key

/-- The object under a key, or else the one of this name without a namespace. -/
def get? (c : Cache α) (key : ObjectKey) : Option α :=
  (c.find? key).or (c.find? { key with scope := none })

/-- Takes a change in. A change of an object without a name cannot be taken. -/
def take? (metadata : α → ObjectMeta) (c : Cache α) : Change α → Option (Cache α)
  | .applied object => do
    return { c with entries := put (← (metadata object).key?) object c.entries }
  | .deleted object => do
    return { c with entries := remove (← (metadata object).key?) c.entries }
  | .listing => some { c with buffer := [] }
  | .listed object => do
    return { c with buffer := put (← (metadata object).key?) object c.buffer }
  | .complete => some { entries := c.buffer, buffer := [], ready := true }

theorem lookup_filter_ne (key other : ObjectKey) (entries : List (ObjectKey × α)) :
    (entries.filter fun entry => entry.1 ≠ key).lookup other
      = if other = key then none else entries.lookup other := by
  induction entries with
  | nil => simp
  | cons entry rest ih =>
    obtain ⟨k, v⟩ := entry
    by_cases hk : k = key
    · rw [List.filter_cons_of_neg (by simp [hk]), ih]
      by_cases ho : other = key
      · simp [ho]
      · simp [ho, List.lookup_cons, beq_eq_false_iff_ne.mpr (hk ▸ ho)]
    · rw [List.filter_cons_of_pos (by simp [hk]), List.lookup_cons, List.lookup_cons, ih]
      by_cases ho : other = key
      · simp [ho, beq_eq_false_iff_ne.mpr (Ne.symm hk)]
      · simp [ho]

/-- A key that is put in is found, and every other key is found as before. -/
theorem lookup_put (key other : ObjectKey) (object : α) (entries : List (ObjectKey × α)) :
    (put key object entries).lookup other
      = if other = key then some object else entries.lookup other := by
  unfold put
  rw [List.lookup_append, lookup_filter_ne]
  by_cases h : other = key
  · simp [h]
  · simp [h, List.lookup_cons, beq_eq_false_iff_ne.mpr h]

theorem lookup_remove (key other : ObjectKey) (entries : List (ObjectKey × α)) :
    (remove key entries).lookup other = if other = key then none else entries.lookup other :=
  lookup_filter_ne key other entries

end Cache

/-- A cache for every kind. -/
def Caches := (kind : Kind) → Cache kind.Object

namespace Caches

def empty : Caches := fun _ => {}

def set (c : Caches) (kind : Kind) (cache : Cache kind.Object) : Caches := fun other =>
  if h : other = kind then h ▸ cache else c other

/-- Takes a change of a kind in. -/
def take? (c : Caches) (kind : Kind) (change : Change kind.Object) : Option Caches := do
  return c.set kind (← (c kind).take? kind.metadata change)

/-- Takes changes in, one after the other. -/
def takeAll? (c : Caches) (kind : Kind) (changes : List (Change kind.Object)) : Option Caches :=
  changes.foldlM (fun c change => c.take? kind change) c

/-- Lists the objects of a kind anew. -/
def relist? (c : Caches) (kind : Kind) (objects : List kind.Object) : Option Caches :=
  c.takeAll? kind ([.listing] ++ objects.map .listed ++ [.complete])

/-- Whether every cache has a complete list. -/
def ready (c : Caches) : Bool := Kind.all.all fun kind => (c kind).ready

end Caches

end Cluster

end EtcdRoster
