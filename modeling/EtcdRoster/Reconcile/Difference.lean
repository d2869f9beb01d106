import EtcdRoster.Data.Sorting
import EtcdRoster.Json.MergePatch
import EtcdRoster.Object.Endpoints
import EtcdRoster.Text.Split

/-!
# What has to change

The published object is compared with the desired one. The order of addresses carries no meaning, so
subsets are compared after sorting their addresses. Metadata is merged: only what the desired object
names is touched.
-/

namespace EtcdRoster.Difference

/-! ## Metadata -/

/-- Takes over a text that is present and not empty; tells whether anything changed. -/
def mergeText (existing required : Option String) : Option String × Bool :=
  match required with
  | some value =>
    if value ≠ "" ∧ existing ≠ some value then (some value, true) else (existing, false)
  | none => (existing, false)

/-- The key that a key ending in `-` asks to remove. -/
def removal? (key : String) : Option String :=
  (Text.dropEnding? ['-'] key.toList).map String.ofList

/-- Merges one entry: removes a key or sets it. -/
def mergeEntry (existing : Option (Dict String)) (entry : String × String) :
    Option (Dict String) × Bool :=
  match removal? entry.1 with
  | some key =>
    match existing with
    | some d => (some (d.erase key), d.contains key)
    | none => (none, false)
  | none =>
    let d := existing.getD .empty
    if d.get? entry.1 = some entry.2 then (some d, false)
    else (some (d.insert entry.1 entry.2), true)

/-- Merges entries one after the other. -/
def mergeEntries (existing : Option (Dict String)) :
    List (String × String) → Option (Dict String) × Bool
  | [] => (existing, false)
  | entry :: rest =>
    let (merged, changed) := mergeEntry existing entry
    let (merged, changedLater) := mergeEntries merged rest
    (merged, changed || changedLater)

def mergeDict (existing required : Option (Dict String)) : Option (Dict String) × Bool :=
  match required with
  | some d => mergeEntries existing d.toList
  | none => (existing, false)

/-- Merges the metadata of the desired object into that of the published one, and tells whether
anything changed. -/
def mergeMeta (existing required : ObjectMeta) : ObjectMeta × Bool :=
  let (scope, scopeChanged) := mergeText existing.namespace required.namespace
  let (name, nameChanged) := mergeText existing.name required.name
  let (labels, labelsChanged) := mergeDict existing.labels required.labels
  let (annotations, annotationsChanged) := mergeDict existing.annotations required.annotations
  ({ existing with name, «namespace» := scope, labels, annotations },
    scopeChanged || nameChanged || labelsChanged || annotationsChanged)

/-! ## Subsets -/

/-- The order of addresses: by address, host name and node name, what is absent coming first. -/
def compareAddresses (a b : EndpointAddress) : Ordering :=
  (compare a.ip b.ip).then ((compare a.hostname b.hostname).then (compare a.nodeName b.nodeName))

def sortAddresses (addresses : List EndpointAddress) : List EndpointAddress :=
  Sorting.sort (fun a b => (compareAddresses a b).isLE) addresses

/-- The length of a list, absent counting as empty. -/
def count {α : Type} (items : Option (List α)) : Nat := (items.getD []).length

/-- Whether two subsets publish the same: as many addresses, addresses not ready and ports, and
after sorting the same addresses. -/
def subsetEqual (a b : EndpointSubset) : Bool :=
  count a.addresses == count b.addresses &&
  count a.notReadyAddresses == count b.notReadyAddresses &&
  count a.ports == count b.ports &&
  sortAddresses (a.addresses.getD []) == sortAddresses (b.addresses.getD [])

/-- Whether two lists of subsets agree place by place. -/
def subsetsEqual : (a b : List EndpointSubset) → Bool
  | [], [] => true
  | x :: a, y :: b => subsetEqual x y && subsetsEqual a b
  | _, _ => false

/-! ## The object to write -/

/-- The object to write, which keeps the version that was read, and whether it differs from the
published one. -/
def reconcile (existing required : Endpoints) : Endpoints × Bool :=
  let (metadata, metaChanged) := mergeMeta existing.metadata required.metadata
  if subsetsEqual (existing.subsets.getD []) (required.subsets.getD []) then
    ({ metadata, subsets := existing.subsets }, metaChanged)
  else ({ metadata, subsets := required.subsets }, true)

/-- The change between two objects, as a merge patch of their documents. -/
def patch (existing updated : Endpoints) : Json :=
  Json.mergePatch existing.toJson updated.toJson

end EtcdRoster.Difference
