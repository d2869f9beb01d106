import EtcdRoster.Json.Basic

/-!
# Merge patches

A merge patch is a document that describes a change: its members replace members of the target,
`null` removes one, and objects go into each other. `diff?` finds the patch between two documents,
`applyMergePatch` carries a patch out.
-/

namespace EtcdRoster.Json

mutual

/-- The patch that turns `source` into `target`, if they differ. Lists and scalars are replaced as
a whole; a member that `target` lacks is patched to `null`. -/
def diff? (source : Json) : (target : Json) → Option Json
  | .obj target =>
    match source with
    | .obj source =>
      let removed := source.filterMap fun member =>
        if (Entries.get? member.1 target).isNone then some (member.1, Json.null) else none
      match diffMembers source target ++ removed with
      | [] => none
      | patch => some (.obj (Entries.ofList patch))
    | _ => some (.obj target)
  | target => if source = target then none else some target

/-- The patches of the members of an object that are new or differ. -/
def diffMembers (source : List (String × Json)) : List (String × Json) → List (String × Json)
  | [] => []
  | (key, value) :: rest =>
    match Entries.get? key source with
    | none => (key, value) :: diffMembers source rest
    | some old =>
      match diff? old value with
      | none => diffMembers source rest
      | some patch => (key, patch) :: diffMembers source rest

end

/-- The merge patch from one document to another: the empty object when they are equal. -/
def mergePatch (source target : Json) : Json := (diff? source target).getD (.obj [])

mutual

/-- Carries out a merge patch. -/
def applyMergePatch (target : Json) : (patch : Json) → Json
  | .obj members =>
    .obj (applyMembers (match target with | .obj old => old | _ => []) members)
  | patch => patch

def applyMembers (target : List (String × Json)) : List (String × Json) → List (String × Json)
  | [] => target
  | (key, value) :: rest =>
    match value with
    | .null => applyMembers (Entries.erase key target) rest
    | value =>
      let merged := applyMergePatch ((Entries.get? key target).getD .null) value
      applyMembers (Entries.insert key merged target) rest

end

end EtcdRoster.Json
