import SwitchFleet.Json.Basic

/-!
# Merge patches

A merge patch is a JSON value that changes another one. An object changes the members that it
names: `null` removes a member, and any other value is a patch of the member. Every patch that is
not an object replaces the whole value.

* `Json.diff`: the patch from one value to another. Members that went away appear as `null`.
* `Json.patch`: a value after a patch.
* `Json.isEmptyPatch`: the patch that changes nothing.
-/

namespace SwitchFleet.Json

/-- Whether a patch is the empty object, which changes no object. -/
def isEmptyPatch : Json → Bool
  | .object ms => ms.isEmpty
  | _ => false

/-- The removal of every member of `old` that `new` does not have. -/
def removals (old new : Keyed Json) : Keyed Json :=
  (old.filter fun m => !new.has m.1).map fun m => (m.1, .null)

mutual

/-- The merge patch that turns `old` into `new`. Members that are equal are left out, and members
that are objects on both sides are compared in turn. -/
def diff (old : Json) : Json → Json
  | .object new =>
    match old with
    | .object ms =>
      .object ((diffMembers ms new).foldl (fun patch m => Keyed.put m.1 m.2 patch)
        (removals ms new))
    | _ => .object new
  | new => new

/-- The changes of the members of `new`. -/
def diffMembers (old : Keyed Json) : List (String × Json) → List (String × Json)
  | [] => []
  | (k, v) :: ms =>
    match old.get? k with
    | none => (k, v) :: diffMembers old ms
    | some w =>
      if w.same v then diffMembers old ms
      else if w.isObject && v.isObject then
        let nested := diff w v
        if nested.isEmptyPatch then diffMembers old ms
        else (k, nested) :: diffMembers old ms
      else (k, v) :: diffMembers old ms

end

mutual

/-- A value after a merge patch. -/
def patch (target : Json) : Json → Json
  | .object changes => .object (patchMembers (target.members?.getD []) changes)
  | value => value

/-- The members of an object after the changes of a merge patch. -/
def patchMembers (fields : Keyed Json) : List (String × Json) → Keyed Json
  | [] => fields
  | (k, v) :: changes =>
    if v.isNull then patchMembers (fields.erase k) changes
    else patchMembers (fields.put k (patch ((fields.get? k).getD .null) v)) changes

end

end SwitchFleet.Json
