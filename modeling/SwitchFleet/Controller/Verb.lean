import SwitchFleet.Controller.Error
import SwitchFleet.Program

/-!
# Verbs on resources

What the operator does with the resources of one kind: read one, replace its finalizers, patch its
status, and apply one as a whole.

* `Verb`: the verbs, with `Verb.Kind` for the verbs without what they are about.
* `Verb.Task`: a program over these verbs that may fail.
* `ensureFinalizer`, `ensureNoFinalizer`: a finalizer added or removed, if need be.
-/

namespace SwitchFleet

/-- What the operator does with resources. -/
inductive Verb (Spec Status : Type) where
  | get (name : String)
  /-- Replace all finalizers. -/
  | patchFinalizers (name : String) (finalizers : List String)
  /-- Change the status by a merge patch. -/
  | patchStatus (name : String) (patch : Json)
  /-- Create a resource, or replace it. -/
  | apply (o : Object Spec Status)

/-- The verbs without what they are about. -/
inductive Verb.Kind where
  | get
  | patchFinalizers
  | patchStatus
  | apply
deriving DecidableEq

def Verb.Kind.name : Verb.Kind → String
  | get => "get"
  | patchFinalizers => "patch_finalizers"
  | patchStatus => "patch_status"
  | apply => "apply"

namespace Verb

variable {Spec Status : Type}

/-- A verb without what it is about. -/
def kind : Verb Spec Status → Kind
  | get _ => .get
  | patchFinalizers .. => .patchFinalizers
  | patchStatus .. => .patchStatus
  | apply _ => .apply

abbrev Answer : Verb Spec Status → Type
  | get _ => Option (Object Spec Status)
  | _ => Unit

/-- What a verb gives. -/
abbrev Outcome (v : Verb Spec Status) : Type := Except ControllerError v.Answer

/-- A program over verbs that may fail. -/
abbrev Task (Spec Status α : Type) : Type :=
  ExceptT ControllerError (Program (Verb Spec Status) Outcome) α

def ask (v : Verb Spec Status) : Task Spec Status v.Answer := ExceptT.mk (Program.query v)

end Verb

variable {Spec Status : Type}

def Object.name (o : Object Spec Status) : Except ControllerError String :=
  match o.metadata.name with
  | some name => .ok name
  | none => .error (.missingField "metadata.name")

/-- Adds a finalizer to a resource that does not have it. The outcome says whether it was added. -/
def ensureFinalizer (o : Object Spec Status) (finalizer : String) :
    Verb.Task Spec Status Bool := do
  let finalizers := o.metadata.finalizerList
  if finalizers.contains finalizer then return false
  let name ← o.name
  Verb.ask (.patchFinalizers name (finalizers ++ [finalizer]))
  return true

/-- Removes a finalizer from a resource that has it. The outcome says whether it was removed. -/
def ensureNoFinalizer (o : Object Spec Status) (finalizer : String) :
    Verb.Task Spec Status Bool := do
  let finalizers := o.metadata.finalizerList
  if !finalizers.contains finalizer then return false
  let name ← o.name
  Verb.ask (.patchFinalizers name (finalizers.filter (· != finalizer)))
  return true

end SwitchFleet
