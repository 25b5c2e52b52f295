/-!
# Network links

The kernel knows the hardware address of every network link by the name of the link.

* `LinkError`: why a link could not be looked up.
* `LinkReply`: the address of a link, if it has one.
-/

namespace SwitchFleet

/-- Why a link could not be looked up. -/
inductive LinkError where
  | missing (name : String)
  /-- The kernel refused with a number of its own. -/
  | system (number : Nat)
  | malformed
  /-- The kernel ended its answer without a word about the link. -/
  | noAnswer (name : String)
deriving DecidableEq

namespace LinkError

/-- What the kernel's numbers stand for. -/
def systemText (number : Nat) : String :=
  match number with
  | 1 => "Operation not permitted"
  | 2 => "No such file or directory"
  | 4 => "Interrupted system call"
  | 5 => "Input/output error"
  | 11 => "Resource temporarily unavailable"
  | 12 => "Cannot allocate memory"
  | 13 => "Permission denied"
  | 16 => "Device or resource busy"
  | 17 => "File exists"
  | 19 => "No such device"
  | 22 => "Invalid argument"
  | 95 => "Operation not supported"
  | 105 => "No buffer space available"
  | 110 => "Connection timed out"
  | 111 => "Connection refused"
  | n => "Unknown error " ++ toString n

def message : LinkError → String
  | missing name => "link " ++ name ++ " not found"
  | system number => systemText number ++ " (os error " ++ toString number ++ ")"
  | malformed => "failed to parse netlink message"
  | noAnswer name => "no netlink reply for link " ++ name

end LinkError

/-- The hardware address of a link, if it has one. -/
abbrev LinkReply : Type := Except LinkError (Option String)

end SwitchFleet
