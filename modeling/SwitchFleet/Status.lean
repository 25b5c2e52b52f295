import SwitchFleet.Json.Codec

/-!
# Statuses

Every reply about a device carries a status: a code and a message. Code zero means success.

* `Status`: a code with its message.
* `Status.Code`: the codes in use.
* `Status.describe`: the status as a text.
* `Status.within`: the status of a step within a larger operation.
-/

namespace SwitchFleet

/-- The outcome of a device operation. -/
structure Status where
  code : UInt32
  message : String
deriving DecidableEq

namespace Status

/-! ## Codes -/

namespace Code

/-- The operation succeeded. -/
def success : UInt32 := 0

/-- A failure on the side of the client. -/
def clientError : UInt32 := 1

/-- A failure on the side of the server. -/
def serverError : UInt32 := 2

/-- Malformed input, or a store that cannot be reached. -/
def badRequest : UInt32 := 101

/-- A key or a field that is needed is missing. -/
def notFound : UInt32 := 201

/-- Something exists already. -/
def alreadyExists : UInt32 := 202

/-- A hash could not be written. -/
def writeFailed : UInt32 := 203

/-- A hash could not be read. -/
def readFailed : UInt32 := 204

/-- A key could not be checked or read back. -/
def keyCheckFailed : UInt32 := 205

def all : List UInt32 :=
  [success, clientError, serverError, badRequest, notFound, alreadyExists, writeFailed,
    readFailed, keyCheckFailed]

end Code

/-! ## Statuses of one kind -/

/-- The status of success. -/
def ok : Status := ⟨Code.success, "Success"⟩

/-- Malformed input, or a store that cannot be reached. -/
def badRequest (message : String) : Status := ⟨Code.badRequest, message⟩

/-- A key or a field that is needed is missing. -/
def notFound (message : String) : Status := ⟨Code.notFound, message⟩

/-- A failure on the side of the server. -/
def serverError (message : String) : Status := ⟨Code.serverError, message⟩

def isOk (s : Status) : Bool := s.code == Code.success

def isNotFound (s : Status) : Bool := s.code == Code.notFound

/-- The status of a step within a larger operation: the same code, with the operation named in
front of the message. -/
def within (operation : String) (s : Status) : Status :=
  ⟨s.code, operation ++ ": " ++ s.message⟩

/-- A status as a text. The code of a success is left out. -/
def describe (s : Status) : String :=
  if s.isOk then s.message else "Code: " ++ toString s.code ++ ", Message: " ++ s.message

/-- A status as JSON. The message may be missing. -/
def codec : Codec Status :=
  (Record.of Status.mk
    |>.required "code" code .word32
    |>.defaulted "message" message .text "").codec

end Status

end SwitchFleet
