import SwitchFleet.Client.Error
import SwitchFleet.CommandLine.Arguments
import SwitchFleet.Program

/-!
# Commands

A command calls the agent once and shows its report. It is a program that asks for lines to be written
and for operations to be performed, so that nothing is assumed about the output and the agent.

* `CommandLine.perform`: the program of a command.
* `CommandError`: why a command failed.
* `CommandError.chain`: the texts about an error, from the command down to the cause.
-/

namespace SwitchFleet.CommandLine

/-- What a command asks for. -/
inductive Query where
  /-- A line of output. The answer says whether it was accepted. -/
  | write (line : String)
  | call (op : Operation)

abbrev Query.Answer : Query → Type
  | write _ => Bool
  | call op => Except ClientError op.Report

/-- A program of a command. -/
abbrev Run (α : Type) : Type := Program Query Query.Answer α

/-! ## Errors -/

/-- Why there is no report to show. -/
inductive CallFault where
  | client (e : ClientError)
  /-- The agent reported a failure, which has been written. -/
  | reported (code : UInt32)
  /-- The agent reported a failure, which could not be written. -/
  | unwritten
deriving DecidableEq

/-- Why a command failed. -/
inductive CommandError where
  | status (e : LineStatus.Invalid)
  | outputClosed
  /-- A line of a table cannot be made. The program does not get over this. -/
  | tooWide
  /-- There is no report to show. -/
  | call (k : Operation.Kind) (fault : CallFault)
deriving DecidableEq

/-- The text about output that is not accepted. -/
def outputClosedText : String := "output closed"

/-- The text about a line that cannot be made. -/
def tooWideText : String := "Formatting argument out of range"

def CallFault.text : CallFault → String
  | client e => e.message
  | reported code => "agent returned status " ++ toString code
  | unwritten => outputClosedText

/-- The text about an operation without a report. -/
def failureText : Operation.Kind → String
  | .deviceInfo => "failed to get device info"
  | .interfaces => "failed to list interfaces"
  | .setAdminStatus => "failed to set interface admin status"
  | .interface => "failed to get interface info"
  | .peer => "failed to get interface neighbor info"
  | .ports => "failed to list ports"

namespace CommandError

/-- The texts about an error, from the command down to the cause. -/
def chain : CommandError → List String
  | status e => [e.message]
  | outputClosed => [outputClosedText]
  | tooWide => [tooWideText]
  | call k fault => [failureText k, fault.text]

/-- An error as one text. -/
def message (e : CommandError) : String := ": ".intercalate e.chain

/-- An error as it is shown when the program ends: the causes stand below the first text. -/
def report (e : CommandError) : String :=
  match e.chain with
  | [] => "Error: "
  | [text] => "Error: " ++ text
  | text :: causes => "Error: " ++ text ++ "\n\nCaused by:" ++
      String.join (causes.map fun cause => "\n    " ++ cause)

end CommandError

/-- A program of a command that may fail. -/
abbrev Task (α : Type) : Type := ExceptT CommandError Run α

/-! ## Programs -/

def ask (q : Query) : Run q.Answer := Program.query q

/-- Writes a line. -/
def write (line : String) : Task Unit := do
  if ← ExceptT.lift (ask (.write line)) then return () else throw .outputClosed

/-- Writes lines, up to the first one that cannot be made or is not accepted. -/
def writeAll : List (Option String) → Task Unit
  | [] => return ()
  | none :: _ => throw .tooWide
  | some line :: lines => do
    write line
    writeAll lines

/-- The report on an operation. A failure that the agent reported is written. -/
def report (op : Operation) : Task op.Report := do
  match ← ExceptT.lift (ask (.call op)) with
  | .ok x => return x
  | .error (.remote s) =>
    let written ← ExceptT.lift (ask (.write s.errorLine))
    throw (.call op.kind (if written then .reported s.code else .unwritten))
  | .error e => throw (.call op.kind (.client e))

/-- The line above a report. -/
def introduction : Operation.Kind → String
  | .deviceInfo => "Device Info"
  | .interfaces => "Interfaces"
  | .setAdminStatus => "Interface admin status updated successfully"
  | .interface => "Interface Info"
  | .peer => "Interface Neighbor Info"
  | .ports => "Ports"

/-- Performs an operation and shows its report. -/
def showReport (format : Format) (op : Operation) : Task Unit := do
  let x ← report op
  writeAll ((op.kind.sheet x).lines format (introduction op.kind))

/-- The line before the admin status of an interface is changed. -/
def announcement (name : String) (status : LineStatus) : String :=
  "Setting interface admin status to: " ++ status.text ++ " for interface: " ++ name

/-- Changes the admin status of an interface. The change is announced first. -/
def setStatus (format : Format) (name text : String) : Task Unit :=
  match LineStatus.parse text with
  | .error e => throw (.status e)
  | .ok status => do
    write (announcement name status)
    showReport format (.setAdminStatus name status)

/-- The program of a command. -/
def perform (format : Format) : Command → Task Unit
  | .deviceInfo => showReport format .deviceInfo
  | .interface name => showReport format (.interface name)
  | .peer name => showReport format (.peer name)
  | .interfaces => showReport format .interfaces
  | .ports => showReport format .ports
  | .setStatus name text => setStatus format name text

end SwitchFleet.CommandLine
