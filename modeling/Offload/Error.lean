import Offload.Domain
import Offload.Text.Hex

/-
  What can go wrong.

  A compute domain reports a status code. Dispatchers
  turn codes into the closed set `DispatchError`; all
  other failures are `Error`s.

  Key definitions include:
    * `Status`
    * `DispatchError`
    * `DispatchError.ofStatus`
    * `FileFault`
    * `SystemFault`
    * `Error`
    * `Error.message`
-/

namespace Offload

------------------------------------------------------------
-- Status Codes
------------------------------------------------------------

/-
  A status as a domain reports it: zero for success, else a
  POSIX error number.
-/
abbrev Status := Int32

/- Failures of a compute domain. -/
inductive DispatchError where
  | queueFull
  | messageLost
  | malformedJob
  | operatorException
  | missingArtifact
  | timeout
  | driverHandle
  | unsupported
  | invalidArgument
  | unknown
deriving DecidableEq

namespace DispatchError

/- All failures; the one for unlisted codes comes last. -/
def all : List DispatchError :=
  [.queueFull, .messageLost, .malformedJob,
   .operatorException, .missingArtifact, .timeout,
   .driverHandle, .unsupported, .invalidArgument, .unknown]

/- The code a domain reports for a failure. -/
def status : DispatchError → Status
  | .queueFull => 11
  | .messageLost => 74
  | .malformedJob => 56
  | .operatorException => 125
  | .missingArtifact => 2
  | .timeout => 110
  | .driverHandle => 77
  | .unsupported => 38
  | .invalidArgument => 22
  | .unknown => 5

/-
  The failure a code stands for. Codes outside the list are
  `unknown`.
-/
def ofStatus
    (code : Status) : DispatchError :=
  (all.find? fun e => e.status == code).getD .unknown

/- The short label used in metrics. -/
def label : DispatchError → String
  | .queueFull => "queue_full"
  | .messageLost => "message_lost"
  | .malformedJob => "malformed_job"
  | .operatorException => "operator_exception"
  | .missingArtifact => "missing_artifact"
  | .timeout => "timeout"
  | .driverHandle => "driver_handle"
  | .unsupported => "unsupported"
  | .invalidArgument => "invalid_argument"
  | .unknown => "unknown"

/- The failure with a label. -/
def ofLabel?
    (s : String) : Option DispatchError :=
  all.find? fun e => e.label == s

/- The text of a failure. -/
def message : DispatchError → String
  | .queueFull => "queue is full"
  | .messageLost => "message lost in transport or driver"
  | .malformedJob => "malformed job"
  | .operatorException => "operator raised an exception"
  | .missingArtifact => "missing model or library artifact"
  | .timeout => "timed out waiting for completion"
  | .driverHandle => "driver handle error"
  | .unsupported => "operation not supported"
  | .invalidArgument => "invalid argument"
  | .unknown => "unknown error"

end DispatchError

------------------------------------------------------------
-- Errors
------------------------------------------------------------

/- Why a file could not be read or written. -/
inductive FileFault where
  | notFound
  | alreadyThere
  | notDirectory
  | isDirectory
  | nameTooLong
  | other (text : String)
deriving DecidableEq

/- The operating system's text for a file fault. -/
def FileFault.message : FileFault → String
  | .notFound => "No such file or directory (os error 2)"
  | .alreadyThere => "File exists (os error 17)"
  | .notDirectory => "Not a directory (os error 20)"
  | .isDirectory => "Is a directory (os error 21)"
  | .nameTooLong => "File name too long (os error 36)"
  | .other text => text

/- Why the system refused a call. -/
inductive SystemFault where
  | invalidArgument
deriving DecidableEq

/- The operating system's text for a refused call. -/
def SystemFault.message : SystemFault → String
  | .invalidArgument => "Invalid argument (os error 22)"

/-
  Failures of memory, configuration, lifecycle, dispatch,
  files and the system. A text says what went wrong in the
  caller's terms. A number that overflows a word stops the
  program, so that what comes after it is of no account.
-/
inductive Error where
  | allocationFailed
      (target : MemoryTarget)
      (size : Nat)
      (reason : String)
  | mappingFailed (reason : String)
  | attachFailed (id : Nat) (reason : String)
  | invalidArgument (reason : String)
  | configMismatch (reason : String)
  | poolInactive
  | invalidState (reason : String)
  | dispatch (cause : DispatchError)
  | file (cause : FileFault)
  | system (cause : SystemFault)
  | overflow
deriving DecidableEq

namespace Error

/- The text of an error. -/
def message : Error → String
  | .allocationFailed target size reason =>
    "allocation of " ++ toString size ++ " bytes on "
      ++ target.name ++ " failed: " ++ reason
  | .mappingFailed reason => "mapping failed: " ++ reason
  | .attachFailed id reason =>
    "attach to buffer " ++ Hex.address id
      ++ " failed: " ++ reason
  | .invalidArgument reason => "invalid argument: " ++ reason
  | .configMismatch reason =>
    "configuration mismatch: " ++ reason
  | .poolInactive => "buffer pool is not active"
  | .invalidState reason => "invalid state: " ++ reason
  | .dispatch cause => "dispatch failed: " ++ cause.message
  | .file cause => "I/O error: " ++ cause.message
  | .system cause => "system error: " ++ cause.message
  | .overflow => "arithmetic overflow"

/- The kind of an error. -/
def kind : Error → String
  | .allocationFailed .. => "AllocationFailed"
  | .mappingFailed _ => "MappingFailed"
  | .attachFailed .. => "AttachFailed"
  | .invalidArgument _ => "InvalidArgument"
  | .configMismatch _ => "ConfigMismatch"
  | .poolInactive => "PoolInactive"
  | .invalidState _ => "InvalidState"
  | .dispatch _ => "Dispatch"
  | .file _ => "Io"
  | .system _ => "System"
  | .overflow => "Panic"

/- The domain failure an error carries, if any. -/
def dispatch? : Error → Option DispatchError
  | .dispatch cause => some cause
  | _ => none

end Error

end Offload
