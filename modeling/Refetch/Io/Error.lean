/-!
# Failures of input and output

A failure is either a refusal by the operating system, known by its number, or a failure of some
other reader or writer, which carries a kind and a text.
-/

namespace Refetch

/-- What sort of failure it is. -/
inductive IoKind
  | notFound | permissionDenied | connectionRefused | connectionReset | hostUnreachable
  | networkUnreachable | connectionAborted | notConnected | addrInUse | addrNotAvailable
  | networkDown | brokenPipe | alreadyExists | wouldBlock | notADirectory | isADirectory
  | directoryNotEmpty | readOnlyFilesystem | staleNetworkFileHandle | invalidInput | invalidData
  | timedOut | writeZero | storageFull | notSeekable | quotaExceeded | fileTooLarge | resourceBusy
  | executableFileBusy | deadlock | crossesDevices | tooManyLinks | invalidFilename
  | argumentListTooLong | interrupted | unsupported | unexpectedEof | outOfMemory | other
  deriving Repr, DecidableEq

namespace IoKind

def all : List IoKind :=
  [notFound, permissionDenied, connectionRefused, connectionReset, hostUnreachable,
   networkUnreachable, connectionAborted, notConnected, addrInUse, addrNotAvailable, networkDown,
   brokenPipe, alreadyExists, wouldBlock, notADirectory, isADirectory, directoryNotEmpty,
   readOnlyFilesystem, staleNetworkFileHandle, invalidInput, invalidData, timedOut, writeZero,
   storageFull, notSeekable, quotaExceeded, fileTooLarge, resourceBusy, executableFileBusy,
   deadlock, crossesDevices, tooManyLinks, invalidFilename, argumentListTooLong, interrupted,
   unsupported, unexpectedEof, outOfMemory, other]

def name : IoKind → String
  | notFound => "NotFound"
  | permissionDenied => "PermissionDenied"
  | connectionRefused => "ConnectionRefused"
  | connectionReset => "ConnectionReset"
  | hostUnreachable => "HostUnreachable"
  | networkUnreachable => "NetworkUnreachable"
  | connectionAborted => "ConnectionAborted"
  | notConnected => "NotConnected"
  | addrInUse => "AddrInUse"
  | addrNotAvailable => "AddrNotAvailable"
  | networkDown => "NetworkDown"
  | brokenPipe => "BrokenPipe"
  | alreadyExists => "AlreadyExists"
  | wouldBlock => "WouldBlock"
  | notADirectory => "NotADirectory"
  | isADirectory => "IsADirectory"
  | directoryNotEmpty => "DirectoryNotEmpty"
  | readOnlyFilesystem => "ReadOnlyFilesystem"
  | staleNetworkFileHandle => "StaleNetworkFileHandle"
  | invalidInput => "InvalidInput"
  | invalidData => "InvalidData"
  | timedOut => "TimedOut"
  | writeZero => "WriteZero"
  | storageFull => "StorageFull"
  | notSeekable => "NotSeekable"
  | quotaExceeded => "QuotaExceeded"
  | fileTooLarge => "FileTooLarge"
  | resourceBusy => "ResourceBusy"
  | executableFileBusy => "ExecutableFileBusy"
  | deadlock => "Deadlock"
  | crossesDevices => "CrossesDevices"
  | tooManyLinks => "TooManyLinks"
  | invalidFilename => "InvalidFilename"
  | argumentListTooLong => "ArgumentListTooLong"
  | interrupted => "Interrupted"
  | unsupported => "Unsupported"
  | unexpectedEof => "UnexpectedEof"
  | outOfMemory => "OutOfMemory"
  | other => "Other"

/-- The kind of this name; an unknown name is `other`. -/
def ofName (s : String) : IoKind := (all.find? (·.name == s)).getD .other

end IoKind

/-- Numbered refusals of the operating system. -/
inductive Errno
  | noEntry | busy | exists | notDirectory | isDirectory | invalid | nameTooLong | notEmpty
  deriving Repr, DecidableEq

namespace Errno

def number : Errno → Nat
  | noEntry => 2
  | busy => 16
  | .exists => 17
  | notDirectory => 20
  | isDirectory => 21
  | invalid => 22
  | nameTooLong => 36
  | notEmpty => 39

def kind : Errno → IoKind
  | noEntry => .notFound
  | busy => .resourceBusy
  | .exists => .alreadyExists
  | notDirectory => .notADirectory
  | isDirectory => .isADirectory
  | invalid => .invalidInput
  | nameTooLong => .invalidFilename
  | notEmpty => .directoryNotEmpty

def text : Errno → String
  | noEntry => "No such file or directory"
  | busy => "Device or resource busy"
  | .exists => "File exists"
  | notDirectory => "Not a directory"
  | isDirectory => "Is a directory"
  | invalid => "Invalid argument"
  | nameTooLong => "File name too long"
  | notEmpty => "Directory not empty"

end Errno

inductive IoError
  | os (errno : Errno)
  | custom (kind : IoKind) (text : String)
  deriving Repr, DecidableEq

namespace IoError

def kind : IoError → IoKind
  | os e => e.kind
  | custom k _ => k

def message : IoError → String
  | os e => e.text ++ " (os error " ++ toString e.number ++ ")"
  | custom _ t => t

/-- The reader or writer was only interrupted, and the call may be repeated. -/
def isInterrupted (e : IoError) : Bool := e.kind == .interrupted

end IoError

end Refetch
