/-
This file describes the faults that the operating system reports, by kind and by number.
-/

import LingerChain.Text.Quoted

namespace LingerChain

/-- A kind is what a fault amounts to, whatever its number. -/
inductive FaultKind where
  | notFound
  | permissionDenied
  | connectionRefused
  | connectionReset
  | hostUnreachable
  | networkUnreachable
  | connectionAborted
  | notConnected
  | addrInUse
  | addrNotAvailable
  | networkDown
  | brokenPipe
  | alreadyExists
  | wouldBlock
  | notADirectory
  | isADirectory
  | directoryNotEmpty
  | readOnlyFilesystem
  | filesystemLoop
  | staleNetworkFileHandle
  | invalidInput
  | invalidData
  | timedOut
  | writeZero
  | storageFull
  | notSeekable
  | quotaExceeded
  | fileTooLarge
  | resourceBusy
  | executableFileBusy
  | deadlock
  | crossesDevices
  | tooManyLinks
  | invalidFilename
  | argumentListTooLong
  | interrupted
  | unsupported
  | unexpectedEof
  | outOfMemory
  | inProgress
  | inputOutputError
  | tooManyOpenFiles
  | other
  | uncategorized
  deriving DecidableEq, Repr

namespace FaultKind

/-- The table pairs each kind with its name and its description. -/
def describe : FaultKind → String × String
  | notFound => ("NotFound", "entity not found")
  | permissionDenied => ("PermissionDenied", "permission denied")
  | connectionRefused => ("ConnectionRefused", "connection refused")
  | connectionReset => ("ConnectionReset", "connection reset")
  | hostUnreachable => ("HostUnreachable", "host unreachable")
  | networkUnreachable => ("NetworkUnreachable", "network unreachable")
  | connectionAborted => ("ConnectionAborted", "connection aborted")
  | notConnected => ("NotConnected", "not connected")
  | addrInUse => ("AddrInUse", "address in use")
  | addrNotAvailable => ("AddrNotAvailable", "address not available")
  | networkDown => ("NetworkDown", "network down")
  | brokenPipe => ("BrokenPipe", "broken pipe")
  | alreadyExists => ("AlreadyExists", "entity already exists")
  | wouldBlock => ("WouldBlock", "operation would block")
  | notADirectory => ("NotADirectory", "not a directory")
  | isADirectory => ("IsADirectory", "is a directory")
  | directoryNotEmpty => ("DirectoryNotEmpty", "directory not empty")
  | readOnlyFilesystem => ("ReadOnlyFilesystem", "read-only filesystem or storage medium")
  | filesystemLoop => ("FilesystemLoop", "filesystem loop or indirection limit (e.g. symlink loop)")
  | staleNetworkFileHandle => ("StaleNetworkFileHandle", "stale network file handle")
  | invalidInput => ("InvalidInput", "invalid input parameter")
  | invalidData => ("InvalidData", "invalid data")
  | timedOut => ("TimedOut", "timed out")
  | writeZero => ("WriteZero", "write zero")
  | storageFull => ("StorageFull", "no storage space")
  | notSeekable => ("NotSeekable", "seek on unseekable file")
  | quotaExceeded => ("QuotaExceeded", "quota exceeded")
  | fileTooLarge => ("FileTooLarge", "file too large")
  | resourceBusy => ("ResourceBusy", "resource busy")
  | executableFileBusy => ("ExecutableFileBusy", "executable file busy")
  | deadlock => ("Deadlock", "deadlock")
  | crossesDevices => ("CrossesDevices", "cross-device link or rename")
  | tooManyLinks => ("TooManyLinks", "too many links")
  | invalidFilename => ("InvalidFilename", "invalid filename")
  | argumentListTooLong => ("ArgumentListTooLong", "argument list too long")
  | interrupted => ("Interrupted", "operation interrupted")
  | unsupported => ("Unsupported", "unsupported")
  | unexpectedEof => ("UnexpectedEof", "unexpected end of file")
  | outOfMemory => ("OutOfMemory", "out of memory")
  | inProgress => ("InProgress", "in progress")
  | inputOutputError => ("InputOutputError", "input/output error")
  | tooManyOpenFiles => ("TooManyOpenFiles", "too many open files")
  | other => ("Other", "other error")
  | uncategorized => ("Uncategorized", "uncategorized error")

def name (kind : FaultKind) : String := kind.describe.1

def description (kind : FaultKind) : String := kind.describe.2

/-- Numbers without an entry are of no kind in particular. -/
def ofNumber : Int → FaultKind
  | 1 => permissionDenied
  | 2 => notFound
  | 4 => interrupted
  | 5 => inputOutputError
  | 7 => argumentListTooLong
  | 11 => wouldBlock
  | 12 => outOfMemory
  | 13 => permissionDenied
  | 16 => resourceBusy
  | 17 => alreadyExists
  | 18 => crossesDevices
  | 20 => notADirectory
  | 21 => isADirectory
  | 22 => invalidInput
  | 23 => tooManyOpenFiles
  | 24 => tooManyOpenFiles
  | 26 => executableFileBusy
  | 27 => fileTooLarge
  | 28 => storageFull
  | 29 => notSeekable
  | 30 => readOnlyFilesystem
  | 31 => tooManyLinks
  | 32 => brokenPipe
  | 35 => deadlock
  | 36 => invalidFilename
  | 38 => unsupported
  | 39 => directoryNotEmpty
  | 40 => filesystemLoop
  | 95 => unsupported
  | 98 => addrInUse
  | 99 => addrNotAvailable
  | 100 => networkDown
  | 101 => networkUnreachable
  | 103 => connectionAborted
  | 104 => connectionReset
  | 107 => notConnected
  | 110 => timedOut
  | 111 => connectionRefused
  | 113 => hostUnreachable
  | 115 => inProgress
  | 116 => staleNetworkFileHandle
  | 122 => quotaExceeded
  | _ => uncategorized

end FaultKind

/-- A fault carries a number of the operating system, a kind alone, or a kind with a message.
A message is made up for the occasion or is fixed. -/
inductive SystemFault where
  | number (code : Int)
  | bare (kind : FaultKind)
  | custom (kind : FaultKind) (message : String)
  | fixed (kind : FaultKind) (message : String)
  deriving DecidableEq, Repr

namespace SystemFault

def numberTexts : List String := [
  "Success", "Operation not permitted", "No such file or directory", "No such process",
  "Interrupted system call", "Input/output error", "No such device or address",
  "Argument list too long", "Exec format error", "Bad file descriptor", "No child processes",
  "Resource temporarily unavailable", "Cannot allocate memory", "Permission denied",
  "Bad address", "Block device required", "Device or resource busy", "File exists",
  "Invalid cross-device link", "No such device", "Not a directory", "Is a directory",
  "Invalid argument", "Too many open files in system", "Too many open files",
  "Inappropriate ioctl for device", "Text file busy", "File too large", "No space left on device",
  "Illegal seek", "Read-only file system", "Too many links", "Broken pipe",
  "Numerical argument out of domain", "Numerical result out of range",
  "Resource deadlock avoided", "File name too long", "No locks available",
  "Function not implemented", "Directory not empty", "Too many levels of symbolic links",
  "Unknown error 41", "No message of desired type", "Identifier removed",
  "Channel number out of range", "Level 2 not synchronized", "Level 3 halted", "Level 3 reset",
  "Link number out of range", "Protocol driver not attached", "No CSI structure available",
  "Level 2 halted", "Invalid exchange", "Invalid request descriptor", "Exchange full", "No anode",
  "Invalid request code", "Invalid slot", "Unknown error 58", "Bad font file format",
  "Device not a stream", "No data available", "Timer expired", "Out of streams resources",
  "Machine is not on the network", "Package not installed", "Object is remote",
  "Link has been severed", "Advertise error", "Srmount error", "Communication error on send",
  "Protocol error", "Multihop attempted", "RFS specific error", "Bad message",
  "Value too large for defined data type", "Name not unique on network",
  "File descriptor in bad state", "Remote address changed",
  "Can not access a needed shared library", "Accessing a corrupted shared library",
  ".lib section in a.out corrupted", "Attempting to link in too many shared libraries",
  "Cannot exec a shared library directly", "Invalid or incomplete multibyte or wide character",
  "Interrupted system call should be restarted", "Streams pipe error", "Too many users",
  "Socket operation on non-socket", "Destination address required", "Message too long",
  "Protocol wrong type for socket", "Protocol not available", "Protocol not supported",
  "Socket type not supported", "Operation not supported", "Protocol family not supported",
  "Address family not supported by protocol", "Address already in use",
  "Cannot assign requested address", "Network is down", "Network is unreachable",
  "Network dropped connection on reset", "Software caused connection abort",
  "Connection reset by peer", "No buffer space available",
  "Transport endpoint is already connected", "Transport endpoint is not connected",
  "Cannot send after transport endpoint shutdown", "Too many references: cannot splice",
  "Connection timed out", "Connection refused", "Host is down", "No route to host",
  "Operation already in progress", "Operation now in progress", "Stale file handle",
  "Structure needs cleaning", "Not a XENIX named type file", "No XENIX semaphores available",
  "Is a named type file", "Remote I/O error", "Disk quota exceeded", "No medium found",
  "Wrong medium type", "Operation canceled", "Required key not available", "Key has expired",
  "Key has been revoked", "Key was rejected by service", "Owner died", "State not recoverable",
  "Operation not possible due to RF-kill", "Memory page has hardware error"]

/-- A number beyond the table is shown as it is. -/
def numberText (code : Int) : String :=
  match code with
  | .ofNat index => numberTexts.getD index ("Unknown error " ++ toString code)
  | .negSucc _ => "Unknown error " ++ toString code

def message : SystemFault → String
  | number code => numberText code ++ " (os error " ++ toString code ++ ")"
  | bare kind => kind.description
  | custom _ message => message
  | fixed _ message => message

/-- The record form names the parts of a fault. -/
def text : SystemFault → String
  | number code =>
      "Os \x7b code: " ++ toString code ++ ", kind: " ++ (FaultKind.ofNumber code).name ++
        ", message: " ++ quote (numberText code) ++ " \x7d"
  | bare kind => "Kind(" ++ kind.name ++ ")"
  | custom kind message =>
      "Custom \x7b kind: " ++ kind.name ++ ", error: " ++ quote message ++ " \x7d"
  | fixed kind message =>
      "Error \x7b kind: " ++ kind.name ++ ", message: " ++ quote message ++ " \x7d"

/-- A string with a zero byte cannot be handed to the operating system. -/
def zeroByte : SystemFault := fixed .invalidInput "nul byte found in provided data"

end SystemFault

end LingerChain
