namespace DebugGateway

inductive IoKind where
  | notFound
  | permissionDenied
  | connectionRefused
  | connectionReset
  | connectionAborted
  | notConnected
  | addrInUse
  | addrNotAvailable
  | brokenPipe
  | alreadyExists
  | wouldBlock
  | notADirectory
  | isADirectory
  | filesystemLoop
  | invalidFilename
  | invalidInput
  | timedOut
  | writeZero
  | interrupted
  | unexpectedEnd
  | other
deriving DecidableEq, Repr

namespace IoKind

def message : IoKind → String
  | notFound => "entity not found"
  | permissionDenied => "permission denied"
  | connectionRefused => "connection refused"
  | connectionReset => "connection reset"
  | connectionAborted => "connection aborted"
  | notConnected => "not connected"
  | addrInUse => "address in use"
  | addrNotAvailable => "address not available"
  | brokenPipe => "broken pipe"
  | alreadyExists => "entity already exists"
  | wouldBlock => "operation would block"
  | notADirectory => "not a directory"
  | isADirectory => "is a directory"
  | filesystemLoop => "filesystem loop or indirection limit (e.g. symlink loop)"
  | invalidFilename => "invalid filename"
  | invalidInput => "invalid input parameter"
  | timedOut => "timed out"
  | writeZero => "write zero"
  | interrupted => "operation interrupted"
  | unexpectedEnd => "unexpected end of file"
  | other => "other error"

end IoKind

inductive Errno where
  | noEntry
  | noDevice
  | accessDenied
  | exists
  | notDirectory
  | isDirectory
  | invalidArgument
  | nameTooLong
  | linkLoop
  | wrongProtocol
  | addressInUse
  | addressNotAvailable
  | connectionRefused
deriving DecidableEq, Repr

namespace Errno

def number : Errno → Nat
  | noEntry => 2
  | noDevice => 6
  | accessDenied => 13
  | «exists» => 17
  | notDirectory => 20
  | isDirectory => 21
  | invalidArgument => 22
  | nameTooLong => 36
  | linkLoop => 40
  | wrongProtocol => 91
  | addressInUse => 98
  | addressNotAvailable => 99
  | connectionRefused => 111

def text : Errno → String
  | noEntry => "No such file or directory"
  | noDevice => "No such device or address"
  | accessDenied => "Permission denied"
  | «exists» => "File exists"
  | notDirectory => "Not a directory"
  | isDirectory => "Is a directory"
  | invalidArgument => "Invalid argument"
  | nameTooLong => "File name too long"
  | linkLoop => "Too many levels of symbolic links"
  | wrongProtocol => "Protocol wrong type for socket"
  | addressInUse => "Address already in use"
  | addressNotAvailable => "Cannot assign requested address"
  | connectionRefused => "Connection refused"

def kind : Errno → IoKind
  | noEntry => .notFound
  | noDevice => .other
  | accessDenied => .permissionDenied
  | «exists» => .alreadyExists
  | notDirectory => .notADirectory
  | isDirectory => .isADirectory
  | invalidArgument => .invalidInput
  | nameTooLong => .invalidFilename
  | linkLoop => .filesystemLoop
  | wrongProtocol => .other
  | addressInUse => .addrInUse
  | addressNotAvailable => .addrNotAvailable
  | connectionRefused => .connectionRefused

end Errno

inductive IoError where
  | bare (kind : IoKind)
  | custom (kind : IoKind) (text : String)
  | system (errno : Errno)
deriving DecidableEq, Repr

namespace IoError

def kind : IoError → IoKind
  | bare kind => kind
  | custom kind _ => kind
  | system errno => errno.kind

def message : IoError → String
  | bare kind => kind.message
  | custom _ text => text
  | system errno => s!"{errno.text} (os error {errno.number})"

end IoError

inductive ExitStatus where
  | exited (code : Nat)
  | signalled (signal : Nat)
deriving DecidableEq, Repr

namespace ExitStatus

def signalName? : Nat → Option String
  | 1 => some "SIGHUP"
  | 2 => some "SIGINT"
  | 3 => some "SIGQUIT"
  | 4 => some "SIGILL"
  | 5 => some "SIGTRAP"
  | 6 => some "SIGABRT"
  | 7 => some "SIGBUS"
  | 8 => some "SIGFPE"
  | 9 => some "SIGKILL"
  | 10 => some "SIGUSR1"
  | 11 => some "SIGSEGV"
  | 12 => some "SIGUSR2"
  | 13 => some "SIGPIPE"
  | 14 => some "SIGALRM"
  | 15 => some "SIGTERM"
  | 16 => some "SIGSTKFLT"
  | 24 => some "SIGXCPU"
  | 25 => some "SIGXFSZ"
  | 26 => some "SIGVTALRM"
  | 27 => some "SIGPROF"
  | 29 => some "SIGIO"
  | 30 => some "SIGPWR"
  | 31 => some "SIGSYS"
  | _ => none

def message : ExitStatus → String
  | exited code => s!"exit status: {code}"
  | signalled n =>
    match signalName? n with
    | some name => s!"signal: {n} ({name})"
    | none => s!"signal: {n}"

end ExitStatus

end DebugGateway
