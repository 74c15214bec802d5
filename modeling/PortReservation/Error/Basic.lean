import PortReservation.Error.System

/-!
# Errors

What can go wrong in a reservation, each cause with its text.
-/

namespace PortReservation

/-- Why an operation on a file or a socket failed. -/
inductive IoError where
  /-- The system refused, with an error number. -/
  | system (number : Int)
  /-- A reason given as a text. -/
  | other (reason : Text)
  /-- A path holds a character that ends names. -/
  | nulInPath
  deriving DecidableEq

/-- The text of a failed operation. -/
def IoError.message : IoError → Text
  | .system n => SystemError.text n ++ " (os error ".toList ++ Decimal.ofInt n ++ [')']
  | .other reason => reason
  | .nulInPath => "file name contained an unexpected NUL byte".toList

/-- Why a reservation, a lock or a configuration was refused. -/
inductive Error where
  /-- A file could not be opened, read or written. -/
  | io (cause : IoError)
  /-- A port could not be bound. -/
  | bind (port : UInt16) (cause : IoError)
  /-- A lock was still held elsewhere after some retries. -/
  | lockTimeout (path : Text) (attempts : UInt32)
  /-- A path names no file that can hold a ledger. -/
  | invalidLockFile (reason : Text)
  /-- No candidate was accepted. -/
  | noFreePort (reason : Text)
  /-- A configuration is not usable. -/
  | config (reason : Text)
  deriving DecidableEq

namespace Error

/-- The text of an error. -/
def message : Error → Text
  | .io cause => "IO error: ".toList ++ cause.message
  | .bind port cause =>
    "Bind error on port ".toList ++ Decimal.ofNat port.toNat ++ ':' :: ' ' :: cause.message
  | .lockTimeout path attempts =>
    "Lock timeout: ".toList ++ path ++ " still locked after ".toList ++
      Decimal.ofNat attempts.toNat ++ " attempts".toList
  | .invalidLockFile reason => "Invalid lock file: ".toList ++ reason
  | .noFreePort reason => "No free port: ".toList ++ reason
  | .config reason => "Config error: ".toList ++ reason

/-- The failed operation behind an error. -/
def source? : Error → Option IoError
  | .io cause => some cause
  | .bind _ cause => some cause
  | _ => none

end Error

/-- Why an operation has no answer at all: a computation left the range of its words. -/
inductive Overflow where
  /-- A difference of two times does not fit. -/
  | subtract
  /-- A multiple of a duration does not fit. -/
  | scaleDuration
  deriving DecidableEq, Repr

/-- The text of an overflow. -/
def Overflow.message : Overflow → Text
  | .subtract => "attempt to subtract with overflow".toList
  | .scaleDuration => "overflow when multiplying duration by scalar".toList

end PortReservation
