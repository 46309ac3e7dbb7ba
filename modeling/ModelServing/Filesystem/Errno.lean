import ModelServing.Text.Quoted

/-! Errors of system calls. -/

namespace ModelServing

/-- Why a system call fails. -/
inductive Errno where
  | notPermitted
  | noEntry
  | noDevice
  | argumentsTooLong
  | execFormat
  | accessDenied
  | busy
  | fileExists
  | notDirectory
  | isDirectory
  | readOnly
  | nameTooLong
  | tooManyLinks
  deriving DecidableEq, Repr

/-- The number of a system error. -/
def Errno.number : Errno → Nat
  | .notPermitted => 1
  | .noEntry => 2
  | .noDevice => 6
  | .argumentsTooLong => 7
  | .execFormat => 8
  | .accessDenied => 13
  | .busy => 16
  | .fileExists => 17
  | .notDirectory => 20
  | .isDirectory => 21
  | .readOnly => 30
  | .nameTooLong => 36
  | .tooManyLinks => 40

/-- The wording of a system error. -/
def Errno.message : Errno → String
  | .notPermitted => "Operation not permitted"
  | .noEntry => "No such file or directory"
  | .noDevice => "No such device or address"
  | .argumentsTooLong => "Argument list too long"
  | .execFormat => "Exec format error"
  | .accessDenied => "Permission denied"
  | .busy => "Device or resource busy"
  | .fileExists => "File exists"
  | .notDirectory => "Not a directory"
  | .isDirectory => "Is a directory"
  | .readOnly => "Read-only file system"
  | .nameTooLong => "File name too long"
  | .tooManyLinks => "Too many levels of symbolic links"

/-- A failed system call on a path. -/
structure SystemError where
  errno : Errno
  path : String
  deriving DecidableEq, Repr

/-- The text of a failed system call. -/
def SystemError.message (error : SystemError) : String :=
  "[Errno " ++ toString error.errno.number ++ "] " ++ error.errno.message ++ ": "
    ++ Text.quoted error.path

end ModelServing
