import Ioxx.Masks

/-!
# Tokens, interests, registrations and error codes

The value types of `ioxx/core.hpp` and the record `Registration` of the
selector's table. An `Interest` can only be built from the five named bits, as
the private constructor of the class ensures.
-/

namespace Core

/-- `native_handle_type`: an `int` on POSIX, a `uintptr_t` on Windows. -/
abbrev NativeHandle := Int

structure Token where
  value : BitVec 64
  deriving DecidableEq, Repr

/-- The bits no `Interest` ever carries. -/
def unnamedBits : BitVec 8 := 0b11100000

structure Interest where
  bits : BitVec 8
  named : Masks.Disj bits unnamedBits
  deriving DecidableEq, Repr

namespace Interest

def none : Interest := ⟨0, by decide⟩
def READABLE : Interest := ⟨0b00000001, by decide⟩
def WRITABLE : Interest := ⟨0b00000010, by decide⟩
def AIO : Interest := ⟨0b00000100, by decide⟩
def LIO : Interest := ⟨0b00001000, by decide⟩
def PRIORITY : Interest := ⟨0b00010000, by decide⟩

def add (a b : Interest) : Interest := ⟨a.bits ||| b.bits, Masks.Disj.or a.named b.named⟩

/-- `Interest::remove`: the empty set is reported as `nullopt`. -/
def remove (a b : Interest) : Option Interest :=
  if a.bits &&& ~~~b.bits = 0 then Option.none
  else some ⟨a.bits &&& ~~~b.bits, a.named.mono (Masks.and_sub_left _ _)⟩

def isReadable (a : Interest) : Bool := a.bits &&& READABLE.bits != 0
def isWritable (a : Interest) : Bool := a.bits &&& WRITABLE.bits != 0
def isAio (a : Interest) : Bool := a.bits &&& AIO.bits != 0
def isLio (a : Interest) : Bool := a.bits &&& LIO.bits != 0
def isPriority (a : Interest) : Bool := a.bits &&& PRIORITY.bits != 0
def empty (a : Interest) : Bool := a.bits == 0

instance : OrOp Interest := ⟨add⟩

end Interest

inductive SourceKind where
  | socket
  | handle
  | rawDescriptor
  | waker
  deriving DecidableEq, Repr

/-- The operating system a build targets. `other` is the `poll` fallback. -/
inductive Platform where
  | windows
  | linux
  | kqueue
  | other
  deriving DecidableEq, Repr

/-- `std::generic_category` and `std::system_category`. -/
inductive Category where
  | generic
  | system
  deriving DecidableEq, Repr

/-- A `std::error_code` that is set; a cleared one is `none` wherever an `ec` is returned. -/
structure ErrorCode where
  value : Int
  category : Category
  set : value ≠ 0
  deriving DecidableEq, Repr

/-! The `std::errc` conditions in use, with the numbers of Linux. -/

namespace ErrorCode

def noSuchFileOrDirectory : ErrorCode := ⟨2, .generic, by decide⟩
def badFileDescriptor : ErrorCode := ⟨9, .generic, by decide⟩
def operationWouldBlock : ErrorCode := ⟨11, .generic, by decide⟩
def notEnoughMemory : ErrorCode := ⟨12, .generic, by decide⟩
def deviceOrResourceBusy : ErrorCode := ⟨16, .generic, by decide⟩
def fileExists : ErrorCode := ⟨17, .generic, by decide⟩
def invalidArgument : ErrorCode := ⟨22, .generic, by decide⟩
def filenameTooLong : ErrorCode := ⟨36, .generic, by decide⟩

def addressFamilyNotSupported : ErrorCode := ⟨97, .generic, by decide⟩

end ErrorCode

/-- The `errno` of a failed system call. -/
abbrev Errno := { value : Int // value ≠ 0 }

def ENOENT : Errno := ⟨2, by decide⟩
def EINTR : Errno := ⟨4, by decide⟩
def EAGAIN : Errno := ⟨11, by decide⟩
def EEXIST : Errno := ⟨17, by decide⟩
def EINVAL : Errno := ⟨22, by decide⟩
def EALREADY : Errno := ⟨114, by decide⟩
def EINPROGRESS : Errno := ⟨115, by decide⟩

/-- `std::error_code{errno, std::generic_category()}`. -/
def ErrorCode.ofErrno (errno : Errno) : ErrorCode := ⟨errno.val, .generic, errno.property⟩

/-- `std::error_code{error, std::system_category()}`, for what `GetLastError` returns. -/
def ErrorCode.ofLastError (error : Errno) : ErrorCode := ⟨error.val, .system, error.property⟩

/-- What the library's internal functions throw: a `std::system_error` with its
code and text, or `std::bad_alloc`. -/
inductive Exception where
  | systemError (code : ErrorCode) (what : String)
  | badAlloc
  deriving DecidableEq, Repr

/-- The two `catch` clauses that turn an exception into an `ec`. -/
def Exception.code : Exception → ErrorCode
  | .systemError code _ => code
  | .badAlloc => .notEnoughMemory

/-- The outcome of a `noexcept` function: an exception that would leave it ends
the process instead. -/
inductive Noexcept (α : Type) where
  | returned (a : α)
  | terminated
  deriving DecidableEq, Repr

/-- An event as `Events::push` stores it. -/
structure Event where
  token : Token
  readiness : Interest
  error : Bool
  readClosed : Bool
  writeClosed : Bool
  deriving DecidableEq, Repr

/-- A reference to an `AfdSocketState`, the `shared_ptr` of a Windows registration. -/
abbrev AfdRef := Nat

structure Registration where
  handle : NativeHandle
  kind : SourceKind
  token : Token
  interests : Interest
  autoDrain : Bool
  afdState : Option AfdRef
  deriving DecidableEq, Repr

end Core
