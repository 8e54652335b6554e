/-!
# System error numbers

An error number is shown in two ways: by its symbolic name and a short text
(`Errno.message`, for queries on devices), and by the text that the C library has for it
with the number itself (`IoError.message`, for directories and files). A number without an
entry keeps its value, but has no name.
-/

namespace MediaPairing

/-- An error number as a system call returns it. -/
structure Errno where
  code : Nat
deriving DecidableEq, Inhabited

namespace Errno

/-- The names of an error number: symbol, short text, and the C library's text. -/
structure Description where
  symbol : String
  text : String
  libraryText : String

def noEntry : Errno := ⟨2⟩
def badHandle : Errno := ⟨9⟩
def noDevice : Errno := ⟨19⟩
def invalidArgument : Errno := ⟨22⟩
def notSupportedByDevice : Errno := ⟨25⟩
def noSpace : Errno := ⟨28⟩

/-- A number with the same text in both places. -/
def Description.named (symbol text : String) : Description := ⟨symbol, text, text⟩

/-- The error numbers that have a name. -/
def descriptions : List (Nat × Description) :=
  [(0, ⟨"UnknownErrno", "Unknown errno", "Success"⟩),
    (1, .named "EPERM" "Operation not permitted"),
    (2, .named "ENOENT" "No such file or directory"),
    (3, .named "ESRCH" "No such process"),
    (4, .named "EINTR" "Interrupted system call"),
    (5, ⟨"EIO", "I/O error", "Input/output error"⟩),
    (6, .named "ENXIO" "No such device or address"),
    (7, .named "E2BIG" "Argument list too long"),
    (8, .named "ENOEXEC" "Exec format error"),
    (9, ⟨"EBADF", "Bad file number", "Bad file descriptor"⟩),
    (10, .named "ECHILD" "No child processes"),
    (11, ⟨"EAGAIN", "Try again", "Resource temporarily unavailable"⟩),
    (12, ⟨"ENOMEM", "Out of memory", "Cannot allocate memory"⟩),
    (13, .named "EACCES" "Permission denied"),
    (14, .named "EFAULT" "Bad address"),
    (15, .named "ENOTBLK" "Block device required"),
    (16, .named "EBUSY" "Device or resource busy"),
    (17, .named "EEXIST" "File exists"),
    (18, ⟨"EXDEV", "Cross-device link", "Invalid cross-device link"⟩),
    (19, .named "ENODEV" "No such device"),
    (20, .named "ENOTDIR" "Not a directory"),
    (21, .named "EISDIR" "Is a directory"),
    (22, .named "EINVAL" "Invalid argument"),
    (23, ⟨"ENFILE", "File table overflow", "Too many open files in system"⟩),
    (24, .named "EMFILE" "Too many open files"),
    (25, ⟨"ENOTTY", "Not a typewriter", "Inappropriate ioctl for device"⟩),
    (26, .named "ETXTBSY" "Text file busy"),
    (27, .named "EFBIG" "File too large"),
    (28, .named "ENOSPC" "No space left on device"),
    (29, .named "ESPIPE" "Illegal seek"),
    (30, .named "EROFS" "Read-only file system"),
    (31, .named "EMLINK" "Too many links"),
    (32, .named "EPIPE" "Broken pipe"),
    (33, ⟨"EDOM", "Math argument out of domain of func", "Numerical argument out of domain"⟩),
    (34, ⟨"ERANGE", "Math result not representable", "Numerical result out of range"⟩),
    (35, ⟨"EDEADLK", "Resource deadlock would occur", "Resource deadlock avoided"⟩),
    (36, .named "ENAMETOOLONG" "File name too long"),
    (37, ⟨"ENOLCK", "No record locks available", "No locks available"⟩),
    (38, .named "ENOSYS" "Function not implemented"),
    (39, .named "ENOTEMPTY" "Directory not empty"),
    (40, ⟨"ELOOP", "Too many symbolic links encountered", "Too many levels of symbolic links"⟩),
    (42, .named "ENOMSG" "No message of desired type"),
    (43, .named "EIDRM" "Identifier removed"),
    (44, .named "ECHRNG" "Channel number out of range"),
    (45, .named "EL2NSYNC" "Level 2 not synchronized"),
    (46, .named "EL3HLT" "Level 3 halted"),
    (47, .named "EL3RST" "Level 3 reset"),
    (48, .named "ELNRNG" "Link number out of range"),
    (49, .named "EUNATCH" "Protocol driver not attached"),
    (50, .named "ENOCSI" "No CSI structure available"),
    (51, .named "EL2HLT" "Level 2 halted"),
    (52, .named "EBADE" "Invalid exchange"),
    (53, .named "EBADR" "Invalid request descriptor"),
    (54, .named "EXFULL" "Exchange full"),
    (55, .named "ENOANO" "No anode"),
    (56, .named "EBADRQC" "Invalid request code"),
    (57, .named "EBADSLT" "Invalid slot"),
    (59, .named "EBFONT" "Bad font file format"),
    (60, .named "ENOSTR" "Device not a stream"),
    (61, .named "ENODATA" "No data available"),
    (62, .named "ETIME" "Timer expired"),
    (63, .named "ENOSR" "Out of streams resources"),
    (64, .named "ENONET" "Machine is not on the network"),
    (65, .named "ENOPKG" "Package not installed"),
    (66, .named "EREMOTE" "Object is remote"),
    (67, .named "ENOLINK" "Link has been severed"),
    (68, .named "EADV" "Advertise error"),
    (69, .named "ESRMNT" "Srmount error"),
    (70, .named "ECOMM" "Communication error on send"),
    (71, .named "EPROTO" "Protocol error"),
    (72, .named "EMULTIHOP" "Multihop attempted"),
    (73, .named "EDOTDOT" "RFS specific error"),
    (74, ⟨"EBADMSG", "Not a data message", "Bad message"⟩),
    (75, .named "EOVERFLOW" "Value too large for defined data type"),
    (76, .named "ENOTUNIQ" "Name not unique on network"),
    (77, .named "EBADFD" "File descriptor in bad state"),
    (78, .named "EREMCHG" "Remote address changed"),
    (79, .named "ELIBACC" "Can not access a needed shared library"),
    (80, .named "ELIBBAD" "Accessing a corrupted shared library"),
    (81, .named "ELIBSCN" ".lib section in a.out corrupted"),
    (82, .named "ELIBMAX" "Attempting to link in too many shared libraries"),
    (83, .named "ELIBEXEC" "Cannot exec a shared library directly"),
    (84, ⟨"EILSEQ", "Illegal byte sequence", "Invalid or incomplete multibyte or wide character"⟩),
    (85, .named "ERESTART" "Interrupted system call should be restarted"),
    (86, .named "ESTRPIPE" "Streams pipe error"),
    (87, .named "EUSERS" "Too many users"),
    (88, .named "ENOTSOCK" "Socket operation on non-socket"),
    (89, .named "EDESTADDRREQ" "Destination address required"),
    (90, .named "EMSGSIZE" "Message too long"),
    (91, .named "EPROTOTYPE" "Protocol wrong type for socket"),
    (92, .named "ENOPROTOOPT" "Protocol not available"),
    (93, .named "EPROTONOSUPPORT" "Protocol not supported"),
    (94, .named "ESOCKTNOSUPPORT" "Socket type not supported"),
    (95,
      ⟨"EOPNOTSUPP", "Operation not supported on transport endpoint", "Operation not supported"⟩),
    (96, .named "EPFNOSUPPORT" "Protocol family not supported"),
    (97, .named "EAFNOSUPPORT" "Address family not supported by protocol"),
    (98, .named "EADDRINUSE" "Address already in use"),
    (99, .named "EADDRNOTAVAIL" "Cannot assign requested address"),
    (100, .named "ENETDOWN" "Network is down"),
    (101, .named "ENETUNREACH" "Network is unreachable"),
    (102,
      ⟨"ENETRESET", "Network dropped connection because of reset",
        "Network dropped connection on reset"⟩),
    (103, .named "ECONNABORTED" "Software caused connection abort"),
    (104, .named "ECONNRESET" "Connection reset by peer"),
    (105, .named "ENOBUFS" "No buffer space available"),
    (106, .named "EISCONN" "Transport endpoint is already connected"),
    (107, .named "ENOTCONN" "Transport endpoint is not connected"),
    (108, .named "ESHUTDOWN" "Cannot send after transport endpoint shutdown"),
    (109, .named "ETOOMANYREFS" "Too many references: cannot splice"),
    (110, .named "ETIMEDOUT" "Connection timed out"),
    (111, .named "ECONNREFUSED" "Connection refused"),
    (112, .named "EHOSTDOWN" "Host is down"),
    (113, .named "EHOSTUNREACH" "No route to host"),
    (114, .named "EALREADY" "Operation already in progress"),
    (115, .named "EINPROGRESS" "Operation now in progress"),
    (116, .named "ESTALE" "Stale file handle"),
    (117, .named "EUCLEAN" "Structure needs cleaning"),
    (118, .named "ENOTNAM" "Not a XENIX named type file"),
    (119, .named "ENAVAIL" "No XENIX semaphores available"),
    (120, .named "EISNAM" "Is a named type file"),
    (121, .named "EREMOTEIO" "Remote I/O error"),
    (122, ⟨"EDQUOT", "Quota exceeded", "Disk quota exceeded"⟩),
    (123, .named "ENOMEDIUM" "No medium found"),
    (124, .named "EMEDIUMTYPE" "Wrong medium type"),
    (125, .named "ECANCELED" "Operation canceled"),
    (126, .named "ENOKEY" "Required key not available"),
    (127, .named "EKEYEXPIRED" "Key has expired"),
    (128, .named "EKEYREVOKED" "Key has been revoked"),
    (129, .named "EKEYREJECTED" "Key was rejected by service"),
    (130, .named "EOWNERDEAD" "Owner died"),
    (131, .named "ENOTRECOVERABLE" "State not recoverable"),
    (132, .named "ERFKILL" "Operation not possible due to RF-kill"),
    (133, .named "EHWPOISON" "Memory page has hardware error")]

/-- The names of a number, if it has any. -/
def describe? (e : Errno) : Option Description := descriptions.lookup e.code

/-- Symbol and short text. -/
def message (e : Errno) : String :=
  match e.describe? with
  | some d => s!"{d.symbol}: {d.text}"
  | none => "UnknownErrno: Unknown errno"

/-- The C library's text and the number. -/
def libraryMessage (e : Errno) : String :=
  match e.describe? with
  | some d => s!"{d.libraryText} (os error {e.code})"
  | none => s!"Unknown error {e.code} (os error {e.code})"

end Errno

/-- Why a directory could not be listed or a file not be read. -/
inductive IoError where
  | os (errno : Errno)
  /-- The system refuses, without saying which call failed. -/
  | permissionDenied
  /-- A NUL byte in a path: no system call can be made. -/
  | nulInPath
  | notUtf8
  /-- The file names no device node. -/
  | noDevname
deriving DecidableEq

def IoError.message : IoError → String
  | .os e => e.libraryMessage
  | .permissionDenied => "permission denied"
  | .nulInPath => "file name contained an unexpected NUL byte"
  | .notUtf8 => "stream did not contain valid UTF-8"
  | .noDevname => "no DEVNAME entry"

end MediaPairing
