import MediaPairing.Capability
import MediaPairing.LogRecord

/-!
# How values are worded

What paths, numbers, codes and errors read in a line of the report or of the log, spelled out. A
path is shown as its bytes where these are UTF-8, numbers are decimal, and of a code the bytes
that are not printable are shown as a full stop.

* `shownPath`, `shownNumber`, `shownCode`, `shownVersion`, `shownErrno`: how these are worded.
* `shownError`: the same for the errors of discovery.
* `FourCc.text_eq`, `text_ofWord`, `Errno.message_eq`, `PairingError.message_eq`: the texts that are
  written are these.
* `LogRecord.line`: what the log shows of a record.
-/

namespace MediaPairing

def shownPath (path : Path) : String := Utf8.decodeLossy path.bytes

def shownNumber (devnum : DeviceNumber) : String :=
  toString devnum.major.toNat ++ ":" ++ toString devnum.minor.toNat

def shownChar (b : UInt8) : Char := if 0x20 ≤ b ∧ b ≤ 0x7E then Char.ofNat b.toNat else '.'

def shownCode (fourcc : FourCc) : String :=
  String.ofList ([fourcc.byte₀, fourcc.byte₁, fourcc.byte₂, fourcc.byte₃].map shownChar)

/-- The three low bytes of a version word. -/
def shownVersion (w : UInt32) : String :=
  toString (w.toNat / 65536 % 256) ++ "." ++ toString (w.toNat / 256 % 256) ++ "." ++
    toString (w.toNat % 256)

/-- The symbol and the short text of an error number. -/
def shownErrno (e : Errno) : String :=
  match e.describe? with
  | some d => d.symbol ++ ": " ++ d.text
  | none => "UnknownErrno: Unknown errno"

theorem display_eq (path : Path) : path.display = shownPath path := rfl

theorem FourCc.text_eq (fourcc : FourCc) : fourcc.text = shownCode fourcc := by
  have hshown : ∀ b, FourCc.shown b = shownChar b := by
    intro b
    simp only [FourCc.shown, FourCc.isShown, shownChar, Bool.and_eq_true, decide_eq_true_eq]
  unfold FourCc.text shownCode
  rw [funext hshown]
  rfl

theorem text_ofWord (w : UInt32) : (KernelVersion.ofWord w).text = shownVersion w := by
  have hmajor : (KernelVersion.ofWord w).major.toNat = w.toNat / 65536 % 256 := by
    simp [KernelVersion.ofWord, Nat.shiftRight_eq_div_pow]
  have hminor : (KernelVersion.ofWord w).minor.toNat = w.toNat / 256 % 256 := by
    simp [KernelVersion.ofWord, Nat.shiftRight_eq_div_pow]
  have hpatch : (KernelVersion.ofWord w).patch.toNat = w.toNat % 256 := by
    simp [KernelVersion.ofWord]
  unfold KernelVersion.text
  rw [hmajor, hminor, hpatch]
  rfl

theorem Errno.message_eq (e : Errno) : e.message = shownErrno e := by
  unfold Errno.message shownErrno
  cases e.describe? <;> rfl

/-! ## Errors of discovery -/

def shownListingFailure : ListingFailure → String
  | .os e => shownErrno e
  | .indexOverflow => "attempt to add with overflow"

theorem ListingFailure.message_eq (e : ListingFailure) : e.message = shownListingFailure e := by
  cases e with
  | os e => exact e.message_eq
  | indexOverflow => rfl

def shownError : PairingError → String
  | .openFailed path e => "cannot open " ++ shownPath path ++ ": " ++ shownErrno e
  | .capabilityQueryFailed path e =>
    "VIDIOC_QUERYCAP on " ++ shownPath path ++ " failed: " ++ shownErrno e
  | .formatQueryFailed path cause =>
    "format enumeration on " ++ shownPath path ++ " failed: " ++ shownListingFailure cause
  | .mediaInfoQueryFailed path e =>
    "MEDIA_IOC_DEVICE_INFO on " ++ shownPath path ++ " failed: " ++ shownErrno e
  | .identityQueryFailed path e =>
    "cannot stat video device " ++ shownPath path ++ ": " ++ shownErrno e
  | .topologyQueryFailed path e =>
    "MEDIA_IOC_G_TOPOLOGY on " ++ shownPath path ++ " failed: " ++ shownErrno e
  | .allocationFailed count => "cannot allocate " ++ toString count.toNat ++ " media interfaces"
  | .emptyTopology path => "media device " ++ shownPath path ++ " has no interfaces"
  | .noSuitableDevice dir => "could not find a valid video device in " ++ shownPath dir
  | .noMatchingMediaDevice dir devnum =>
    "could not find a media device for video device number " ++ shownNumber devnum ++ " in " ++
      shownPath dir
  | .directoryUnreadable dir e =>
    "cannot read device directory " ++ shownPath dir ++ ": " ++ e.message
  | .devnodeLookupFailed devnum uevent e =>
    "cannot find device node for " ++ shownNumber devnum ++ " via " ++ shownPath uevent ++ ": " ++
      e.message
  | .invalidFourCc text => "invalid pixel format code " ++ quote text

theorem PairingError.message_eq (e : PairingError) : e.message = shownError e := by
  cases e with
  | openFailed path e =>
    exact congrArg ("cannot open " ++ shownPath path ++ ": " ++ ·) e.message_eq
  | capabilityQueryFailed path e =>
    exact congrArg ("VIDIOC_QUERYCAP on " ++ shownPath path ++ " failed: " ++ ·) e.message_eq
  | formatQueryFailed path cause =>
    exact congrArg ("format enumeration on " ++ shownPath path ++ " failed: " ++ ·)
      cause.message_eq
  | mediaInfoQueryFailed path e =>
    exact congrArg ("MEDIA_IOC_DEVICE_INFO on " ++ shownPath path ++ " failed: " ++ ·) e.message_eq
  | identityQueryFailed path e =>
    exact congrArg ("cannot stat video device " ++ shownPath path ++ ": " ++ ·) e.message_eq
  | topologyQueryFailed path e =>
    exact congrArg ("MEDIA_IOC_G_TOPOLOGY on " ++ shownPath path ++ " failed: " ++ ·) e.message_eq
  | _ => rfl

/-! ## Records -/

/-- How much a record matters, and what it reads. -/
def LogRecord.line (r : LogRecord) : LogLevel × String := (r.level, r.text)

theorem line_skipped (e : PairingError) : (LogRecord.skipped e).line = (.warn, shownError e) :=
  congrArg (Prod.mk LogLevel.warn) e.message_eq

end MediaPairing
