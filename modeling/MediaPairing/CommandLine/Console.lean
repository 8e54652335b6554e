import MediaPairing.CommandLine.Run
import MediaPairing.Machine.System
import MediaPairing.Machine.Trace
import MediaPairing.Pattern.Match
import MediaPairing.Pattern.Parse
import MediaPairing.Text.Plain

/-!
# What the command writes

The report and the help go to standard output, log records and the complaint of a failed run
to standard error. A run that fails exits with status 1, a mistake in the arguments with 2.

* Log records are shown up to a level: the one that the environment asks for, or the one
  that follows from the options. They are written as plain text, without what a terminal
  would act on.
* A failure is shown with the chain of its causes, from the outermost inwards. With more than
  one cause they are numbered.
* What a pattern means, and which records are shown and how, is for a `Toolkit` to say; the
  command runs with `Toolkit.standard`.
-/

namespace MediaPairing

/-! ## Log records -/

/-- The rank of the least important records to be shown, by the word for it. No word means
errors only, and a word that is no level shows nothing. -/
def rankOfWord (word : String) : Nat :=
  match word.toLower with
  | "" | "error" => 1
  | "warn" => 2
  | "info" => 3
  | "debug" => 4
  | "trace" => 5
  | _ => 0

/-- The same as the options ask for. -/
def Options.shownRank (o : Options) : Nat :=
  if o.quiet then LogLevel.error.rank
  else if o.verbose then LogLevel.debug.rank
  else LogLevel.warn.rank

/-- Text with `width` blanks after each line feed. -/
def indented (width : Nat) (text : String) : String :=
  String.ofList (text.toList.flatMap fun c =>
    if c = '\n' then '\n' :: List.replicate width ' ' else [c])

/-- A text with blanks after it, up to a width. -/
def padRight (width : Nat) (text : String) : String :=
  text ++ String.ofList (List.replicate (width - text.length) ' ')

/-- A text with blanks before it, up to a width. -/
def padLeft (width : Nat) (text : String) : String :=
  String.ofList (List.replicate (width - text.length) ' ') ++ text

/-- The line of a record, as plain text. -/
def LogRecord.consoleLine (r : LogRecord) : String :=
  plainText s!"[{padRight 5 r.level.name}] {indented 4 r.text}\n"

/-! ## Failures -/

namespace Failure

/-- What failed, in one line. -/
def headline : Failure → String
  | noVideo _ => "no video device matched the filters"
  | noController path _ => s!"no media device owns {path.display}"
  | report e => e.message

/-- The causes behind the headline, from the outermost inwards. -/
def causes : Failure → List String
  | noVideo e | noController _ e => e.message :: e.cause?.toList
  | report e => e.cause?.toList

/-- Numbered causes, from `n` on. -/
def numberedCauses : Nat → List String → String
  | _, [] => ""
  | n, cause :: rest =>
    s!"\n{padLeft 5 (toString n)}: {indented 7 cause}" ++ numberedCauses (n + 1) rest

def causeText : List String → String
  | [] => ""
  | [cause] => s!"\n\nCaused by:\n    {indented 4 cause}"
  | causes => s!"\n\nCaused by:{numberedCauses 0 causes}"

def text (f : Failure) : String := s!"Error: {f.headline}{causeText f.causes}\n"

end Failure

/-! ## Help -/

def versionText : String := "v4l2-pair 0.1.0\n"

def helpText : String :=
  "Find a V4L2 video device and the media controller that owns it\n\n" ++
  "Usage: v4l2-pair [OPTIONS]\n\n" ++
  "Options:\n" ++
  "      --dev-dir <DEV_DIR>  Directory holding the video* and media* device nodes " ++
  "[default: /dev]\n" ++
  "      --sys-dir <SYS_DIR>  Sysfs mount, used to name the video interfaces of the media " ++
  "device [default: /sys]\n" ++
  "      --driver <DRIVER>    Only accept devices whose driver name matches this regex\n" ++
  "      --card <CARD>        Only accept devices whose card name matches this regex\n" ++
  "      --capture            Only accept video capture devices\n" ++
  "      --m2m                Only accept memory-to-memory devices (codecs, scalers)\n" ++
  "      --format <FORMAT>    Only accept devices offering this pixel format, e.g. NV12 or " ++
  "H264\n" ++
  "  -v, --verbose            Enable verbose logging (use RUST_LOG=debug for more)\n" ++
  "  -q, --quiet              Suppress non-error output\n" ++
  "  -h, --help               Print help\n" ++
  "  -V, --version            Print version\n"

/-- The argument that a usage error is about. -/
def UsageError.message : UsageError → String
  | unknownArgument a => s!"unexpected argument {quote (Utf8.decodeLossy a)}"
  | unexpectedValue a => s!"unexpected value in {quote (Utf8.decodeLossy a)}"
  | missingValue a => s!"a value is required for {quote (Utf8.decodeLossy a)}"
  | repeated a => s!"{quote (Utf8.decodeLossy a)} cannot be used multiple times"
  | invalidValue v => s!"invalid value {quote (Utf8.decodeLossy v)}"
  | conflict => "options that exclude each other"

/-! ## The command -/

/-- What an invocation leaves behind. -/
structure ConsoleOutput where
  status : UInt32
  stdout : String
  stderr : String

/-- The report, line by line. -/
def reportText (lines : List ReportLine) : String :=
  String.join (lines.map fun line => line.text ++ "\n")

/-- The output of a run that has printed `report` and logged `log`. -/
def runOutput (report log : String) : Except Failure Unit → ConsoleOutput
  | .ok () => ⟨0, report, log⟩
  | .error f => ⟨1, report, log ++ f.text⟩

/-- What the command has others do for it. -/
structure Toolkit where
  patterns : TestReader
  /-- The log as it is written, by the word in the environment, if there is one, and the rank that
  the options ask for. -/
  logText : Option String → Nat → List LogRecord → String

/-- Reads patterns as in `Pattern`, and shows the records up to a rank in plain text. -/
def Toolkit.standard : Toolkit where
  patterns text := (Pattern.ofString? text).map Pattern.occursIn
  logText word rank records :=
    let shown := records.filter (·.level.rank ≤ (word.map rankOfWord).getD rank)
    String.join (shown.map (·.consoleLine))

/-- Runs the command on a machine that is used through `sys`. `logWord` is what the environment
says about the log. -/
def Toolkit.invoke (kit : Toolkit) (sys : System Machine Nat) (args : List Bytes)
    (logWord : Option String) (m : Machine) : ConsoleOutput × Machine :=
  match Command.ofArgs kit.patterns args with
  | .error e => (⟨2, "", s!"error: {e.message}\n"⟩, m)
  | .ok .help => (⟨0, helpText, ""⟩, m)
  | .ok .version => (⟨0, versionText, ""⟩, m)
  | .ok (.run o) =>
    let (outcome, m') := (sys.run o).run m.forgetJournal
    (runOutput (reportText m'.reportLines) (kit.logText logWord o.shownRank m'.logRecords) outcome,
      m')

/-- Runs the command on a machine that nobody else works with. -/
def invoke (args : List Bytes) (logWord : Option String) (m : Machine) :
    ConsoleOutput × Machine :=
  Toolkit.standard.invoke Machine.system args logWord m

end MediaPairing
