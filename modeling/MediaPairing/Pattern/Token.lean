import MediaPairing.Pattern.Basic
import MediaPairing.Pattern.CharClass

/-!
# Tokens of written patterns

A written pattern is read into tokens: characters, classes, anchors, the marks that open and
close groups, the bar, and repetitions.

* Between brackets `^` first negates a class, and `]` or `-` first stand for themselves. The
  set operations `&&`, `--` and `~~` bind equally, the first one first. A name between `[:` and
  `:]` is that of an ASCII class.
* A backslash before punctuation takes its meaning away; before `d`, `w`, `s` and their
  capitals it names a class, before `A`, `z`, `b`, `B` an anchor, before `a`, `f`, `n`, `r`,
  `t`, `v` a control character. Any other letter or digit after it is refused, so there are
  no references to groups.
* `(?…` opens a group with a name or with flags, or sets flags. Look-around is refused.
-/

namespace MediaPairing

/-! ## Flags -/

/-- How characters and anchors are read. -/
structure PatternFlags where
  ignoreCase : Bool := false
  /-- Caret and dollar sign also hold at line ends. -/
  multiLine : Bool := false
  /-- The full stop also stands for a line feed. -/
  dotAll : Bool := false
deriving DecidableEq

/-- The set as the flags make it. -/
def PatternFlags.adapt (f : PatternFlags) (ranges : CodeRanges) : CodeRanges :=
  if f.ignoreCase then ranges.withCaseVariants else ranges

/-- Sets the flag with the given letter. Greed and Unicode have no bearing on whether there
is a match. -/
def PatternFlags.set? (f : PatternFlags) (letter : Char) (value : Bool) :
    Option PatternFlags :=
  match letter with
  | 'i' => some { f with ignoreCase := value }
  | 'm' => some { f with multiLine := value }
  | 's' => some { f with dotAll := value }
  | 'U' => some f
  | 'u' => if value then some f else none
  | _ => none

/-- A change of flags: letters to set, then, after a hyphen, letters to clear. -/
structure FlagChange where
  on : List Char
  off : List Char

def FlagChange.applyTo? (c : FlagChange) (f : PatternFlags) : Option PatternFlags := do
  let f ← c.on.foldlM (·.set? · true) f
  c.off.foldlM (·.set? · false) f

inductive PatternToken where
  | literal (c : Char)
  /-- The full stop. -/
  | any
  /-- A lettered class that stands by itself. Case has no bearing on it. -/
  | kind (kind : CharKind) (negated : Bool)
  /-- A class between brackets. -/
  | chars (written : WrittenClass)
  | caret
  | dollar
  | anchor (anchor : Anchor)
  /-- Opens a group, which is numbered unless flags stand in it. -/
  | openGroup (name : Option (List Char)) (change : FlagChange) (isNumbered : Bool)
  | setFlags (change : FlagChange)
  | closeGroup
  | bar
  | repetition (least : Nat) (most : Option Nat)

/-! ## Escapes -/

/-- What a backslash and a character stand for inside and outside of classes. -/
inductive Escaped where
  | literal (c : Char)
  | kind (kind : CharKind) (negated : Bool)

def isAsciiPunctuation (c : Char) : Bool :=
  c.toNat < 0x80 && !c.isAlphanum && c != '<' && c != '>'

def escaped? (c : Char) : Option Escaped :=
  match c with
  | 'd' => some (.kind .digit false)
  | 'D' => some (.kind .digit true)
  | 'w' => some (.kind .word false)
  | 'W' => some (.kind .word true)
  | 's' => some (.kind .blank false)
  | 'S' => some (.kind .blank true)
  | 'a' => some (.literal '\x07')
  | 'f' => some (.literal '\x0c')
  | 'n' => some (.literal '\n')
  | 'r' => some (.literal '\r')
  | 't' => some (.literal '\t')
  | 'v' => some (.literal '\x0b')
  | c => if isAsciiPunctuation c then some (.literal c) else none

def Escaped.item : Escaped → CharClass
  | literal c => .range c c
  | kind k negated => .kind k negated

/-- The token of an escape outside of classes. -/
def escapeToken? (c : Char) : Option PatternToken :=
  match c with
  | 'A' => some (.anchor .textStart)
  | 'z' => some (.anchor .textEnd)
  | 'b' => some (.anchor (.wordBoundary false))
  | 'B' => some (.anchor (.wordBoundary true))
  | c =>
    match escaped? c with
    | none => none
    | some (.literal c) => some (.literal c)
    | some (.kind k negated) => some (.kind k negated)

/-! ## Classes -/

/-- What a reader leaves of a text. -/
abbrev Rest (cs : List Char) := { rest : List Char // rest.length ≤ cs.length }

/-- The end of a range, if the text goes on with one. A hyphen before a bracket or before
another hyphen does not begin a range. -/
def rangeEnd (cs : List Char) : Option Escaped × Rest cs :=
  match cs with
  | '-' :: '\\' :: c :: rest =>
    match escaped? c with
    | some e => (some e, ⟨rest, Nat.le_add_right _ 3⟩)
    | none => (none, ⟨'-' :: '\\' :: c :: rest, Nat.le_refl _⟩)
  | '-' :: c :: rest =>
    if c = ']' ∨ c = '-' then (none, ⟨'-' :: c :: rest, Nat.le_refl _⟩)
    else (some (.literal c), ⟨rest, Nat.le_add_right _ 2⟩)
  | cs => (none, ⟨cs, Nat.le_refl _⟩)

/-- The item from `first` to the end of a range, or `first` alone. -/
def classItem? (first : Escaped) : Option Escaped → Option CharClass
  | none => some first.item
  | some last =>
    match first, last with
    | .literal a, .literal b => if a ≤ b then some (.range a b) else none
    | _, _ => none

/-- What follows the first character with the property, and what comes before it. -/
def splitAtFirst (p : Char → Bool) (cs : List Char) : Option (List Char × Char × Rest cs) :=
  match cs with
  | [] => none
  | c :: rest =>
    if p c then some ([], c, ⟨rest, by simp⟩)
    else
      match splitAtFirst p rest with
      | none => none
      | some (before, d, ⟨rest', h⟩) => some (c :: before, d, ⟨rest', by simp; omega⟩)

/-- A named class after the bracket that opens it. -/
def namedClass? (cs : List Char) : Option (CharClass × Rest cs) :=
  match cs with
  | ':' :: cs =>
    match splitAtFirst (· == ':') cs with
    | some (name, _, ⟨']' :: rest, h⟩) =>
      let negated := name.head? == some '^'
      let name := if negated then name.tail else name
      (asciiRanges? (String.ofList name)).map fun rs =>
        (.named rs negated, ⟨rest, by simp at h ⊢; omega⟩)
    | _ => none
  | _ => none

/-- A class that is being read. -/
structure ClassReader where
  /-- An operation that waits for its right side, with its left side. -/
  pending : Option (SetOperation × WrittenClass) := none
  /-- The items, the last one first. -/
  items : List WrittenClass := []

namespace ClassReader

def push (r : ClassReader) (c : CharClass) : ClassReader :=
  { r with items := { content := c } :: r.items }

/-- The class up to here. -/
def content (r : ClassReader) : WrittenClass :=
  let right := WrittenClass.ofItems r.items.reverse
  match r.pending with
  | none => right
  | some (op, left) => .operation op left right

/-- What has been read becomes the left side of an operation. -/
def operate (r : ClassReader) (op : SetOperation) : ClassReader :=
  { pending := some (op, r.content) }

end ClassReader

/-- The hyphens at the beginning of a class, which stand for themselves. -/
def leadingHyphens (r : ClassReader) (cs : List Char) : ClassReader × Rest cs :=
  match cs with
  | '-' :: rest =>
    let (r, ⟨rest', h⟩) := leadingHyphens (r.push (.range '-' '-')) rest
    (r, ⟨rest', by simp; omega⟩)
  | cs => (r, ⟨cs, Nat.le_refl _⟩)

/-- The beginning of a class after the bracket that opens it: whether it is negated, and the
characters that stand for themselves only there. -/
def classStart (cs : List Char) : Bool × ClassReader × Rest cs :=
  let (negated, ⟨body, h₀⟩) : Bool × Rest cs :=
    match cs with
    | '^' :: rest => (true, ⟨rest, by simp⟩)
    | cs => (false, ⟨cs, Nat.le_refl _⟩)
  let (r, ⟨body, h₁⟩) := leadingHyphens {} body
  match r.items, body with
  | [], ']' :: rest => (negated, r.push (.range ']' ']'), ⟨rest, by simp at h₁; omega⟩)
  | _, body => (negated, r, ⟨body, by omega⟩)

/-- A class up to the bracket that closes it, and what comes after it. -/
def classBody? (r : ClassReader) (cs : List Char) : Option (WrittenClass × Rest cs) :=
  match cs with
  | [] => none
  | ']' :: rest => some (r.content, ⟨rest, by simp⟩)
  | '&' :: '&' :: rest => do
    let (c, ⟨rest', h⟩) ← classBody? (r.operate .intersection) rest
    some (c, ⟨rest', by simp; omega⟩)
  | '-' :: '-' :: rest => do
    let (c, ⟨rest', h⟩) ← classBody? (r.operate .difference) rest
    some (c, ⟨rest', by simp; omega⟩)
  | '~' :: '~' :: rest => do
    let (c, ⟨rest', h⟩) ← classBody? (r.operate .symmetricDifference) rest
    some (c, ⟨rest', by simp; omega⟩)
  | '[' :: rest =>
    match namedClass? rest with
    | some (item, ⟨rest', h⟩) => do
      let (c, ⟨rest'', h'⟩) ← classBody? (r.push item) rest'
      some (c, ⟨rest'', by simp; omega⟩)
    | none => do
      let (negated, inner, ⟨body, h⟩) := classStart rest
      let (c, ⟨rest', h'⟩) ← classBody? inner body
      let r := { r with items := c.bracketed negated :: r.items }
      let (c, ⟨rest'', h''⟩) ← classBody? r rest'
      some (c, ⟨rest'', by simp; omega⟩)
  | '\\' :: e :: rest => do
    let first ← escaped? e
    let (last, ⟨rest', h⟩) := rangeEnd rest
    let item ← classItem? first last
    let (c, ⟨rest'', h'⟩) ← classBody? (r.push item) rest'
    some (c, ⟨rest'', by simp; omega⟩)
  | a :: rest => do
    let (last, ⟨rest', h⟩) := rangeEnd rest
    let item ← classItem? (.literal a) last
    let (c, ⟨rest'', h'⟩) ← classBody? (r.push item) rest'
    some (c, ⟨rest'', by simp; omega⟩)
termination_by cs.length
decreasing_by all_goals simp only [List.length_cons]; omega

/-- A class after the bracket that opens it. -/
def classToken? (cs : List Char) : Option (PatternToken × Rest cs) :=
  let (negated, r, ⟨body, h⟩) := classStart cs
  match classBody? r body with
  | none => none
  | some (c, ⟨rest, h'⟩) => some (.chars (c.bracketed negated), ⟨rest, by omega⟩)

/-! ## Repetitions -/

/-- A count: decimal digits, blanks around them. It must fit in a 32-bit word. -/
def count? (cs : List Char) : Option Nat :=
  match trim cs with
  | [] => none
  | ds =>
    if ds.all (·.isDigit) then
      let n := ds.foldl (fun n d => 10 * n + (d.toNat - '0'.toNat)) 0
      if n < UInt32.size then some n else none
    else none

/-- The repetition written between braces: `n`, `n,` or `n,m`. -/
def countedRepetition? (cs : List Char) : Option PatternToken :=
  match cs.dropWhile (· != ',') with
  | [] => do
    let n ← count? cs
    some (.repetition n (some n))
  | _ :: most => do
    let n ← count? (cs.takeWhile (· != ','))
    if most.isEmpty then some (.repetition n none)
    else
      let m ← count? most
      if n ≤ m then some (.repetition n (some m)) else none

/-! ## Groups -/

/-- Whether no character stands there twice. -/
def allDistinct : List Char → Bool
  | [] => true
  | c :: rest => !rest.contains c && allDistinct rest

/-- The letters of a change of flags, each at most once. -/
def flagChange? (cs : List Char) : Option FlagChange :=
  if allDistinct cs then
    match cs.dropWhile (· != '-') with
    | [] => some ⟨cs, []⟩
    | _ :: off => if off.isEmpty then none else some ⟨cs.takeWhile (· != '-'), off⟩
  else none

def isNameStart (c : Char) : Bool := c == '_' || c.isAlpha

def isNameChar (c : Char) : Bool :=
  isNameStart c || c.isDigit || c == '.' || c == '[' || c == ']'

def isGroupName : List Char → Bool
  | [] => false
  | c :: rest => isNameStart c && rest.all isNameChar

/-- A group with a name, after `<`. -/
def namedGroup? (cs : List Char) : Option (PatternToken × Rest cs) :=
  match splitAtFirst (· == '>') cs with
  | none => none
  | some (name, _, rest) =>
    if isGroupName name then some (.openGroup (some name) ⟨[], []⟩ true, rest) else none

/-- A group with flags, or a change of flags, after `(?`. -/
def flagGroup? (cs : List Char) : Option (PatternToken × Rest cs) :=
  match splitAtFirst (fun c => c == ')' || c == ':') cs with
  | none => none
  | some (letters, mark, rest) =>
    match flagChange? letters with
    | none => none
    | some change =>
      if mark = ':' then some (.openGroup none change false, rest)
      else if letters.isEmpty then none
      else some (.setFlags change, rest)

/-! ## Reading -/

/-- The mark that makes the repetition before it lazy does not change what matches. -/
def skipLazy (cs : List Char) : Rest cs :=
  match cs with
  | '?' :: rest => ⟨rest, by simp⟩
  | cs => ⟨cs, Nat.le_refl _⟩

/-- The token that begins with `c`, and what comes after it. -/
def patternToken? (c : Char) (cs : List Char) : Option (PatternToken × Rest cs) :=
  let here (t : PatternToken) : Option (PatternToken × Rest cs) :=
    some (t, ⟨cs, Nat.le_refl _⟩)
  match c with
  | '\\' =>
    match cs with
    | [] => none
    | e :: rest =>
      match escapeToken? e with
      | none => none
      | some t => some (t, ⟨rest, by simp⟩)
  | '[' => classToken? cs
  | '.' => here .any
  | '^' => here .caret
  | '$' => here .dollar
  | '|' => here .bar
  | ')' => here .closeGroup
  | '*' => some (.repetition 0 none, skipLazy cs)
  | '+' => some (.repetition 1 none, skipLazy cs)
  | '?' => some (.repetition 0 (some 1), skipLazy cs)
  | '{' =>
    match splitAtFirst (· == '}') cs with
    | none => none
    | some (inner, _, ⟨rest, _⟩) =>
      match countedRepetition? inner with
      | none => none
      | some t =>
        let ⟨rest', h'⟩ := skipLazy rest
        some (t, ⟨rest', by omega⟩)
  | '(' =>
    match cs with
    | '?' :: 'P' :: '<' :: rest =>
      (namedGroup? rest).map fun (t, ⟨r, h⟩) => (t, ⟨r, by simp; omega⟩)
    | '?' :: '<' :: rest =>
      (namedGroup? rest).map fun (t, ⟨r, h⟩) => (t, ⟨r, by simp; omega⟩)
    | '?' :: rest => (flagGroup? rest).map fun (t, ⟨r, h⟩) => (t, ⟨r, by simp; omega⟩)
    | cs => some (.openGroup none ⟨[], []⟩ true, ⟨cs, Nat.le_refl _⟩)
  | c => here (.literal c)

/-- The tokens of a written pattern. -/
def patternTokens? (cs : List Char) : Option (List PatternToken) :=
  match cs with
  | [] => some []
  | c :: cs =>
    match patternToken? c cs with
    | none => none
    | some (t, ⟨rest, _⟩) => (patternTokens? rest).map (t :: ·)
termination_by cs.length
decreasing_by simp; omega

end MediaPairing
