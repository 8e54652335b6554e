import Mathlib.Data.List.Permutation
import MediaPairing.Devnode
import MediaPairing.Pattern.Parse
import MediaPairing.Proofs.Pattern.Groups
import MediaPairing.Proofs.Text.Blank

/-!
# The name in a description

The lines of a description end at line feeds. The name of the device node stands in the first of
them that begins with `DEVNAME=` and goes on after it. The expression that is searched for says
the same: the match that lies furthest to the left is that line, and its group is what comes after
the key.

* `isDevnameLine`: the lines that count.
* `DevnameBetween cs before value after`: where such a line stands in a text.
* `first_of_leftmost`: no line before the leftmost one counts.
* `ofString?_devname`: the pattern that the expression writes down.
* `matches_devnamePattern`: it matches those lines.
* `mem_ways_devnamePattern`, `captures?_some`: its group is what follows the key.
* `devname?_eq`, `first_line_gives_devname`: the name by the expression and by the lines.
-/

namespace MediaPairing

/-! ## Lines -/

/-- A text is one line, or a line before the rest. -/
theorem line_induction {motive : List Char → Prop} (single : ∀ l, '\n' ∉ l → motive l)
    (more : ∀ l rest, '\n' ∉ l → motive rest → motive (l ++ '\n' :: rest)) (cs : List Char) :
    motive cs := by
  induction hn : cs.length using Nat.strongRecOn generalizing cs with
  | ind n ih =>
    by_cases hmem : '\n' ∈ cs
    · obtain ⟨l, rest, rfl, hl⟩ := List.eq_append_cons_of_mem hmem
      refine more l rest hl (ih rest.length ?_ rest rfl)
      rw [← hn, List.length_append, List.length_cons]
      omega
    · exact single cs hmem

/-- The line before the end of a text, or before a line feed, is the first one. -/
theorem splitOn_line {line after : List Char} (hline : '\n' ∉ line)
    (hafter : ∀ c, after.head? = some c → c = '\n') :
    ∃ ls, (line ++ after).splitOn '\n' = line :: ls := by
  cases after with
  | nil =>
    rw [List.append_nil]
    exact ⟨[], List.splitOn_eq_singleton hline⟩
  | cons c rest =>
    obtain rfl := hafter c rfl
    exact ⟨rest.splitOn '\n', List.splitOn_append_cons_self_of_not_mem hline rest⟩

/-- The text of lines that each end in a line feed. -/
def ended (ls : List (List Char)) : List Char := ls.flatMap (· ++ ['\n'])

theorem splitOn_ended {ls : List (List Char)} (h : ∀ l ∈ ls, '\n' ∉ l) :
    (ended ls).splitOn '\n' = ls ++ [[]] := by
  unfold ended
  induction ls with
  | nil => rfl
  | cons l rest ih =>
    obtain ⟨hl, hrest⟩ := List.forall_mem_cons.mp h
    rw [List.flatMap_cons, List.append_assoc, List.singleton_append,
      List.splitOn_append_cons_self_of_not_mem hl, ih hrest, List.cons_append]

/-! ## Lines with the key -/

/-- The line begins with the key and has a character after it. -/
def isDevnameLine (line : List Char) : Bool :=
  "DEVNAME=".toList.isPrefixOf line && decide (8 < line.length)

theorem isDevnameLine_iff {line : List Char} :
    isDevnameLine line = true ↔ ∃ value, line = "DEVNAME=".toList ++ value ∧ value ≠ [] := by
  unfold isDevnameLine
  rw [Bool.and_eq_true, List.isPrefixOf_iff_prefix, decide_eq_true_iff]
  constructor
  · rintro ⟨⟨value, rfl⟩, hlength⟩
    refine ⟨value, rfl, ?_⟩
    rintro rfl
    exact absurd hlength (by decide)
  · rintro ⟨value, rfl, hvalue⟩
    refine ⟨List.prefix_append _ _, ?_⟩
    have hpos := List.length_pos_iff.mpr hvalue
    rw [List.length_append]
    exact Nat.lt_add_of_pos_right hpos

theorem isDevnameLine_eq_false {line : List Char} (h : ¬"DEVNAME=".toList <+: line) :
    isDevnameLine line = false := by
  rw [Bool.eq_false_iff]
  intro hcounts
  obtain ⟨value, rfl, -⟩ := isDevnameLine_iff.mp hcounts
  exact h (List.prefix_append _ _)

/-- The key itself stands on one line. -/
theorem lineFeed_not_mem {value : List Char} (h : '\n' ∉ value) :
    '\n' ∉ "DEVNAME=".toList ++ value := by
  rw [List.mem_append]
  rintro (hkey | hvalue)
  · exact absurd hkey (by decide)
  · exact h hvalue

theorem find?_isDevnameLine {before after : List (List Char)} {value : List Char}
    (hvalue : value ≠ []) (hbefore : ∀ l ∈ before, isDevnameLine l = false) :
    (before ++ ("DEVNAME=".toList ++ value) :: after).find? isDevnameLine =
      some ("DEVNAME=".toList ++ value) := by
  rw [List.find?_eq_some_iff_append]
  refine ⟨isDevnameLine_iff.mpr ⟨value, rfl, hvalue⟩, before, after, rfl, fun l hl => ?_⟩
  rw [hbefore l hl]
  rfl

/-! ## Where such a line stands -/

/-- The text has a line that begins with the key, goes on with `value` and ends there. -/
structure DevnameBetween (cs before value after : List Char) : Prop where
  text_eq : cs = before ++ ("DEVNAME=".toList ++ (value ++ after))
  begins : ∀ c, before.getLast? = some c → c = '\n'
  value_ne : value ≠ []
  inLine : '\n' ∉ value
  ends : ∀ c, after.head? = some c → c = '\n'

theorem exists_between {cs line : List Char} (hmem : line ∈ cs.splitOn '\n')
    (hline : isDevnameLine line = true) :
    ∃ before after, DevnameBetween cs before (line.drop 8) after := by
  obtain ⟨value, rfl, hvalue⟩ := isDevnameLine_iff.mp hline
  change ∃ before after, DevnameBetween cs before value after
  induction cs using line_induction with
  | single l hl =>
    rw [List.splitOn_eq_singleton hl, List.mem_singleton] at hmem
    subst hmem
    refine ⟨[], [], ⟨?_, ?_, hvalue, ?_, ?_⟩⟩
    · rw [List.nil_append, List.append_nil]
    · simp
    · exact fun h => hl (List.mem_append_right _ h)
    · simp
  | more l rest hl ih =>
    rw [List.splitOn_append_cons_self_of_not_mem hl, List.mem_cons] at hmem
    rcases hmem with rfl | hmem
    · refine ⟨[], '\n' :: rest, ⟨?_, ?_, hvalue, ?_, ?_⟩⟩
      · rw [List.nil_append, List.append_assoc]
      · simp
      · exact fun h => hl (List.mem_append_right _ h)
      · simp
    · obtain ⟨before, after, h⟩ := ih hmem
      refine ⟨l ++ '\n' :: before, after, ⟨?_, ?_, hvalue, h.inLine, h.ends⟩⟩
      · rw [h.text_eq, List.append_assoc, List.cons_append]
      · intro c hc
        rw [List.getLast?_append, List.getLast?_cons] at hc
        cases hlast : before.getLast? with
        | none => simpa [hlast, eq_comm] using hc
        | some d =>
          have hd := h.begins d hlast
          simp [hlast] at hc
          rw [← hc, hd]

namespace DevnameBetween

variable {cs before value after : List Char} (h : DevnameBetween cs before value after)

include h

/-- The line is one of those of the text, and those before it are the lines before its place. -/
theorem splitOn_eq :
    ∃ ls, cs.splitOn '\n' =
      (before.splitOn '\n').dropLast ++ ("DEVNAME=".toList ++ value) :: ls := by
  obtain ⟨ls, hls⟩ := splitOn_line (lineFeed_not_mem h.inLine) h.ends
  rw [List.append_assoc] at hls
  refine ⟨ls, ?_⟩
  rcases List.eq_nil_or_concat before with rfl | ⟨b, c, rfl⟩
  · rw [h.text_eq, List.nil_append, hls]
    rfl
  · obtain rfl := h.begins c (by simp)
    rw [h.text_eq]
    simp only [List.concat_eq_append, List.append_assoc, List.cons_append, List.nil_append]
    rw [List.splitOn_append_cons_self, hls, List.splitOn_append_cons_self]
    simp

/-- A place in a text is one in a longer text. -/
theorem append (rest : List Char) :
    DevnameBetween (cs ++ '\n' :: rest) before value (after ++ '\n' :: rest) where
  text_eq := by
    rw [h.text_eq]
    simp only [List.append_assoc]
  begins := h.begins
  value_ne := h.value_ne
  inLine := h.inLine
  ends := by
    intro c hc
    cases after with
    | nil => simpa [eq_comm] using hc
    | cons d more => exact h.ends c hc

theorem length_eq : cs.length = before.length + (8 + (value.length + after.length)) := by
  have hkey : "DEVNAME=".toList.length = 8 := by decide
  rw [h.text_eq, List.length_append, List.length_append, List.length_append, hkey]

theorem drop_before : cs.drop before.length = "DEVNAME=".toList ++ (value ++ after) := by
  rw [h.text_eq, List.drop_left]

theorem drop_key : cs.drop (before.length + 8) = value ++ after := by
  rw [← List.drop_drop, h.drop_before]
  rfl

theorem extract_line :
    cs.extract before.length (before.length + 8 + value.length) =
      "DEVNAME=".toList ++ value := by
  have hlength : ("DEVNAME=".toList ++ value).length = 8 + value.length := List.length_append
  rw [List.extract_eq_take_drop, h.drop_before, ← List.append_assoc, Nat.add_assoc,
    Nat.add_sub_cancel_left, List.take_left' hlength]

theorem extract_value :
    cs.extract (before.length + 8) (before.length + 8 + value.length) = value := by
  rw [List.extract_eq_take_drop, h.drop_key, Nat.add_sub_cancel_left, List.take_left]

end DevnameBetween

/-- No line before the leftmost one counts. -/
theorem first_of_leftmost {cs before value after : List Char}
    (h : DevnameBetween cs before value after)
    (hleftmost : ∀ b v a, DevnameBetween cs b v a → before.length ≤ b.length) :
    (cs.splitOn '\n').find? isDevnameLine = some ("DEVNAME=".toList ++ value) := by
  obtain ⟨ls, hls⟩ := h.splitOn_eq
  rw [hls]
  refine find?_isDevnameLine h.value_ne fun line hline => Bool.eq_false_iff.mpr fun hcounts => ?_
  rcases List.eq_nil_or_concat before with rfl | ⟨b, c, rfl⟩
  · exact List.not_mem_nil hline
  · obtain rfl := h.begins c (by simp)
    rw [List.concat_eq_append, List.splitOn_append_cons_self] at hline
    have hmem : line ∈ b.splitOn '\n' := by simpa using hline
    obtain ⟨b', a', hearlier⟩ := exists_between hmem hcounts
    have hlong := hearlier.length_eq
    have hcs : b ++ '\n' :: ("DEVNAME=".toList ++ (value ++ after)) = cs := by
      rw [h.text_eq, List.concat_eq_append, List.append_assoc, List.singleton_append]
    have hle := hleftmost b' _ _ (hcs ▸ hearlier.append _)
    rw [List.length_concat] at hle
    omega

/-! ## Reading expressions -/

theorem normal_single (c : Char) : (CodeRanges.single c).normal = .single c := by
  simp [CodeRanges.normal, CodeRanges.single, CodeRanges.joinFrom]

theorem ofRanges_single (c : Char) : Pattern.ofRanges (.single c) = .literal [c] := by
  rw [Pattern.ofRanges, normal_single]
  simp [CodeRanges.single, Char.ofNat_toNat]

theorem complement_lineFeed :
    (CodeRanges.single '\n').complement = [(0, 9), (11, 0x10FFFF)] := by
  rw [CodeRanges.complement, normal_single]
  rfl

theorem ofRanges_inLine :
    Pattern.ofRanges [(0, 9), (11, 0x10FFFF)] = .chars [(0, 9), (11, 0x10FFFF)] := by
  have hnormal : CodeRanges.normal [(0, 9), (11, 0x10FFFF)] = [(0, 9), (11, 0x10FFFF)] := by
    rw [CodeRanges.normal, List.mergeSort_of_pairwise (by decide)]
    rfl
  rw [Pattern.ofRanges, hnormal]

section

variable {r : PatternReader}

/-- Where case counts, a character stands for itself. -/
theorem read?_literal (c : Char) (h : r.flags.ignoreCase = false) :
    r.read? (.literal c) = some (r.push (.literal [c])) := by
  simp only [PatternReader.read?, PatternFlags.adapt, h, ofRanges_single, Bool.false_eq_true,
    if_false]

theorem foldlM_literals (cs : List Char) (h : r.flags.ignoreCase = false) :
    (cs.map PatternToken.literal).foldlM PatternReader.read? r =
      some (cs.foldl (fun r c => r.push (.literal [c])) r) := by
  induction cs generalizing r with
  | nil => rfl
  | cons c rest ih =>
    rw [List.map_cons, List.foldlM_cons, read?_literal c h]
    exact ih h

/-- The full stop stands for all characters but a line feed. -/
theorem read?_any (h : r.flags.dotAll = false) :
    r.read? .any = some (r.push (.chars [(0, 9), (11, 0x10FFFF)])) := by
  simp only [PatternReader.read?, h, complement_lineFeed, ofRanges_inLine, Bool.false_eq_true,
    if_false]

end

/-! ## The expression -/

/-- The tokens of the expression. -/
def devnameTokens : List PatternToken :=
  [.setFlags ⟨['m'], []⟩, .caret] ++ "DEVNAME=".toList.map .literal ++
    [.openGroup none ⟨[], []⟩ true, .any, .repetition 1 none, .closeGroup, .dollar]

theorem patternTokens?_devname :
    patternTokens? "(?m)^DEVNAME=(.+)$".toList = some devnameTokens := by cbv

theorem read?_devnameTokens :
    (devnameTokens.foldlM PatternReader.read? {}).bind PatternReader.finish? =
      some { pattern := devnamePattern, depth := 3 } := by
  have hline : [.setFlags ⟨['m'], []⟩, .caret].foldlM PatternReader.read? {} =
      some { group :=
        { index := none
          flags := { multiLine := true }
          parts := [⟨.anchor .lineStart, 0, true⟩, ⟨.empty, 0, false⟩] } } := rfl
  have hkey : "DEVNAME=".toList = ['D', 'E', 'V', 'N', 'A', 'M', 'E', '='] := rfl
  unfold devnameTokens devnamePattern
  simp only [List.foldlM_append, bind]
  rw [hkey, hline, Option.bind_some, foldlM_literals _ rfl, Option.bind_some]
  -- the group is opened behind the key
  change ([.any, .repetition 1 none, .closeGroup, .dollar].foldlM PatternReader.read?
    { group := { index := some 1, flags := { multiLine := true } }, outer := [_],
      groupCount := 1 }).bind _ = _
  rw [List.foldlM_cons, read?_any rfl]
  rfl

theorem isTooLarge_devnamePattern : devnamePattern.isTooLarge = false := by cbv

theorem ofString?_devname : Pattern.ofString? "(?m)^DEVNAME=(.+)$" = some devnamePattern := by
  obtain ⟨reader, hreader, hfinish⟩ := Option.bind_eq_some_iff.mp read?_devnameTokens
  have hdepth : ¬Pattern.depthLimit < 3 := by decide
  unfold Pattern.ofString?
  simp only [patternTokens?_devname, bind, Option.bind_some, hreader, hfinish, hdepth,
    isTooLarge_devnamePattern, decide_false, Bool.or_false, Bool.false_eq_true, if_false]

theorem contains_inLine (c : Char) :
    CodeRanges.contains [(0, 9), (11, 0x10FFFF)] c = true ↔ c ≠ '\n' := by
  have hcode : c.toNat = 10 ↔ c = '\n' := by
    rw [← Char.toNat_inj]
    rfl
  have hlast : c.toNat ≤ 0x10FFFF := by
    rcases c.valid with hlow | hhigh
    · exact Nat.le_trans (Nat.le_of_lt hlow) (by decide)
    · exact Nat.le_of_lt_succ hhigh.2
  rw [Ne, ← hcode]
  simp [CodeRanges.contains, CodeRanges.containsCode]
  omega

theorem matches_devnameGroup {cs : List Char} {k j : Nat} :
    devnameGroup.Matches cs.toArray k j ↔
      k < j ∧ j ≤ cs.length ∧ '\n' ∉ cs.extract k j := by
  unfold devnameGroup
  rw [Pattern.matches_oneOrMore]
  refine and_congr_right fun hlt => ?_
  rw [forall_charAt_toArray hlt]
  refine and_congr_right fun _ => ?_
  simp only [contains_inLine]
  exact ⟨fun h hmem => h _ hmem rfl, fun h c hc hcn => h (hcn ▸ hc)⟩

/-- The text from a place on at which the key stands. -/
theorem drop_eq_of_devnameKey {cs : List Char} {i j : Nat}
    (hkey : "DEVNAME=".toList <+: cs.drop i) (hij : i + 8 ≤ j) :
    cs.drop i = "DEVNAME=".toList ++ (cs.extract (i + 8) j ++ cs.drop j) := by
  obtain ⟨rest, hrest⟩ := hkey
  have hdrop : cs.drop (i + 8) = rest := by
    rw [← List.drop_drop, ← hrest]
    rfl
  have hrest' : rest = cs.extract (i + 8) j ++ cs.drop j := by
    rw [List.extract_eq_take_drop, hdrop, ← Nat.add_sub_cancel' hij, ← List.drop_drop, hdrop,
      Nat.add_sub_cancel_left, List.take_append_drop]
  rw [← hrest, ← hrest']

theorem matches_devnamePattern {cs : List Char} {i j : Nat} :
    devnamePattern.Matches cs.toArray i j ↔
      ∃ before value after, DevnameBetween cs before value after ∧
        i = before.length ∧ j = before.length + 8 + value.length := by
  have hkey : "DEVNAME=".toList.length = 8 := by decide
  unfold devnamePattern
  simp only [Pattern.matches_seq, Pattern.matches_anchor, Pattern.matches_literal,
    Pattern.matches_group, matches_devnameGroup, literalAt_toArray, List.size_toArray, hkey]
  constructor
  · rintro ⟨i, ⟨hi, hstart, rfl⟩, _, ⟨-, hliteral, rfl⟩, j, ⟨hlt, hj, hinLine⟩, -, hend, rfl⟩
    have htext := drop_eq_of_devnameKey hliteral (Nat.le_of_lt hlt)
    have hlength : (cs.extract (i + 8) j).length = j - (i + 8) := by
      rw [List.extract_eq_take_drop, List.length_take, List.length_drop]
      omega
    refine ⟨cs.take i, cs.extract (i + 8) j, cs.drop j, ⟨?_, ?_, ?_, hinLine, ?_⟩, ?_, ?_⟩
    · rw [← htext, List.take_append_drop]
    · exact (lineStart_toArray hi).mp hstart
    · rw [← List.length_pos_iff, hlength]
      omega
    · exact (lineEnd_toArray hj).mp hend
    · rw [List.length_take, Nat.min_eq_left hi]
    · rw [List.length_take, Nat.min_eq_left hi, hlength]
      omega
  · rintro ⟨before, value, after, h, rfl, rfl⟩
    have hlength := h.length_eq
    have hvalue := List.length_pos_iff.mpr h.value_ne
    have hbefore : before.length ≤ cs.length := by omega
    have htake : cs.take before.length = before := by rw [h.text_eq, List.take_left]
    have hdrop : cs.drop (before.length + 8 + value.length) = after := by
      rw [← List.drop_drop, h.drop_key, List.drop_left]
    refine ⟨before.length, ⟨hbefore, ?_, rfl⟩, before.length + 8, ⟨hbefore, ?_, rfl⟩,
      before.length + 8 + value.length, ⟨by omega, by omega, ?_⟩, by omega, ?_, rfl⟩
    · rw [lineStart_toArray hbefore, htake]
      exact h.begins
    · rw [h.drop_before]
      exact List.prefix_append _ _
    · rw [h.extract_value]
      exact h.inLine
    · rw [lineEnd_toArray (by omega), hdrop]
      exact h.ends

/-- The leftmost match is the first line that counts, and its group is what follows the key. -/
theorem find?_of_matchesFirst {cs : List Char} {i j : Nat}
    (h : devnamePattern.MatchesFirst cs.toArray i j) :
    (cs.splitOn '\n').find? isDevnameLine = some (cs.extract i j) ∧
      (Pattern.group 1 devnameGroup).Matches cs.toArray (i + 8) j := by
  obtain ⟨before, value, after, hbetween, rfl, rfl⟩ := matches_devnamePattern.mp h.1
  have hlength := hbetween.length_eq
  have hvalue := List.length_pos_iff.mpr hbetween.value_ne
  refine ⟨?_, ?_⟩
  · rw [hbetween.extract_line]
    refine first_of_leftmost hbetween fun b v a hba => ?_
    exact h.2 _ _ (matches_devnamePattern.mpr ⟨b, v, a, hba, rfl, rfl⟩)
  · rw [Pattern.matches_group, matches_devnameGroup, hbetween.extract_value]
    exact ⟨by omega, by omega, hbetween.inLine⟩

theorem find?_isDevnameLine_iff {cs line : List Char} :
    (cs.splitOn '\n').find? isDevnameLine = some line ↔
      ∃ i j, devnamePattern.MatchesFirst cs.toArray i j ∧
        (Pattern.group 1 devnameGroup).Matches cs.toArray (i + 8) j ∧ line = cs.extract i j := by
  constructor
  · intro hfind
    obtain ⟨before, after, hbetween⟩ :=
      exists_between (List.mem_of_find?_eq_some hfind) (List.find?_some hfind)
    obtain ⟨i, j, hfirst⟩ := Pattern.Matches.exists_first
      (matches_devnamePattern.mpr ⟨before, _, after, hbetween, rfl, rfl⟩)
    obtain ⟨hfind', hgroup⟩ := find?_of_matchesFirst hfirst
    exact ⟨i, j, hfirst, hgroup, Option.some.inj (hfind.symm.trans hfind')⟩
  · rintro ⟨i, j, hfirst, -, rfl⟩
    exact (find?_of_matchesFirst hfirst).1

/-! ## The group -/

/-- The group of a match holds all of it that comes after the key. -/
theorem mem_ways_devnamePattern {cs : List Char} {i : Nat} {w : Way} (hi : i ≤ cs.length) :
    w ∈ devnamePattern.ways cs.toArray ⟨i, []⟩ ↔
      devnamePattern.Matches cs.toArray i w.position ∧ w.groups = [(1, i + 8, w.position)] := by
  have hkey : "DEVNAME=".toList.length = 8 := by decide
  unfold devnamePattern devnameGroup
  simp only [Pattern.matches_seq, Pattern.matches_anchor, Pattern.matches_literal,
    Pattern.matches_group, Pattern.matches_oneOrMore, Pattern.mem_ways_seq,
    Pattern.mem_ways_anchor, Pattern.mem_ways_literal, Pattern.mem_ways_group,
    Pattern.mem_ways_oneOrMore, List.size_toArray, hkey]
  constructor
  · rintro ⟨_, ⟨hstart, rfl⟩, _, ⟨hliteral, rfl⟩, _, ⟨inner, ⟨hgroups, hlt, hall⟩, rfl⟩, hend, rfl⟩
    refine ⟨⟨i, ⟨hi, hstart, rfl⟩, i + 8, ⟨hi, hliteral, rfl⟩, inner.position, ⟨hlt, hall⟩, ?_,
      hend, rfl⟩, ?_⟩
    · exact ((forall_charAt_toArray hlt).mp hall).1
    · exact congrArg (List.cons _) hgroups
  · rintro ⟨⟨_, ⟨-, hstart, rfl⟩, _, ⟨-, hliteral, rfl⟩, _, ⟨hlt, hall⟩, -, hend, rfl⟩, hgroups⟩
    refine ⟨_, ⟨hstart, rfl⟩, _, ⟨hliteral, rfl⟩, w, ⟨⟨w.position, []⟩, ⟨rfl, hlt, hall⟩, ?_⟩,
      hend, rfl⟩
    exact congrArg (Way.mk w.position) hgroups.symm

theorem captures?_none {cs : List Char} (h : (cs.splitOn '\n').find? isDevnameLine = none) :
    devnamePattern.captures? cs.toArray = none := by
  refine Pattern.captures?_eq_none fun i hi => List.eq_nil_iff_forall_not_mem.mpr fun w hw => ?_
  obtain ⟨hmatches, -⟩ := (mem_ways_devnamePattern hi).mp hw
  obtain ⟨i', j', hfirst⟩ := hmatches.exists_first
  rw [(find?_of_matchesFirst hfirst).1] at h
  cases h

/-- What is captured is the rest of the first line that counts. -/
theorem captures?_some {cs line : List Char}
    (h : (cs.splitOn '\n').find? isDevnameLine = some line) :
    ∃ start stop, devnamePattern.captures? cs.toArray = some [(1, start, stop)] ∧
      cs.extract start stop = line.drop 8 := by
  obtain ⟨i, j, hfirst, -, -⟩ := find?_isDevnameLine_iff.mp h
  have hi : i ≤ cs.length := by
    obtain ⟨before, value, after, hbetween, rfl, -⟩ := matches_devnamePattern.mp hfirst.1
    rw [hbetween.length_eq]
    omega
  have hways : devnamePattern.ways cs.toArray ⟨i, []⟩ ≠ [] :=
    List.ne_nil_of_mem ((mem_ways_devnamePattern (w := ⟨j, [(1, i + 8, j)]⟩) hi).mpr
      ⟨hfirst.1, rfl⟩)
  have hearlier : ∀ i' < i, devnamePattern.ways cs.toArray ⟨i', []⟩ = [] := by
    intro i' hi'
    refine List.eq_nil_iff_forall_not_mem.mpr fun w hw => ?_
    obtain ⟨hmatches, -⟩ := (mem_ways_devnamePattern (by omega)).mp hw
    exact Nat.not_le_of_lt hi' (hfirst.2 _ _ hmatches)
  obtain ⟨w, hw, hcaptures⟩ := Pattern.captures?_of_first hi hways hearlier
  obtain ⟨hmatches, hgroups⟩ := (mem_ways_devnamePattern hi).mp hw
  obtain ⟨hfind, -⟩ := find?_of_matchesFirst ⟨hmatches, hfirst.2⟩
  refine ⟨i + 8, w.position, hcaptures.trans (congrArg some hgroups), ?_⟩
  rw [h] at hfind
  obtain rfl := Option.some.inj hfind
  rw [List.extract_eq_take_drop, List.extract_eq_take_drop, List.drop_take, List.drop_drop,
    Nat.sub_sub]

/-! ## The name -/

/-- The first line that counts gives the name. -/
theorem devname?_eq (u : String) :
    devname? u = ((u.toList.splitOn '\n').find? isDevnameLine).bind fun line =>
      if trim (line.drop 8) = [] then none else some (String.ofList (trim (line.drop 8))) := by
  unfold devname?
  cases hfind : (u.toList.splitOn '\n').find? isDevnameLine with
  | none =>
    simp only [captures?_none hfind]
    rfl
  | some line =>
    obtain ⟨start, stop, hcaptures, hgroup⟩ := captures?_some hfind
    dsimp only
    rw [hcaptures]
    change (if (trim (u.toList.extract start stop)).isEmpty = true then none else _) = _
    rw [hgroup]
    simp only [List.isEmpty_iff, Option.bind_some]

/-- A line has no bearing on which line is the first to count, unless it is that one. -/
theorem find?_isDevnameLine_insert {before after : List (List Char)} {line : List Char}
    (h : line = "DEVNAME=".toList ∨ ¬"DEVNAME=".toList <+: line ∨
      ∃ l ∈ before, isDevnameLine l = true) :
    (before ++ line :: after).find? isDevnameLine = (before ++ after).find? isDevnameLine := by
  have hskipped : isDevnameLine line = false →
      (before ++ line :: after).find? isDevnameLine = (before ++ after).find? isDevnameLine := by
    intro hline
    rw [List.find?_append, List.find?_append, List.find?_cons, hline]
  rcases h with rfl | hnot | ⟨l, hl, hcounts⟩
  · exact hskipped (by decide)
  · exact hskipped (isDevnameLine_eq_false hnot)
  · cases hfind : before.find? isDevnameLine with
    | none => exact absurd hcounts (List.find?_eq_none.mp hfind l hl)
    | some first => rw [List.find?_append, List.find?_append, hfind]; rfl

/-- The line that gives the name is the leftmost match of the expression. Its group holds what
follows the key in the line, and without the blanks at the ends this is the name. No other line
has a bearing on it. -/
theorem first_line_gives_devname (u : String) :
    Pattern.ofString? "(?m)^DEVNAME=(.+)$" = some devnamePattern ∧
    (∀ line, (u.toList.splitOn '\n').find? isDevnameLine = some line ↔
      ∃ i j, devnamePattern.MatchesFirst u.toList.toArray i j ∧
        (Pattern.group 1 devnameGroup).Matches u.toList.toArray (i + 8) j ∧
        line = u.toList.extract i j) ∧
    (∀ line, (u.toList.splitOn '\n').find? isDevnameLine = some line →
      (∃ start stop, devnamePattern.captures? u.toList.toArray = some [(1, start, stop)] ∧
        u.toList.extract start stop = line.drop 8) ∧
      ∃ name, IsTrimmed (line.drop 8) name ∧
        devname? u = if name = [] then none else some (String.ofList name)) ∧
    ((u.toList.splitOn '\n').find? isDevnameLine = none →
      devnamePattern.captures? u.toList.toArray = none ∧ devname? u = none) ∧
    ∀ (v : String) (before after : List (List Char)) (line : List Char),
      u.toList.splitOn '\n' = before ++ after →
      v.toList.splitOn '\n' = before ++ line :: after →
      (line = "DEVNAME=".toList ∨ ¬"DEVNAME=".toList <+: line ∨
        ∃ l ∈ before, isDevnameLine l = true) →
      devname? v = devname? u := by
  refine ⟨ofString?_devname, fun line => find?_isDevnameLine_iff, ?_, ?_, ?_⟩
  · intro line hfind
    refine ⟨captures?_some hfind, trim (line.drop 8), isTrimmed_trim _, ?_⟩
    rw [devname?_eq, hfind]
    rfl
  · intro hfind
    refine ⟨captures?_none hfind, ?_⟩
    rw [devname?_eq, hfind]
    rfl
  · intro v before after line hu hv hline
    rw [devname?_eq, devname?_eq, hu, hv, find?_isDevnameLine_insert hline]

/-- A line whose key does not come first, a line without a value, and two names. -/
def crowdedDescription : String :=
  "MAJOR=81\nXDEVNAME=no\nDEVNAME=\nDEVNAME= video 0=a\t\r\nDEVNAME=later\n"

example : devname? crowdedDescription = some "video 0=a" := by decide +kernel

theorem first_line_gives_devname_crowded :
    (crowdedDescription.toList.splitOn '\n').find? isDevnameLine =
        some "DEVNAME= video 0=a\t\r".toList ∧
      (∃ i j, devnamePattern.MatchesFirst crowdedDescription.toList.toArray i j ∧
        (Pattern.group 1 devnameGroup).Matches crowdedDescription.toList.toArray (i + 8) j ∧
        "DEVNAME= video 0=a\t\r".toList = crowdedDescription.toList.extract i j) ∧
      (∃ start stop, devnamePattern.captures? crowdedDescription.toList.toArray =
          some [(1, start, stop)] ∧
        crowdedDescription.toList.extract start stop = " video 0=a\t\r".toList) ∧
      (∃ name, IsTrimmed " video 0=a\t\r".toList name ∧
        devname? crowdedDescription = if name = [] then none else some (String.ofList name)) ∧
      devname? "XDEVNAME=no\nDEVNAME=\n" = none ∧
      devname? (crowdedDescription ++ "DEVNAME=last\n") = devname? crowdedDescription := by
  obtain ⟨-, hmatch, hname, -, hother⟩ := first_line_gives_devname crowdedDescription
  obtain ⟨-, -, -, hnone, -⟩ := first_line_gives_devname "XDEVNAME=no\nDEVNAME=\n"
  have hfind : (crowdedDescription.toList.splitOn '\n').find? isDevnameLine =
      some "DEVNAME= video 0=a\t\r".toList := by decide
  obtain ⟨hgroup, hnamed⟩ := hname _ hfind
  refine ⟨hfind, (hmatch _).mp hfind, hgroup, hnamed, (hnone (by decide)).2, ?_⟩
  refine hother _ ["MAJOR=81".toList, "XDEVNAME=no".toList, "DEVNAME=".toList,
    "DEVNAME= video 0=a\t\r".toList, "DEVNAME=later".toList] [[]] "DEVNAME=last".toList
    (by decide) (by decide) ?_
  exact .inr (.inr ⟨"DEVNAME= video 0=a\t\r".toList, by decide, by decide⟩)

end MediaPairing
