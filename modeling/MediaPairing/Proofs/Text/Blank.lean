import Mathlib.Data.List.TakeWhile
import MediaPairing.Text.Blank

/-!
# What trimming keeps

* `IsTrimmed cs name`: `name` is `cs` without the blanks at both ends.
* `isTrimmed_trim`: trimming gives this, for every text.
* `trim_eq_self`: a text without blanks at its ends is kept as it is.
-/

namespace MediaPairing

/-- Blanks stand before and after `name` in `cs`, and none at its ends. Blanks inside are kept. -/
structure IsTrimmed (cs name : List Char) : Prop where
  between : ∃ before after, cs = before ++ name ++ after ∧
    (∀ c ∈ before, isBlank c = true) ∧ ∀ c ∈ after, isBlank c = true
  head : ∀ c, name.head? = some c → isBlank c = false
  last : ∀ c, name.getLast? = some c → isBlank c = false

theorem dropWhile_isBlank {cs : List Char} (h : ∀ c, cs.head? = some c → isBlank c = false) :
    cs.dropWhile isBlank = cs := by
  cases cs with
  | nil => rfl
  | cons c rest => rw [List.dropWhile_cons_of_neg (by rw [h c rfl]; exact Bool.false_ne_true)]

theorem trim_eq_self {cs : List Char} (hhead : ∀ c, cs.head? = some c → isBlank c = false)
    (hlast : ∀ c, cs.getLast? = some c → isBlank c = false) : trim cs = cs := by
  unfold trim trimRight
  rw [dropWhile_isBlank hhead, dropWhile_isBlank, List.reverse_reverse]
  intro c hc
  rw [List.head?_reverse] at hc
  exact hlast c hc

theorem head?_dropWhile_isBlank {cs : List Char} {c : Char}
    (h : (cs.dropWhile isBlank).head? = some c) : isBlank c = false := by
  have hnot := List.head?_dropWhile_not isBlank cs
  rw [h] at hnot
  exact hnot

/-- What `trimRight` drops is blank, and what it keeps does not end in a blank. -/
theorem trimRight_append (cs : List Char) :
    ∃ after, cs = trimRight cs ++ after ∧ ∀ c ∈ after, isBlank c = true := by
  refine ⟨(cs.reverse.takeWhile isBlank).reverse, ?_, fun c hc => ?_⟩
  · unfold trimRight
    rw [← List.reverse_append, List.takeWhile_append_dropWhile, List.reverse_reverse]
  · rw [List.mem_reverse] at hc
    exact List.mem_takeWhile_imp hc

theorem isTrimmed_trim (cs : List Char) : IsTrimmed cs (trim cs) where
  between := by
    obtain ⟨after, hafter, hblank⟩ := trimRight_append (cs.dropWhile isBlank)
    refine ⟨cs.takeWhile isBlank, after, ?_, fun c hc => List.mem_takeWhile_imp hc, hblank⟩
    unfold trim
    rw [List.append_assoc, ← hafter, List.takeWhile_append_dropWhile]
  head := by
    intro c hc
    obtain ⟨after, hafter, -⟩ := trimRight_append (cs.dropWhile isBlank)
    -- what is kept is a beginning of what the first step leaves
    refine head?_dropWhile_isBlank (show (cs.dropWhile isBlank).head? = some c from ?_)
    rw [hafter, List.head?_append]
    change (trimRight (cs.dropWhile isBlank)).head? = some c at hc
    rw [hc]
    rfl
  last := by
    intro c hc
    unfold trim trimRight at hc
    rw [List.getLast?_reverse] at hc
    exact head?_dropWhile_isBlank hc

end MediaPairing
