/-!
# White space

The `White_Space` characters of Unicode, and the two operations on text that
are stated in terms of them: trimming both ends, and splitting into words.
-/

namespace MarkView.Text

/-- A character with the Unicode property `White_Space`. -/
def isSpace (c : Char) : Bool :=
  let n := c.toNat
  (0x9 ≤ n && n ≤ 0xD) || n == 0x20 || n == 0x85 || n == 0xA0 || n == 0x1680 ||
    (0x2000 ≤ n && n ≤ 0x200A) || n == 0x2028 || n == 0x2029 || n == 0x202F ||
    n == 0x205F || n == 0x3000

/-- Drop white space at both ends. -/
def trim (s : List Char) : List Char :=
  ((s.dropWhile isSpace).reverse.dropWhile isSpace).reverse

/-- Collect the words of `s`, the latest of which is `word` so far, backwards. -/
def wordsFrom (word : List Char) : List Char → List (List Char)
  | [] => if word.isEmpty then [] else [word.reverse]
  | c :: rest =>
    if isSpace c then
      if word.isEmpty then wordsFrom [] rest else word.reverse :: wordsFrom [] rest
    else wordsFrom (c :: word) rest

/-- The maximal runs without white space, in order. None of them is empty. -/
def words (s : List Char) : List (List Char) := wordsFrom [] s

theorem ne_nil_of_mem_wordsFrom {word s w : List Char} (h : w ∈ wordsFrom word s) : w ≠ [] := by
  induction s generalizing word with
  | nil =>
    cases word with
    | nil => simp [wordsFrom] at h
    | cons a r => simp_all [wordsFrom]
  | cons c rest ih =>
    cases hc : isSpace c with
    | false => exact ih (by simpa [wordsFrom, hc] using h)
    | true =>
      cases word with
      | nil => exact ih (by simpa [wordsFrom, hc] using h)
      | cons a r =>
        simp only [wordsFrom, hc, if_true, List.isEmpty_cons, Bool.false_eq_true, if_false,
          List.mem_cons] at h
        rcases h with rfl | h
        · simp
        · exact ih h

theorem ne_nil_of_mem_words {s w : List Char} (h : w ∈ words s) : w ≠ [] :=
  ne_nil_of_mem_wordsFrom h

/-- There is no white space in a word. -/
theorem isSpace_of_mem_wordsFrom {word s w : List Char} (hword : ∀ c ∈ word, isSpace c = false)
    (h : w ∈ wordsFrom word s) : ∀ c ∈ w, isSpace c = false := by
  have hreverse : ∀ c ∈ word.reverse, isSpace c = false := fun c hc =>
    hword c (List.mem_reverse.mp hc)
  induction s generalizing word with
  | nil =>
    rw [wordsFrom] at h
    split at h
    · exact nomatch h
    · rw [List.mem_singleton.mp h]
      exact hreverse
  | cons c rest ih =>
    rw [wordsFrom] at h
    split at h
    · split at h
      · exact ih (by simp) h (by simp)
      · rcases List.mem_cons.mp h with rfl | h
        · exact hreverse
        · exact ih (by simp) h (by simp)
    · next hc =>
      have hlonger : ∀ d ∈ c :: word, isSpace d = false :=
        List.forall_mem_cons.mpr ⟨by simpa using hc, hword⟩
      exact ih hlonger h fun d hd => hlonger d (List.mem_reverse.mp hd)

theorem isSpace_of_mem_words {s w : List Char} (h : w ∈ words s) :
    ∀ c ∈ w, isSpace c = false :=
  isSpace_of_mem_wordsFrom (by simp) h

theorem wordsFrom_of_no_space {word s : List Char} (h : ∀ c ∈ s, isSpace c = false)
    (hne : word ≠ [] ∨ s ≠ []) : wordsFrom word s = [word.reverse ++ s] := by
  induction s generalizing word with
  | nil =>
    have hword : word.isEmpty = false := by simpa using hne
    simp [wordsFrom, hword]
  | cons c rest ih =>
    rw [List.forall_mem_cons] at h
    rw [wordsFrom, h.1, if_neg Bool.false_ne_true, ih h.2 (.inl (List.cons_ne_nil c word))]
    simp

/-- A text without white space is one word. -/
theorem words_of_no_space {s : List Char} (h : ∀ c ∈ s, isSpace c = false) (hne : s ≠ []) :
    words s = [s] :=
  wordsFrom_of_no_space h (.inr hne)

end MarkView.Text
