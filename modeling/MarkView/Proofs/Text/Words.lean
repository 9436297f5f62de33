import MarkView.Text.Space
import Mathlib.Data.List.ReduceOption
/-!
# Words and line breaks

A reading is a text in which line breaks are kept apart from characters: `none` stands for a break.
With white space for each of its breaks it has certain words. If its breaks are left out, it has the
same words just when none of them divides a word (`words_reduceOption_eq_iff`).

The induction goes along the reading, with the word that is under way. What it needs to know of the
characters before is the last one only (`DividedAfter`).
-/

namespace MarkView.Text

variable {last : Option Char} {c : Char} {reading rest : List (Option Char)} {word s : List Char}

/-- A word that is under way goes on to the next white space. -/
theorem wordsFrom_of_ne_nil (h : word ≠ []) :
    wordsFrom word s =
      (word.reverse ++ s.takeWhile (!isSpace ·)) :: words (s.dropWhile (!isSpace ·)) := by
  induction s generalizing word with
  | nil => simp [wordsFrom, words, h]
  | cons c rest ih =>
    cases hc : isSpace c with
    | true => simp [wordsFrom, words, hc, h]
    | false => simp [wordsFrom, hc, ih (List.cons_ne_nil c word)]

/-- A word that is under way ends where it is just when no character of a word follows. -/
theorem wordsFrom_eq_cons_iff {others : List (List Char)} (h : word ≠ []) :
    wordsFrom word s = word.reverse :: others ↔
      (∀ d, s.head? = some d → isSpace d = true) ∧ words s = others := by
  rw [wordsFrom_of_ne_nil h, List.cons.injEq]
  cases s with
  | nil => simp
  | cons d rest => cases hd : isSpace d <;> simp [hd]

/-- **A break divides a word**: what precedes the break and what follows it, other breaks apart, are
no white space. -/
def Divided (reading : List (Option Char)) : Prop :=
  ∃ before after c d, reading = before ++ none :: after ∧
    before.reduceOption.getLast? = some c ∧ isSpace c = false ∧
    after.reduceOption.head? = some d ∧ isSpace d = false

/-- A break divides a word of a reading that comes after the character `last`, if there is one. -/
def DividedAfter (last : Option Char) (reading : List (Option Char)) : Prop :=
  ∃ before after c d, reading = before ++ none :: after ∧
    before.reduceOption.getLast?.or last = some c ∧ isSpace c = false ∧
    after.reduceOption.head? = some d ∧ isSpace d = false

theorem dividedAfter_none_iff : DividedAfter none reading ↔ Divided reading := by
  simp only [DividedAfter, Divided, Option.or_none]

theorem not_dividedAfter_nil : ¬ DividedAfter last [] := by
  rintro ⟨before, after, c, d, h, -⟩
  exact List.append_ne_nil_of_right_ne_nil before (List.cons_ne_nil none after) h.symm

theorem getLast?_cons_or : (c :: s).getLast?.or last = s.getLast?.or (some c) := by
  cases h : s.getLast? <;> simp [List.getLast?_cons, h]

theorem dividedAfter_char : DividedAfter last (some c :: rest) ↔ DividedAfter (some c) rest := by
  constructor
  · rintro ⟨before, after, c', d, h, hc, hspace, hd⟩
    cases before with
    | nil => cases h
    | cons first before =>
      obtain ⟨rfl, rfl⟩ := List.cons.inj h
      rw [List.reduceOption_cons_of_some, getLast?_cons_or] at hc
      exact ⟨before, after, c', d, rfl, hc, hspace, hd⟩
  · rintro ⟨before, after, c', d, rfl, hc, hspace, hd⟩
    refine ⟨some c :: before, after, c', d, rfl, ?_, hspace, hd⟩
    rw [List.reduceOption_cons_of_some, getLast?_cons_or]
    exact hc

theorem dividedAfter_break :
    DividedAfter last (none :: rest) ↔
      (∃ c d, last = some c ∧ isSpace c = false ∧ rest.reduceOption.head? = some d ∧
        isSpace d = false) ∨ DividedAfter last rest := by
  constructor
  · rintro ⟨before, after, c, d, h, hc, hspace, hd⟩
    cases before with
    | nil =>
      obtain ⟨-, rfl⟩ := List.cons.inj h
      exact .inl ⟨c, d, by simpa using hc, hspace, hd⟩
    | cons first before =>
      obtain ⟨rfl, rfl⟩ := List.cons.inj h
      exact .inr ⟨before, after, c, d, rfl, hc, hspace, hd⟩
  · rintro (⟨c, d, rfl, hspace, hd⟩ | ⟨before, after, c, d, rfl, hc, hspace, hd⟩)
    · exact ⟨[], rest, c, d, rfl, rfl, hspace, hd⟩
    · exact ⟨none :: before, after, c, d, rfl, hc, hspace, hd⟩

/-- White space before a reading is as good as nothing. -/
theorem dividedAfter_of_isSpace (hspace : isSpace c = true) :
    DividedAfter (some c) reading ↔ DividedAfter none reading := by
  refine exists_congr fun before => exists_congr fun after => exists_congr fun c' =>
    exists_congr fun d => and_congr_right fun _ => ?_
  cases before.reduceOption.getLast? with
  | none =>
    simp only [Option.none_or, reduceCtorEq, false_and, iff_false]
    rintro ⟨hc, hc', -⟩
    simp_all
  | some last => rfl

/-- What precedes a reading that does not begin with a word is of no matter. -/
theorem dividedAfter_of_head (h : ∀ d, reading.reduceOption.head? = some d → isSpace d = true) :
    DividedAfter last reading ↔ DividedAfter none reading := by
  refine exists_congr fun before => exists_congr fun after => exists_congr fun c =>
    exists_congr fun d => and_congr_right fun hreading => ?_
  cases hbefore : before.reduceOption with
  | nil =>
    have hhead : after.reduceOption.head? = some d → isSpace d = true := fun hd =>
      h d (by simpa [hreading, List.reduceOption_append, hbefore] using hd)
    simp only [List.getLast?_nil, Option.none_or, reduceCtorEq, false_and, iff_false]
    rintro ⟨-, -, hd, hspace⟩
    rw [hhead hd] at hspace
    cases hspace
  | cons first others => simp [List.getLast?_cons]

/-- With its breaks left out, a reading goes on from a word that is under way as it does with white
space for each break, unless a break divides a word. -/
theorem wordsFrom_reduceOption_eq_iff (hword : ∀ c ∈ word, isSpace c = false) :
    wordsFrom word reading.reduceOption = wordsFrom word (reading.map (·.getD '\n')) ↔
      ¬ DividedAfter word.head? reading := by
  induction reading generalizing word with
  | nil => simp [not_dividedAfter_nil]
  | cons first rest ih =>
    have hempty : wordsFrom [] rest.reduceOption = wordsFrom [] (rest.map (·.getD '\n')) ↔
        ¬ DividedAfter none rest := ih (List.forall_mem_nil _)
    cases first with
    | some c =>
      rw [List.reduceOption_cons_of_some, List.map_cons, Option.getD_some, dividedAfter_char]
      cases hc : isSpace c with
      | true =>
        rw [dividedAfter_of_isSpace hc]
        cases word with
        | nil => simpa [wordsFrom, hc] using hempty
        | cons w word => simpa [wordsFrom, hc] using hempty
      | false =>
        have hlonger : ∀ d ∈ c :: word, isSpace d = false := List.forall_mem_cons.mpr ⟨hc, hword⟩
        simpa [wordsFrom, hc] using ih hlonger
    | none =>
      rw [List.reduceOption_cons_of_none, List.map_cons, Option.getD_none, dividedAfter_break]
      have hbreak : isSpace '\n' = true := by decide
      cases word with
      | nil => simpa [wordsFrom, hbreak] using hempty
      | cons w word =>
        have hspaced : wordsFrom (w :: word) ('\n' :: rest.map (·.getD '\n')) =
            (w :: word).reverse :: words (rest.map (·.getD '\n')) := by
          simp [wordsFrom, words, hbreak]
        rw [hspaced, wordsFrom_eq_cons_iff (List.cons_ne_nil w word), not_or]
        constructor
        · rintro ⟨hnext, hsame⟩
          refine ⟨?_, fun hdivided => ?_⟩
          · rintro ⟨c, d, -, -, hd, hspace⟩
            rw [hnext d hd] at hspace
            cases hspace
          · exact hempty.mp hsame ((dividedAfter_of_head hnext).mp hdivided)
        · rintro ⟨hkept, hlater⟩
          have hw : isSpace w = false := (List.forall_mem_cons.mp hword).1
          have hnext : ∀ d, rest.reduceOption.head? = some d → isSpace d = true := fun d hd =>
            eq_true_of_ne_false fun hspace => hkept ⟨w, d, rfl, hw, hd, hspace⟩
          refine ⟨hnext, hempty.mpr fun hdivided => hlater ?_⟩
          exact (dividedAfter_of_head hnext).mpr hdivided

/-- **Words are kept just when no break divides one.** -/
theorem words_reduceOption_eq_iff :
    words reading.reduceOption = words (reading.map (·.getD '\n')) ↔ ¬ Divided reading := by
  rw [← dividedAfter_none_iff]
  exact wordsFrom_reduceOption_eq_iff (by simp)

end MarkView.Text
