import MarkView.Html.Url
import Mathlib.Data.List.TakeWhile
/-!
# The scheme that a browser reads

A browser does not read an address as `safeUrl` does. It skips the spaces and
control characters before it, drops the tabs and line breaks in it, and takes as
the scheme what then precedes the first colon, if that has the form of one.
`browserScheme` is this second reader, and `browserScheme_safeUrl` says that it
finds no scheme in a checked address but the safe ones.
-/

namespace MarkView.Html

/-- Characters that a browser skips before an address. -/
def isLeading (c : Char) : Bool := c ≤ ' '

/-- Characters that a browser drops wherever they stand in an address. -/
def isDropped (c : Char) : Bool := c == '\t' || c == '\n' || c == '\r'

/-- An address as a browser sees it. -/
def tidy (url : List Char) : List Char :=
  (url.dropWhile isLeading).filter (!isDropped ·)

/-- Characters of a scheme after its first. -/
def isSchemeChar (c : Char) : Bool :=
  c.isAlpha || c.isDigit || c == '+' || c == '-' || c == '.'

/-- The scheme characters up to a colon, if nothing else comes before it. -/
def upToColon : List Char → Option (List Char)
  | [] => none
  | c :: rest =>
    if c = ':' then some []
    else if isSchemeChar c then (upToColon rest).map (c :: ·)
    else none

/-- The scheme at the start of a text. -/
def scheme? : List Char → Option (List Char)
  | [] => none
  | c :: rest => if c.isAlpha then (upToColon rest).map (c :: ·) else none

/-- The scheme that a browser reads in an address, in small letters. -/
def browserScheme (url : String) : Option String :=
  (scheme? (tidy url.toList)).map fun scheme => String.ofList (scheme.map Char.toLower)

/-! ## What the browser takes for a scheme -/

theorem upToColon_eq_some {cs scheme : List Char} (h : upToColon cs = some scheme) :
    (∃ rest, cs = scheme ++ ':' :: rest) ∧ ∀ c ∈ scheme, isSchemeChar c = true := by
  induction cs generalizing scheme with
  | nil => simp [upToColon] at h
  | cons c cs ih =>
    rw [upToColon] at h
    split at h
    · next hc =>
      obtain rfl := Option.some.inj h
      exact ⟨⟨cs, by rw [hc, List.nil_append]⟩, fun c hc => nomatch hc⟩
    · split at h
      · next hc =>
        obtain ⟨tail, htail, rfl⟩ := Option.map_eq_some_iff.mp h
        obtain ⟨⟨rest, rfl⟩, hchars⟩ := ih htail
        exact ⟨⟨rest, rfl⟩, List.forall_mem_cons.mpr ⟨hc, hchars⟩⟩
      · simp at h

/-- A scheme is followed by a colon and has scheme characters only. -/
theorem scheme?_eq_some {cs scheme : List Char} (h : scheme? cs = some scheme) :
    (∃ rest, cs = scheme ++ ':' :: rest) ∧ ∀ c ∈ scheme, isSchemeChar c = true := by
  cases cs with
  | nil => simp [scheme?] at h
  | cons c cs =>
    rw [scheme?] at h
    split at h
    · next hc =>
      obtain ⟨tail, htail, rfl⟩ := Option.map_eq_some_iff.mp h
      obtain ⟨⟨rest, rfl⟩, hchars⟩ := upToColon_eq_some htail
      exact ⟨⟨rest, rfl⟩, List.forall_mem_cons.mpr ⟨by simp [isSchemeChar, hc], hchars⟩⟩
    · simp at h

theorem isSchemeChar_of_endsScheme {c : Char} (h : endsScheme c = true) :
    isSchemeChar c = false := by
  simp only [endsScheme, Bool.or_eq_true, beq_iff_eq] at h
  rcases h with (rfl | rfl) | rfl <;> decide

theorem isLeading_of_endsScheme {c : Char} (h : endsScheme c = true) : isLeading c = false := by
  simp only [endsScheme, Bool.or_eq_true, beq_iff_eq] at h
  rcases h with (rfl | rfl) | rfl <;> decide

/-! ## What the browser leaves alone -/

theorem isDropped_of_not_isLeading {c : Char} (h : isLeading c = false) : isDropped c = false := by
  by_contra hdropped
  simp only [isDropped, Bool.not_eq_false, Bool.or_eq_true, beq_iff_eq] at hdropped
  rcases hdropped with (rfl | rfl) | rfl <;> revert h <;> decide

theorem mem_of_mem_tidy {c : Char} {url : List Char} (h : c ∈ tidy url) : c ∈ url :=
  (List.dropWhile_sublist _).subset (List.mem_filter.mp h).1

/-- A visible character stays. -/
theorem mem_tidy {c : Char} {url : List Char} (h : c ∈ url) (hc : isLeading c = false) :
    c ∈ tidy url := by
  refine List.mem_filter.mpr ⟨?_, by simp [isDropped_of_not_isLeading hc]⟩
  rw [← List.takeWhile_append_dropWhile (p := isLeading) (l := url), List.mem_append] at h
  exact h.resolve_left fun hleading => by simpa [hc] using List.mem_takeWhile_imp hleading

theorem tidy_of_visible {url : List Char} (h : ∀ c ∈ url, isLeading c = false) :
    tidy url = url := by
  have hdrop : url.dropWhile isLeading = url := by
    rw [List.dropWhile_eq_self_iff]
    intro hpos
    simp [h _ (List.getElem_mem hpos)]
  rw [tidy, hdrop, List.filter_eq_self]
  exact fun c hc => by simp [isDropped_of_not_isLeading (h c hc)]

/-- A colon stays, and what precedes it is tidied by itself. -/
theorem tidy_append_colon (before after : List Char) :
    ∃ rest, tidy (before ++ ':' :: after) = tidy before ++ ':' :: rest := by
  have hcolon : isLeading ':' = false := by decide
  refine ⟨after.filter (!isDropped ·), ?_⟩
  rw [tidy, tidy, List.dropWhile_append]
  split
  · next hempty =>
    rw [List.isEmpty_iff] at hempty
    simp [hempty, hcolon, isDropped_of_not_isLeading hcolon]
  · simp [isDropped_of_not_isLeading hcolon]

theorem takeWhile_append_colon {before : List Char} (h : ':' ∉ before) (after : List Char) :
    (before ++ ':' :: after).takeWhile (· != ':') = before := by
  rw [List.takeWhile_append_of_pos]
  · simp
  · intro c hc
    simpa using ne_of_mem_of_not_mem hc h

/-! ## Checked addresses -/

/-- What stands before the first colon decides whether an address is safe. -/
theorem isSafe_append_colon {before : List Char} (h : ':' ∉ before) (after : List Char) :
    isSafe (before ++ ':' :: after) = true ↔
      before.any endsScheme = true ∨ String.ofList (before.map Char.toLower) ∈ safeSchemes := by
  have hlonger : (before.length == (before ++ ':' :: after).length) = false := by simp
  rw [isSafe, takeWhile_append_colon h, hlonger, Bool.false_or, Bool.or_eq_true,
    List.contains_iff_mem]

theorem isAlpha_of_isLower_toLower {c : Char} (h : c.toLower.isLower = true) :
    c.isAlpha = true := by
  show (c.isUpper || c.isLower) = true
  rw [Bool.or_eq_true]
  by_cases hupper : c.val ≥ 'A'.val ∧ c.val ≤ 'Z'.val
  · exact .inl (decide_eq_true hupper)
  · have hsame : c.toLower = c := dif_neg hupper
    exact .inr (hsame ▸ h)

theorem isLeading_of_isAlpha {c : Char} (h : c.isAlpha = true) : isLeading c = false := by
  have hletter : (decide ('A'.val ≤ c.val ∧ c.val ≤ 'Z'.val) ||
      decide ('a'.val ≤ c.val) && decide (c.val ≤ 'z'.val)) = true := h
  simp only [Bool.or_eq_true, Bool.and_eq_true, decide_eq_true_eq,
    UInt32.le_iff_toNat_le] at hletter
  have hA : 'A'.val.toNat = 65 := rfl
  have ha : 'a'.val.toNat = 97 := rfl
  have hspace : ' '.val.toNat = 32 := rfl
  rw [isLeading, decide_eq_false_iff_not, Char.le_def, UInt32.le_iff_toNat_le]
  omega

theorem isLower_of_safeScheme {scheme : String} (h : scheme ∈ safeSchemes) :
    ∀ c ∈ scheme.toList, c.isLower = true := by
  have hall : safeSchemes.all (·.toList.all Char.isLower) = true := by decide
  exact List.all_eq_true.mp (List.all_eq_true.mp hall scheme h)

/-- A safe scheme is spelled with letters only. -/
theorem isAlpha_of_safeScheme {scheme : List Char}
    (h : String.ofList (scheme.map Char.toLower) ∈ safeSchemes) :
    ∀ c ∈ scheme, c.isAlpha = true := by
  intro c hc
  refine isAlpha_of_isLower_toLower (isLower_of_safeScheme h _ ?_)
  rw [String.toList_ofList]
  exact List.mem_map_of_mem hc

/-- What a safe scheme is spelled with is visible to the browser. -/
theorem tidy_of_safeScheme {scheme : List Char}
    (h : String.ofList (scheme.map Char.toLower) ∈ safeSchemes) : tidy scheme = scheme :=
  tidy_of_visible fun c hc => isLeading_of_isAlpha (isAlpha_of_safeScheme h c hc)

/-- **An address that passed the check has no scheme but a safe one**, also for a
browser. -/
theorem browserScheme_of_isSafe {url scheme : String} (hsafe : isSafe url.toList = true)
    (h : browserScheme url = some scheme) : scheme ∈ safeSchemes := by
  obtain ⟨chars, hchars, rfl⟩ := Option.map_eq_some_iff.mp h
  obtain ⟨⟨after, htidy⟩, hschemeChars⟩ := scheme?_eq_some hchars
  -- the colon that ends the scheme is the first one of the address itself
  have hcolon : ':' ∈ url.toList := mem_of_mem_tidy (by rw [htidy]; simp)
  obtain ⟨before, rest, hurl, hbefore⟩ := List.eq_append_cons_of_mem hcolon
  obtain ⟨tidyRest, htidyUrl⟩ := tidy_append_colon before rest
  have hnot : ':' ∉ chars := fun hmem => absurd (hschemeChars _ hmem) (by decide)
  have heq : tidy before = chars := by
    rw [hurl, htidyUrl] at htidy
    rw [← takeWhile_append_colon (mt mem_of_mem_tidy hbefore) tidyRest, htidy,
      takeWhile_append_colon hnot]
  rw [hurl, isSafe_append_colon hbefore, List.any_eq_true] at hsafe
  rcases hsafe with ⟨c, hmem, hends⟩ | hscheme
  · -- what ends a scheme is visible, so the browser has not taken it for part of one
    have hseen : c ∈ tidy before := mem_tidy hmem (isLeading_of_endsScheme hends)
    rw [heq] at hseen
    have hchar := hschemeChars c hseen
    rw [isSchemeChar_of_endsScheme hends] at hchar
    exact absurd hchar Bool.false_ne_true
  · -- a safe scheme is all letters, so the browser sees the same one
    rw [← heq, tidy_of_safeScheme hscheme]
    exact hscheme

/-- **A checked address has no scheme but a safe one.** -/
theorem browserScheme_safeUrl {url scheme : String}
    (h : browserScheme (safeUrl url) = some scheme) : scheme ∈ safeSchemes := by
  rw [safeUrl] at h
  split at h
  · next hsafe => exact browserScheme_of_isSafe hsafe h
  · have hempty : browserScheme "" = none := by decide
    rw [hempty] at h
    exact nomatch h

example : browserScheme " java\nscript:f()" = some "javascript" := by decide

example : safeUrl " java\nscript:f()" = "" := by decide

/-- A link within the document has no scheme. -/
theorem browserScheme_fragment (label : String) : browserScheme ("#" ++ label) = none := by
  have htidy : tidy ("#" ++ label).toList = '#' :: label.toList.filter (!isDropped ·) := by
    have hhash : isLeading '#' = false := by decide
    simp [tidy, hhash, isDropped_of_not_isLeading hhash]
  rw [browserScheme, htidy]
  rfl

end MarkView.Html
