import MarkView.Proofs.Html.Scheme
/-!
# Which addresses are kept

`safeUrl` decides by the first colon of an address. This is the same as to ask two things of the
whole address (`isSafe_iff`): whether it is relative, so that no colon precedes all path, query and
fragment, and whether a safe scheme and a colon stand at its start, in letters of any case.
`safeUrl_keeps` is what that means for those who write addresses: none of these two kinds is ever
blanked, and all others are, among them all in which a browser finds a scheme that is not safe.
-/

namespace MarkView.Html

/-- An address is relative if no colon comes before the first `/`, `?` or `#` in it. -/
def IsRelative (url : List Char) : Prop :=
  ':' ∉ url.takeWhile fun c => c != '/' && c != '?' && c != '#'

instance (url : List Char) : Decidable (IsRelative url) :=
  inferInstanceAs (Decidable (':' ∉ _))

/-- A safe scheme, in letters of any case, and a colon stand at the start of an address. -/
def HasSafeScheme (url : List Char) : Prop :=
  ∃ scheme rest, url = scheme ++ ':' :: rest ∧
    String.ofList (scheme.map Char.toLower) ∈ safeSchemes

section FirstColon

variable {url before rest : List Char}

theorem isRelative_of_not_mem (h : ':' ∉ url) : IsRelative url :=
  fun hmem => h ((List.takeWhile_sublist _).subset hmem)

/-- What stands before the first colon decides whether an address is relative. -/
theorem isRelative_append_colon (h : ':' ∉ before) :
    IsRelative (before ++ ':' :: rest) ↔ before.any endsScheme = true := by
  have hends (c : Char) : (c != '/' && c != '?' && c != '#') = !endsScheme c := by
    simp [endsScheme, bne]
  rw [IsRelative, funext hends, List.any_eq_true]
  constructor
  · intro hcolon
    by_contra hnone
    have hgoes : ∀ c ∈ before, (!endsScheme c) = true := by
      intro c hc
      simpa using fun hstop => hnone ⟨c, hc, hstop⟩
    -- nothing stops before the colon, and the colon itself does not stop either
    refine hcolon ?_
    rw [List.takeWhile_append_of_pos hgoes]
    exact List.mem_append_right _ (by simp [endsScheme])
  · rintro ⟨c, hc, hstop⟩ hcolon
    rw [List.takeWhile_append, if_neg] at hcolon
    · exact h ((List.takeWhile_sublist _).subset hcolon)
    · intro hall
      have hself := (List.takeWhile_sublist _).eq_of_length hall
      have hgoes := List.takeWhile_eq_self_iff.mp hself c hc
      simp [hstop] at hgoes

theorem colon_not_mem_of_safeScheme
    (h : String.ofList (before.map Char.toLower) ∈ safeSchemes) : ':' ∉ before :=
  fun hcolon => absurd (isAlpha_of_safeScheme h ':' hcolon) (by decide)

/-- What stands before the first colon is all that can be a scheme. -/
theorem hasSafeScheme_append_colon (h : ':' ∉ before) :
    HasSafeScheme (before ++ ':' :: rest) ↔
      String.ofList (before.map Char.toLower) ∈ safeSchemes := by
  refine ⟨?_, fun hsafe => ⟨before, rest, rfl, hsafe⟩⟩
  rintro ⟨scheme, after, heq, hsafe⟩
  have hscheme : ':' ∉ scheme := colon_not_mem_of_safeScheme hsafe
  rw [← takeWhile_append_colon h rest, heq, takeWhile_append_colon hscheme]
  exact hsafe

/-- **An address is safe just when it is relative or has a safe scheme.** -/
theorem isSafe_iff : isSafe url = true ↔ IsRelative url ∨ HasSafeScheme url := by
  by_cases hcolon : ':' ∈ url
  · obtain ⟨before, rest, rfl, hbefore⟩ := List.eq_append_cons_of_mem hcolon
    rw [isRelative_append_colon hbefore, hasSafeScheme_append_colon hbefore,
      isSafe_append_colon hbefore]
  · have hwhole : url.takeWhile (· != ':') = url :=
      List.takeWhile_eq_self_iff.mpr fun c hc => by simpa using ne_of_mem_of_not_mem hc hcolon
    simp [isSafe, hwhole, isRelative_of_not_mem hcolon]

end FirstColon

theorem safeUrl_of_isSafe {url : String} (h : isSafe url.toList = true) : safeUrl url = url :=
  if_pos h

theorem safeUrl_of_not_isSafe {url : String} (h : ¬ isSafe url.toList = true) : safeUrl url = "" :=
  if_neg h

/-- An address is kept just when it is safe: the empty one, which all others are blanked to, is
relative. -/
theorem safeUrl_eq_self_iff {url : String} : safeUrl url = url ↔ isSafe url.toList = true := by
  refine ⟨fun hkept => ?_, safeUrl_of_isSafe⟩
  by_contra hunsafe
  rw [safeUrl_of_not_isSafe hunsafe] at hkept
  rw [← hkept] at hunsafe
  exact hunsafe rfl

/-- **What an address is checked for.** It is kept or blanked as a whole. It is kept just when it
is relative or starts with a safe scheme, in letters of any case. It is blanked whenever a browser
finds a scheme in it that is not a safe one. What passed the check passes it again. -/
theorem safeUrl_keeps (url : String) :
    (safeUrl url = url ∨ safeUrl url = "") ∧
    (safeUrl url = url ↔ IsRelative url.toList ∨ HasSafeScheme url.toList) ∧
    (∀ scheme, browserScheme url = some scheme → scheme ∉ safeSchemes → safeUrl url = "") ∧
    safeUrl (safeUrl url) = safeUrl url := by
  have hcases : safeUrl url = url ∨ safeUrl url = "" := by
    by_cases hsafe : isSafe url.toList = true
    · exact .inl (safeUrl_of_isSafe hsafe)
    · exact .inr (safeUrl_of_not_isSafe hsafe)
  refine ⟨hcases, safeUrl_eq_self_iff.trans isSafe_iff, ?_, ?_⟩
  · intro scheme hscheme hunsafe
    exact safeUrl_of_not_isSafe fun hsafe => hunsafe (browserScheme_of_isSafe hsafe hscheme)
  · rcases hcases with hkept | hblanked
    · rw [hkept, hkept]
    · rw [hblanked]
      rfl

example : safeUrl "MailTo:a?b:c" = "MailTo:a?b:c" := by decide

end MarkView.Html
