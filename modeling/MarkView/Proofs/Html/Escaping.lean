import MarkView.Proofs.Html.Locality
import MarkView.Proofs.Html.PlainText
/-!
# Escaping is a code

An escaped text can be read back from left to right, whatever it says (`escape_is_code`): no
character is written as something that goes on in what is written for the next one. So a text may
itself hold what looks like an entity, or the first half of one and be followed by the other.

What is written has no character that means something to a reader of HTML but the ampersands that
begin an entity (`Escaped`). That holds of what is written for one character, and it goes over to
a whole text since an entity of one part does not reach into the next (`Escaped.append`).
-/

namespace MarkView.Html

/-! ## Character by character -/

/-- The written form of a text that is put together one character after the other, whether there is
anything to escape in it or not. -/
def escapeEach (s : String) : String :=
  s.toList.foldl (fun out c => out ++ String.ofList (escapeChar c)) ""

/-- **To leave out the characters that need no escaping changes nothing**: a text without special
characters is what is put together of its characters. -/
theorem escape_eq_escapeEach (s : String) : escape s = escapeEach s := by
  have hfold : ∀ (cs : List Char) (out : String),
      (cs.foldl (fun out c => out ++ String.ofList (escapeChar c)) out).toList =
        out.toList ++ escapeChars cs := by
    intro cs
    induction cs with
    | nil => exact fun out => (List.append_nil _).symm
    | cons c rest ih =>
      intro out
      rw [List.foldl_cons, ih, String.toList_append, String.toList_ofList, List.append_assoc]
      rfl
  rw [← String.toList_inj, toList_escape, escapeEach, hfold]
  rfl

/-! ## What is written -/

/-- The entities that stand for one character each. -/
def characterEntities : List (List Char) :=
  ["&amp;".toList, "&lt;".toList, "&gt;".toList, "&quot;".toList, "&#39;".toList]

/-- Characters that are no markup wherever they stand: no angle bracket and no quote is among them,
and each ampersand begins an entity. -/
structure Escaped (cs : List Char) : Prop where
  plain : ∀ c ∈ cs, c ∉ ['<', '>', '"', '\'']
  entity : ∀ rest, '&' :: rest <:+ cs → ∃ entity ∈ characterEntities, entity <+: '&' :: rest

namespace Escaped

variable {cs name xs ys : List Char}

/-- Among characters that are not special there is no ampersand to look at. -/
theorem ofPlain (h : cs.any isSpecial = false) : Escaped cs := by
  have hspecial : ∀ c ∈ cs, ¬ isSpecial c = true := List.any_eq_false.mp h
  constructor
  · intro c hc hmarkup
    refine hspecial c hc ?_
    simp only [List.mem_cons, List.not_mem_nil, or_false] at hmarkup
    rcases hmarkup with rfl | rfl | rfl | rfl <;> rfl
  · intro rest hrest
    have hamp : '&' ∈ cs := hrest.mem List.mem_cons_self
    exact absurd rfl (hspecial '&' hamp)

/-- An entity has one special character, the ampersand that it begins with. -/
theorem ofEntity (h : '&' :: name ∈ characterEntities) (hname : name.any isSpecial = false) :
    Escaped ('&' :: name) := by
  have hplain : Escaped name := ofPlain hname
  refine ⟨List.forall_mem_cons.mpr ⟨by decide, hplain.plain⟩, fun rest hrest => ?_⟩
  rcases List.suffix_cons_iff.mp hrest with hwhole | hinner
  · exact ⟨'&' :: name, h, hwhole ▸ List.prefix_rfl⟩
  · exact hplain.entity rest hinner

/-- A row of characters is escaped if its parts are: the entity that an ampersand of the first part
begins ends in that part as well. -/
theorem append (hxs : Escaped xs) (hys : Escaped ys) : Escaped (xs ++ ys) := by
  constructor
  · intro c hc
    rcases List.mem_append.mp hc with hc | hc
    · exact hxs.plain c hc
    · exact hys.plain c hc
  · rintro rest ⟨before, hsplit⟩
    rcases List.append_eq_append_iff.mp hsplit with ⟨inner, hfirst, hrest⟩ | ⟨inner, -, hsecond⟩
    · cases inner with
      | nil => exact hys.entity rest ⟨[], hrest⟩
      | cons c inner =>
        -- the ampersand is in the first part
        obtain ⟨rfl, rfl⟩ := List.cons.inj hrest
        obtain ⟨entity, hmem, hprefix⟩ := hxs.entity inner ⟨before, hfirst.symm⟩
        exact ⟨entity, hmem, hprefix.trans (List.prefix_append ('&' :: inner) ys)⟩
    · exact hys.entity rest ⟨inner, hsecond.symm⟩

theorem ofChar (c : Char) : Escaped (escapeChar c) := by
  refine escapeChar_cases ?_ ?_ ?_ ?_ ?_ (fun c hc => ofPlain (by simpa using hc)) c
  all_goals exact ofEntity (by decide) (by decide)

/-- **What is written for a text is escaped.** -/
theorem ofChars (cs : List Char) : Escaped (escapeChars cs) := by
  induction cs with
  | nil => exact ofPlain rfl
  | cons c rest ih =>
    rw [escapeChars, List.flatMap_cons]
    exact (ofChar c).append ih

end Escaped

/-! ## Reading back -/

/-- **Escaping is a code.** To replace the entities from left to right gives back every text, so
that no two texts are written in one way. Nothing that is written can be taken for markup; a text
may be escaped in parts; and one that needs no escaping is left as escaping each of its characters
would leave it. -/
theorem escape_is_code :
    (∀ s, String.ofList (decode (escape s).toList) = s) ∧
    (∀ s, Escaped (escape s).toList) ∧
    (∀ s t, escape (s ++ t) = escape s ++ escape t) ∧
    (∀ s, escape s = escapeEach s) ∧
    Function.Injective escape := by
  have hdecode : ∀ s, String.ofList (decode (escape s).toList) = s := by
    intro s
    rw [toList_escape, decode_escapeChars, String.ofList_toList]
  have hescaped : ∀ s, Escaped (escape s).toList := by
    intro s
    rw [toList_escape]
    exact Escaped.ofChars s.toList
  refine ⟨hdecode, hescaped, escape_append, escape_eq_escapeEach, ?_⟩
  intro s t h
  rw [← hdecode s, h, hdecode t]

/-- Of a text that looks like an entity the ampersand is escaped, also where the text comes in two
parts. -/
example : escape "&am" ++ escape "p;" = "&amp;amp;" ∧
    decode "&amp;amp;".toList = "&amp;".toList := by
  decide

end MarkView.Html
