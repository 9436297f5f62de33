import MarkView.Proofs.Html.Reader
/-!
# What is written is read

The written form of pieces of HTML, read by `lex`, gives the tags and the
characters of these pieces (`lex_writeAll`), whatever their texts and attribute
values hold. The names of tags and attributes are not escaped, so they have to
be `Readable`.
-/

namespace MarkView.Html

/-- The tags and characters of a piece. -/
def Markup.tokens : Markup → List Token
  | startTag name attributes => [.startTag name attributes]
  | endTag name => [.endTag name]
  | text content => content.toList.map .char

/-- Names as the reader takes them. -/
def IsName (name : String) : Prop :=
  name.toList ≠ [] ∧ ∀ c ∈ name.toList, isNameChar c = true

/-- The names of a list can be checked by evaluation. -/
theorem isName_of_all {names : List String}
    (h : names.all (fun name => !name.toList.isEmpty && name.toList.all isNameChar) = true) :
    ∀ name ∈ names, IsName name := by
  intro name hname
  have hchecked := List.all_eq_true.mp h name hname
  rw [Bool.and_eq_true, List.all_eq_true] at hchecked
  exact ⟨by simpa using hchecked.1, hchecked.2⟩

/-- An attribute with a name, and with a value unless it may stand without. -/
structure Attribute.Readable (a : Attribute) : Prop where
  isName : IsName a.name
  flag : a.value = none → a.name ∈ flagNames

/-- A piece whose names are names. -/
def Markup.Readable : Markup → Prop
  | startTag name attributes => IsName name ∧ ∀ a ∈ attributes, a.Readable
  | endTag name => IsName name
  | text _ => True

/-! ## Escaping -/

theorem escapeChar_of_plain {c : Char} (h : isSpecial c = false) : escapeChar c = [c] := by
  simp only [isSpecial, Bool.or_eq_false_iff, beq_eq_false_iff_ne] at h
  obtain ⟨⟨⟨⟨hamp, hlt⟩, hgt⟩, hquot⟩, hapos⟩ := h
  simp [escapeChar, hamp, hlt, hgt, hquot, hapos]

/-- **A character is one of the five that are written as entities, or it is plain** and stands
for itself. -/
@[elab_as_elim]
theorem escapeChar_cases {motive : Char → List Char → Prop} (amp : motive '&' "&amp;".toList)
    (lt : motive '<' "&lt;".toList) (gt : motive '>' "&gt;".toList)
    (quot : motive '"' "&quot;".toList) (apos : motive '\'' "&#39;".toList)
    (plain : ∀ c, isSpecial c = false → motive c [c]) (c : Char) : motive c (escapeChar c) := by
  cases hc : isSpecial c with
  | false =>
    rw [escapeChar_of_plain hc]
    exact plain c hc
  | true =>
    simp only [isSpecial, Bool.or_eq_true, beq_iff_eq] at hc
    rcases hc with (((rfl | rfl) | rfl) | rfl) | rfl
    · exact amp
    · exact lt
    · exact gt
    · exact quot
    · exact apos

theorem escapeChars_of_plain {cs : List Char} (h : cs.any isSpecial = false) :
    escapeChars cs = cs := by
  induction cs with
  | nil => rfl
  | cons c rest ih =>
    rw [List.any_cons, Bool.or_eq_false_iff] at h
    have hrest : rest.flatMap escapeChar = rest := ih h.2
    rw [escapeChars, List.flatMap_cons, escapeChar_of_plain h.1, hrest, List.singleton_append]

/-- **Escaping a text is escaping its characters**, also where nothing has to be. -/
theorem toList_escape (s : String) : (escape s).toList = escapeChars s.toList := by
  unfold escape
  split
  · exact String.toList_ofList
  · next h => exact (escapeChars_of_plain (Bool.not_eq_true _ ▸ h)).symm

namespace Lexer

variable {tokens : List Token} {tag : Opening} {name : String}

theorem run_append (xs ys : List Char) (lexer : Lexer) :
    run (xs ++ ys) lexer = (run xs lexer).bind (run ys) := by
  induction xs generalizing lexer with
  | nil => rfl
  | cons x rest ih =>
    rw [List.cons_append, run, run]
    cases lexer.step x with
    | none => rfl
    | some next => exact ih next

/-! ## Text and values -/

/-- **An escaped character is read as the character**, in text and in a value. -/
theorem run_escapeChar (place : Place) (c : Char) :
    run (escapeChar c) ⟨.literal place, tokens⟩ = some (put tokens c place) := by
  refine escapeChar_cases rfl rfl rfl rfl rfl (fun c hc => ?_) c
  -- a plain character means something neither in text nor in a value
  simp only [isSpecial, Bool.or_eq_false_iff, beq_eq_false_iff_ne] at hc
  obtain ⟨⟨⟨⟨hamp, hlt⟩, hgt⟩, hquot⟩, hapos⟩ := hc
  cases place <;> simp [run, step, stepLiteral, hamp, hlt, hgt, hquot]

theorem run_escape_content (s : String) :
    run (escape s).toList ⟨.literal .content, tokens⟩ =
      some ⟨.literal .content, (s.toList.map .char).reverse ++ tokens⟩ := by
  rw [toList_escape]
  generalize s.toList = cs
  induction cs generalizing tokens with
  | nil => rfl
  | cons c rest ih =>
    rw [escapeChars, List.flatMap_cons, run_append, run_escapeChar, Option.bind_some, put]
    simpa [escapeChars] using ih

theorem run_escape_value (s : String) (soFar : List Char) :
    run (escape s).toList ⟨.literal (.value tag name soFar), tokens⟩ =
      some ⟨.literal (.value tag name (s.toList.reverse ++ soFar)), tokens⟩ := by
  rw [toList_escape]
  generalize s.toList = cs
  induction cs generalizing soFar with
  | nil => rfl
  | cons c rest ih =>
    rw [escapeChars, List.flatMap_cons, run_append, run_escapeChar, Option.bind_some, put]
    simpa [escapeChars] using ih (c :: soFar)

/-! ## Tags -/

/-- **A name is read to its end**, in every mode that collects one. -/
theorem run_name (mode : List Char → Mode) (h : IsName name)
    (hstep : ∀ soFar c, isNameChar c = true →
      step ⟨mode soFar, tokens⟩ c = some ⟨mode (c :: soFar), tokens⟩) :
    run name.toList ⟨mode [], tokens⟩ = some ⟨mode name.toList.reverse, tokens⟩ := by
  suffices hgo : ∀ cs soFar, (∀ c ∈ cs, isNameChar c = true) →
      run cs ⟨mode soFar, tokens⟩ = some ⟨mode (cs.reverse ++ soFar), tokens⟩ by
    simpa using hgo name.toList [] h.2
  intro cs
  induction cs with
  | nil => exact fun soFar _ => rfl
  | cons c rest ih =>
    intro soFar hcs
    rw [List.forall_mem_cons] at hcs
    rw [run, hstep soFar c hcs.1, Option.bind_some, ih (c :: soFar) hcs.2]
    simp

/-- The reader has seen the start tag `tag` up to here, and takes a blank for the
start of another attribute and a `>` for the end of the tag. -/
structure Awaits (tokens : List Token) (tag : Opening) (lexer : Lexer) : Prop where
  blank : lexer.step ' ' = some ⟨.attributeName tag [], tokens⟩
  close : lexer.step '>' = some (finish tokens tag)

theorem awaits_startName :
    Awaits tokens { name } ⟨.startName name.toList.reverse, tokens⟩ := by
  constructor <;> simp [step, isNameChar, String.ofList_toList]

theorem awaits_afterValue : Awaits tokens tag ⟨.afterValue tag, tokens⟩ := by
  constructor <;> simp [step]

theorem awaits_flag (h : name ∈ flagNames) :
    Awaits tokens (tag.add (.flag name)) ⟨.attributeName tag name.toList.reverse, tokens⟩ := by
  constructor <;>
    simp [step, stepAttributeName, isNameChar, addFlag?, h, String.ofList_toList]

/-- The first character of a name says that a tag is a start tag. -/
theorem run_startName (h : IsName name) :
    run name.toList ⟨.tag, tokens⟩ = some ⟨.startName name.toList.reverse, tokens⟩ := by
  have hname : run name.toList ⟨.startName [], tokens⟩ =
      some ⟨.startName name.toList.reverse, tokens⟩ :=
    run_name .startName h fun _ _ hc => by rw [step, if_pos hc]
  rw [← hname]
  obtain ⟨hne, hchars⟩ := h
  cases hlist : name.toList with
  | nil => exact absurd hlist hne
  | cons c rest =>
    have hc : isNameChar c = true := hchars c (by simp [hlist])
    have hslash : c ≠ '/' := by rintro rfl; exact absurd hc (by decide)
    rw [run, run, step, step, if_neg hslash, if_pos hc, if_pos hc]

theorem run_attributeName (h : IsName name) :
    run name.toList ⟨.attributeName tag [], tokens⟩ =
      some ⟨.attributeName tag name.toList.reverse, tokens⟩ :=
  run_name (.attributeName tag) h fun _ _ hc => by rw [step, stepAttributeName, if_pos hc]

/-- The value of an attribute is read to the quote that ends it. -/
theorem run_quoted (h : IsName name) (value : String) :
    run ("=\"" ++ escape value ++ "\"").toList ⟨.attributeName tag name.toList.reverse, tokens⟩ =
      some ⟨.afterValue (tag.add (.ofValue name value)), tokens⟩ := by
  have hopen : run "=\"".toList ⟨.attributeName tag name.toList.reverse, tokens⟩ =
      some ⟨.literal (.value tag name []), tokens⟩ := by
    simp [run, step, stepAttributeName, isNameChar, h.1, String.ofList_toList]
  rw [String.toList_append, String.toList_append, run_append, run_append, hopen, Option.bind_some,
    run_escape_value, Option.bind_some]
  simp [run, step, stepLiteral, String.ofList_toList]

/-- **An attribute is read as it was written.** -/
theorem run_attribute {a : Attribute} {lexer : Lexer} (hlexer : lexer.Awaits tokens tag)
    (ha : a.Readable) :
    ∃ next, run a.write.toList lexer = some next ∧ next.Awaits tokens (tag.add a) := by
  obtain ⟨name, value⟩ := a
  have hname : run (" " ++ name).toList lexer =
      some ⟨.attributeName tag name.toList.reverse, tokens⟩ := by
    rw [String.toList_append, run_append]
    simp [run, hlexer.blank, run_attributeName ha.isName]
  cases value with
  | none => exact ⟨_, hname, awaits_flag (ha.flag rfl)⟩
  | some value =>
    refine ⟨_, ?_, awaits_afterValue⟩
    have hsplit : (Attribute.write ⟨name, some value⟩) =
        (" " ++ name) ++ ("=\"" ++ escape value ++ "\"") := by
      simp [Attribute.write, String.append_assoc]
    rw [hsplit, String.toList_append, run_append, hname, Option.bind_some,
      run_quoted ha.isName]
    rfl

theorem run_attributes {attributes : List Attribute} {lexer : Lexer}
    (hlexer : lexer.Awaits tokens tag) (h : ∀ a ∈ attributes, a.Readable) :
    ∃ next, run (String.join (attributes.map Attribute.write)).toList lexer = some next ∧
      next.Awaits tokens ⟨tag.name, attributes.reverse ++ tag.attributes⟩ := by
  induction attributes generalizing tag lexer with
  | nil => exact ⟨lexer, rfl, hlexer⟩
  | cons a rest ih =>
    rw [List.forall_mem_cons] at h
    obtain ⟨middle, hrun, hmiddle⟩ := run_attribute hlexer h.1
    obtain ⟨next, hrest, hnext⟩ := ih hmiddle h.2
    refine ⟨next, ?_, by simpa [Opening.add] using hnext⟩
    rw [String.toList_join] at hrest ⊢
    rw [List.map_cons, List.flatMap_cons, run_append, hrun, Option.bind_some, hrest]

/-! ## Pieces -/

/-- **A piece is read as its tags and characters.** -/
theorem run_write {piece : Markup} (h : piece.Readable) :
    run piece.write.toList ⟨.literal .content, tokens⟩ =
      some ⟨.literal .content, piece.tokens.reverse ++ tokens⟩ := by
  cases piece with
  | text content => exact run_escape_content content
  | endTag name =>
    have hopen : run "</".toList ⟨.literal .content, tokens⟩ = some ⟨.endName [], tokens⟩ := by
      simp [run, step, stepLiteral]
    have hname : run name.toList ⟨.endName [], tokens⟩ =
        some ⟨.endName name.toList.reverse, tokens⟩ :=
      run_name .endName h fun _ _ hc => by rw [step, if_pos hc]
    rw [Markup.write, String.toList_append, String.toList_append, run_append, run_append, hopen,
      Option.bind_some, hname, Option.bind_some]
    simp [run, step, isNameChar, h.1, Markup.tokens, String.ofList_toList]
  | startTag name attributes =>
    obtain ⟨hname, hattributes⟩ := h
    have hstart : Awaits tokens { name } ⟨.startName name.toList.reverse, tokens⟩ :=
      awaits_startName
    obtain ⟨next, hrun, hnext⟩ := run_attributes hstart hattributes
    have hopen : run "<".toList ⟨.literal .content, tokens⟩ = some ⟨.tag, tokens⟩ := by
      simp [run, step, stepLiteral]
    rw [Markup.write, String.toList_append, String.toList_append, String.toList_append,
      run_append, run_append, run_append, hopen, Option.bind_some, run_startName hname,
      Option.bind_some, hrun, Option.bind_some]
    simp [run, hnext.close, finish, Markup.tokens]

theorem run_writeAll {pieces : List Markup} (h : ∀ p ∈ pieces, p.Readable) :
    run (writeAll pieces).toList ⟨.literal .content, tokens⟩ =
      some ⟨.literal .content, (pieces.flatMap Markup.tokens).reverse ++ tokens⟩ := by
  rw [writeAll, String.toList_join]
  induction pieces generalizing tokens with
  | nil => rfl
  | cons p rest ih =>
    rw [List.forall_mem_cons] at h
    rw [List.map_cons, List.flatMap_cons, run_append, run_write h.1, Option.bind_some, ih h.2]
    simp

end Lexer

/-- **What is written is read**: the written form of some pieces has just their
tags and characters. -/
theorem lex_writeAll {pieces : List Markup} (h : ∀ p ∈ pieces, p.Readable) :
    lex (writeAll pieces) = some (pieces.flatMap Markup.tokens) := by
  simp [lex, Lexer.run_writeAll h]

end MarkView.Html
