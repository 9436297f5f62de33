import MarkView.Proofs.Html.Scheme
import MarkView.Proofs.Html.Written
import MarkView.Render
import Mathlib.Data.List.Basic
/-!
# No source is active markup

Whatever texts, titles, labels and addresses a tree holds, the tags of its HTML
are those of a fixed list, so are their attributes, and an address in one of them
has no scheme but a safe one (`serialize_harmless`). What a tree holds can only turn
up as text or as the value of an attribute.
-/

namespace MarkView.Html

/-- The names that tags may have. -/
def tagNames : List String :=
  ["h1", "h2", "h3", "h4", "h5", "h6", "p", "ul", "ol", "li", "a", "blockquote", "pre", "code",
    "em", "strong", "del", "sup", "hr", "br", "img", "input", "table", "thead", "tbody", "tr",
    "th", "td", "div", "dl", "dt", "dd"]

/-- The names that attributes may have. -/
def attributeNames : List String :=
  ["class", "href", "title", "src", "alt", "start", "style", "type", "checked", "disabled", "id"]

/-- The attributes whose values are addresses. -/
def addressNames : List String := ["href", "src"]

/-- An attribute that can do no harm. -/
structure Attribute.Inert (a : Attribute) : Prop where
  name : a.name ∈ attributeNames
  flag : a.value = none → a.name ∈ flagNames
  address : a.name ∈ addressNames →
    ∀ scheme, browserScheme (a.value.getD "") = some scheme → scheme ∈ safeSchemes

/-- A tag that can do no harm. No character can. -/
def Token.Inert : Token → Prop
  | startTag name attributes => name ∈ tagNames ∧ ∀ a ∈ attributes, a.Inert
  | endTag name => name ∈ tagNames
  | char _ => True

/-- Pieces of HTML that can do no harm. -/
def Inert (pieces : List Markup) : Prop :=
  ∀ token ∈ pieces.flatMap Markup.tokens, token.Inert

/-- The angle brackets that stand in the written form of what was read. -/
def Token.angles : Token → List Char
  | startTag _ _ | endTag _ => ['<', '>']
  | char _ => []

/-- Whether a character is an angle bracket. -/
def isAngle (c : Char) : Bool := c == '<' || c == '>'

/-- HTML that reads as inert tags and characters, and has no angle brackets but
those around its tags. -/
def Harmless (html : String) : Prop :=
  ∃ tokens, lex html = some tokens ∧ (∀ token ∈ tokens, token.Inert) ∧
    html.toList.filter isAngle = tokens.flatMap Token.angles

/-! ## Attributes -/

/-- An attribute whose value is no address. -/
theorem Attribute.Inert.ofValue {name : String} (hname : name ∈ attributeNames)
    (hplain : name ∉ addressNames) (value : String) : (Attribute.ofValue name value).Inert where
  name := hname
  flag := fun h => nomatch h
  address := fun h => absurd h hplain

theorem Attribute.Inert.ofFlag {name : String} (hname : name ∈ attributeNames)
    (hflag : name ∈ flagNames) (hplain : name ∉ addressNames) : (Attribute.flag name).Inert where
  name := hname
  flag := fun _ => hflag
  address := fun h => absurd h hplain

/-- An attribute whose value, if it is an address, has no scheme but a safe one. -/
theorem Attribute.Inert.ofAddress {name url : String} (hname : name ∈ attributeNames)
    (hurl : ∀ scheme, browserScheme url = some scheme → scheme ∈ safeSchemes) :
    (Attribute.ofValue name url).Inert where
  name := hname
  flag := fun h => nomatch h
  address := fun _ => hurl

/-- **A checked address is inert.** -/
theorem Attribute.Inert.ofSafeUrl {name : String} (hname : name ∈ attributeNames)
    (url : String) : (Attribute.ofValue name (safeUrl url)).Inert :=
  .ofAddress hname fun _ => browserScheme_safeUrl

theorem inert_classAttribute (cssClass : Option String) :
    ∀ a ∈ classAttribute cssClass, a.Inert := by
  cases cssClass with
  | none => simp [classAttribute]
  | some cssClass =>
    simpa [classAttribute] using Attribute.Inert.ofValue (by decide) (by decide) cssClass

theorem inert_titleAttribute (title : String) : ∀ a ∈ titleAttribute title, a.Inert := by
  rw [titleAttribute]
  split
  · simp
  · simpa using Attribute.Inert.ofValue (by decide) (by decide) title

theorem inert_imageAttributes (src title alt : String) :
    ∀ a ∈ imageAttributes src title alt, a.Inert := by
  rw [imageAttributes, List.forall_mem_append, List.forall_mem_cons, List.forall_mem_singleton]
  exact ⟨⟨.ofSafeUrl (by decide) src, inert_titleAttribute title⟩,
    .ofValue (by decide) (by decide) alt⟩

theorem inert_ownAttributes (kind : NodeKind) : ∀ a ∈ ownAttributes kind, a.Inert := by
  unfold ownAttributes
  split
  · next href title =>
    exact List.forall_mem_cons.mpr ⟨.ofSafeUrl (by decide) href, inert_titleAttribute title⟩
  · split
    · simp
    · simpa using Attribute.Inert.ofValue (by decide) (by decide) _
  · next alignment =>
    cases alignment.css with
    | none => simp
    | some align => simpa using Attribute.Inert.ofValue (by decide) (by decide) _
  · next checked =>
    have htype : (Attribute.ofValue "type" "checkbox").Inert := .ofValue (by decide) (by decide) _
    have hchecked : (Attribute.flag "checked").Inert :=
      .ofFlag (by decide) (by decide) (by decide)
    have hdisabled : (Attribute.flag "disabled").Inert :=
      .ofFlag (by decide) (by decide) (by decide)
    cases checked <;> simp [htype, hchecked, hdisabled]
  · simpa using Attribute.Inert.ofValue (by decide) (by decide) _
  · simp

/-! ## Pieces -/

section Pieces

variable {xs ys : List Markup} {name : String} {attributes : List Attribute}

theorem inert_nil : Inert [] := fun _ h => nomatch h

@[simp] theorem inert_append : Inert (xs ++ ys) ↔ Inert xs ∧ Inert ys := by
  rw [Inert, List.flatMap_append, List.forall_mem_append]
  rfl

theorem inert_cons {piece : Markup} : Inert (piece :: xs) ↔ Inert [piece] ∧ Inert xs := by
  rw [← inert_append, List.singleton_append]

theorem inert_text (content : String) : Inert [.text content] := by
  simp [Inert, Markup.tokens, Token.Inert]

theorem inert_startTag (hname : name ∈ tagNames) (h : ∀ a ∈ attributes, a.Inert) :
    Inert [.startTag name attributes] := by
  simpa [Inert, Markup.tokens, Token.Inert] using ⟨hname, h⟩

theorem inert_endTag (hname : name ∈ tagNames) : Inert [.endTag name] := by
  simpa [Inert, Markup.tokens, Token.Inert] using hname

theorem inert_texts (contents : List String) : Inert (contents.map .text) := by
  induction contents with
  | nil => exact inert_nil
  | cons content rest ih =>
    exact inert_cons.mpr ⟨inert_text content, ih⟩

theorem mem_tagNames {element : Element} {tag : String} (h : element.tag? = some tag) :
    tag ∈ tagNames := by
  cases element <;> simp [Element.tag?] at h <;> subst h <;> decide

theorem inert_startOf (element : Element) (cssClass : Option String)
    (h : ∀ a ∈ attributes, a.Inert) : Inert (startOf element cssClass attributes) := by
  rw [startOf]
  cases htag : element.tag? with
  | none => exact inert_nil
  | some tag =>
    exact inert_startTag (mem_tagNames htag)
      (List.forall_mem_append.mpr ⟨inert_classAttribute cssClass, h⟩)

theorem inert_endOf (element : Element) : Inert (endOf element) := by
  rw [endOf]
  cases htag : element.tag? with
  | none => exact inert_nil
  | some tag => exact inert_endTag (mem_tagNames htag)

theorem inert_inElement (element : Element) (cssClass : Option String)
    (h : ∀ a ∈ attributes, a.Inert) (hxs : Inert xs) :
    Inert (inElement element cssClass attributes xs) := by
  rw [inElement, inert_append]
  refine ⟨inert_startOf element cssClass h, ?_⟩
  split
  · exact inert_nil
  · exact inert_append.mpr ⟨hxs, inert_endOf element⟩

theorem inert_inContainer (container : Option Container) (h : Inert xs) :
    Inert (inContainer container xs) := by
  cases container with
  | none => exact h
  | some c =>
    rw [inContainer, inert_append, inert_append]
    exact ⟨⟨inert_startOf c.element _ (by simp), h⟩, inert_endOf c.element⟩

theorem inert_footnoteLink (label : String) : Inert (footnoteLink label) := by
  -- the only address that is not checked starts with a number sign
  have hhref : (Attribute.ofValue "href" ("#" ++ ("fn-" ++ label))).Inert :=
    .ofAddress (by decide) fun scheme h => by
      rw [browserScheme_fragment] at h
      exact nomatch h
  rw [← String.append_assoc] at hhref
  have htext : Inert [.text label, .endTag "a"] :=
    inert_cons.mpr ⟨inert_text label, inert_endTag (by decide)⟩
  exact inert_cons.mpr ⟨inert_startTag (by decide) (by simpa using hhref), htext⟩

end Pieces

/-! ## Trees -/

section Rows

variable {nodes : List StyledNode}

theorem inert_markupRow (h : ∀ node ∈ nodes, Inert (markup node)) (afterBlock : Bool) :
    Inert (markupRow afterBlock nodes) := by
  induction nodes generalizing afterBlock with
  | nil => exact inert_nil
  | cons node rest ih =>
    rw [List.forall_mem_cons] at h
    rw [markupRow, inert_append, inert_append]
    refine ⟨⟨?_, h.1⟩, ih h.2 _⟩
    split
    · exact inert_text "\n"
    · exact inert_nil

theorem inert_markupHeads (h : ∀ node ∈ nodes, Inert (markup node)) :
    Inert (markupHeads nodes) := by
  induction nodes with
  | nil => exact inert_nil
  | cons node rest ih =>
    rw [List.forall_mem_cons] at h
    rw [markupHeads, inert_append]
    refine ⟨?_, ih h.2⟩
    split
    · exact h.1
    · exact inert_nil

theorem inert_markupBody (h : ∀ node ∈ nodes, Inert (markup node)) :
    Inert (markupBody nodes) := by
  induction nodes with
  | nil => exact inert_nil
  | cons node rest ih =>
    rw [List.forall_mem_cons] at h
    rw [markupBody, inert_append]
    refine ⟨?_, ih h.2⟩
    split
    · exact inert_nil
    · exact h.1

end Rows

/-- **The HTML of a tree is inert**, whatever the tree and its rules. -/
theorem inert_markup (tree : StyledNode) : Inert (markup tree) := by
  induction tree using StyledNode.induction with
  | node kind rule children ih =>
    unfold markup
    refine inert_inContainer rule.container ?_
    split
    · exact inert_text _
    · exact inert_text _
    · exact inert_text _
    · exact inert_startOf _ _ (inert_imageAttributes _ _ _)
    · simp only [inert_append]
      exact ⟨⟨⟨⟨inert_startOf _ _ (by simp), inert_startOf _ _ (by simp)⟩,
        inert_markupRow ih false⟩, inert_endOf _⟩, inert_endOf _⟩
    · simp only [inert_append]
      refine ⟨⟨⟨inert_startOf _ _ (by simp), inert_markupHeads ih⟩, ?_⟩, inert_endOf _⟩
      split
      · exact inert_nil
      · simp only [inert_append]
        exact ⟨⟨inert_startTag (by decide) (by simp), inert_markupBody ih⟩,
          inert_endTag (by decide)⟩
    · exact inert_inElement _ _ (inert_ownAttributes _) (inert_footnoteLink _)
    · refine inert_inElement _ _ (inert_ownAttributes _) ?_
      split
      · exact inert_texts _
      · exact inert_markupRow ih false

/-! ## Written out -/

theorem isName_of_mem_tagNames : ∀ name ∈ tagNames, IsName name := isName_of_all (by decide)

theorem isName_of_mem_attributeNames : ∀ name ∈ attributeNames, IsName name :=
  isName_of_all (by decide)

theorem Attribute.Inert.readable {a : Attribute} (h : a.Inert) : a.Readable :=
  ⟨isName_of_mem_attributeNames _ h.name, h.flag⟩

/-- What is inert can be read. -/
theorem Inert.readable {pieces : List Markup} (h : Inert pieces) : ∀ p ∈ pieces, p.Readable := by
  intro p hp
  have hinert : ∀ token ∈ p.tokens, token.Inert := fun token htoken =>
    h token (List.mem_flatMap.mpr ⟨p, hp, htoken⟩)
  cases p with
  | text content => trivial
  | endTag name => exact isName_of_mem_tagNames name (hinert _ (List.mem_singleton.mpr rfl))
  | startTag name attributes =>
    obtain ⟨hname, hattributes⟩ := hinert _ (List.mem_singleton.mpr rfl)
    exact ⟨isName_of_mem_tagNames name hname, fun a ha => (hattributes a ha).readable⟩

/-! ## Angle brackets -/

theorem filter_isAngle_escapeChar (c : Char) : (escapeChar c).filter isAngle = [] := by
  refine escapeChar_cases rfl rfl rfl rfl rfl (fun c hc => ?_) c
  simp only [isSpecial, Bool.or_eq_false_iff, beq_eq_false_iff_ne] at hc
  simp [isAngle, hc]

theorem filter_isAngle_escape (s : String) : (escape s).toList.filter isAngle = [] := by
  rw [toList_escape, escapeChars, List.filter_flatMap, List.flatMap_eq_nil_iff]
  exact fun c _ => filter_isAngle_escapeChar c

theorem filter_isAngle_name {name : String} (h : IsName name) :
    name.toList.filter isAngle = [] := by
  rw [List.filter_eq_nil_iff]
  intro c hc hangle
  have hchar := h.2 c hc
  simp only [isAngle, Bool.or_eq_true, beq_iff_eq] at hangle
  rcases hangle with rfl | rfl <;> exact absurd hchar (by decide)

theorem filter_isAngle_attribute {a : Attribute} (h : a.Readable) :
    a.write.toList.filter isAngle = [] := by
  obtain ⟨name, value⟩ := a
  have hname : name.toList.filter isAngle = [] := filter_isAngle_name h.isName
  cases value with
  | none => simp [Attribute.write, hname, isAngle]
  | some value => simp [Attribute.write, hname, filter_isAngle_escape, isAngle]

theorem filter_isAngle_join {α : Type} (xs : List α) (f : α → String) :
    (String.join (xs.map f)).toList.filter isAngle =
      xs.flatMap fun x => (f x).toList.filter isAngle := by
  rw [String.toList_join, List.flatMap_map, List.filter_flatMap]

theorem filter_isAngle_attributes {attributes : List Attribute}
    (h : ∀ a ∈ attributes, a.Readable) :
    (String.join (attributes.map Attribute.write)).toList.filter isAngle = [] := by
  rw [filter_isAngle_join, List.flatMap_eq_nil_iff]
  exact fun a ha => filter_isAngle_attribute (h a ha)

/-- The angle brackets of a piece are those around its tag. -/
theorem filter_isAngle_write {piece : Markup} (h : piece.Readable) :
    piece.write.toList.filter isAngle = piece.tokens.flatMap Token.angles := by
  cases piece with
  | text content => simp [Markup.write, Markup.tokens, Token.angles, filter_isAngle_escape]
  | endTag name => simp [Markup.write, Markup.tokens, Token.angles, filter_isAngle_name h, isAngle]
  | startTag name attributes =>
    rw [Markup.write]
    simp only [String.toList_append, List.filter_append, filter_isAngle_name h.1,
      filter_isAngle_attributes h.2]
    rfl

/-- **What is inert is harmless when it is written.** -/
theorem Inert.harmless {pieces : List Markup} (h : Inert pieces) : Harmless (writeAll pieces) := by
  refine ⟨pieces.flatMap Markup.tokens, lex_writeAll h.readable, h, ?_⟩
  rw [writeAll, filter_isAngle_join, List.flatMap_assoc]
  exact List.flatMap_congr fun p hp => filter_isAngle_write (h.readable p hp)

theorem harmless_serialize (tree : StyledNode) : Harmless (serialize tree) := by
  rw [serialize]
  exact (inert_markup tree).harmless

/-- **No source is active markup**: neither a stream of events nor a Markdown text,
whatever is in it and however it is read, makes HTML that is not harmless. -/
theorem serialize_harmless :
    (∀ events : List Event, Harmless (serialize (Node.ofEvents events).styled)) ∧
      ∀ (pipeline : Pipeline) (text : String), Harmless (pipeline.render text).html := by
  constructor
  · intro events
    exact harmless_serialize _
  · intro pipeline text
    simp only [Pipeline.render, Rendition.ofNode]
    exact harmless_serialize _

end MarkView.Html
