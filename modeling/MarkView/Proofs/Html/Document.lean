import MarkView.Proofs.Html.Inert
/-!
# The document that is read

What a tree is as a document of elements and text can be said without writing
any HTML (`document`). The written HTML is read back as just that, for every tree
there is (`read_serialize`): no text breaks out of its place, and no tag is left
open.

The proof goes along with the tree. `Reads` says of some pieces of HTML that they
are read as given elements wherever they stand, and every way in which pieces are
put together has its lemma.
-/

namespace MarkView.Html

/-! ## The document of a tree -/

/-- Text, character by character. -/
def chars (s : String) : List Dom := s.toList.map .char

/-- An element around a content; a fragment adds nothing to it. -/
def wrap (element : Element) (attributes : List Attribute) (content : List Dom) : List Dom :=
  match element.tag? with
  | some tag => [.element tag attributes content]
  | none => content

/-- **Everything but a fragment is one element**, under its own name. -/
theorem wrap_eq (element : Element) (attributes : List Attribute) (content : List Dom) :
    wrap element attributes content =
      if element = .fragment then content else [.element element.name attributes content] := by
  unfold wrap
  by_cases hfragment : element = .fragment
  · rw [if_pos hfragment, Element.tag?_eq_none_iff.mpr hfragment]
  · rw [if_neg hfragment, Element.tag?_of_ne_fragment hfragment]

/-- The classes of a node's element: that of its rule, and one for the language
of code. -/
def classes (kind : NodeKind) : List String :=
  kind.rule.cssClass.toList ++
    match kind with
    | .code _ (some language) => ["language-" ++ language]
    | _ => []

/-- An attribute that is left out if it has nothing to say. -/
def optional (name : String) (words : List String) : List Attribute :=
  if words = [] then [] else [.ofValue name (" ".intercalate words)]

/-- What the attributes of a node's element say besides its class. The literal
text below an image is its alternative text. -/
def properties (alt : String) : NodeKind → List Attribute
  | .link href title =>
    .ofValue "href" (safeUrl href) :: if title = "" then [] else [.ofValue "title" title]
  | .image src title =>
    .ofValue "src" (safeUrl src) ::
      (if title = "" then [] else [.ofValue "title" title]) ++ [.ofValue "alt" alt]
  | .orderedList start => if start = 1 then [] else [.ofValue "start" (toString start)]
  | .tableCell _ .left => [.ofValue "style" "text-align: left"]
  | .tableCell _ .center => [.ofValue "style" "text-align: center"]
  | .tableCell _ .right => [.ofValue "style" "text-align: right"]
  | .taskListMarker true => [.ofValue "type" "checkbox", .flag "checked", .flag "disabled"]
  | .taskListMarker false => [.ofValue "type" "checkbox", .flag "disabled"]
  | .footnoteDefinition label => [.ofValue "id" ("fn-" ++ label)]
  | _ => []

/-- A child, by its kind and its document. -/
structure Part where
  kind : NodeKind
  content : List Dom

/-- The line break between a block and a block that follows it. -/
def breakBefore (afterBlock : Bool) : List Part → List Dom
  | [] => []
  | next :: _ => if afterBlock && next.kind.isBlock then [.char '\n'] else []

/-- Siblings in a row, with a line break where a block follows a block. -/
def separated : List Part → List Dom
  | [] => []
  | part :: rest => part.content ++ breakBefore part.kind.isBlock rest ++ separated rest

/-- The head of a table first, then all else in one body. -/
def tableContent (parts : List Part) : List Dom :=
  let body := parts.filter (·.kind ≠ .tableHead)
  (parts.filter (·.kind = .tableHead)).flatMap Part.content ++
    if body.isEmpty then [] else [.element "tbody" [] (body.flatMap Part.content)]

/-- The content of a node's element, of the literal texts and the children of the
node. -/
def elementContent (texts : List String) (parts : List Part) : NodeKind → List Dom
  | .hardBreak | .thematicBreak | .image _ _ | .taskListMarker _ => []
  | .code _ _ => texts.flatMap chars
  | .footnoteReference label => [.element "a" [.ofValue "href" ("#fn-" ++ label)] (chars label)]
  | .tableHead => [.element "tr" [] (separated parts)]
  | .table => tableContent parts
  | _ => separated parts

/-- A node by itself, without the container around it. -/
def ownDocument (texts : List String) (parts : List Part) (kind : NodeKind) : List Dom :=
  match kind with
  | .text content => chars content
  | .html content => chars content
  | .softBreak => [.char '\n']
  | _ =>
    wrap kind.element (optional "class" (classes kind) ++ properties (String.join texts) kind)
      (elementContent texts parts kind)

/-- The container of a rule around a content. -/
def contained (container : Option Container) (content : List Dom) : List Dom :=
  match container with
  | some c => wrap c.element [.ofValue "class" c.cssClass] content
  | none => content

mutual

/-- **The document of a tree.** -/
def document : Node → List Dom
  | ⟨kind, children⟩ =>
    contained kind.rule.container (ownDocument (Node.leafTexts children) (parts children) kind)

/-- The documents of a row of siblings. -/
def parts : List Node → List Part
  | [] => []
  | node :: rest => ⟨node.kind, document node⟩ :: parts rest

end

/-! ## Reading -/

/-- What is read of some pieces of HTML, wherever they stand. -/
def Reads (pieces : List Markup) (content : List Dom) : Prop :=
  ∀ row outer rest, nest row outer (pieces.flatMap Markup.tokens ++ rest) =
    nest (content.reverse ++ row) outer rest

namespace Reads

variable {xs ys : List Markup} {content more : List Dom} {name : String}
  {attributes : List Attribute}

theorem nil : Reads [] [] := fun _ _ _ => rfl

theorem append (hx : Reads xs content) (hy : Reads ys more) :
    Reads (xs ++ ys) (content ++ more) := by
  intro row outer rest
  rw [List.flatMap_append, List.append_assoc, hx, hy, List.reverse_append, List.append_assoc]

theorem text (s : String) : Reads [.text s] (chars s) := by
  intro row outer rest
  simp only [List.flatMap_cons, List.flatMap_nil, List.append_nil, Markup.tokens, chars]
  generalize s.toList = cs
  induction cs generalizing row with
  | nil => rfl
  | cons c cs ih =>
    rw [List.map_cons, List.map_cons, List.cons_append, nest, ih]
    simp

/-- A void element has a start tag only. -/
theorem void (h : name ∈ voidNames) :
    Reads [.startTag name attributes] [.element name attributes []] := by
  intro row outer rest
  rw [List.flatMap_singleton, Markup.tokens, List.singleton_append, nest, if_pos h]
  rfl

/-- **Any other element has its content between its tags.** -/
theorem element (h : name ∉ voidNames) (hx : Reads xs content) :
    Reads ([.startTag name attributes] ++ xs ++ [.endTag name])
      [.element name attributes content] := by
  intro row outer rest
  rw [List.flatMap_append, List.flatMap_append, List.flatMap_singleton, List.flatMap_singleton,
    Markup.tokens, Markup.tokens, List.singleton_append, List.append_assoc, List.cons_append,
    nest, if_neg h, hx, List.singleton_append, nest, if_pos rfl]
  simp

theorem texts (contents : List String) :
    Reads (contents.map .text) (contents.flatMap chars) := by
  induction contents with
  | nil => exact nil
  | cons s rest ih => exact (text s).append ih

end Reads

/-! ## Elements -/

theorem mem_voidNames_iff {element : Element} {tag : String} (h : element.tag? = some tag) :
    tag ∈ voidNames ↔ element.isVoid = true := by
  cases element <;> simp [Element.tag?] at h <;> subst h <;> decide

namespace Reads

variable {xs ys : List Markup} {content more : List Dom} {cssClass : Option String}
  {attributes : List Attribute} {element : Element}

/-- Of a void element only the start tag is written. -/
theorem startOf_void (h : element.isVoid = true) :
    Reads (startOf element cssClass attributes)
      (wrap element (classAttribute cssClass ++ attributes) []) := by
  rw [startOf, wrap_eq]
  by_cases hfragment : element = .fragment
  · rw [if_pos hfragment, Element.tag?_eq_none_iff.mpr hfragment]
    exact nil
  · have htag := Element.tag?_of_ne_fragment hfragment
    rw [if_neg hfragment, htag]
    exact void ((mem_voidNames_iff htag).mpr h)

/-- **An element is read with its content**, and a fragment as its content. -/
theorem between (h : element.isVoid = false) (hx : Reads xs content) :
    Reads (startOf element cssClass attributes ++ xs ++ endOf element)
      (wrap element (classAttribute cssClass ++ attributes) content) := by
  rw [startOf, endOf, wrap_eq]
  by_cases hfragment : element = .fragment
  · rw [if_pos hfragment, Element.tag?_eq_none_iff.mpr hfragment]
    simpa using hx
  · have htag := Element.tag?_of_ne_fragment hfragment
    have hvoid : element.name ∉ voidNames := by simp [mem_voidNames_iff htag, h]
    rw [if_neg hfragment, htag]
    exact Reads.element hvoid hx

theorem ofElement (h : element.isVoid = false) (hx : Reads xs content) :
    Reads (inElement element cssClass attributes xs)
      (wrap element (classAttribute cssClass ++ attributes) content) := by
  rw [inElement, if_neg (by simp [h]), ← List.append_assoc]
  exact between h hx

theorem ofVoid (h : element.isVoid = true) :
    Reads (inElement element cssClass attributes xs)
      (wrap element (classAttribute cssClass ++ attributes) []) := by
  rw [inElement, if_pos h, List.append_nil]
  exact startOf_void h

end Reads

/-- The rules know one container only. -/
theorem element_container {kind : NodeKind} {container : Container}
    (h : kind.rule.container = some container) : container.element = .pre := by
  unfold NodeKind.rule styleFor lookupStyle? at h
  split at h
  all_goals try simp [StyleRule.styled, StyleRule.identity] at h
  split at h
  · simp [inlineCodeRule] at h
  · obtain rfl := Option.some.inj h
    rfl

theorem Reads.ofContainer {xs : List Markup} {content : List Dom} (kind : NodeKind)
    (hx : Reads xs content) :
    Reads (inContainer kind.rule.container xs) (contained kind.rule.container content) := by
  cases hcontainer : kind.rule.container with
  | none => exact hx
  | some container =>
    have hvoid : container.element.isVoid = false := by rw [element_container hcontainer]; rfl
    exact between hvoid hx

/-! ## Rows -/

section Rows

variable {nodes : List Node}

theorem reads_markupRow (h : ∀ node ∈ nodes, Reads (markup node.styled) (document node))
    (afterBlock : Bool) :
    Reads (markupRow afterBlock (Node.styledAll nodes))
      (breakBefore afterBlock (parts nodes) ++ separated (parts nodes)) := by
  induction nodes generalizing afterBlock with
  | nil => exact .nil
  | cons node rest ih =>
    rw [List.forall_mem_cons] at h
    have hbreak : Reads (if afterBlock && node.kind.isBlock then [.text "\n"] else [])
        (if afterBlock && node.kind.isBlock then [.char '\n'] else []) := by
      split
      · exact .text "\n"
      · exact .nil
    have hrow := (hbreak.append h.1).append (ih h.2 node.kind.isBlock)
    simpa [Node.styledAll, markupRow, parts, breakBefore, separated] using hrow

theorem reads_markupHeads (h : ∀ node ∈ nodes, Reads (markup node.styled) (document node)) :
    Reads (markupHeads (Node.styledAll nodes))
      (((parts nodes).filter (·.kind = .tableHead)).flatMap Part.content) := by
  induction nodes with
  | nil => exact .nil
  | cons node rest ih =>
    rw [List.forall_mem_cons] at h
    rw [Node.styledAll, markupHeads, parts, Node.kind_styled]
    by_cases hkind : node.kind = .tableHead
    · simpa [hkind] using h.1.append (ih h.2)
    · simpa [hkind] using ih h.2

theorem reads_markupBody (h : ∀ node ∈ nodes, Reads (markup node.styled) (document node)) :
    Reads (markupBody (Node.styledAll nodes))
      (((parts nodes).filter (·.kind ≠ .tableHead)).flatMap Part.content) := by
  induction nodes with
  | nil => exact .nil
  | cons node rest ih =>
    rw [List.forall_mem_cons] at h
    rw [Node.styledAll, markupBody, parts, Node.kind_styled]
    by_cases hkind : node.kind = .tableHead
    · simpa [hkind] using ih h.2
    · simpa [hkind] using h.1.append (ih h.2)

end Rows

/-! ## Attributes -/

theorem titleAttribute_eq (title : String) :
    titleAttribute title = if title = "" then [] else [.ofValue "title" title] := by
  simp [titleAttribute, String.isEmpty_iff]

/-- The class attribute holds the classes, with blanks between them. -/
theorem classAttribute_eq (kind : NodeKind) :
    classAttribute (ownClass kind kind.rule) = optional "class" (classes kind) := by
  unfold ownClass classes
  generalize kind.rule.cssClass = cssClass?
  split
  · next language =>
    cases cssClass? with
    | none => simp [classAttribute, optional]
    | some cssClass =>
      have hblank : " language-" ++ language = " " ++ ("language-" ++ language) := by
        rw [← String.append_assoc]
        rfl
      simp [classAttribute, optional, String.append_assoc, hblank]
  · cases cssClass? with
    | none => simp [classAttribute, optional]
    | some cssClass => simp [classAttribute, optional]

theorem ownAttributes_eq {kind : NodeKind} (alt : String)
    (h : ∀ src title, kind ≠ .image src title) : ownAttributes kind = properties alt kind := by
  cases kind with
  | image src title => exact absurd rfl (h src title)
  | link href title => rw [ownAttributes, titleAttribute_eq, properties]
  | tableCell header alignment => cases alignment <;> rfl
  | taskListMarker checked => cases checked <;> rfl
  | _ => rfl

theorem imageAttributes_eq (src title alt : String) :
    imageAttributes src title alt = properties alt (.image src title) := by
  rw [imageAttributes, titleAttribute_eq, properties]

namespace Reads

variable {xs : List Markup} {content : List Dom} {kind : NodeKind}

/-- The element of a kind, an image apart, is read with its attributes. -/
theorem ofKind (alt : String) (hkind : ∀ src title, kind ≠ .image src title)
    (hvoid : kind.element.isVoid = false) (hx : Reads xs content) :
    Reads (inElement kind.element (ownClass kind kind.rule) (ownAttributes kind) xs)
      (wrap kind.element (optional "class" (classes kind) ++ properties alt kind) content) := by
  rw [ownAttributes_eq alt hkind, ← classAttribute_eq]
  exact ofElement hvoid hx

theorem ofVoidKind (alt : String) (hkind : ∀ src title, kind ≠ .image src title)
    (hvoid : kind.element.isVoid = true) :
    Reads (inElement kind.element (ownClass kind kind.rule) (ownAttributes kind) xs)
      (wrap kind.element (optional "class" (classes kind) ++ properties alt kind) []) := by
  rw [ownAttributes_eq alt hkind, ← classAttribute_eq]
  exact ofVoid hvoid

theorem footnoteLink (label : String) :
    Reads (footnoteLink label)
      [.element "a" [.ofValue "href" ("#fn-" ++ label)] (chars label)] :=
  element (by decide) (text label)

end Reads

theorem isVoid_heading (level : Nat) : (NodeKind.heading level).element.isVoid = false := by
  rw [NodeKind.element]
  unfold Element.heading?
  split <;> rfl

theorem children_rule_heading (level : Nat) :
    (NodeKind.heading level).rule.children = .passThrough := by
  unfold NodeKind.rule styleFor lookupStyle? NodeKind.type
  split <;> simp_all [StyleRule.styled, StyleRule.identity]

theorem children_rule_code (display : CodeDisplay) (language : Option String) :
    (NodeKind.code display language).rule.children = .verbatim := by
  cases display <;> rfl

/-! ## Trees -/

/-- What is written between the tags of a table. -/
def tableMarkup (children : List StyledNode) : List Markup :=
  markupHeads children ++
    if children.all (·.kind = .tableHead) then []
    else [.startTag "tbody" []] ++ markupBody children ++ [.endTag "tbody"]

/-- A table of heads only has nothing else to write. -/
theorem markupBody_of_all {rows : List StyledNode} (h : rows.all (·.kind = .tableHead) = true) :
    markupBody rows = [] := by
  induction rows with
  | nil => rfl
  | cons row rest ih =>
    rw [List.all_cons, Bool.and_eq_true, decide_eq_true_eq] at h
    rw [markupBody, if_pos h.1, ih h.2]
    rfl

theorem reads_table {nodes : List Node}
    (h : ∀ node ∈ nodes, Reads (markup node.styled) (document node)) :
    Reads (tableMarkup (Node.styledAll nodes)) (tableContent (parts nodes)) := by
  refine (reads_markupHeads h).append ?_
  have hbody : ((parts nodes).filter (·.kind ≠ .tableHead)).isEmpty =
      (Node.styledAll nodes).all (·.kind = .tableHead) := by
    induction nodes with
    | nil => rfl
    | cons node rest ih =>
      rw [List.forall_mem_cons] at h
      rw [Node.styledAll, List.all_cons, ← ih h.2, parts, Node.kind_styled]
      by_cases hkind : node.kind = .tableHead <;> simp [hkind]
  rw [hbody]
  split
  · exact .nil
  · exact .element (by decide) (reads_markupBody h)

/-- **The HTML of a tree is read as its document**, whatever the tree. -/
theorem reads_markup (node : Node) : Reads (markup node.styled) (document node) := by
  induction node using Node.induction with
  | node kind children ih =>
    have hrow : Reads (markupRow false (Node.styledAll children)) (separated (parts children)) := by
      have h := reads_markupRow ih false
      cases hparts : parts children <;> simpa [hparts, breakBefore] using h
    rw [Node.styled, document]
    unfold markup
    refine .ofContainer kind ?_
    -- the kinds that are written in a way of their own, and then those that are just an
    -- element around their children
    cases kind with
    | text content => exact .text content
    | html content => exact .text content
    | softBreak => exact .text "\n"
    | image src title =>
      have himg : Element.img.isVoid = true := rfl
      simp only [StyledNode.leafTexts_styledAll, imageAttributes_eq, ownDocument, elementContent,
        ← classAttribute_eq]
      exact .startOf_void himg
    | tableHead =>
      have htr : Element.tr.isVoid = false := rfl
      have hthead : Element.thead.isVoid = false := rfl
      have hcells : Reads (startOf .tr none [] ++ markupRow false (Node.styledAll children) ++
          endOf .tr) [.element "tr" [] (separated (parts children))] := .between htr hrow
      have h : Reads (startOf .thead none [] ++ (startOf .tr none [] ++
          markupRow false (Node.styledAll children) ++ endOf .tr) ++ endOf .thead)
          [.element "thead" [] [.element "tr" [] (separated (parts children))]] :=
        .between hthead hcells
      simp only [List.append_assoc] at h ⊢
      exact h
    | table =>
      have htable : Element.table.isVoid = false := rfl
      have h : Reads (startOf .table none [] ++ tableMarkup (Node.styledAll children) ++
          endOf .table) [.element "table" [] (tableContent (parts children))] :=
        .between htable (reads_table ih)
      simp only [tableMarkup, List.append_assoc] at h ⊢
      exact h
    | footnoteReference label => exact .ofKind _ (by simp) rfl (.footnoteLink label)
    | code display language =>
      rw [children_rule_code, StyledNode.leafTexts_styledAll]
      exact .ofKind _ (by simp) rfl (.texts _)
    | hardBreak => exact .ofVoidKind _ (by simp) rfl
    | thematicBreak => exact .ofVoidKind _ (by simp) rfl
    | taskListMarker checked => exact .ofVoidKind _ (by simp) rfl
    | heading level =>
      rw [children_rule_heading]
      exact .ofKind _ (by simp) (isVoid_heading level) hrow
    | tableCell header alignment =>
      have hvoid : (NodeKind.tableCell header alignment).element.isVoid = false := by
        cases header <;> rfl
      exact .ofKind _ (by simp) hvoid hrow
    | _ => exact .ofKind (String.join (Node.leafTexts children)) (by simp) rfl hrow

/-- **A tree is read from its HTML as the document that it is.** -/
theorem read_serialize (node : Node) : read (serialize node.styled) = some (document node) := by
  have hread : nest [] [] ((markup node.styled).flatMap Markup.tokens) = some (document node) := by
    simpa [nest] using reads_markup node [] [] []
  rw [read, serialize, lex_writeAll (inert_markup node.styled).readable, Option.bind_some, hread]

end MarkView.Html
