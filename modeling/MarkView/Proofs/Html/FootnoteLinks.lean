import MarkView.Markdown.Label
import MarkView.Proofs.Html.StartTags
import MarkView.Proofs.Tree.Footnotes
/-!
# Where footnote links lead

A footnote reference is written as a link to `#fn-` and its label, a footnote definition as a `div`
whose id is `fn-` and its label. On a page built from a stream, a link therefore leads somewhere
just when the stream defines its label, letter for letter, where the definition is shown
(`footnoteLinks_serialize`). Labels that differ in letter case only are one label to Markdown, and
two to a page.
-/

namespace MarkView.Html

/-- The places in a page that a link can lead to: the ids of its `div` elements. -/
def targets (tags : List StartTag) : List String :=
  tags.filterMap fun tag => if tag.name = "div" then tag.value? "id" else none

/-- Where the links of footnote references lead. Such a link comes directly after a `sup`. -/
def footnoteLinks (before : String) : List StartTag → List String
  | [] => []
  | tag :: rest =>
    (if before = "sup" ∧ tag.name = "a" then (tag.value? "href").toList else []) ++
      footnoteLinks tag.name rest

/-! ## The tags of a kind -/

section Kinds

variable {kind : NodeKind} {alt : String} {tag : StartTag}

theorem tag?_of_mem_elementTags {element : Element} {cssClass : Option String}
    {attributes : List Attribute} (h : tag ∈ elementTags element cssClass attributes) :
    element.tag? = some tag.name := by
  rw [elementTags, List.mem_map] at h
  obtain ⟨name, hname, rfl⟩ := h
  exact Option.mem_toList.mp hname

/-- The tag of a kind is that of its element, or one of three that come with some elements. -/
theorem name_of_mem_ownTags (h : tag ∈ ownTags alt kind) :
    kind.element.tag? = some tag.name ∨ tag.name ∈ ["pre", "tr", "a"] := by
  rw [ownTags, List.mem_append] at h
  rcases h with h | h
  · refine .inr ?_
    obtain ⟨container, hcontainer, h⟩ := List.mem_flatMap.mp h
    have hpre := tag?_of_mem_elementTags h
    rw [element_container (Option.mem_toList.mp hcontainer)] at hpre
    rw [← Option.some.inj hpre]
    decide
  · unfold innerTags at h
    split at h
    · cases h
    · cases h
    · cases h
    · exact .inl (tag?_of_mem_elementTags h)
    · rcases List.mem_append.mp h with h | h
      · exact .inl (tag?_of_mem_elementTags h)
      · exact .inr (by rw [← Option.some.inj (tag?_of_mem_elementTags h)]; decide)
    · rcases List.mem_append.mp h with h | h
      · exact .inl (tag?_of_mem_elementTags h)
      · exact .inr (by rw [List.mem_singleton.mp h]; simp)
    · exact .inl (tag?_of_mem_elementTags h)

/-- A tag belongs to one element only. -/
theorem eq_of_tag? {element other : Element} {name : String} (h : element.tag? = some name)
    (hother : other.tag? = some name) : element = other := by
  have hname : element.name = other.name := by rw [Element.name, Element.name, h, hother]
  have hfound := Element.ofName?_name element
  rw [hname, Element.ofName?_name other] at hfound
  exact (Option.some.inj hfound).symm

/-- So a tag tells the element of its kind, if it is not one of the three. -/
theorem element_eq_of_mem_ownTags {element : Element} {name : String}
    (helement : element.tag? = some name) (hname : name ∉ ["pre", "tr", "a"])
    (h : tag ∈ ownTags alt kind) (htag : tag.name = name) : kind.element = element := by
  rcases name_of_mem_ownTags h with hown | hother
  · rw [htag] at hown
    exact eq_of_tag? hown helement
  · rw [htag] at hother
    exact absurd hother hname

theorem element_heading_ne (level : Nat) :
    (NodeKind.heading level).element ≠ .sup ∧ (NodeKind.heading level).element ≠ .div := by
  rw [NodeKind.element]
  unfold Element.heading?
  split <;> exact ⟨by decide, by decide⟩

/-- Only a footnote reference is written as a `sup`. -/
theorem name_ne_sup (hkind : ∀ label, kind ≠ .footnoteReference label)
    (h : tag ∈ ownTags alt kind) : tag.name ≠ "sup" := by
  intro hsup
  have helement : kind.element = .sup := element_eq_of_mem_ownTags rfl (by decide) h hsup
  cases kind with
  | footnoteReference label => exact hkind label rfl
  | heading level => exact (element_heading_ne level).1 helement
  | tableCell header alignment => cases header <;> cases helement
  | _ => cases helement

/-- Only a footnote definition is written as a `div`. -/
theorem name_ne_div (hkind : ∀ label, kind ≠ .footnoteDefinition label)
    (h : tag ∈ ownTags alt kind) : tag.name ≠ "div" := by
  intro hdiv
  have helement : kind.element = .div := element_eq_of_mem_ownTags rfl (by decide) h hdiv
  cases kind with
  | footnoteDefinition label => exact hkind label rfl
  | heading level => exact (element_heading_ne level).2 helement
  | tableCell header alignment => cases header <;> cases helement
  | _ => cases helement

end Kinds

/-! ## Targets -/

section Targets

variable {tags xs ys : List StartTag} {place label : String}

theorem mem_targets :
    place ∈ targets tags ↔ ∃ tag ∈ tags, tag.name = "div" ∧ tag.value? "id" = some place := by
  simp [targets]

/-- A kind is a target for the footnote that it defines. -/
theorem mem_targets_ownTags {kind : NodeKind} {alt : String} :
    "fn-" ++ label ∈ targets (ownTags alt kind) ↔ kind.definition? = some label := by
  by_cases hkind : ∃ name, kind = .footnoteDefinition name
  · obtain ⟨name, rfl⟩ := hkind
    have htargets : targets (ownTags alt (.footnoteDefinition name)) = ["fn-" ++ name] := rfl
    rw [htargets, List.mem_singleton, NodeKind.definition?, Option.some.injEq,
      String.append_right_inj]
    exact eq_comm
  · rw [mem_targets]
    constructor
    · rintro ⟨tag, htag, hname, -⟩
      exact absurd hname (name_ne_div (fun name heq => hkind ⟨name, heq⟩) htag)
    · intro h
      cases kind <;> first | exact (hkind ⟨_, rfl⟩).elim | cases h

/-- Between the tags of a table are those of its rows, and the tag of its body. -/
theorem mem_tableTags {nodes : List Node} {tag : StartTag} (hbody : tag.name ≠ "tbody") :
    tag ∈ tableTags nodes ↔ ∃ node ∈ nodes, tag ∈ nodeTags node := by
  rw [tableTags, List.mem_append, List.mem_flatMap]
  constructor
  · rintro (⟨node, hnode, htag⟩ | htag)
    · exact ⟨node, List.mem_of_mem_filter hnode, htag⟩
    · split at htag
      · cases htag
      · rcases List.mem_cons.mp htag with rfl | htag
        · exact absurd rfl hbody
        · obtain ⟨node, hnode, htag⟩ := List.mem_flatMap.mp htag
          exact ⟨node, List.mem_of_mem_filter hnode, htag⟩
  · rintro ⟨node, hnode, htag⟩
    by_cases hkind : node.kind = .tableHead
    · exact .inl ⟨node, List.mem_filter.mpr ⟨hnode, decide_eq_true hkind⟩, htag⟩
    · have hall : ¬ nodes.all (·.kind = .tableHead) = true := fun hall =>
        hkind (of_decide_eq_true (List.all_eq_true.mp hall node hnode))
      have hother : node ∈ nodes.filter (·.kind ≠ .tableHead) :=
        List.mem_filter.mpr ⟨hnode, decide_eq_true hkind⟩
      rw [if_neg hall]
      exact .inr (List.mem_cons_of_mem _ (List.mem_flatMap.mpr ⟨node, hother, htag⟩))

/-- A target within a node is one within a child, if the children are shown. -/
theorem mem_targets_childTags {kind : NodeKind} {children : List Node} :
    place ∈ targets (childTags kind children) ↔
      (kind.isLeaf || kind.isOpaque) = false ∧
        ∃ child ∈ children, place ∈ targets (nodeTags child) := by
  unfold childTags
  cases hshown : kind.isLeaf || kind.isOpaque with
  | true => simp [targets]
  | false =>
    have hrow : (∃ tag, (∃ child ∈ children, tag ∈ nodeTags child) ∧
        tag.name = "div" ∧ tag.value? "id" = some place) ↔
        ∃ child ∈ children, place ∈ targets (nodeTags child) := by
      simp only [mem_targets]
      grind
    rw [if_neg Bool.false_ne_true, mem_targets, ← hrow]
    simp only [true_and]
    refine exists_congr fun tag => ?_
    split
    · refine and_congr_left fun hdiv => mem_tableTags ?_
      rw [hdiv.1]
      decide
    · rw [List.mem_flatMap]

/-- **A tree has a target for each footnote that it defines**, and no other. -/
theorem mem_targets_nodeTags {node : Node} (h : ∀ n ∈ node.preorder, n.Bare) :
    "fn-" ++ label ∈ targets (nodeTags node) ↔ label ∈ node.definitions := by
  induction node using Node.induction with
  | node kind children ih =>
    rw [Node.preorder, List.forall_mem_cons] at h
    have hchild : ∀ child ∈ children,
        ("fn-" ++ label ∈ targets (nodeTags child) ↔ label ∈ child.definitions) :=
      fun child hchild => ih child hchild fun n hn =>
        h.2 n (Node.mem_preorderAll.mpr ⟨child, hchild, hn⟩)
    have hbelow : "fn-" ++ label ∈ targets (childTags kind children) ↔
        label ∈ if kind.isOpaque then [] else Node.definitionsAll children := by
      rw [mem_targets_childTags]
      cases htext : kind.isOpaque with
      | true => simp
      | false =>
        rw [Bool.or_false, if_neg Bool.false_ne_true, Node.mem_definitionsAll]
        cases hleaf : kind.isLeaf with
        | true =>
          obtain rfl : children = [] := h.1 hleaf
          simp
        | false =>
          rw [eq_self_iff_true, true_and]
          exact exists_congr fun child => and_congr_right fun hmem => hchild child hmem
    rw [nodeTags_mk, targets, List.filterMap_append, List.mem_append, Node.definitions,
      List.mem_append, Option.mem_toList]
    exact or_congr mem_targets_ownTags hbelow

end Targets

/-! ## Links -/

/-- What follows a `sup` is the link of a footnote reference, and the labels of these satisfy
`P`. -/
def Refers (P : String → Prop) : List StartTag → Prop
  | [] => True
  | tag :: rest =>
    (tag.name = "sup" → ∃ label others,
      rest = ⟨"a", [.ofValue "href" ("#fn-" ++ label)]⟩ :: others ∧ P label) ∧ Refers P rest

namespace Refers

variable {P : String → Prop} {xs ys : List StartTag} {nodes : List Node}

theorem append (hx : Refers P xs) (hy : Refers P ys) : Refers P (xs ++ ys) := by
  induction xs with
  | nil => exact hy
  | cons tag rest ih =>
    refine ⟨fun hsup => ?_, ih hx.2⟩
    obtain ⟨label, others, rfl, hlabel⟩ := hx.1 hsup
    exact ⟨label, others ++ ys, rfl, hlabel⟩

theorem of_ne_sup (h : ∀ tag ∈ xs, tag.name ≠ "sup") : Refers P xs := by
  induction xs with
  | nil => trivial
  | cons tag rest ih =>
    rw [List.forall_mem_cons] at h
    exact ⟨fun hsup => absurd hsup h.1, ih h.2⟩

theorem row (h : ∀ node ∈ nodes, Refers P (nodeTags node)) :
    Refers P (nodes.flatMap nodeTags) := by
  induction nodes with
  | nil => trivial
  | cons node rest ih =>
    rw [List.forall_mem_cons] at h
    exact h.1.append (ih h.2)

theorem tableTags (h : ∀ node ∈ nodes, Refers P (nodeTags node)) :
    Refers P (Html.tableTags nodes) := by
  have hpart : ∀ p : Node → Bool, Refers P ((nodes.filter p).flatMap nodeTags) := fun p =>
    row fun node hnode => h node (List.mem_of_mem_filter hnode)
  refine (hpart _).append ?_
  split
  · trivial
  · exact ⟨fun hsup => absurd hsup (by decide), hpart _⟩

theorem ownTags {kind : NodeKind} {alt : String}
    (h : ∀ label, kind = .footnoteReference label → P label) :
    Refers P (Html.ownTags alt kind) := by
  by_cases hkind : ∃ label, kind = .footnoteReference label
  · obtain ⟨label, rfl⟩ := hkind
    exact ⟨fun _ => ⟨label, [], rfl, h label rfl⟩, fun hsup => absurd hsup (by simp), trivial⟩
  · exact of_ne_sup fun tag htag => name_ne_sup (fun label heq => hkind ⟨label, heq⟩) htag

/-- **The links of a tree are those of its footnote references.** -/
theorem nodeTags {node : Node}
    (h : ∀ n ∈ node.preorder, ∀ label, n.kind = .footnoteReference label → P label) :
    Refers P (Html.nodeTags node) := by
  induction node using Node.induction with
  | node kind children ih =>
    rw [Node.preorder, List.forall_mem_cons] at h
    have hchildren : ∀ child ∈ children, Refers P (Html.nodeTags child) := fun child hchild =>
      ih child hchild fun n hn => h.2 n (Node.mem_preorderAll.mpr ⟨child, hchild, hn⟩)
    rw [nodeTags_mk]
    refine (ownTags h.1).append ?_
    unfold childTags
    split
    · trivial
    · split
      · exact tableTags hchildren
      · exact row hchildren

/-- What is found as a link of a footnote reference is one. -/
theorem of_mem_footnoteLinks {before href : String} (h : Refers P xs) (hbefore : before ≠ "sup")
    (hhref : href ∈ footnoteLinks before xs) : ∃ label, href = "#fn-" ++ label ∧ P label := by
  induction xs generalizing before with
  | nil => cases hhref
  | cons tag rest ih =>
    rw [footnoteLinks, if_neg fun hlink => hbefore hlink.1, List.nil_append] at hhref
    by_cases hsup : tag.name = "sup"
    · obtain ⟨label, others, rfl, hlabel⟩ := h.1 hsup
      rw [hsup, footnoteLinks, if_pos ⟨rfl, rfl⟩, List.mem_append] at hhref
      rcases hhref with hhref | hhref
      · exact ⟨label, List.mem_singleton.mp hhref, hlabel⟩
      · have hlater : href ∈ footnoteLinks ""
            (⟨"a", [.ofValue "href" ("#fn-" ++ label)]⟩ :: others) := by
          rw [footnoteLinks, if_neg (by simp)]
          exact hhref
        exact ih h.2 (by decide) hlater
    · exact ih h.2 hsup hhref

end Refers

/-! ## Pages -/

/-- **A footnote link leads somewhere just when its label is defined.** The links that a page has
for footnote references are those to labels that its stream refers to, and of such a label there is
a target just when the stream defines a footnote of exactly this label. -/
theorem footnoteLinks_serialize (events : List Event) :
    ∃ tokens, lex (serialize (Node.ofEvents events).styled) = some tokens ∧
      ∀ href ∈ footnoteLinks "" (startTags tokens), ∃ label, href = "#fn-" ++ label ∧
        .footnoteReference label ∈ events ∧
          ("fn-" ++ label ∈ targets (startTags tokens) ↔
            label ∈ Event.definitions maxDepth [] events) := by
  obtain ⟨tokens, htokens, htags⟩ := lex_serialize (Node.ofEvents events)
  have hrefers : Refers (.footnoteReference · ∈ events) (nodeTags (Node.ofEvents events)) :=
    .nodeTags fun n hn label hkind => Node.mem_of_footnoteReference hn hkind
  refine ⟨tokens, htokens, fun href hhref => ?_⟩
  rw [htags] at hhref ⊢
  obtain ⟨label, rfl, hlabel⟩ := hrefers.of_mem_footnoteLinks (by decide) hhref
  refine ⟨label, rfl, hlabel, ?_⟩
  rw [mem_targets_nodeTags (Node.bare_ofEvents events), Node.definitions_ofEvents]

/-- A page on which a label is written in two ways. -/
def foldedStream : List Event :=
  [.start .paragraph, .text "x", .footnoteReference "A", .stop .paragraph,
    .start (.footnoteDefinition "a"), .start .paragraph, .text "note", .stop .paragraph,
    .stop .footnoteDefinition]

/-- Letter case is enough to keep a link from its footnote: all labels that the stream refers to
are defined there in the sense of Markdown, and the link of one of them leads nowhere. -/
theorem footnoteLinks_foldedStream :
    (∀ label, .footnoteReference label ∈ foldedStream →
      ∃ other ∈ Event.definitions maxDepth [] foldedStream,
        Markdown.labelKey label = Markdown.labelKey other) ∧
    ∃ tokens, lex (serialize (Node.ofEvents foldedStream).styled) = some tokens ∧
      "#fn-" ++ "A" ∈ footnoteLinks "" (startTags tokens) ∧
        "fn-" ++ "A" ∉ targets (startTags tokens) := by
  obtain ⟨tokens, htokens, htags⟩ := lex_serialize (Node.ofEvents foldedStream)
  refine ⟨fun label hlabel => ?_, tokens, htokens, ?_⟩
  · have hlabel : label = "A" := by simpa [foldedStream] using hlabel
    exact ⟨"a", by decide, by rw [hlabel]; decide +kernel⟩
  · rw [htags]
    decide

end MarkView.Html
