import MarkView.Proofs.Html.PlainText
import MarkView.Proofs.Html.StartTags
import MarkView.Proofs.Tree.Outline
/-!
# Page and outline show the same structure

A page and an outline are written from the same tree in two ways that share no code. What a page
says about elements and classes can be read from its start tags (`skeleton`), once those are left
out that an outline does not name: the body of a table, the row in its head, and the link in a
footnote reference. If the heads of all tables come first, so that the page keeps the order of the
rows, that is what the outline says (`skeleton_serialize`).

Whether a tag is left out depends on the one before it. `Shows` says of some tags what they add
to the skeleton wherever they stand, but for the places where they would be left out, and nodes
end at no such place.
-/

namespace MarkView.Html

/-! ## Skeletons -/

/-- The name of a tag with its classes, each after a dot. -/
def StartTag.selector (tag : StartTag) : String :=
  tag.name ++ String.join
    ((Text.words ((tag.value? "class").getD "").toList).map fun w => "." ++ String.ofList w)

/-- Whether a tag, by its name and that of the tag before it, is one that no node is named by. -/
def isImplied (before name : String) : Bool :=
  name = "tbody" || before = "thead" && name = "tr" || before = "sup" && name = "a"

/-- The start tags that name a node. -/
def structural (before : String) : List StartTag → List StartTag
  | [] => []
  | tag :: rest =>
    if isImplied before tag.name then structural tag.name rest
    else tag :: structural tag.name rest

/-- The selectors of start tags, with that of a `pre` before that of its code. -/
def joined : List StartTag → List String
  | [] => []
  | [tag] => [tag.selector]
  | tag :: next :: rest =>
    if tag.name = "pre" ∧ next.name = "code" then
      (tag.selector ++ " > " ++ next.selector) :: joined rest
    else tag.selector :: joined (next :: rest)

/-- **The skeleton of some HTML**: its elements with their classes, in order. -/
def skeleton (html : String) : Option (List String) :=
  (lex html).map fun tokens => joined (structural "" (startTags tokens))

/-! ## What tags show -/

/-- After a tag of this name no other is left out but a `tbody`. -/
def Settled (before : String) : Prop := before ≠ "thead" ∧ before ≠ "sup"

/-- What some start tags add to a skeleton, where they stand after a settled one. -/
def Shows (tags : List StartTag) (labels : List String) : Prop :=
  ∀ before, Settled before → ∃ after, Settled after ∧ ∀ rest,
    joined (structural before (tags ++ rest)) = labels ++ joined (structural after rest)

theorem joined_cons_of_ne {tag : StartTag} (h : tag.name ≠ "pre") (rest : List StartTag) :
    joined (tag :: rest) = tag.selector :: joined rest := by
  cases rest with
  | nil => rfl
  | cons next rest => rw [joined, if_neg fun hpre => h hpre.1]

theorem isImplied_of_settled {before name : String} (h : Settled before) (hname : name ≠ "tbody") :
    isImplied before name = false := by
  simp [isImplied, h.1, h.2, hname]

namespace Shows

variable {xs ys : List StartTag} {labels more : List String} {tag : StartTag}

theorem nil : Shows [] [] := fun before h => ⟨before, h, fun _ => rfl⟩

theorem append (hx : Shows xs labels) (hy : Shows ys more) : Shows (xs ++ ys) (labels ++ more) := by
  intro before hbefore
  obtain ⟨between, hbetween, hfirst⟩ := hx before hbefore
  obtain ⟨after, hafter, hsecond⟩ := hy between hbetween
  refine ⟨after, hafter, fun rest => ?_⟩
  rw [List.append_assoc, hfirst, hsecond, List.append_assoc]

/-- A tag shows itself. -/
theorem single (hsettled : Settled tag.name) (hbody : tag.name ≠ "tbody")
    (hpre : tag.name ≠ "pre") : Shows [tag] [tag.selector] := by
  intro before hbefore
  refine ⟨tag.name, hsettled, fun rest => ?_⟩
  rw [List.singleton_append, structural, isImplied_of_settled hbefore hbody,
    if_neg Bool.false_ne_true, joined_cons_of_ne hpre, List.singleton_append]

/-- A tag is shown without the one that it implies. -/
theorem withImplied {name implied : String} {attributes attributes' : List Attribute}
    (h : isImplied name implied = true) (hsettled : Settled implied) (hbody : name ≠ "tbody")
    (hpre : name ≠ "pre") :
    Shows [⟨name, attributes⟩, ⟨implied, attributes'⟩] [StartTag.selector ⟨name, attributes⟩] := by
  intro before hbefore
  refine ⟨implied, hsettled, fun rest => ?_⟩
  rw [List.cons_append, structural, isImplied_of_settled hbefore hbody,
    if_neg Bool.false_ne_true, joined_cons_of_ne hpre, List.singleton_append, structural,
    if_pos h, List.singleton_append]

/-- Code in a `pre` is shown with it. -/
theorem within {attributes attributes' : List Attribute} :
    Shows [⟨"pre", attributes⟩, ⟨"code", attributes'⟩]
      [StartTag.selector ⟨"pre", attributes⟩ ++ " > " ++
        StartTag.selector ⟨"code", attributes'⟩] := by
  intro before hbefore
  refine ⟨"code", ⟨by decide, by decide⟩, fun rest => ?_⟩
  have hcode : isImplied "pre" "code" = false := by decide
  simp only [List.cons_append, List.nil_append, structural,
    isImplied_of_settled hbefore (by decide : "pre" ≠ "tbody"), hcode, Bool.false_eq_true, if_false]
  rw [joined, if_pos ⟨rfl, rfl⟩]

/-- The tag of a table's body shows nothing. -/
theorem body {attributes : List Attribute} (h : Shows xs labels) :
    Shows (⟨"tbody", attributes⟩ :: xs) labels := by
  intro before hbefore
  obtain ⟨after, hafter, hxs⟩ := h "tbody" ⟨by decide, by decide⟩
  refine ⟨after, hafter, fun rest => ?_⟩
  have himplied : isImplied before "tbody" = true := rfl
  rw [List.cons_append, structural, if_pos himplied, hxs]

end Shows

/-! ## The tags of a kind -/

section Kinds

variable {element : Element} {cssClass : Option String} {attributes : List Attribute}
  {kind : NodeKind}

/-- A start tag is read with the classes that it was written with. -/
theorem selector_startTag {name : String} (htag : element.tag? = some name)
    (h : ∀ a ∈ attributes, a.name ≠ "class") :
    StartTag.selector ⟨name, classAttribute cssClass ++ attributes⟩ =
      MarkView.selector element cssClass := by
  have hvalue : StartTag.value? ⟨name, classAttribute cssClass ++ attributes⟩ "class" =
      cssClass := by
    cases cssClass with
    | some words => rfl
    | none =>
      have hnone : attributes.find? (·.name == "class") = none := by
        simpa using h
      simp [StartTag.value?, classAttribute, hnone]
  rw [StartTag.selector, MarkView.selector, hvalue, htag, Option.getD_some]

theorem shows_elementTags (helement : element ∉ [.fragment, .pre, .thead, .sup])
    (h : ∀ a ∈ attributes, a.name ≠ "class") :
    Shows (elementTags element cssClass attributes) [MarkView.selector element cssClass] := by
  cases htag : element.tag? with
  | none =>
    have hfragment := Element.tag?_eq_none_iff.mp htag
    exact absurd (by simp [hfragment]) helement
  | some name =>
    have hname : Settled name ∧ name ≠ "tbody" ∧ name ≠ "pre" := by
      cases element <;> simp [Element.tag?] at htag helement <;> subst htag <;>
        exact ⟨⟨by decide, by decide⟩, by decide, by decide⟩
    rw [elementTags, htag, ← selector_startTag htag h]
    exact Shows.single hname.1 hname.2.1 hname.2.2

/-- The rules know a container for code only. -/
theorem container_rule (h : ∀ display language, kind ≠ .code display language) :
    kind.rule.container = none := by
  cases kind with
  | code display language => exact absurd rfl (h display language)
  | heading level =>
    unfold NodeKind.rule styleFor lookupStyle? NodeKind.type
    split <;> first | rfl | simp_all
  | _ => rfl

/-- Among the attributes of a kind that are not its class there is no class. -/
theorem name_ownAttributes (kind : NodeKind) : ∀ a ∈ ownAttributes kind, a.name ≠ "class" :=
  fun a ha => ne_of_mem_of_not_mem (name_mem_ownNames kind a ha) (by decide)

theorem name_imageAttributes (src title alt : String) :
    ∀ a ∈ imageAttributes src title alt, a.name ≠ "class" := by
  unfold imageAttributes titleAttribute
  split <;> simp [Attribute.ofValue]

/-- The label of most kinds is the selector of their element. -/
theorem label?_eq (hcode : ∀ display language, kind ≠ .code display language)
    (h : kind.element ≠ .fragment) :
    kind.label? = some (MarkView.selector kind.element kind.rule.cssClass) := by
  have hcontainer := container_rule hcode
  have hlabel : ∀ label, "" ++ label ++ "" = label := fun label => by
    rw [String.empty_append, String.append_empty]
  cases kind with
  | document | text content | html content | softBreak => exact absurd rfl h
  | code display language => exact absurd rfl (hcode display language)
  | _ =>
    simp only [NodeKind.label?, outlineLabel, hcontainer, hlabel]

theorem element_heading {level : Nat} (h : 1 ≤ level ∧ level ≤ 6) :
    (NodeKind.heading level).element ∉ [.fragment, .pre, .thead, .sup] := by
  have hlevel : level = 1 ∨ level = 2 ∨ level = 3 ∨ level = 4 ∨ level = 5 ∨ level = 6 := by omega
  rcases hlevel with rfl | rfl | rfl | rfl | rfl | rfl <;> decide

/-- A kind that is written as its element shows it. -/
theorem shows_ownTags_of_element {alt : String}
    (hcode : ∀ display language, kind ≠ .code display language)
    (helement : kind.element ∉ [.fragment, .pre, .thead, .sup])
    (hinner : innerTags alt kind = elementTags kind.element kind.rule.cssClass attributes)
    (h : ∀ a ∈ attributes, a.name ≠ "class") :
    Shows (ownTags alt kind) kind.label?.toList := by
  have hfragment : kind.element ≠ .fragment := fun heq => helement (by rw [heq]; decide)
  rw [ownTags, container_rule hcode, hinner, label?_eq hcode hfragment]
  exact shows_elementTags helement h

/-- The class that a word makes for a language is a class of its own. -/
theorem selector_language {language : String} (h : IsWord language) :
    StartTag.selector ⟨"code", [.ofValue "class" ("language-" ++ language)]⟩ =
      "code" ++ (".language-" ++ language) := by
  have hblank : "language-".toList.any Text.isSpace = false := by decide
  have hspace : ∀ c ∈ ("language-" ++ language).toList, Text.isSpace c = false := by
    rw [String.toList_append, List.forall_mem_append]
    exact ⟨fun c hc => Bool.eq_false_iff.mpr (List.any_eq_false.mp hblank c hc), h.2⟩
  have hwords := Text.words_of_no_space hspace (by simp)
  have hvalue : (StartTag.value? ⟨"code", [.ofValue "class" ("language-" ++ language)]⟩
      "class").getD "" = "language-" ++ language := rfl
  rw [StartTag.selector, hvalue, hwords, List.map_singleton, String.ofList_toList]
  simp [← String.append_assoc]

/-- What the label of code says of its language. -/
def languageLabel (language : Option String) : String :=
  match language with
  | some word => ".language-" ++ word
  | none => ""

/-- A block of code is named with its container. -/
theorem label?_codeBlock (language : Option String) :
    (NodeKind.code .block language).label? =
      some (MarkView.selector .pre (some "bg-gray-100 rounded p-4 mb-4") ++ " > " ++
        (MarkView.selector .code none ++ languageLabel language)) := by
  rw [← String.append_assoc]
  cases language <;> rfl

/-- The tag of code in a block names the language. -/
theorem selector_codeBlock {language : Option String} (h : ∀ word ∈ language, IsWord word) :
    StartTag.selector ⟨"code", classAttribute
        (ownClass (.code .block language) (NodeKind.code .block language).rule) ++ []⟩ =
      MarkView.selector .code none ++ languageLabel language := by
  cases language with
  | none => rfl
  | some word => exact selector_language (h word rfl)

/-- Code is shown with its language, and a block of it within its container. -/
theorem shows_ownTags_code {display : CodeDisplay} {language : Option String}
    (hkind : (NodeKind.code display language).Proper) (alt : String) :
    Shows (ownTags alt (.code display language))
      (NodeKind.code display language).label?.toList := by
  cases display with
  | inline =>
    obtain rfl : language = none := hkind
    have hcode : Shows (elementTags .code inlineCodeRule.cssClass [])
        [MarkView.selector .code inlineCodeRule.cssClass] := shows_elementTags (by decide) (by simp)
    have hlabel : (NodeKind.code .inline none).label? =
        some (MarkView.selector .code inlineCodeRule.cssClass) := by decide
    rw [hlabel]
    exact hcode
  | block =>
    have hpre : StartTag.selector
          ⟨"pre", classAttribute (some "bg-gray-100 rounded p-4 mb-4") ++ []⟩ =
        MarkView.selector .pre (some "bg-gray-100 rounded p-4 mb-4") :=
      selector_startTag rfl (by simp)
    rw [label?_codeBlock, ← hpre, ← selector_codeBlock hkind]
    exact .within

/-- **The tags of a kind show its label**, if an event can make it. -/
theorem shows_ownTags (hkind : kind.Proper) (alt : String) :
    Shows (ownTags alt kind) kind.label?.toList := by
  cases kind with
  | document => exact hkind.elim
  | text content | html content | softBreak => exact .nil
  | image src title =>
    exact shows_ownTags_of_element (by simp) (by simp [NodeKind.element]) rfl
      (name_imageAttributes src title alt)
  | code display language => exact shows_ownTags_code hkind alt
  | tableHead =>
    have hselector : StartTag.selector ⟨"thead", classAttribute none ++ []⟩ =
        MarkView.selector .thead none := selector_startTag rfl (by simp)
    rw [label?_eq (by simp) (by simp [NodeKind.element])]
    refine hselector ▸ .withImplied rfl ⟨by decide, by decide⟩ (by decide) (by decide)
  | footnoteReference label =>
    have hselector : StartTag.selector ⟨"sup", classAttribute none ++ []⟩ =
        MarkView.selector .sup none := selector_startTag rfl (by simp)
    rw [label?_eq (by simp) (by simp [NodeKind.element])]
    refine hselector ▸ .withImplied rfl ⟨by decide, by decide⟩ (by decide) (by decide)
  | heading level =>
    exact shows_ownTags_of_element (by simp) (element_heading hkind) rfl (name_ownAttributes _)
  | tableCell header alignment =>
    have helement : (NodeKind.tableCell header alignment).element ∉
        [.fragment, .pre, .thead, .sup] := by cases header <;> simp [NodeKind.element]
    exact shows_ownTags_of_element (by simp) helement rfl (name_ownAttributes _)
  | _ =>
    exact shows_ownTags_of_element (by simp) (by simp [NodeKind.element]) rfl (name_ownAttributes _)

end Kinds

/-! ## Trees -/

section Trees

variable {nodes : List Node}

/-- Where the heads lead, it changes nothing to put them first. -/
theorem heads_append_others (h : Node.HeadsLead nodes) :
    nodes.filter (·.kind = .tableHead) ++ nodes.filter (·.kind ≠ .tableHead) = nodes := by
  induction nodes with
  | nil => rfl
  | cons node rest ih =>
    obtain ⟨hfirst, hrest⟩ := List.pairwise_cons.mp h
    by_cases hkind : node.kind = .tableHead
    · simpa [hkind] using ih hrest
    · -- after a row that is no head there is none
      have hne : ∀ second ∈ node :: rest, second.kind ≠ .tableHead :=
        List.forall_mem_cons.mpr ⟨hkind, fun second hsecond hhead =>
          hkind (hfirst second hsecond hhead)⟩
      have hheads : (node :: rest).filter (·.kind = .tableHead) = [] := by
        simpa [List.filter_eq_nil_iff] using hne
      have hothers : (node :: rest).filter (·.kind ≠ .tableHead) = node :: rest := by
        simpa [List.filter_eq_self] using hne
      rw [hheads, hothers, List.nil_append]

theorem shows_row (h : ∀ node ∈ nodes, Shows (nodeTags node) node.labels) :
    Shows (nodes.flatMap nodeTags) (Node.labelsAll nodes) := by
  induction nodes with
  | nil => exact .nil
  | cons node rest ih =>
    rw [List.forall_mem_cons] at h
    exact h.1.append (ih h.2)

/-- **A table shows its rows in order** if its heads lead. -/
theorem shows_tableTags (hlead : Node.HeadsLead nodes)
    (h : ∀ node ∈ nodes, Shows (nodeTags node) node.labels) :
    Shows (tableTags nodes) (Node.labelsAll nodes) := by
  have hpart : ∀ p : Node → Bool, Shows ((nodes.filter p).flatMap nodeTags)
      (Node.labelsAll (nodes.filter p)) := fun p =>
    shows_row fun node hnode => h node (List.mem_of_mem_filter hnode)
  rw [← heads_append_others hlead, Node.labelsAll_append, heads_append_others hlead, tableTags]
  refine (hpart _).append ?_
  split
  · next hall =>
    have hnone : nodes.filter (·.kind ≠ .tableHead) = [] := by
      simpa [List.filter_eq_nil_iff] using hall
    rw [hnone]
    exact .nil
  · exact (hpart _).body

/-- **The tags of a tree show its labels**, if an event can make each of its kinds, its leaves have
no children and the heads of its tables come first. -/
theorem shows_nodeTags {node : Node} (h : ∀ n ∈ node.preorder, n.kind.Proper ∧ n.Bare)
    (hheads : node.HeadsFirst) : Shows (nodeTags node) node.labels := by
  induction node using Node.induction with
  | node kind children ih =>
    have hself := h _ (Node.self_mem_preorder _)
    have hbelow : ∀ child ∈ children, ∀ n ∈ child.preorder, n ∈ Node.preorder ⟨kind, children⟩ := by
      intro child hchild n hn
      rw [Node.preorder]
      exact List.mem_cons_of_mem _ (Node.mem_preorderAll.mpr ⟨child, hchild, hn⟩)
    have hchildren : ∀ child ∈ children, Shows (nodeTags child) child.labels := fun child hchild =>
      ih child hchild (fun n hn => h n (hbelow child hchild n hn))
        fun n hn => hheads n (hbelow child hchild n hn)
    rw [nodeTags_mk, Node.labels]
    refine (shows_ownTags hself.1 _).append ?_
    unfold childTags
    by_cases hkept : kind.isOpaque = true
    · simpa [hkept] using Shows.nil
    rw [Bool.not_eq_true] at hkept
    by_cases hleaf : kind.isLeaf = true
    · obtain rfl : children = [] := hself.2 hleaf
      simpa [hkept, hleaf, Node.labelsAll] using Shows.nil
    rw [Bool.not_eq_true] at hleaf
    simp only [hkept, hleaf, Bool.or_self, Bool.false_eq_true, if_false]
    split
    · next htable =>
      exact shows_tableTags (hheads _ (Node.self_mem_preorder _) htable) hchildren
    · exact shows_row hchildren

end Trees

/-- The skeleton of a page has the labels of its tree. -/
theorem skeleton_eq_labels {tree : Node} (hnormal : tree.Normal NodeKind.Proper)
    (hheads : tree.HeadsFirst) : skeleton (serialize tree.styled) = some tree.labels := by
  obtain ⟨tokens, htokens, htags⟩ := lex_serialize tree
  obtain ⟨kind, children⟩ := tree
  obtain rfl : kind = .document := hnormal.root
  have hbelow : ∀ child ∈ children, ∀ n ∈ child.preorder, n ∈ Node.preorderAll children :=
    fun child hchild n hn => Node.mem_preorderAll.mpr ⟨child, hchild, hn⟩
  have hrow : Shows (children.flatMap nodeTags) (Node.labelsAll children) := by
    refine shows_row fun child hchild => shows_nodeTags (fun n hn => ?_) fun n hn => ?_
    · have hsound := hnormal.nodes n (hbelow child hchild n hn)
      exact ⟨hsound.kind, hsound.bare⟩
    · exact hheads n (List.mem_cons_of_mem _ (hbelow child hchild n hn))
  -- the root is written without a tag
  have hroot : nodeTags ⟨.document, children⟩ = children.flatMap nodeTags := by
    rw [nodeTags_mk]
    rfl
  obtain ⟨after, -, hshows⟩ := hrow "" ⟨by decide, by decide⟩
  have hskeleton := hshows []
  rw [List.append_nil, structural, joined, List.append_nil] at hskeleton
  rw [skeleton, htokens, Option.map_some, htags, hroot, hskeleton]
  rfl

/-- **Page and outline show the same structure.** What the start tags of a page say is what the
lines of the outline say that are not quoted, if the heads of the page's tables come first. -/
theorem skeleton_serialize (events : List Event) (h : (Node.ofEvents events).HeadsFirst) :
    skeleton (serialize (Node.ofEvents events).styled) =
      some (unquotedLines (outline (Node.ofEvents events).styled.pruned)) := by
  rw [Node.unquotedLines_outline_ofEvents]
  exact skeleton_eq_labels (Node.normal_proper_ofEvents events) h

/-- A stream with every sort of label: a table whose head is a row of its own, a footnote
reference before a link, and code with a language. -/
def labelledStream : List Event :=
  [.start (.table [.none]), .start .tableHead, .start .tableRow, .start .tableCell,
    .footnoteReference "1", .start (.link "x" ""), .text "a\n", .stop .link, .stop .tableCell,
    .stop .tableRow, .stop .tableHead, .start .tableRow, .stop .tableRow, .stop .table,
    .start (.codeBlock (some "rust ignore")), .start .emphasis, .text "\"", .stop .emphasis,
    .stop .codeBlock, .code "b", .start (.image "y" ""), .start .strong]

theorem skeleton_serialize_labelledStream : (Node.ofEvents labelledStream).HeadsFirst ∧
    skeleton (serialize (Node.ofEvents labelledStream).styled) =
      some ["table", "thead", "tr", "th", "sup", "a.text-blue-500.hover:underline", "tr",
        "pre.bg-gray-100.rounded.p-4.mb-4 > code.language-rust",
        "code.bg-gray-100.rounded.px-1", "img"] := by
  have hheads : (Node.ofEvents labelledStream).HeadsFirst := by decide
  have hlabels : (Node.ofEvents labelledStream).labels =
      ["table", "thead", "tr", "th", "sup", "a.text-blue-500.hover:underline", "tr",
        "pre.bg-gray-100.rounded.p-4.mb-4 > code.language-rust",
        "code.bg-gray-100.rounded.px-1", "img"] := by decide
  refine ⟨hheads, (skeleton_serialize labelledStream hheads).trans ?_⟩
  rw [Node.unquotedLines_outline_ofEvents, hlabels]

end MarkView.Html
