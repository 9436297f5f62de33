import MarkView.Proofs.Tree.Linear
/-!
# The cells of a table

What a cell is depends on where it stands: its column decides the alignment, and whether the head
is open decides if it is a header. A builder keeps both as it goes, in one place for the whole
stream. The events of a table with a head and some rows (`Event.ofTable`) are nevertheless built to
the right cells after any other events, with other tables left open or not, and whatever the cells
hold (`tableCells_ofEvents`).

Where nothing belongs to a table, events that are well nested change only the innermost children
(`foldl_push_of_wellNested`), so the content of a cell does not touch the place of the next one.
An element is then read off what its start makes of the place, what is inside, and what its stop
makes of the place (`foldl_push_around`): so for a cell, for a row of cells, and for the table.
-/

namespace MarkView

/-! ## The events of a table -/

/-- The events of an element with the given ones inside. -/
def Tag.around (tag : Tag) (inner : List Event) : List Event :=
  .start tag :: (inner ++ [.stop tag.name])

namespace Event

/-- An event that neither starts nor stops an element. -/
def isSingle : Event → Bool
  | .start _ | .stop _ => false
  | _ => true

/-- Events that start and stop elements within each other, each stop by the name of its start. -/
inductive WellNested : List Event → Prop
  | nil : WellNested []
  | single {event : Event} {rest : List Event} (h : event.isSingle = true)
    (hrest : WellNested rest) : WellNested (event :: rest)
  | element (tag : Tag) {inner rest : List Event} (hinner : WellNested inner)
    (hrest : WellNested rest) : WellNested (tag.around inner ++ rest)

/-- What may stand in a cell: well nested events that belong to no table. -/
structure CellContent (events : List Event) : Prop where
  nested : WellNested events
  noTable : ∀ event ∈ events, event.isTable = false

/-- The events of some cells, each with its content. -/
def ofCells (cells : List (List Event)) : List Event := cells.flatMap Tag.tableCell.around

/-- **The events of a table**: a head and some rows, each with any number of cells. -/
def ofTable (alignments : List CellAlignment) (head : List (List Event))
    (rows : List (List (List Event))) : List Event :=
  (Tag.table alignments).around
    (Tag.tableHead.around (ofCells head) ++
      rows.flatMap fun cells => Tag.tableRow.around (ofCells cells))

theorem ofCells_concat (cells : List (List Event)) (cell : List Event) :
    ofCells (cells ++ [cell]) = ofCells cells ++ Tag.tableCell.around cell := by
  simp [ofCells]

end Event

/-- The kinds of so many cells next to each other: the columns give them their alignments in order,
and past the last column there is none. -/
def cellKinds (header : Bool) (alignments : List CellAlignment) (count : Nat) : List NodeKind :=
  (List.range count).map fun column => .tableCell header (alignments.getD column .none)

theorem cellKinds_succ (header : Bool) (alignments : List CellAlignment) (count : Nat) :
    cellKinds header alignments (count + 1) =
      cellKinds header alignments count ++ [.tableCell header (alignments.getD count .none)] := by
  simp [cellKinds, List.range_succ]

/-- The kind of a row of a table, and the kinds of its cells. -/
def Node.rowKinds (row : Node) : NodeKind × List NodeKind := (row.kind, row.children.map (·.kind))

/-- The node that is reached from a tree by so many steps, each to the last child. -/
def Node.lastAt? : Nat → Node → Option Node
  | 0, node => some node
  | level + 1, ⟨_, children⟩ => children.getLast?.bind (lastAt? level)

theorem Node.lastAt?_succ (level : Nat) (node : Node) :
    node.lastAt? (level + 1) = (node.lastAt? level).bind (·.children.getLast?) := by
  induction level generalizing node with
  | zero =>
    obtain ⟨kind, children⟩ := node
    simp [lastAt?]
  | succ level ih =>
    obtain ⟨kind, children⟩ := node
    rw [lastAt?, lastAt?, Option.bind_assoc]
    exact congrArg _ (funext ih)

namespace Builder

variable {b : Builder} {limit : Nat} {kind : NodeKind} {tag : Tag} {place : TablePlace}
  {inner events cell : List Event} {cells : List (List Event)} {row : List Node}
  {alignments : List CellAlignment} {header : Bool} {column : Nat}

/-! ## Elements -/

@[simp] theorem pushFrame_depth (frame : Frame) : (b.pushFrame frame).depth = b.depth + 1 := by
  simp only [depth, pushFrame, List.length_cons]
  omega

theorem Within.pushFrame (h : b.Within limit) (hroom : b.depth < limit) (kind : NodeKind) :
    (b.pushFrame ⟨kind, []⟩).Within limit := by
  rw [← openElement_of_hasRoom (h.hasRoom_iff.mpr hroom)]
  exact h.openElement

/-- **An element becomes a node**, if there is room for it and all that its content does is to fill
its frame and to move the table place. -/
theorem foldl_push_around (h : b.Within limit) (hroom : b.depth < limit)
    (hkind : tag.kind? b.table = some kind)
    (hinner : inner.foldl push ({ b with table := b.table.enter tag }.pushFrame ⟨kind, []⟩) =
      { b with table := place }.pushFrame ⟨kind, row⟩) :
    (tag.around inner).foldl push b =
      { b with table := place.leave tag.name }.append ⟨kind, row.reverse⟩ := by
  have hfree : b.hasRoom = true := h.hasRoom_iff.mpr hroom
  have hname : tag.name.isTransparent = false := Tag.isTransparent_of_kind? hkind
  have hstart : b.push (.start tag) =
      { b with table := b.table.enter tag }.pushFrame ⟨kind, []⟩ := by
    simp only [push, start, hkind]
    exact openElement_of_hasRoom hfree
  rw [Tag.around, List.foldl_cons, List.foldl_append, hstart, hinner, List.foldl_cons,
    List.foldl_nil, push, stop, hname]
  exact closeElement_pushFrame (b := { b with table := place.leave tag.name })
    (h.flattened_eq_zero hfree) ⟨kind, row⟩

/-! ## The content of a cell -/

/-- An event that stands by itself puts a node among the innermost children. -/
theorem push_of_isSingle (h : b.Within limit) {event : Event} (hevent : event.isSingle = true) :
    ∃ f, b.push event = b.updateChildren f := by
  cases event with
  | start tag => exact nomatch hevent
  | stop name => exact nomatch hevent
  | code content =>
    by_cases hroom : b.hasRoom = true
    · exact ⟨_, push_code_of_hasRoom h hroom⟩
    · exact ⟨_, push_code_of_not_hasRoom hroom⟩
  | _ => exact ⟨_, push_of_leaf? rfl⟩

/-- **Well nested events change only the innermost children**, if none of them belongs to a table:
not even the table place. -/
theorem foldl_push_of_wellNested (h : b.Within limit) (hnested : Event.WellNested events)
    (htable : ∀ event ∈ events, event.isTable = false) :
    ∃ f, events.foldl push b = b.updateChildren f := by
  induction hnested generalizing b with
  | nil => exact ⟨id, updateChildren_id.symm⟩
  | single hsingle hrest ih =>
    obtain ⟨-, htable⟩ := List.forall_mem_cons.mp htable
    obtain ⟨f, hf⟩ := push_of_isSingle h hsingle
    obtain ⟨g, hg⟩ := ih (b := b.updateChildren f) h.updateChildren htable
    exact ⟨g ∘ f, by rw [List.foldl_cons, hf, hg, updateChildren_updateChildren]⟩
  | element tag hinner hrest ihinner ihrest =>
    rename_i inner rest
    obtain ⟨haround, htable⟩ := List.forall_mem_append.mp htable
    obtain ⟨hstart, hrow⟩ := List.forall_mem_cons.mp haround
    obtain ⟨hrow, -⟩ := List.forall_mem_append.mp hrow
    have htag : tag.name.isTable = false := hstart
    -- it is enough that the element itself changes only the innermost children
    suffices helement : ∃ f, (tag.around inner).foldl push b = b.updateChildren f by
      obtain ⟨f, hf⟩ := helement
      obtain ⟨g, hg⟩ := ihrest (b := b.updateChildren f) h.updateChildren htable
      exact ⟨g ∘ f, by rw [List.foldl_append, hf, hg, updateChildren_updateChildren]⟩
    cases hkind : tag.kind? b.table with
    | none =>
      -- a transparent element is its content
      have hname : tag.name.isTransparent = true := Tag.kind?_eq_none_iff.mp hkind
      obtain ⟨f, hf⟩ := ihinner h hrow
      refine ⟨f, ?_⟩
      rw [Tag.around, List.foldl_cons, List.foldl_append, push_start_of_isTransparent hname, hf,
        List.foldl_cons, List.foldl_nil, push_stop_of_isTransparent hname]
    | some kind =>
      by_cases hroom : b.depth < limit
      · obtain ⟨f, hf⟩ := ihinner (h.pushFrame hroom kind) hrow
        have hinside : inner.foldl push
            ({ b with table := b.table.enter tag }.pushFrame ⟨kind, []⟩) =
              { b with table := b.table }.pushFrame ⟨kind, f []⟩ := by
          rw [TablePlace.enter_of_not_isTable htag]
          exact hf
        have helement := foldl_push_around h hroom hkind hinside
        rw [TablePlace.leave_of_not_isTable htag] at helement
        exact ⟨_, helement⟩
      · -- where there is no room, the content goes to the element around it
        have hfull : ¬ b.hasRoom = true := mt h.hasRoom_iff.mp hroom
        have hname : tag.name.isTransparent = false := Tag.isTransparent_of_kind? hkind
        have hstart : b.push (.start tag) = b.addFlattened := by
          simp only [push, start, hkind, TablePlace.enter_of_not_isTable htag]
          exact openElement_of_not_hasRoom hfull
        have hopened : b.openElement kind = b.addFlattened := openElement_of_not_hasRoom hfull
        have hwithin : b.addFlattened.Within limit := by
          rw [← hopened]
          exact h.openElement
        obtain ⟨f, hf⟩ := ihinner hwithin hrow
        refine ⟨f, ?_⟩
        rw [Tag.around, List.foldl_cons, List.foldl_append, hstart, hf, List.foldl_cons,
          List.foldl_nil, push_stop_of_not_isTable htag hname, updateChildren_addFlattened,
          closeElement_addFlattened]

/-! ## Cells, rows and tables -/

/-- Add some nodes, in order, to the innermost children. -/
def appendAll (b : Builder) (nodes : List Node) : Builder :=
  b.updateChildren (nodes.reverse ++ ·)

@[simp] theorem appendAll_nil : b.appendAll [] = b := updateChildren_id

theorem append_appendAll (nodes : List Node) (node : Node) :
    (b.appendAll nodes).append node = b.appendAll (nodes ++ [node]) := by
  rw [appendAll, append, updateChildren_updateChildren, appendAll]
  exact congrArg b.updateChildren (funext fun row => by simp)

theorem appendAll_withTable (nodes : List Node) (place : TablePlace) :
    { b with table := place }.appendAll nodes = { b.appendAll nodes with table := place } :=
  updateChildren_withTable place

/-- **A cell** takes the alignment of its column, and the next cell is in the next column. -/
theorem foldl_push_cell (h : b.Within limit) (hroom : b.depth < limit)
    (htable : b.table = ⟨alignments, header, column⟩) (hcell : Event.CellContent cell) :
    ∃ node : Node, node.kind = .tableCell header (alignments.getD column .none) ∧
      (Tag.tableCell.around cell).foldl push b =
        { b with table := ⟨alignments, header, column + 1⟩ }.append node := by
  have hkind : Tag.tableCell.kind? b.table =
      some (.tableCell header (alignments.getD column .none)) := by
    rw [htable]
    rfl
  have henter : b.table.enter .tableCell = ⟨alignments, header, column + 1⟩ := by
    rw [htable]
    rfl
  have hwithin : ({ b with table := b.table.enter .tableCell } : Builder).Within limit :=
    h.withTable _
  obtain ⟨f, hf⟩ := foldl_push_of_wellNested (hwithin.pushFrame hroom _) hcell.nested hcell.noTable
  rw [← henter]
  exact ⟨_, rfl, foldl_push_around h hroom hkind hf⟩

/-- **The cells of a row** have the columns in order. -/
theorem foldl_push_ofCells (h : b.Within limit) (hroom : b.depth < limit)
    (htable : b.table = ⟨alignments, header, 0⟩)
    (hcells : ∀ cell ∈ cells, Event.CellContent cell) :
    ∃ nodes : List Node, nodes.map (·.kind) = cellKinds header alignments cells.length ∧
      (Event.ofCells cells).foldl push b =
        { b with table := ⟨alignments, header, cells.length⟩ }.appendAll nodes := by
  induction cells using List.reverseRecOn with
  | nil =>
    refine ⟨[], rfl, ?_⟩
    rw [appendAll_nil]
    exact congrArg (fun place => { b with table := place }) htable
  | append_singleton cells cell ih =>
    rw [List.forall_mem_append, List.forall_mem_singleton] at hcells
    obtain ⟨nodes, hkinds, hnodes⟩ := ih hcells.1
    let before : Builder := { b with table := ⟨alignments, header, cells.length⟩ }
    have hwithin : (before.appendAll nodes).Within limit := (h.withTable _).updateChildren
    have hdepth : (before.appendAll nodes).depth < limit := by
      rw [appendAll, updateChildren_depth]
      exact hroom
    obtain ⟨node, hkind, hnode⟩ := foldl_push_cell hwithin hdepth updateChildren_table hcells.2
    refine ⟨nodes ++ [node], ?_, ?_⟩
    · rw [List.map_append, hkinds, List.map_singleton, hkind, List.length_append,
        List.length_singleton, cellKinds_succ]
    · rw [Event.ofCells_concat, List.foldl_append, hnodes, hnode, ← appendAll_withTable,
        append_appendAll, List.length_append, List.length_singleton]

/-- **A head or a row** is a node with its cells, which are header cells just in a head. After it
no head is open. -/
theorem foldl_push_row (h : b.Within limit) (hroom : b.depth + 1 < limit)
    (hkind : tag.kind? b.table = some kind)
    (henter : b.table.enter tag = ⟨alignments, header, 0⟩)
    (hleave : ∀ column, TablePlace.leave ⟨alignments, header, column⟩ tag.name =
      ⟨alignments, false, column⟩)
    (hcells : ∀ cell ∈ cells, Event.CellContent cell) :
    ∃ row : Node, row.kind = kind ∧
      row.children.map (·.kind) = cellKinds header alignments cells.length ∧
      (tag.around (Event.ofCells cells)).foldl push b =
        { b with table := ⟨alignments, false, cells.length⟩ }.append row := by
  have hwithin : ({ b with table := b.table.enter tag } : Builder).Within limit := h.withTable _
  have houter : b.depth < limit := by omega
  obtain ⟨nodes, hkinds, hnodes⟩ := foldl_push_ofCells (hwithin.pushFrame houter kind)
    (by rw [pushFrame_depth]; exact hroom) henter hcells
  have hrow : (tag.around (Event.ofCells cells)).foldl push b =
      { b with table := TablePlace.leave ⟨alignments, header, cells.length⟩ tag.name }.append
        ⟨kind, (nodes.reverse ++ []).reverse⟩ := foldl_push_around h houter hkind hnodes
  rw [hleave, List.append_nil, List.reverse_reverse] at hrow
  exact ⟨_, rfl, hkinds, hrow⟩

/-- **Rows** follow each other in order. -/
theorem foldl_push_rows {rows : List (List (List Event))} (h : b.Within limit)
    (hroom : b.depth + 1 < limit) (htable : b.table = ⟨alignments, false, column⟩)
    (hcells : ∀ cells ∈ rows, ∀ cell ∈ cells, Event.CellContent cell) :
    ∃ (nodes : List Node) (column' : Nat),
      nodes.map Node.rowKinds =
        rows.map (fun cells => (.tableRow, cellKinds false alignments cells.length)) ∧
      (rows.flatMap fun cells => Tag.tableRow.around (Event.ofCells cells)).foldl push b =
        { b with table := ⟨alignments, false, column'⟩ }.appendAll nodes := by
  induction rows using List.reverseRecOn with
  | nil =>
    refine ⟨[], column, rfl, ?_⟩
    rw [appendAll_nil]
    exact congrArg (fun place => { b with table := place }) htable
  | append_singleton rows cells ih =>
    rw [List.forall_mem_append, List.forall_mem_singleton] at hcells
    obtain ⟨nodes, column', hkinds, hnodes⟩ := ih hcells.1
    let before : Builder := { b with table := ⟨alignments, false, column'⟩ }
    have hwithin : (before.appendAll nodes).Within limit := (h.withTable _).updateChildren
    have hdepth : (before.appendAll nodes).depth + 1 < limit := by
      rw [appendAll, updateChildren_depth]
      exact hroom
    have hplace : (before.appendAll nodes).table = before.table := updateChildren_table
    have henter : (before.appendAll nodes).table.enter .tableRow = ⟨alignments, false, 0⟩ := by
      rw [hplace]
      rfl
    obtain ⟨row, hkind, hcellKinds, hrow⟩ :=
      foldl_push_row hwithin hdepth rfl henter (fun _ => rfl) hcells.2
    refine ⟨nodes ++ [row], cells.length, ?_, ?_⟩
    · rw [List.map_append, hkinds, List.map_singleton, Node.rowKinds, hkind, hcellKinds,
        List.map_append, List.map_singleton]
    · rw [List.flatMap_append, List.foldl_append, hnodes, List.flatMap_singleton, hrow,
        ← appendAll_withTable, append_appendAll]

/-- **A table** is a node with its head and its rows, whatever the table place was before. -/
theorem foldl_push_ofTable {head : List (List Event)} {rows : List (List (List Event))}
    (h : b.Within limit) (hroom : b.depth + 2 < limit)
    (hhead : ∀ cell ∈ head, Event.CellContent cell)
    (hrows : ∀ cells ∈ rows, ∀ cell ∈ cells, Event.CellContent cell) :
    ∃ (table : Node) (column : Nat), table.kind = .table ∧
      table.children.map Node.rowKinds =
        (.tableHead, cellKinds true alignments head.length) ::
          rows.map (fun cells => (.tableRow, cellKinds false alignments cells.length)) ∧
      (Event.ofTable alignments head rows).foldl push b =
        { b with table := ⟨alignments, false, column⟩ }.append table := by
  let opened : Builder := { b with table := ⟨alignments, false, 0⟩ }.pushFrame ⟨.table, []⟩
  have houter : b.depth < limit := by omega
  have hwithin : opened.Within limit :=
    (h.withTable ⟨alignments, false, 0⟩).pushFrame houter .table
  have hdepth : opened.depth + 1 < limit := by
    rw [pushFrame_depth]
    exact hroom
  have henter : opened.table.enter .tableHead = ⟨alignments, true, 0⟩ := rfl
  obtain ⟨first, hfirst, hfirstCells, hfirstRow⟩ :=
    foldl_push_row hwithin hdepth rfl henter (fun _ => rfl) hhead
  -- the rows follow in the same frame, with the head as its first child
  let after : Builder := { opened with table := ⟨alignments, false, head.length⟩ }.append first
  have hafter : after.Within limit := (hwithin.withTable _).updateChildren
  have hafterDepth : after.depth + 1 < limit := by
    rw [append_depth]
    exact hdepth
  obtain ⟨others, column, hothers, hotherRows⟩ := foldl_push_rows hafter hafterDepth rfl hrows
  have hinside : (Tag.tableHead.around (Event.ofCells head) ++
      rows.flatMap fun cells => Tag.tableRow.around (Event.ofCells cells)).foldl push opened =
        { b with table := ⟨alignments, false, column⟩ }.pushFrame
          ⟨.table, others.reverse ++ [first]⟩ := by
    rw [List.foldl_append, hfirstRow, hotherRows]
    rfl
  have hkind : Tag.kind? b.table (.table alignments) = some .table := rfl
  refine ⟨_, column, rfl, ?_, foldl_push_around h houter hkind hinside⟩
  simp [Node.rowKinds, hfirst, hfirstCells, hothers]

/-! ## The last nodes of a tree -/

/-- The children of the innermost element so far. -/
def innermost (b : Builder) : List Node :=
  match b.opened with
  | [] => b.root
  | frame :: _ => frame.children

@[simp] theorem innermost_append (node : Node) :
    (b.append node).innermost = node :: b.innermost := by
  obtain ⟨opened, root, table, flattened, limit⟩ := b
  cases opened <;> rfl

/-- **The last of the innermost children is the last node of the finished tree** that lies within as
many elements as are open. -/
theorem lastAt?_finish (hflat : b.flattened = 0) :
    b.finish.lastAt? (b.opened.length + 1) = b.innermost.head? := by
  induction hlength : b.opened.length generalizing b with
  | zero =>
    have hopened : b.opened = [] := List.eq_nil_of_length_eq_zero hlength
    have hdepth : b.depth = 0 := by rw [depth, hlength, hflat]
    have hroot : b.innermost = b.root := by rw [innermost, hopened]
    rw [Node.lastAt?_succ, hroot]
    simp [Node.lastAt?, finish, hdepth, closeElements]
  | succ n ih =>
    rcases opened_eq_nil_or_pushFrame b with hnil | ⟨outer, frame, rfl⟩
    · rw [hnil] at hlength
      cases hlength
    · -- what closes next is the last child of the element around it
      have houter : outer.opened.length = n := Nat.succ.inj hlength
      let node : Node := ⟨frame.kind, frame.children.reverse⟩
      have hkept : outer.flattened = 0 := hflat
      have hclosed : (outer.append node).finish.lastAt? (n + 1) = some node := by
        rw [ih (b := outer.append node) (by simpa [append] using hkept)
          (by simpa [append] using houter), innermost_append]
        rfl
      rw [← finish_closeElement, closeElement_pushFrame (b := outer) hflat, Node.lastAt?_succ,
        hclosed]
      simp [node, innermost, pushFrame]

end Builder

/-- **Every cell of a table has the alignment of its column, and the cells of the head are its
header cells.** Let any events leave room for a table, with its rows and cells, and let the events
of a table follow. The last node that lies within what is open before the table is that table: it
has a head and the rows, in order, and each of these has its cells in order, with the alignments of
the columns, and none past the last column. -/
theorem Node.tableCells_ofEvents {before : List Event} {alignments : List CellAlignment}
    {head : List (List Event)} {rows : List (List (List Event))}
    (hroom : before.foldl Event.depthAfter 0 ≤ maxDepth - 3)
    (hhead : ∀ cell ∈ head, Event.CellContent cell)
    (hrows : ∀ cells ∈ rows, ∀ cell ∈ cells, Event.CellContent cell) :
    ∃ table : Node,
      (ofEvents (before ++ Event.ofTable alignments head rows)).lastAt?
        (before.foldl Event.depthAfter 0 + 1) = some table ∧
      table.kind = .table ∧
      table.children.map rowKinds =
        (.tableHead, cellKinds true alignments head.length) ::
          rows.map (fun cells => (.tableRow, cellKinds false alignments cells.length)) := by
  let b := before.foldl Builder.push { limit := some maxDepth }
  have hwithin : b.Within maxDepth := (Builder.Within.init maxDepth).foldl before
  have hdepth : b.depth = before.foldl Event.depthAfter 0 := Builder.foldl_push_depth _ before
  have hinside : b.depth + 2 < maxDepth := by
    rw [hdepth]
    unfold maxDepth at hroom ⊢
    omega
  have hkept : b.flattened = 0 :=
    hwithin.flattened_eq_zero (hwithin.hasRoom_iff.mpr (by omega))
  obtain ⟨table, column, hkind, hrowKinds, hbuilt⟩ :=
    Builder.foldl_push_ofTable hwithin hinside hhead hrows
  refine ⟨table, ?_, hkind, hrowKinds⟩
  let after : Builder := { b with table := ⟨alignments, false, column⟩ }.append table
  have hopened : after.opened.length = before.foldl Event.depthAfter 0 := by
    have hlength : after.opened.length = b.opened.length := Builder.updateChildren_opened_length
    have hall : b.depth = b.opened.length := by rw [Builder.depth, hkept, Nat.add_zero]
    rw [hlength, ← hall, hdepth]
  have hflat : after.flattened = 0 := Builder.updateChildren_flattened.trans hkept
  have hlast := Builder.lastAt?_finish hflat
  rw [Builder.innermost_append, List.head?_cons, hopened] at hlast
  rw [ofEvents, ofEventsWithin, List.foldl_append, hbuilt]
  exact hlast

/-- A stray stop, and a table whose head is left open in the middle of a cell. -/
def brokenOffTable : List Event :=
  [.stop .tableRow, .start (.table [.right]), .start .tableHead, .start .tableCell, .text "x"]

/-- A table with two columns, a head of three cells, a row without cells, and a row with one. -/
theorem Node.tableCells_ofEvents_brokenOffTable :
    brokenOffTable.foldl Event.depthAfter 0 ≤ maxDepth - 3 ∧
    Event.CellContent [.start .superscript, .code "y", .stop .superscript] ∧
    ∃ table : Node,
      (ofEvents (brokenOffTable ++ Event.ofTable [.left, .center]
        [[], [.start .superscript, .code "y", .stop .superscript], [.text "z"]]
        [[], [[.softBreak]]])).lastAt? 4 = some table ∧
      table.kind = .table ∧
      table.children.map rowKinds =
        [(.tableHead, [.tableCell true .left, .tableCell true .center, .tableCell true .none]),
          (.tableRow, []), (.tableRow, [.tableCell false .left])] := by
  have hroom : brokenOffTable.foldl Event.depthAfter 0 ≤ maxDepth - 3 := by decide
  have hempty : Event.CellContent [] := ⟨.nil, by decide⟩
  have hraised : Event.CellContent [.start .superscript, .code "y", .stop .superscript] :=
    ⟨.element .superscript (.single rfl .nil) .nil, by decide⟩
  have htext : Event.CellContent [.text "z"] := ⟨.single rfl .nil, by decide⟩
  have hbreak : Event.CellContent [.softBreak] := ⟨.single rfl .nil, by decide⟩
  refine ⟨hroom, hraised, tableCells_ofEvents hroom ?_ ?_⟩
  · simp [hempty, hraised, htext]
  · simp [hbreak]

end MarkView
