import MarkedVerse.Html.Builder.Run
import MarkedVerse.Proofs.PrintedTags
import MarkedVerse.Proofs.TreeGrowth

/-!
# Reading balanced markup

The markup of a document is balanced: every element is closed before the one around it, its blocks
stand in blocks, and its texts stand in paragraphs and spans (`Balanced`). For such markup most
rules of a builder have nothing to do. Where only blocks are open (`Builder.Calm`), reading it
changes nothing but the tree, to which it adds what was printed (`Balanced.reads`).
-/

namespace MarkedVerse.Html

/-! ## Builders that have nothing to put right -/

namespace Builder

/-- The names of elements in which blocks stand. -/
def containerNames : List String :=
  ["div", "section", "header"]

/-- The names of elements in which one text stands. -/
def lineNames : List String :=
  ["p", "span"]

/-- An element in which blocks stand; the root is one too. -/
def isContainer (e : Element) : Bool :=
  e.isOneOf ("html" :: containerNames)

/-- The builder reads what is in an element of HTML, around which there are only elements in which
blocks stand, and nothing is left over from before. -/
structure Quiet (b : Builder) (id : Nat) (e : Element) (outer : List Nat) : Prop where
  mode : b.mode = .body
  formatting : b.formatting = []
  fostering : b.fostering = false
  skipLineEnd : b.skipLineEnd = false
  plain : b.plain = false
  stack : b.stack = id :: outer
  current : b.tree.element? id = some e
  vocabulary : e.vocabulary = .html
  opened : ∀ j ∈ outer, ∃ e, b.tree.element? j = some e ∧ isContainer e = true

/-- The builder reads what is in an element in which blocks stand. -/
structure Calm (b : Builder) (id : Nat) (e : Element) (outer : List Nat) : Prop
    extends Quiet b id e outer where
  container : isContainer e = true

variable {b : Builder} {id : Nat} {e : Element} {outer : List Nat} {tag : Tag} {name : String}
  {token : Token} {t rest : Text}

theorem Quiet.current?_eq (h : Quiet b id e outer) : b.current? = some e := by
  rw [current?, h.stack, List.head?_cons, Option.bind_some, h.current]

theorem Quiet.openElements_eq (h : Quiet b id e outer) :
    b.openElements = (id, e) :: outer.filterMap fun id =>
      (b.tree.element? id).map fun e => (id, e) := by
  rw [openElements, h.stack, List.filterMap_cons, h.current]
  rfl

theorem Quiet.contentModel_eq (h : Quiet b id e outer) : b.contentModel = .markup := by
  simp [contentModel, h.plain, h.current?_eq, h.vocabulary, h.mode]

/-- A token is read under the rules for text. -/
theorem Quiet.take_eq (h : Quiet b id e outer) (token : Token) : b.take token = b.body token := by
  have hforeign : b.isForeign token = false := by
    simp [isForeign, h.current?_eq, h.vocabulary]
  have hrules : b.byMode token = .done (b.body token) := by
    unfold byMode
    rw [h.mode]
  rw [take, deal, hforeign, if_neg Bool.false_ne_true, hrules]

theorem reconstruct_eq (h : b.formatting = []) : b.reconstruct = b := by
  obtain ⟨tree, stack, formatting, mode, outerMode, templates, form, pending, fostering, skip,
    plain⟩ := b
  subst h
  rfl

/-- A new node belongs to the innermost element. -/
theorem Quiet.addNode_eq (h : Quiet b id e outer) (content : NodeContent) :
    b.addNode content = ({ b with tree := b.tree.grow id content }, b.tree.size) := by
  rw [addNode, slot, h.fostering, h.stack]
  rfl

theorem Quiet.openTag_eq (h : Quiet b id e outer) (tag : Tag) :
    b.openTag tag =
      { b with
        tree := b.tree.grow id (.element tag.element)
        stack := b.tree.size :: b.stack } := by
  rw [openTag, openElement, h.addNode_eq]

/-- The builder with another tree. -/
def withTree (b : Builder) (t : Tree) : Builder :=
  { b with tree := t }

/-- Whether a builder is quiet depends on the open elements only. -/
theorem Quiet.withTree {tree : Tree} (h : Quiet b id e outer) (htree : b.tree.Extends tree) :
    Quiet (b.withTree tree) id e outer :=
  { h with
    current := htree _ _ h.current
    opened := fun j hj =>
      let ⟨e', he', hcontainer⟩ := h.opened j hj
      ⟨e', htree _ _ he', hcontainer⟩ }

theorem Calm.withTree {tree : Tree} (h : Calm b id e outer) (htree : b.tree.Extends tree) :
    Calm (b.withTree tree) id e outer :=
  ⟨h.toQuiet.withTree htree, h.container⟩

theorem Quiet.lt_size (h : Quiet b id e outer) : id < b.tree.size :=
  Tree.lt_size_of_element? h.current

/-- Inside a new element a calm builder is quiet. -/
theorem Calm.quiet_openTag (h : Calm b id e outer) (tag : Tag) :
    Quiet (b.openTag tag) b.tree.size tag.element (id :: outer) := by
  have hextends := Tree.extends_grow h.lt_size (.element tag.element)
  rw [h.openTag_eq]
  refine ⟨h.mode, h.formatting, h.fostering, h.skipLineEnd, h.plain, congrArg _ h.stack,
    Tree.element?_grow_new h.lt_size _, rfl, fun j hj => ?_⟩
  obtain rfl | hj := List.mem_cons.1 hj
  · exact ⟨e, hextends _ _ h.current, h.container⟩
  · obtain ⟨e', he', hcontainer⟩ := h.opened j hj
    exact ⟨e', hextends _ _ he', hcontainer⟩

/-- Reading goes on behind the next token. -/
theorem feedAll_of_next? (h : Token.next? b.contentModel t = some (token, rest)) :
    b.feedAll t = (b.feed token).feedAll rest := by
  rw [feedAll]
  split
  · next hnone =>
      rw [h] at hnone
      cases hnone
  · next hsome =>
      rw [h] at hsome
      cases hsome
      rfl

/-- Without a token, reading ends. -/
theorem Quiet.feedAll_nil (h : Quiet b id e outer) : b.feedAll [] = b := by
  have hnone : Token.next? b.contentModel [] = none := by
    rw [h.contentModel_eq]
    rfl
  rw [feedAll]
  split
  · rfl
  · next hsome =>
      rw [hnone] at hsome
      cases hsome

theorem Quiet.forgetLineEnd (h : Quiet b id e outer) : { b with skipLineEnd := false } = b := by
  obtain ⟨tree, stack, formatting, mode, outerMode, templates, form, pending, fostering, skip,
    plain⟩ := b
  obtain rfl : skip = false := h.skipLineEnd
  rfl

theorem Quiet.feed_opening (h : Quiet b id e outer) (tag : Tag) :
    b.feed (.opening tag) = b.openBody tag := by
  change Builder.take { b with skipLineEnd := false } (.opening tag) = _
  rw [h.forgetLineEnd, h.take_eq]
  rfl

theorem Quiet.feed_closing (h : Quiet b id e outer) (name : String) :
    b.feed (.closing name) = b.closeBody name := by
  change Builder.take { b with skipLineEnd := false } (.closing name) = _
  rw [h.forgetLineEnd, h.take_eq]
  rfl

/-- A text is added to the innermost element. -/
theorem Quiet.feed_text (h : Quiet b id e outer) (hne : t ≠ []) :
    b.feed (.text t) = b.withTree (b.tree.grow id (.text t)) := by
  have hfeed : b.feed (.text t) = b.takeText t := by
    unfold feed
    rw [h.forgetLineEnd, h.skipLineEnd]
    split <;> simp_all
  have hblanks : ¬b.mode = .columns := by simp [h.mode]
  rw [hfeed, takeText, if_neg hblanks]
  simp only [List.length_nil, List.drop_zero, List.isEmpty_nil, if_true,
    List.isEmpty_eq_false_iff.2 hne, Bool.false_eq_true, if_false]
  rw [h.take_eq, body, reconstruct_eq h.formatting, addText, h.addNode_eq]
  rfl

/-! ## Tags -/

/-- Only elements in which blocks stand are open. -/
theorem Calm.container_of_mem (h : Calm b id e outer) {x : Nat × Element}
    (hx : x ∈ b.openElements) : isContainer x.2 = true := by
  rw [h.openElements_eq, List.mem_cons, List.mem_filterMap] at hx
  obtain rfl | ⟨j, hj, hx⟩ := hx
  · exact h.container
  · obtain ⟨e', he', hcontainer⟩ := h.opened j hj
    rw [he', Option.map_some] at hx
    cases hx
    exact hcontainer

/-- No paragraph is open. -/
theorem Calm.closeParagraph_eq (h : Calm b id e outer) : b.closeParagraph = b := by
  have hscope : b.inScopeNamed buttonScope ["p"] = false := by
    rw [inScopeNamed, inScope, Option.any_eq_false]
    intro x hx
    have hopen := h.container_of_mem (List.mem_of_find?_eq_some hx)
    -- A paragraph in scope would be an open element in which no blocks stand.
    by_contra hp
    simp only [isContainer, Element.isOneOf, Bool.not_eq_false, Bool.and_eq_true,
      List.contains_iff_mem, List.mem_singleton] at hopen hp
    rw [hp.2] at hopen
    exact absurd hopen.2 (by decide)
  rw [closeParagraph, hscope, if_neg Bool.false_ne_true]

theorem Calm.openBody_block (h : Calm b id e outer) (hkind : Opening.ofName tag.name = .block) :
    b.openBody tag = b.openTag tag := by
  rw [openBody, hkind]
  dsimp only
  rw [h.closeParagraph_eq]

theorem Calm.openBody_rule (h : Calm b id e outer) (hkind : Opening.ofName tag.name = .rule) :
    b.openBody tag = b.withTree (b.tree.grow id (.element tag.element)) := by
  rw [openBody, hkind]
  dsimp only
  rw [h.closeParagraph_eq, addEmpty, h.addNode_eq]
  rfl

theorem Quiet.openBody_ordinary (h : Quiet b id e outer)
    (hkind : Opening.ofName tag.name = .ordinary) : b.openBody tag = b.openTag tag := by
  rw [openBody, hkind]
  dsimp only
  rw [reconstruct_eq h.formatting]

/-- The innermost element is in every scope. -/
theorem Quiet.inScopeNamed_eq (h : Quiet b id e outer) {names : List String}
    (he : e.isOneOf names = true) (bounds : Element → Bool) :
    b.inScopeNamed bounds names = true := by
  rw [inScopeNamed, inScope, h.openElements_eq, List.find?_cons_of_pos (by simp [he])]
  exact he

/-- Closing up to the innermost element closes it. -/
theorem Quiet.popThrough_eq (h : Quiet b id e outer) {names : List String}
    (he : e.isOneOf names = true) : b.popThrough names = { b with stack := outer } := by
  rw [popThrough, popTo, popWhile, pop, h.stack,
    List.dropWhile_cons_of_neg (by simp [h.current, he])]
  rfl

theorem closeBody_container (b : Builder) {name : String} (hname : name ∈ containerNames) :
    b.closeBody name =
      if b.inScopeNamed defaultScope [name] then b.popThrough [name] else b := by
  simp only [containerNames, List.mem_cons, List.not_mem_nil, or_false] at hname
  rcases hname with rfl | rfl | rfl <;> rfl

/-- The closing tag of a block closes the innermost element. -/
theorem Quiet.closeBody_block (h : Quiet b id e outer)
    (hname : e.name ∈ "p" :: containerNames) :
    b.closeBody e.name = { b with stack := outer } := by
  have he : e.isOneOf [e.name] = true := by simp [Element.isOneOf, h.vocabulary]
  have hscope := h.inScopeNamed_eq he
  have hpop := h.popThrough_eq he
  obtain hparagraph | hcontainer := List.mem_cons.1 hname
  · rw [hparagraph] at hscope hpop ⊢
    rw [closeBody, if_pos rfl, hscope, if_pos rfl, hpop]
  · rw [closeBody_container b hcontainer, hscope, if_pos rfl, hpop]

/-- The closing tag of a span closes the innermost element. -/
theorem Quiet.closeBody_span (h : Quiet b id e outer) (hname : e.name = "span") :
    b.closeBody "span" = { b with stack := outer } := by
  have hspan : e.isNamed "span" = true := by simp [Element.isNamed, h.vocabulary, hname]
  have hstack : ∀ ids : List Nat,
      (∀ j ∈ ids, ∃ e, b.tree.element? j = some e ∧ isContainer e = true) →
      (ids.filterMap fun id => (b.tree.element? id).map fun e => (id, e)).map Prod.fst = ids := by
    intro ids hids
    induction ids with
    | nil => rfl
    | cons j ids ih =>
        obtain ⟨e', he', -⟩ := hids j List.mem_cons_self
        rw [List.filterMap_cons_some (by rw [he']; rfl), List.map_cons,
          ih fun k hk => hids k (List.mem_cons_of_mem _ hk)]
  have hthrough : closeThrough? "span" b.openElements = some outer := by
    rw [h.openElements_eq, closeThrough?, if_pos hspan, hstack outer h.opened]
  have hother : b.closeBody "span" = b.closeOther "span" := rfl
  rw [hother, closeOther, hthrough]

end Builder

/-! ## Balanced markup -/

/-- A tag that is read as it is printed, and stays in clean markup. -/
structure IsCleanTag (name : String) (attributes : List Attribute) : Prop where
  word : IsWord name.toList
  plain : ∀ a ∈ attributes, a.IsPlain
  names : (attributes.map Attribute.name).Nodup
  stays : Element.Stays ⟨.html, name, attributes⟩

/-- Markup in which every element is closed before the one around it. Rules, and paragraphs and
spans with their text, stand in blocks. -/
inductive Balanced : List Piece → Prop where
  | nil : Balanced []
  | rule {attributes : List Attribute} {pieces : List Piece} (tag : IsCleanTag "hr" attributes)
      (h : Balanced pieces) : Balanced (.opening "hr" attributes :: .lineEnd :: pieces)
  | line {name : String} {attributes : List Attribute} {t : Text} {pieces : List Piece}
      (hname : name ∈ Builder.lineNames) (tag : IsCleanTag name attributes) (hne : t ≠ [])
      (h : Balanced pieces) :
      Balanced (.opening name attributes :: .line t :: .closing name :: .lineEnd :: pieces)
  | block {name : String} {attributes : List Attribute} {inside pieces : List Piece}
      (hname : name ∈ Builder.containerNames) (tag : IsCleanTag name attributes)
      (hinside : Balanced inside) (h : Balanced pieces) :
      Balanced (.opening name attributes :: .lineEnd ::
        (inside ++ .closing name :: .lineEnd :: pieces))

namespace Piece

/-- A piece as it is read: lines of verse without null characters, and line ends as text. -/
def asRead : Piece → Piece
  | line t => line (t.map keepChar)
  | lineEnd => line ['\n']
  | piece => piece

end Piece

/-- Nothing follows, or something that ends a run of text. -/
def EndsRun (rest : Text) : Prop :=
  ∀ c ∈ rest.head?, Token.endsText c = true

/-- The printed markup. -/
def printed (pieces : List Piece) : Text :=
  pieces.flatMap (Piece.print guard)

theorem printed_append (pieces later : List Piece) :
    printed (pieces ++ later) = printed pieces ++ printed later :=
  List.flatMap_append

theorem endsRun_nil : EndsRun [] := by
  rintro c hc
  cases hc

theorem endsRun_closing (name : String) (rest : Text) :
    EndsRun ((Piece.closing name).print guard ++ rest) := by
  rintro c hc
  cases hc
  rfl

theorem endsRun_opening (name : String) (attributes : List Attribute) (rest : Text) :
    EndsRun ((Piece.opening name attributes).print guard ++ rest) := by
  rintro c hc
  cases hc
  rfl

/-- Balanced markup begins with a tag. -/
theorem Balanced.endsRun {pieces : List Piece} {rest : Text} (h : Balanced pieces)
    (hrest : EndsRun rest) : EndsRun (printed pieces ++ rest) := by
  cases h with
  | nil => exact hrest
  | rule | line | block =>
      rw [printed, List.flatMap_cons, List.append_assoc]
      exact endsRun_opening _ _ _

namespace Builder

variable {b : Builder} {id : Nat} {e : Element} {outer : List Nat} {name : String}
  {attributes : List Attribute} {t rest : Text}

/-! ## Reading one piece -/

theorem Quiet.feedAll_line (h : Quiet b id e outer) (hne : t ≠ []) (hrest : EndsRun rest) :
    b.feedAll (guard t ++ rest) =
      (b.withTree (b.tree.grow id (.text (t.map keepChar)))).feedAll rest := by
  have hread : t.map keepChar ≠ [] := by simpa using hne
  have hguard : guard t ≠ [] := by
    intro hnil
    rw [← Reference.decode_guard, hnil] at hread
    exact hread rfl
  have hnext := Token.nextMarkup?_text hguard (fun c hc => endsText_of_mem_guard hc) hrest
  rw [Reference.decode_guard] at hnext
  rw [feedAll_of_next? (by rw [h.contentModel_eq]; exact hnext), h.feed_text hread]

theorem Quiet.feedAll_lineEnd (h : Quiet b id e outer) (hrest : EndsRun rest) :
    b.feedAll ('\n' :: rest) = (b.withTree (b.tree.grow id (.text ['\n']))).feedAll rest := by
  have hnext := Token.nextMarkup?_text (List.cons_ne_nil '\n' [])
    (List.forall_mem_singleton.2 rfl) hrest
  rw [feedAll_of_next? (by rw [h.contentModel_eq]; exact hnext)]
  exact congrArg (fun b => feedAll b rest) (h.feed_text (List.cons_ne_nil _ _))

theorem Calm.feedAll_rule (h : Calm b id e outer) (tag : IsCleanTag "hr" attributes) :
    b.feedAll ((Piece.opening "hr" attributes).print guard ++ rest) =
      (b.withTree (b.tree.grow id (.element ⟨.html, "hr", attributes⟩))).feedAll rest := by
  have hnext := Token.nextMarkup?_opening tag.word tag.plain tag.names guard rest
  rw [feedAll_of_next? (by rw [h.contentModel_eq]; exact hnext), h.feed_opening,
    h.openBody_rule (by dsimp only; decide)]
  rfl

theorem Calm.feedAll_opening (h : Calm b id e outer)
    (hname : name ∈ lineNames ++ containerNames) (tag : IsCleanTag name attributes) :
    b.feedAll ((Piece.opening name attributes).print guard ++ rest) =
      (b.openTag ⟨name, attributes, false⟩).feedAll rest := by
  have hnext := Token.nextMarkup?_opening tag.word tag.plain tag.names guard rest
  rw [feedAll_of_next? (by rw [h.contentModel_eq]; exact hnext), h.feed_opening]
  have hopen : b.openBody ⟨name, attributes, false⟩ = b.openTag ⟨name, attributes, false⟩ := by
    simp only [lineNames, containerNames, List.cons_append, List.nil_append, List.mem_cons,
      List.not_mem_nil, or_false] at hname
    rcases hname with rfl | rfl | rfl | rfl | rfl
    case inr.inl => exact h.openBody_ordinary (by dsimp only; decide)
    all_goals exact h.openBody_block (by dsimp only; decide)
  rw [hopen]

theorem Quiet.feedAll_closing (h : Quiet b id e outer)
    (hname : e.name ∈ lineNames ++ containerNames) (hword : IsWord e.name.toList) :
    b.feedAll ((Piece.closing e.name).print guard ++ rest) =
      ({ b with stack := outer } : Builder).feedAll rest := by
  have hnext := Token.nextMarkup?_closing hword guard rest
  rw [feedAll_of_next? (by rw [h.contentModel_eq]; exact hnext), h.feed_closing]
  have hclose : b.closeBody e.name = { b with stack := outer } := by
    by_cases hspan : e.name = "span"
    · rw [hspan, h.closeBody_span hspan]
    · exact h.closeBody_block (by simpa [lineNames, hspan] using hname)
  rw [hclose]

end Builder

/-! ## Reading all of it -/

namespace Builder

variable {b : Builder} {id : Nat} {e : Element} {outer : List Nat} {name : String}
  {attributes : List Attribute} {pieces inside later : List Piece} {t : Text} {tree : Tree}

@[simp]
theorem withTree_withTree (b : Builder) (t t' : Tree) :
    (b.withTree t).withTree t' = b.withTree t' :=
  rfl

/-- Reading printed pieces changes nothing but the tree, to which it adds them below this node. -/
def Reads (b : Builder) (id : Nat) (pieces : List Piece) : Prop :=
  ∃ tree ids, (∀ rest, EndsRun rest →
      b.feedAll (printed pieces ++ rest) = (b.withTree tree).feedAll rest) ∧
    Tree.Adds id b.tree tree ids (pieces.map Piece.asRead)

/-- Pieces are read one after the other. -/
theorem Reads.append (h : Reads b id pieces) (hb : Calm b id e outer)
    (hlater : ∀ tree, Calm (b.withTree tree) id e outer → Reads (b.withTree tree) id later)
    (hend : ∀ rest, EndsRun rest → EndsRun (printed later ++ rest)) :
    Reads b id (pieces ++ later) := by
  obtain ⟨tree₁, ids₁, hread₁, hadds₁⟩ := h
  obtain ⟨tree₂, ids₂, hread₂, hadds₂⟩ := hlater tree₁ (hb.withTree hadds₁.extends_tree)
  refine ⟨tree₂, ids₁ ++ ids₂, fun rest hrest => ?_, ?_⟩
  · rw [printed, List.flatMap_append, List.append_assoc, ← printed, ← printed,
      hread₁ _ (hend rest hrest), hread₂ rest hrest, withTree_withTree]
  · rw [List.map_append]
    exact hadds₁.trans hb.lt_size hadds₂

theorem Quiet.reads_line (h : Quiet b id e outer) (hne : t ≠ []) : Reads b id [.line t] := by
  refine ⟨_, _, fun rest hrest => ?_, .text h.lt_size (t.map keepChar)⟩
  rw [printed, List.flatMap_singleton]
  exact h.feedAll_line hne hrest

theorem Quiet.reads_lineEnd (h : Quiet b id e outer) : Reads b id [.lineEnd] :=
  ⟨_, _, fun _ hrest => h.feedAll_lineEnd hrest, .text h.lt_size ['\n']⟩

/-- A rule and the line end behind it. -/
theorem Calm.reads_rule (h : Calm b id e outer) (tag : IsCleanTag "hr" attributes) :
    Reads b id [.opening "hr" attributes, .lineEnd] := by
  have hrule : Tree.Adds id b.tree (b.tree.grow id (.element ⟨.html, "hr", attributes⟩)) _ _ :=
    .void h.lt_size tag.stays (by dsimp only; decide)
  obtain ⟨tree, ids, hread, hadds⟩ := (h.withTree hrule.extends_tree).reads_lineEnd
  refine ⟨tree, _, fun rest hrest => ?_, hrule.trans h.lt_size hadds⟩
  rw [printed, List.flatMap_cons, List.append_assoc, ← printed, h.feedAll_rule tag,
    hread rest hrest, withTree_withTree]

/-- An element with what is in it, and the line end behind it. -/
theorem Calm.reads_element (h : Calm b id e outer)
    (hname : name ∈ lineNames ++ containerNames) (tag : IsCleanTag name attributes)
    (hinside : Reads (b.openTag ⟨name, attributes, false⟩) b.tree.size inside) :
    Reads b id (.opening name attributes :: (inside ++ [.closing name, .lineEnd])) := by
  obtain ⟨tree, ids, hread, hadds⟩ := hinside
  have hopened := (h.quiet_openTag ⟨name, attributes, false⟩).withTree hadds.extends_tree
  -- Behind the closing tag the builder is as before, but for the tree.
  have hclosed : ({ (b.openTag ⟨name, attributes, false⟩).withTree tree with
      stack := id :: outer } : Builder) = b.withTree tree := by
    rw [h.openTag_eq, ← h.stack]
    rfl
  have htree : (b.openTag ⟨name, attributes, false⟩).tree =
      b.tree.grow id (.element ⟨.html, name, attributes⟩) := by
    rw [h.openTag_eq]
    rfl
  rw [htree] at hadds
  have hvoid : ∀ n ∈ lineNames ++ containerNames, n ∉ voidElements := by decide
  have helement := Tree.Adds.element h.lt_size tag.stays (hvoid name hname) hadds
  obtain ⟨tree', ids', hlast, haddsLast⟩ := (h.withTree helement.extends_tree).reads_lineEnd
  refine ⟨tree', [b.tree.size] ++ ids', fun rest hrest => ?_, ?_⟩
  · have hprinted : printed (.opening name attributes :: (inside ++ [.closing name, .lineEnd])) ++
        rest = (Piece.opening name attributes).print guard ++ (printed inside ++
          ((Piece.closing name).print guard ++ (printed [.lineEnd] ++ rest))) := by
      simp [printed]
    rw [hprinted, h.feedAll_opening hname tag, hread _ (endsRun_closing _ _)]
    refine (hopened.feedAll_closing hname tag.word).trans ?_
    rw [hclosed]
    exact hlast rest hrest
  · have hpieces : (Piece.opening name attributes :: (inside ++ [.closing name, .lineEnd])).map
        Piece.asRead = (.opening name attributes :: inside.map Piece.asRead ++ [.closing name]) ++
          [Piece.lineEnd].map Piece.asRead := by
      simp [Piece.asRead]
    rw [hpieces]
    exact helement.trans h.lt_size haddsLast

end Builder

/-- Balanced markup is read into the tree as it was printed, and changes nothing else. -/
theorem Balanced.reads {pieces : List Piece} (h : Balanced pieces) {b : Builder} {id : Nat}
    {e : Element} {outer : List Nat} (hb : Builder.Calm b id e outer) : b.Reads id pieces := by
  -- The builder is any calm one: what is in a block is read by the builder inside its element.
  induction h generalizing b id e outer with
  | nil => exact ⟨b.tree, [], fun _ _ => rfl, .refl id b.tree⟩
  | @rule attributes pieces tag h ih =>
      exact (hb.reads_rule tag).append hb (fun _ => ih) fun _ => h.endsRun
  | @line name attributes t pieces hname tag hne h ih =>
      have helement := hb.reads_element (List.mem_append_left _ hname) tag
        ((hb.quiet_openTag _).reads_line hne)
      exact helement.append hb (fun _ => ih) fun _ => h.endsRun
  | @block name attributes inside pieces hname tag hinside h ihInside ih =>
      have hcalm : Builder.Calm (b.openTag ⟨name, attributes, false⟩) _ _ _ :=
        ⟨hb.quiet_openTag _, by
          simp [Builder.isContainer, Element.isOneOf, Tag.element, hname]⟩
      have hcontent := hcalm.reads_lineEnd.append hcalm (fun _ => ihInside) fun _ => hinside.endsRun
      have helement := hb.reads_element (List.mem_append_right _ hname) tag hcontent
      have hall := helement.append hb (fun _ => ih) fun _ => h.endsRun
      simpa using hall

end MarkedVerse.Html
