import MarkedVerse.Proofs.GuardedText

/-!
# Printed tags

A tag that is printed is read as itself, as long as its names are words of lower case and its values
hold nothing that means something in a value (`readTag_print`). So each piece of markup is the next
token of the printed markup, whatever follows it.
-/

namespace MarkedVerse.Html

/-! ## Words and values -/

/-- Letters in lower case, at least one. -/
def IsWord (t : Text) : Prop :=
  t ≠ [] ∧ ∀ c ∈ t, c.isLower = true

instance (t : Text) : Decidable (IsWord t) :=
  decidable_of_iff (t ≠ [] ∧ t.all Char.isLower = true) (and_congr_right' List.all_eq_true)

/-- A character that stands for itself in a quoted value and in the text of a file. -/
def isPlain (c : Char) : Bool :=
  c != '"' && c != '&' && c != '\x00' && c != '\u00a0' && c != '\r'

/-- A word as the name, and a value of plain characters. -/
structure Attribute.IsPlain (a : Attribute) : Prop where
  name : IsWord a.name.toList
  value : ∀ c ∈ a.value, isPlain c = true

/-- A letter in lower case is none of the characters that end a name, and stays as it is. -/
theorem of_isLower {c : Char} (h : c.isLower = true) :
    isBlank c = false ∧ c ≠ '/' ∧ c ≠ '>' ∧ c ≠ '=' ∧ TagReader.nameChar c = c := by
  have hne : ∀ d : Char, d.isLower = false → c ≠ d := by
    rintro d hd rfl
    rw [h] at hd
    cases hd
  have hlower : c.toLower = c := by
    obtain ⟨hge, -⟩ := Bool.and_eq_true_iff.1 h
    refine dif_neg ?_
    rintro ⟨-, hle⟩
    exact absurd (UInt32.le_trans (of_decide_eq_true hge) hle) (by decide)
  refine ⟨?_, hne '/' rfl, hne '>' rfl, hne '=' rfl, ?_⟩
  · simp [isBlank, hne ' ' rfl, hne '\n' rfl, hne '\t' rfl, hne '\x0c' rfl, hne '\r' rfl]
  · rw [TagReader.nameChar, keepChar, if_neg (hne '\x00' rfl), hlower]

namespace TagReader

variable {tag : Tag} {key value t u : Text} {c : Char} {a : Attribute}

theorem read_cons_of_ne_closed {r : TagReader} (h : (r.step c).place ≠ .closed) (t : Text) :
    r.read (c :: t) = (r.step c).read t := by
  rw [read, if_neg h]

/-- What stands at a place is read character by character, and held in reverse. -/
theorem read_run (place : Text → TagPlace) (hopen : ∀ held, place held ≠ .closed)
    (hstep : ∀ c ∈ u, ∀ held, step ⟨tag, place held⟩ c = ⟨tag, place (c :: held)⟩) (held t : Text) :
    read ⟨tag, place held⟩ (u ++ t) = read ⟨tag, place (u.reverse ++ held)⟩ t := by
  induction u generalizing held with
  | nil => rfl
  | cons c u ih =>
      have hc := hstep c List.mem_cons_self held
      rw [List.cons_append, read_cons_of_ne_closed (by rw [hc]; exact hopen _), hc,
        ih fun d hd => hstep d (List.mem_cons_of_mem _ hd), List.reverse_cons, List.append_assoc,
        List.singleton_append]

theorem read_name (hword : ∀ c ∈ u, c.isLower = true) (t : Text) :
    read ⟨tag, .name []⟩ (u ++ t) = read ⟨tag, .name u.reverse⟩ t := by
  rw [read_run .name (fun _ => TagPlace.noConfusion) ?_ [] t, List.append_nil]
  intro c hc held
  obtain ⟨hblank, hslash, hbracket, -, hkeep⟩ := of_isLower (hword c hc)
  simp [step, go, hblank, hslash, hbracket, hkeep]

theorem read_key (hword : ∀ c ∈ u, c.isLower = true) (held t : Text) :
    read ⟨tag, .key held⟩ (u ++ t) = read ⟨tag, .key (u.reverse ++ held)⟩ t := by
  refine read_run .key (fun _ => TagPlace.noConfusion) (fun c hc held => ?_) held t
  obtain ⟨hblank, hslash, hbracket, hequals, hkeep⟩ := of_isLower (hword c hc)
  simp [step, go, hblank, hslash, hbracket, hequals, hkeep]

theorem read_quoted (hplain : ∀ c ∈ u, isPlain c = true) (t : Text) :
    read ⟨tag, .quoted key '"' []⟩ (u ++ t) = read ⟨tag, .quoted key '"' u.reverse⟩ t := by
  rw [read_run (.quoted key '"') (fun _ => TagPlace.noConfusion) ?_ [] t, List.append_nil]
  intro c hc held
  have hc := hplain c hc
  simp only [isPlain, Bool.and_eq_true, bne_iff_ne] at hc
  simp [step, go, keepChar, hc]

/-- A value without references is read as it is. -/
theorem decodeValue_eq_self (h : '&' ∉ value) : Reference.decodeValue value = value := by
  rw [Reference.decodeValue]
  induction value with
  | nil => rfl
  | cons c value ih =>
      rw [List.mem_cons, not_or] at h
      rw [Reference.decodeFrom, if_neg (Ne.symm h.1), ih h.2]

/-- An attribute whose name is new is kept as it was printed. -/
theorem endAttribute_eq (ha : a.IsPlain) (hnew : ∀ b ∈ tag.attributes, b.name ≠ a.name)
    (place next : TagPlace) :
    endAttribute ⟨tag, place⟩ a.name.toList.reverse a.value.reverse next =
      ⟨{ tag with attributes := tag.attributes ++ [a] }, next⟩ := by
  have hampersand : '&' ∉ a.value := fun hmem => absurd (ha.value '&' hmem) (by decide)
  have hfresh : tag.attributes.any (·.name == a.name) = false := by simpa using hnew
  rw [endAttribute, List.reverse_reverse, List.reverse_reverse, String.ofList_toList, hfresh,
    decodeValue_eq_self hampersand]
  rfl

/-- Behind the blank in front of it, a printed attribute is read as itself. -/
theorem read_attribute (ha : a.IsPlain) (hnew : ∀ b ∈ tag.attributes, b.name ≠ a.name) (t : Text) :
    read ⟨tag, .between⟩ (a.name.toList ++ '=' :: '"' :: (a.value ++ '"' :: t)) =
      read ⟨{ tag with attributes := tag.attributes ++ [a] }, .afterQuoted⟩ t := by
  obtain ⟨hne, hword⟩ := ha.name
  obtain ⟨c, rest, hname⟩ := List.exists_cons_of_ne_nil hne
  have hfirst : step ⟨tag, .between⟩ c = ⟨tag, .key [c]⟩ := by
    obtain ⟨hblank, hslash, hbracket, -, hkeep⟩ := of_isLower (hword c (by simp [hname]))
    simp [step, stepBetween, go, hblank, hslash, hbracket, hkeep]
  have hkey : rest.reverse ++ [c] = a.name.toList.reverse := by rw [hname, List.reverse_cons]
  have hlast : step ⟨tag, .quoted a.name.toList.reverse '"' a.value.reverse⟩ '"' =
      ⟨{ tag with attributes := tag.attributes ++ [a] }, .afterQuoted⟩ :=
    endAttribute_eq ha hnew _ _
  calc read ⟨tag, .between⟩ (a.name.toList ++ '=' :: '"' :: (a.value ++ '"' :: t))
      = read ⟨tag, .key [c]⟩ (rest ++ '=' :: '"' :: (a.value ++ '"' :: t)) := by
        rw [hname, List.cons_append, read_cons_of_ne_closed (by simp [hfirst]), hfirst]
    _ = read ⟨tag, .key a.name.toList.reverse⟩ ('=' :: '"' :: (a.value ++ '"' :: t)) := by
        rw [read_key fun d hd => hword d (by simp [hname, hd]), hkey]
    _ = read ⟨tag, .quoted a.name.toList.reverse '"' []⟩ (a.value ++ '"' :: t) := rfl
    _ = read ⟨tag, .quoted a.name.toList.reverse '"' a.value.reverse⟩ ('"' :: t) :=
        read_quoted ha.value _
    _ = read ⟨{ tag with attributes := tag.attributes ++ [a] }, .afterQuoted⟩ t := by
        rw [read_cons_of_ne_closed (by rw [hlast]; exact TagPlace.noConfusion), hlast]

/-- Printed attributes of different names are read as themselves. -/
theorem read_attributes {attributes : List Attribute} (hplain : ∀ a ∈ attributes, a.IsPlain)
    (hnames : ((tag.attributes ++ attributes).map Attribute.name).Nodup) (t : Text) :
    read ⟨tag, .afterQuoted⟩ (attributes.flatMap Piece.printAttribute ++ '>' :: t) =
      some ({ tag with attributes := tag.attributes ++ attributes }, t) := by
  induction attributes generalizing tag with
  | nil => rw [List.append_nil]; rfl
  | cons a attributes ih =>
      have hnew : ∀ b ∈ tag.attributes, b.name ≠ a.name := by
        rw [List.map_append, List.nodup_append] at hnames
        exact fun b hb => hnames.2.2 _ (List.mem_map_of_mem hb) _ List.mem_cons_self
      have hrest := @ih { tag with attributes := tag.attributes ++ [a] }
        (fun b hb => hplain b (List.mem_cons_of_mem _ hb)) (by simpa using hnames)
      have hprinted : (a :: attributes).flatMap Piece.printAttribute ++ '>' :: t =
          ' ' :: (a.name.toList ++ '=' :: '"' :: (a.value ++ '"' ::
            (attributes.flatMap Piece.printAttribute ++ '>' :: t))) := by
        simp [Piece.printAttribute]
      rw [hprinted, read_cons_of_ne_closed (c := ' ') TagPlace.noConfusion]
      refine (read_attribute (hplain a List.mem_cons_self) hnew _).trans ?_
      rw [hrest, List.append_assoc, List.singleton_append]

end TagReader

variable {name : String} {attributes : List Attribute} {rest : Text}

/-- A printed tag is read as itself. -/
theorem readTag_print (hname : IsWord name.toList) (hplain : ∀ a ∈ attributes, a.IsPlain)
    (hnames : (attributes.map Attribute.name).Nodup) (t : Text) :
    readTag (name.toList ++ (attributes.flatMap Piece.printAttribute ++ '>' :: t)) =
      some (⟨name, attributes, false⟩, t) := by
  -- The name ends as a value ends: in front of a blank or of the bracket.
  have hend : TagReader.read ⟨⟨"", [], false⟩, .name name.toList.reverse⟩
      (attributes.flatMap Piece.printAttribute ++ '>' :: t) =
      TagReader.read ⟨⟨String.ofList name.toList.reverse.reverse, [], false⟩, .afterQuoted⟩
        (attributes.flatMap Piece.printAttribute ++ '>' :: t) := by
    cases attributes <;> rfl
  rw [readTag, TagReader.start, TagReader.read_name hname.2, hend, List.reverse_reverse,
    String.ofList_toList, TagReader.read_attributes hplain (by simpa using hnames)]
  rfl

/-! ## Tokens -/

namespace Token

/-- Behind a bracket, a letter begins an opening tag. -/
theorem behindBracket?_letter {c : Char} (hc : c.isLower = true) (t : Text) :
    behindBracket? false (c :: t) =
      (readTag (c :: t)).map fun (tag, rest) => (.opening tag, rest) := by
  have halpha : c.isAlpha = true := Bool.or_eq_true_iff.2 (.inr hc)
  unfold behindBracket?
  split
  case h_4 heq => rw [← (List.cons.inj heq).1, if_pos halpha]
  case h_5 heq => cases heq
  all_goals
    next heq =>
      rw [(List.cons.inj heq).1] at hc
      exact absurd hc (by decide)

/-- Behind a bracket and a slash, a letter begins a closing tag. -/
theorem closingTag?_letter {c : Char} (hc : c.isLower = true) (t : Text) :
    closingTag? (c :: t) = (readTag (c :: t)).map fun (tag, rest) => (.closing tag.name, rest) := by
  have halpha : c.isAlpha = true := Bool.or_eq_true_iff.2 (.inr hc)
  unfold closingTag?
  split
  case h_1 heq => cases heq
  case h_2 heq =>
    rw [(List.cons.inj heq).1] at hc
    exact absurd hc (by decide)
  case h_3 heq => rw [← (List.cons.inj heq).1, if_pos halpha]

/-- A printed opening tag is the next token. -/
theorem nextMarkup?_opening (hname : IsWord name.toList) (hplain : ∀ a ∈ attributes, a.IsPlain)
    (hnames : (attributes.map Attribute.name).Nodup) (write : Text → Text) (rest : Text) :
    nextMarkup? false ((Piece.opening name attributes).print write ++ rest) =
      some (.opening ⟨name, attributes, false⟩, rest) := by
  have hread := readTag_print hname hplain hnames rest
  obtain ⟨hne, hword⟩ := hname
  obtain ⟨c, word, hcons⟩ := List.exists_cons_of_ne_nil hne
  have hc : c.isLower = true := hword c (by simp [hcons])
  rw [hcons, List.cons_append] at hread
  have hprinted : (Piece.opening name attributes).print write ++ rest =
      '<' :: c :: (word ++ (attributes.flatMap Piece.printAttribute ++ '>' :: rest)) := by
    simp [Piece.print, hcons]
  rw [hprinted, nextMarkup?, behindBracket?_letter hc, hread]
  rfl

/-- A printed closing tag is the next token. -/
theorem nextMarkup?_closing (hname : IsWord name.toList) (write : Text → Text) (rest : Text) :
    nextMarkup? false ((Piece.closing name).print write ++ rest) = some (.closing name, rest) := by
  have hread := readTag_print hname (List.forall_mem_nil _) List.nodup_nil rest
  obtain ⟨hne, hword⟩ := hname
  obtain ⟨c, word, hcons⟩ := List.exists_cons_of_ne_nil hne
  have hc : c.isLower = true := hword c (by simp [hcons])
  rw [hcons, List.flatMap_nil, List.nil_append, List.cons_append] at hread
  have hprinted : (Piece.closing name).print write ++ rest =
      '<' :: '/' :: c :: (word ++ '>' :: rest) := by
    simp [Piece.print, hcons]
  rw [hprinted, nextMarkup?, behindBracket?, closingTag?_letter hc, hread]
  rfl

/-- A text in front of a tag, or at the end, is the next token. -/
theorem nextMarkup?_text {t : Text} (hne : t ≠ []) (htext : ∀ c ∈ t, endsText c = false)
    (hrest : ∀ c ∈ rest.head?, endsText c = true) :
    nextMarkup? false (t ++ rest) = some (.text (Reference.decode t), rest) := by
  obtain ⟨c, t, rfl⟩ := List.exists_cons_of_ne_nil hne
  have hc := htext c List.mem_cons_self
  have hrun : ∀ d ∈ t, (!endsText d) = true := by
    intro d hd
    rw [htext d (List.mem_cons_of_mem _ hd), Bool.not_false]
  obtain ⟨htake, hdrop⟩ := Text.run_append hrun fun d hd => by rw [hrest d hd, Bool.not_true]
  rw [List.cons_append]
  unfold nextMarkup?
  split
  case h_1 heq => cases heq
  case h_2 heq | h_3 heq =>
    rw [(List.cons.inj heq).1] at hc
    exact absurd hc (by decide)
  case h_4 heq =>
    obtain ⟨rfl, rfl⟩ := List.cons.inj heq
    rw [htake, hdrop]

end Token

end MarkedVerse.Html
