import MarkedVerse.Proofs.BalancedMarkup

/-!
# Tags that stay clean

A tag whose classes are those that its element may have stays in clean markup as it was printed
(`isCleanTag_classes`). The classes are read back from the value that they are joined to, and
identifiers and directions are kept on every element.
-/

namespace MarkedVerse.Html

/-! ## Values -/

/-- A value of plain characters needs no escape. -/
theorem escapeValue_eq_self {value : Text} (h : ∀ c ∈ value, isPlain c = true) :
    escapeValue value = value := by
  rw [escapeValue]
  induction value with
  | nil => rfl
  | cons c value ih =>
      have hc := h c List.mem_cons_self
      simp only [isPlain, Bool.and_eq_true, bne_iff_ne] at hc
      have hkeep : escapeValueChar c = [c] := by
        unfold escapeValueChar
        split <;> simp_all
      rw [List.flatMap_cons, hkeep, ih fun d hd => h d (List.mem_cons_of_mem _ hd)]
      rfl

/-- A name that can stand among other classes. -/
def IsClassName (name : String) : Prop :=
  name.toList ≠ [] ∧ ∀ c ∈ name.toList, isPlain c = true ∧ isBlank c = false

instance (name : String) : Decidable (IsClassName name) :=
  decidable_of_iff
    (name.toList ≠ [] ∧ (name.toList.all fun c => isPlain c && !isBlank c) = true)
    (by simp [IsClassName])

/-- A property of the characters of classes and of a space is one of those of their value. -/
theorem forall_mem_classes {p : Char → Prop} {names : List String} (hgap : p ' ')
    (hnames : ∀ name ∈ names, ∀ c ∈ name.toList, p c) : ∀ c ∈ (classes names).value, p c := by
  intro c hc
  obtain rfl | ⟨word, hword, hc⟩ := Text.mem_join hc
  · exact hgap
  · obtain ⟨name, hname, rfl⟩ := List.mem_map.1 hword
    exact hnames name hname c hc

/-- The value of classes is plain. -/
theorem isPlain_classes {names : List String} (hnames : ∀ name ∈ names, IsClassName name) :
    (classes names).IsPlain := by
  have hword : IsWord "class".toList := by decide
  refine ⟨hword, forall_mem_classes (by decide) fun name hname c hc => ?_⟩
  exact ((hnames name hname).2 c hc).1

/-- Classes are read back from their value. -/
theorem runsOutside_classes {names : List String} (hnames : ∀ name ∈ names, IsClassName name) :
    Text.runsOutside isBlank (classes names).value = names.map String.toList := by
  refine Text.runsOutside_join (by decide) fun word hword => ?_
  obtain ⟨name, hname, rfl⟩ := List.mem_map.1 hword
  exact ⟨(hnames name hname).1, fun c hc => ((hnames name hname).2 c hc).2⟩

/-- Classes that may all stay are kept as they are. -/
theorem keepClasses_classes {allowed names : List String}
    (hnames : ∀ name ∈ names, IsClassName name)
    (hallowed : ∀ name ∈ names, name ∈ allowed) :
    keepClasses allowed (classes names).value = (classes names).value := by
  rw [keepClasses, runsOutside_classes hnames, List.filter_eq_self.2]
  · rfl
  · intro word hword
    obtain ⟨name, hname, rfl⟩ := List.mem_map.1 hword
    rw [String.ofList_toList]
    simpa using hallowed name hname

/-- The classes that a block can have. -/
def blockClassNames : List String :=
  ["verse-header", "verse", "couplet", "highlight"] ++
    [Alignment.right, .center, .indent, .left].map alignClass ++
    [Spacing.header, .regular, .afterBreak, .beforeBreak, .enclosed].map Spacing.className

theorem mem_blockClassNames {b : Content} {name : String} (h : name ∈ blockClasses b) :
    name ∈ blockClassNames := by
  have hstyle : ∀ style, alignClass style ∈ blockClassNames := fun style => by cases style <;> decide
  have hspacing : ∀ spacing : Spacing, spacing.className ∈ blockClassNames :=
    fun spacing => by cases spacing <;> decide
  have hverse : (if b.isHeader then "verse-header" else "verse") ∈ blockClassNames := by
    split <;> decide
  have hcouplet : ∀ name ∈ if b.shape = .couplet then ["couplet"] else [], name ∈ blockClassNames := by
    split <;> decide
  have hhighlight : ∀ name ∈ if b.highlighted then ["highlight"] else [], name ∈ blockClassNames := by
    split <;> decide
  simp only [blockClasses, List.mem_append, List.mem_cons, List.not_mem_nil, or_false] at h
  obtain ((rfl | rfl | rfl) | h) | h := h
  · exact hverse
  · exact hstyle _
  · exact hspacing _
  · exact hcouplet _ h
  · exact hhighlight _ h

/-! ## Tags -/

/-- The elements of a document. -/
def documentNames : List String :=
  "hr" :: (Builder.lineNames ++ Builder.containerNames)

/-- The classes that an element of a document may have are all names of classes. -/
theorem isClassName_of_ownClasses {element : String} (helement : element ∈ documentNames)
    {allowed : List String} (hallowed : ownClasses? element = some allowed) :
    ∀ name ∈ allowed, IsClassName name := by
  have hall : ∀ element ∈ documentNames, ∀ allowed ∈ ownClasses? element,
      ∀ name ∈ allowed, IsClassName name := by
    decide +kernel
  exact hall element helement allowed hallowed

/-- Identifiers and directions stay on every element. -/
theorem keepAttribute?_of_mem {element : String} {a : Attribute} (ha : a.name ∈ ["id", "dir"]) :
    keepAttribute? element a = some a := by
  have hcommon : ∀ n ∈ ["id", "dir"],
      n ≠ "class" ∧ commonAttributes.contains n = true ∧ isAddress n = false := by
    decide
  obtain ⟨hclass, hcontains, haddress⟩ := hcommon a.name ha
  rw [keepAttribute?, if_neg hclass, hcontains, haddress]
  rfl

/-- An element of a document with classes that it may have, and with an identifier or a direction,
stays as it is. -/
theorem isCleanTag_classes {element : String} (helement : element ∈ documentNames)
    {allowed names : List String} (hallowed : ownClasses? element = some allowed)
    (hnames : ∀ name ∈ names, name ∈ allowed) {more : List Attribute}
    (hmore : ∀ a ∈ more, a.IsPlain ∧ a.name ∈ ["id", "dir"])
    (hdistinct : (more.map Attribute.name).Nodup) :
    IsCleanTag element (classes names :: more) := by
  have hclasses : ∀ name ∈ names, IsClassName name :=
    fun name hname => isClassName_of_ownClasses helement hallowed name (hnames name hname)
  have hplain : ∀ a ∈ classes names :: more, a.IsPlain := by
    intro a ha
    obtain rfl | ha := List.mem_cons.1 ha
    · exact isPlain_classes hclasses
    · exact (hmore a ha).1
  have hkept : ∀ a ∈ classes names :: more, keepAttribute? element a = some a := by
    intro a ha
    obtain rfl | ha := List.mem_cons.1 ha
    · rw [keepAttribute?, if_pos (by rfl), hallowed, Option.map_some,
        keepClasses_classes hclasses hnames]
    · exact keepAttribute?_of_mem (hmore a ha).2
  have hstay : ∀ n ∈ documentNames,
      isDropped ⟨.html, n, []⟩ = false ∧ isKept ⟨.html, n, []⟩ = true ∧ n ≠ "a" ∧
        IsWord n.toList := by
    decide +kernel
  obtain ⟨hdropped, hkeep, hlink, hword⟩ := hstay element helement
  refine ⟨hword, hplain, ?_, hdropped, hkeep, ?_⟩
  · refine List.nodup_cons.2 ⟨fun hmem => ?_, hdistinct⟩
    obtain ⟨a, ha, hname⟩ := List.mem_map.1 hmem
    have hother := (hmore a ha).2
    rw [hname] at hother
    exact absurd hother (by simp [classes])
  · have hescaped : ∀ a ∈ classes names :: more, escapeAttribute a = a := by
      intro a ha
      rw [escapeAttribute, escapeValue_eq_self (hplain a ha).value]
    rw [keptAttributes, if_neg hlink, List.append_nil, List.filterMap_congr hkept,
      List.filterMap_some, List.map_congr_left hescaped]
    exact List.map_id' _

/-- An element of a document that has nothing but classes. -/
theorem isCleanTag_of_classes {element : String} (helement : element ∈ documentNames)
    {allowed names : List String} (hallowed : ownClasses? element = some allowed)
    (hnames : ∀ name ∈ names, name ∈ allowed) : IsCleanTag element [classes names] :=
  isCleanTag_classes helement hallowed hnames (List.forall_mem_nil _) List.nodup_nil

end MarkedVerse.Html
