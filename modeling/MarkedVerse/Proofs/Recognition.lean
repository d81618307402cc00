import MarkedVerse.Proofs.Places

/-!
# What a marker is

The words of the marker grammar are stated here on their own, together with the alignment that each
asks for. `recognises_grammar` says that a text is cut into plain texts and these words without a
gap, and that no such word starts inside a plain text.
-/

namespace MarkedVerse

/-! ## Suffixes -/

namespace Alignment

/-- What a suffix asks for: the alignment that it names, whatever the blanks around the name and the
case of its letters, and `right` when it names none. -/
inductive AskedBy (suffix : Text) : Alignment → Prop where
  | named (a : Alignment) (h : Text.lower (Text.trim suffix) = a.name.toList) : AskedBy suffix a
  | unknown (h : ∀ a : Alignment, Text.lower (Text.trim suffix) ≠ a.name.toList) :
      AskedBy suffix right

/-- A name is compared with the name of an alignment in lower case. -/
theorem sameName_name_iff {a : Alignment} {t : Text} :
    Text.sameName a.name (String.ofList t) = true ↔ Text.lower t = a.name.toList := by
  have hlower : Text.lower a.name.toList = a.name.toList := by cases a <;> decide
  rw [Text.sameName, beq_iff_eq, hlower, String.toList_ofList, eq_comm]

/-- Every alignment is among all. -/
theorem mem_all (a : Alignment) : a ∈ all := by
  cases a <;> decide

/-- Different alignments have different names. -/
theorem name_injective {a b : Alignment} (h : a.name.toList = b.name.toList) : a = b := by
  cases a <;> cases b <;> first | rfl | exact absurd h (by decide)

/-- A suffix is read as what it asks for. -/
theorem askedBy_ofSuffix (suffix : Text) : AskedBy suffix (ofSuffix suffix) := by
  unfold ofSuffix ofName
  cases hfind : all.find? fun a => Text.sameName a.name (String.ofList (Text.trim suffix)) with
  | some a =>
      have hname := List.find?_some hfind
      exact .named a (sameName_name_iff.1 hname)
  | none =>
      refine .unknown fun a ha => ?_
      exact List.find?_eq_none.1 hfind a (mem_all a) (sameName_name_iff.2 ha)

/-- A suffix asks for one alignment only. -/
theorem AskedBy.eq_ofSuffix {suffix : Text} {a : Alignment} (h : AskedBy suffix a) :
    a = ofSuffix suffix := by
  have hread := askedBy_ofSuffix suffix
  generalize ofSuffix suffix = b at hread
  cases h with
  | named _ ha =>
      cases hread with
      | named _ hb => exact name_injective (ha.symm.trans hb)
      | unknown hb => exact absurd ha (hb a)
  | unknown ha =>
      cases hread with
      | named _ hb => exact absurd hb (ha b)
      | unknown _ => rfl

end Alignment

/-! ## The grammar -/

namespace Marker

/-- The words of the grammar, each with the alignment that it asks for. A header asks for none. -/
inductive Grammar : Text → Option Alignment → Prop where
  | plainBreak : Grammar "||BREAK||".toList (some .right)
  | styledBreak {suffix : Text} {a : Alignment} (hsuffix : ∀ c ∈ suffix, c ≠ '|' ∧ c ≠ '\n')
      (ha : Alignment.AskedBy suffix a) :
      Grammar ("||BREAK:".toList ++ suffix ++ "||".toList) (some a)
  | header : Grammar "||HEADER||".toList none

/-- The words of the grammar are the written forms of well-formed markers. -/
theorem grammar_iff {word : Text} {style : Option Alignment} :
    Grammar word style ↔ ∃ m : Marker, m.WellFormed ∧ m.source = word ∧ m.style? = style := by
  constructor
  · rintro (_ | ⟨hsuffix, ha⟩ | _)
    · exact ⟨plainBreak, trivial, rfl, rfl⟩
    · next suffix a =>
        refine ⟨styledBreak suffix, fun c hc => ?_, ?_, congrArg some ha.eq_ofSuffix.symm⟩
        · simpa [isSuffixChar] using hsuffix c hc
        · simp [source, breakWord]
    · exact ⟨header, trivial, rfl, rfl⟩
  · rintro ⟨m, hm, rfl, rfl⟩
    cases m with
    | plainBreak => exact .plainBreak
    | header => exact .header
    | styledBreak suffix =>
        have hsource : (styledBreak suffix).source =
            "||BREAK:".toList ++ suffix ++ "||".toList := by simp [source, breakWord]
        rw [hsource]
        refine .styledBreak (fun c hc => ?_) (Alignment.askedBy_ofSuffix suffix)
        simpa [isSuffixChar] using hm c hc

/-- No marker is read at the front of a text exactly when no word of the grammar stands there. -/
theorem at?_eq_none_iff {t : Text} :
    at? t = none ↔ ∀ word style, Grammar word style → ¬word <+: t := by
  constructor
  · rintro hread word style hword ⟨rest, rfl⟩
    obtain ⟨m, hm, rfl, -⟩ := grammar_iff.1 hword
    rw [hm.at?_source_append] at hread
    cases hread
  · intro h
    rw [Option.eq_none_iff_forall_ne_some]
    rintro ⟨m, rest⟩ hread
    obtain ⟨hm, rfl⟩ := at?_eq_some_iff.1 hread
    exact h _ _ (grammar_iff.2 ⟨m, hm, rfl, rfl⟩) (List.prefix_append _ _)

end Marker

/-! ## Recognition -/

namespace Segment

/-- A text is searched for a marker with the same result as when it is cut. -/
theorem hasMarkers_eq (t : Text) :
    hasMarkers t = (lex t).any fun s => s.marker?.isSome := by
  fun_induction lex t with
  | case1 => rfl
  | case2 c t m rest hread _ => simp [hasMarkers, hread]
  | case3 c t hread ih =>
      rw [any_marker?_eq] at ih ⊢
      rw [filterMap_marker?_consChar, hasMarkers, hread, ih]
      rfl

/-- What is placed in a text are its segments. -/
theorem map_segment_spans (t : Text) : (spans t).map Placed.segment = lex t :=
  map_segment_placeFrom _ _ _

/-- What is placed in a text is one of its segments. -/
theorem segment_mem_lex {t : Text} {p : Placed} (hp : p ∈ spans t) : p.segment ∈ lex t :=
  map_segment_spans t ▸ List.mem_map_of_mem hp

/-- The segments tile the text from its first byte to its last. -/
theorem tiles_spans (t : Text) : Tiles 0 t.byteLength (spans t) := by
  have hne : ∀ s ∈ lex t, s.source ≠ [] := by
    intro s hs
    cases s with
    | text u => exact (wellCut_lex t).nonempty u hs
    | marker m => exact m.source_ne_nil
  have htiles := tiles_placeFrom Text.isSize_byteLength 0 hne
  rwa [flatMap_source_lex, Nat.zero_add] at htiles

/-- Each segment is what stands at its place. -/
theorem stands_of_mem_spans {t : Text} {p : Placed} (hp : p ∈ spans t) :
    ∃ front behind, t = front ++ p.segment.source ++ behind ∧
      p.start = front.byteLength ∧ p.stop = (front ++ p.segment.source).byteLength := by
  obtain ⟨before, behind, hlex, hstart, hstop⟩ := mem_placeFrom Text.isSize_byteLength hp
  refine ⟨before.flatMap source, behind.flatMap source, ?_, ?_, ?_⟩
  · conv_lhs => rw [← flatMap_source_lex t, hlex]
    simp
  · rw [hstart, Nat.zero_add]
  · rw [Text.isSize_byteLength.append, hstop, hstart, Nat.zero_add]

/-- A marker of a text is a word of the grammar. -/
theorem grammar_of_mem_spans {t : Text} {p : Placed} (hp : p ∈ spans t) {m : Marker}
    (hm : p.segment = .marker m) : Marker.Grammar p.segment.source m.style? := by
  have hmem : .marker m ∈ lex t := hm ▸ segment_mem_lex hp
  rw [hm]
  exact Marker.grammar_iff.2 ⟨m, (wellCut_lex t).wellFormed m hmem, rfl, rfl⟩

/-- No marker starts at a place of a text that lies inside a plain text. -/
theorem at?_eq_none_of_mem_spans {t u front behind : Text} {p : Placed} (hp : p ∈ spans t)
    (htext : p.segment = .text u) (ht : t = front ++ behind)
    (hstart : p.start ≤ front.byteLength) (hstop : front.byteLength < p.stop) :
    Marker.at? behind = none := by
  obtain ⟨before, later, hlex, hpstart, hpstop⟩ := mem_placeFrom Text.isSize_byteLength hp
  rw [htext] at hlex hpstop
  rw [Nat.zero_add] at hpstart
  rw [source] at hpstop
  have hsource : before.flatMap source ++ (u ++ later.flatMap source) = front ++ behind := by
    rw [← ht, ← flatMap_source_lex t, hlex]
    simp [source]
  -- The front reaches into the plain text, and does not cover all of it.
  obtain ⟨inside, rfl, hbehind⟩ :=
    Text.isSize_byteLength.exists_front hsource (hpstart ▸ hstart)
  have hlength := Text.isSize_byteLength.append (before.flatMap source) inside
  obtain ⟨rest, rfl, rfl⟩ := Text.isSize_byteLength.exists_front hbehind.symm (by omega)
  refine (wellCut_lex t).complete before _ later hlex inside rest rfl fun hrest => ?_
  rw [hrest, List.append_nil] at hpstop
  omega

end Segment

open Segment in
/-- The segments of a text tile it from its first byte to its last, so their written forms make it
up, and each is what stands at its place. Two plain texts are never side by side. Every marker is a
word of the grammar and has the style that the grammar gives it, and no word of the grammar starts
at a place inside a plain text. The search for a marker succeeds exactly when some segment is
one. -/
theorem recognises_grammar (t : Text) :
    Tiles 0 t.byteLength (spans t) ∧
    (spans t).flatMap (fun p => p.segment.source) = t ∧
    (∀ p ∈ spans t, ∃ front behind, t = front ++ p.segment.source ++ behind ∧
      p.start = front.byteLength ∧ p.stop = (front ++ p.segment.source).byteLength) ∧
    (spans t).IsChain (fun p q => p.segment.marker?.isSome ∨ q.segment.marker?.isSome) ∧
    (∀ p ∈ spans t, ∀ m, p.segment = .marker m →
      Marker.Grammar p.segment.source m.style?) ∧
    (∀ p ∈ spans t, ∀ u, p.segment = .text u → ∀ front behind, t = front ++ behind →
      p.start ≤ front.byteLength → front.byteLength < p.stop →
      ∀ word style, Marker.Grammar word style → ¬word <+: behind) ∧
    (hasMarkers t = true ↔ ∃ p ∈ spans t, p.segment.marker?.isSome) := by
  refine ⟨tiles_spans t, ?_, fun p => stands_of_mem_spans, ?_,
    fun p hp m => grammar_of_mem_spans hp, ?_, ?_⟩
  · conv_rhs => rw [← flatMap_source_lex t, ← map_segment_spans, List.flatMap_map]
  · rw [← List.isChain_map (R := fun a b : Segment => a.marker?.isSome ∨ b.marker?.isSome),
      map_segment_spans]
    exact alternating_lex t
  · intro p hp u htext front behind ht hstart hstop
    exact Marker.at?_eq_none_iff.1 (at?_eq_none_of_mem_spans hp htext ht hstart hstop)
  · rw [hasMarkers_eq, List.any_eq_true, ← map_segment_spans]
    simp

end MarkedVerse
