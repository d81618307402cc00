import MarkedVerse.Listing.Decode
import MarkedVerse.Proofs.WrittenConfig

/-!
# A listing that was written is read back

The JSON listing of any sections is read back as these sections, whatever their contents and flags are
(`Listing.decode_json`). So the listing of a marked text holds its sections and nothing else
(`Listing.listing_reads_back`).
-/

namespace MarkedVerse

namespace Listing

open Json

theorem readsBack_section (s : Section) : ReadsBack readSection (sectionValue s) s := by
  have hcontent := readsBack_string (String.ofList s.content)
  rw [String.toList_ofList] at hcontent
  have hstyle := Config.readsBack_alignment s.style
  have hbreak := readsBack_bool s.isBreak
  have hheader := readsBack_bool s.isHeader
  have hfinish : SectionFields.finish ⟨some (String.ofList s.content), some s.style,
      some s.isBreak, some s.isHeader⟩ = .ok s := by
    show Except.ok (Section.mk (String.ofList s.content).toList s.style s.isBreak s.isHeader) = _
    rw [String.toList_ofList]
  refine readsBack_record ?_ hfinish
  refine .cons (hcontent.member (fun x => ⟨some x, none, none, none⟩) fun _ => rfl) ?_
  refine .cons (hstyle.member (fun x =>
    ⟨some (String.ofList s.content), some x, none, none⟩) fun _ => rfl) ?_
  refine .cons (hbreak.member (fun x =>
    ⟨some (String.ofList s.content), some s.style, some x, none⟩) fun _ => rfl) ?_
  refine .cons (hheader.member (fun x =>
    ⟨some (String.ofList s.content), some s.style, some s.isBreak, some x⟩) fun _ => rfl) ?_
  exact .nil _

/-- Sections that were listed as JSON are read back. -/
theorem decode_json (sections : List Section) : decode (json sections) = .ok sections := by
  have hsections : ReadsBack (array readSection) (.array (sections.map sectionValue)) sections :=
    .array (List.forall₂_map_left_iff.2 (List.forall₂_same.2 fun s _ => readsBack_section s))
  exact hsections.document_pretty

/-- The JSON listing of a marked text is read back as the sections of the text. Any list of sections
is read back from its listing, also one that no text is read as. -/
theorem listing_reads_back :
    (∀ t : Text, decode (ofText t true) = .ok (Section.parse t)) ∧
      ∀ sections : List Section, decode (json sections) = .ok sections :=
  ⟨fun t => decode_json (Section.parse t), decode_json⟩

end Listing

end MarkedVerse
