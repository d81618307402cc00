import MarkedVerse.Config.Encode
import MarkedVerse.Proofs.ConfigFile
import MarkedVerse.Proofs.ValidConfig
import MarkedVerse.Proofs.WrittenJson

/-!
# A configuration that was saved is read back

Every configuration whose numbers can be written is read back as it was written
(`Config.decode_encode`). What is saved is validated first, so its numbers can be written, and
validating it once more changes nothing (`Config.saved_reads_back`). With the file that holds it,
saving and then loading gives the validated configuration (`Config.load_save`).
-/

namespace MarkedVerse

namespace Config

open Json

/-! ## The parts of a configuration -/

theorem readsBack_alignment (a : Alignment) :
    ReadsBack readAlignment (.string a.name.toList) a := by
  intro depth padding rest hpadding _
  have hname : namedAlignment a.name = .ok a := by cases a <;> rfl
  rw [JsonValue.print, quote_append, readAlignment, skipSpace_append hpadding rfl]
  show (stringRest _ >>= _) = _
  rw [stringRest_quote]
  show (namedAlignment (String.ofList a.name.toList) >>= _) = _
  rw [String.ofList_toList, hname]
  rfl

theorem readsBack_alignments (styles : List Alignment) :
    ReadsBack (array readAlignment) (.array (styles.map fun a => .string a.name.toList)) styles :=
  .array (List.forall₂_map_left_iff.2 (List.forall₂_same.2 fun a _ => readsBack_alignment a))

theorem readsBack_pattern (p : Pattern) : ReadsBack readPattern (patternValue p) p := by
  refine readsBack_record (s := ⟨some p.name, some p.styles, some p.description⟩) ?_ rfl
  have hname := readsBack_string p.name
  have hstyles := readsBack_alignments p.styles
  have hdescription := readsBack_string p.description
  refine .cons (hname.member (fun x => ⟨some x, none, none⟩) fun _ => rfl) ?_
  refine .cons (hstyles.member (fun x => ⟨some p.name, some x, none⟩) fun _ => rfl) ?_
  refine .cons (hdescription.member (fun x => ⟨some p.name, some p.styles, some x⟩) fun _ => rfl) ?_
  exact .nil _

theorem readsBack_patterns (patterns : List Pattern) :
    ReadsBack (array readPattern) (.array (patterns.map patternValue)) patterns :=
  .array (List.forall₂_map_left_iff.2 (List.forall₂_same.2 fun p _ => readsBack_pattern p))

theorem readsBack_switches (d : RenderDefaults) :
    ReadsBack readSwitches (switchesValue d) d := by
  refine readsBack_record (s := ⟨some d.compact, some d.numbers, some d.highlight⟩) ?_ rfl
  refine .cons ((readsBack_bool d.compact).member (fun x => ⟨some x, none, none⟩) fun _ => rfl) ?_
  refine .cons ((readsBack_bool d.numbers).member (fun x =>
    ⟨some d.compact, some x, none⟩) fun _ => rfl) ?_
  refine .cons ((readsBack_bool d.highlight).member (fun x =>
    ⟨some d.compact, some d.numbers, some x⟩) fun _ => rfl) ?_
  exact .nil _

theorem readsBack_optional (s : Option String) :
    ReadsBack (nullable string) (optionalValue s) s := by
  cases s with
  | none => exact readsBack_nullable_null string
  | some s => exact readsBack_nullable_string s

/-- A reading column is read back when its numbers are among those that can be written. -/
theorem readsBack_reader {r : ReaderConfig} (hwidth : r.width ≤ maxCells)
    (hindent : r.indent ≤ maxCells) : ReadsBack readReader (readerValue r) r := by
  have hsize : maxCells < UInt64.size := by decide
  refine readsBack_record (s := ⟨some r.width, some r.indent, some r.ruleGlyph,
    some r.highlightColor, some r.numberColor⟩) ?_ rfl
  have hwidth := readsBack_natural hsize hwidth
  have hindent := readsBack_natural hsize hindent
  have hglyph := readsBack_string r.ruleGlyph
  have hhighlight := readsBack_optional r.highlightColor
  have hnumber := readsBack_optional r.numberColor
  refine .cons (hwidth.member (fun x => ⟨some x, none, none, none, none⟩) fun _ => rfl) ?_
  refine .cons (hindent.member (fun x => ⟨some r.width, some x, none, none, none⟩) fun _ => rfl) ?_
  refine .cons (hglyph.member (fun x =>
    ⟨some r.width, some r.indent, some x, none, none⟩) fun _ => rfl) ?_
  refine .cons (hhighlight.member (fun x =>
    ⟨some r.width, some r.indent, some r.ruleGlyph, some x, none⟩) fun _ => rfl) ?_
  refine .cons (hnumber.member (fun x =>
    ⟨some r.width, some r.indent, some r.ruleGlyph, some r.highlightColor, some x⟩) fun _ => rfl) ?_
  exact .nil _

/-! ## The whole -/

variable {c : Config}

/-- A configuration is read back when its numbers are among those that can be written. -/
theorem decode_encode (hwidth : c.reader.width ≤ maxCells) (hindent : c.reader.indent ≤ maxCells) :
    decode c.encode = .ok c := by
  have hrecord : ReadsBack (record ⟨none, none, none, none⟩ Parts.read
      (fun c => .ok c.complete) readParts) c.value c := by
    refine readsBack_record (s := ⟨some c.render, some c.reader, some c.defaultTemplate,
      some c.templates⟩) ?_ rfl
    have hrender := readsBack_switches c.render
    have hreader := readsBack_reader hwidth hindent
    have hdefault := readsBack_string c.defaultTemplate
    have htemplates := readsBack_patterns c.templates
    refine .cons (hrender.member (fun x => ⟨some x, none, none, none⟩) fun _ => rfl) ?_
    refine .cons (hreader.member (fun x => ⟨some c.render, some x, none, none⟩) fun _ => rfl) ?_
    refine .cons (hdefault.member (fun x =>
      ⟨some c.render, some c.reader, some x, none⟩) fun _ => rfl) ?_
    refine .cons (htemplates.member (fun x =>
      ⟨some c.render, some c.reader, some c.defaultTemplate, some x⟩) fun _ => rfl) ?_
    exact .nil _
  exact hrecord.document_pretty

/-- A configuration that can be used is left alone by validation. -/
theorem Valid.validate_eq (h : Valid c) : c.validate = c := by
  obtain ⟨p, hfound⟩ := h.defaultTemplate
  have htemplates : c.templates.filter Pattern.isUsable = c.templates := by
    rw [List.filter_eq_self]
    intro p hp
    simpa [Pattern.isUsable] using h.templates p hp
  have hreader : validateReader c.reader = c.reader := by
    have hindent : ¬c.reader.width / 2 < c.reader.indent := Nat.not_lt.2 h.indent
    have hglyph : (Text.trim c.reader.ruleGlyph.toList).isEmpty = false := by simp [h.glyph]
    simp only [validateReader, if_pos h.width, if_neg hindent, hglyph, Bool.false_eq_true, if_false]
  rw [catalog] at hfound
  simp only [validate, htemplates, hreader, hfound]

/-- Validating twice changes no more than validating once. -/
theorem validate_validate (c : Config) : c.validate.validate = c.validate :=
  (valid_validate c).validate_eq

/-- After validation, the numbers of a configuration are among those that can be written. -/
theorem decode_encode_validate (c : Config) : decode c.validate.encode = .ok c.validate := by
  have hwidth := (valid_validate c).width
  have hindent := (valid_validate c).indent
  refine decode_encode ?_ ?_
  · rw [maxCells]
    omega
  · rw [maxCells]
    omega

/-- Every configuration is read back from the text that is saved for it, just as it is after
validation, and validating that changes nothing. -/
theorem saved_reads_back (c : Config) :
    decode c.validate.encode = .ok c.validate ∧ c.validate.validate = c.validate :=
  ⟨decode_encode_validate c, validate_validate c⟩

/-! ## The file -/

/-- The bytes that are saved for a configuration are taken for what validation makes of it. -/
theorem contents_saved (c : Config) :
    contents (String.ofList c.validate.encode).toUTF8 = .config c.validate := by
  have hblank : (Text.trim c.validate.encode).isEmpty = false := by
    rw [List.isEmpty_eq_false_iff, ne_eq, Text.trim_eq_nil_iff]
    intro hall
    have hbrace := hall '\x7b' List.mem_cons_self
    exact absurd hbrace (by decide)
  rw [contents, fromUTF8?_toUTF8]
  simp only [String.toList_ofList, hblank, Bool.false_eq_true, if_false, decode_encode_validate]

/-- A configuration that could be saved to a file is loaded from there, unless nothing can be
learned about the path or the file cannot be read, and loading leaves the file as it is. -/
theorem load_save {fs after : FileSystem} {file : String}
    (h : c.save fs (some file) = (after, .ok ())) (hfind : after.fault? (.find file) = none)
    (hread : after.fault? (.read file) = none) :
    load after (some file) = (after, .ok c.validate) := by
  simp only [save] at h
  split at h
  · cases h
  · next made hmade =>
    have hwrite : made.write file (String.ofList c.validate.encode).toUTF8 = (after, .ok ()) := by
      generalize made.write file (String.ofList c.validate.encode).toUTF8 = written at h
      obtain ⟨written, answer⟩ := written
      cases answer with
      | error cause => cases congrArg Prod.snd h
      | ok => exact Prod.ext (Prod.mk.inj h).1 rfl
    have hstat := FileSystem.stat_of_write hwrite
    rw [load_of_file hfind hstat, taken, hread]
    dsimp only
    rw [contents_saved]
    exact congrArg (fun c => (after, Except.ok c)) (validate_validate c)

end Config

end MarkedVerse
