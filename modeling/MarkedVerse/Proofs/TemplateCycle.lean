import MarkedVerse.Proofs.CatalogOrder
import MarkedVerse.Proofs.FailedOpening
import MarkedVerse.Proofs.LastTemplate

/-!
# Cycling through the templates

Each press of the template key tries the next template on what the one before wrote. Because a
template overwrites another, the document is at every time what the last template makes of the
original document (`cycling_depends_on_document`), and because what a template needs is in the
document and not in the template, either all of them can be applied or none.
-/

namespace MarkedVerse

namespace Template

open Segment

variable {p q : Pattern} {t : Text}

/-- A text that templates can be applied to: it has breaks, or two paragraphs. -/
def Fits (t : Text) : Prop :=
  breakMarkers t ≠ [] ∨ 2 ≤ (Text.paragraphs t).length

/-- The text that a template leaves: one that cannot be applied leaves it as it is. -/
def written (t : Text) (p : Pattern) : Text :=
  match apply t p with
  | .ok outcome => outcome.text
  | .error _ => t

/-- Any template with styles can be applied to a text that fits. -/
theorem exists_apply (hfits : Fits t) (hp : p.styles ≠ []) :
    ∃ mode, apply t p = .ok ⟨written t p, mode⟩ := by
  have hok : ∃ outcome, apply t p = .ok outcome := by
    by_cases hbreaks : breakMarkers t = []
    · have hcount := hfits.resolve_left (fun hne => hne hbreaks)
      rw [apply_eq_insertBreaks hp hbreaks]
      match hparagraphs : Text.paragraphs t with
      | [] | [_] => simp [hparagraphs] at hcount
      | first :: second :: rest => exact ⟨_, insertBreaks_eq_ok hparagraphs p⟩
    · exact ⟨_, apply_eq_restyle hp hbreaks⟩
  obtain ⟨⟨text, mode⟩, hok⟩ := hok
  exact ⟨mode, by rw [written, hok]⟩

/-- No template with styles can be applied to another text. -/
theorem exists_apply_eq_error (hfits : ¬Fits t) (hp : p.styles ≠ []) :
    ∃ e, apply t p = .error e := by
  rw [Fits, not_or, not_not, not_le] at hfits
  exact ⟨_, (apply_eq_insertBreaks hp hfits.1).trans (insertBreaks_eq_error hfits.2 p)⟩

theorem written_of_not_fits (hfits : ¬Fits t) (hp : p.styles ≠ []) : written t p = t := by
  obtain ⟨e, he⟩ := exists_apply_eq_error hfits hp
  rw [written, he]

/-- On what a template wrote, another one writes what it would have written at once. -/
theorem exists_apply_written (hfits : Fits t) (hp : p.styles ≠ []) (hq : q.styles ≠ []) :
    ∃ mode, apply (written t p) q = .ok ⟨written t q, mode⟩ := by
  obtain ⟨mode, hfirst⟩ := exists_apply hfits hp
  obtain ⟨z, honce, hafter⟩ := apply_after hq hfirst
  have hz : written t q = z := by rw [written, honce]
  exact ⟨_, hz ▸ hafter⟩

/-- The text after `n` templates of a catalog were tried one after the other. -/
def writtenAt (c : Catalog) (t : Text) : Nat → Text
  | 0 => t
  | n + 1 => (c.patterns[n % c.size]?).elim t (written t)

end Template

/-! ## Keys -/

namespace KeyPress

/-- The key tries the next template. -/
def triesTemplate (k : KeyPress) : Bool :=
  k.key == .char 't'

/-- The key neither asks to leave the reader nor shows the help. -/
def staysReading (k : KeyPress) : Bool :=
  k.key != .char 'q' && k.key != .escape && k.key != .char '?' &&
    !(k.key == .char 'c' && k.control)

end KeyPress

namespace Reader

open Template

variable {r : Reader} {x : Text} {n : Nat} {fs : FileSystem} {k : KeyPress}

/-- The reader of a document, after the template key was pressed `n` times. -/
structure Tried (c : Catalog) (x : Text) (n : Nat) (r : Reader) : Prop where
  mode : r.mode = .reading
  catalog : r.config.catalog = c
  template : r.template = c.nameAt n
  text : r.document.text = writtenAt c x n
  unmodified : ¬Fits x → r.modified = false

/-- The message on the screen is of this severity. -/
def Tells (severity : Status.Severity) (r : Reader) : Prop :=
  r.status.map Status.Message.severity = some severity

variable {c : Catalog}

theorem tried_setDocument (hmode : r.mode = .reading) (x : Text) :
    Tried r.config.catalog x 0 (r.setDocument ⟨x⟩) :=
  ⟨hmode, rfl, rfl, rfl, fun _ => rfl⟩

/-- What another key does leaves the templates and the document. -/
structure Leaves (r r' : Reader) : Prop where
  mode : r'.mode = r.mode
  config : r'.config = r.config
  template : r'.template = r.template
  document : r'.document = r.document
  modified : r'.modified = true → r.modified = true

theorem Tried.of_leaves {r' : Reader} (h : Tried c x n r) (hleaves : Leaves r r') :
    Tried c x n r' where
  mode := hleaves.mode.trans h.mode
  catalog := hleaves.config ▸ h.catalog
  template := hleaves.template.trans h.template
  text := hleaves.document ▸ h.text
  unmodified hfits := by
    have hmodified := hleaves.modified
    rw [h.unmodified hfits] at hmodified
    simpa using hmodified

theorem leaves_moveVerse (r : Reader) (move : Nat → Nat → Nat) : Leaves r (r.moveVerse move) := by
  unfold moveVerse
  split <;> exact ⟨rfl, rfl, rfl, rfl, id⟩

theorem leaves_trySave (r : Reader) (fs : FileSystem) : Leaves r (r.trySave fs).2.1 := by
  obtain ⟨status, modified, hsave, hmodified⟩ := exists_trySave_eq r fs
  rw [hsave]
  exact ⟨rfl, rfl, rfl, rfl, hmodified⟩

/-- A key that does not try a template leaves the templates and the document. -/
theorem leaves_press (hmode : r.mode = .reading) (fs : FileSystem)
    (hstays : k.staysReading = true) (hother : k.triesTemplate = false) :
    Leaves r (r.press fs k).1 := by
  unfold press
  rw [hmode]
  dsimp only
  unfold readingKey
  unfold KeyPress.staysReading at hstays
  unfold KeyPress.triesTemplate at hother
  split
  case h_1 hkey =>
    have hcontrol : k.control = false := by simpa [hkey] using hstays
    rw [hcontrol]
    exact ⟨rfl, rfl, rfl, rfl, id⟩
  case h_2 | h_3 | h_4 | h_5 => exact leaves_moveVerse r _
  case h_10 hkey => simp [hkey] at hother
  case h_11 => exact leaves_trySave r fs
  case h_12 hkey | h_13 hkey | h_14 hkey => simp [hkey] at hstays
  all_goals exact ⟨rfl, rfl, rfl, rfl, id⟩

/-- The text on which the next template is tried: it can be applied to it exactly when it can be
applied to the original one, and then it writes the same. -/
theorem apply_writtenAt (hc : c.Ordered) {p : Pattern} (hp : p.styles ≠ []) (x : Text) (n : Nat) :
    (Fits x → ∃ mode, Template.apply (writtenAt c x n) p = .ok ⟨written x p, mode⟩) ∧
      (¬Fits x → writtenAt c x n = x) := by
  cases n with
  | zero => exact ⟨fun hfits => exists_apply hfits hp, fun _ => rfl⟩
  | succ n =>
      obtain ⟨q, hq, hstyles⟩ := hc.exists_pattern n
      rw [writtenAt, hq, Option.elim_some]
      exact ⟨fun hfits => exists_apply_written hfits hstyles hp,
        fun hfits => written_of_not_fits hfits hstyles⟩

/-- The template key tries the next template. -/
theorem Tried.cycleTemplate (h : Tried c x n r) (hc : c.Ordered) :
    Tried c x (n + 1) r.cycleTemplate ∧ (Fits x → Tells .success r.cycleTemplate) ∧
      (¬Fits x → Tells .error r.cycleTemplate) := by
  obtain ⟨p, hp, hstyles⟩ := hc.exists_pattern n
  have hnext : r.config.catalog.nextAfter r.template = some p := by
    rw [h.catalog, h.template, hc.nextAfter_nameAt, hp]
  have hname : c.nameAt (n + 1) = some p.name := by rw [Catalog.nameAt, hp, Option.map_some]
  have hwritten : writtenAt c x (n + 1) = written x p := by rw [writtenAt, hp, Option.elim_some]
  obtain ⟨happlies, hsame⟩ := apply_writtenAt hc hstyles x n
  unfold Reader.cycleTemplate
  rw [hnext]
  dsimp only
  unfold Document.applyTemplate
  rw [h.text]
  by_cases hfits : Fits x
  · obtain ⟨mode, happly⟩ := happlies hfits
    rw [happly]
    exact ⟨⟨h.mode, h.catalog, hname.symm, hwritten.symm, fun hnot => absurd hfits hnot⟩,
      fun _ => rfl, fun hnot => absurd hfits hnot⟩
  · obtain ⟨e, he⟩ := exists_apply_eq_error hfits hstyles
    rw [hsame hfits, he]
    refine ⟨⟨h.mode, h.catalog, hname.symm, ?_, fun _ => h.unmodified hfits⟩,
      fun hyes => absurd hyes hfits, fun _ => rfl⟩
    rw [hwritten, written_of_not_fits hfits hstyles, ← hsame hfits]
    exact h.text

/-- Pressing the template key is trying the next template. -/
theorem press_triesTemplate (hmode : r.mode = .reading) (fs : FileSystem)
    (htries : k.triesTemplate = true) : r.press fs k = (r.cycleTemplate, fs) := by
  have hkey : k.key = .char 't' := by simpa [KeyPress.triesTemplate] using htries
  unfold press readingKey
  rw [hmode, hkey]
  rfl

/-! ## Any number of keys -/

/-- The number of templates that keys try. -/
def tries (keys : List KeyPress) : Nat :=
  keys.countP KeyPress.triesTemplate

theorem Tried.press (h : Tried c x n r) (hc : c.Ordered) (fs : FileSystem)
    (hstays : k.staysReading = true) : Tried c x (n + tries [k]) (r.press fs k).1 := by
  cases htries : k.triesTemplate with
  | true =>
      rw [press_triesTemplate h.mode fs htries]
      simpa [tries, htries] using (h.cycleTemplate hc).1
  | false => simpa [tries, htries] using h.of_leaves (leaves_press h.mode fs hstays htries)

theorem Tried.pressAll (h : Tried c x n r) (hc : c.Ordered) (fs : FileSystem)
    {keys : List KeyPress} (hstay : ∀ k ∈ keys, k.staysReading = true) :
    Tried c x (n + tries keys) (r.pressAll fs keys).1 := by
  induction keys generalizing r fs n with
  | nil => exact h
  | cons k keys ih =>
      have hone := h.press hc fs (hstay k List.mem_cons_self)
      have hrest := ih hone (r.press fs k).2 fun k' hk' => hstay k' (List.mem_cons_of_mem _ hk')
      have htries : tries (k :: keys) = tries [k] + tries keys := by
        rw [tries, ← List.singleton_append, List.countP_append]
        rfl
      rw [htries, ← Nat.add_assoc]
      exact hrest

theorem pressAll_concat (r : Reader) (fs : FileSystem) (keys : List KeyPress) (k : KeyPress) :
    r.pressAll fs (keys ++ [k]) =
      (r.pressAll fs keys).1.press (r.pressAll fs keys).2 k := by
  induction keys generalizing r fs with
  | nil => rfl
  | cons first keys ih => exact ih _ _

/-- Whenever keys have tried a template, the reader is like this. -/
def AfterEveryTry (P : Reader → Prop) (r : Reader) (fs : FileSystem) (keys : List KeyPress) :
    Prop :=
  ∀ front k, front ++ [k] <+: keys → k.triesTemplate = true → P (r.pressAll fs (front ++ [k])).1

/-- Whatever holds after one more template, wherever in the cycle, holds after every try. -/
theorem Tried.afterEveryTry (h : Tried c x n r) (hc : c.Ordered) (fs : FileSystem)
    {keys : List KeyPress} (hstay : ∀ k ∈ keys, k.staysReading = true) {P : Reader → Prop}
    (hstep : ∀ {m s}, Tried c x m s → P s.cycleTemplate) : AfterEveryTry P r fs keys := by
  intro front k hfront htries
  have hfrontStays : ∀ k ∈ front, k.staysReading = true :=
    fun k' hk' => hstay k' (hfront.subset (List.mem_append_left _ hk'))
  have hbefore := h.pressAll hc fs hfrontStays
  rw [pressAll_concat, press_triesTemplate hbefore.mode _ htries]
  exact hstep hbefore

/-- The template that is shown and the text depend only on the original document and the number of
templates that were tried. When the template key has been pressed `n` times on a document, with any
keys in between that do not leave the text, the template is the one at `n` in the catalog, counted
round and round, and the text is what this one template makes of the original text. Either every
press reports a success, or every press reports an error, and then there is never an unsaved
change. -/
theorem cycling_depends_on_document (hmode : r.mode = .reading) (x : Text) (fs : FileSystem)
    {keys : List KeyPress} (hstay : ∀ k ∈ keys, k.staysReading = true) (hpressed : 0 < tries keys) :
    let catalog := r.config.catalog
    let start := r.setDocument ⟨x⟩
    let after := (start.pressAll fs keys).1
    ∃ p, catalog.patterns[(tries keys - 1) % catalog.size]? = some p ∧
      after.template = some p.name ∧
      ((∃ outcome, Template.apply x p = .ok outcome ∧ after.document.text = outcome.text ∧
          AfterEveryTry (Tells .success) start fs keys) ∨
        ∃ e, Template.apply x p = .error e ∧ after.document.text = x ∧
          AfterEveryTry (Tells .error) start fs keys ∧
          ∀ front, front <+: keys → (start.pressAll fs front).1.modified = false) := by
  intro catalog start after
  have hc : catalog.Ordered := r.config.ordered_catalog
  have hstart : Tried catalog x 0 start := tried_setDocument hmode x
  have hafter : Tried catalog x (tries keys) after := by
    have hall := hstart.pressAll hc fs hstay
    rwa [Nat.zero_add] at hall
  obtain ⟨n, hn⟩ : ∃ n, tries keys = n + 1 := ⟨tries keys - 1, by omega⟩
  rw [hn] at hafter ⊢
  obtain ⟨p, hp, hstyles⟩ := hc.exists_pattern n
  have htemplate : after.template = some p.name := by
    rw [hafter.template, Catalog.nameAt, hp, Option.map_some]
  have htext : after.document.text = written x p := by
    rw [hafter.text, writtenAt, hp, Option.elim_some]
  refine ⟨p, hp, htemplate, ?_⟩
  by_cases hfits : Fits x
  · obtain ⟨mode, happly⟩ := exists_apply hfits hstyles
    exact .inl ⟨_, happly, htext,
      hstart.afterEveryTry hc fs hstay fun h => (h.cycleTemplate hc).2.1 hfits⟩
  · obtain ⟨e, he⟩ := exists_apply_eq_error hfits hstyles
    refine .inr ⟨e, he, htext.trans (written_of_not_fits hfits hstyles),
      hstart.afterEveryTry hc fs hstay fun h => (h.cycleTemplate hc).2.2 hfits,
      fun front hfront => ?_⟩
    have hfrontStays : ∀ k ∈ front, k.staysReading = true :=
      fun k hk => hstay k (hfront.subset hk)
    exact (hstart.pressAll hc fs hfrontStays).unmodified hfits

/-- Two templates with other keys around them, where the user's own template takes the place of the
second one of the catalog. -/
theorem cycling_depends_on_document_of_poem :
    let own : Pattern := ⟨"Centered", [.left], ""⟩
    let r := new { Config.standard with templates := [own] }
    let keys : List KeyPress := [⟨.char 'c', false⟩, ⟨.char 't', false⟩, ⟨.char 'j', false⟩,
      ⟨.char 'w', false⟩, ⟨.char 't', false⟩, ⟨.pageDown, false⟩]
    let after := ((r.setDocument ⟨"moon\n\nstars".toList⟩).pressAll (.sound .empty) keys).1
    (r.mode = .reading ∧ (∀ k ∈ keys, k.staysReading = true) ∧ 0 < tries keys) ∧
      after.template = some "Centered" ∧
      after.document.text = "moon\n\n||BREAK:left||\n\nstars".toList := by
  intro own r keys after
  have hmode : r.mode = .reading := rfl
  have hstay : ∀ k ∈ keys, k.staysReading = true := by decide
  have hpressed : 0 < tries keys := by decide
  refine ⟨⟨hmode, hstay, hpressed⟩, ?_⟩
  obtain ⟨p, hp, htemplate, hcases⟩ :=
    cycling_depends_on_document hmode "moon\n\nstars".toList (.sound .empty) hstay hpressed
  have hsecond : r.config.catalog.patterns[(tries keys - 1) % r.config.catalog.size]? =
      some own := by
    decide +kernel
  rw [hsecond] at hp
  cases hp
  have hown : Template.apply "moon\n\nstars".toList own =
      .ok ⟨"moon\n\n||BREAK:left||\n\nstars".toList, .insert 1⟩ := by decide +kernel
  obtain ⟨outcome, happly, htext, -⟩ | ⟨e, he, -⟩ := hcases
  · rw [hown] at happly
    cases happly
    exact ⟨htemplate, htext⟩
  · rw [hown] at he
    cases he

end Reader

end MarkedVerse
