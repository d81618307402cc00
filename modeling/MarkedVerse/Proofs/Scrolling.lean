import MarkedVerse.Proofs.PageText
import MarkedVerse.Proofs.ReadingPosition

/-!
# Scrolling

The window over a page is moved so that the row of the current verse is in it
(`Page.rowOf_in_window`), and it is not moved when the row is in it already
(`Page.scrollTo_of_in_window`). So it stays where it is when the page is drawn once more. The end of
the window is only computed when the row is not above the window, which keeps the sum small however
far the window was scrolled (`Page.scrollTo?_eq`).
-/

namespace MarkedVerse

namespace Page

open Reader (scrollTo)

variable {page : Page} {scroll height row : Nat} {verse : Option Nat}

/-- The row that a page has for a verse is one of the page. -/
theorem lt_of_rowOf {sections : List Section} {config : RenderConfig} {s : PageStyle}
    (h : verse.bind (render sections config s).rowOf = some row) :
    row < (render sections config s).rows.length := by
  obtain ⟨v, -, hrow⟩ := Option.bind_eq_some_iff.1 h
  exact lt_of_mem_verseRows (List.mem_of_getElem? hrow)

/-! ## The window -/

/-- The window over a page is moved so that the row of the verse is in it. -/
theorem rowOf_in_window (hverse : verse.bind page.rowOf = some row)
    (hrow : row < page.rows.length) (scroll height : Nat) :
    let top := scrollTo scroll height page verse
    top ≤ row ∧ row < top + max height 1 := by
  have hlast : row ≤ page.rows.length - 1 := by omega
  have hmoved : row - height / 3 ≤ row ∧ row < row - height / 3 + max height 1 := by omega
  simp only [scrollTo, hverse]
  split <;> omega

/-- A window with the row of the verse in it is not moved. -/
theorem scrollTo_of_in_window (hverse : verse.bind page.rowOf = some row)
    (hrow : row < page.rows.length) (habove : scroll ≤ row)
    (hbelow : row < scroll + max height 1) : scrollTo scroll height page verse = scroll := by
  simp only [scrollTo, hverse]
  rw [if_neg (by omega)]
  omega

/-- The window begins on a row of the page, if there is one. -/
theorem scrollTo_le (scroll height : Nat) (page : Page) (verse : Option Nat) :
    scrollTo scroll height page verse ≤ page.rows.length - 1 :=
  Nat.min_le_right _ _

/-- A window that was moved is not moved again. -/
theorem scrollTo_scrollTo (hrows : ∀ row, verse.bind page.rowOf = some row → row < page.rows.length)
    (scroll height : Nat) :
    scrollTo (scrollTo scroll height page verse) height page verse =
      scrollTo scroll height page verse := by
  cases hverse : verse.bind page.rowOf with
  | none => simp [scrollTo, hverse]
  | some row =>
      obtain ⟨habove, hbelow⟩ := rowOf_in_window hverse (hrows row hverse) scroll height
      exact scrollTo_of_in_window hverse (hrows row hverse) habove hbelow

/-! ## Numbers of 64 bits -/

/-- The sum of two numbers, unless it has more than 64 bits. -/
def sum? (m n : Nat) : Option Nat :=
  if m + n < UInt64.size then some (m + n) else none

/-- The window is moved with sums of at most 64 bits. The end of the window is computed only when
the row of the verse is not above the window. -/
def scrollTo? (scroll height : Nat) (page : Page) (verse : Option Nat) : Option Nat :=
  let target? := match verse.bind page.rowOf with
    | some row =>
      if row < scroll then some (row - height / 3)
      else (sum? scroll (max height 1)).map fun stop =>
        if stop ≤ row then row - height / 3 else scroll
    | none => some scroll
  target?.map fun target => min target (page.rows.length - 1)

/-- On a page that can be kept in memory, which has fewer than 2 to the power of 63 rows, no sum has
more than 64 bits. -/
theorem scrollTo?_eq (hrows : ∀ row, verse.bind page.rowOf = some row → row < page.rows.length)
    (hheight : height < UInt16.size) (hlength : page.rows.length < UInt64.size / 2)
    (scroll : Nat) :
    scrollTo? scroll height page verse = some (scrollTo scroll height page verse) := by
  simp only [UInt16.size] at hheight
  cases hverse : verse.bind page.rowOf with
  | none => simp only [scrollTo?, scrollTo, hverse, Option.map_some]
  | some row =>
      simp only [scrollTo?, scrollTo, hverse]
      by_cases habove : row < scroll
      · rw [if_pos habove, if_pos (.inl habove), Option.map_some]
      · have hrow := hrows row hverse
        have hsum : scroll + max height 1 < UInt64.size := by
          simp only [UInt64.size] at hlength ⊢
          omega
        simp only [habove, false_or, if_false, sum?, if_pos hsum, Option.map_some]

end Page

namespace Reader

variable {config : Config} {r : Reader}

/-- In every state of the reader, wherever the window was scrolled to, drawing the page for a window
of any size moves the window to a row of the page, if there is one. With a verse at the reading
position, the row of the verse is then in the window, which has at least one row, and the window is
not moved when it was there before. Drawing once more changes nothing. No sum has more than 64 bits:
neither the number of the verse, counted from one, which is at most the number of verses, nor the
end of the window, on a screen whose height has 16 bits and for a page that can be kept in memory,
which has fewer than 2 to the power of 63 rows. -/
theorem scrolling_follows_verse (h : Reachable config r) (width height : Nat) :
    let drawn := (r.page width height).1
    let page := (r.page width height).2
    drawn.scroll ≤ page.rows.length - 1 ∧
      (∀ v, r.render.currentVerse = some v → v + 1 ≤ r.verseCount ∧
        ∃ row, page.rowOf v = some row ∧
          (drawn.scroll ≤ row ∧ row < drawn.scroll + max height 1) ∧
          (r.scroll ≤ row → row < r.scroll + max height 1 → drawn.scroll = r.scroll)) ∧
      drawn.page width height = (drawn, page) ∧
      (height < UInt16.size → page.rows.length < UInt64.size / 2 →
        Page.scrollTo? r.scroll height page r.render.currentVerse = some drawn.scroll) := by
  intro drawn page
  have hrows : ∀ row, r.render.currentVerse.bind page.rowOf = some row → row < page.rows.length :=
    fun row => Page.lt_of_rowOf
  refine ⟨Page.scrollTo_le _ _ _ _, fun v hverse => ?_, ?_, fun hheight hlength =>
    Page.scrollTo?_eq hrows hheight hlength r.scroll⟩
  · have hv := h.onVerse v hverse
    obtain ⟨row, hrow⟩ : ∃ row, page.rowOf v = some row :=
      Option.isSome_iff_exists.1 (Page.isSome_rowOf_iff.2 hv)
    have hbind : r.render.currentVerse.bind page.rowOf = some row := by
      rw [hverse]
      exact hrow
    exact ⟨hv, row, hrow, Page.rowOf_in_window hbind (hrows row hbind) _ _,
      Page.scrollTo_of_in_window hbind (hrows row hbind)⟩
  · have hagain : scrollTo drawn.scroll height page r.render.currentVerse = drawn.scroll :=
      Page.scrollTo_scrollTo hrows r.scroll height
    show ({ drawn with scroll := scrollTo drawn.scroll height page r.render.currentVerse }, page) =
      (drawn, page)
    rw [hagain]

/-- A window that was scrolled as far as numbers go, over a poem at its second verse: drawing the
page where there is no room for a row moves the window back to the row of the verse. -/
theorem scrolling_follows_verse_from_maxScroll :
    let shown := (((new .standard).setDocument ⟨"moon\n\nstars\n\nsun".toList⟩).nextVerse).nextVerse
    let r := ((shown.scrollBy 9223372036854775807).scrollBy 9223372036854775807).scrollBy 10
    let page := (r.page 20 0).2
    (Reachable .standard r ∧ r.render.currentVerse = some 1 ∧ 0 < UInt16.size ∧
        page.rows.length < UInt64.size / 2) ∧
      r.scroll = maxScroll ∧ (r.page 20 0).1.scroll = 2 ∧ page.rowOf 1 = some 2 ∧
      Page.scrollTo? maxScroll 0 page (some 1) = some 2 := by
  intro shown r page
  have hshown : Reachable .standard shown := (Reachable.new.shown _).next.next
  have h : Reachable .standard r := ((hshown.scrolled _).scrolled _).scrolled _
  have hverse : r.render.currentVerse = some 1 := by decide +kernel
  have hlength : page.rows.length < UInt64.size / 2 := by decide +kernel
  have hmax : r.scroll = maxScroll := by decide +kernel
  have hscroll : (r.page 20 0).1.scroll = 2 := by decide +kernel
  obtain ⟨-, hwindow, -, hsum⟩ := scrolling_follows_verse h 20 0
  obtain ⟨-, row, hrow, ⟨habove, hbelow⟩, -⟩ := hwindow 1 hverse
  have htwo : row = 2 := by
    rw [hscroll] at habove hbelow
    omega
  have hfits := hsum (by decide) hlength
  rw [hmax, hverse, hscroll] at hfits
  exact ⟨⟨h, hverse, by decide, hlength⟩, hmax, hscroll, htwo ▸ hrow, hfits⟩

end Reader

end MarkedVerse
