import MarkedVerse.Proofs.WellCut

/-!
# The places of segments

Places are counted in characters or in bytes; all that matters is that the count adds up. The
places of the segments of a text tile it (`tiles_placeFrom`), and each segment stands at its place
(`mem_placeFrom`). Where a text is cut in two at a place that is not strictly inside a marker, the
markers in front of the cut are those of the first part and the markers behind it are those of the
second (`markerPlaces_take`, `markerPlaces_drop`).
-/

namespace MarkedVerse

/-! ## Sizes -/

/-- A count of texts, in characters or in bytes: it adds up, and every character counts. -/
structure IsSize (size : Text → Nat) : Prop where
  append : ∀ t u, size (t ++ u) = size t + size u
  pos : ∀ c, 0 < size [c]

namespace IsSize

variable {size : Text → Nat}

/-- The empty text has no size. -/
theorem nil (hsize : IsSize size) : size [] = 0 := by
  have hnone := hsize.append [] []
  rw [List.append_nil] at hnone
  omega

/-- The first character counts by itself. -/
theorem cons (hsize : IsSize size) (c : Char) (t : Text) : size (c :: t) = size [c] + size t :=
  hsize.append [c] t

/-- Every other text has a size. -/
theorem pos_of_ne_nil (hsize : IsSize size) {t : Text} (h : t ≠ []) : 0 < size t := by
  obtain ⟨c, t, rfl⟩ := List.exists_cons_of_ne_nil h
  have hpos := hsize.pos c
  rw [hsize.cons]
  omega

/-- The smaller one of two fronts of a text is a front of the other one. -/
theorem exists_front (hsize : IsSize size) {first second front behind : Text}
    (h : first ++ second = front ++ behind) (hle : size first ≤ size front) :
    ∃ middle, front = first ++ middle ∧ second = middle ++ behind := by
  rcases List.append_eq_append_iff.1 h with hfront | ⟨middle, rfl, rfl⟩
  · exact hfront
  · -- What the first one has more is nothing.
    by_cases hmiddle : middle = []
    · exact ⟨[], by simp [hmiddle], by simp [hmiddle]⟩
    · have hpos := hsize.pos_of_ne_nil hmiddle
      rw [hsize.append] at hle
      omega

end IsSize

namespace Text

/-- The number of characters is a size. -/
theorem isSize_length : IsSize List.length where
  append _ _ := List.length_append
  pos _ := Nat.one_pos

/-- The number of bytes is a size. -/
theorem isSize_byteLength : IsSize byteLength where
  append t u := total_append Char.utf8Size t u
  pos c := Char.utf8Size_pos c

end Text

namespace Segment

variable {size : Text → Nat}

/-! ## Tiling -/

/-- Places that follow one another from `start` to `stop` without a gap, none of them empty. -/
def Tiles (start stop : Nat) : List Placed → Prop
  | [] => start = stop
  | p :: places => p.start = start ∧ p.start < p.stop ∧ Tiles p.stop stop places

@[simp]
theorem map_segment_placeFrom (size : Text → Nat) (start : Nat) (segments : List Segment) :
    (placeFrom size start segments).map Placed.segment = segments := by
  induction segments generalizing start with
  | nil => rfl
  | cons s segments ih => rw [placeFrom, List.map_cons, ih]

/-- Segments that are not empty tile what they make up. -/
theorem tiles_placeFrom (hsize : IsSize size) (start : Nat) {segments : List Segment}
    (h : ∀ s ∈ segments, s.source ≠ []) :
    Tiles start (start + size (segments.flatMap source)) (placeFrom size start segments) := by
  induction segments generalizing start with
  | nil => simp [Tiles, placeFrom, hsize.nil]
  | cons s segments ih =>
      have hpos := hsize.pos_of_ne_nil (h s List.mem_cons_self)
      have hrest := ih (start + size s.source) fun r hr => h r (List.mem_cons_of_mem _ hr)
      rw [Nat.add_assoc, ← hsize.append] at hrest
      refine ⟨rfl, ?_, hrest⟩
      show start < start + size s.source
      omega

/-- A placed segment stands behind the segments in front of it and takes its own size. -/
theorem mem_placeFrom (hsize : IsSize size) {start : Nat} {segments : List Segment} {p : Placed}
    (h : p ∈ placeFrom size start segments) :
    ∃ before behind, segments = before ++ p.segment :: behind ∧
      p.start = start + size (before.flatMap source) ∧
      p.stop = p.start + size p.segment.source := by
  induction segments generalizing start with
  | nil => cases h
  | cons s segments ih =>
      rcases List.mem_cons.1 h with rfl | h
      · exact ⟨[], segments, rfl, by simp [hsize.nil], rfl⟩
      · obtain ⟨before, behind, rfl, hstart, hstop⟩ := ih h
        refine ⟨s :: before, behind, rfl, ?_, hstop⟩
        rw [hstart, List.flatMap_cons, hsize.append, Nat.add_assoc]

/-! ## Placed markers -/

/-- The markers among segments, with the places that they take. -/
def placedMarkers (size : Text → Nat) (start : Nat) (segments : List Segment) : List Placed :=
  (placeFrom size start segments).filter fun p => p.segment.marker?.isSome

/-- The markers of a text with their places, counted in characters. -/
def markerPlaces (t : Text) : List Placed :=
  placedMarkers List.length 0 (lex t)

/-- The same segment so much further behind. -/
def Placed.shift (offset : Nat) (p : Placed) : Placed :=
  ⟨p.segment, p.start + offset, p.stop + offset⟩

@[simp]
theorem placedMarkers_nil (start : Nat) : placedMarkers size start [] = [] :=
  rfl

@[simp]
theorem placedMarkers_text_cons (start : Nat) (t : Text) (segments : List Segment) :
    placedMarkers size start (.text t :: segments) =
      placedMarkers size (start + size t) segments :=
  rfl

@[simp]
theorem placedMarkers_marker_cons (start : Nat) (m : Marker) (segments : List Segment) :
    placedMarkers size start (.marker m :: segments) =
      ⟨.marker m, start, start + size m.source⟩ ::
        placedMarkers size (start + size m.source) segments :=
  rfl

/-- Segments that start further behind have their markers there. -/
theorem placedMarkers_add (size : Text → Nat) (start offset : Nat) (segments : List Segment) :
    placedMarkers size (start + offset) segments =
      (placedMarkers size start segments).map (Placed.shift offset) := by
  induction segments generalizing start with
  | nil => rfl
  | cons s segments ih =>
      have hnext := fun length => ih (start + length)
      simp only [Nat.add_right_comm start _ offset] at hnext
      cases s with
      | text t => simp [hnext]
      | marker m => simp [hnext, Placed.shift, Nat.add_right_comm]

/-- A character in front of segments moves their markers by its size. -/
theorem placedMarkers_consChar (hsize : IsSize size) (start : Nat) (c : Char)
    (segments : List Segment) :
    placedMarkers size start (consChar c segments) =
      placedMarkers size (start + size [c]) segments := by
  match segments with
  | [] => rfl
  | .text t :: segments => simp [consChar, hsize.cons c t, Nat.add_assoc]
  | .marker m :: segments => simp [consChar]

/-- A text in front of segments moves their markers by its size. -/
theorem placedMarkers_consText (hsize : IsSize size) (start : Nat) (t : Text)
    (segments : List Segment) :
    placedMarkers size start (consText t segments) =
      placedMarkers size (start + size t) segments := by
  induction t generalizing start with
  | nil => simp [consText, hsize.nil]
  | cons c t ih =>
      rw [consText, List.foldr_cons, placedMarkers_consChar hsize, ← consText, ih, hsize.cons c t,
        Nat.add_assoc]

/-- Segments that are glued keep their markers, the later ones behind what the first make up. -/
theorem placedMarkers_glue (hsize : IsSize size) (start : Nat) (segments later : List Segment) :
    placedMarkers size start (glue segments later) =
      placedMarkers size start segments ++
        placedMarkers size (start + size (segments.flatMap source)) later := by
  fun_induction glue segments later generalizing start with
  | case1 later => simp [hsize.nil]
  | case2 t later => simp [placedMarkers_consText hsize, source]
  | case3 s segments later _ ih =>
      cases s with
      | text t => simp [ih, source, hsize.append, Nat.add_assoc]
      | marker m => simp [ih, source, hsize.append, Nat.add_assoc]

/-- A marker of a text is not empty and ends with the text or in front of its end. -/
theorem bounds_of_mem_placedMarkers (hsize : IsSize size) {t : Text} {p : Placed}
    (h : p ∈ placedMarkers size 0 (lex t)) : p.start < p.stop ∧ p.stop ≤ size t := by
  obtain ⟨hplace, hmarker⟩ := List.mem_filter.1 h
  obtain ⟨before, behind, hlex, hstart, hstop⟩ := mem_placeFrom hsize hplace
  have htext := congrArg size (flatMap_source_lex t)
  rw [hlex, List.flatMap_append, List.flatMap_cons, hsize.append, hsize.append] at htext
  obtain ⟨m, hm⟩ := Option.isSome_iff_exists.1 hmarker
  have hsource : 0 < size p.segment.source := by
    cases hsegment : p.segment with
    | text u => simp [hsegment] at hm
    | marker m => exact hsize.pos_of_ne_nil m.source_ne_nil
  omega

/-- The same for places that are counted in characters. -/
theorem bounds_of_mem_markerPlaces {t : Text} {p : Placed} (h : p ∈ markerPlaces t) :
    p.start < p.stop ∧ p.stop ≤ t.length :=
  bounds_of_mem_placedMarkers Text.isSize_length h

/-! ## Cutting a text in two -/

/-- The position lies strictly inside a marker of the text. -/
def CutsMarker (t : Text) (position : Nat) : Prop :=
  ∃ p ∈ markerPlaces t, p.start < position ∧ position < p.stop

instance (t : Text) (position : Nat) : Decidable (CutsMarker t position) :=
  inferInstanceAs (Decidable (∃ p ∈ markerPlaces t, p.start < position ∧ position < p.stop))

/-- A text that is cut at no marker is read as its two parts. -/
theorem lex_take_drop (t : Text) (start position : Nat)
    (h : ∀ p ∈ placedMarkers List.length start (lex t),
      ¬(p.start < start + position ∧ start + position < p.stop)) :
    lex t = glue (lex (t.take position)) (lex (t.drop position)) := by
  fun_induction lex t generalizing start position with
  | case1 => simp [glue]
  | case2 c t m rest hread ih =>
      rcases Nat.eq_zero_or_pos position with rfl | hpos
      · simp [lex_of_at? hread, glue]
      · -- The position lies behind the marker, so the marker belongs to the first part.
        have hmarker := h ⟨.marker m, start, start + m.source.length⟩ (by simp)
        have hle : m.source.length ≤ position := by
          simp only at hmarker
          omega
        obtain ⟨k, rfl⟩ := Nat.exists_eq_add_of_le hle
        have hrest := ih (start + m.source.length) k fun p hp => by
          rw [Nat.add_assoc]
          exact h p (by simp [hp])
        rw [← Marker.source_append_of_at? hread, List.take_length_add_append,
          List.drop_length_add_append, lex_source_append (Marker.wellFormed_of_at? hread),
          glue_marker_cons, ← hrest]
  | case3 c t hread ih =>
      cases position with
      | zero => simp [lex_of_at?_eq_none hread, glue]
      | succ k =>
          have hrest := ih (start + 1) k fun p hp => by
            rw [Nat.add_right_comm, Nat.add_assoc start k 1]
            exact h p (by rwa [placedMarkers_consChar Text.isSize_length])
          -- A marker that is read in the first part would be read in the whole text.
          have hnone : Marker.at? (c :: t.take k) = none := by
            rw [Option.eq_none_iff_forall_ne_some]
            intro m hm
            have hlonger := Marker.at?_append hm (t.drop k)
            simp [hread] at hlonger
          rw [List.take_succ_cons, List.drop_succ_cons, lex_of_at?_eq_none hnone, ← consChar_glue,
            ← hrest]

/-- The markers of a text that is cut at none of them are those of its two parts. -/
theorem markerPlaces_eq_append {t : Text} {position : Nat} (hle : position ≤ t.length)
    (h : ¬CutsMarker t position) :
    markerPlaces t = markerPlaces (t.take position) ++
      (markerPlaces (t.drop position)).map (Placed.shift position) := by
  have hcut : ∀ p ∈ markerPlaces t, ¬(p.start < 0 + position ∧ 0 + position < p.stop) := by
    intro p hp
    rw [Nat.zero_add]
    exact fun hinside => h ⟨p, hp, hinside⟩
  have hlength : (t.take position).length = position := by simp [hle]
  rw [markerPlaces, lex_take_drop t 0 position hcut, placedMarkers_glue Text.isSize_length,
    flatMap_source_lex, hlength, placedMarkers_add]
  rfl

/-- The first part of a text that is cut at no marker has the markers in front of the cut. -/
theorem markerPlaces_take {t : Text} {position : Nat} (hle : position ≤ t.length)
    (h : ¬CutsMarker t position) :
    markerPlaces (t.take position) =
      (markerPlaces t).filter fun p => decide (p.stop ≤ position) := by
  have hfront : ∀ p ∈ markerPlaces (t.take position), p.stop ≤ position := by
    intro p hp
    have hbounds := bounds_of_mem_markerPlaces hp
    rw [List.length_take] at hbounds
    omega
  have hbehind : ∀ p ∈ (markerPlaces (t.drop position)).map (Placed.shift position),
      ¬p.stop ≤ position := by
    intro p hp
    obtain ⟨q, hq, rfl⟩ := List.mem_map.1 hp
    have hbounds := bounds_of_mem_markerPlaces hq
    simp only [Placed.shift]
    omega
  rw [markerPlaces_eq_append hle h, List.filter_append,
    List.filter_eq_self.2 (by simpa using hfront),
    List.filter_eq_nil_iff.2 (by simpa using hbehind), List.append_nil]

/-- The second part of a text that is cut at no marker has the markers behind the cut. -/
theorem markerPlaces_drop {t : Text} {position : Nat} (hle : position ≤ t.length)
    (h : ¬CutsMarker t position) :
    (markerPlaces (t.drop position)).map (Placed.shift position) =
      (markerPlaces t).filter fun p => decide (position ≤ p.start) := by
  have hfront : ∀ p ∈ markerPlaces (t.take position), ¬position ≤ p.start := by
    intro p hp
    have hbounds := bounds_of_mem_markerPlaces hp
    rw [List.length_take] at hbounds
    omega
  have hbehind : ∀ p ∈ (markerPlaces (t.drop position)).map (Placed.shift position),
      position ≤ p.start := by
    intro p hp
    obtain ⟨q, -, rfl⟩ := List.mem_map.1 hp
    exact Nat.le_add_left _ _
  rw [markerPlaces_eq_append hle h, List.filter_append,
    List.filter_eq_nil_iff.2 (by simpa using hfront),
    List.filter_eq_self.2 fun p hp => decide_eq_true (hbehind p hp), List.nil_append]

end Segment

end MarkedVerse
