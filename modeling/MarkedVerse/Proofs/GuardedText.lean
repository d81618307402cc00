import MarkedVerse.Html.Token
import MarkedVerse.Proofs.Runs

/-!
# Guarded text

A text that is guarded and then read is the text again, except that null characters are replaced
(`Reference.decode_guard`). What is guarded does not end a run of text and is no line end.
-/

namespace MarkedVerse

namespace Html

/-! ## References -/

namespace Reference

variable {name digits s t : Text}

/-- Behind as many characters as are dropped, reading goes on. -/
theorem decodeFrom_append (inValue : Bool) (u t : Text) :
    decodeFrom inValue u.length (u ++ t) = decodeFrom inValue 0 t := by
  induction u with
  | nil => rfl
  | cons c u ih => exact ih

/-- A reference is read as what it stands for. -/
theorem decodeFrom_reference {reference : Text}
    (h : at? false (reference ++ t) = some (s, reference.length)) :
    decodeFrom false 0 ('&' :: reference ++ t) = s ++ decodeFrom false 0 t := by
  rw [List.cons_append, decodeFrom, if_pos rfl, h]
  exact congrArg (s ++ ·) (decodeFrom_append false reference t)

/-- A name with its semicolon is a reference. -/
theorem at?_name (hname : name ≠ []) (hword : ∀ c ∈ name, c.isAlphanum = true)
    (hstands : closedName? name = some s) :
    at? false (name ++ [';'] ++ t) = some (s, (name ++ [';']).length) := by
  obtain ⟨c, rest, rfl⟩ := List.exists_cons_of_ne_nil hname
  have hc : c ≠ '#' := by
    rintro rfl
    exact absurd (hword '#' List.mem_cons_self) (by decide)
  have hrun : (c :: rest ++ [';'] ++ t).takeWhile Char.isAlphanum = c :: rest := by
    rw [List.append_assoc]
    exact (Text.run_append hword (by simp)).1
  have hbehind : (c :: rest ++ [';'] ++ t).drop (c :: rest).length = ';' :: t := by
    rw [List.append_assoc, List.drop_left, List.singleton_append]
  have hnamed : named? false (c :: rest ++ [';'] ++ t) = some (s, (c :: rest ++ [';']).length) := by
    rw [named?, hrun, hbehind, hstands, List.length_append]
    rfl
  rw [List.cons_append, List.cons_append] at hnamed ⊢
  rw [at?, hnamed]
  all_goals
    intro u hu
    exact hc (List.cons.inj hu).1

/-- Decimal digits between a sharp and a semicolon are a reference. -/
theorem at?_number (hne : digits ≠ []) (hdigits : ∀ d ∈ digits, d.isDigit = true) :
    at? false ('#' :: digits ++ [';'] ++ t) =
      some ([numbered (ofDigits 10 digits)], ('#' :: digits ++ [';']).length) := by
  obtain ⟨d, rest, rfl⟩ := List.exists_cons_of_ne_nil hne
  have hd := hdigits d List.mem_cons_self
  have hrun : (('#' :: (d :: rest) ++ [';'] ++ t).drop 1).takeWhile Char.isDigit = d :: rest := by
    rw [List.append_assoc, List.cons_append, List.drop_one, List.tail_cons]
    exact (Text.run_append hdigits (by simp)).1
  have hbehind : ('#' :: (d :: rest) ++ [';'] ++ t).drop (1 + (d :: rest).length) = ';' :: t := by
    rw [Nat.add_comm, List.append_assoc, List.cons_append, List.drop_succ_cons, List.drop_left,
      List.singleton_append]
  have hnumber : byNumber? 10 1 Char.isDigit ('#' :: (d :: rest) ++ [';'] ++ t) =
      some ([numbered (ofDigits 10 (d :: rest))], ('#' :: (d :: rest) ++ [';']).length) := by
    rw [byNumber?, hrun, hbehind]
    simp [Nat.add_comm]
  rw [List.cons_append, List.cons_append, List.cons_append, List.cons_append] at hnumber ⊢
  rw [at?, hnumber]
  all_goals
    intro u hu
    obtain ⟨rfl, -⟩ := List.cons.inj hu
    exact absurd hd (by decide)

/-- A guarded character is a reference, whatever follows it, or it is the character itself, which
then begins none. -/
theorem guardChar_cases (c : Char) :
    (∃ reference, guardChar c = '&' :: reference ∧ '&' ∉ reference ∧
      ∀ t, at? false (reference ++ t) = some ([keepChar c], reference.length)) ∨
      guardChar c = [c] ∧ c ≠ '&' ∧ keepChar c = c := by
  have hname (name : Text) (d : Char) (hne : name ≠ [])
      (hword : name.all Char.isAlphanum = true) (hstands : closedName? name = some [d]) :
      ∃ reference, '&' :: (name ++ [';']) = '&' :: reference ∧ '&' ∉ reference ∧
        ∀ t, at? false (reference ++ t) = some ([d], reference.length) := by
    have hword := List.all_eq_true.1 hword
    refine ⟨_, rfl, fun hmem => ?_, fun t => at?_name hne hword hstands⟩
    have hmem : '&' ∈ name := by simpa using hmem
    exact absurd (hword _ hmem) (by decide)
  have hnumber (digits : Text) (d : Char) (hne : digits ≠ [])
      (hdigits : digits.all Char.isDigit = true) (hstands : numbered (ofDigits 10 digits) = d) :
      ∃ reference, '&' :: ('#' :: digits ++ [';']) = '&' :: reference ∧ '&' ∉ reference ∧
        ∀ t, at? false (reference ++ t) = some ([d], reference.length) := by
    have hdigits := List.all_eq_true.1 hdigits
    refine ⟨_, rfl, fun hmem => ?_, fun t => hstands ▸ at?_number hne hdigits⟩
    have hmem : '&' ∈ digits := by simpa using hmem
    exact absurd (hdigits _ hmem) (by decide)
  unfold guardChar
  split
  case h_1 => exact .inl (hname "lt".toList '<' (by decide) (by decide) rfl)
  case h_2 => exact .inl (hname "gt".toList '>' (by decide) (by decide) rfl)
  case h_3 => exact .inl (hname "quot".toList '"' (by decide) (by decide) rfl)
  case h_4 => exact .inl (hname "apos".toList '\'' (by decide) (by decide) rfl)
  case h_5 => exact .inl (hname "grave".toList '`' (by decide) (by decide) rfl)
  case h_6 => exact .inl (hname "amp".toList '&' (by decide) (by decide) rfl)
  case h_7 => exact .inl (hnumber "47".toList '/' (by decide) (by decide) (by decide))
  case h_8 => exact .inl (hnumber "61".toList '=' (by decide) (by decide) (by decide))
  case h_9 => exact .inl (hnumber "32".toList ' ' (by decide) (by decide) (by decide))
  case h_10 => exact .inl (hnumber "9".toList '\t' (by decide) (by decide) (by decide))
  case h_11 => exact .inl (hnumber "10".toList '\n' (by decide) (by decide) (by decide))
  case h_12 => exact .inl (hnumber "12".toList '\x0c' (by decide) (by decide) (by decide))
  case h_13 => exact .inl (hnumber "13".toList '\r' (by decide) (by decide) (by decide))
  case h_14 => exact .inl (hnumber "65533".toList '\uFFFD' (by decide) (by decide) (by decide))
  case h_15 _ _ _ _ _ hampersand _ _ _ _ _ _ _ hnull =>
    exact .inr ⟨rfl, hampersand, if_neg hnull⟩

/-- A guarded character is read as the character. -/
theorem decodeFrom_guardChar (c : Char) (t : Text) :
    decodeFrom false 0 (guardChar c ++ t) = keepChar c :: decodeFrom false 0 t := by
  obtain ⟨reference, hguard, -, hread⟩ | ⟨hguard, hampersand, hkeep⟩ := guardChar_cases c
  · rw [hguard]
    exact decodeFrom_reference (hread t)
  · rw [hguard, List.singleton_append, decodeFrom, if_neg hampersand, hkeep]

/-- A guarded text is read as the text. -/
theorem decode_guard (t : Text) : decode (guard t) = t.map keepChar := by
  rw [decode]
  induction t with
  | nil => rfl
  | cons c t ih => rw [guard, List.flatMap_cons, decodeFrom_guardChar, ← guard, ih, List.map_cons]

end Reference

/-! ## Places in a text -/

/-- In a guarded character no bracket, quote, return or null character is left. -/
theorem of_mem_guardChar {c d : Char} (h : d ∈ guardChar c) :
    d ∉ ['<', '>', '"', '\'', '\r', '\x00'] := by
  have hreference : ∀ {reference : Text},
      (reference.all fun d => decide (d ∉ ['<', '>', '"', '\'', '\r', '\x00'])) = true →
      d ∈ reference → d ∉ ['<', '>', '"', '\'', '\r', '\x00'] :=
    fun hall hd => of_decide_eq_true (List.all_eq_true.1 hall d hd)
  unfold guardChar at h
  split at h
  case h_15 hopening hclosing hquote hapostrophe _ _ _ _ _ _ _ _ hreturn hnull =>
    rw [List.mem_singleton] at h
    subst h
    simp only [List.mem_cons, List.not_mem_nil, or_false, not_or]
    exact ⟨hopening, hclosing, hquote, hapostrophe, hreturn, hnull⟩
  all_goals exact hreference (by decide) h

theorem of_mem_guard {t : Text} {d : Char} (h : d ∈ guard t) :
    d ∉ ['<', '>', '"', '\'', '\r', '\x00'] := by
  obtain ⟨c, -, hd⟩ := List.mem_flatMap.1 h
  exact of_mem_guardChar hd

/-- A guarded text does not end a run of text. -/
theorem endsText_of_mem_guard {t : Text} {d : Char} (h : d ∈ guard t) :
    Token.endsText d = false := by
  have hd := of_mem_guard h
  simp only [List.mem_cons, not_or] at hd
  simp [Token.endsText, hd]

end Html

end MarkedVerse
