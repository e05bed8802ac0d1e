import SlotSwap.Proofs.Json.Lookahead

/-! Lists that hold a value no cell accepts.

A list is refused at its first such value, for the reason that the value alone is refused, and
what stands behind the value is not looked at (`first_refused_decides`). The value itself must
be told from what follows, so that a number does not go on there; the reader of a cell is then
steady on it, and the cells in front of it only lead up to it. -/
namespace SlotSwap.Json

/-! ### Refused values -/

section Refused
variable {text rest : List Char} {fault : Fault} {why : Refusal}

/-- A value is refused before the end of the text is looked for. -/
theorem entire_eq_refused_iff {α : Type} {read : Reader α} {text : String} :
    entire read text = .error (.refused why) ↔ read text.toList = .error (.refused why) := by
  simp only [entire, bind, Except.bind]
  constructor
  · intro h
    split at h
    · next hread =>
      cases h
      exact hread
    · split at h
      · cases h
      · cases h
  · intro h
    rw [h]

/-- What may stand behind an element of a list goes on with no number. -/
theorem ends_of_head (h : ∀ c, rest.head? = some c → c = ',' ∨ c = ']' ∨ c ∈ blankChars) :
    Ends rest := by
  cases rest with
  | nil => exact ends_nil
  | cons c rest =>
    rcases h c rfl with rfl | rfl | hblank
    · exact ends_comma rest
    · exact ends_bracket rest
    · exact ends_blank hblank rest

/-- Behind a value that ends there, nothing changes that it is refused. -/
theorem readCell_refused_append (h : readCell text = .error (.refused why)) (hrest : Ends rest) :
    readCell (text ++ rest) = .error (.refused why) := by
  have hsettled : Settled rest (readCell text) := by
    rw [h]
    exact hrest
  rw [(steady_readCell hsettled).2, h]
  rfl

/-- What is refused as a cell is a value. -/
theorem begins_of_refused (h : readCell text = .error (.refused why)) : Begins text := by
  cases hskip : skipBlanks text with
  | nil =>
    rw [readCell, hskip] at h
    cases h
  | cons c left =>
    refine ⟨c, left, hskip, ?_⟩
    rintro rfl
    rw [readCell, hskip] at h
    cases h

theorem readCells_error (h : readCell text = .error fault) : readCells text = .error fault := by
  rw [readCells_eq, h]
  rfl

end Refused

/-! ### Lists with a refused value -/

section List
variable {texts : List (List Char)} {element rest : List Char} {why : Refusal}

/-- The induction is on the cells in front; that a value begins behind each comma is carried
along, as the reader looks for one there. -/
theorem readCells_refused (htexts : ∀ text ∈ texts, ∃ cell : Cell, CellText text cell.value.toInt)
    (helement : readCell (element ++ rest) = .error (.refused why)) :
    Begins ([','].intercalate (texts ++ [element]) ++ rest) ∧
      readCells ([','].intercalate (texts ++ [element]) ++ rest) = .error (.refused why) := by
  induction texts with
  | nil =>
    rw [List.nil_append, List.intercalate_singleton]
    exact ⟨begins_of_refused helement, readCells_error helement⟩
  | cons text texts ih =>
    obtain ⟨cell, hcell⟩ := htexts text (List.mem_cons_self ..)
    obtain ⟨hbegins, hread⟩ := ih fun text htext => htexts text (List.mem_cons_of_mem _ htext)
    have hne : texts ++ [element] ≠ [] := by simp
    rw [List.cons_append, List.intercalate_cons_of_ne_nil hne, List.append_assoc,
      List.append_assoc, List.singleton_append]
    refine ⟨hcell.begins _, ?_⟩
    rw [readCells_of_cellText hcell hbegins, hread]
    rfl

end List

/-- **The first refused element decides.** Behind elements that are accepted as cells, an
element that is refused has the whole list refused, for the same reason and so with the same
message, whatever follows it, well-formed or not. Only must it end where it ends alone: the
text ends there, or a comma, a closing bracket or a blank follows. -/
theorem first_refused_decides {accepted : List String} {element rest : String} {why : Refusal}
    (haccepted : ∀ text ∈ accepted, ∃ cell, Cell.ofJson text = .ok cell)
    (hrefused : Cell.ofJson element = .error (.refused why))
    (hrest : ∀ c, rest.toList.head? = some c → c = ',' ∨ c = ']' ∨ c ∈ blankChars) :
    Cell.listOfJson ("[" ++ String.intercalate "," (accepted ++ [element]) ++ rest) =
      .error (.refused why) := by
  have htexts : ∀ text ∈ accepted.map String.toList,
      ∃ cell : Cell, CellText text cell.value.toInt := by
    intro text htext
    obtain ⟨text, hmem, rfl⟩ := List.mem_map.mp htext
    obtain ⟨cell, hcell⟩ := haccepted text hmem
    exact ⟨cell, ofJson_eq_ok_iff.mp hcell⟩
  have helement := readCell_refused_append (entire_eq_refused_iff.mp hrefused)
    (ends_of_head hrest)
  obtain ⟨hbegins, hread⟩ := readCells_refused htexts helement
  have hlist : ("[" ++ String.intercalate "," (accepted ++ [element]) ++ rest).toList =
      '[' :: ([','].intercalate (accepted.map String.toList ++ [element.toList]) ++
        rest.toList) := by
    simp [String.toList_intercalate]
  rw [Cell.listOfJson, entire_eq_refused_iff, hlist,
    readList_of_cons (skipBlanks_cons (by decide) _), if_pos rfl, readInside_of_begins hbegins]
  exact hread

/-- A number out of range behind two cells; what follows it is no JSON at all. -/
theorem first_refused_decides_outOfRange :
    Cell.listOfJson ("[" ++ String.intercalate "," (["1", " -2 "] ++ ["2147483648"]) ++ ",]01") =
      .error (.refused (.outOfRange 0x80000000)) := by
  apply first_refused_decides
  · intro text htext
    rcases List.mem_pair.mp htext with rfl | rfl
    · exact ⟨⟨1⟩, by decide +kernel⟩
    · exact ⟨⟨-2⟩, by decide +kernel⟩
  · decide +kernel
  · intro c hc
    cases hc
    exact .inl rfl

end SlotSwap.Json
