import SlotSwap.Json.Cells
import SlotSwap.Proofs.Json.Number

/-! The texts that hold cells.

A cell is a numeral among blanks, and a list is such numerals with single commas between
them inside brackets: `CellText` and `ListText` say so of a text without reading it. The
readers accept these texts and no others. Each reader is met twice, once for the texts it
must accept with anything that may stand behind them, and once for what a text it accepted
must have been; `accepted_texts` puts both together for whole texts. -/
namespace SlotSwap.Json
open Text
open Decimal (Leading Numeral)

/-! ### The grammar -/

/-- The blanks: space, tab, carriage return and line feed. -/
def blankChars : List Char := [' ', '\t', '\r', '\n']

/-- Any run of blanks, also none. -/
def Blanks (text : List Char) : Prop := ∀ c ∈ text, c ∈ blankChars

/-- A numeral among blanks. -/
inductive CellText : List Char → Int → Prop where
  | mk {before numeral behind : List Char} {value : Int} (hbefore : Blanks before)
      (h : Numeral numeral value) (hbehind : Blanks behind) :
      CellText (before ++ numeral ++ behind) value

/-- Numerals among blanks, at least one, with a comma between neighbours. -/
inductive Items : List Char → List Int → Prop where
  | last {text : List Char} {value : Int} (h : CellText text value) : Items text [value]
  | more {text rest : List Char} {value : Int} {values : List Int} (h : CellText text value)
      (hrest : Items rest values) : Items (text ++ ',' :: rest) (value :: values)

/-- What stands between the brackets of a list: blanks alone, or items. -/
inductive Inside : List Char → List Int → Prop where
  | none {text : List Char} (h : Blanks text) : Inside text []
  | items {text : List Char} {values : List Int} (h : Items text values) : Inside text values

/-- A list among blanks. -/
inductive ListText : List Char → List Int → Prop where
  | mk {before inside behind : List Char} {values : List Int} (hbefore : Blanks before)
      (h : Inside inside values) (hbehind : Blanks behind) :
      ListText (before ++ '[' :: (inside ++ ']' :: behind)) values

/-! ### Blanks -/

theorem isBlank_iff {c : Char} : isBlank c = true ↔ c ∈ blankChars := by
  simp only [isBlank, blankChars, Bool.or_eq_true, decide_eq_true_eq, List.mem_cons,
    List.not_mem_nil, or_false]
  tauto

theorem skipBlanks_append {before : List Char} (h : Blanks before) (text : List Char) :
    skipBlanks (before ++ text) = skipBlanks text :=
  List.dropWhile_append_of_pos fun c hc => isBlank_iff.mpr (h c hc)

theorem skipBlanks_cons {c : Char} (h : c ∉ blankChars) (text : List Char) :
    skipBlanks (c :: text) = c :: text :=
  List.dropWhile_cons_of_neg fun hblank => h (isBlank_iff.mp hblank)

theorem skipBlanks_behind {before : List Char} (h : Blanks before) {c : Char}
    (hc : c ∉ blankChars) (text : List Char) : skipBlanks (before ++ c :: text) = c :: text := by
  rw [skipBlanks_append h, skipBlanks_cons hc]

/-- The blanks that are skipped, and what is left. -/
theorem exists_blanks (text : List Char) :
    ∃ before, Blanks before ∧ text = before ++ skipBlanks text :=
  ⟨text.takeWhile isBlank, fun _ hc => isBlank_iff.mp (List.mem_takeWhile_imp hc),
    List.takeWhile_append_dropWhile.symm⟩

theorem skipBlanks_eq_nil_iff {text : List Char} : skipBlanks text = [] ↔ Blanks text := by
  simp only [skipBlanks, List.dropWhile_eq_nil_iff, isBlank_iff, Blanks]

theorem blanks_nil : Blanks [] := by
  intro c hc
  cases hc

theorem blank_cases {c : Char} (h : c ∈ blankChars) :
    c = ' ' ∨ c = '\t' ∨ c = '\r' ∨ c = '\n' := by
  simpa [blankChars] using h

/-- No blank goes on with a number. -/
theorem ends_blank {c : Char} (h : c ∈ blankChars) (rest : List Char) : Ends (c :: rest) := by
  intro d hd
  obtain rfl : c = d := Option.some.inj hd
  rcases blank_cases h with rfl | rfl | rfl | rfl
  · decide
  · decide
  · decide
  · decide

theorem Blanks.ends_append {blanks rest : List Char} (h : Blanks blanks) (hrest : Ends rest) :
    Ends (blanks ++ rest) := by
  cases blanks with
  | nil => exact hrest
  | cons c blanks => exact ends_blank (h c (List.mem_cons_self ..)) _

theorem ends_nil : Ends [] := by
  intro c hc
  cases hc

theorem ends_comma (rest : List Char) : Ends (',' :: rest) := by
  intro c hc
  cases hc
  decide

theorem ends_bracket (rest : List Char) : Ends (']' :: rest) := by
  intro c hc
  cases hc
  decide

/-- A value can begin behind the blanks: the text goes on, and no list ends there. -/
def Begins (text : List Char) : Prop := ∃ c rest, skipBlanks text = c :: rest ∧ c ≠ ']'

/-- A numeral begins with a minus sign or with a digit. -/
theorem head_of_numeral {numeral : List Char} {value : Int} (h : Numeral numeral value) :
    ∃ c rest, numeral = c :: rest ∧ (c = '-' ∨ c.isDigit = true) := by
  cases h with
  | zero => exact ⟨'0', [], rfl, .inr (by decide)⟩
  | positive h =>
    obtain ⟨c, rest, rfl⟩ := List.exists_cons_of_ne_nil h.ne_nil
    exact ⟨c, rest, rfl, .inr (h.digits c (List.mem_cons_self ..))⟩
  | negative h => exact ⟨'-', _, rfl, .inl rfl⟩

theorem not_blank_of_isDigit {c : Char} (h : c.isDigit = true) : c ∉ blankChars := by
  intro hblank
  rcases blank_cases hblank with rfl | rfl | rfl | rfl
  · cases h
  · cases h
  · cases h
  · cases h

/-- No blank stands in front of a numeral. -/
theorem skipBlanks_numeral {numeral : List Char} {value : Int} (h : Numeral numeral value)
    (rest : List Char) : skipBlanks (numeral ++ rest) = numeral ++ rest := by
  obtain ⟨c, digits, rfl, rfl | hc⟩ := head_of_numeral h
  · exact skipBlanks_cons (by decide) _
  · exact skipBlanks_cons (not_blank_of_isDigit hc) _

theorem CellText.begins {text : List Char} {value : Int} (h : CellText text value)
    (rest : List Char) : Begins (text ++ rest) := by
  obtain @⟨before, numeral, behind, value, hbefore, hnumeral, hbehind⟩ := h
  obtain ⟨c, digits, rfl, hc⟩ := head_of_numeral hnumeral
  refine ⟨c, digits ++ (behind ++ rest), ?_, ?_⟩
  · rw [List.append_assoc, List.append_assoc, skipBlanks_append hbefore,
      skipBlanks_numeral hnumeral]
    rfl
  · rintro rfl
    rcases hc with hc | hc
    · cases hc
    · cases hc

theorem Items.ne_nil {items : List Char} {values : List Int} (h : Items items values) :
    values ≠ [] := by
  cases h with
  | last h => exact List.cons_ne_nil _ _
  | more h hrest => exact List.cons_ne_nil _ _

theorem Items.begins {items : List Char} {values : List Int} (h : Items items values)
    (rest : List Char) : Begins (items ++ rest) := by
  cases h with
  | last h => exact h.begins rest
  | more h hrest =>
    rw [List.append_assoc]
    exact h.begins _

/-! ### Cells -/

section Cell
variable {cell : Cell} {text behind : List Char}

theorem readDatum_of_isDigit {c : Char} (hc : c.isDigit = true) (rest : List Char) :
    readDatum (c :: rest) = readNumber false (c :: rest) := by
  have hminus : c ≠ '-' := by
    rintro rfl
    cases hc
  rw [readDatum, if_neg hminus, if_pos hc]

theorem readDatum_withSign {digits : List Char} (h : Leading digits) (negative : Bool)
    (rest : List Char) :
    readDatum (withSign negative digits ++ rest) = readNumber negative (digits ++ rest) := by
  cases negative with
  | true => rfl
  | false =>
    obtain ⟨c, digits, rfl⟩ := List.exists_cons_of_ne_nil h.ne_nil
    exact readDatum_of_isDigit (h.digits c (List.mem_cons_self ..)) _

theorem readDatum_of_leading {digits : List Char} (h : Leading digits) (negative : Bool)
    (hvalue : cell.value.toInt = signed negative (Decimal.valueOf digits))
    (hbehind : Ends behind) :
    ∃ datum, readDatum (withSign negative digits ++ behind) = .ok (datum, behind) ∧
      Cell.ofDatum datum = .ok cell := by
  obtain ⟨hleast, hlargest⟩ := cell.holds_value
  have hpos := Decimal.valueOf_pos h
  have hfits : Decimal.valueOf digits < wordLimit := by
    unfold wordLimit
    unfold signed at hvalue
    split at hvalue
    · omega
    · omega
  have hdepth (hnegative : negative = true) :
      1 ≤ Decimal.valueOf digits ∧ Decimal.valueOf digits ≤ signedDepth := by
    rw [hnegative, signed, if_pos rfl] at hvalue
    unfold signedDepth
    omega
  refine ⟨whole negative (Decimal.valueOf digits), ?_, ?_⟩
  · rw [readDatum_withSign h, readNumber_of_ends h hbehind hfits]
  · rw [ofDatum_whole hfits hdepth, Cell.ofWhole_eq_ok_iff, hvalue]

/-- A numeral that a cell can hold is read to its end. -/
theorem readDatum_of_numeral {numeral : List Char} (h : Numeral numeral cell.value.toInt)
    (hbehind : Ends behind) :
    ∃ datum, readDatum (numeral ++ behind) = .ok (datum, behind) ∧
      Cell.ofDatum datum = .ok cell := by
  generalize hvalue : cell.value.toInt = value at h
  cases h with
  | zero =>
    refine ⟨whole false 0, ?_, Cell.ofWhole_eq_ok_iff.mpr hvalue⟩
    rw [List.cons_append, readDatum_of_isDigit (by decide), List.nil_append,
      readNumber_zero hbehind.noDigit, readEnding_of_ends hbehind]
  | positive h => exact readDatum_of_leading h false hvalue hbehind
  | negative h => exact readDatum_of_leading h true hvalue hbehind

theorem readWord_ok {datum read : Datum} {letters : List Char}
    (h : readWord datum letters text = .ok (read, behind)) : read = datum := by
  induction letters generalizing text with
  | nil =>
    cases h
    rfl
  | cons letter letters ih =>
    cases text with
    | nil => cases h
    | cons c rest =>
      simp only [readWord] at h
      split at h
      · exact ih h
      · cases h

/-- A value is a number, or one that no cell accepts. -/
theorem readDatum_ok {datum : Datum} (h : readDatum text = .ok (datum, behind)) :
    (∃ negative digits, text = withSign negative digits ∧
      readNumber negative digits = .ok (datum, behind)) ∨
    ∃ why, Cell.ofDatum datum = .error why := by
  cases text with
  | nil => cases h
  | cons c rest =>
    rw [readDatum] at h
    split at h
    · next hc =>
      subst hc
      exact .inl ⟨true, rest, rfl, h⟩
    · split at h
      · exact .inl ⟨false, c :: rest, rfl, h⟩
      · right
        split at h
        · exact readWord_ok h ▸ ⟨_, rfl⟩
        · split at h
          · exact readWord_ok h ▸ ⟨_, rfl⟩
          · split at h
            · exact readWord_ok h ▸ ⟨_, rfl⟩
            · split at h
              · simp only [bind, Except.bind] at h
                split at h
                · cases h
                · cases h
                  exact ⟨_, rfl⟩
              · split at h
                · cases h
                  exact ⟨_, rfl⟩
                · split at h
                  · cases h
                    exact ⟨_, rfl⟩
                  · cases h

/-- A value that a cell accepts is a numeral. -/
theorem numeral_of_readDatum {datum : Datum} (h : readDatum text = .ok (datum, behind))
    (hcell : Cell.ofDatum datum = .ok cell) :
    ∃ numeral, text = numeral ++ behind ∧ Numeral numeral cell.value.toInt ∧ Ends behind := by
  rcases readDatum_ok h with ⟨negative, digits, rfl, hread⟩ | ⟨why, hrefused⟩
  · obtain ⟨digits, rfl, hends, hnumeral⟩ := numeral_of_readNumber hread hcell
    refine ⟨withSign negative digits, ?_, hnumeral, hends⟩
    cases negative with
    | false => rfl
    | true => rfl
  · rw [hrefused] at hcell
    cases hcell

/-- A numeral among blanks is read as its cell, the blanks behind it apart. -/
theorem readCell_of_numeral {before numeral : List Char} (hbefore : Blanks before)
    (h : Numeral numeral cell.value.toInt) (hbehind : Ends behind) :
    readCell (before ++ numeral ++ behind) = .ok (cell, behind) := by
  obtain ⟨datum, hread, hcell⟩ := readDatum_of_numeral h hbehind
  simp only [readCell, List.append_assoc, skipBlanks_append hbefore, skipBlanks_numeral h, hread,
    hcell, bind, Except.bind, pure, Except.pure]

theorem numeral_of_readCell (h : readCell text = .ok (cell, behind)) :
    ∃ before numeral, text = before ++ numeral ++ behind ∧ Blanks before ∧
      Numeral numeral cell.value.toInt ∧ Ends behind := by
  obtain ⟨before, hbefore, htext⟩ := exists_blanks text
  simp only [readCell, bind, Except.bind] at h
  split at h
  · cases h
  · next read hread =>
    split at h
    · next hcell =>
      cases h
      obtain ⟨numeral, hnumeral, hvalue, hends⟩ := numeral_of_readDatum hread hcell
      refine ⟨before, numeral, ?_, hbefore, hvalue, hends⟩
      rw [List.append_assoc, ← hnumeral]
      exact htext
    · cases h

end Cell

/-! ### Lists -/

section List
variable {text behind rest : List Char} {cells : List Cell}

/-- Behind a comma another cell must come; it is left where it is. -/
def readBehindComma : Reader Bool := fun text =>
  match skipBlanks text with
  | [] => .error (.unfinished .value)
  | ']' :: _ => .error (.malformed .trailingComma)
  | _ => .ok (true, text)

theorem readBehindComma_of_cons {c : Char} {rest : List Char} (h : skipBlanks text = c :: rest) :
    readBehindComma text =
      if c = ']' then .error (.malformed .trailingComma) else .ok (true, text) := by
  simp only [readBehindComma, h]
  split
  · next heq => cases heq
  · next heq =>
    cases heq
    rfl
  · next hbracket =>
    rw [if_neg]
    rintro rfl
    exact hbracket rest rfl

theorem readSeparator_of_cons {c : Char} {rest : List Char} (h : skipBlanks text = c :: rest) :
    readSeparator text =
      if c = ']' then .ok (false, rest)
      else if c = ',' then readBehindComma rest
      else .error (.malformed .noCommaOrEnd) := by
  simp only [readSeparator, h]
  split
  · next heq => cases heq
  · next heq =>
    cases heq
    rfl
  · next heq =>
    cases heq
    rfl
  · next hbracket hcomma =>
    rw [if_neg, if_neg]
    · rintro rfl
      exact hcomma rest rfl
    · rintro rfl
      exact hbracket rest rfl

theorem readSeparator_bracket {blanks : List Char} (h : Blanks blanks) (rest : List Char) :
    readSeparator (blanks ++ ']' :: rest) = .ok (false, rest) := by
  rw [readSeparator_of_cons (skipBlanks_behind h (by decide) rest), if_pos rfl]

/-- A comma must have a value behind it. -/
theorem readSeparator_comma {blanks : List Char} (h : Blanks blanks) (hrest : Begins rest) :
    readSeparator (blanks ++ ',' :: rest) = .ok (true, rest) := by
  obtain ⟨c, left, hskip, hc⟩ := hrest
  rw [readSeparator_of_cons (skipBlanks_behind h (by decide) rest), if_neg (by decide), if_pos rfl,
    readBehindComma_of_cons hskip, if_neg hc]

theorem separator_of_readSeparator {more : Bool}
    (h : readSeparator text = .ok (more, rest)) :
    ∃ blanks, Blanks blanks ∧ text = blanks ++ (if more then ',' else ']') :: rest := by
  obtain ⟨blanks, hblanks, htext⟩ := exists_blanks text
  refine ⟨blanks, hblanks, ?_⟩
  unfold readSeparator at h
  split at h
  · cases h
  · next hskip =>
    cases h
    rwa [hskip] at htext
  · next hskip =>
    split at h
    · cases h
    · cases h
    · cases h
      rwa [hskip] at htext
  · cases h

/-- A list from its first cell on, once it is known whether more of them follow. -/
def readOthers (cell : Cell) (more : Bool) : Reader (List Cell) := fun text =>
  if more then do
    let (cells, rest) ← readCells text
    return (cell :: cells, rest)
  else return ([cell], text)

/-- A list from its first cell on, which stands in front of the text. -/
def readBehindCell (cell : Cell) : Reader (List Cell) := fun text => do
  let (more, rest) ← readSeparator text
  readOthers cell more rest

/-- The cells of a list as one step and what it leaves. -/
theorem readCells_eq (text : List Char) :
    readCells text = (do
      let (cell, behind) ← readCell text
      readBehindCell cell behind) := by
  rw [readCells]
  simp only [readBehindCell, bind, Except.bind]
  split
  · next hcell => rw [hcell]
  · next hcell =>
    rw [hcell]
    simp only
    split
    · next hseparator => rw [hseparator]
    · next hseparator =>
      rw [hseparator]
      rfl
    · next hseparator =>
      rw [hseparator]
      rfl

theorem readCells_last {cell : Cell} (hcell : readCell text = .ok (cell, behind))
    (hseparator : readSeparator behind = .ok (false, rest)) :
    readCells text = .ok ([cell], rest) := by
  simp only [readCells_eq text, hcell, readBehindCell, hseparator, bind, Except.bind]
  rfl

theorem readCells_more {cell : Cell} (hcell : readCell text = .ok (cell, behind))
    (hseparator : readSeparator behind = .ok (true, rest)) :
    readCells text = do
      let (cells, rest) ← readCells rest
      return (cell :: cells, rest) := by
  simp only [readCells_eq text, hcell, readBehindCell, hseparator, bind, Except.bind]
  rfl

/-- A cell that another one follows is read, and the list goes on behind its comma. -/
theorem readCells_of_cellText {cell : Cell} (h : CellText text cell.value.toInt)
    (hrest : Begins rest) :
    readCells (text ++ ',' :: rest) = do
      let (cells, rest) ← readCells rest
      return (cell :: cells, rest) := by
  generalize hvalue : cell.value.toInt = value at h
  obtain ⟨hbefore, hnumeral, hblanks⟩ := h
  subst hvalue
  have hcell := readCell_of_numeral hbefore hnumeral (hblanks.ends_append (ends_comma rest))
  rw [List.append_assoc]
  exact readCells_more hcell (readSeparator_comma hblanks hrest)

/-- Items that cells can hold are read up to the closing bracket. -/
theorem readCells_of_items {items : List Char}
    (h : Items items (cells.map fun cell => cell.value.toInt)) (behind : List Char) :
    readCells (items ++ ']' :: behind) = .ok (cells, behind) := by
  -- The induction is on the text; the cells follow from the values that it names.
  generalize hvalues : (cells.map fun cell => cell.value.toInt) = values at h
  induction h generalizing cells with
  | @last text value h =>
    obtain ⟨cell, rfl, rfl⟩ := List.map_eq_singleton_iff.mp hvalues
    obtain ⟨hbefore, hnumeral, hblanks⟩ := h
    have hcell := readCell_of_numeral hbefore hnumeral
      (hblanks.ends_append (ends_bracket behind))
    rw [List.append_assoc]
    exact readCells_last hcell (readSeparator_bracket hblanks behind)
  | @more text rest value values h hrest ih =>
    obtain ⟨cell, others, rfl, rfl, rfl⟩ := List.map_eq_cons_iff.mp hvalues
    rw [List.append_assoc, List.cons_append,
      readCells_of_cellText h (hrest.begins (']' :: behind)), ih rfl]
    rfl

/-- What is read up to the closing bracket are items. -/
theorem items_of_readCells (h : readCells text = .ok (cells, behind)) :
    ∃ items, text = items ++ ']' :: behind ∧
      Items items (cells.map fun cell => cell.value.toInt) := by
  induction text using readCells.induct generalizing cells with
  | case1 text fault hcell =>
    rw [readCells_eq, hcell] at h
    cases h
  | case2 text cell behind hcell fault hseparator =>
    simp only [readCells_eq text, hcell, readBehindCell, hseparator, bind, Except.bind] at h
    cases h
  | case3 text cell behind hcell rest hseparator =>
    cases (readCells_last hcell hseparator).symm.trans h
    obtain ⟨before, numeral, rfl, hbefore, hnumeral, -⟩ := numeral_of_readCell hcell
    obtain ⟨blanks, hblanks, rfl⟩ := separator_of_readSeparator hseparator
    refine ⟨before ++ numeral ++ blanks, ?_, .last ⟨hbefore, hnumeral, hblanks⟩⟩
    rw [List.append_assoc _ blanks]
    rfl
  | case4 text cell behind hcell rest hseparator ih =>
    rw [readCells_more hcell hseparator] at h
    simp only [bind, Except.bind] at h
    split at h
    · cases h
    · next hcells =>
      cases h
      obtain ⟨items, rfl, hitems⟩ := ih hcells
      obtain ⟨before, numeral, rfl, hbefore, hnumeral, -⟩ := numeral_of_readCell hcell
      obtain ⟨blanks, hblanks, rfl⟩ := separator_of_readSeparator hseparator
      refine ⟨before ++ numeral ++ blanks ++ ',' :: items, ?_,
        .more ⟨hbefore, hnumeral, hblanks⟩ hitems⟩
      simp only [List.append_assoc, List.cons_append, if_pos]

/-- Behind the opening bracket of a list. -/
def readInside : Reader (List Cell) := fun text =>
  match skipBlanks text with
  | [] => .error (.unfinished .list)
  | ']' :: rest => .ok ([], rest)
  | _ => readCells text

theorem readInside_of_cons {c : Char} {rest : List Char} (h : skipBlanks text = c :: rest) :
    readInside text = if c = ']' then .ok ([], rest) else readCells text := by
  simp only [readInside, h]
  split
  · next heq => cases heq
  · next heq =>
    cases heq
    rfl
  · next hbracket =>
    rw [if_neg]
    rintro rfl
    exact hbracket rest rfl

/-- A value in the place of a list. -/
def readNoList : Reader (List Cell) := fun text => do
  let (datum, _) ← readDatum text
  throw (.refused (.wrongKind datum .list))

theorem readList_of_cons {c : Char} {rest : List Char} (h : skipBlanks text = c :: rest) :
    readList text = if c = '[' then readInside rest else readNoList (c :: rest) := by
  simp only [readList, h]
  split
  · next heq =>
    cases heq
    rfl
  · next hbracket =>
    rw [if_neg]
    · rfl
    · rintro rfl
      exact hbracket rest rfl

theorem readInside_of_begins (h : Begins text) : readInside text = readCells text := by
  obtain ⟨c, left, hskip, hc⟩ := h
  rw [readInside_of_cons hskip, if_neg hc]

/-- A list that cells can hold is read up to its closing bracket. -/
theorem readList_of_inside {before inside : List Char} (hbefore : Blanks before)
    (h : Inside inside (cells.map fun cell => cell.value.toInt)) (behind : List Char) :
    readList (before ++ '[' :: (inside ++ ']' :: behind)) = .ok (cells, behind) := by
  rw [readList_of_cons (skipBlanks_behind hbefore (by decide) _), if_pos rfl]
  generalize hvalues : (cells.map fun cell => cell.value.toInt) = values at h
  cases h with
  | none h =>
    obtain rfl := List.map_eq_nil_iff.mp hvalues
    rw [readInside_of_cons (skipBlanks_behind h (by decide) behind), if_pos rfl]
  | items h =>
    subst hvalues
    rw [readInside_of_begins (h.begins _)]
    exact readCells_of_items h behind

theorem inside_of_readList (h : readList text = .ok (cells, behind)) :
    ∃ before inside, text = before ++ '[' :: (inside ++ ']' :: behind) ∧ Blanks before ∧
      Inside inside (cells.map fun cell => cell.value.toInt) := by
  obtain ⟨before, hbefore, htext⟩ := exists_blanks text
  unfold readList at h
  split at h
  · next rest hskip =>
    rw [hskip] at htext
    subst htext
    split at h
    · cases h
    · next hclosed =>
      cases h
      obtain ⟨blanks, hblanks, hrest⟩ := exists_blanks rest
      rw [hclosed] at hrest
      exact ⟨before, blanks, by rw [hrest], hbefore, .none hblanks⟩
    · obtain ⟨items, rfl, hitems⟩ := items_of_readCells h
      exact ⟨before, items, rfl, hbefore, .items hitems⟩
  · simp only [bind, Except.bind] at h
    split at h
    · cases h
    · cases h

end List

/-! ### Whole texts -/

section Entire
variable {text : String}

/-- A text is read whole if only blanks are left. -/
theorem entire_eq_ok_iff {α : Type} {read : Reader α} {value : α} :
    entire read text = .ok value ↔
      ∃ behind, read text.toList = .ok (value, behind) ∧ Blanks behind := by
  simp only [entire, bind, Except.bind]
  constructor
  · intro h
    split at h
    · cases h
    · next hread =>
      split at h
      · next hskip =>
        cases h
        exact ⟨_, hread, skipBlanks_eq_nil_iff.mp hskip⟩
      · cases h
  · rintro ⟨behind, hread, hblanks⟩
    rw [hread]
    simp only [skipBlanks_eq_nil_iff.mpr hblanks]
    rfl

theorem ofJson_eq_ok_iff {cell : Cell} :
    Cell.ofJson text = .ok cell ↔ CellText text.toList cell.value.toInt := by
  rw [Cell.ofJson, entire_eq_ok_iff]
  constructor
  · rintro ⟨behind, hread, hbehind⟩
    obtain ⟨before, numeral, htext, hbefore, hnumeral, -⟩ := numeral_of_readCell hread
    rw [htext]
    exact ⟨hbefore, hnumeral, hbehind⟩
  · intro h
    generalize text.toList = letters at h ⊢
    generalize hvalue : cell.value.toInt = value at h
    obtain @⟨before, numeral, behind, value, hbefore, hnumeral, hbehind⟩ := h
    subst hvalue
    have hends := hbehind.ends_append ends_nil
    rw [List.append_nil] at hends
    exact ⟨behind, readCell_of_numeral hbefore hnumeral hends, hbehind⟩

theorem listOfJson_eq_ok_iff {cells : List Cell} :
    Cell.listOfJson text = .ok cells ↔
      ListText text.toList (cells.map fun cell => cell.value.toInt) := by
  rw [Cell.listOfJson, entire_eq_ok_iff]
  constructor
  · rintro ⟨behind, hread, hbehind⟩
    obtain ⟨before, inside, htext, hbefore, hinside⟩ := inside_of_readList hread
    rw [htext]
    exact ⟨hbefore, hinside, hbehind⟩
  · intro h
    generalize text.toList = letters at h ⊢
    generalize hvalues : (cells.map fun cell => cell.value.toInt) = values at h
    obtain ⟨hbefore, hinside, hbehind⟩ := h
    subst hvalues
    exact ⟨_, readList_of_inside hbefore hinside _, hbehind⟩

end Entire

/-- A cell is read from a numeral among blanks whose value it can hold, and a list from such
numerals with single commas between them inside brackets; each cell then holds the value of
its numeral, and no other text is read. -/
theorem accepted_texts (text : String) :
    (∀ cell, Cell.ofJson text = .ok cell ↔ CellText text.toList cell.value.toInt) ∧
    ((∃ cell, Cell.ofJson text = .ok cell) ↔
      ∃ value, CellText text.toList value ∧ Cell.Holds value) ∧
    (∀ cells, Cell.listOfJson text = .ok cells ↔
      ListText text.toList (cells.map fun cell => cell.value.toInt)) ∧
    ((∃ cells, Cell.listOfJson text = .ok cells) ↔
      ∃ values, ListText text.toList values ∧ ∀ value ∈ values, Cell.Holds value) := by
  refine ⟨fun cell => ofJson_eq_ok_iff, ?_, fun cells => listOfJson_eq_ok_iff, ?_⟩
  · simp only [ofJson_eq_ok_iff, ← Cell.exists_value_iff]
    constructor
    · rintro ⟨cell, h⟩
      exact ⟨_, h, cell, rfl⟩
    · rintro ⟨_, h, cell, rfl⟩
      exact ⟨cell, h⟩
  · simp only [listOfJson_eq_ok_iff, ← Cell.exists_values_iff]
    constructor
    · rintro ⟨cells, h⟩
      exact ⟨_, h, cells, rfl⟩
    · rintro ⟨_, h, cells, rfl⟩
      exact ⟨cells, h⟩

end SlotSwap.Json
