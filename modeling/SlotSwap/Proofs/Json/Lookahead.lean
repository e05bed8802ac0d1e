import SlotSwap.Proofs.Json.Steady

/-! What more text can change.

The readers of values, cells and lists are steady, as the readers that they are made of: what
they make of a text they make of it with more text behind, unless it broke off or a number
stands at its end. So a text with a syntax error is beyond repair (`syntax_errors_final`), but
for a number out of range, which an exponent may yet bring back. -/
namespace SlotSwap.Json
open Text

/-! ### Behind blanks -/

section Blanks
variable {α : Type} {text more : List Char} {read : Reader α}

theorem skipBlanks_append_of_ne_nil (h : skipBlanks text ≠ []) (more : List Char) :
    skipBlanks (text ++ more) = skipBlanks text ++ more := by
  simp only [skipBlanks] at h ⊢
  rw [List.dropWhile_append, if_neg (by simpa using h)]

/-- A reader that goes by the first character behind the blanks finds the same one with more text
behind, if there is one. -/
theorem steady_of_first (hnil : skipBlanks text = [] → ¬Settled more (read text))
    (hcons : ∀ c rest, skipBlanks text = c :: rest →
      skipBlanks (text ++ more) = c :: (rest ++ more) → Settled more (read text) →
      read (text ++ more) = extend more (read text)) :
    Steady read text more := by
  intro hsettled
  have hne : skipBlanks text ≠ [] := fun hskip => hnil hskip hsettled
  obtain ⟨c, rest, hskip⟩ := List.exists_cons_of_ne_nil hne
  refine ⟨?_, hcons c rest hskip ?_ hsettled⟩
  · rintro rfl
    cases hskip
  · rw [skipBlanks_append_of_ne_nil hne, hskip]
    rfl

/-- Blanks in front change nothing for a reader that must find something. -/
theorem Steady.skipBlanks (h : Steady read (skipBlanks text) more)
    (hnil : ¬Settled more (read [])) :
    Steady (fun text => read (Json.skipBlanks text)) text more := by
  apply steady_of_first
  · intro hskip
    simp only [hskip]
    exact hnil
  · intro c rest hskip hmore hsettled
    have heq := (h hsettled).2
    simp only [hskip, hmore] at heq ⊢
    exact heq

end Blanks

/-! ### Values and cells -/

section Values
variable {text more : List Char}

theorem steady_readDatum : Steady readDatum text more := by
  apply steady_of_cons id
  intro c rest hsettled
  simp only [readDatum] at hsettled ⊢
  -- One step for each test of the first character.
  refine steady_ite hsettled (fun h => (steady_readNumber h).2) fun h => ?_
  refine steady_ite h (fun h => (steady_readNumber h).2) fun h => ?_
  refine steady_ite h (fun h => (steady_readWord _ _ h).2) fun h => ?_
  refine steady_ite h (fun h => (steady_readWord _ _ h).2) fun h => ?_
  refine steady_ite h (fun h => (steady_readWord _ _ h).2) fun h => ?_
  have htext : Steady (readTextFrom .plain) rest more := steady_readTextFrom .plain
  refine steady_ite h (fun h => (htext.map (fun text => Datum.text (String.ofList text)) h).2)
    fun h => ?_
  refine steady_ite h (fun _ => rfl) fun h => ?_
  exact steady_ite h (fun _ => rfl) fun _ => rfl

/-- A value that was read is taken as a cell or refused. -/
def acceptCell (datum : Datum) : Reader Cell := fun text => do
  return (← (Cell.ofDatum datum).mapError Fault.refused, text)

theorem readCell_eq (text : List Char) :
    readCell text = (do
      let (datum, behind) ← readDatum (skipBlanks text)
      acceptCell datum behind) := by
  simp only [readCell, acceptCell, bind, Except.bind]
  split
  · rfl
  · split
    · next hcell =>
      rw [hcell]
      rfl
    · next hcell =>
      rw [hcell]
      rfl

theorem steady_acceptCell (datum : Datum) : Steady (acceptCell datum) text more := by
  apply steady_outcome
  intro fault h hsettled
  cases hcell : Cell.ofDatum datum with
  | ok cell =>
    rw [hcell] at h
    cases h
  | error why =>
    rw [hcell] at h
    cases h
    exact hsettled

theorem steady_readCell : Steady readCell text more := by
  have hdatum : Steady (fun text => readDatum (skipBlanks text)) text more :=
    steady_readDatum.skipBlanks id
  rw [funext readCell_eq]
  exact hdatum.bind acceptCell fun datum _ _ => steady_acceptCell datum

theorem steady_readBehindComma : Steady readBehindComma text more := by
  apply steady_of_first
  · intro hskip
    simp only [readBehindComma, hskip]
    exact id
  · intro c rest hskip hmore hsettled
    rw [readBehindComma_of_cons hskip] at hsettled ⊢
    rw [readBehindComma_of_cons hmore]
    exact steady_ite hsettled (fun _ => rfl) fun _ => rfl

theorem steady_readSeparator : Steady readSeparator text more := by
  apply steady_of_first
  · intro hskip
    simp only [readSeparator, hskip]
    exact id
  · intro c rest hskip hmore hsettled
    rw [readSeparator_of_cons hskip] at hsettled ⊢
    rw [readSeparator_of_cons hmore]
    refine steady_ite hsettled (fun _ => rfl) fun h => ?_
    exact steady_ite h (fun h => (steady_readBehindComma h).2) fun _ => rfl

/-- The induction is on the length of the text, of which each cell takes something away. -/
theorem steady_readCells : Steady readCells text more := by
  induction hlength : text.length using Nat.strongRecOn generalizing text with
  | ind n ih =>
    rw [funext readCells_eq]
    refine steady_readCell.bind readBehindCell ?_
    intro cell behind hcell
    refine steady_readSeparator.bind (readOthers cell) ?_
    intro again rest hseparator
    cases again with
    | false =>
      intro hsettled
      exact ⟨hsettled, rfl⟩
    | true =>
      have hrest : rest.length < n := by
        rw [← hlength]
        exact (readSeparator_length hseparator).trans (readCell_length hcell)
      exact (ih rest.length hrest rfl).map (cell :: ·)

theorem steady_readInside : Steady readInside text more := by
  apply steady_of_first
  · intro hskip
    simp only [readInside, hskip]
    exact id
  · intro c rest hskip hmore hsettled
    rw [readInside_of_cons hskip] at hsettled ⊢
    rw [readInside_of_cons hmore]
    exact steady_ite hsettled (fun _ => rfl) fun h => (steady_readCells h).2

theorem steady_readNoList : Steady readNoList text more := by
  apply steady_readDatum.bind fun datum _ => throw (.refused (.wrongKind datum .list))
  intro datum behind _ hsettled
  exact ⟨fun _ => hsettled, rfl⟩

theorem steady_readList : Steady readList text more := by
  apply steady_of_first
  · intro hskip
    simp only [readList, hskip]
    exact id
  · intro c rest hskip hmore hsettled
    rw [readList_of_cons hskip] at hsettled ⊢
    rw [readList_of_cons hmore]
    exact steady_ite hsettled (fun h => (steady_readInside h).2) fun h => (steady_readNoList h).2

end Values

/-! ### Whole texts -/

/-- A syntax error that is not a number out of range stays the first one. -/
theorem entire_append {α : Type} {read : Reader α} {text more : String} {rule : Malformed}
    (hread : Steady read text.toList more.toList) (hrule : rule ≠ .numberOutOfRange)
    (h : entire read text = .error (.malformed rule)) :
    entire read (text ++ more) = .error (.malformed rule) := by
  simp only [entire, String.toList_append, bind, Except.bind] at h ⊢
  cases hresult : read text.toList with
  | error fault =>
    rw [hresult] at h
    cases h
    have hsettled : Settled more.toList (read text.toList) := by
      rw [hresult]
      exact fun heq => absurd heq hrule
    rw [(hread hsettled).2, hresult]
    rfl
  | ok result =>
    obtain ⟨value, behind⟩ := result
    rw [hresult] at h
    have hne : skipBlanks behind ≠ [] := by
      intro hnil
      simp only [hnil] at h
      cases h
    have hsettled : Settled more.toList (read text.toList) := by
      rw [hresult]
      rintro rfl
      exact absurd rfl hne
    obtain ⟨c, rest, hskip⟩ := List.exists_cons_of_ne_nil hne
    simp only [hskip] at h
    simp only [(hread hsettled).2, hresult, extend, skipBlanks_append_of_ne_nil hne, hskip]
    exact h

/-- **A syntax error is final**, for a cell and for a list: whatever follows the text, the text
with it is refused for the same reason. Only a number out of range may be brought back, by digits
of its exponent. -/
theorem syntax_errors_final (text more : String) {rule : Malformed}
    (hrule : rule.message ≠ "number out of range") :
    (Cell.ofJson text = .error (.malformed rule) →
      Cell.ofJson (text ++ more) = .error (.malformed rule)) ∧
    (Cell.listOfJson text = .error (.malformed rule) →
      Cell.listOfJson (text ++ more) = .error (.malformed rule)) := by
  have hrule : rule ≠ .numberOutOfRange := by
    rintro rfl
    exact hrule rfl
  exact ⟨entire_append steady_readCell hrule, entire_append steady_readList hrule⟩

/-- A missing comma is not put right by a text that would have closed the list, nor a number with a
zero in front by what would have made a fraction of it. -/
theorem syntax_errors_final_closed :
    Cell.listOfJson ("[0 1" ++ ", 2]") = .error (.malformed .noCommaOrEnd) ∧
    Cell.ofJson ("00" ++ ".5") = .error (.malformed .badNumber) :=
  ⟨(syntax_errors_final "[0 1" ", 2]" (by decide)).2 (by decide +kernel),
    (syntax_errors_final "00" ".5" (by decide)).1 (by decide +kernel)⟩

end SlotSwap.Json
