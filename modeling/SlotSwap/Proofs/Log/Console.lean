import SlotSwap.Log.Display

/-! Colours and the text beneath them.

A switch is there for the screen and not for the reader. `withoutSwitches` takes the switches
out of a text, wherever they stand. `Bares` says what is left of a text that is written in
front of others, so that it can be said of the parts of a line and carried to the whole:
a line written with colours is, without its switches, the line written without colours
(`bares_line`), provided that no escape stands in the event it tells of. -/
namespace SlotSwap.Log.Console

/-! ### Taking the switches out -/

/-- A text without its switches. An escape and a bracket begin a switch and the next `m` ends
it; what is begun and never ended is none. -/
def withoutSwitches : List Char → List Char
  | '\x1b' :: '[' :: rest =>
    let ending := rest.dropWhile (· ≠ 'm')
    if ending = [] then '\x1b' :: '[' :: rest else withoutSwitches ending.tail
  | c :: rest => c :: withoutSwitches rest
  | [] => []
termination_by text => text.length
decreasing_by
  · have hshorter := (List.dropWhile_suffix (l := rest) (· ≠ 'm')).length_le
    simp only [List.length_tail, List.length_cons]
    omega
  · simp

def bare (text : String) : String := String.ofList (withoutSwitches text.toList)

theorem withoutSwitches_cons {c : Char} (hc : c ≠ '\x1b') (rest : List Char) :
    withoutSwitches (c :: rest) = c :: withoutSwitches rest := by
  rw [withoutSwitches]
  exact fun _ hescape => absurd hescape hc

theorem withoutSwitches_switch {rendition : List Char} (h : 'm' ∉ rendition)
    (rest : List Char) :
    withoutSwitches ('\x1b' :: '[' :: (rendition ++ 'm' :: rest)) = withoutSwitches rest := by
  have hend : (rendition ++ 'm' :: rest).dropWhile (· ≠ 'm') = 'm' :: rest := by
    have hinside : ∀ c ∈ rendition, decide (c ≠ 'm') = true := by
      rintro c hc
      simpa using fun hm : c = 'm' => h (hm ▸ hc)
    rw [List.dropWhile_append_of_pos hinside, List.dropWhile_cons_of_neg (by simp)]
  rw [withoutSwitches, hend]
  rfl

/-! ### What is left of a written text -/

/-- Without its switches `written` is `plain`, whatever stands behind it. -/
def Bares (written plain : String) : Prop :=
  ∀ rest, withoutSwitches (written.toList ++ rest) = plain.toList ++ withoutSwitches rest

theorem Bares.bare_eq {written plain : String} (h : Bares written plain) :
    bare written = plain := by
  have hwhole := h []
  rw [List.append_nil] at hwhole
  simp [bare, hwhole, withoutSwitches]

/-- A text in which no escape stands has no switches. -/
theorem bares_self {text : String} (h : '\x1b' ∉ text.toList) : Bares text text := by
  intro rest
  generalize text.toList = chars at h
  induction chars with
  | nil => rfl
  | cons c chars ih =>
    rw [List.mem_cons, not_or] at h
    rw [List.cons_append, withoutSwitches_cons (Ne.symm h.1), ih h.2, List.cons_append]

theorem Bares.append {a a' b b' : String} (ha : Bares a a') (hb : Bares b b') :
    Bares (a ++ b) (a' ++ b') := by
  intro rest
  rw [String.toList_append, String.toList_append, List.append_assoc, ha, hb, List.append_assoc]

theorem Bares.join {items : List α} {written plain : α → String}
    (h : ∀ item ∈ items, Bares (written item) (plain item)) :
    Bares (String.join (items.map written)) (String.join (items.map plain)) := by
  induction items with
  | nil => exact fun _ => rfl
  | cons item items ih =>
    rw [List.map_cons, List.map_cons, String.join_cons, String.join_cons]
    exact (h item (List.mem_cons_self ..)).append
      (ih fun other hother => h other (List.mem_cons_of_mem _ hother))

theorem bares_switch {rendition : String} (h : 'm' ∉ rendition.toList) :
    Bares (switch rendition) "" := by
  intro rest
  have hwritten : (switch rendition).toList = '\x1b' :: '[' :: (rendition.toList ++ ['m']) := by
    simp [switch]
  rw [hwritten]
  simpa using withoutSwitches_switch h rest

/-- Paint does not show in the text. -/
theorem bares_paint (colours : Bool) {rendition text : String} (hrendition : 'm' ∉ rendition.toList)
    (htext : '\x1b' ∉ text.toList) : Bares (paint colours rendition text) text := by
  cases colours with
  | false => exact bares_self htext
  | true =>
    have hplain : Bares (switch "0") "" := bares_switch (by decide)
    simpa [paint] using ((bares_switch hrendition).append (bares_self htext)).append hplain

/-! ### Lines -/

/-- No escape stands in what an event tells. -/
structure Unescaped (event : Event) : Prop where
  message : '\x1b' ∉ event.message.toList
  fields : ∀ f ∈ event.fields, '\x1b' ∉ f.1.toList ∧ '\x1b' ∉ f.2.toList

theorem bares_field (colours : Bool) {f : String × String}
    (h : '\x1b' ∉ f.1.toList ∧ '\x1b' ∉ f.2.toList) :
    Bares (field colours f) (field false f) :=
  ((bares_paint colours (by decide) h.1).append (bares_paint colours (by decide) (by decide))).append
    (bares_self h.2)

theorem bares_column (colours : Bool) (level : Level) :
    Bares (paint colours (colour level) (column level)) (column level) := by
  refine bares_paint colours ?_ ?_
  · cases level <;> decide
  · cases level <;> decide

/-- Without its switches a line is the one written without colours. -/
theorem bares_line (colours : Bool) {event : Event} (h : Unescaped event) :
    Bares (line colours event) (line false event) := by
  have hspace : Bares " " " " := bares_self (by decide)
  have hfields := Bares.join fun f hf => hspace.append (bares_field colours (h.fields f hf))
  exact ((((bares_column colours event.level).append hspace).append
    (bares_self h.message)).append hfields).append (bares_self (by decide))

theorem bares_droppedLine {part : List Char} (why : Misread) (h : '\x1b' ∉ part) :
    Bares (droppedLine (part, why)) (droppedLine (part, why)) := by
  have hwhy : '\x1b' ∉ why.message.toList := by
    cases why <;> decide +kernel
  refine bares_self ?_
  simp [droppedLine, h, hwhy]

end SlotSwap.Log.Console
