import Mathlib.Data.List.Basic
import SlotSwap.Proofs.Text.Spelling
import SlotSwap.Text.Record

/-! What a record's text tells.

On one line or as a block, the text of a record ends its name at the first space and each
field but the last at the first comma behind it. So records of one form whose fields, the
last one apart, hold no comma are told apart by either text (`line_injective`,
`block_injective`); the last text may be anything. -/
namespace SlotSwap.Text.Record

/-! ### Texts moved in -/

section Indent
variable {text other : String}

theorem toList_indent : (indent text).toList =
    text.toList.flatMap fun c => if c = '\n' then c :: margin else [c] := String.toList_ofList

/-- What stands for a character begins with it. -/
theorem prefixFree_indent :
    PrefixFree fun c : Char => if c = '\n' then c :: margin else [c] := by
  refine .of_read List.head? (fun c rest => ?_) rfl
  split
  · rfl
  · rfl

theorem indent_injective (h : indent text = indent other) : text = other := by
  have hchars := congrArg String.toList h
  rw [toList_indent, toList_indent] at hchars
  exact String.toList_inj.mp (prefixFree_indent.flatMap_injective hchars)

theorem comma_not_mem_indent (h : ',' ∉ text.toList) : ',' ∉ (indent text).toList := by
  rw [toList_indent, List.mem_flatMap]
  intro hmem
  obtain ⟨c, hc, hcomma⟩ := hmem
  split at hcomma
  · next hnewline =>
    rw [hnewline] at hcomma
    exact absurd hcomma (by decide)
  · exact h (List.mem_singleton.mp hcomma ▸ hc)

end Indent

/-! ### Pieces and fields -/

section Pieces
variable {separator : List Char} {pieces others : List (List Char)}

theorem flatMap_append_eq_intercalate (h : pieces ≠ []) :
    pieces.flatMap (· ++ separator) = separator.intercalate pieces ++ separator := by
  induction pieces with
  | nil => exact absurd rfl h
  | cons piece pieces ih =>
    by_cases hlast : pieces = []
    · subst hlast
      rw [List.intercalate_singleton, List.flatMap_cons, List.flatMap_nil, List.append_nil]
    · rw [List.flatMap_cons, ih hlast, List.intercalate_cons_of_ne_nil hlast, List.append_assoc,
        List.append_assoc, List.append_assoc]

/-- Pieces that are each ended by a separator are no different from pieces parted by it. -/
theorem intercalate_eq_of_flatMap_eq (hlength : pieces.length = others.length)
    (h : pieces.flatMap (· ++ separator) = others.flatMap (· ++ separator)) :
    separator.intercalate pieces = separator.intercalate others := by
  by_cases hnone : pieces = []
  · subst hnone
    rw [List.length_eq_zero_iff.mp hlength.symm]
  · have hnone' : others ≠ [] := by
      rintro rfl
      exact hnone (List.length_eq_zero_iff.mp hlength)
    rw [flatMap_append_eq_intercalate hnone, flatMap_append_eq_intercalate hnone'] at h
    exact List.append_cancel_right h

end Pieces

/-- A field is told from its name and its piece of the text. -/
theorem fields_eq_of_pieces_eq {front body : String → List Char}
    (hbody : ∀ {text other}, body text = body other → text = other)
    {fields others : List (String × String)}
    (hnames : fields.map Prod.fst = others.map Prod.fst)
    (hpieces : fields.map (fun field => front field.1 ++ body field.2) =
      others.map fun field => front field.1 ++ body field.2) : fields = others := by
  induction fields generalizing others with
  | nil => exact (List.map_eq_nil_iff.mp hnames.symm).symm
  | cons field fields ih =>
    cases others with
    | nil => cases hnames
    | cons other others =>
      rw [List.map_cons, List.map_cons, List.cons.injEq] at hnames hpieces
      obtain ⟨hname, hnames⟩ := hnames
      obtain ⟨hpiece, hpieces⟩ := hpieces
      rw [hname] at hpiece
      rw [ih hnames hpieces, Prod.ext hname (hbody (List.append_cancel_left hpiece))]

/-! ### Records -/

/-- No field but the last one holds the comma that parts the fields. -/
def Separable (r : Record) : Prop :=
  ∀ field ∈ r.fields.dropLast, ',' ∉ field.1.toList ∧ ',' ∉ field.2.toList

/-- Records of one name, with fields of the same names in the same order. -/
structure Alike (r s : Record) : Prop where
  name : r.name = s.name
  fields : r.fields.map Prod.fst = s.fields.map Prod.fst

section Records
variable {r s : Record}

theorem Alike.length_fields (h : r.Alike s) : r.fields.length = s.fields.length := by
  have hlength := congrArg List.length h.fields
  rwa [List.length_map, List.length_map] at hlength

theorem toList_line : r.line.toList = r.name.toList ++ ' ' :: '\x7b' :: ' ' ::
    ([',', ' '].intercalate
      (r.fields.map fun field => (field.1 ++ ": ").toList ++ field.2.toList) ++ [' ', '\x7d']) := by
  simp [line, String.toList_intercalate, Function.comp_def]

theorem toList_block : r.block.toList = r.name.toList ++ ' ' :: '\x7b' :: '\n' ::
    ((r.fields.map fun field => margin ++ (field.1 ++ ": ").toList ++
      (indent field.2).toList).flatMap (· ++ [',', '\n']) ++ ['\x7d']) := by
  simp [block, String.toList_join, List.flatMap_map]

/-- A name without a space is told from the line. -/
theorem name_eq_of_line_eq (hr : ' ' ∉ r.name.toList) (hs : ' ' ∉ s.name.toList)
    (h : r.line = s.line) : r.name = s.name := by
  have hchars := congrArg String.toList h
  rw [toList_line, toList_line] at hchars
  exact String.toList_inj.mp (append_cons_inj hr hs hchars).1

/-- A name without a space is told from the block. -/
theorem name_eq_of_block_eq (hr : ' ' ∉ r.name.toList) (hs : ' ' ∉ s.name.toList)
    (h : r.block = s.block) : r.name = s.name := by
  have hchars := congrArg String.toList h
  rw [toList_block, toList_block] at hchars
  exact String.toList_inj.mp (append_cons_inj hr hs hchars).1

/-- The pieces that the fields are written as tell the record, if different texts make
different pieces and commas come from the fields alone. -/
theorem eq_of_intercalate_eq (front body : String → List Char) {gap : List Char}
    (hfront : ∀ {name : String}, ',' ∉ name.toList → ',' ∉ front name)
    (hcomma : ∀ {text : String}, ',' ∉ text.toList → ',' ∉ body text)
    (hbody : ∀ {text other}, body text = body other → text = other)
    (halike : r.Alike s) (hr : r.Separable) (hs : s.Separable)
    (h : (',' :: gap).intercalate (r.fields.map fun field => front field.1 ++ body field.2) =
      (',' :: gap).intercalate (s.fields.map fun field => front field.1 ++ body field.2)) :
    r = s := by
  have hpiece {t : Record} (ht : t.Separable) : ∀ piece ∈
      (t.fields.map fun field => front field.1 ++ body field.2).dropLast, ',' ∉ piece := by
    intro piece hpiece
    rw [← List.map_dropLast] at hpiece
    obtain ⟨field, hfield, rfl⟩ := List.mem_map.mp hpiece
    have hnone := ht field hfield
    exact List.not_mem_append (hfront hnone.1) (hcomma hnone.2)
  have hlength := halike.length_fields
  have hpieces := intercalate_inj (by simpa using hlength) (hpiece hr) (hpiece hs) h
  have hfields := fields_eq_of_pieces_eq hbody halike.fields hpieces
  cases r
  cases s
  exact congrArg₂ Record.mk halike.name hfields

/-- A record is told from its line. -/
theorem line_injective (halike : r.Alike s) (hr : r.Separable) (hs : s.Separable)
    (h : r.line = s.line) : r = s := by
  have hchars := congrArg String.toList h
  rw [toList_line, toList_line, halike.name] at hchars
  have hinside := List.append_cancel_left hchars
  simp only [List.cons.injEq, true_and] at hinside
  refine eq_of_intercalate_eq (fun name => (name ++ ": ").toList) String.toList ?_ id
    String.toList_inj.mp halike hr hs (List.append_cancel_right hinside)
  intro name hname
  simpa using hname

/-- A record is told from its block. -/
theorem block_injective (halike : r.Alike s) (hr : r.Separable) (hs : s.Separable)
    (h : r.block = s.block) : r = s := by
  have hchars := congrArg String.toList h
  rw [toList_block, toList_block, halike.name] at hchars
  have hinside := List.append_cancel_left hchars
  simp only [List.cons.injEq, true_and] at hinside
  have hlength := halike.length_fields
  have hfields := intercalate_eq_of_flatMap_eq (by simpa using hlength)
    (List.append_cancel_right hinside)
  refine eq_of_intercalate_eq (fun name => margin ++ (name ++ ": ").toList)
    (fun text => (indent text).toList) ?_ comma_not_mem_indent ?_ halike hr hs hfields
  · intro name hname
    simpa [margin] using hname
  · exact fun htexts => indent_injective (String.toList_inj.mp htexts)

end Records

end SlotSwap.Text.Record
