/-! Lists written with a separator.

`parts` cuts a text at every separator; a text without one is a single part, and the
empty text is a single empty part. -/
namespace SlotSwap.Text.Separated

def parts (separator : Char) : List Char → List (List Char)
  | [] => [[]]
  | c :: rest =>
    if c = separator then [] :: parts separator rest
    else match parts separator rest with
      | [] => [[c]]
      | first :: others => (c :: first) :: others

theorem parts_ne_nil (separator : Char) (text : List Char) : parts separator text ≠ [] := by
  cases text with
  | nil => simp [parts]
  | cons c rest =>
    unfold parts
    split
    · simp
    · split <;> simp

/-- Any other character belongs to the first part of what follows it. -/
theorem parts_cons_of_ne {separator c : Char} (hc : c ≠ separator) (rest : List Char) :
    ∃ first others, parts separator rest = first :: others ∧
      parts separator (c :: rest) = (c :: first) :: others := by
  obtain ⟨first, others, heq⟩ := List.exists_cons_of_ne_nil (parts_ne_nil separator rest)
  refine ⟨first, others, heq, ?_⟩
  simp only [parts, heq, if_neg hc]

/-- A part is made of the text's characters. -/
theorem mem_of_mem_parts {separator c : Char} {text part : List Char}
    (h : part ∈ parts separator text) (hc : c ∈ part) : c ∈ text := by
  induction text generalizing part with
  | nil =>
    obtain rfl := List.mem_singleton.mp h
    exact absurd hc List.not_mem_nil
  | cons d rest ih =>
    have hlater {part : List Char} (h : part ∈ parts separator rest) (hc : c ∈ part) :
        c ∈ d :: rest := List.mem_cons_of_mem d (ih h hc)
    by_cases hd : d = separator
    · rw [parts, if_pos hd] at h
      rcases List.mem_cons.mp h with rfl | h
      · exact absurd hc List.not_mem_nil
      · exact hlater h hc
    · obtain ⟨first, others, heq, hparts⟩ := parts_cons_of_ne hd rest
      rw [hparts] at h
      rcases List.mem_cons.mp h with rfl | h
      · rcases List.mem_cons.mp hc with rfl | hc
        · exact List.mem_cons_self ..
        · exact hlater (heq ▸ List.mem_cons_self ..) hc
      · exact hlater (heq ▸ List.mem_cons_of_mem _ h) hc

theorem parts_of_not_mem (separator : Char) (part : List Char) (h : separator ∉ part) :
    parts separator part = [part] := by
  induction part with
  | nil => rfl
  | cons c part ih =>
    simp only [List.mem_cons, not_or] at h
    simp [parts, Ne.symm h.1, ih h.2]

/-- Parts put together with the separator between them are cut apart again. -/
theorem parts_append (separator : Char) (part rest : List Char) (h : separator ∉ part) :
    parts separator (part ++ separator :: rest) = part :: parts separator rest := by
  induction part with
  | nil => simp [parts]
  | cons c part ih =>
    simp only [List.mem_cons, not_or] at h
    simp [parts, Ne.symm h.1, ih h.2]

/-- The same for any number of parts but none. -/
theorem parts_intercalate (separator : Char) {list : List (List Char)} (hlist : list ≠ [])
    (h : ∀ part ∈ list, separator ∉ part) :
    parts separator ([separator].intercalate list) = list := by
  induction list with
  | nil => exact absurd rfl hlist
  | cons part others ih =>
    have hpart := h part (List.mem_cons_self ..)
    by_cases hothers : others = []
    · rw [hothers, List.intercalate_singleton, parts_of_not_mem separator part hpart]
    · have hrest := ih hothers fun other hother => h other (List.mem_cons_of_mem _ hother)
      rw [List.intercalate_cons_of_ne_nil hothers, List.append_assoc, List.singleton_append,
        parts_append separator part _ hpart, hrest]

end SlotSwap.Text.Separated
