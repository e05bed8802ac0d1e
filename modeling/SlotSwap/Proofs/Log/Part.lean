import Mathlib.Data.List.Basic
import Mathlib.Data.List.TakeWhile
import Mathlib.Tactic.SplitIfs
import SlotSwap.Log.Display

/-! What a filter's text is made of.

Between two commas stands a level, a target, a target with a level or nothing at all; and
there may be a target with something behind the equals sign that is no level. `Part` names
these, and `Part.write` puts the commas between them. Each is read as what it is
(`Word.read_alone`, `Word.read_paired`), so that the parts dropped from a filter are the
targets without a proper level, in their order, and no others (`dropped_write`). -/
namespace SlotSwap.Log
open Text

/-! ### Levels -/

namespace Threshold

/-- The words for a threshold, from the one that shows nothing to the one that shows
everything. The number of a threshold is its place among them. -/
def words : List String := ["off", "error", "warn", "info", "debug", "trace"]

/-- A text is a level: one of the words, in letters of either case, or its number. -/
def IsLevel (text : List Char) : Prop :=
  String.ofList (text.map Char.toLower) ∈ words ∨
    ∃ number < words.length, Decimal.toNat? text = some number

section Level
variable {text : List Char} {number : Nat}

/-- The words are written with letters and nothing else. -/
theorem isLower_toLower_of_word (h : String.ofList (text.map Char.toLower) ∈ words) {c : Char}
    (hc : c ∈ text) : c.toLower.isLower = true := by
  have hletters : (words.all fun word => word.toList.all Char.isLower) = true := by
    decide +kernel
  have hword := List.all_eq_true.mp hletters _ h
  rw [String.toList_ofList] at hword
  exact List.all_eq_true.mp hword _ (List.mem_map_of_mem hc)

/-- A number is written with digits, at least one of them, and perhaps a plus sign. -/
theorem chars_of_toNat? (h : Decimal.toNat? text = some number) :
    (∀ c ∈ text, c = '+' ∨ c.isDigit = true) ∧ ∃ c ∈ text, c.isDigit = true := by
  have hnumeral {digits : List Char} (h : Decimal.isNumeral digits = true) :
      (∀ c ∈ digits, c.isDigit = true) ∧ ∃ c ∈ digits, c.isDigit = true := by
    rw [Decimal.isNumeral, Bool.and_eq_true, List.all_eq_true] at h
    obtain ⟨hne, hdigits⟩ := h
    cases digits with
    | nil => cases hne
    | cons c digits => exact ⟨hdigits, c, List.mem_cons_self .., hdigits c (List.mem_cons_self ..)⟩
  unfold Decimal.toNat? at h
  split at h
  · obtain ⟨hdigits, c, hc, hdigit⟩ := hnumeral (Option.ite_none_right_eq_some.mp h).1
    refine ⟨fun d hd => ?_, c, List.mem_cons_of_mem _ hc, hdigit⟩
    exact (List.mem_cons.mp hd).imp id (hdigits d)
  · obtain ⟨hdigits, hexists⟩ := hnumeral (Option.ite_none_right_eq_some.mp h).1
    exact ⟨fun d hd => .inr (hdigits d hd), hexists⟩

/-- A digit is no letter. -/
theorem not_isLower_toLower_of_isDigit {c : Char} (h : c.isDigit = true) :
    ¬c.toLower.isLower = true := by
  have hrange := Char.isDigit_iff_toNat.mp h
  simp only [Char.reduceToNat] at hrange
  have hdigits : ∀ k < 10, ¬(Char.ofNat (48 + k)).toLower.isLower = true := by decide
  have hdigit := hdigits (c.toNat - 48) (by omega)
  rwa [Nat.add_sub_cancel' hrange.1, Char.ofNat_toNat] at hdigit

/-- No number is a word. -/
theorem not_word_of_toNat? (h : Decimal.toNat? text = some number) :
    String.ofList (text.map Char.toLower) ∉ words := by
  intro hword
  obtain ⟨-, c, hc, hdigit⟩ := chars_of_toNat? h
  exact not_isLower_toLower_of_isDigit hdigit (isLower_toLower_of_word hword hc)

theorem isSome_ofName?_iff {name : String} : (ofName? name).isSome ↔ name ∈ words := by
  unfold ofName?
  split_ifs <;> simp_all [words]

theorem isSome_ofNumber?_iff : (ofNumber? number).isSome ↔ number < words.length := by
  match number with
  | 0 | 1 | 2 | 3 | 4 | 5 => decide
  | number + 6 => simp [ofNumber?, words]

/-- A threshold is read from a level and from nothing else. -/
theorem isSome_read_iff : (read text).isSome ↔ IsLevel text := by
  unfold read IsLevel
  cases hnumber : Decimal.toNat? text with
  | none => simp [isSome_ofName?_iff]
  | some number => simp [isSome_ofNumber?_iff, not_word_of_toNat? hnumber]

instance : Decidable (IsLevel text) := decidable_of_iff _ isSome_read_iff

theorem IsLevel.not_mem_comma (h : IsLevel text) : ',' ∉ text := by
  intro hcomma
  rcases h with hword | ⟨number, -, hnumber⟩
  · exact absurd (isLower_toLower_of_word hword hcomma) (by decide)
  · exact absurd ((chars_of_toNat? hnumber).1 _ hcomma) (by decide)

theorem IsLevel.ne_nil (h : IsLevel text) : text ≠ [] := by
  rintro rfl
  exact absurd (isSome_read_iff.mpr h) (by decide)

end Level

end Threshold

/-! ### Words and parts -/

/-- A text that begins as a directive may and has no mark in it: a target, or a level that
stands alone. -/
structure Word where
  text : List Char
  opens : text.head?.any Directive.opens = true
  unmarked : ∀ c ∈ text, c ≠ ',' ∧ c ≠ '=' ∧ c ≠ '['

/-- What stands between two commas. -/
inductive Part where
  | empty
  /-- A level for all targets or else a target, shown whole. -/
  | alone (word : Word)
  /-- A target and a level. -/
  | paired (target : Word) (level : List Char) (hlevel : Threshold.IsLevel level)
  /-- A target and something that is no level. It is not empty: an equals sign with nothing
  behind it is read as the most detailed level. -/
  | mispaired (target : Word) (level : List Char) (hlevel : ¬Threshold.IsLevel level)
      (hne : level ≠ []) (hcomma : ',' ∉ level)

namespace Part

def text : Part → List Char
  | empty => []
  | alone word => word.text
  | paired target level _ => target.text ++ '=' :: level
  | mispaired target level .. => target.text ++ '=' :: level

/-- Parts with commas between them. -/
def write (parts : List Part) : List Char := [','].intercalate (parts.map text)

/-- What is reported of a part when the filter is read. -/
def dropped? : Part → Option (List Char × Misread)
  | mispaired target level .. => some (target.text ++ '=' :: level, .unknownLevel)
  | _ => none

end Part

/-! ### Reading a part -/

/-- No character of the tables is white space and a letter or number at once. -/
theorem ranges_disjoint :
    ∀ blank ∈ Blank.ranges, ∀ range ∈ Alphanumeric.ranges,
      blank.2 < range.1 ∨ range.2 < blank.1 := by
  have hall : (Blank.ranges.all fun blank => Alphanumeric.ranges.all fun range =>
      Nat.blt blank.2 range.1 || Nat.blt range.2 blank.1) = true := by
    decide +kernel
  simpa [List.all_eq_true] using hall

/-- No directive begins with white space. -/
theorem not_opens_of_isBlank {c : Char} (h : Blank.isBlank c = true) :
    Directive.opens c = false := by
  obtain ⟨blank, hblank, hc⟩ := List.any_eq_true.mp h
  rw [Bool.and_eq_true, decide_eq_true_eq, decide_eq_true_eq] at hc
  have htable : (Alphanumeric.ranges.any fun range => range.1 ≤ c.toNat && c.toNat ≤ range.2) =
      false := by
    rw [List.any_eq_false]
    intro range hrange hin
    rw [Bool.and_eq_true, decide_eq_true_eq, decide_eq_true_eq] at hin
    have := ranges_disjoint blank hblank range hrange
    omega
  have hascii : ∀ blank ∈ Blank.ranges, ∀ k < blank.2 + 1 - blank.1,
      let c := Char.ofNat (blank.1 + k)
      (c.isAlphanum || c = '-' || c = ':' || c = '_' || c = '[') = false := by
    decide +kernel
  have hnone := hascii blank hblank (c.toNat - blank.1) (by omega)
  rw [Nat.add_sub_cancel' hc.1, Char.ofNat_toNat] at hnone
  simpa [Directive.opens, Alphanumeric.isAlphanumeric, htable] using hnone

namespace Word
variable (word : Word)

theorem ne_nil : word.text ≠ [] := by
  intro h
  have hopens := word.opens
  rw [h] at hopens
  cases hopens

theorem opens_append (rest : List Char) :
    (word.text ++ rest).head?.any Directive.opens = true := by
  obtain ⟨c, text, h⟩ := List.exists_cons_of_ne_nil word.ne_nil
  have hopens := word.opens
  rw [h] at hopens ⊢
  exact hopens

/-- There is no margin in front of a word. -/
theorem takeWhile_isBlank (rest : List Char) :
    (word.text ++ rest).takeWhile Blank.isBlank = [] := by
  obtain ⟨c, text, h⟩ := List.exists_cons_of_ne_nil word.ne_nil
  have hopens := word.opens
  rw [h] at hopens
  have hblank : ¬Blank.isBlank c = true := by
    intro hblank
    have hc : Directive.opens c = true := hopens
    rw [not_opens_of_isBlank hblank] at hc
    cases hc
  rw [h, List.cons_append, List.takeWhile_cons_of_neg hblank]

theorem decide_unmarked {c : Char} (hc : c ∈ word.text) :
    decide (c ≠ '=' ∧ c ≠ '[') = true :=
  decide_eq_true (word.unmarked c hc).2

/-- A word alone is a level if it can be read as one, and else a target. -/
theorem read_alone :
    Directive.read word.text = .ok (match Threshold.read word.text with
      | some threshold => ⟨none, .every, threshold⟩
      | none => ⟨some word.text, .every, some .trace⟩) := by
  have hmargin := word.takeWhile_isBlank []
  have hopens := word.opens
  rw [List.append_nil] at hmargin
  have hstart : word.text.takeWhile (fun c => c ≠ '=' ∧ c ≠ '[') = word.text :=
    List.takeWhile_eq_self_iff.mpr fun _ => word.decide_unmarked
  unfold Directive.read
  simp only [hmargin, List.length_nil, List.drop_zero, hopens, hstart]
  cases Threshold.read word.text <;> rfl

/-- Behind a target and an equals sign stands a level, or the directive cannot be read. -/
theorem read_paired {level : List Char} (hne : level ≠ []) :
    Directive.read (word.text ++ '=' :: level) = match Threshold.read level with
      | some threshold => .ok ⟨some word.text, .every, threshold⟩
      | none => .error .unknownLevel := by
  have hmargin := word.takeWhile_isBlank ('=' :: level)
  have hopens := word.opens_append ('=' :: level)
  have hstart : (word.text ++ '=' :: level).takeWhile (fun c => c ≠ '=' ∧ c ≠ '[') =
      word.text := by
    rw [List.takeWhile_append_of_pos fun _ => word.decide_unmarked,
      List.takeWhile_cons_of_neg (by simp), List.append_nil]
  have hlonger : ¬word.text = word.text ++ '=' :: level := by simp
  have hscope : Scope.read ('=' :: level) = .ok (.every, '=' :: level) := rfl
  have hthreshold : Directive.readThreshold ('=' :: level) = match Threshold.read level with
      | some threshold => .ok threshold
      | none => .error .unknownLevel := by
    obtain ⟨c, others, rfl⟩ := List.exists_cons_of_ne_nil hne
    rfl
  unfold Directive.read
  simp only [hmargin, List.length_nil, List.drop_zero, hopens, hstart, Bool.not_true,
    Bool.false_eq_true, if_false, if_neg hlonger, List.drop_left, hscope, List.nil_append,
    if_neg word.ne_nil]
  show (Directive.readThreshold ('=' :: level) >>= fun threshold =>
    pure (Directive.mk (some word.text) .every threshold)) = _
  rw [hthreshold]
  cases Threshold.read level <;> rfl

end Word

/-! ### Reading a filter -/

/-- What is dropped is quoted from the filter's text. -/
theorem mem_of_mem_dropped {text : List Char} {dropped : List Char × Misread}
    (h : dropped ∈ (Filter.read text).dropped) {c : Char} (hc : c ∈ dropped.1) : c ∈ text := by
  obtain ⟨part, hpart, hread⟩ := List.mem_filterMap.mp h
  have hquoted : part = dropped.1 := by
    split at hread
    · cases hread
    · cases hread
      rfl
  exact Separated.mem_of_mem_parts (List.mem_of_mem_filter hpart) (hquoted ▸ hc)

namespace Part

theorem comma_not_mem_text (part : Part) : ',' ∉ part.text := by
  have hword (word : Word) : ',' ∉ word.text := fun h => (word.unmarked _ h).1 rfl
  have hpair (word : Word) {level : List Char} (hlevel : ',' ∉ level) :
      ',' ∉ word.text ++ '=' :: level := by
    simp [hword word, hlevel]
  cases part with
  | empty => exact List.not_mem_nil
  | alone word => exact hword word
  | paired target level hlevel => exact hpair target hlevel.not_mem_comma
  | mispaired target level hlevel hne hcomma => exact hpair target hcomma

theorem eq_empty_of_text_eq_nil {part : Part} (h : part.text = []) : part = empty := by
  cases part with
  | empty => rfl
  | alone word => exact absurd h word.ne_nil
  | paired target level hlevel => simp [text] at h
  | mispaired target level hlevel hne => simp [text] at h

/-- A part that is not empty is dropped exactly when it has no proper level. -/
theorem dropped?_eq (part : Part) (h : part.text ≠ []) :
    (match Directive.read part.text with
      | .ok _ => none
      | .error why => some (part.text, why)) = part.dropped? := by
  cases part with
  | empty => exact absurd rfl h
  | alone word =>
    simp only [text, word.read_alone]
    rfl
  | paired target level hlevel =>
    obtain ⟨threshold, hthreshold⟩ :=
      Option.isSome_iff_exists.mp (Threshold.isSome_read_iff.mpr hlevel)
    simp only [text, target.read_paired hlevel.ne_nil, hthreshold]
    rfl
  | mispaired target level hlevel hne =>
    have hthreshold : Threshold.read level = none := by
      rwa [← Threshold.isSome_read_iff, Option.not_isSome_iff_eq_none] at hlevel
    simp only [text, target.read_paired hne, hthreshold]
    rfl

theorem parts_write (parts : List Part) :
    Filter.parts (write parts) = (parts.map text).filter (· ≠ []) := by
  by_cases hparts : parts = []
  · subst hparts
    rfl
  · rw [Filter.parts, write, Separated.parts_intercalate ',' (by simpa using hparts)]
    intro part hpart
    obtain ⟨part, -, rfl⟩ := List.mem_map.mp hpart
    exact part.comma_not_mem_text

/-- What is read from the parts of a text is what the parts stand for, the empty ones for
nothing. -/
theorem filterMap_parts_write {f : List Char → Option α} {g : Part → Option α}
    (hempty : g .empty = none) (h : ∀ part : Part, part.text ≠ [] → f part.text = g part)
    (parts : List Part) : (Filter.parts (write parts)).filterMap f = parts.filterMap g := by
  rw [parts_write, List.filterMap_filter, List.filterMap_map]
  refine List.filterMap_congr fun part _ => ?_
  by_cases htext : part.text = []
  · rw [eq_empty_of_text_eq_nil htext, hempty]
    rfl
  · have hkept : decide (part.text ≠ []) = true := decide_eq_true htext
    rw [Function.comp_apply, if_pos hkept]
    exact h part htext

/-- Of the parts of a filter those without a proper level are dropped, in their order. -/
theorem dropped_write (parts : List Part) :
    (Filter.read (write parts)).dropped = parts.filterMap dropped? :=
  filterMap_parts_write rfl dropped?_eq parts

end Part

end SlotSwap.Log
