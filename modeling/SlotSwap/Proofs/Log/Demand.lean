import Mathlib.Data.List.Forall2
import SlotSwap.Proofs.Log.Decision
import SlotSwap.Proofs.Log.Part

/-! What a filter demands.

A part of a filter's text that is a directive demands a level, for all targets or for those
that begin with its own; an empty part and one without a proper level demand nothing. A level
is known by its place among the words, whatever its spelling. In force are the demands of the
parts, or a warning of all targets when there are none, and of those that cover a target the
longest governs.

`shows_write_iff`: when no two demands are for the same targets, a filter shows an event if the
demand that governs its target reaches its level. There is no order among the demands in this,
and so the filter with higher demands shows no less, however they are put down
(`shows_of_metBy`). -/
namespace SlotSwap.Log
open Text

/-! ### Places of levels -/

namespace Threshold

/-- The threshold that shows the levels up to a place. -/
def upTo (place : Nat) : Threshold := (ofNumber? place).getD (some .trace)

theorem shows_upTo {place : Nat} {level : Level} :
    shows (upTo place) level = true ↔ level.rank ≤ place := by
  match place with
  | 0 | 1 | 2 | 3 | 4 => cases level <;> decide
  | place + 5 =>
    -- Beyond the last place everything is shown, as there is no further level.
    have hmost : level.rank ≤ 5 := by cases level <;> decide
    have hlast : upTo (place + 5) = some .trace := by cases place <;> rfl
    rw [hlast]
    exact iff_of_true (decide_eq_true hmost) (by omega)

/-- The place of a level among the words: that of its word, or its number. -/
def place? (text : List Char) : Option Nat :=
  match Decimal.toNat? text with
  | some number => if number < words.length then some number else none
  | none => words.idxOf? (String.ofList (text.map Char.toLower))

theorem ofNumber?_eq (number : Nat) :
    ofNumber? number = (if number < words.length then some number else none).map upTo := by
  match number with
  | 0 | 1 | 2 | 3 | 4 | 5 => rfl
  | number + 6 => simp [ofNumber?, words]

theorem ofName?_eq (name : String) : ofName? name = (words.idxOf? name).map upTo := by
  by_cases hword : name ∈ words
  · have hall : (words.all fun word => ofName? word = (words.idxOf? word).map upTo) = true := by
      decide +kernel
    exact of_decide_eq_true (List.all_eq_true.mp hall name hword)
  · rw [List.idxOf?_eq_none_iff.mpr hword, Option.map_none, ← Option.not_isSome_iff_eq_none,
      isSome_ofName?_iff]
    exact hword

/-- A level is read by its place. -/
theorem read_eq (text : List Char) : read text = (place? text).map upTo := by
  unfold read place?
  cases Decimal.toNat? text with
  | none => exact ofName?_eq _
  | some number => exact ofNumber?_eq number

end Threshold

/-! ### Demands -/

/-- The targets of which something is demanded, by how they begin, and the place of the level
that is demanded. -/
structure Demand where
  target : Option (List Char)
  place : Nat
deriving DecidableEq, Repr

namespace Demand

/-- Whether a demand is for a target. -/
def Covers (d : Demand) (name : List Char) : Prop := ∀ start ∈ d.target, start <+: name

/-- The length of what the targets begin with, nothing at all being shorter than the empty text. -/
def length (d : Demand) : Nat := d.target.elim 0 fun start => start.length + 1

/-- Of the demands that cover a target the longest governs it. -/
structure Governs (demands : List Demand) (name : List Char) (d : Demand) : Prop where
  mem : d ∈ demands
  covers : d.Covers name
  longest : ∀ other ∈ demands, other.Covers name → other.length ≤ d.length

/-- No two demands are for the same targets, so that one at most is for all. -/
def Distinct (demands : List Demand) : Prop := (demands.map target).Nodup

instance {demands : List Demand} : Decidable (Distinct demands) :=
  inferInstanceAs (Decidable (demands.map target).Nodup)

/-- What is demanded when nothing is: a warning of all targets. -/
def default : Demand := ⟨none, Threshold.words.idxOf "warn"⟩

/-- The demands by which a filter goes. -/
def inForce (demands : List Demand) : List Demand :=
  if demands = [] then [default] else demands

theorem Distinct.inForce {demands : List Demand} (h : Distinct demands) :
    Distinct (inForce demands) := by
  unfold Demand.inForce
  split
  · decide
  · exact h

/-! ### Demands as directives -/

def directive (d : Demand) : Directive := ⟨d.target, .every, .upTo d.place⟩

section Directive
variable {d other : Demand} {demands : List Demand} {name : List Char} {event : Event}

theorem covers_directive : d.directive.covers name event = true ↔ d.Covers name := by
  obtain ⟨target, place⟩ := d
  cases target with
  | none => exact iff_of_true rfl fun _ hstart => (Option.not_mem_none _ hstart).elim
  | some start => simp [directive, Directive.covers, Scope.includes, Covers]

theorem asNarrow_directive :
    d.directive.AsNarrow other.directive ↔ other.length ≤ d.length := by
  obtain ⟨target, place⟩ := d
  obtain ⟨target', place'⟩ := other
  have hlex (m n : Nat) : [m].lex [n] (· < ·) = false ↔ n ≤ m := by simp [List.lex]
  cases target <;> cases target' <;> exact hlex _ _

/-- The demand that governs a target becomes the directive that decides. -/
theorem decides_iff_governs (hmem : d ∈ demands) :
    d.directive.Decides (demands.map directive) name event ↔ d.Governs demands name := by
  constructor
  · intro h
    refine ⟨hmem, covers_directive.mp h.covers, fun other hother hcovers => ?_⟩
    exact asNarrow_directive.mp
      (h.narrowest _ (List.mem_map_of_mem hother) (covers_directive.mpr hcovers))
  · intro h
    refine ⟨List.mem_map_of_mem hmem, covers_directive.mpr h.covers, ?_⟩
    simp only [List.forall_mem_map, covers_directive, asNarrow_directive]
    exact h.longest

theorem shown_directives_iff (hdistinct : Distinct demands) :
    shown (demands.map directive) name event = true ↔
      ∃ d, Governs demands name d ∧ event.level.rank ≤ d.place := by
  have htargets : ((demands.map directive).map Directive.target).Nodup := by
    rw [List.map_map]
    exact hdistinct
  rw [shown_iff htargets]
  constructor
  · rintro ⟨_, hdecides, hshows⟩
    obtain ⟨d, hmem, rfl⟩ := List.mem_map.mp hdecides.mem
    exact ⟨d, (decides_iff_governs hmem).mp hdecides, Threshold.shows_upTo.mp hshows⟩
  · rintro ⟨d, hgoverns, hplace⟩
    exact ⟨d.directive, (decides_iff_governs hgoverns.mem).mpr hgoverns,
      Threshold.shows_upTo.mpr hplace⟩

end Directive

/-! ### Higher demands -/

/-- The same targets and no lower a place. -/
structure Within (a b : Demand) : Prop where
  target : a.target = b.target
  place : a.place ≤ b.place

theorem Within.refl (d : Demand) : d.Within d := ⟨rfl, Nat.le_refl _⟩

theorem Within.covers_iff {a b : Demand} (h : a.Within b) (name : List Char) :
    a.Covers name ↔ b.Covers name := by
  rw [Covers, Covers, h.target]

theorem Within.length_eq {a b : Demand} (h : a.Within b) : a.length = b.length := by
  rw [length, length, h.target]

/-- Every demand is met by one of the others, and the others are for no more targets. The order
in the lists is left open. -/
structure MetBy (demands others : List Demand) : Prop where
  kept : ∀ d ∈ demands, ∃ other ∈ others, d.Within other
  only : ∀ other ∈ others, ∃ d ∈ demands, d.Within other

namespace MetBy
variable {demands others : List Demand}

theorem of_mem_iff (h : ∀ d, d ∈ others ↔ d ∈ demands) : MetBy demands others where
  kept d hd := ⟨d, (h d).mpr hd, .refl d⟩
  only d hd := ⟨d, (h d).mp hd, .refl d⟩

theorem of_forall₂ (h : List.Forall₂ Within demands others) : MetBy demands others := by
  induction h with
  | nil => exact .of_mem_iff fun _ => Iff.rfl
  | @cons d other demands others hwithin _ ih =>
    constructor
    · refine List.forall_mem_cons.mpr ⟨⟨other, List.mem_cons_self .., hwithin⟩, fun d hd => ?_⟩
      exact (ih.kept d hd).imp fun _ hother => hother.imp_left (List.mem_cons_of_mem _)
    · refine List.forall_mem_cons.mpr ⟨⟨d, List.mem_cons_self .., hwithin⟩, fun other hother => ?_⟩
      exact (ih.only other hother).imp fun _ hd => hd.imp_left (List.mem_cons_of_mem _)

theorem eq_nil_iff (h : MetBy demands others) : others = [] ↔ demands = [] := by
  constructor
  · rintro rfl
    refine List.eq_nil_iff_forall_not_mem.mpr fun d hd => ?_
    obtain ⟨other, hother, -⟩ := h.kept d hd
    cases hother
  · rintro rfl
    refine List.eq_nil_iff_forall_not_mem.mpr fun other hother => ?_
    obtain ⟨d, hd, -⟩ := h.only other hother
    cases hd

theorem inForce (h : MetBy demands others) : MetBy (inForce demands) (inForce others) := by
  unfold Demand.inForce
  by_cases hnone : demands = []
  · rw [if_pos hnone, if_pos (h.eq_nil_iff.mpr hnone)]
    exact .of_mem_iff fun _ => Iff.rfl
  · rw [if_neg hnone, if_neg fun hothers => hnone (h.eq_nil_iff.mp hothers)]
    exact h

/-- The demand that governs a target is met by the one that governs it among the others. -/
theorem governs (h : MetBy demands others) {name : List Char} {d : Demand}
    (hd : d.Governs demands name) : ∃ other, other.Governs others name ∧ d.Within other := by
  obtain ⟨other, hmem, hwithin⟩ := h.kept d hd.mem
  refine ⟨other, ⟨hmem, (hwithin.covers_iff name).mp hd.covers, fun rival hrival hcovers => ?_⟩,
    hwithin⟩
  -- A rival among the others is as long as a demand that it meets, and that did not govern.
  obtain ⟨lower, hlower, hmet⟩ := h.only rival hrival
  rw [← hmet.length_eq, ← hwithin.length_eq]
  exact hd.longest lower hlower ((hmet.covers_iff name).mpr hcovers)

end MetBy

end Demand

/-! ### The parts of a filter -/

namespace Part

/-- What a part demands. A target alone demands everything. -/
def demand? : Part → Option Demand
  | alone word => match Threshold.place? word.text with
    | some place => some ⟨none, place⟩
    | none => some ⟨some word.text, Threshold.words.idxOf "trace"⟩
  | paired target level _ => (Threshold.place? level).map fun place => ⟨some target.text, place⟩
  | empty | mispaired .. => none

def demands (parts : List Part) : List Demand := parts.filterMap demand?

/-- A part is read as what it demands. -/
theorem read_text (part : Part) :
    (Directive.read part.text).toOption = part.demand?.map Demand.directive := by
  cases part with
  | empty => rfl
  | alone word =>
    rw [text, word.read_alone, Threshold.read_eq, demand?]
    cases Threshold.place? word.text <;> rfl
  | paired target level hlevel =>
    rw [text, target.read_paired hlevel.ne_nil, Threshold.read_eq, demand?]
    cases Threshold.place? level <;> rfl
  | mispaired target level hlevel hne =>
    rw [← Threshold.isSome_read_iff, Option.not_isSome_iff_eq_none] at hlevel
    rw [text, target.read_paired hne, hlevel]
    rfl

/-- A filter's directives are the demands in force. -/
theorem directives_write (parts : List Part) :
    (Filter.read (write parts)).directives =
      (Demand.inForce (demands parts)).map Demand.directive := by
  have hread : (Filter.parts (write parts)).filterMap (fun part => (Directive.read part).toOption) =
      (demands parts).map Demand.directive := by
    rw [demands, List.map_filterMap]
    exact filterMap_parts_write rfl (fun part _ => part.read_text) parts
  show (if _ = [] then [Directive.default] else _) = _
  rw [hread, Demand.inForce]
  cases demands parts <;> rfl

section Filter
variable {parts others : List Part} {target : List Char} {event : Event}

/-- **A filter shows an event if the demand that governs its target reaches its level.** -/
theorem shows_write_iff (hdistinct : Demand.Distinct (demands parts)) :
    (Filter.read (write parts)).shows target event = true ↔
      ∃ d, Demand.Governs (Demand.inForce (demands parts)) target d ∧
        event.level.rank ≤ d.place := by
  rw [Filter.shows, directives_write]
  exact Demand.shown_directives_iff hdistinct.inForce

/-- **A filter whose demands are met by another's shows nothing that the other does not.** -/
theorem shows_of_metBy (hparts : Demand.Distinct (demands parts))
    (hothers : Demand.Distinct (demands others))
    (h : Demand.MetBy (demands parts) (demands others))
    (hshows : (Filter.read (write parts)).shows target event = true) :
    (Filter.read (write others)).shows target event = true := by
  rw [shows_write_iff hparts] at hshows
  rw [shows_write_iff hothers]
  obtain ⟨d, hgoverns, hplace⟩ := hshows
  obtain ⟨other, hother, hwithin⟩ := h.inForce.governs hgoverns
  exact ⟨other, hother, hplace.trans hwithin.place⟩

/-- A part in the place of another, with the same demand or a higher one. -/
def RaisedTo (part other : Part) : Prop := Option.Rel Demand.Within part.demand? other.demand?

theorem forall₂_demands (h : List.Forall₂ RaisedTo parts others) :
    List.Forall₂ Demand.Within (demands parts) (demands others) :=
  List.rel_filterMap (fun _ _ h => h) h

/-- Raised demands are for the same targets. -/
theorem distinct_of_raised (h : List.Forall₂ RaisedTo parts others)
    (hdistinct : Demand.Distinct (demands parts)) : Demand.Distinct (demands others) := by
  have htargets : (demands parts).map Demand.target = (demands others).map Demand.target := by
    rw [← List.forall₂_eq_eq_eq, List.forall₂_map_left_iff, List.forall₂_map_right_iff]
    exact (forall₂_demands h).imp fun _ _ hwithin => hwithin.target
  rw [Demand.Distinct, ← htargets]
  exact hdistinct

end Filter

end Part

end SlotSwap.Log
