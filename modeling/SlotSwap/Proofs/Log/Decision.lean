import Mathlib.Data.List.Nodup
import SlotSwap.Log.Display

/-! The directive that decides.

Of the directives that cover an event a filter takes the narrowest, the later of two alike. Two
that cover the same event and are alike have the same target, so that where every directive has
a target of its own there are no two alike: which one decides is then said without any order
among the directives (`decisive_eq_some_iff`), and so is what is shown (`shown_iff`). -/
namespace SlotSwap.Log

/-! ### The narrowest directive -/

/-- A directive is as narrow as another, or narrower. -/
def Directive.AsNarrow (d other : Directive) : Prop :=
  d.narrowness.lex other.narrowness (· < ·) = false

namespace Directive.AsNarrow
variable {a b c : Directive}

theorem refl (a : Directive) : a.AsNarrow a :=
  List.lex_eq_false_iff_ge.mpr (List.le_refl _)

theorem trans (hab : a.AsNarrow b) (hbc : b.AsNarrow c) : a.AsNarrow c := by
  rw [AsNarrow, List.lex_eq_false_iff_ge] at *
  exact List.le_trans hbc hab

theorem antisymm (hab : a.AsNarrow b) (hba : b.AsNarrow a) : a.narrowness = b.narrowness := by
  rw [AsNarrow, List.lex_eq_false_iff_ge] at *
  exact List.le_antisymm hba hab

theorem of_not (h : ¬a.AsNarrow b) : b.AsNarrow a := by
  rw [AsNarrow, List.lex_eq_false_iff_ge] at *
  exact (List.le_total _ _).resolve_left h

end Directive.AsNarrow

/-- One step keeps one of two directives, one that is as narrow as both. -/
theorem narrower_some (best d : Directive) :
    ∃ first, narrower (some best) d = some first ∧ (first = best ∨ first = d) ∧
      first.AsNarrow best ∧ first.AsNarrow d := by
  by_cases h : d.AsNarrow best
  · refine ⟨d, ?_, .inr rfl, h, .refl d⟩
    rw [narrower, h]
    rfl
  · refine ⟨best, ?_, .inl rfl, .refl best, .of_not h⟩
    rw [narrower, if_pos ((Bool.not_eq_false _).mp h)]

/-- What is left in the end is as narrow as all that was seen. -/
theorem foldl_narrower (directives : List Directive) (best : Directive) :
    ∃ d ∈ best :: directives, directives.foldl narrower (some best) = some d ∧
      ∀ other ∈ best :: directives, d.AsNarrow other := by
  -- Along the list: what was kept so far is as narrow as all before it.
  induction directives generalizing best with
  | nil => exact ⟨best, List.mem_cons_self .., rfl, by simpa using .refl best⟩
  | cons next directives ih =>
    obtain ⟨first, hstep, hfirst, hbest, hnext⟩ := narrower_some best next
    obtain ⟨d, hmem, hrun, hall⟩ := ih first
    have hd : d.AsNarrow first := hall first (List.mem_cons_self ..)
    refine ⟨d, ?_, ?_, ?_⟩
    · rcases List.mem_cons.mp hmem with rfl | hmem
      · rcases hfirst with rfl | rfl <;> simp
      · exact List.mem_cons_of_mem _ (List.mem_cons_of_mem _ hmem)
    · rw [List.foldl_cons, hstep, hrun]
    · simp only [List.forall_mem_cons] at hall ⊢
      exact ⟨hd.trans hbest, hd.trans hnext, hall.2⟩

/-- The directive that decides on an event, if one covers it. -/
def decisive (directives : List Directive) (target : List Char) (event : Event) :
    Option Directive :=
  (directives.filter (·.covers target event)).foldl narrower none

theorem shown_eq (directives : List Directive) (target : List Char) (event : Event) :
    shown directives target event =
      (decisive directives target event).any (·.threshold.shows event.level) := by
  show Threshold.shows ((decisive directives target event).bind (·.threshold)) _ = _
  cases decisive directives target event <;> rfl

/-- A directive decides on an event if it covers it and is as narrow as all that do. -/
structure Directive.Decides (directives : List Directive) (target : List Char) (event : Event)
    (d : Directive) : Prop where
  mem : d ∈ directives
  covers : d.covers target event = true
  narrowest : ∀ other ∈ directives, other.covers target event = true → d.AsNarrow other

section Decision
variable {directives : List Directive} {target : List Char} {event : Event} {d : Directive}

/-- When a directive covers an event, one decides on it. -/
theorem exists_decisive (hmem : d ∈ directives) (hcovers : d.covers target event = true) :
    ∃ first, decisive directives target event = some first ∧
      first.Decides directives target event := by
  have hcovering : d ∈ directives.filter (·.covers target event) :=
    List.mem_filter.mpr ⟨hmem, hcovers⟩
  obtain ⟨best, others, hsplit⟩ := List.exists_cons_of_ne_nil (List.ne_nil_of_mem hcovering)
  obtain ⟨first, hfirst, hrun, hall⟩ := foldl_narrower others best
  rw [← hsplit] at hfirst hall
  obtain ⟨hfirst, hcovers⟩ := List.mem_filter.mp hfirst
  refine ⟨first, ?_, hfirst, hcovers, fun other hother hcovers => ?_⟩
  · rw [decisive, hsplit]
    exact hrun
  · exact hall other (List.mem_filter.mpr ⟨hother, hcovers⟩)

theorem decides_of_decisive (h : decisive directives target event = some d) :
    d.Decides directives target event := by
  have hne : directives.filter (·.covers target event) ≠ [] := by
    intro hnone
    rw [decisive, hnone] at h
    cases h
  obtain ⟨other, hother⟩ := List.exists_mem_of_ne_nil _ hne
  obtain ⟨hmem, hcovers⟩ := List.mem_filter.mp hother
  obtain ⟨first, hfirst, hdecides⟩ := exists_decisive hmem hcovers
  rw [h] at hfirst
  cases hfirst
  exact hdecides

/-- Two beginnings of one name that are as long as each other are the same. -/
theorem Directive.target_eq_of_narrowness {a b : Directive} (ha : a.covers target event = true)
    (hb : b.covers target event = true) (h : a.narrowness = b.narrowness) :
    a.target = b.target := by
  obtain ⟨ta, sa, la⟩ := a
  obtain ⟨tb, sb, lb⟩ := b
  simp only [covers, Bool.and_eq_true] at ha hb
  -- Narrowness begins with the length of the target.
  have hlength := (List.cons.inj h).1
  cases ta with
  | none =>
    cases tb with
    | none => rfl
    | some start => simp at hlength
  | some start =>
    cases tb with
    | none => simp at hlength
    | some start' =>
      have hstart := List.isPrefixOf_iff_prefix.mp ha.1
      have hstart' := List.isPrefixOf_iff_prefix.mp hb.1
      simp only [Nat.add_right_cancel_iff] at hlength
      have hbegins := List.prefix_of_prefix_length_le hstart hstart' (Nat.le_of_eq hlength)
      rw [hbegins.eq_of_length hlength]

/-- Where every directive has a target of its own, at most one decides. -/
theorem Directive.Decides.unique {other : Directive}
    (hdistinct : (directives.map Directive.target).Nodup)
    (hd : d.Decides directives target event) (hother : other.Decides directives target event) :
    d = other := by
  have hnarrowness : d.narrowness = other.narrowness :=
    (hd.narrowest other hother.mem hother.covers).antisymm
      (hother.narrowest d hd.mem hd.covers)
  have htarget := target_eq_of_narrowness hd.covers hother.covers hnarrowness
  exact List.inj_on_of_nodup_map hdistinct hd.mem hother.mem htarget

/-- Where every directive has a target of its own, their order does not matter. -/
theorem decisive_eq_some_iff (hdistinct : (directives.map Directive.target).Nodup) :
    decisive directives target event = some d ↔ d.Decides directives target event := by
  refine ⟨decides_of_decisive, fun hd => ?_⟩
  obtain ⟨first, hfirst, hdecides⟩ := exists_decisive hd.mem hd.covers
  rw [hfirst, hdecides.unique hdistinct hd]

/-- An event is shown when the directive that decides on it shows its level. -/
theorem shown_iff (hdistinct : (directives.map Directive.target).Nodup) :
    shown directives target event = true ↔
      ∃ d : Directive, d.Decides directives target event ∧
        d.threshold.shows event.level = true := by
  rw [shown_eq, Option.any_eq_true]
  exact exists_congr fun _ => and_congr_left fun _ => decisive_eq_some_iff hdistinct

end Decision

end SlotSwap.Log
