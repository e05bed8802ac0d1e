import SlotSwap.Proofs.Log.Demand
import SlotSwap.Proofs.Program.Diagnostics

/-! Which events a run shows.

A run shows those of its events that its filter selects, and of the filter only the demands of
its parts count: not their order, not the empty parts and not those without a proper level,
which stand between them (`demands_alone_select`). Where a demand is raised no event is lost.
Both rest on one comparison of two filters (`printed_sublist`); the first is that comparison
made both ways. -/
namespace SlotSwap.Program
open Log Log.Console Text

/-- The events that a run shows. -/
def printed (environment : Environment) : List Emitted :=
  selected environment.readFilter events

/-- An environment's filter is written with these parts; one that is not set, with none. -/
def Environment.HasParts (environment : Environment) (parts : List Part) : Prop :=
  (environment.filter.getD "").toList = Part.write parts

/-- No two of the parts are for the same targets: for a target there is at most one directive,
and at most one is for all targets. -/
def OnePerTarget (parts : List Part) : Prop := Demand.Distinct (Part.demands parts)

section Comparison
variable {before after : Environment} {parts others : List Part}

theorem mem_printed_iff (hbefore : before.HasParts parts) (hdistinct : OnePerTarget parts)
    (e : Emitted) : e ∈ printed before ↔ e ∈ events ∧
      ∃ d, Demand.Governs (Demand.inForce (Part.demands parts)) e.target.toList d ∧
        e.event.level.rank ≤ d.place := by
  rw [printed, selected, List.mem_filter, Environment.readFilter, hbefore,
    Part.shows_write_iff hdistinct]

/-- A filter whose demands are met by another's shows no event that the other does not. -/
theorem printed_sublist (hbefore : before.HasParts parts) (hafter : after.HasParts others)
    (hparts : OnePerTarget parts) (hothers : OnePerTarget others)
    (h : Demand.MetBy (Part.demands parts) (Part.demands others)) :
    (printed before).Sublist (printed after) := by
  rw [printed, printed, Environment.readFilter, Environment.readFilter, hbefore, hafter]
  exact List.monotone_filter_right events fun e hshows =>
    Part.shows_of_metBy hparts hothers h hshows

/-- Filters with the same demands show the same events. -/
theorem printed_eq (hbefore : before.HasParts parts) (hafter : after.HasParts others)
    (hparts : OnePerTarget parts) (hothers : OnePerTarget others)
    (h : ∀ demand, demand ∈ Part.demands others ↔ demand ∈ Part.demands parts) :
    printed after = printed before :=
  (printed_sublist hafter hbefore hothers hparts (.of_mem_iff fun d => (h d).symm)).antisymm
    (printed_sublist hbefore hafter hparts hothers (.of_mem_iff h))

/-- Other parts in between demand nothing, and where a part stands is all one. -/
theorem demands_perm {added : List Part} (hadded : ∀ part ∈ added, part.demand? = none)
    (h : others.Perm (parts ++ added)) : (Part.demands others).Perm (Part.demands parts) := by
  have hnone : added.filterMap Part.demand? = [] := List.filterMap_eq_nil_iff.mpr hadded
  have hperm := h.filterMap Part.demand?
  rw [List.filterMap_append, hnone, List.append_nil] at hperm
  exact hperm

end Comparison

/-- **The demands of a filter alone select the events, and higher demands select no fewer.**
What a run says is the report of the dropped parts and then the events that are printed. Let no
two directives be for the same targets. Then an event is printed if the longest demand that
covers its target reaches its level, and the same events are printed under any filter with the
same set of demands: the parts may be put in another order, and empty parts and targets without
a proper level may be added anywhere. With levels replaced by the same or more detailed ones,
where a target alone counts as the most detailed, all that was printed still is. -/
theorem demands_alone_select {before after : Environment} {parts others : List Part}
    (hbefore : before.HasParts parts) (hafter : after.HasParts others)
    (hdistinct : OnePerTarget parts) :
    (∀ environment, (run environment).diagnostics =
      String.join (environment.readFilter.dropped.map droppedLine) ++
        String.join ((printed environment).map fun e => line environment.colours e.event)) ∧
    (∀ e, e ∈ printed before ↔ e ∈ events ∧
      ∃ d, Demand.Governs (Demand.inForce (Part.demands parts)) e.target.toList d ∧
        e.event.level.rank ≤ d.place) ∧
    (OnePerTarget others →
      (∀ demand, demand ∈ Part.demands others ↔ demand ∈ Part.demands parts) →
      printed after = printed before) ∧
    (∀ added, (∀ part ∈ added, part.demand? = none) → others.Perm (parts ++ added) →
      printed after = printed before) ∧
    (List.Forall₂ Part.RaisedTo parts others → (printed before).Sublist (printed after)) := by
  refine ⟨fun environment => rfl, mem_printed_iff hbefore hdistinct,
    printed_eq hbefore hafter hdistinct, fun added hadded horder => ?_, fun hraised => ?_⟩
  · have hperm := demands_perm hadded horder
    have hothers : OnePerTarget others := (hperm.map Demand.target).nodup_iff.mpr hdistinct
    exact printed_eq hbefore hafter hdistinct hothers fun _ => hperm.mem_iff
  · have hmet := Demand.MetBy.of_forall₂ (Part.forall₂_demands hraised)
    exact printed_sublist hbefore hafter hdistinct (Part.distinct_of_raised hraised hdistinct) hmet

/-- In another order and with a target without a proper level and an empty part among them the
directives show the same two events. With one of them raised all three are shown. -/
theorem demands_alone_select_mixed :
    let before : Environment := ⟨[], some "exchange::demo=info,exchange,warn", some "1"⟩
    let mixed : Environment :=
      ⟨["-v"], some "exchange=bogus,,warn,exchange,exchange::demo=info", none⟩
    let raised : Environment := ⟨[], some "exchange::demo=4,exchange=trace,INFO", none⟩
    printed mixed = printed before ∧ (printed before).Sublist (printed raised) ∧
      (printed before).map (·.event.message) = ["after exchange", "exiting"] ∧
      (printed raised).map (·.event.message) =
        ["before exchange", "after exchange", "exiting"] := by
  intro before mixed raised
  let demo : Word := ⟨"exchange::demo".toList, by decide, by simp⟩
  let program : Word := ⟨"exchange".toList, by decide, by simp⟩
  let warn : Word := ⟨"warn".toList, by decide, by simp⟩
  let info : Word := ⟨"INFO".toList, by decide, by simp⟩
  let parts : List Part :=
    [.paired demo "info".toList (by decide), .alone program, .alone warn]
  let added : List Part :=
    [.empty, .mispaired program "bogus".toList (by decide) (by decide) (by decide)]
  let higher : List Part := [.paired demo "4".toList (by decide),
    .paired program "trace".toList (by decide), .alone info]
  have hbefore : before.HasParts parts := by
    simp [Environment.HasParts, before, parts, Part.write, Part.text, demo, program, warn]
  have hmixed : mixed.HasParts (parts ++ added).reverse := by
    simp [Environment.HasParts, mixed, parts, added, Part.write, Part.text, demo, program, warn]
  have hraised : raised.HasParts higher := by
    simp [Environment.HasParts, raised, higher, Part.write, Part.text, demo, program, info]
  have hdemands : Part.demands parts =
      [⟨some demo.text, 3⟩, ⟨some program.text, 5⟩, ⟨none, 2⟩] := by
    decide +kernel
  have hdistinct : OnePerTarget parts := by
    rw [OnePerTarget, hdemands]
    decide
  obtain ⟨-, -, -, hreordered, -⟩ := demands_alone_select hbefore hmixed hdistinct
  obtain ⟨-, -, -, -, hhigher⟩ := demands_alone_select hbefore hraised hdistinct
  refine ⟨hreordered added (by simp [added, Part.demand?]) (List.reverse_perm _), hhigher ?_,
    by decide +kernel, by decide +kernel⟩
  exact .cons (.some ⟨rfl, by decide⟩) (.cons (.some ⟨rfl, by decide⟩)
    (.cons (.some ⟨rfl, by decide⟩) .nil))

end SlotSwap.Program
