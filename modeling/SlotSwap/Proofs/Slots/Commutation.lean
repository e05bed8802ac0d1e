import Mathlib.GroupTheory.Perm.Support
import SlotSwap.Proofs.Slots.Contents

/-! Which calls commute.

Two calls can be made in either order. Each has the same result both ways, for results hang
on the number of slots alone. What the slots hold in the end may differ, but only when both
calls succeed and have just one position in common: then the values of three slots go round
in one direction or in the other, and the two directions agree exactly when the three values
are the same (`calls_commute`). -/
namespace SlotSwap.Slots

/-- The positions that a call names. -/
def positions (call : Call) : Finset Nat := {call.1, call.2}

variable {slots : List α} {a b : Call}

/-! ### A call by its positions -/

theorem positions_eq_iff : positions a = positions b ↔ a = b ∨ a = b.swap := by
  rw [← Finset.coe_inj, positions, positions, Finset.coe_pair, Finset.coe_pair,
    Set.pair_eq_pair_iff]
  simp [Prod.ext_iff]

/-- The slots do not tell in which order the positions were given. -/
theorem slots_swapAt_congr (h : positions a = positions b) :
    (swapAt slots a.1 a.2).slots = (swapAt slots b.1 b.2).slots := by
  rcases positions_eq_iff.mp h with rfl | rfl
  · rfl
  · exact slots_swapAt_comm slots b.2 b.1

theorem apart_congr {length : Nat} (h : positions a = positions b) (ha : Apart length a) :
    Apart length b := by
  rcases positions_eq_iff.mp h with rfl | rfl
  · exact ha
  · exact ha.turned

/-- Two calls that each name the positions of another leave what the others leave. -/
theorem run_pair_congr {c d : Call} (ha : positions a = positions c)
    (hb : positions b = positions d) : run slots [a, b] = run slots [c, d] := by
  show (swapAt (swapAt slots a.1 a.2).slots b.1 b.2).slots =
    (swapAt (swapAt slots c.1 c.2).slots d.1 d.2).slots
  rw [slots_swapAt_congr ha, slots_swapAt_congr hb]

/-! ### Calls that commute -/

/-- A refused call is refused behind any other, too, and leaves the other to itself. -/
theorem run_comm_of_not_apart (h : ¬Apart slots.length a) (b : Call) :
    run slots [a, b] = run slots [b, a] := by
  have hbehind : ¬Apart (swapAt slots b.1 b.2).slots.length a := by rwa [length_swapAt]
  show (swapAt (swapAt slots a.1 a.2).slots b.1 b.2).slots =
    (swapAt (swapAt slots b.1 b.2).slots a.1 a.2).slots
  rw [slots_swapAt_of_not_apart h, slots_swapAt_of_not_apart hbehind]

/-- To find where a value comes from, two calls are read backwards. -/
theorem getElem?_run_pair (ha : Apart slots.length a) (hb : Apart slots.length b) (k : Nat) :
    (run slots [a, b])[k]? = slots[Equiv.swap a.1 a.2 (Equiv.swap b.1 b.2 k)]? := by
  have hbehind : Apart (swapAt slots a.1 a.2).slots.length b := by rwa [length_swapAt]
  show (swapAt (swapAt slots a.1 a.2).slots b.1 b.2).slots[k]? = _
  rw [getElem?_swapAt_swap hbehind, getElem?_swapAt_swap ha]

theorem run_comm_of_disjoint (ha : Apart slots.length a) (hb : Apart slots.length b)
    (h : Disjoint (positions a) (positions b)) : run slots [a, b] = run slots [b, a] := by
  have hnodup : [a.1, a.2, b.1, b.2].Nodup := by
    have hfirst := ha.2.2
    have hsecond := hb.2.2
    simp only [positions, Finset.disjoint_insert_left, Finset.disjoint_singleton_left,
      Finset.mem_insert, Finset.mem_singleton, not_or] at h
    simp [hfirst, hsecond, h]
  have hswaps := (Equiv.Perm.disjoint_swap_swap hnodup).commute
  refine List.ext_getElem? fun k => ?_
  rw [getElem?_run_pair ha hb, getElem?_run_pair hb ha]
  exact congrArg (slots[·]?) (DFunLike.congr_fun hswaps k)

/-- A call on slots of one value moves nothing that could be seen. -/
theorem slots_swapAt_of_same_value {i j : Nat} {value : α} (hi : slots[i]? = some value)
    (hj : slots[j]? = some value) : (swapAt slots i j).slots = slots := by
  obtain ⟨_, hvalue⟩ := List.getElem?_eq_some_iff.mp hi
  obtain ⟨_, hother⟩ := List.getElem?_eq_some_iff.mp hj
  rw [slots_swapAt_eq_set hi hj, ← hvalue, List.set_getElem_self, hvalue, ← hother,
    List.set_getElem_self]

theorem run_comm_of_same_value {value : α}
    (h : ∀ k ∈ positions a ∪ positions b, slots[k]? = some value) :
    run slots [a, b] = run slots [b, a] := by
  have ha : (swapAt slots a.1 a.2).slots = slots :=
    slots_swapAt_of_same_value (h _ (by simp [positions])) (h _ (by simp [positions]))
  have hb : (swapAt slots b.1 b.2).slots = slots :=
    slots_swapAt_of_same_value (h _ (by simp [positions])) (h _ (by simp [positions]))
  simp only [run, ha, hb]

/-! ### Calls that share one position -/

/-- The other position of a call. -/
theorem exists_positions_eq {p : Nat} (hdifferent : a.1 ≠ a.2) (hp : p ∈ positions a) :
    ∃ q, p ≠ q ∧ positions a = {p, q} := by
  obtain ⟨i, j⟩ := a
  rcases Finset.mem_insert.mp hp with rfl | hp
  · exact ⟨j, hdifferent, rfl⟩
  · obtain rfl := Finset.mem_singleton.mp hp
    exact ⟨i, hdifferent.symm, Finset.pair_comm i p⟩

/-- Two different ways round three slots lead to the same end only if their values are the
same: the shared slot ends with the value of either of the others. -/
theorem same_value_of_run_eq {p q r : Nat} (hpq : Apart slots.length (p, q))
    (hpr : Apart slots.length (p, r)) (hqr : q ≠ r)
    (h : run slots [(p, q), (p, r)] = run slots [(p, r), (p, q)]) :
    slots[q]? = slots[p]? ∧ slots[r]? = slots[p]? := by
  have hvalue (k : Nat) :
      slots[Equiv.swap p q (Equiv.swap p r k)]? = slots[Equiv.swap p r (Equiv.swap p q k)]? := by
    rw [← getElem?_run_pair hpq hpr, ← getElem?_run_pair hpr hpq, h]
  have hatr := hvalue r
  have hatq := hvalue q
  rw [Equiv.swap_apply_right, Equiv.swap_apply_left,
    Equiv.swap_apply_of_ne_of_ne hpr.2.2.symm hqr.symm, Equiv.swap_apply_right] at hatr
  rw [Equiv.swap_apply_right, Equiv.swap_apply_left,
    Equiv.swap_apply_of_ne_of_ne hpq.2.2.symm hqr, Equiv.swap_apply_right] at hatq
  exact ⟨hatr, hatq.symm⟩

theorem run_comm_iff_of_card_eq_one (ha : Apart slots.length a) (hb : Apart slots.length b)
    (hshared : (positions a ∩ positions b).card = 1) :
    run slots [a, b] = run slots [b, a] ↔
      ∃ value, ∀ k ∈ positions a ∪ positions b, slots[k]? = some value := by
  refine ⟨fun h => ?_, fun ⟨_, h⟩ => run_comm_of_same_value h⟩
  obtain ⟨p, hp⟩ := Finset.card_eq_one.mp hshared
  have hmem : p ∈ positions a ∩ positions b := hp ▸ Finset.mem_singleton_self p
  obtain ⟨q, -, haq⟩ := exists_positions_eq ha.2.2 (Finset.mem_inter.mp hmem).1
  obtain ⟨r, hpr, hbr⟩ := exists_positions_eq hb.2.2 (Finset.mem_inter.mp hmem).2
  have hqr : q ≠ r := by
    rintro rfl
    have : q ∈ positions a ∩ positions b := by simp [haq, hbr]
    rw [hp, Finset.mem_singleton] at this
    exact hpr this.symm
  have haway : Apart slots.length (p, q) := apart_congr (b := (p, q)) haq ha
  have hround : Apart slots.length (p, r) := apart_congr (b := (p, r)) hbr hb
  have hrun : run slots [(p, q), (p, r)] = run slots [(p, r), (p, q)] := by
    have hthere : run slots [a, b] = run slots [(p, q), (p, r)] := run_pair_congr haq hbr
    have hback : run slots [b, a] = run slots [(p, r), (p, q)] := run_pair_congr hbr haq
    rw [← hthere, h, hback]
  obtain ⟨hq, hr⟩ := same_value_of_run_eq haway hround hqr hrun
  obtain ⟨value, hvalue⟩ : ∃ value, slots[p]? = some value :=
    ⟨_, List.getElem?_eq_getElem haway.1⟩
  refine ⟨value, fun k hk => ?_⟩
  rw [haq, hbr] at hk
  simp only [Finset.mem_union, Finset.mem_insert, Finset.mem_singleton] at hk
  rcases hk with (rfl | rfl) | (rfl | rfl)
  · exact hvalue
  · exact hq.trans hvalue
  · exact hvalue
  · exact hr.trans hvalue

/-- **When two calls commute.** Whatever the order, each has the same result. If one of them
is refused, or both name the same positions or none in common, the slots are the same at the
end. If both succeed and have one position in common, the slots are the same exactly when
the slots named by the two calls hold one value. -/
theorem calls_commute (slots : List α) (a b : Call) :
    results slots [b, a] = (results slots [a, b]).reverse ∧
      ((swapAt slots a.1 a.2).result ≠ .ok () ∨ (swapAt slots b.1 b.2).result ≠ .ok () ∨
          positions a = positions b ∨ Disjoint (positions a) (positions b) →
        run slots [a, b] = run slots [b, a]) ∧
      ((swapAt slots a.1 a.2).result = .ok () → (swapAt slots b.1 b.2).result = .ok () →
        (positions a ∩ positions b).card = 1 →
        (run slots [a, b] = run slots [b, a] ↔
          ∃ value, ∀ k ∈ positions a ∪ positions b, slots[k]? = some value)) := by
  refine ⟨?_, fun h => ?_, fun ha hb hshared => ?_⟩
  · rw [results_eq_swapEmpty, results_eq_swapEmpty]
    rfl
  · by_cases ha : Apart slots.length a
    · by_cases hb : Apart slots.length b
      · rcases h with h | h | h | h
        · exact absurd (result_swapAt_eq_ok_iff.mpr ha) h
        · exact absurd (result_swapAt_eq_ok_iff.mpr hb) h
        · exact run_pair_congr h h.symm
        · exact run_comm_of_disjoint ha hb h
      · exact (run_comm_of_not_apart hb a).symm
    · exact run_comm_of_not_apart ha b
  · exact run_comm_iff_of_card_eq_one (result_swapAt_eq_ok_iff.mp ha)
      (result_swapAt_eq_ok_iff.mp hb) hshared

/-- Calls that share a position: on three different values, on one value, and with one of
them refused. -/
theorem calls_commute_chain :
    let a : Call := (2, 0)
    let b : Call := (2, 1)
    (run [1, 2, 3] [a, b] ≠ run [1, 2, 3] [b, a] ∧
      run [7, 7, 7, 5] [a, b] = run [7, 7, 7, 5] [b, a]) ∧
      run [1, 2, 3] [a, (2, 9)] = run [1, 2, 3] [(2, 9), a] ∧
      run [1, 2, 3] [a, (0, 2)] = run [1, 2, 3] [(0, 2), a] := by
  intro a b
  have hdifferent := (calls_commute [1, 2, 3] a b).2.2 rfl rfl (by decide)
  have hsame := (calls_commute [7, 7, 7, 5] a b).2.2 rfl rfl (by decide)
  refine ⟨⟨fun h => ?_, hsame.mpr ⟨7, by decide⟩⟩, ?_, ?_⟩
  · obtain ⟨value, hvalue⟩ := hdifferent.mp h
    have hfirst := hvalue 0 (by decide)
    have hsecond := hvalue 1 (by decide)
    rw [← hsecond] at hfirst
    exact absurd hfirst (by decide)
  · exact (calls_commute [1, 2, 3] a (2, 9)).2.1 (.inr (.inl (by decide)))
  · exact (calls_commute [1, 2, 3] a (0, 2)).2.1 (.inr (.inr (.inl (by decide))))

end SlotSwap.Slots
