/-! Hexadecimal numerals.

A number is written in base sixteen, most significant digit first, in small or in
capital letters. It comes back from its digits in letters of either case, and zeros
in front of them change nothing, so that different numbers have different numerals
(`eq_of_zeros_append_eq`). -/
namespace SlotSwap.Text.Hexadecimal

/-- The digits in small letters. -/
def digits (n : Nat) : List Char := Nat.toDigits 16 n

/-- The digits in capital letters. -/
def capitals (n : Nat) : List Char := (digits n).map Char.toUpper

/-- The worth of a digit in small or capital letters, if it is one. -/
def digitValue? (c : Char) : Option Nat :=
  if '0' ≤ c ∧ c ≤ '9' then some (c.toNat - '0'.toNat)
  else if 'a' ≤ c ∧ c ≤ 'f' then some (c.toNat - 'a'.toNat + 10)
  else if 'A' ≤ c ∧ c ≤ 'F' then some (c.toNat - 'A'.toNat + 10)
  else none

/-- What a run of digits is worth, in letters of either case. -/
def valueOf (ds : List Char) : Nat :=
  ds.foldl (fun sofar c => 16 * sofar + (digitValue? c).getD 0) 0

theorem valueOf_append_singleton (text : List Char) (c : Char) :
    valueOf (text ++ [c]) = 16 * valueOf text + (digitValue? c).getD 0 := List.foldl_append

theorem valueOf_zeros_append (zeros : Nat) (text : List Char) :
    valueOf (List.replicate zeros '0' ++ text) = valueOf text := by
  induction zeros with
  | zero => rfl
  | succ zeros ih => exact ih

/-! ### Digits -/

theorem digitValue?_digitChar {d : Nat} (h : d < 16) :
    digitValue? (Nat.digitChar d) = some d := by
  revert d
  decide

theorem digitValue?_toUpper_digitChar {d : Nat} (h : d < 16) :
    digitValue? (Nat.digitChar d).toUpper = some d := by
  revert d
  decide

theorem exists_digitChar_of_mem_digits {n : Nat} {c : Char} (h : c ∈ digits n) :
    ∃ d < 16, c = Nat.digitChar d := by
  induction n using Nat.strongRecOn with
  | ind n ih =>
    by_cases hn : n < 16
    · rw [digits, Nat.toDigits_of_lt_base hn] at h
      exact ⟨n, hn, List.mem_singleton.mp h⟩
    · rw [digits, Nat.toDigits_of_base_le (by decide) (Nat.le_of_not_lt hn)] at h
      rcases List.mem_append.mp h with h | h
      · exact ih (n / 16) (by omega) h
      · exact ⟨n % 16, Nat.mod_lt n (by decide), List.mem_singleton.mp h⟩

theorem not_mem_digits {c : Char} (h : digitValue? c = none) (n : Nat) : c ∉ digits n := by
  intro hc
  obtain ⟨d, hd, rfl⟩ := exists_digitChar_of_mem_digits hc
  rw [digitValue?_digitChar hd] at h
  cases h

theorem not_mem_capitals {c : Char} (h : digitValue? c = none) (n : Nat) : c ∉ capitals n := by
  intro hc
  obtain ⟨small, hsmall, rfl⟩ := List.mem_map.mp hc
  obtain ⟨d, hd, rfl⟩ := exists_digitChar_of_mem_digits hsmall
  rw [digitValue?_toUpper_digitChar hd] at h
  cases h

/-! ### Numerals -/

/-- A number comes back from its digits, in any letters that leave each digit its worth. -/
theorem valueOf_map_digits (letter : Char → Char)
    (hletter : ∀ d < 16, digitValue? (letter (Nat.digitChar d)) = some d) (n : Nat) :
    valueOf ((digits n).map letter) = n := by
  induction n using Nat.strongRecOn with
  | ind n ih =>
    by_cases hn : n < 16
    · rw [digits, Nat.toDigits_of_lt_base hn, List.map_singleton, ← List.nil_append [_],
        valueOf_append_singleton, hletter n hn]
      exact Nat.zero_add n
    · have hlast := hletter (n % 16) (Nat.mod_lt n (by decide))
      have hfront := ih (n / 16) (by omega)
      rw [digits] at hfront
      rw [digits, Nat.toDigits_of_base_le (by decide) (Nat.le_of_not_lt hn), List.map_append,
        List.map_singleton, valueOf_append_singleton, hfront, hlast]
      exact Nat.div_add_mod n 16

theorem valueOf_digits (n : Nat) : valueOf (digits n) = n := by
  have h := valueOf_map_digits id (fun _ => digitValue?_digitChar) n
  rwa [List.map_id] at h

theorem valueOf_capitals (n : Nat) : valueOf (capitals n) = n :=
  valueOf_map_digits Char.toUpper (fun _ => digitValue?_toUpper_digitChar) n

/-- Numerals of different numbers differ, whatever zeros stand in front of them. -/
theorem eq_of_zeros_append_eq {spell : Nat → List Char} (hspell : ∀ n, valueOf (spell n) = n)
    {m n zeros zeros' : Nat}
    (h : List.replicate zeros '0' ++ spell m = List.replicate zeros' '0' ++ spell n) : m = n := by
  have hvalue := congrArg valueOf h
  rwa [valueOf_zeros_append, valueOf_zeros_append, hspell, hspell] at hvalue

end SlotSwap.Text.Hexadecimal
