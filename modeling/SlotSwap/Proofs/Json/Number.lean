import Mathlib.Data.List.TakeWhile
import SlotSwap.Json.Number
import SlotSwap.Proofs.Text.Numeral
import SlotSwap.Proofs.Value.Whole

/-! Which numbers are whole.

The reader gathers digits as long as they fit in a word, and what it cannot hold there,
or finds a point or an exponent behind, becomes a double, which no cell accepts. So a
cell comes from a numeral and from nothing else: `readNumber_of_ends` says that digits
with no zero in front are read to their end as the word they are worth, and
`numeral_of_readNumber` that a number which a cell accepts was such a numeral. -/
namespace SlotSwap.Json
open Number Text
open Decimal (Leading Numeral)

/-- No digit begins the text. -/
def NoDigit (text : List Char) : Prop := ∀ c, text.head? = some c → c.isDigit = false

/-- No number goes on with the text: neither a digit nor a point nor an exponent begins it. -/
def Ends (text : List Char) : Prop :=
  ∀ c, text.head? = some c → c.isDigit = false ∧ c ≠ '.' ∧ c ≠ 'e' ∧ c ≠ 'E'

theorem Ends.noDigit {text : List Char} (h : Ends text) : NoDigit text := fun c hc => (h c hc).1

/-! ### Gathering digits -/

theorem le_ofDigitChars (worth : Nat) (digits : List Char) :
    worth ≤ Nat.ofDigitChars 10 digits worth := by
  induction digits generalizing worth with
  | nil => exact Nat.le_refl _
  | cons c digits ih =>
    rw [Nat.ofDigitChars_cons]
    exact Nat.le_trans (by omega) (ih _)

/-- One digit more, if it fits. -/
theorem gather_cons {worth : Nat} {c : Char} (hc : c.isDigit = true) (rest : List Char) :
    gather worth (c :: rest) =
      if worth * 10 + Decimal.digitValue c < wordLimit then
        ((gather (worth * 10 + Decimal.digitValue c) rest).1,
          (gather (worth * 10 + Decimal.digitValue c) rest).2.1 + 1,
          (gather (worth * 10 + Decimal.digitValue c) rest).2.2)
      else (worth, 0, c :: rest) := by
  simp only [gather, hc, true_and]

theorem gather_of_noDigit {rest : List Char} (h : NoDigit rest) (worth : Nat) :
    gather worth rest = (worth, 0, rest) := by
  cases rest with
  | nil => rfl
  | cons c rest => simp [gather, h c rfl]

section Gather
variable {digits rest : List Char}

/-- Digits that fit are gathered to the last one. -/
theorem gather_append (hdigits : ∀ c ∈ digits, c.isDigit = true) (hrest : NoDigit rest)
    {worth : Nat} (hfits : Nat.ofDigitChars 10 digits worth < wordLimit) :
    gather worth (digits ++ rest) = (Nat.ofDigitChars 10 digits worth, digits.length, rest) := by
  induction digits generalizing worth with
  | nil => exact gather_of_noDigit hrest worth
  | cons c digits ih =>
    have hnext : Nat.ofDigitChars 10 (c :: digits) worth =
        Nat.ofDigitChars 10 digits (worth * 10 + Decimal.digitValue c) := by
      rw [Nat.ofDigitChars_cons, Nat.mul_comm]
      rfl
    rw [hnext] at hfits ⊢
    have hgathered := ih (fun d hd => hdigits d (List.mem_cons_of_mem _ hd)) hfits
    rw [List.cons_append, gather_cons (hdigits c (List.mem_cons_self ..)),
      if_pos (Nat.lt_of_le_of_lt (le_ofDigitChars _ _) hfits), hgathered]
    rfl

/-- Digits that do not fit are not all gathered. -/
theorem gather_append_of_le (rest : List Char) (hdigits : ∀ c ∈ digits, c.isDigit = true)
    {worth : Nat} (hworth : worth < wordLimit)
    (hlimit : wordLimit ≤ Nat.ofDigitChars 10 digits worth) :
    ∃ total taken c left, c :: left <:+ digits ∧
      gather worth (digits ++ rest) = (total, taken, c :: left ++ rest) := by
  induction digits generalizing worth with
  | nil => exact absurd hlimit (Nat.not_le.mpr hworth)
  | cons c digits ih =>
    rw [Nat.ofDigitChars_cons, Nat.mul_comm] at hlimit
    rw [List.cons_append, gather_cons (hdigits c (List.mem_cons_self ..))]
    by_cases hnext : worth * 10 + Decimal.digitValue c < wordLimit
    · obtain ⟨total, taken, d, left, hleft, hgathered⟩ :=
        ih (fun d hd => hdigits d (List.mem_cons_of_mem _ hd)) hnext hlimit
      rw [if_pos hnext, hgathered]
      exact ⟨total, taken + 1, d, left, hleft.trans (List.suffix_cons ..), rfl⟩
    · rw [if_neg hnext]
      exact ⟨worth, 0, c, digits, List.suffix_refl _, rfl⟩

end Gather

/-! ### What stands behind the digits -/

theorem exponent?_eq_none {text : List Char}
    (h : ∀ c, text.head? = some c → c ≠ 'e' ∧ c ≠ 'E') : exponent? text = none := by
  unfold exponent?
  split
  · exact absurd rfl (h 'e' rfl).1
  · exact absurd rfl (h 'E' rfl).2
  · rfl

/-- Where nothing goes on with a number, its digits alone count. -/
theorem readEnding_of_ends {text : List Char} (h : Ends text) (negative : Bool) (worth : Nat) :
    readEnding negative worth 0 text = .ok (whole negative worth, text) := by
  unfold readEnding
  split
  · exact absurd rfl (h '.' rfl).2.1
  · rw [exponent?_eq_none fun c hc => (h c hc).2.2, if_pos rfl]

section Doubles
variable {negative : Bool} {worth : Nat} {power : Int} {text behind : List Char} {datum : Datum}

theorem real_ok (h : real negative worth power = .ok datum) :
    ∃ number, datum = .double number := by
  unfold real at h
  split at h
  · cases h
    exact ⟨_, rfl⟩
  · cases h

theorem readExponent_ok (h : readExponent negative worth power text = .ok (datum, behind)) :
    ∃ number, datum = .double number := by
  unfold readExponent at h
  simp only at h
  split at h
  · cases h
  · split at h
    · split at h
      · split at h
        · cases h
        · cases h
          exact ⟨_, rfl⟩
      · simp only [bind, Except.bind] at h
        split at h
        · cases h
        · next hreal =>
          cases h
          exact real_ok hreal
    · cases h

theorem readFraction_ok (h : readFraction negative worth power text = .ok (datum, behind)) :
    ∃ number, datum = .double number := by
  unfold readFraction at h
  split at h
  · cases h
  · split at h
    · simp only at h
      split at h
      · exact readExponent_ok h
      · simp only [bind, Except.bind] at h
        split at h
        · cases h
        · next hreal =>
          cases h
          exact real_ok hreal
    · cases h

/-- A number is a double, or its digits were all gathered and nothing goes on behind them. -/
theorem readEnding_ok {dropped : Nat}
    (h : readEnding negative worth dropped text = .ok (datum, behind)) :
    (∃ number, datum = .double number) ∨
      (dropped = 0 ∧ datum = whole negative worth ∧ behind = text ∧
        ∀ c, text.head? = some c → c ≠ '.' ∧ c ≠ 'e' ∧ c ≠ 'E') := by
  unfold readEnding at h
  split at h
  · exact .inl (readFraction_ok h)
  · next hpoint =>
    split at h
    · exact .inl (readExponent_ok h)
    · next hexponent =>
      split at h
      · next hdropped =>
        cases h
        refine .inr ⟨hdropped, rfl, rfl, fun c hc => ?_⟩
        obtain ⟨rest, rfl⟩ := List.head?_eq_some_iff.mp hc
        refine ⟨?_, ?_, ?_⟩
        · rintro rfl
          exact hpoint rest rfl
        · rintro rfl
          cases hexponent
        · rintro rfl
          cases hexponent
      · simp only [bind, Except.bind] at h
        split at h
        · cases h
        · next hreal =>
          cases h
          exact .inl (real_ok hreal)

end Doubles

/-! ### Numbers that a cell accepts -/

/-- What a sign and digits of some worth stand for. -/
def signed (negative : Bool) (worth : Nat) : Int := if negative then -worth else worth

/-- A whole number that a word of 64 bits holds is offered to the cell as what it is. -/
theorem ofDatum_whole {negative : Bool} {worth : Nat} (hlimit : worth < wordLimit)
    (hsigned : negative = true → 1 ≤ worth ∧ worth ≤ signedDepth) :
    Cell.ofDatum (whole negative worth) = Cell.ofWhole (signed negative worth) := by
  cases negative with
  | false =>
    have hword : (UInt64.ofNat worth).toNat = worth := UInt64.toNat_ofNat_of_lt hlimit
    show Cell.ofUInt64 (UInt64.ofNat worth) = Cell.ofWhole worth
    rw [Cell.ofUInt64_eq_ofWhole, hword]
  | true =>
    have hdepth := hsigned rfl
    have hword : (Int64.ofInt (-worth)).toInt = -worth := by
      have := hdepth.2
      unfold signedDepth at this
      exact Int64.toInt_ofInt_of_le (by omega) (by omega)
    rw [whole, if_neg (by decide), if_pos hdepth]
    show Cell.ofInt64 (Int64.ofInt (-worth)) = Cell.ofWhole (-worth)
    rw [Cell.ofInt64_eq_ofWhole, hword]

/-- A cell accepts no double, so what it accepts of a whole number is the number. -/
theorem signed_of_ofDatum_whole {negative : Bool} {worth : Nat} (hlimit : worth < wordLimit)
    {cell : Cell} (h : Cell.ofDatum (whole negative worth) = .ok cell) :
    (negative = true → 1 ≤ worth) ∧ cell.value.toInt = signed negative worth := by
  by_cases hsigned : negative = true → 1 ≤ worth ∧ worth ≤ signedDepth
  · rw [ofDatum_whole hlimit hsigned] at h
    exact ⟨fun hnegative => (hsigned hnegative).1, Cell.ofWhole_eq_ok_iff.mp h⟩
  · obtain ⟨rfl, hdepth⟩ := Classical.not_imp.mp hsigned
    rw [whole, if_neg (by decide), if_neg hdepth] at h
    cases h

/-! ### Reading digits -/

section Leading
variable {digits rest : List Char}

theorem dropWhile_isDigit (h : NoDigit rest) :
    rest.dropWhile Char.isDigit = rest := by
  cases rest with
  | nil => rfl
  | cons c rest => exact List.dropWhile_cons_of_neg (by rw [h c rfl]; decide)

theorem takeWhile_isDigit (h : NoDigit rest) :
    rest.takeWhile Char.isDigit = [] := by
  cases rest with
  | nil => rfl
  | cons c rest => exact List.takeWhile_cons_of_neg (by rw [h c rfl]; decide)

/-- Behind digits with no zero in front stands what was not gathered of them. -/
theorem readNumber_gather (h : Leading digits) (rest : List Char) (negative : Bool) :
    readNumber negative (digits ++ rest) =
      readEnding negative (gather 0 (digits ++ rest)).1
        ((gather 0 (digits ++ rest)).2.2.takeWhile Char.isDigit).length
        ((gather 0 (digits ++ rest)).2.2.dropWhile Char.isDigit) := by
  obtain ⟨c, digits, rfl⟩ := List.exists_cons_of_ne_nil h.ne_nil
  rw [List.cons_append]
  unfold readNumber
  split
  · next heq => cases heq
  · next heq =>
    cases heq
    exact absurd rfl h.noZero
  · next heq =>
    cases heq
    rw [if_pos (h.digits c (List.mem_cons_self ..))]

theorem readNumber_of_not_digit {c : Char} (hc : ¬c.isDigit = true) (negative : Bool)
    (text : List Char) : readNumber negative (c :: text) = .error (.malformed .badNumber) := by
  unfold readNumber
  split
  · next h => cases h
  · next h =>
    cases h
    exact absurd rfl hc
  · next h =>
    cases h
    rw [if_neg hc]

theorem readNumber_zero {rest : List Char} (hrest : NoDigit rest) (negative : Bool) :
    readNumber negative ('0' :: rest) = readEnding negative 0 0 rest := by
  cases rest with
  | nil => rfl
  | cons c rest =>
    simp only [readNumber, List.head?_cons, Option.map_some, Option.getD_some, hrest c rfl]
    rfl

/-- Digits with no zero in front that fit in a word are all gathered. -/
theorem readNumber_leading (h : Leading digits) (hrest : NoDigit rest)
    (hfits : Decimal.valueOf digits < wordLimit) (negative : Bool) :
    readNumber negative (digits ++ rest) =
      readEnding negative (Decimal.valueOf digits) 0 rest := by
  rw [readNumber_gather h, gather_append h.digits hrest hfits]
  simp only [takeWhile_isDigit hrest, dropWhile_isDigit hrest]
  rfl

/-- Of digits that do not fit in a word some are dropped. -/
theorem readNumber_leading_of_le (h : Leading digits) (hrest : NoDigit rest)
    (hlimit : wordLimit ≤ Decimal.valueOf digits) (negative : Bool) :
    ∃ worth dropped, 0 < dropped ∧
      readNumber negative (digits ++ rest) = readEnding negative worth dropped rest := by
  obtain ⟨worth, taken, c, left, hleft, hgathered⟩ :=
    gather_append_of_le rest h.digits (by decide) hlimit
  have hdigits : ∀ d ∈ c :: left, d.isDigit = true := fun d hd => h.digits d (hleft.mem hd)
  rw [readNumber_gather h, hgathered]
  simp only [List.takeWhile_append_of_pos hdigits, List.dropWhile_append_of_pos hdigits,
    takeWhile_isDigit hrest, dropWhile_isDigit hrest, List.append_nil]
  exact ⟨worth, _, Nat.succ_pos _, rfl⟩

end Leading

/-! ### Numerals -/

/-- Digits with a minus sign in front, if they have a sign. -/
def withSign (negative : Bool) (digits : List Char) : List Char :=
  if negative then '-' :: digits else digits

theorem numeral_withSign {digits : List Char} (h : Leading digits) (negative : Bool) :
    Numeral (withSign negative digits) (signed negative (Decimal.valueOf digits)) := by
  cases negative with
  | false => exact .positive h
  | true => exact .negative h

/-- Digits with no zero in front, with nothing behind that goes on with them, are read as
the word that they are worth. -/
theorem readNumber_of_ends {digits rest : List Char} (h : Leading digits) (hrest : Ends rest)
    (hfits : Decimal.valueOf digits < wordLimit) (negative : Bool) :
    readNumber negative (digits ++ rest) =
      .ok (whole negative (Decimal.valueOf digits), rest) := by
  rw [readNumber_leading h hrest.noDigit hfits, readEnding_of_ends hrest]

/-- The digits in front of a text, if the first of them is not zero. -/
theorem leading_takeWhile {c : Char} (hc : c.isDigit = true) (hzero : c ≠ '0')
    (rest : List Char) : Leading ((c :: rest).takeWhile Char.isDigit) := by
  rw [List.takeWhile_cons_of_pos hc]
  exact
    { ne_nil := List.cons_ne_nil _ _
      noZero := fun h => hzero (Option.some.inj h)
      digits := by
        intro d hd
        rcases List.mem_cons.mp hd with rfl | hd
        · exact hc
        · exact List.mem_takeWhile_imp hd }

theorem noDigit_dropWhile (text : List Char) : NoDigit (text.dropWhile Char.isDigit) := by
  intro c hc
  have hhead := List.head?_dropWhile_not Char.isDigit text
  rwa [hc] at hhead

section Accepted
variable {negative : Bool} {rest behind : List Char} {datum : Datum} {cell : Cell}

/-- A number that a cell accepts ends with its digits, all of which were gathered. -/
theorem ends_of_readEnding {worth dropped : Nat} (hrest : NoDigit rest)
    (h : readEnding negative worth dropped rest = .ok (datum, behind))
    (hcell : Cell.ofDatum datum = .ok cell) :
    dropped = 0 ∧ datum = whole negative worth ∧ behind = rest ∧ Ends rest := by
  rcases readEnding_ok h with ⟨number, rfl⟩ | ⟨hdropped, hdatum, hbehind, hends⟩
  · cases hcell
  · exact ⟨hdropped, hdatum, hbehind, fun c hc => ⟨hrest c hc, hends c hc⟩⟩

/-- Of the numbers that begin with zero a cell accepts zero without a sign: with one it is a
double. -/
theorem accepted_zero (h : readNumber negative ('0' :: rest) = .ok (datum, behind))
    (hcell : Cell.ofDatum datum = .ok cell) :
    negative = false ∧ behind = rest ∧ Ends rest ∧ cell.value.toInt = 0 := by
  have hrest : NoDigit rest := by
    intro c hc
    by_contra hdigit
    simp only [readNumber, hc, Option.map_some, Option.getD_some,
      Bool.of_not_eq_false hdigit] at h
    cases h
  rw [readNumber_zero hrest] at h
  obtain ⟨-, rfl, rfl, hends⟩ := ends_of_readEnding hrest h hcell
  obtain ⟨hsign, hvalue⟩ := signed_of_ofDatum_whole (by decide) hcell
  cases negative with
  | false => exact ⟨rfl, rfl, hends, hvalue⟩
  | true => exact absurd (hsign rfl) (by decide)

/-- Of the numbers that begin with another digit a cell accepts those that end with their
digits. -/
theorem accepted_leading {digits : List Char} (hdigits : Leading digits) (hrest : NoDigit rest)
    (h : readNumber negative (digits ++ rest) = .ok (datum, behind))
    (hcell : Cell.ofDatum datum = .ok cell) :
    behind = rest ∧ Ends rest ∧ cell.value.toInt = signed negative (Decimal.valueOf digits) := by
  by_cases hfits : Decimal.valueOf digits < wordLimit
  · rw [readNumber_leading hdigits hrest hfits] at h
    obtain ⟨-, rfl, hbehind, hends⟩ := ends_of_readEnding hrest h hcell
    exact ⟨hbehind, hends, (signed_of_ofDatum_whole hfits hcell).2⟩
  · obtain ⟨worth, dropped, hdropped, hread⟩ :=
      readNumber_leading_of_le hdigits hrest (Nat.le_of_not_lt hfits) negative
    rw [hread] at h
    exact absurd (ends_of_readEnding hrest h hcell).1 (Nat.ne_of_gt hdropped)

/-- A number that a cell accepts is a numeral, and nothing goes on behind it. -/
theorem numeral_of_readNumber {text : List Char}
    (h : readNumber negative text = .ok (datum, behind))
    (hcell : Cell.ofDatum datum = .ok cell) :
    ∃ digits, text = digits ++ behind ∧ Ends behind ∧
      Numeral (withSign negative digits) cell.value.toInt := by
  cases text with
  | nil => cases h
  | cons c rest =>
    by_cases hzero : c = '0'
    · subst hzero
      obtain ⟨rfl, rfl, hends, hvalue⟩ := accepted_zero h hcell
      rw [hvalue]
      exact ⟨['0'], rfl, hends, .zero⟩
    · by_cases hc : c.isDigit = true
      · have hsplit := List.takeWhile_append_dropWhile (p := Char.isDigit) (l := c :: rest)
        have hleading := leading_takeWhile hc hzero rest
        rw [← hsplit] at h
        obtain ⟨rfl, hends, hvalue⟩ :=
          accepted_leading hleading (noDigit_dropWhile (c :: rest)) h hcell
        rw [hvalue]
        exact ⟨_, hsplit.symm, hends, numeral_withSign hleading negative⟩
      · rw [readNumber_of_not_digit hc] at h
        cases h

end Accepted

end SlotSwap.Json
