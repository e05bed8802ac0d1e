import SlotSwap.Proofs.Json.Grammar

/-! Readers that look no further than they must.

What a reader makes of a text it makes of every longer one too, unless the text broke off, or
a number stands at its end that what follows may go on with. `Settled` says of a result that
what follows cannot change it, and `Steady` of a reader that it keeps such a result. A reader
is steady because its parts are (`Steady.bind`); here are the parts that read words, strings
and numbers. -/
namespace SlotSwap.Json
open Text

/-! ### Results that more text leaves alone -/

/-- What a reader has left and what follows do not run into each other: something is left, or
no number goes on. -/
def Detached (behind more : List Char) : Prop := behind = [] → Ends more

/-- The fault is the first one whatever follows. It is not where the text breaks off, and where
it may hang on a number at the end, no number goes on. -/
def Fault.Settled (more : List Char) : Fault → Prop
  | malformed rule => rule = .numberOutOfRange → Ends more
  | unfinished _ => False
  | refused _ => Ends more

/-- The result is not changed by what follows the text. -/
def Settled {α : Type} (more : List Char) : Except Fault (α × List Char) → Prop
  | .ok (_, behind) => Detached behind more
  | .error fault => fault.Settled more

/-- The result with more text behind it. -/
def extend {α : Type} (more : List Char) :
    Except Fault (α × List Char) → Except Fault (α × List Char)
  | .ok (value, behind) => .ok (value, behind ++ more)
  | .error fault => .error fault

/-- A settled result is kept when more text follows. That the text itself is detached carries the
statement over to the reader in front of this one. -/
def Steady {α : Type} (read : Reader α) (text more : List Char) : Prop :=
  Settled more (read text) →
    Detached text more ∧ read (text ++ more) = extend more (read text)

theorem detached_cons (c : Char) (rest more : List Char) : Detached (c :: rest) more := by
  intro h
  cases h

section Compose
variable {α β : Type} {text more : List Char} {read : Reader α}

/-- One reader behind another. The second decides what is settled, and that it is steady says
that the first did not run into what follows. -/
theorem Steady.bind (h : Steady read text more) (next : α → Reader β)
    (hnext : ∀ value behind, read text = .ok (value, behind) → Steady (next value) behind more) :
    Steady (fun text => do let (value, behind) ← read text; next value behind) text more := by
  intro hsettled
  simp only [Steady] at h hsettled ⊢
  cases hread : read text with
  | error fault =>
    rw [hread] at h hsettled
    obtain ⟨hdetached, heq⟩ := h hsettled
    rw [heq]
    exact ⟨hdetached, rfl⟩
  | ok result =>
    obtain ⟨value, behind⟩ := result
    rw [hread] at h hsettled
    obtain ⟨hbehind, hnext⟩ := hnext value behind hread hsettled
    obtain ⟨hdetached, heq⟩ := h hbehind
    rw [heq]
    exact ⟨hdetached, hnext⟩

theorem Steady.map (h : Steady read text more) (f : α → β) :
    Steady (fun text => do let (value, behind) ← read text; return (f value, behind))
      text more := by
  apply h.bind fun value behind => return (f value, behind)
  intro value behind _ hsettled
  exact ⟨hsettled, rfl⟩

/-- The end of a reader: a result that is there already. -/
theorem steady_outcome {outcome : Except Fault α}
    (h : ∀ fault, outcome = .error fault → fault.Settled more → Ends more) :
    Steady (fun text => do return (← outcome, text)) text more := by
  intro hsettled
  cases outcome with
  | ok value => exact ⟨hsettled, rfl⟩
  | error fault => exact ⟨fun _ => h fault rfl hsettled, rfl⟩

/-- A reader that must find something can be looked at where it does. -/
theorem steady_of_cons (hnil : ¬Settled more (read []))
    (hcons : ∀ c rest, Settled more (read (c :: rest)) →
      read (c :: (rest ++ more)) = extend more (read (c :: rest))) :
    Steady read text more := by
  intro hsettled
  cases text with
  | nil => exact absurd hsettled hnil
  | cons c rest => exact ⟨detached_cons c rest more, hcons c rest hsettled⟩

/-- A choice that what follows has no part in. -/
theorem steady_ite {P : Prop} [Decidable P] {yes no yes' no' : Except Fault (α × List Char)}
    (hsettled : Settled more (if P then yes else no))
    (hyes : Settled more yes → yes' = extend more yes)
    (hno : Settled more no → no' = extend more no) :
    (if P then yes' else no') = extend more (if P then yes else no) := by
  by_cases h : P
  · simp only [if_pos h] at hsettled ⊢
    exact hyes hsettled
  · simp only [if_neg h] at hsettled ⊢
    exact hno hsettled

end Compose

/-! ### Words and strings -/

section Letters
variable {text more : List Char}

theorem steady_readWord (datum : Datum) (letters : List Char) :
    Steady (readWord datum letters) text more := by
  induction letters generalizing text with
  | nil =>
    intro hsettled
    exact ⟨hsettled, rfl⟩
  | cons letter letters ih =>
    apply steady_of_cons id
    intro c rest hsettled
    simp only [readWord] at hsettled ⊢
    exact steady_ite hsettled (fun h => (ih h).2) fun _ => rfl

/-- The induction is on the text, as each character may change the mode. -/
theorem steady_readTextFrom (mode : Mode) : Steady (readTextFrom mode) text more := by
  intro hsettled
  induction text generalizing mode with
  | nil => exact hsettled.elim
  | cons c rest ih =>
    refine ⟨detached_cons c rest more, ?_⟩
    simp only [readTextFrom, List.cons_append] at hsettled ⊢
    cases hstep : mode.step c with
    | error rule => rfl
    | ok turn =>
      rw [hstep] at hsettled
      cases turn with
      | close => rfl
      | go mode => exact (ih mode hsettled).2
      | emit char =>
        have hplain : Steady (readTextFrom .plain) rest more := ih .plain
        exact (hplain.map (char :: ·) hsettled).2

end Letters

/-! ### Numbers -/

section Digits
variable {text more : List Char}

theorem Detached.noDigit {behind : List Char} (h : Detached behind more) (hnil : behind = []) :
    NoDigit more := (h hnil).noDigit

/-- Gathering stops where it did, unless it stopped at the end. -/
theorem gather_append_of_noDigit {worth : Nat}
    (h : (gather worth text).2.2 = [] → NoDigit more) :
    gather worth (text ++ more) =
      ((gather worth text).1, (gather worth text).2.1, (gather worth text).2.2 ++ more) := by
  induction text generalizing worth with
  | nil => exact gather_of_noDigit (h rfl) worth
  | cons c rest ih =>
    simp only [gather, List.cons_append] at h ⊢
    split
    · next hc =>
      rw [if_pos hc] at h
      rw [ih h]
    · rfl

/-- The same for what stands behind all the digits. -/
theorem gather_append_of_detached {worth : Nat}
    (h : Detached ((gather worth text).2.2.dropWhile Char.isDigit) more) :
    gather worth (text ++ more) =
      ((gather worth text).1, (gather worth text).2.1, (gather worth text).2.2 ++ more) := by
  apply gather_append_of_noDigit
  intro hnil
  apply h.noDigit
  rw [hnil]
  rfl

theorem dropWhile_append_of_noDigit (h : text.dropWhile Char.isDigit = [] → NoDigit more) :
    (text ++ more).dropWhile Char.isDigit = text.dropWhile Char.isDigit ++ more := by
  rw [List.dropWhile_append]
  split
  · next hempty =>
    have hnil := List.isEmpty_iff.mp hempty
    rw [dropWhile_isDigit (h hnil), hnil, List.nil_append]
  · rfl

theorem takeWhile_append_of_noDigit (h : text.dropWhile Char.isDigit = [] → NoDigit more) :
    (text ++ more).takeWhile Char.isDigit = text.takeWhile Char.isDigit := by
  have htext : text.takeWhile Char.isDigit ++ text.dropWhile Char.isDigit = text :=
    List.takeWhile_append_dropWhile
  have hboth : (text ++ more).takeWhile Char.isDigit ++ (text.dropWhile Char.isDigit ++ more) =
      text ++ more := by
    rw [← dropWhile_append_of_noDigit h]
    exact List.takeWhile_append_dropWhile
  refine List.append_cancel_right (hboth.trans ?_)
  rw [← List.append_assoc, htext]

end Digits

section Number
variable {negative : Bool} {worth : Nat} {power : Int} {text more : List Char}

/-- A number can only be too large, and is not settled to be before its end. -/
theorem ends_of_real {fault : Fault} (h : real negative worth power = .error fault)
    (hsettled : fault.Settled more) : Ends more := by
  unfold real at h
  split at h
  · cases h
  · cases h
    exact hsettled rfl

/-- What a number becomes through its exponent. -/
def raised (negative : Bool) (worth : Nat) (power : Int) (down : Bool) (written : Nat) :
    Except Fault Datum :=
  if largestPower < written then
    if worth ≠ 0 ∧ ¬down then .error (.malformed .numberOutOfRange)
    else .ok (.double (.finite negative 0))
  else real negative worth (clampPower (if down then power - written else power + written))

theorem ends_of_raised {down : Bool} {written : Nat} {fault : Fault}
    (h : raised negative worth power down written = .error fault)
    (hsettled : fault.Settled more) : Ends more := by
  unfold raised at h
  split at h
  · split at h
    · cases h
      exact hsettled rfl
    · cases h
  · exact ends_of_real h hsettled

/-- An exponent is read through its digits. -/
theorem readExponent_of_digit {down : Bool} {c : Char} {rest : List Char}
    (hsign : Decimal.splitSign text = (down, c :: rest)) (hc : c.isDigit = true) :
    readExponent negative worth power text = (do
      return (← raised negative worth power down
        (Decimal.valueOf ((c :: rest).takeWhile Char.isDigit)),
        (c :: rest).dropWhile Char.isDigit)) := by
  simp only [readExponent, hsign, if_pos hc, raised]
  split
  · split
    · rfl
    · rfl
  · rfl

theorem splitSign_append (h : text ≠ []) (more : List Char) :
    Decimal.splitSign (text ++ more) =
      ((Decimal.splitSign text).1, (Decimal.splitSign text).2 ++ more) := by
  obtain ⟨c, rest, rfl⟩ := List.exists_cons_of_ne_nil h
  rw [List.cons_append]
  unfold Decimal.splitSign
  split
  · next hplus =>
    cases hplus
    rfl
  · next hminus =>
    cases hminus
    rfl
  · next hplus hminus =>
    split
    · next heq =>
      cases heq
      exact absurd rfl (hplus _)
    · next heq =>
      cases heq
      exact absurd rfl (hminus _)
    · rfl

theorem steady_readExponent : Steady (readExponent negative worth power) text more := by
  apply steady_of_cons id
  intro c rest hsettled
  have hsign := splitSign_append (List.cons_ne_nil c rest) more
  rw [← List.cons_append]
  cases hdigits : Decimal.splitSign (c :: rest) with
  | mk down digits =>
    rw [hdigits] at hsign
    cases digits with
    | nil =>
      simp only [readExponent, hdigits] at hsettled
      exact hsettled.elim
    | cons d digits =>
      have hsign : Decimal.splitSign (c :: rest ++ more) = (down, d :: (digits ++ more)) := hsign
      by_cases hd : d.isDigit = true
      · rw [readExponent_of_digit hdigits hd] at hsettled ⊢
        obtain ⟨hdetached, heq⟩ := steady_outcome (fun _ => ends_of_raised) hsettled
        rw [readExponent_of_digit hsign hd, ← List.cons_append,
          takeWhile_append_of_noDigit hdetached.noDigit,
          dropWhile_append_of_noDigit hdetached.noDigit]
        exact heq
      · simp only [readExponent, hdigits, hsign, if_neg hd]
        rfl

theorem exponent?_append (h : text ≠ []) :
    exponent? (text ++ more) = (exponent? text).map (· ++ more) := by
  obtain ⟨c, rest, rfl⟩ := List.exists_cons_of_ne_nil h
  rw [List.cons_append]
  unfold exponent?
  split
  · next heq =>
    cases heq
    rfl
  · next heq =>
    cases heq
    rfl
  · next hsmall hcapital =>
    split
    · next heq =>
      cases heq
      exact absurd rfl (hsmall _)
    · next heq =>
      cases heq
      exact absurd rfl (hcapital _)
    · rfl

/-- What stands behind the digits of a number: an exponent, or nothing more of it. -/
def readTail (negative : Bool) (worth : Nat) (power : Int) (plain : Except Fault Datum) :
    Reader Datum := fun text =>
  match exponent? text with
  | some rest => readExponent negative worth power rest
  | none => do return (← plain, text)

theorem steady_readTail {plain : Except Fault Datum}
    (hplain : ∀ fault, plain = .error fault → fault.Settled more → Ends more) :
    Steady (readTail negative worth power plain) text more := by
  intro hsettled
  by_cases hnil : text = []
  · subst hnil
    obtain ⟨hdetached, heq⟩ := steady_outcome hplain hsettled
    refine ⟨hdetached, ?_⟩
    have hends := hdetached rfl
    rw [readTail, List.nil_append, exponent?_eq_none fun c hc => (hends c hc).2.2]
    exact heq
  · refine ⟨fun h => absurd h hnil, ?_⟩
    simp only [readTail, exponent?_append hnil] at hsettled ⊢
    cases hexponent : exponent? text with
    | some rest =>
      rw [hexponent] at hsettled
      exact (steady_readExponent hsettled).2
    | none =>
      rw [hexponent] at hsettled
      exact (steady_outcome hplain hsettled).2

end Number

/-! ### Numbers from their first digit on -/

section Reading
variable {negative : Bool} {worth : Nat} {power : Int} {text more : List Char}

theorem readFraction_of_digit {c : Char} (hc : c.isDigit = true) (rest : List Char) :
    readFraction negative worth power (c :: rest) =
      readTail negative (gather worth (c :: rest)).1 (power - (gather worth (c :: rest)).2.1)
        (real negative (gather worth (c :: rest)).1 (power - (gather worth (c :: rest)).2.1))
        ((gather worth (c :: rest)).2.2.dropWhile Char.isDigit) := by
  simp only [readFraction, if_pos hc]
  rfl

theorem steady_readFraction : Steady (readFraction negative worth power) text more := by
  apply steady_of_cons id
  intro c rest hsettled
  by_cases hc : c.isDigit = true
  · rw [readFraction_of_digit hc] at hsettled ⊢
    obtain ⟨hdetached, heq⟩ := steady_readTail (fun _ => ends_of_real) hsettled
    rw [readFraction_of_digit hc, ← List.cons_append, gather_append_of_detached hdetached]
    simp only [dropWhile_append_of_noDigit hdetached.noDigit]
    exact heq
  · simp only [readFraction, if_neg hc]
    rfl

/-- A number without a point. -/
theorem readEnding_of_ne {dropped : Nat} (h : ∀ c, text.head? = some c → c ≠ '.') :
    readEnding negative worth dropped text =
      readTail negative worth dropped
        (if dropped = 0 then .ok (whole negative worth) else real negative worth dropped) text := by
  unfold readEnding
  split
  · exact absurd rfl (h '.' rfl)
  · split
    · next hexponent => rw [readTail, hexponent]
    · next hexponent =>
      rw [readTail, hexponent]
      split
      · rfl
      · rfl

/-- What cannot begin a text cannot begin it with more behind. -/
theorem head?_append_of_detached {P : Char → Prop} (hdetached : Detached text more)
    (h : ∀ c, text.head? = some c → P c) (hmore : Ends more → ∀ c, more.head? = some c → P c) :
    ∀ c, (text ++ more).head? = some c → P c := by
  cases text with
  | nil => exact hmore (hdetached rfl)
  | cons c rest => exact h

theorem steady_readEnding {dropped : Nat} :
    Steady (readEnding negative worth dropped) text more := by
  intro hsettled
  by_cases hpoint : ∀ c, text.head? = some c → c ≠ '.'
  · have hplain : ∀ fault : Fault, (if dropped = 0 then Except.ok (whole negative worth)
        else real negative worth dropped) = .error fault → fault.Settled more → Ends more := by
      intro fault h
      split at h
      · cases h
      · exact ends_of_real h
    rw [readEnding_of_ne hpoint] at hsettled ⊢
    obtain ⟨hdetached, heq⟩ := steady_readTail hplain hsettled
    refine ⟨hdetached, ?_⟩
    rw [readEnding_of_ne (head?_append_of_detached hdetached hpoint fun h c hc => (h c hc).2.1)]
    exact heq
  · obtain ⟨c, hc, rfl⟩ : ∃ c, text.head? = some c ∧ c = '.' := by simpa using hpoint
    obtain ⟨rest, rfl⟩ := List.head?_eq_some_iff.mp hc
    exact ⟨detached_cons '.' rest more, (steady_readFraction hsettled).2⟩

theorem readNumber_of_digit {c : Char} (hc : c.isDigit = true) (hzero : c ≠ '0')
    (rest : List Char) :
    readNumber negative (c :: rest) =
      readEnding negative (gather 0 (c :: rest)).1
        ((gather 0 (c :: rest)).2.2.takeWhile Char.isDigit).length
        ((gather 0 (c :: rest)).2.2.dropWhile Char.isDigit) := by
  have hsplit := List.takeWhile_append_dropWhile (p := Char.isDigit) (l := c :: rest)
  have hread := readNumber_gather (leading_takeWhile hc hzero rest)
    ((c :: rest).dropWhile Char.isDigit) negative
  rwa [hsplit] at hread

/-- No digit follows a zero in front. -/
theorem readNumber_zero_digit {c : Char} (hc : c.isDigit = true) (rest : List Char) :
    readNumber negative ('0' :: c :: rest) = .error (.malformed .badNumber) := by
  simp only [readNumber, List.head?_cons, Option.map_some, Option.getD_some]
  exact if_pos hc

theorem exists_digit (h : ¬NoDigit text) : ∃ c rest, text = c :: rest ∧ c.isDigit = true := by
  obtain ⟨c, hhead, hc⟩ : ∃ c, text.head? = some c ∧ c.isDigit = true := by
    simpa [NoDigit] using h
  obtain ⟨rest, htext⟩ := List.head?_eq_some_iff.mp hhead
  exact ⟨c, rest, htext, hc⟩

theorem steady_readNumber : Steady (readNumber negative) text more := by
  apply steady_of_cons id
  intro c rest hsettled
  by_cases hc : c.isDigit = true
  · by_cases hzero : c = '0'
    · subst hzero
      by_cases hrest : NoDigit rest
      · rw [readNumber_zero hrest] at hsettled ⊢
        obtain ⟨hdetached, heq⟩ := steady_readEnding hsettled
        rw [readNumber_zero (head?_append_of_detached hdetached hrest Ends.noDigit)]
        exact heq
      · obtain ⟨d, digits, rfl, hd⟩ := exists_digit hrest
        rw [readNumber_zero_digit hd, List.cons_append, readNumber_zero_digit hd]
        rfl
    · rw [readNumber_of_digit hc hzero] at hsettled ⊢
      obtain ⟨hdetached, heq⟩ := steady_readEnding hsettled
      rw [readNumber_of_digit hc hzero, ← List.cons_append, gather_append_of_detached hdetached]
      simp only [takeWhile_append_of_noDigit hdetached.noDigit,
        dropWhile_append_of_noDigit hdetached.noDigit]
      exact heq
  · rw [readNumber_of_not_digit hc, readNumber_of_not_digit hc]
    rfl

end Reading

end SlotSwap.Json
