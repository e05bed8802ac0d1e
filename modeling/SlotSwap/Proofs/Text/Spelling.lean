import Mathlib.Tactic.SplitIfs
import SlotSwap.Text.Quoted

/-! Texts spelt piece by piece.

A text is put together from pieces, and it says which when no piece can be taken for the
beginning of another (`PrefixFree.flatMap_injective`) or when a mark behind a piece cannot
stand inside it (`append_cons_inj`). Quoting is of the first kind: from the front of
whatever follows it an escape gives its character back (`unescape_escape`), so that
different texts are quoted differently (`quote_injective`). -/
namespace SlotSwap.Text

/-! ### Words -/

/-- Words of which none begins another: whatever stands behind it, a word tells what it
spells. -/
structure PrefixFree {α β : Type} (spell : α → List β) : Prop where
  ne_nil : ∀ a, spell a ≠ []
  eq_of_append : ∀ {a b rest other}, spell a ++ rest = spell b ++ other → a = b

/-- Words that are read back, whatever stands behind them. -/
theorem PrefixFree.of_read {α β : Type} {spell : α → List β} (read : List β → Option α)
    (hread : ∀ a rest, read (spell a ++ rest) = some a) (hnil : read [] = none) :
    PrefixFree spell where
  ne_nil := by
    intro a ha
    have h := hread a []
    rw [ha, List.append_nil, hnil] at h
    cases h
  eq_of_append := by
    intro a b rest other h
    have ha := hread a rest
    rw [h, hread b other] at ha
    exact (Option.some.inj ha).symm

/-- A text made of such words is made of them in one way. -/
theorem PrefixFree.flatMap_injective {α β : Type} {spell : α → List β} (h : PrefixFree spell)
    {text other : List α} (heq : text.flatMap spell = other.flatMap spell) : text = other := by
  induction text generalizing other with
  | nil =>
    cases other with
    | nil => rfl
    | cons b other => exact absurd (List.append_eq_nil_iff.mp heq.symm).1 (h.ne_nil b)
  | cons a text ih =>
    cases other with
    | nil => exact absurd (List.append_eq_nil_iff.mp heq).1 (h.ne_nil a)
    | cons b other =>
      rw [List.flatMap_cons, List.flatMap_cons] at heq
      obtain rfl := h.eq_of_append heq
      rw [ih (List.append_cancel_left heq)]

/-! ### Marks -/

/-- Two texts are cut alike at their first mark. -/
theorem append_cons_inj {α : Type} {mark : α} {front back front' back' : List α}
    (hfront : mark ∉ front) (hfront' : mark ∉ front')
    (h : front ++ mark :: back = front' ++ mark :: back') : front = front' ∧ back = back' := by
  -- `List.append_cons_inj_of_notMem` would want a `back` without marks, and the rest of a
  -- text has marks as long as more pieces come.
  induction front generalizing front' with
  | nil =>
    cases front' with
    | nil => exact ⟨rfl, (List.cons.inj h).2⟩
    | cons c front' =>
      obtain ⟨rfl, -⟩ := List.cons.inj h
      exact absurd (List.mem_cons_self ..) hfront'
  | cons c front ih =>
    cases front' with
    | nil =>
      obtain ⟨rfl, -⟩ := List.cons.inj h
      exact absurd (List.mem_cons_self ..) hfront
    | cons d front' =>
      obtain ⟨rfl, hrest⟩ := List.cons.inj h
      obtain ⟨rfl, hback⟩ := ih (fun hc => hfront (List.mem_cons_of_mem _ hc))
        (fun hc => hfront' (List.mem_cons_of_mem _ hc)) hrest
      exact ⟨rfl, hback⟩

/-- Pieces with a mark between neighbours are told from the text, when their number is known
and no piece but the last holds the mark. -/
theorem intercalate_inj {α : Type} {mark : α} {gap : List α} {pieces others : List (List α)}
    (hlength : pieces.length = others.length) (hpieces : ∀ piece ∈ pieces.dropLast, mark ∉ piece)
    (hothers : ∀ other ∈ others.dropLast, mark ∉ other)
    (h : (mark :: gap).intercalate pieces = (mark :: gap).intercalate others) :
    pieces = others := by
  induction pieces generalizing others with
  | nil => exact (List.length_eq_zero_iff.mp hlength.symm).symm
  | cons piece pieces ih =>
    obtain ⟨other, others, rfl⟩ := List.exists_cons_of_length_eq_add_one hlength.symm
    have hothersLength : pieces.length = others.length := Nat.succ.inj hlength
    -- No mark follows the last piece: it is all that is left of the text.
    by_cases hlast : pieces = []
    · subst hlast
      obtain rfl := List.length_eq_zero_iff.mp hothersLength.symm
      rw [List.intercalate_singleton, List.intercalate_singleton] at h
      rw [h]
    · have hlast' : others ≠ [] := by
        rintro rfl
        exact hlast (List.length_eq_zero_iff.mp hothersLength)
      rw [List.dropLast_cons_of_ne_nil hlast, List.forall_mem_cons] at hpieces
      rw [List.dropLast_cons_of_ne_nil hlast', List.forall_mem_cons] at hothers
      rw [List.intercalate_cons_of_ne_nil hlast, List.intercalate_cons_of_ne_nil hlast',
        List.append_assoc, List.append_assoc] at h
      obtain ⟨rfl, hrest⟩ := append_cons_inj hpieces.1 hothers.1 h
      rw [ih hothersLength hpieces.2 hothers.2 (List.append_cancel_left hrest)]

/-! ### Quoted text -/

namespace Quoted

/-- The character that a letter behind a backslash stands for. -/
def named? : Char → Option Char
  | '"' => some '"'
  | '\\' => some '\\'
  | 't' => some '\t'
  | 'n' => some '\n'
  | 'r' => some '\r'
  | '0' => some '\x00'
  | _ => none

/-- The first character of a text between quotes. -/
def unescape : List Char → Option Char
  | '\\' :: 'u' :: _ :: rest =>
    some (Char.ofNat (Hexadecimal.valueOf (rest.takeWhile (· ≠ '\x7d'))))
  | '\\' :: letter :: _ => named? letter
  | c :: _ => some c
  | [] => none

theorem unescape_of_ne {c : Char} (h : c ≠ '\\') (rest : List Char) :
    unescape (c :: rest) = some c := by
  simp [unescape, h]

theorem unescape_of_letter {letter : Char} (h : letter ≠ 'u') (rest : List Char) :
    unescape ('\\' :: letter :: rest) = named? letter := by
  simp [unescape, h]

theorem unescape_codePoint (n : Nat) (rest : List Char) :
    unescape ('\\' :: 'u' :: '\x7b' :: (Hexadecimal.digits n ++ '\x7d' :: rest)) =
      some (Char.ofNat n) := by
  have hdigit : ∀ c ∈ Hexadecimal.digits n, decide (c ≠ '\x7d') = true :=
    fun c hc => decide_eq_true fun hmark => Hexadecimal.not_mem_digits rfl n (hmark ▸ hc)
  rw [unescape, List.takeWhile_append_of_pos hdigit, List.takeWhile_cons_of_neg (by decide),
    List.append_nil, Hexadecimal.valueOf_digits]

/-- A character is written with its letter, with its code point or as it is. -/
theorem escape_cases (c : Char) :
    (∃ letter, named? letter = some c ∧ letter ≠ 'u' ∧ escape c = ['\\', letter]) ∨
      escape c = '\\' :: 'u' :: '\x7b' :: (Hexadecimal.digits c.toNat ++ ['\x7d']) ∨
      c ≠ '\\' ∧ escape c = [c] := by
  unfold escape
  split_ifs with hmark htab hnewline hreturn hnull hunprintable
  · rcases hmark with rfl | rfl
    · exact .inl ⟨'"', rfl, by decide, rfl⟩
    · exact .inl ⟨'\\', rfl, by decide, rfl⟩
  · exact .inl ⟨'t', congrArg some htab.symm, by decide, rfl⟩
  · exact .inl ⟨'n', congrArg some hnewline.symm, by decide, rfl⟩
  · exact .inl ⟨'r', congrArg some hreturn.symm, by decide, rfl⟩
  · exact .inl ⟨'0', congrArg some hnull.symm, by decide, rfl⟩
  · exact .inr (.inl rfl)
  · exact .inr (.inr ⟨fun hc => hmark (.inr hc), rfl⟩)

/-- An escape gives its character back, whatever stands behind it. -/
theorem unescape_escape (c : Char) (rest : List Char) :
    unescape (escape c ++ rest) = some c := by
  rcases escape_cases c with ⟨letter, hnamed, hu, h⟩ | h | ⟨hc, h⟩
  · rw [h]
    exact (unescape_of_letter hu rest).trans hnamed
  · have hread := unescape_codePoint c.toNat rest
    rw [Char.ofNat_toNat] at hread
    rw [h, List.cons_append, List.cons_append, List.cons_append, List.append_assoc]
    exact hread
  · rw [h]
    exact unescape_of_ne hc rest

theorem prefixFree_escape : PrefixFree escape := .of_read unescape unescape_escape rfl

/-- Different texts are quoted differently. -/
theorem quote_injective {text other : String} (h : quote text = quote other) : text = other := by
  have hchars := congrArg String.toList h
  rw [quote, quote, String.toList_ofList, String.toList_ofList] at hchars
  have hencoded := List.append_cancel_right (List.cons.inj hchars).2
  exact String.toList_inj.mp (prefixFree_escape.flatMap_injective hencoded)

end Quoted

end SlotSwap.Text
