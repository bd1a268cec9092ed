import Mathlib
import Stencil.Data.Path
import Stencil.Proofs.Normalization

/-! Positions in arrays: a key is a trimmed numeral whose value must fit a 64-bit word, read without
wrapping. -/

namespace Stencil.Data

open Unicode

/-- One or more ASCII digits, which write `n` in decimal. -/
def IsDigits (digits : List Char) (n : Nat) : Prop :=
  digits ≠ [] ∧ (∀ d ∈ digits, d.isDigit = true) ∧ n = Nat.ofDigitChars 10 digits 0

/-- Text written `\+?[0-9]+`, whose digits write `n`. -/
def IsNumeral (cs : List Char) (n : Nat) : Prop :=
  ∃ digits, (cs = digits ∨ cs = '+' :: digits) ∧ IsDigits digits n

private theorem foldl_digits_eq_ofDigitChars (digits : List Char) :
    digits.foldl (fun n d => n * 10 + (d.toNat - 48)) 0 = Nat.ofDigitChars 10 digits 0 := by
  rw [Nat.ofDigitChars_eq_foldl]
  congr 1
  funext n d
  rw [Nat.mul_comm]
  rfl

private theorem not_isDigits_plus (rest : List Char) (n : Nat) : ¬IsDigits ('+' :: rest) n := by
  rintro ⟨-, digits, -⟩
  exact absurd (digits '+' List.mem_cons_self) (by decide)

private theorem isNumeral_plus {rest : List Char} {n : Nat} :
    IsNumeral ('+' :: rest) n ↔ IsDigits rest n := by
  constructor
  · rintro ⟨digits, rfl | signed, read⟩
    · exact absurd read (not_isDigits_plus rest n)
    · exact (List.cons.inj signed).2 ▸ read
  · exact fun read => ⟨rest, .inr rfl, read⟩

private theorem isNumeral_of_unsigned {cs : List Char} {n : Nat}
    (unsigned : ∀ rest, cs = '+' :: rest → False) :
    IsNumeral cs n ↔ IsDigits cs n := by
  constructor
  · rintro ⟨digits, rfl | signed, read⟩
    · exact read
    · exact absurd signed (unsigned digits)
  · exact fun read => ⟨cs, .inl rfl, read⟩

/-- The reader of natural numbers accepts exactly the numerals, with the value their digits
write. -/
theorem parseNatural?_eq_some_iff {cs : List Char} {n : Nat} :
    parseNatural? cs = some n ↔ IsNumeral cs n := by
  have read : ∀ digits : List Char,
      (if digits.isEmpty ∨ !digits.all Char.isDigit then none
        else some (digits.foldl (fun n d => n * 10 + (d.toNat - 48)) 0)) = some n ↔
        IsDigits digits n := by
    intro digits
    simp only [IsDigits, foldl_digits_eq_ofDigitChars]
    simp [@eq_comm _ n, and_assoc]
  unfold parseNatural?
  dsimp only
  split
  · rw [read, isNumeral_plus]
  · rename_i unsigned
    rw [read, isNumeral_of_unsigned unsigned]

theorem IsNumeral.unique {cs : List Char} {m n : Nat} (first : IsNumeral cs m)
    (second : IsNumeral cs n) : m = n :=
  Option.some.inj
    ((parseNatural?_eq_some_iff.mpr first).symm.trans (parseNatural?_eq_some_iff.mpr second))

/-- A key is read as a position when, trimmed, it is a numeral, and the number it writes is
below 2^64. -/
theorem parseIndex?_eq_some_iff {key : String} {n : Nat} :
    parseIndex? key = some n ↔ IsNumeral (Text.trimChars key.toList) n ∧ n < 2 ^ 64 := by
  unfold parseIndex?
  split
  · rename_i m parsed
    have numeral := parseNatural?_eq_some_iff.mp parsed
    have bound : Nat.pow 2 64 = 2 ^ 64 := rfl
    rw [bound]
    constructor
    · intro found
      split at found
      · cases found
        exact ⟨numeral, by assumption⟩
      · cases found
    · rintro ⟨other, small⟩
      rw [numeral.unique other, if_pos small]
  · rename_i unread
    simp only [reduceCtorEq, false_iff, not_and]
    intro numeral
    rw [parseNatural?_eq_some_iff.mpr numeral] at unread
    cases unread

example : parseIndex? " +007 " = some 7 := by decide +kernel

example : parseIndex? "18446744073709551616" = none := by decide +kernel

/-! ### Steps into arrays -/

theorem lookupKey_array_eq_some_iff {key : String} {items : List Json} {v : Json} :
    lookupKey key (.array items) = some v ↔
      ∃ n, IsNumeral (Text.trimChars key.toList) n ∧ n < 2 ^ 64 ∧ items[n]? = some v := by
  simp only [lookupKey, step, Option.bind_eq_some_iff, parseIndex?_eq_some_iff, and_assoc]

private theorem lookupKey_array_of_numeral {key : String} {n : Nat}
    (numeral : IsNumeral (Text.trimChars key.toList) n) (small : n < 2 ^ 64) (items : List Json) :
    lookupKey key (.array items) = items[n]? := by
  have read : parseIndex? key = some n := parseIndex?_eq_some_iff.mpr ⟨numeral, small⟩
  simp [lookupKey, step, read]

theorem lookupKey_array_of_large {key : String} {n : Nat}
    (numeral : IsNumeral (Text.trimChars key.toList) n) (large : 2 ^ 64 ≤ n) (items : List Json) :
    lookupKey key (.array items) = none := by
  rw [Option.eq_none_iff_forall_ne_some]
  intro v found
  obtain ⟨m, other, small, -⟩ := lookupKey_array_eq_some_iff.mp found
  have same := numeral.unique other
  omega

/-! ### Numerals as printed -/

private theorem digits_not_whiteSpace :
    (List.range 10).all (fun k => !isWhiteSpace (Char.ofNat (48 + k))) = true := by
  decide +kernel

private theorem isWhiteSpace_of_isDigit {c : Char}
    (digit : c.isDigit = true) : isWhiteSpace c = false := by
  have bounds : 48 ≤ c.toNat ∧ c.toNat ≤ 57 := by
    simp only [Char.isDigit, Bool.and_eq_true, decide_eq_true_eq] at digit
    exact ⟨digit.1, digit.2⟩
  have listed := List.all_eq_true.mp digits_not_whiteSpace (c.toNat - 48)
    (List.mem_range.mpr (by omega))
  rw [Nat.add_sub_cancel' bounds.1, Char.ofNat_toNat] at listed
  simpa using listed

private theorem trimChars_of_no_whiteSpace {cs : List Char}
    (plain : ∀ c ∈ cs, isWhiteSpace c = false) :
    Text.trimChars cs = cs :=
  Text.trimChars_of_ends ⟨fun c first => plain c (List.mem_of_mem_head? first),
    fun c last => plain c (List.mem_of_mem_getLast? last)⟩

private theorem isDigits_zeros_toDigits (zeros n : Nat) :
    IsDigits (List.replicate zeros '0' ++ Nat.toDigits 10 n) n := by
  refine ⟨by simp [Nat.toDigits_ne_nil], ?_, ?_⟩
  · intro d member
    rcases List.mem_append.mp member with zero | digit
    · rw [List.eq_of_mem_replicate zero]
      rfl
    · exact Nat.isDigit_of_mem_toDigits (by decide) (by decide) digit
  · rw [Nat.ofDigitChars_append, Nat.ofDigitChars_replicate_zero, Nat.mul_zero,
      Nat.ofDigitChars_ten_toDigits]

theorem isNumeral_padded (plus : Bool) (zeros n : Nat) :
    IsNumeral (Text.trimChars (String.ofList
      ((if plus then ['+'] else []) ++ List.replicate zeros '0' ++ Nat.toDigits 10 n)).toList) n := by
  have read := isDigits_zeros_toDigits zeros n
  have plain : ∀ c ∈ List.replicate zeros '0' ++ Nat.toDigits 10 n, isWhiteSpace c = false :=
    fun c member => isWhiteSpace_of_isDigit (read.2.1 c member)
  rw [String.toList_ofList, List.append_assoc]
  cases plus with
  | false =>
    rw [if_neg Bool.false_ne_true, List.nil_append, trimChars_of_no_whiteSpace plain]
    exact ⟨_, .inl rfl, read⟩
  | true =>
    have signed : ∀ c ∈ '+' :: (List.replicate zeros '0' ++ Nat.toDigits 10 n),
        isWhiteSpace c = false := by
      intro c member
      rcases List.mem_cons.mp member with rfl | digit
      · decide +kernel
      · exact plain c digit
    rw [if_pos rfl, List.singleton_append, trimChars_of_no_whiteSpace signed]
    exact ⟨_, .inr rfl, read⟩

/-! ### Steps into objects -/

private theorem findMember?_eq_some_iff {key : String} {members : List (String × Json)} {v : Json} :
    Json.findMember? key members = some v ↔
      ∃ before after, members = before ++ (key, v) :: after ∧ ∀ m ∈ before, m.1 ≠ key := by
  induction members with
  | nil => simp [Json.findMember?]
  | cons member rest ih =>
    obtain ⟨k, w⟩ := member
    by_cases same : key = k
    · subst same
      simp only [Json.findMember?, ↓reduceIte, Option.some.injEq]
      constructor
      · rintro rfl
        exact ⟨[], rest, rfl, by simp⟩
      · rintro ⟨before, after, spelled, earlier⟩
        cases before with
        | nil => exact (Prod.mk.inj (List.cons.inj spelled).1).2
        | cons first before =>
          exact absurd (congrArg Prod.fst (List.cons.inj spelled).1).symm (earlier first List.mem_cons_self)
    · simp only [Json.findMember?, if_neg same, ih]
      constructor
      · rintro ⟨before, after, rfl, earlier⟩
        refine ⟨(k, w) :: before, after, rfl, ?_⟩
        intro m member
        rcases List.mem_cons.mp member with rfl | inside
        · exact Ne.symm same
        · exact earlier m inside
      · rintro ⟨before, after, spelled, earlier⟩
        cases before with
        | nil => exact absurd (congrArg Prod.fst (List.cons.inj spelled).1) (Ne.symm same)
        | cons first before =>
          obtain ⟨rfl, rest_spelled⟩ := List.cons.inj spelled
          exact ⟨before, after, rest_spelled, fun m member => earlier m (List.mem_cons_of_mem _ member)⟩

/-! ### The step as a whole -/

/-- A step by a key into an array takes the item at the position that the key, trimmed, writes
as `\+?[0-9]+`, if that position is below 2^64 and inside the array, and nothing otherwise; the
number is never reduced modulo 2^64, signs other than one plus, decimal points and radix prefixes
are no positions, and leading zeros or a plus sign change nothing. A step into an object takes the
member under the key exactly as written. -/
theorem lookupKey_reads_positions_without_wrapping :
    (∀ (key : String) (items : List Json) (v : Json),
      lookupKey key (.array items) = some v ↔
        ∃ n, IsNumeral (Text.trimChars key.toList) n ∧ n < 2 ^ 64 ∧ items[n]? = some v) ∧
    (∀ (key : String) (n : Nat) (items : List Json), IsNumeral (Text.trimChars key.toList) n →
      2 ^ 64 ≤ n → lookupKey key (.array items) = none) ∧
    (∀ (i : Nat) (items : List Json), lookupKey (Nat.repr (2 ^ 64 + i)) (.array items) = none) ∧
    (∀ key ∈ ["-0", "1.0", "0x1", "+", ""], ∀ items : List Json,
      lookupKey key (.array items) = none) ∧
    (∀ (plus : Bool) (zeros n : Nat) (items : List Json), n < 2 ^ 64 →
      lookupKey (String.ofList ((if plus then ['+'] else []) ++ List.replicate zeros '0' ++
        Nat.toDigits 10 n)) (.array items) = items[n]?) ∧
    (∀ (key : String) (members : List (String × Json)) (v : Json),
      lookupKey key (.object members) = some v ↔
        ∃ before after, members = before ++ (key, v) :: after ∧ ∀ m ∈ before, m.1 ≠ key) := by
  refine ⟨fun _ _ _ => lookupKey_array_eq_some_iff,
    fun _ _ items numeral large => lookupKey_array_of_large numeral large items, ?_, ?_,
    fun plus zeros n items small => lookupKey_array_of_numeral (isNumeral_padded plus zeros n) small items,
    fun _ _ _ => findMember?_eq_some_iff⟩
  · intro i items
    rw [Nat.repr_eq_ofList_toDigits]
    exact lookupKey_array_of_large (isNumeral_padded false 0 (2 ^ 64 + i)) (Nat.le_add_right _ _) items
  · intro key listed items
    have unread : parseIndex? key = none := by
      simp only [List.mem_cons, List.not_mem_nil, or_false] at listed
      rcases listed with rfl | rfl | rfl | rfl | rfl <;> decide +kernel
    simp [lookupKey, step, unread]

end Stencil.Data
