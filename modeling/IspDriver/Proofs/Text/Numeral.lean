import Mathlib.Data.List.Forall2
import Mathlib.Data.List.TakeWhile
import Mathlib.Data.Nat.Digits.Defs
import Mathlib.Tactic.Ring
import IspDriver.Text.Character
import IspDriver.Text.Numeral

/-!
What numerals denote. A digit is what prints a value below the base, or the same letter in upper
case; a numeral denotes the number whose digits have these values. Reading gives the number that a
numeral denotes and refuses every other text, and what prints a number denotes it. The parts of a
text that numerals are read from are told by what they are put together to.
-/

namespace IspDriver.Text

/-- The character is a digit of the base, with this value. The case of letters does not count. -/
def IsDigit (base : Nat) (c : Char) (value : Nat) : Prop :=
  value < base ∧ c.toLower = value.digitChar

variable {base value : Nat} {c : Char}

theorem toNat_digitChar (small : value < 16) :
    value.digitChar.toNat = if value < 10 then 48 + value else 87 + value := by
  have all : ∀ value < 16,
      value.digitChar.toNat = if value < 10 then 48 + value else 87 + value := by decide
  exact all value small

theorem toNat_toLower (c : Char) :
    c.toLower.toNat = if 65 ≤ c.toNat ∧ c.toNat ≤ 90 then c.toNat + 32 else c.toNat := by
  have place : (c.val ≥ 'A'.val ∧ c.val ≤ 'Z'.val) ↔ 65 ≤ c.toNat ∧ c.toNat ≤ 90 := Iff.rfl
  unfold Char.toLower
  split
  · next upper =>
      rw [if_pos (place.mp upper)]
      have bound := (place.mp upper).2
      have sum : (c.val + ('a'.val - 'A'.val)).toNat = (c.toNat + 32) % 2 ^ 32 :=
        UInt32.toNat_add ..
      exact sum.trans (Nat.mod_eq_of_lt (by omega))
  · next other => rw [if_neg (mt place.mpr other)]

theorem digitValue?_eq_some_iff (small : base ≤ 16) :
    digitValue? base c = some value ↔ IsDigit base c value := by
  have decimal : ('0' ≤ c ∧ c ≤ '9') ↔ 48 ≤ c.toNat ∧ c.toNat ≤ 57 := Iff.rfl
  have lower : ('a' ≤ c ∧ c ≤ 'z') ↔ 97 ≤ c.toNat ∧ c.toNat ≤ 122 := Iff.rfl
  have upper : ('A' ≤ c ∧ c ≤ 'Z') ↔ 65 ≤ c.toNat ∧ c.toNat ≤ 90 := Iff.rfl
  have zero : '0'.toNat = 48 := rfl
  have first : 'a'.toNat = 97 := rfl
  have capital : 'A'.toNat = 65 := rfl
  unfold digitValue? IsDigit
  simp only [decimal, lower, upper, zero, first, capital, Option.filter_eq_some_iff,
    decide_eq_true_eq]
  rw [and_comm]
  refine and_congr_right fun below => ?_
  rw [← Char.toNat_inj, toNat_toLower, toNat_digitChar (by omega)]
  split <;> grind

/-- Where the digits of bases up to 16 lie. -/
theorem IsDigit.range (digit : IsDigit base c value) (small : base ≤ 16) :
    (48 ≤ c.toNat ∧ c.toNat ≤ 57) ∨ (65 ≤ c.toNat ∧ c.toNat ≤ 70) ∨
      (97 ≤ c.toNat ∧ c.toNat ≤ 102) := by
  obtain ⟨below, same⟩ := digit
  rw [← Char.toNat_inj, toNat_toLower, toNat_digitChar (by omega)] at same
  grind

theorem isDigit_digitChar (below : value < base) (small : base ≤ 16) :
    IsDigit base value.digitChar value := by
  refine ⟨below, ?_⟩
  rw [← Char.toNat_inj, toNat_toLower, toNat_digitChar (by omega)]
  split <;> grind

/-- The digits denote the number, the highest first. -/
def Denotes (base : Nat) (digits : List Char) (number : Nat) : Prop :=
  digits ≠ [] ∧ ∃ values, List.Forall₂ (IsDigit base) digits values ∧
    Nat.ofDigits base values.reverse = number

/-- The text is digits that denote the number, after at most one plus sign. -/
def IsUnsigned (base : Nat) (text : List Char) (number : Nat) : Prop :=
  ∃ digits, (text = digits ∨ text = '+' :: digits) ∧ Denotes base digits number

variable {high number : Nat} {text digits : List Char} {values : List Nat}

/-- A digit in front of others counts as much as if it had been read before them. -/
theorem ofDigits_reverse_cons (base high value : Nat) (values : List Nat) :
    high * base ^ (value :: values).length + Nat.ofDigits base (value :: values).reverse =
      (high * base + value) * base ^ values.length + Nat.ofDigits base values.reverse := by
  rw [List.length_cons, List.reverse_cons, Nat.ofDigits_append, Nat.ofDigits_singleton,
    List.length_reverse, Nat.pow_succ]
  ring

theorem digitsAfter?_eq_some_iff (small : base ≤ 16) :
    digitsAfter? base high text = some number ↔
      ∃ values, List.Forall₂ (IsDigit base) text values ∧
        high * base ^ values.length + Nat.ofDigits base values.reverse = number := by
  induction text generalizing high with
  | nil => simp [digitsAfter?]
  | cons c rest ih =>
      simp only [digitsAfter?, Option.bind_eq_bind, Option.bind_eq_some_iff, ih,
        digitValue?_eq_some_iff small, List.forall₂_cons_left_iff]
      constructor
      · rintro ⟨value, digit, values, others, total⟩
        refine ⟨value :: values, ⟨value, values, digit, others, rfl⟩, ?_⟩
        rw [ofDigits_reverse_cons, total]
      · rintro ⟨_, ⟨value, values, digit, others, rfl⟩, total⟩
        refine ⟨value, digit, values, others, ?_⟩
        rw [← ofDigits_reverse_cons, total]

theorem natural?_eq_some_iff (small : base ≤ 16) :
    natural? base text = some number ↔ Denotes base text number := by
  cases text with
  | nil => simp [natural?, Denotes]
  | cons c rest => simp [natural?, Denotes, digitsAfter?_eq_some_iff small]

theorem Denotes.digit (denotes : Denotes base text number) (member : c ∈ text) :
    ∃ value, IsDigit base c value := by
  obtain ⟨-, values, digits, -⟩ := denotes
  obtain ⟨i, inside, rfl⟩ := List.getElem_of_mem member
  exact ⟨_, digits.get inside (digits.length_eq ▸ inside)⟩

/-- An unsigned numeral is made of digits and plus signs. -/
theorem IsUnsigned.digit (unsigned : IsUnsigned base text number) (member : c ∈ text) :
    c = '+' ∨ ∃ value, IsDigit base c value := by
  obtain ⟨digits, rfl | rfl, denotes⟩ := unsigned
  · exact .inr (denotes.digit member)
  · rcases List.mem_cons.mp member with rfl | member
    · exact .inl rfl
    · exact .inr (denotes.digit member)

theorem not_denotes_plus (small : base ≤ 16) : ¬ Denotes base ('+' :: text) number := by
  intro denotes
  obtain ⟨value, digit⟩ := denotes.digit (List.mem_cons_self ..)
  exact absurd (digit.range small) (by decide)

theorem unsigned?_eq_some_iff (small : base ≤ 16) :
    unsigned? base text = some number ↔ IsUnsigned base text number := by
  unfold unsigned?
  split
  · next digits =>
      rw [natural?_eq_some_iff small]
      constructor
      · exact fun denotes => ⟨digits, .inr rfl, denotes⟩
      · rintro ⟨others, rfl | same, denotes⟩
        · exact absurd denotes (not_denotes_plus small)
        · cases same
          exact denotes
  · next unsigned =>
      rw [natural?_eq_some_iff small]
      constructor
      · exact fun denotes => ⟨text, .inl rfl, denotes⟩
      · rintro ⟨digits, rfl | rfl, denotes⟩
        · exact denotes
        · exact absurd rfl (unsigned digits)

/-- A word is read from what denotes it, and from nothing else: a number too large is refused. -/
theorem word?_eq_some_iff (small : base ≤ 16) {word : UInt32} :
    word? base text = some word ↔ IsUnsigned base text word.toNat := by
  have bound := word.toNat_lt
  rw [← unsigned?_eq_some_iff small]
  unfold word?
  cases read : unsigned? base text with
  | none => simp
  | some value =>
      simp only [Option.some.injEq, UInt32.size]
      constructor
      · intro same
        split at same
        · next below =>
            cases same
            simp [Nat.mod_eq_of_lt below]
        · cases same
      · rintro rfl
        simp [bound]

theorem denotes_digit (digit : IsDigit base c value) : Denotes base [c] value :=
  ⟨by simp, [value], .cons digit .nil, by simp⟩

/-- One more digit at the end. -/
theorem Denotes.snoc (denotes : Denotes base digits number) (digit : IsDigit base c value) :
    Denotes base (digits ++ [c]) (base * number + value) := by
  obtain ⟨-, values, others, rfl⟩ := denotes
  refine ⟨by simp, values ++ [value], List.rel_append others (.cons digit .nil), ?_⟩
  rw [List.reverse_append, List.reverse_singleton, List.singleton_append, Nat.ofDigits_cons,
    Nat.add_comm]

/-- Zeros in front change nothing. -/
theorem Denotes.padded (denotes : Denotes base digits number) (positive : 0 < base) (count : Nat) :
    Denotes base (List.replicate count '0' ++ digits) number := by
  induction count with
  | zero => exact denotes
  | succ count ih =>
      obtain ⟨nonempty, values, others, total⟩ := ih
      refine ⟨by simp [List.replicate_succ], 0 :: values, .cons ⟨positive, rfl⟩ others, ?_⟩
      have zero := ofDigits_reverse_cons base 0 0 values
      simp only [Nat.zero_mul, Nat.zero_add] at zero
      exact zero.trans total

theorem denotes_toDigits (two : 1 < base) (small : base ≤ 16) (number : Nat) :
    Denotes base (Nat.toDigits base number) number := by
  induction number using Nat.strongRecOn with
  | ind number ih =>
      rw [Nat.toDigits_eq_if two]
      split
      · next below => exact denotes_digit (isDigit_digitChar below small)
      · next large =>
          have shorter : number / base < number := Nat.div_lt_self (by omega) two
          have last := isDigit_digitChar (Nat.mod_lt number (by omega)) small
          have whole := (ih _ shorter).snoc last
          rwa [Nat.div_add_mod] at whole

theorem denotes_hex (width number : Nat) : Denotes 16 (hex width number).toList number := by
  rw [hex, String.toList_ofList, List.leftpad]
  exact (denotes_toDigits (by decide) (by decide) number).padded (by decide) _

theorem isUnsigned_toDigits (two : 1 < base) (small : base ≤ 16) (number : Nat) :
    IsUnsigned base (Nat.toDigits base number) number :=
  ⟨_, .inl rfl, denotes_toDigits two small number⟩

variable {mark : Char} {before after core : List Char}

/-- A text is cut at the first mark. -/
theorem cutAt?_eq_some_iff :
    cutAt? mark text = some (before, after) ↔ text = before ++ mark :: after ∧ mark ∉ before := by
  induction text generalizing before with
  | nil => simp [cutAt?]
  | cons c rest ih =>
      unfold cutAt?
      split
      · next same =>
          subst same
          cases before with
          | nil => simp
          | cons first front => simp +contextual
      · next differs =>
          cases before with
          | nil => simp [differs]
          | cons first front =>
              simp only [Option.map_eq_some_iff, Prod.exists, List.cons_append, List.mem_cons]
              grind

theorem cutAt?_eq_none_iff : cutAt? mark text = none ↔ mark ∉ text := by
  induction text with
  | nil => simp [cutAt?]
  | cons c rest ih =>
      unfold cutAt?
      split
      · next same => simp [same]
      · next differs => simp [ih, Ne.symm differs]

/-- Trimming takes away blanks and nothing else. -/
theorem exists_trim (text : List Char) :
    ∃ before after, text = before ++ trim text ++ after ∧
      (∀ c ∈ before, isBlank c) ∧ ∀ c ∈ after, isBlank c := by
  have front := (List.takeWhile_append_dropWhile (p := isBlank) (l := text)).symm
  have back := (List.takeWhile_append_dropWhile (p := isBlank)
    (l := (text.dropWhile isBlank).reverse)).symm
  have turned := congrArg List.reverse back
  rw [List.reverse_reverse, List.reverse_append] at turned
  refine ⟨text.takeWhile isBlank, ((text.dropWhile isBlank).reverse.takeWhile isBlank).reverse,
    ?_, fun c member => ?_, fun c member => ?_⟩
  · rw [List.append_assoc]
    exact front.trans (congrArg _ turned)
  · exact List.mem_takeWhile_imp member
  · exact List.mem_takeWhile_imp (List.mem_reverse.mp member)

/-- What has no blank in it is what trimming leaves, whatever blanks are around it. -/
theorem trim_blanks (blanksBefore : ∀ c ∈ before, isBlank c) (solid : ∀ c ∈ core, ¬ isBlank c)
    (blanksAfter : ∀ c ∈ after, isBlank c) : trim (before ++ core ++ after) = core := by
  unfold trim
  rw [List.append_assoc, List.dropWhile_append_of_pos blanksBefore]
  cases core with
  | nil =>
      rw [List.nil_append, List.dropWhile_eq_nil_iff.mpr blanksAfter]
      rfl
  | cons first rest =>
      rw [List.cons_append, List.dropWhile_cons_of_neg (solid first (List.mem_cons_self ..)),
        ← List.cons_append, List.reverse_append,
        List.dropWhile_append_of_pos fun c member => blanksAfter c (List.mem_reverse.mp member)]
      have last : (first :: rest).reverse.dropWhile isBlank = (first :: rest).reverse := by
        refine List.dropWhile_eq_self_iff.mpr fun inside => ?_
        exact solid _ (List.mem_reverse.mp (List.getElem_mem inside))
      rw [last, List.reverse_reverse]

end IspDriver.Text
