import IspDriver.CommandLine.Number
import IspDriver.Proofs.Text.Numeral

/-!
Which arguments are numbers and which are sizes. The forms are told without the readers: a number
by its digits, its base and what may stand around and between them, a size by its two numbers and
the mark between them. Each reader takes the texts of its form and refuses all others, and what
prints a number or a size is of the form.
-/

namespace IspDriver.CommandLine

open Text

/-- What a reader makes of a text that may mean these values: a value that is meant and no other,
and a refused argument where none is. -/
structure Reads {α : Type} (result : Except Failure α) (meant : α → Prop) : Prop where
  takes : ∀ value, result = .ok value ↔ meant value
  refuses : (∀ value, ¬ meant value) → ∃ message, result = .error (.invalidArguments message)

variable {α β : Type} {result : Except Failure α} {meant other : α → Prop}

theorem Reads.of_cases (complete : ∀ value, meant value → result = .ok value)
    (sound : (∃ value, result = .ok value ∧ meant value) ∨
      ∃ message, result = .error (.invalidArguments message)) : Reads result meant where
  takes value := by
    refine ⟨fun read => ?_, complete value⟩
    rcases sound with ⟨found, same, means⟩ | ⟨message, refused⟩
    · cases same.symm.trans read
      exact means
    · cases refused.symm.trans read
  refuses never := sound.resolve_left fun ⟨found, _, means⟩ => never found means

theorem Reads.ends (reading : Reads result meant) :
    (∃ value, result = .ok value ∧ meant value) ∨
      ∃ message, result = .error (.invalidArguments message) := by
  cases result with
  | ok value => exact .inl ⟨value, rfl, (reading.takes value).mp rfl⟩
  | error failure =>
      exact .inr (reading.refuses fun value means => nomatch (reading.takes value).mpr means)

theorem Reads.congr (reading : Reads result meant) (same : ∀ value, meant value ↔ other value) :
    Reads result other := by
  rwa [← funext fun value => propext (same value)]

/-- What is done to a value is done to what is meant. -/
theorem Reads.map (reading : Reads result meant) (f : α → β) :
    Reads (do return f (← result)) fun value => ∃ found, meant found ∧ f found = value := by
  rcases reading.ends with ⟨found, rfl, means⟩ | ⟨message, rfl⟩
  · refine .of_cases ?_ (.inl ⟨f found, rfl, found, means, rfl⟩)
    rintro _ ⟨value, other, rfl⟩
    cases (reading.takes value).mpr other
    rfl
  · refine .of_cases ?_ (.inr ⟨message, rfl⟩)
    rintro _ ⟨value, means, -⟩
    exact nomatch (reading.takes value).mpr means

/-- Digits of a base after at most one plus sign, with underscores anywhere. -/
def IsBody (base : Nat) (text : List Char) (word : UInt32) : Prop :=
  IsUnsigned base (text.filter (· ≠ '_')) word.toNat

/-- A number as it is written: decimal, or hexadecimal after a prefix. -/
inductive IsNumeral : List Char → UInt32 → Prop
  | decimal {text : List Char} {word : UInt32} (body : IsBody 10 text word) : IsNumeral text word
  | hexadecimal {mark : Char} {text : List Char} {word : UInt32} (known : mark = 'x' ∨ mark = 'X')
      (body : IsBody 16 text word) : IsNumeral ('0' :: mark :: text) word

/-- A number as an argument: there may be blanks around it. -/
def IsNumber (text : List Char) (word : UInt32) : Prop :=
  ∃ before numeral after, text = before ++ numeral ++ after ∧ (∀ c ∈ before, isBlank c) ∧
    (∀ c ∈ after, isBlank c) ∧ IsNumeral numeral word

variable {base : Nat} {text : List Char} {word : UInt32} {c : Char}

theorem IsBody.char (body : IsBody base text word) (member : c ∈ text) :
    c = '_' ∨ c = '+' ∨ ∃ value, IsDigit base c value := by
  by_cases underscore : c = '_'
  · exact .inl underscore
  · exact .inr (body.digit (List.mem_filter.mpr ⟨member, by simpa using underscore⟩))

/-- Where the characters of numerals lie: signs and underscores, prefixes, digits. -/
theorem IsNumeral.range (numeral : IsNumeral text word) (member : c ∈ text) :
    c.toNat = 43 ∨ (48 ≤ c.toNat ∧ c.toNat ≤ 57) ∨ (65 ≤ c.toNat ∧ c.toNat ≤ 70) ∨
      c.toNat = 88 ∨ c.toNat = 95 ∨ (97 ≤ c.toNat ∧ c.toNat ≤ 102) ∨ c.toNat = 120 := by
  have inBody {base : Nat} {text : List Char} (small : base ≤ 16) (body : IsBody base text word)
      (member : c ∈ text) : c.toNat = 43 ∨ c.toNat = 95 ∨ (48 ≤ c.toNat ∧ c.toNat ≤ 57) ∨
        (65 ≤ c.toNat ∧ c.toNat ≤ 70) ∨ (97 ≤ c.toNat ∧ c.toNat ≤ 102) := by
    rcases body.char member with rfl | rfl | ⟨value, digit⟩
    · exact .inr (.inl rfl)
    · exact .inl rfl
    · exact .inr (.inr (digit.range small))
  cases numeral with
  | decimal body =>
      have place := inBody (by decide) body member
      omega
  | hexadecimal known body =>
      rcases List.mem_cons.mp member with rfl | member
      · decide
      rcases List.mem_cons.mp member with rfl | member
      · rcases known with rfl | rfl <;> decide
      · have place := inBody (by decide) body member
        omega

theorem IsNumeral.solid (numeral : IsNumeral text word) : ∀ c ∈ text, ¬ isBlank c := by
  intro c member
  have place := numeral.range member
  simp only [isBlank, CodeRanges.contains, whiteSpace, List.any_cons, List.any_nil,
    Bool.or_eq_true, Bool.and_eq_true, decide_eq_true_eq, Bool.false_eq_true, or_false]
  omega

/-- After a prefix there is no decimal number. -/
theorem isNumeral_prefixed {mark : Char} (known : mark = 'x' ∨ mark = 'X') :
    IsNumeral ('0' :: mark :: text) word ↔ IsBody 16 text word := by
  refine ⟨fun numeral => ?_, .hexadecimal known⟩
  cases numeral with
  | hexadecimal _ body => exact body
  | decimal body =>
      rcases body.char (List.mem_cons_of_mem _ (List.mem_cons_self ..)) with
        rfl | rfl | ⟨value, digit⟩
      · exact absurd known (by decide)
      · exact absurd known (by decide)
      · have place := digit.range (by decide)
        rcases known with rfl | rfl <;> exact absurd place (by decide)

/-- The base is told by the prefix. -/
theorem word?_splitBase_eq_some_iff :
    word? (splitBase text).1 ((splitBase text).2.filter (· ≠ '_')) = some word ↔
      IsNumeral text word := by
  unfold splitBase
  split
  · next digits => rw [word?_eq_some_iff (Nat.le_refl 16), isNumeral_prefixed (.inl rfl), IsBody]
  · next digits => rw [word?_eq_some_iff (Nat.le_refl 16), isNumeral_prefixed (.inr rfl), IsBody]
  · next lower upper =>
      rw [word?_eq_some_iff (show 10 ≤ 16 by decide)]
      refine ⟨.decimal, fun numeral => ?_⟩
      cases numeral with
      | decimal body => exact body
      | hexadecimal known body =>
          rcases known with rfl | rfl
          · exact absurd rfl (lower _)
          · exact absurd rfl (upper _)

theorem wordOf?_eq_some_iff : wordOf? text = some word ↔ IsNumber text word := by
  unfold wordOf?
  rw [word?_splitBase_eq_some_iff]
  constructor
  · intro numeral
    obtain ⟨before, after, whole, blanksBefore, blanksAfter⟩ := exists_trim text
    exact ⟨before, _, after, whole, blanksBefore, blanksAfter, numeral⟩
  · rintro ⟨before, core, after, rfl, blanksBefore, blanksAfter, numeral⟩
    rwa [trim_blanks blanksBefore numeral.solid blanksAfter]

theorem parseWord_reads (text : String) : Reads (parseWord text) (IsNumber text.toList) := by
  unfold parseWord
  cases found : wordOf? text.toList with
  | some word =>
      refine .of_cases (fun other number => ?_) (.inl ⟨word, rfl, wordOf?_eq_some_iff.mp found⟩)
      cases found.symm.trans (wordOf?_eq_some_iff.mpr number)
      rfl
  | none =>
      refine .of_cases (fun word number => ?_) (.inr ⟨_, rfl⟩)
      cases found.symm.trans (wordOf?_eq_some_iff.mpr number)

/-- A size as an argument: two decimal numbers, neither of them zero, with a mark between them. -/
inductive IsSize : List Char → Resolution → Prop
  | between {before after : List Char} {size : Resolution} (mark : Char)
      (known : mark = 'x' ∨ mark = '*') (width : IsUnsigned 10 before size.width.toNat)
      (height : IsUnsigned 10 after size.height.toNat)
      (positive : size.width ≠ 0 ∧ size.height ≠ 0) : IsSize (before ++ mark :: after) size

variable {before after : List Char} {size : Resolution} {number : Nat} {mark : Char}

theorem not_mem_of_isUnsigned (unsigned : IsUnsigned 10 text number)
    (known : mark = 'x' ∨ mark = '*') : mark ∉ text := by
  intro member
  rcases unsigned.digit member with rfl | ⟨value, digit⟩
  · exact absurd known (by decide)
  · have place := digit.range (by decide)
    rcases known with rfl | rfl <;> exact absurd place (by decide)

/-- A size is cut at its mark, whichever of the two it is. -/
theorem cut_size (width : IsUnsigned 10 before size.width.toNat)
    (height : IsUnsigned 10 after size.height.toNat) (known : mark = 'x' ∨ mark = '*') :
    (cutAt? 'x' (before ++ mark :: after) <|> cutAt? '*' (before ++ mark :: after)) =
      some (before, after) := by
  rcases known with rfl | rfl
  · rw [cutAt?_eq_some_iff.mpr ⟨rfl, not_mem_of_isUnsigned width (.inl rfl)⟩]
    rfl
  · have none : cutAt? 'x' (before ++ '*' :: after) = none := by
      rw [cutAt?_eq_none_iff, List.mem_append, List.mem_cons, not_or, not_or]
      exact ⟨not_mem_of_isUnsigned width (.inl rfl), by decide,
        not_mem_of_isUnsigned height (.inl rfl)⟩
    rw [none, cutAt?_eq_some_iff.mpr ⟨rfl, not_mem_of_isUnsigned width (.inr rfl)⟩]
    rfl

theorem parseResolution_of_isSize {text : String} (form : IsSize text.toList size) :
    parseResolution text = .ok size := by
  generalize same : text.toList = characters at form
  cases form with
  | between mark known width height positive =>
      have decimal {text : List Char} {word : UInt32} (unsigned : IsUnsigned 10 text word.toNat) :=
        (word?_eq_some_iff (by decide)).mpr unsigned
      unfold parseResolution
      rw [same, cut_size width height known]
      simp only [decimal width, decimal height]
      rw [if_neg (by simpa using positive)]

/-- What is read is a size, and what is not read is refused as an argument. -/
theorem parseResolution_cases (text : String) :
    (∃ size, parseResolution text = .ok size ∧ IsSize text.toList size) ∨
      ∃ message, parseResolution text = .error (.invalidArguments message) := by
  unfold parseResolution
  split
  · exact .inr ⟨_, rfl⟩
  next before after cut =>
  have marked : ∃ mark, (mark = 'x' ∨ mark = '*') ∧ text.toList = before ++ mark :: after := by
    cases first : cutAt? 'x' text.toList with
    | some parts =>
        rw [first] at cut
        cases cut
        exact ⟨'x', .inl rfl, (cutAt?_eq_some_iff.mp first).1⟩
    | none =>
        rw [first] at cut
        exact ⟨'*', .inr rfl, (cutAt?_eq_some_iff.mp cut).1⟩
  obtain ⟨mark, known, whole⟩ := marked
  split
  · exact .inr ⟨_, rfl⟩
  next width readWidth =>
  split
  · exact .inr ⟨_, rfl⟩
  next height readHeight =>
  split
  · exact .inr ⟨_, rfl⟩
  next positive =>
  refine .inl ⟨_, rfl, ?_⟩
  rw [whole]
  exact .between mark known ((word?_eq_some_iff (by decide)).mp readWidth)
    ((word?_eq_some_iff (by decide)).mp readHeight) (by simpa using positive)

theorem parseResolution_reads (text : String) :
    Reads (parseResolution text) (IsSize text.toList) :=
  .of_cases (fun _ => parseResolution_of_isSize) (parseResolution_cases text)

theorem toList_toString (word : UInt32) : (toString word).toList = Nat.toDigits 10 word.toNat :=
  Nat.toList_repr

/-- Digits are a body as they are: there is no underscore to take out. -/
theorem isBody_of_denotes {base : Nat} {text : List Char} {word : UInt32} (small : base ≤ 16)
    (denotes : Denotes base text word.toNat) : IsBody base text word := by
  have kept : text.filter (· ≠ '_') = text := by
    refine List.filter_eq_self.mpr fun c member => ?_
    obtain ⟨value, digit⟩ := denotes.digit member
    have place := digit.range small
    simp only [decide_eq_true_eq]
    rintro rfl
    exact absurd place (by decide)
  unfold IsBody
  rw [kept]
  exact ⟨text, .inl rfl, denotes⟩

theorem IsNumeral.isNumber {text : List Char} {word : UInt32} (numeral : IsNumeral text word) :
    IsNumber text word :=
  ⟨[], text, [], by simp, by simp, by simp, numeral⟩

theorem isNumber_toString (word : UInt32) : IsNumber (toString word).toList word := by
  rw [toList_toString]
  exact (IsNumeral.decimal (isBody_of_denotes (by decide)
    (denotes_toDigits (by decide) (by decide) _))).isNumber

theorem isNumber_hex (width : Nat) (word : UInt32) :
    IsNumber ("0x" ++ hex width word.toNat).toList word := by
  rw [String.toList_append]
  exact (IsNumeral.hexadecimal (.inl rfl)
    (isBody_of_denotes (by decide) (denotes_hex width _))).isNumber

theorem isSize_text {size : Resolution} (positive : size.width ≠ 0 ∧ size.height ≠ 0) :
    IsSize size.text.toList size := by
  have printed : size.text.toList =
      Nat.toDigits 10 size.width.toNat ++ 'x' :: Nat.toDigits 10 size.height.toNat := by
    have mark : (toString "x").toList = ['x'] := rfl
    simp [Resolution.text, toList_toString, mark]
  rw [printed]
  exact .between 'x' (.inl rfl) (isUnsigned_toDigits (by decide) (by decide) _)
    (isUnsigned_toDigits (by decide) (by decide) _) positive

/-- Arguments are read as numbers and as sizes exactly if they are written as such, and refused as
arguments otherwise. Every number reads back from its decimal and from its hexadecimal digits,
whatever their width, and a size without a zero reads back from its text. -/
theorem number_and_size_arguments :
    (∀ text : String, Reads (parseWord text) (IsNumber text.toList)) ∧
      (∀ text : String, Reads (parseResolution text) (IsSize text.toList)) ∧
      (∀ word : UInt32, parseWord (toString word) = .ok word ∧
        ∀ width, parseWord ("0x" ++ hex width word.toNat) = .ok word) ∧
      ∀ size : Resolution, size.width ≠ 0 → size.height ≠ 0 →
        parseResolution size.text = .ok size := by
  refine ⟨parseWord_reads, parseResolution_reads, fun word => ⟨?_, fun width => ?_⟩, ?_⟩
  · exact ((parseWord_reads _).takes _).mpr (isNumber_toString word)
  · exact ((parseWord_reads _).takes _).mpr (isNumber_hex width word)
  · intro size wide high
    exact parseResolution_of_isSize (isSize_text ⟨wide, high⟩)

/-- A number with everything there may be in it, the first number that is too large, and a size. -/
theorem largest_word_and_size :
    IsNumber "\t0X+_ffFF_ffff ".toList 0xffffffff ∧
      (∀ word, ¬ IsNumber "0x1_0000_0000".toList word) ∧
      (∃ message, parseWord "0x1_0000_0000" = .error (.invalidArguments message)) ∧
      (1920 : UInt32) ≠ 0 ∧ (1080 : UInt32) ≠ 0 ∧
      parseResolution (Resolution.text ⟨1920, 1080⟩) = .ok ⟨1920, 1080⟩ := by
  obtain ⟨numbers, -, -, sizes⟩ := number_and_size_arguments
  have read : parseWord "\t0X+_ffFF_ffff " = .ok 0xffffffff := by decide
  have large : parseWord "0x1_0000_0000" =
      .error (.invalidArguments "Invalid number: 0x1_0000_0000") := by decide
  have never : ∀ word, ¬ IsNumber "0x1_0000_0000".toList word := by
    intro word form
    cases large.symm.trans (((numbers _).takes _).mpr form)
  exact ⟨((numbers _).takes _).mp read, never, (numbers _).refuses never, by decide, by decide,
    sizes ⟨1920, 1080⟩ (by decide) (by decide)⟩

end IspDriver.CommandLine
