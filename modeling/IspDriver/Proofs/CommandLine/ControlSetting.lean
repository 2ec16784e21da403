import Mathlib.Data.List.Nodup
import IspDriver.CommandLine.ControlSetting
import IspDriver.Proofs.CommandLine.Number

/-!
Which arguments set a control, and to what. A setting is a spelling of a control's name and a signed
number, with the first equals sign between them; no spelling is of two controls, and the number is
the one that is written, so one too large for a control is refused.
-/

namespace IspDriver.CommandLine.ControlSetting

open Text

/-- The name is the control's key, up to dashes, underscores and the case of letters. -/
def Spells (name : List Char) (id : ControlId) : Prop :=
  foldCase (name.filter fun c => c ≠ '-' ∧ c ≠ '_') = foldCase id.spec.key.toList

instance (name : List Char) (id : ControlId) : Decidable (Spells name id) :=
  inferInstanceAs (Decidable (_ = _))

variable {name : List Char} {id other : ControlId}

theorem mem_all (id : ControlId) : id ∈ ControlId.all := by
  cases id <;> decide

/-- The keys differ in more than the case of their letters. -/
theorem nodup_keys : (ControlId.all.map fun id => foldCase id.spec.key.toList).Nodup := by
  decide

theorem Spells.unique (left : Spells name id) (right : Spells name other) : id = other :=
  List.inj_on_of_nodup_map nodup_keys (mem_all id) (mem_all other) (left.symm.trans right)

theorem sameLetters_iff_spells :
    sameLetters id.spec.key.toList (name.filter fun c => c ≠ '-' ∧ c ≠ '_') = true ↔
      Spells name id := by
  rw [sameLetters, beq_iff_eq, Spells, eq_comm]

theorem spells_of_control? (found : control? name = some id) : Spells name id := by
  have matched := List.find?_some found
  exact sameLetters_iff_spells.mp matched

theorem control?_eq_some_iff : control? name = some id ↔ Spells name id := by
  refine ⟨spells_of_control?, fun spells => ?_⟩
  cases found : control? name with
  | none =>
      have differs := List.find?_eq_none.mp found id (mem_all id)
      exact absurd (sameLetters_iff_spells.mpr spells) differs
  | some other => rw [(spells_of_control? found).unique spells]

theorem spells_key (id : ControlId) : Spells id.spec.key.toList id := by
  cases id <;> decide

/-- No letter of a name is an equals sign, and nothing else of it is. -/
theorem Spells.noEquals (spells : Spells name id) : '=' ∉ name := by
  intro member
  have kept : '=' ∈ name.filter fun c => c ≠ '-' ∧ c ≠ '_' := by simpa using member
  have folded : '=' ∈ foldCase id.spec.key.toList := by
    rw [← spells]
    exact List.mem_map_of_mem kept
  revert folded
  cases id <;> decide

/-- A number with a minus sign right before it, or without one. -/
inductive IsSigned : List Char → Int → Prop
  | plain {text : List Char} {word : UInt32} (number : IsNumber text word) :
      IsSigned text (Int.ofNat word.toNat)
  | minus {text : List Char} {word : UInt32} (number : IsNumber text word) :
      IsSigned ('-' :: text) (-Int.ofNat word.toNat)

section Numbers

variable {text : List Char} {value : Int}

theorem noMinus_of_isNumber {word : UInt32} (number : IsNumber text word) : '-' ∉ text := by
  obtain ⟨before, core, after, rfl, blanksBefore, blanksAfter, numeral⟩ := number
  intro member
  rcases List.mem_append.mp member with member | behind
  · rcases List.mem_append.mp member with ahead | inside
    · exact absurd (blanksBefore '-' ahead) (by decide)
    · exact absurd (numeral.range inside) (by decide)
  · exact absurd (blanksAfter '-' behind) (by decide)

theorem isSigned_minus_iff :
    IsSigned ('-' :: text) value ↔ ∃ word, IsNumber text word ∧ -Int.ofNat word.toNat = value := by
  constructor
  · intro signed
    cases signed with
    | plain number => exact absurd (List.mem_cons_self ..) (noMinus_of_isNumber number)
    | minus number => exact ⟨_, number, rfl⟩
  · rintro ⟨word, number, rfl⟩
    exact .minus number

theorem isSigned_plain_iff (unsigned : ∀ magnitude, text ≠ '-' :: magnitude) :
    IsSigned text value ↔ ∃ word, IsNumber text word ∧ Int.ofNat word.toNat = value := by
  constructor
  · intro signed
    cases signed with
    | plain number => exact ⟨_, number, rfl⟩
    | minus number => exact absurd rfl (unsigned _)
  · rintro ⟨word, number, rfl⟩
    exact .plain number

theorem number_reads (text : List Char) : Reads (number text) (IsSigned text) := by
  have plain (text : List Char) : Reads (parseWord (String.ofList text)) (IsNumber text) := by
    have reading := parseWord_reads (String.ofList text)
    rwa [String.toList_ofList] at reading
  unfold number
  split
  · next magnitude => exact ((plain magnitude).map _).congr fun value => isSigned_minus_iff.symm
  · next unsigned =>
      exact ((plain text).map _).congr fun value => (isSigned_plain_iff unsigned).symm

/-- A number is written with its sign, if it has one, as it prints. -/
theorem isSigned_toString (value : Int32) : IsSigned (toString value).toList value.toInt := by
  have low := value.le_toInt
  have high := value.toInt_lt
  have printed : (toString value).toList = value.toInt.repr.toList := rfl
  have word (magnitude : Nat) (small : magnitude < 2 ^ 32) :
      IsNumber magnitude.repr.toList magnitude.toUInt32 ∧
        magnitude.toUInt32.toNat = magnitude := by
    have same : magnitude.toUInt32.toNat = magnitude := by
      simpa using Nat.mod_eq_of_lt small
    have number := isNumber_toString magnitude.toUInt32
    rw [toList_toString, same] at number
    rw [Nat.toList_repr]
    exact ⟨number, same⟩
  rw [printed, Int.repr_eq_if]
  split
  · next positive =>
      obtain ⟨number, same⟩ := word value.toInt.toNat (by omega)
      have signed := IsSigned.plain number
      rwa [same, Int.ofNat_eq_natCast, Int.toNat_of_nonneg positive] at signed
  · next negative =>
      obtain ⟨number, same⟩ := word (-value.toInt).toNat (by omega)
      have signed := IsSigned.minus number
      rw [same, Int.ofNat_eq_natCast, Int.toNat_of_nonneg (by omega), Int.neg_neg] at signed
      rwa [String.toList_append]

end Numbers

/-- The text is a name of the control, an equals sign and the value. -/
def IsSetting (text : List Char) (setting : ControlSetting) : Prop :=
  ∃ name value, text = name ++ '=' :: value ∧ '=' ∉ name ∧ Spells name setting.id ∧
    IsSigned value setting.value.toInt

variable {text : String} {value : List Char} {setting : ControlSetting} {number : Int}

theorem limits_iff : (Int32.minValue.toInt ≤ number ∧ number ≤ Int32.maxValue.toInt) ↔
    -2 ^ 31 ≤ number ∧ number < 2 ^ 31 := by
  rw [Int32.toInt_minValue, Int32.toInt_maxValue]
  omega

/-- A number out of range is refused, with the text of it. -/
theorem parse_of_spells (whole : text.toList = name ++ '=' :: value) (spells : Spells name id)
    (signed : IsSigned value number) :
    parse text = if -2 ^ 31 ≤ number ∧ number < 2 ^ 31 then .ok ⟨id, .ofInt number⟩
      else .error (.invalidArguments ("Control value out of range: " ++ String.ofList value)) := by
  unfold parse
  rw [cutAt?_eq_some_iff.mpr ⟨whole, spells.noEquals⟩]
  simp only [control?_eq_some_iff.mpr spells]
  rw [((number_reads value).takes number).mpr signed]
  exact if_congr limits_iff rfl rfl

theorem parse_of_isSetting (form : IsSetting text.toList setting) : parse text = .ok setting := by
  obtain ⟨name, value, whole, -, spells, signed⟩ := form
  rw [parse_of_spells whole spells signed, if_pos ⟨setting.value.le_toInt, setting.value.toInt_lt⟩,
    Int32.ofInt_toInt]

/-- What is read is a setting, and what is not read is refused as an argument. -/
theorem parse_cases (text : String) :
    (∃ setting, parse text = .ok setting ∧ IsSetting text.toList setting) ∨
      ∃ message, parse text = .error (.invalidArguments message) := by
  unfold parse
  split
  · exact .inr ⟨_, rfl⟩
  next name value cut =>
  split
  · exact .inr ⟨_, rfl⟩
  next id known =>
  rcases (number_reads value).ends with ⟨number, read, signed⟩ | ⟨message, refused⟩
  · rw [read]
    by_cases inside : Int32.minValue.toInt ≤ number ∧ number ≤ Int32.maxValue.toInt
    · obtain ⟨whole, first⟩ := cutAt?_eq_some_iff.mp cut
      obtain ⟨low, high⟩ := limits_iff.mp inside
      refine .inl ⟨_, if_pos inside, name, value, whole, first, control?_eq_some_iff.mp known, ?_⟩
      rwa [Int32.toInt_ofInt_of_le low high]
    · exact .inr ⟨_, if_neg inside⟩
  · rw [refused]
    exact .inr ⟨message, rfl⟩

theorem parse_reads (text : String) : Reads (parse text) (IsSetting text.toList) :=
  .of_cases (fun _ => parse_of_isSetting) (parse_cases text)

/-- A control is set by exactly the texts that are settings, to the value that is written, and every
other text is refused as an argument. A value that no control can have is refused and not cut down
to one that fits; a value as it prints, down to the lowest, sets every control by every spelling of
its name, and a spelling is of one control. -/
theorem control_arguments :
    (∀ text : String, Reads (parse text) (IsSetting text.toList)) ∧
      (∀ (name value : List Char) (id : ControlId) (number : Int),
        Spells name id → IsSigned value number →
          parse (String.ofList (name ++ '=' :: value)) =
            if -2 ^ 31 ≤ number ∧ number < 2 ^ 31 then .ok ⟨id, .ofInt number⟩
            else .error (.invalidArguments
              ("Control value out of range: " ++ String.ofList value))) ∧
      (∀ (name : String) (id : ControlId) (value : Int32), Spells name.toList id →
        parse (name ++ "=" ++ toString value) = .ok ⟨id, value⟩) ∧
      (∀ id : ControlId, Spells id.spec.key.toList id) ∧
      ∀ (name : List Char) (id other : ControlId), Spells name id → Spells name other →
        id = other := by
  refine ⟨parse_reads, ?_, ?_, spells_key, fun name id other => Spells.unique⟩
  · intro name value id number spells signed
    have read := parse_of_spells (String.toList_ofList ..) spells signed
    exact read
  · intro name id value spells
    have whole : (name ++ "=" ++ toString value).toList =
        name.toList ++ '=' :: (toString value).toList := by
      simp
    exact parse_of_isSetting ⟨_, _, whole, spells.noEquals, spells, isSigned_toString value⟩

/-- The lowest value, and one that would be -1 if it were cut to 32 bits. -/
theorem zoom_lowest_and_too_large :
    Spells "Zo-o_M".toList .zoom ∧ IsSigned "0xffff_ffff".toList 0xffffffff ∧
      parse "Zo-o_M=0xffff_ffff" =
        .error (.invalidArguments "Control value out of range: 0xffff_ffff") ∧
      parse "Zo-o_M=-2147483648" = .ok ⟨.zoom, -2147483648⟩ := by
  obtain ⟨-, values, printed, -, -⟩ := control_arguments
  have spells : Spells "Zo-o_M".toList .zoom := by decide
  have signed : IsSigned "0xffff_ffff".toList 0xffffffff :=
    ((number_reads _).takes _).mp (by decide)
  refine ⟨spells, signed, ?_, ?_⟩
  · have read := values _ _ _ _ spells signed
    rwa [if_neg (by decide)] at read
  · exact printed "Zo-o_M" .zoom (-2147483648) spells

end IspDriver.CommandLine.ControlSetting
