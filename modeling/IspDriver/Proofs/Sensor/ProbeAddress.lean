import Mathlib.Data.Nat.Bitwise
import IspDriver.CommandLine.Probe
import IspDriver.Proofs.Bytes

/-!
The word of a probe address, seen as the numbers in its fields. A word is an address exactly if its
spare bits are clear and its width is one or two, and then the address is all that is in it. An
address that is put together from parts takes only the low bits of its width.
-/

namespace IspDriver

/-- What a mask of ones leaves of a number is the field under it, in its place. -/
theorem and_field (number size place : Nat) :
    number &&& ((2 ^ size - 1) <<< place) = (number / 2 ^ place % 2 ^ size) <<< place := by
  apply Nat.eq_of_testBit_eq
  intro i
  by_cases above : place ≤ i
  · simp [Nat.testBit_mod_two_pow, Nat.testBit_div_two_pow, Nat.testBit_two_pow_sub_one, above,
      Bool.and_comm]
  · simp [above]

theorem and_field_eq_zero (number size place : Nat) :
    number &&& ((2 ^ size - 1) <<< place) = 0 ↔ number / 2 ^ place % 2 ^ size = 0 := by
  rw [and_field, Nat.shiftLeft_eq_zero_iff]

namespace Register

variable {register : Register} {width : UInt32} {offset : UInt16}

theorem toNat_width (register : Register) : register.width.toNat = register.raw.toNat / 2 ^ 24 := by
  simp [Register.width, Nat.shiftRight_eq_div_pow]

theorem toNat_offset (register : Register) : register.offset.toNat = register.raw.toNat % 2 ^ 16 := by
  simp [Register.offset]

theorem page_eq_zero_iff (register : Register) :
    register.page = 0 ↔ register.raw.toNat / 2 ^ 16 % 2 ^ 8 = 0 := by
  rw [← UInt32.toNat_inj, ← and_field_eq_zero]
  simp [Register.page]

/-- A direct register is its width and its offset. -/
theorem toNat_raw_of_direct (direct : register.page = 0) :
    register.raw.toNat = register.width.toNat * 2 ^ 24 + register.offset.toNat := by
  have clear := (page_eq_zero_iff register).mp direct
  rw [toNat_width, toNat_offset]
  omega

theorem eq_of_direct {other : Register} (direct : register.page = 0) (same : other.page = 0)
    (widths : register.width = other.width) (offsets : register.offset = other.offset) :
    register = other := by
  have number : register.raw.toNat = other.raw.toNat := by
    rw [toNat_raw_of_direct direct, toNat_raw_of_direct same, widths, offsets]
  cases register
  cases other
  simpa [UInt32.toNat_inj] using number

theorem raw_ofWidth (width : UInt32) (offset : UInt16) :
    (ofWidth width offset.toUInt32).raw = (width <<< 24) ||| offset.toUInt32 := by
  have low := offset.toNat_lt
  have kept : offset.toNat &&& 16777215 = offset.toNat % 16777216 :=
    Nat.and_two_pow_sub_one_eq_mod _ 24
  have inside : offset.toUInt32 &&& 0x00ffffff = offset.toUInt32 := by
    apply UInt32.toNat_inj.mp
    simp only [UInt32.toNat_and, UInt16.toNat_toUInt32, UInt32.reduceToNat, kept]
    omega
  rw [ofWidth, inside]

theorem toNat_ofWidth (small : width.toNat < 2 ^ 8) (offset : UInt16) :
    (ofWidth width offset.toUInt32).raw.toNat = width.toNat * 2 ^ 24 + offset.toNat := by
  have shifted : (width <<< 24).toNat = width.toNat * 2 ^ 24 := by
    simp [Nat.shiftLeft_eq]
    omega
  rw [raw_ofWidth, Bytes.toNat_or_low (by omega), shifted]

theorem width_ofWidth (small : width.toNat < 2 ^ 8) : (ofWidth width offset.toUInt32).width = width := by
  have low := offset.toNat_lt
  apply UInt32.toNat_inj.mp
  rw [toNat_width, toNat_ofWidth small]
  omega

theorem offset_ofWidth (small : width.toNat < 2 ^ 8) :
    (ofWidth width offset.toUInt32).offset = offset := by
  have low := offset.toNat_lt
  apply UInt16.toNat_inj.mp
  rw [toNat_offset, toNat_ofWidth small]
  omega

theorem page_ofWidth (small : width.toNat < 2 ^ 8) : (ofWidth width offset.toUInt32).page = 0 := by
  have low := offset.toNat_lt
  rw [page_eq_zero_iff, toNat_ofWidth small]
  omega

end Register

namespace ProbeAddress

variable {address : ProbeAddress} {value port width : UInt32} {offset : UInt16}

/-- The width that a word names, whether or not it can be one. -/
def widthField (value : UInt32) : UInt32 :=
  (value >>> 24) &&& 7

/-- A word without a bit outside the fields. -/
def Clean (value : UInt32) : Prop :=
  value &&& ~~~usedBits = 0

instance : DecidablePred Clean :=
  fun _ => inferInstanceAs (Decidable (_ = _))

theorem toNat_widthField (value : UInt32) : (widthField value).toNat = value.toNat / 2 ^ 24 % 8 := by
  have low : value.toNat / 2 ^ 24 &&& 7 = value.toNat / 2 ^ 24 % 8 :=
    Nat.and_two_pow_sub_one_eq_mod _ 3
  simpa [widthField, Nat.shiftRight_eq_div_pow] using low

/-- The spare bits are those between the width and the port and those above the offset. -/
theorem clean_iff (value : UInt32) :
    Clean value ↔ value.toNat / 2 ^ 16 % 2 ^ 8 = 0 ∧ value.toNat / 2 ^ 27 % 2 ^ 4 = 0 := by
  have spare : (~~~usedBits).toNat = ((2 ^ 8 - 1) <<< 16) ||| ((2 ^ 4 - 1) <<< 27) := by decide
  rw [Clean, ← UInt32.toNat_inj, UInt32.toNat_and, spare, Nat.and_or_distrib_left]
  simp only [UInt32.reduceToNat, Nat.or_eq_zero_iff, and_field_eq_zero]

theorem toNat_of_clean (clean : Clean value) :
    value.toNat = (value >>> 31).toNat * 2 ^ 31 + (widthField value).toNat * 2 ^ 24 +
      value.toUInt16.toNat := by
  have bound := value.toNat_lt
  obtain ⟨between, above⟩ := (clean_iff value).mp clean
  have top : (value >>> 31).toNat = value.toNat / 2 ^ 31 := by simp [Nat.shiftRight_eq_div_pow]
  rw [top, toNat_widthField, UInt32.toNat_toUInt16]
  omega

/-- Parts as a word; of the width, the bit after the low seven falls in with the port. -/
theorem toNat_packed (port width : UInt32) (offset : UInt16) :
    ((port <<< 31) ||| (width <<< 24) ||| offset.toUInt32).toNat =
      max (port.toNat % 2) (width.toNat / 2 ^ 7 % 2) * 2 ^ 31 + width.toNat % 2 ^ 7 * 2 ^ 24 +
        offset.toNat := by
  have ports : (port <<< 31).toNat = (port.toNat % 2) <<< 7 <<< 24 := by
    simp [Nat.shiftLeft_eq]
    omega
  have widths : (width <<< 24).toNat =
      ((width.toNat / 2 ^ 7 % 2) <<< 7 ||| width.toNat % 2 ^ 7) <<< 24 := by
    rw [← Nat.shiftLeft_add_eq_or_of_lt (Nat.mod_lt _ (by decide))]
    simp [Nat.shiftLeft_eq]
    omega
  have either : ∀ a < 2, ∀ b < 2, a ||| b = max a b := by decide
  have high : ((port <<< 31) ||| (width <<< 24)).toNat =
      max (port.toNat % 2) (width.toNat / 2 ^ 7 % 2) * 2 ^ 31 + width.toNat % 2 ^ 7 * 2 ^ 24 := by
    rw [UInt32.toNat_or, ports, widths, ← Nat.shiftLeft_or_distrib, ← Nat.or_assoc,
      ← Nat.shiftLeft_or_distrib, either _ (Nat.mod_lt _ (by decide)) _ (Nat.mod_lt _ (by decide)),
      ← Nat.shiftLeft_add_eq_or_of_lt (Nat.mod_lt _ (by decide))]
    simp only [Nat.shiftLeft_eq]
    omega
  rw [Bytes.toNat_or_low (by omega), high]

/-- A word with these numbers in the fields around the bits that are always clear. -/
theorem fields_of_toNat {place bytes : Nat} (width : bytes < 2 ^ 7)
    (number : value.toNat = place * 2 ^ 31 + bytes * 2 ^ 24 + offset.toNat) :
    (Clean value ↔ bytes < 8) ∧ (value >>> 31).toNat = place ∧
      (widthField value).toNat = bytes % 8 ∧ value.toUInt16 = offset := by
  have low := offset.toNat_lt
  refine ⟨?_, ?_, ?_, ?_⟩
  · rw [clean_iff]
    omega
  · simp [Nat.shiftRight_eq_div_pow]
    omega
  · rw [toNat_widthField]
    omega
  · apply UInt16.toNat_inj.mp
    rw [UInt32.toNat_toUInt16]
    omega

theorem decode_eq (value : UInt32) :
    decode value =
      if Clean value then
        if widthField value = 1 ∨ widthField value = 2 then
          .ok ⟨value >>> 31, .ofWidth (widthField value) value.toUInt16.toUInt32⟩
        else .error (.invalidArgument (.probeWidth value (widthField value)))
      else .error (.invalidArgument (.probeReservedBits value)) := by
  have register : (⟨(widthField value <<< 24) ||| (value &&& 0xffff)⟩ : Register) =
      .ofWidth (widthField value) value.toUInt16.toUInt32 := by
    rw [Bytes.and_mask_eq_narrow, ← Register.raw_ofWidth]
  by_cases clean : Clean value
  · rw [if_pos clean, ← register]
    exact if_neg (not_not.mpr clean)
  · rw [if_neg clean]
    exact if_pos clean

theorem decode_eq_ok_iff :
    decode value = .ok address ↔ Clean value ∧ (widthField value = 1 ∨ widthField value = 2) ∧
      address = ⟨value >>> 31, .ofWidth (widthField value) value.toUInt16.toUInt32⟩ := by
  rw [decode_eq]
  by_cases clean : Clean value
  · by_cases width : widthField value = 1 ∨ widthField value = 2
    · rw [if_pos clean, if_pos width]
      simp only [Except.ok.injEq, clean, width, true_and]
      exact eq_comm
    · simp [clean, width]
  · simp [clean]

theorem decode_refuses (value : UInt32) (error : Error) (refused : decode value = .error error) :
    ∃ cause, error = .invalidArgument cause := by
  rw [decode_eq] at refused
  split at refused
  · split at refused
    · cases refused
    · cases refused
      exact ⟨_, rfl⟩
  · cases refused
    exact ⟨_, rfl⟩

/-- A word with these numbers in its fields is the address of them, or none. -/
theorem decode_of_toNat {place bytes : Nat} (width : bytes < 2 ^ 7)
    (number : value.toNat = place * 2 ^ 31 + bytes * 2 ^ 24 + offset.toNat) :
    decode value = .ok address ↔ (bytes = 1 ∨ bytes = 2) ∧ address.port.toNat = place ∧
      address.register = .ofWidth bytes.toUInt32 offset.toUInt32 := by
  obtain ⟨clean, top, field, low⟩ := fields_of_toNat width number
  have one : widthField value = 1 ↔ bytes % 8 = 1 := by rw [← UInt32.toNat_inj, field]; rfl
  have two : widthField value = 2 ↔ bytes % 8 = 2 := by rw [← UInt32.toNat_inj, field]; rfl
  rw [decode_eq_ok_iff, clean, one, two, low]
  constructor
  · rintro ⟨small, width, rfl⟩
    have whole : widthField value = bytes.toUInt32 := by
      apply UInt32.toNat_inj.mp
      simp [field]
      omega
    exact ⟨by omega, top, by rw [whole]⟩
  · rintro ⟨width, port, register⟩
    have whole : widthField value = bytes.toUInt32 := by
      apply UInt32.toNat_inj.mp
      simp [field]
      omega
    obtain ⟨place', register'⟩ := address
    have same : place' = value >>> 31 := UInt32.toNat_inj.mp (port.trans top.symm)
    refine ⟨by omega, by omega, ?_⟩
    rw [whole, same, ← register]

/-- An address of a sensor register: one of two ports, and a direct register of one or two bytes. -/
structure WellFormed (address : ProbeAddress) : Prop where
  port : address.port = 0 ∨ address.port = 1
  width : address.register.width = 1 ∨ address.register.width = 2
  direct : address.register.page = 0

theorem toNat_encode (address : ProbeAddress) :
    address.encode.toNat =
      max (address.port.toNat % 2) (address.register.width.toNat / 2 ^ 7 % 2) * 2 ^ 31 +
        address.register.width.toNat % 2 ^ 7 * 2 ^ 24 + address.register.offset.toNat :=
  toNat_packed ..

theorem decode_encode (formed : address.WellFormed) : decode address.encode = .ok address := by
  obtain ⟨port, width, direct⟩ := formed
  have places : address.port.toNat < 2 := by rcases port with same | same <;> simp [same]
  have widths : address.register.width.toNat = 1 ∨ address.register.width.toNat = 2 := by
    rcases width with same | same <;> simp [same]
  have number : address.encode.toNat = address.port.toNat * 2 ^ 31 +
      address.register.width.toNat * 2 ^ 24 + address.register.offset.toNat := by
    rw [toNat_encode]
    omega
  have whole : address.register.width.toNat.toUInt32 = address.register.width := by simp
  refine (decode_of_toNat (by omega) number).mpr ⟨widths, rfl, ?_⟩
  have small : address.register.width.toNat < 2 ^ 8 := by omega
  rw [whole]
  exact Register.eq_of_direct direct (Register.page_ofWidth small)
    (Register.width_ofWidth small).symm (Register.offset_ofWidth small).symm

theorem wellFormed_of_decode (read : decode value = .ok address) :
    address.WellFormed ∧ address.port = value >>> 31 ∧ address.register.width = widthField value ∧
      address.register.offset = value.toUInt16 := by
  obtain ⟨-, width, rfl⟩ := decode_eq_ok_iff.mp read
  have bound := value.toNat_lt
  have field := toNat_widthField value
  have small : (widthField value).toNat < 2 ^ 8 := by omega
  have top : (value >>> 31).toNat = value.toNat / 2 ^ 31 := by simp [Nat.shiftRight_eq_div_pow]
  have port : value >>> 31 = 0 ∨ value >>> 31 = 1 := by
    rw [← UInt32.toNat_inj, ← UInt32.toNat_inj, top]
    simp only [UInt32.reduceToNat]
    omega
  have same := @Register.width_ofWidth _ value.toUInt16 small
  exact ⟨⟨port, by rw [same]; exact width, Register.page_ofWidth small⟩, rfl, same,
    Register.offset_ofWidth small⟩

theorem encode_of_decode (read : decode value = .ok address) : address.encode = value := by
  obtain ⟨-, port, width, offset⟩ := wellFormed_of_decode read
  obtain ⟨clean, -, -⟩ := decode_eq_ok_iff.mp read
  have bound := value.toNat_lt
  have whole := toNat_of_clean clean
  have top : (value >>> 31).toNat = value.toNat / 2 ^ 31 := by simp [Nat.shiftRight_eq_div_pow]
  have field := toNat_widthField value
  apply UInt32.toNat_inj.mp
  rw [toNat_encode, port, width, offset]
  omega

/-- What comes of putting an address together from parts: of the width the low seven bits stay where
they belong, and the one above them moves into the port. -/
def Assembled (port width : UInt32) (offset : UInt16) : Except Error ProbeAddress → Prop
  | .ok address =>
      port.toNat ≤ 1 ∧ (width.toNat % 2 ^ 7 = 1 ∨ width.toNat % 2 ^ 7 = 2) ∧ address.WellFormed ∧
        address.port.toNat = max port.toNat (width.toNat / 2 ^ 7 % 2) ∧
        address.register.width.toNat = width.toNat % 2 ^ 7 ∧ address.register.offset = offset
  | .error error =>
      ¬ (port.toNat ≤ 1 ∧ (width.toNat % 2 ^ 7 = 1 ∨ width.toNat % 2 ^ 7 = 2)) ∧
        ∃ cause, error = .invalidArgument cause

theorem ofParts_assembled (port width : UInt32) (offset : UInt16) :
    Assembled port width offset (ofParts port width offset) := by
  by_cases beyond : 1 < port
  · rw [ofParts, if_pos beyond]
    have above : 1 < port.toNat := UInt32.lt_iff_toNat_lt.mp beyond
    exact ⟨by omega, _, rfl⟩
  · have below : port.toNat ≤ 1 := by
      have := UInt32.le_iff_toNat_le.mp (UInt32.not_lt.mp beyond)
      simpa using this
    have number := toNat_packed port width offset
    rw [Nat.mod_eq_of_lt (by omega : port.toNat < 2)] at number
    have seven : width.toNat % 2 ^ 7 < 2 ^ 7 := Nat.mod_lt _ (by decide)
    rw [ofParts, if_neg beyond]
    generalize (port <<< 31) ||| (width <<< 24) ||| offset.toUInt32 = value at number ⊢
    have fields := fun address => @decode_of_toNat address _ _ _ _ seven number
    cases read : decode value with
    | ok address =>
        obtain ⟨known, place, register⟩ := (fields address).mp read
        have small : (width.toNat % 2 ^ 7).toUInt32.toNat < 2 ^ 8 := by simp; omega
        refine ⟨below, known, (wellFormed_of_decode read).1, place, ?_, ?_⟩
        · rw [register, Register.width_ofWidth small]
          simp
          omega
        · rw [register, Register.offset_ofWidth small]
    | error error =>
        refine ⟨fun good => ?_, decode_refuses value error read⟩
        obtain ⟨place, same⟩ : ∃ place : UInt32,
            place.toNat = max port.toNat (width.toNat / 2 ^ 7 % 2) := by
          refine ⟨(max port.toNat (width.toNat / 2 ^ 7 % 2)).toUInt32, ?_⟩
          rw [Nat.toUInt32_eq, UInt32.toNat_ofNat']
          omega
        have found := (fields ⟨place, .ofWidth (width.toNat % 2 ^ 7).toUInt32 offset.toUInt32⟩).mpr
        rw [read] at found
        exact nomatch found ⟨good.2, same, rfl⟩

/-- Parts that are an address make that address, and others make none. -/
def Faithful (port width : UInt32) (offset : UInt16) : Except Error ProbeAddress → Prop
  | .ok address =>
      port ≤ 1 ∧ (width = 1 ∨ width = 2) ∧ address.port = port ∧
        address.register.width = width ∧ address.register.offset = offset
  | .error error => ¬ (port ≤ 1 ∧ (width = 1 ∨ width = 2)) ∧ ∃ cause, error = .invalidArgument cause

/-- What is not faithful is a width that only its low seven bits make one. -/
theorem Assembled.faithful_iff {made : Except Error ProbeAddress}
    (assembled : Assembled port width offset made) :
    Faithful port width offset made ↔
      1 < port ∨ width = 1 ∨ width = 2 ∨
        (width.toNat % 2 ^ 7 ≠ 1 ∧ width.toNat % 2 ^ 7 ≠ 2) := by
  have bound := width.toNat_lt
  cases made with
  | ok address =>
      obtain ⟨below, known, -, place, bytes, same⟩ := assembled
      simp only [Faithful, UInt32.le_iff_toNat_le, UInt32.lt_iff_toNat_lt, ← UInt32.toNat_inj, place,
        bytes, same, UInt32.reduceToNat, and_true]
      omega
  | error error =>
      obtain ⟨refused, cause⟩ := assembled
      simp only [Faithful, cause, and_true, UInt32.le_iff_toNat_le, UInt32.lt_iff_toNat_lt,
        ← UInt32.toNat_inj, UInt32.reduceToNat]
      omega

end ProbeAddress

namespace CommandLine.Probe

open ProbeAddress

/-- What the command prints for parts: the address they make, or nothing. -/
structure Printed (arguments : Probe) (asJson : Bool) (printout : Printout) : Prop where
  address : printout.verdict = .success → ∃ register offset address,
    arguments.register? = some register ∧ parseWord register = .ok offset ∧ offset < 0x10000 ∧
      Assembled arguments.port arguments.width offset.toUInt16 (.ok address) ∧
      printout.output = if asJson then (json address).lines else text address
  nothing : printout.verdict ≠ .success → printout.output = ""

theorem printed_of_refused {arguments : Probe} {asJson : Bool} {failure : Failure}
    (refused : arguments.address = .error failure) :
    Printed arguments asJson (arguments.run asJson) := by
  have printout : arguments.run asJson = { verdict := .failed failure } := by
    rw [run, refused]
    rfl
  rw [printout]
  exact ⟨fun success => (nomatch success), fun _ => rfl⟩

theorem run_printed (arguments : Probe) (asJson : Bool) (parts : arguments.value? = none) :
    Printed arguments asJson (arguments.run asJson) := by
  cases word : arguments.register? with
  | none =>
      have refused : arguments.address =
          .error (.invalidArguments "Either an address value or --reg is required") := by
        rw [address, parts, word]
      exact printed_of_refused refused
  | some register =>
      cases parsed : parseWord register with
      | error failure =>
          have refused : arguments.address = .error failure := by
            rw [address, parts, word]
            simp only [parsed]
            rfl
          exact printed_of_refused refused
      | ok offset =>
          have parsedAddress : arguments.address = if offset < 0x10000 then
                (ofParts arguments.port arguments.width offset.toUInt16).mapError .ofError
              else .error (.invalidArguments ("Register offset out of range: " ++ register)) := by
            rw [address, parts, word]
            simp only [parsed]
            rfl
          by_cases inside : offset < 0x10000
          · have assembled := ofParts_assembled arguments.port arguments.width offset.toUInt16
            rw [if_pos inside] at parsedAddress
            cases made : ofParts arguments.port arguments.width offset.toUInt16 with
            | error error =>
                rw [made] at parsedAddress
                exact printed_of_refused parsedAddress
            | ok made' =>
                rw [made] at parsedAddress assembled
                have printout : arguments.run asJson =
                    { output := if asJson then (json made').lines else text made' } := by
                  rw [run, parsedAddress]
                  rfl
                rw [printout]
                exact ⟨fun _ => ⟨register, offset, made', word, parsed, inside, assembled, rfl⟩,
                  fun failed => absurd rfl failed⟩
          · rw [if_neg inside] at parsedAddress
            exact printed_of_refused parsedAddress

end CommandLine.Probe

namespace ProbeAddress

/-- An address is put together from a port, a width and an offset exactly if the port is one of two
and the low seven bits of the width are one or two. The address then has the offset and those bits,
and its port is one if the next bit of the width is set; so the parts are taken for what they are
unless the width is none but its low seven bits are one. Everything else is refused. What the command
prints for parts is the address they make. -/
theorem parts_assembled (port width : UInt32) (offset : UInt16) (register? : Option String)
    (asJson : Bool) :
    Assembled port width offset (ofParts port width offset) ∧
      (Faithful port width offset (ofParts port width offset) ↔
        1 < port ∨ width = 1 ∨ width = 2 ∨
          (width.toNat % 2 ^ 7 ≠ 1 ∧ width.toNat % 2 ^ 7 ≠ 2)) ∧
      CommandLine.Probe.Printed { port, width, register? } asJson
        (CommandLine.Probe.run { port, width, register? } asJson) := by
  have assembled := ofParts_assembled port width offset
  exact ⟨assembled, assembled.faithful_iff, CommandLine.Probe.run_printed _ asJson rfl⟩

/-- A width of 0x82 makes an address on the other port, and that is what the command prints. -/
theorem strayWidth_assembled :
    ofParts 0 0x82 0x3012 = .ok ⟨1, .of16 0x3012⟩ ∧
      ¬ Faithful 0 0x82 0x3012 (ofParts 0 0x82 0x3012) ∧
      CommandLine.Probe.Printed { width := 0x82, register? := some "0x3012" } false
        (CommandLine.Probe.run { width := 0x82, register? := some "0x3012" } false) ∧
      (CommandLine.Probe.run { width := 0x82, register? := some "0x3012" } false).output =
        "0x82003012: port 1 reg 0x3012 (16-bit)\n" := by
  have made : ofParts 0 0x82 0x3012 = .ok ⟨1, .of16 0x3012⟩ := by decide
  obtain ⟨-, faithful, printed⟩ := parts_assembled 0 0x82 0x3012 (some "0x3012") false
  refine ⟨made, fun same => absurd (faithful.mp same) (by decide), printed, ?_⟩
  decide +kernel

/-- Parts can make an address on a port that was not given. -/
theorem stray_width_moves_port :
    ¬ ∀ (port width : UInt32) (offset : UInt16),
      Faithful port width offset (ofParts port width offset) := by
  intro faithful
  have made : ofParts 0 0x81 0x12 = .ok ⟨1, .of8 0x12⟩ := by decide
  have moved := faithful 0 0x81 0x12
  rw [made] at moved
  exact absurd moved.2.2.1 (by decide)

end ProbeAddress

end IspDriver
