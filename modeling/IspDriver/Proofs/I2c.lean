import Mathlib.Logic.Function.Basic
import IspDriver.Proofs.Firmware.Window
import IspDriver.Simulation.ScriptedWires

/-!
What block writes send over the wires, whatever fails there. Data goes out in pieces, each with the
offset of its first byte; a memory that counts its address up cannot tell the pieces from one
write. A write through the firmware window cuts the data at the end of the window first, so none of
its pieces leaves the window.
-/

namespace IspDriver

open Routine

/-- What went over the wires at one time, with what came back. -/
inductive I2c.Transaction where
  | write (address : UInt8) (bytes : List UInt8) (result : Except I2cFault Unit)
  | writeThenRead (address : UInt8) (bytes : List UInt8) (count : Nat)
      (result : Except I2cFault (Vector UInt8 count))

/-- The wires that also keep their transactions, the first one in front. -/
def I2cWires.recording {σ : Type} (wires : I2cWires σ) : I2cWires (σ × List I2c.Transaction) where
  write address bytes := fun (world, past) =>
    let (result, after) := wires.write address bytes world
    (result, after, past ++ [.write address bytes result])
  writeThenRead address bytes count := fun (world, past) =>
    let (result, after) := wires.writeThenRead address bytes count world
    (result, after, past ++ [.writeThenRead address bytes count result])

/-- The host, next to something that it leaves alone. -/
def Host.beside {σ : Type} (host : Host σ) (ρ : Type) : Host (σ × ρ) where
  answer request := fun (world, kept) =>
    let (reply, after) := host.answer request world
    (reply, after, kept)
  note note := fun (world, kept) => (host.note note world, kept)

namespace I2c

open Firmware
open Layout (firmwareWindow firmwareWindowSize)

/-- Data with the offset where it goes. -/
structure Piece where
  offset : UInt16
  data : List UInt8
deriving DecidableEq

/-- The bytes that a transaction writes. -/
def Transaction.bytes : Transaction → List UInt8
  | write _ bytes _ | writeThenRead _ bytes _ _ => bytes

/-- A piece as it goes to a device, the high byte of its offset first. -/
def Piece.transaction (address : UInt8) (result : Except I2cFault Unit) (piece : Piece) :
    Transaction :=
  .write address (Bytes.ofUInt16 piece.offset ++ piece.data) result

/-- The bytes of a piece, each with the offset where it goes. -/
def Piece.placed (piece : Piece) : List (Nat × UInt8) :=
  piece.data.mapIdx fun i byte => (piece.offset.toNat + i, byte)

/-- Data in pieces of 1024 bytes, the last of what is left. -/
def pieces (offset : UInt16) (data : List UInt8) : List Piece :=
  (List.range ((data.length + 1023) / 1024)).map fun i =>
    ⟨offset + (1024 * i).toUInt16, (data.drop (1024 * i)).take 1024⟩

/-- What comes of pieces that are sent in order, up to the first that fails. -/
inductive Delivered (address : UInt8) (pieces : List Piece) :
    List Transaction → Except Error Unit → Prop
  | whole : Delivered address pieces (pieces.map (·.transaction address (.ok ()))) (.ok ())
  | stopped (before after : List Piece) (piece : Piece) (fault : I2cFault)
      (split : pieces = before ++ piece :: after) :
      Delivered address pieces
        (before.map (·.transaction address (.ok ())) ++ [piece.transaction address (.error fault)])
        (.error (.transfer fault.transferFault
          ("i2c transfer to 0x" ++ Text.hex 2 address.toNat ++ " at 0x" ++
            Text.hex 4 piece.offset.toNat ++ " failed: " ++ fault.name)))

/-- A memory after bytes that were written to it from an offset on. -/
def deposit (memory : UInt16 → UInt8) (offset : UInt16) : List UInt8 → UInt16 → UInt8
  | [] => memory
  | byte :: rest => deposit (Function.update memory offset byte) (offset + 1) rest

/-- A memory after the bytes of a write transaction, the first two of which are an offset. -/
def receive (memory : UInt16 → UInt8) : List UInt8 → UInt16 → UInt8
  | high :: low :: data => deposit memory (Bytes.bigEndian [high, low]).toUInt16 data
  | _ => memory

variable {offset : UInt16} {data : List UInt8} {chunks : List (List UInt8)} {piece : Piece}

/-- Chunks, each at the offset where the one before it ended. -/
def placeEach (offset : UInt16) : List (List UInt8) → List Piece
  | [] => []
  | chunk :: rest => ⟨offset, chunk⟩ :: placeEach (offset + chunk.length.toUInt16) rest

theorem pieces_cons (offset : UInt16) (first : UInt8) (rest : List UInt8) :
    pieces offset (first :: rest) =
      ⟨offset, first :: rest.take 1023⟩ :: pieces (offset + 1024) (rest.drop 1023) := by
  have count : ((first :: rest).length + 1023) / 1024 =
      ((rest.drop 1023).length + 1023) / 1024 + 1 := by
    simp only [List.length_cons, List.length_drop]
    omega
  rw [pieces, count, List.range_succ_eq_map, List.map_cons, List.map_map, pieces]
  refine List.cons_eq_cons.mpr ⟨?_, ?_⟩
  · simp
  · apply List.map_congr_left
    intro i _
    have place : offset + (1024 * (i + 1)).toUInt16 = offset + 1024 + (1024 * i).toUInt16 := by
      apply UInt16.toNat_inj.mp
      simp only [UInt16.toNat_add, Nat.toUInt16_eq, UInt16.toNat_ofNat', UInt16.reduceToNat]
      omega
    have later : (first :: rest).drop (1024 * (i + 1)) = (rest.drop 1023).drop (1024 * i) := by
      rw [List.drop_drop, show 1024 * (i + 1) = 1023 + 1024 * i + 1 by omega, List.drop_succ_cons]
    simp only [Function.comp_apply, Nat.succ_eq_add_one, place, later]

theorem pieces_eq (offset : UInt16) (data : List UInt8) :
    pieces offset data = placeEach offset (Bytes.chunks chunkSize data) := by
  generalize whole : chunkSize = size
  fun_induction Bytes.chunks size data generalizing offset with
  | case1 => rfl
  | case2 first rest ih =>
      subst whole
      simp only [chunkSize, Nat.reduceSub] at ih
      simp only [pieces_cons, ih, chunkSize, Nat.reduceSub, placeEach, List.length_cons,
        List.length_take]
      by_cases full : 1023 ≤ rest.length
      · have step : (1023 + 1 : Nat).toUInt16 = 1024 := by decide
        rw [Nat.min_eq_left full, step]
      · -- The last chunk may be short, but there is nothing after it.
        have last : rest.drop 1023 = [] := List.drop_eq_nil_of_le (by omega)
        rw [last, Bytes.chunks, placeEach, placeEach]

theorem flatMap_placeEach (offset : UInt16) (chunks : List (List UInt8)) :
    (placeEach offset chunks).flatMap (·.data) = chunks.flatten := by
  induction chunks generalizing offset with
  | nil => rfl
  | cons chunk rest ih => rw [placeEach, List.flatMap_cons, ih, List.flatten_cons]

theorem mem_of_mem_placeEach (member : piece ∈ placeEach offset chunks) : piece.data ∈ chunks := by
  induction chunks generalizing offset with
  | nil => cases member
  | cons chunk rest ih =>
      rcases List.mem_cons.mp member with rfl | later
      · exact List.mem_cons_self
      · exact List.mem_cons_of_mem _ (ih later)

theorem toNat_next {chunk : List UInt8} (room : offset.toNat + chunk.length < 2 ^ 16) :
    (offset + chunk.length.toUInt16).toNat = offset.toNat + chunk.length := by
  simp only [UInt16.toNat_add, Nat.toUInt16_eq, UInt16.toNat_ofNat']
  omega

/-- Where the offsets do not start over, the pieces lie side by side. -/
theorem placeEach_placed (room : offset.toNat + chunks.flatten.length < 2 ^ 16) :
    (placeEach offset chunks).flatMap Piece.placed =
      chunks.flatten.mapIdx fun i byte => (offset.toNat + i, byte) := by
  induction chunks generalizing offset with
  | nil => rfl
  | cons chunk rest ih =>
      rw [List.flatten_cons, List.length_append] at room
      have next := @toNat_next offset chunk (by omega)
      rw [placeEach, List.flatMap_cons, ih (by omega), List.flatten_cons, List.mapIdx_append, next,
        Piece.placed]
      simp only [Nat.add_assoc, Nat.add_comm chunk.length]

theorem placeEach_within (room : offset.toNat + chunks.flatten.length < 2 ^ 16)
    (member : piece ∈ placeEach offset chunks) :
    offset.toNat ≤ piece.offset.toNat ∧
      piece.offset.toNat + piece.data.length ≤ offset.toNat + chunks.flatten.length := by
  induction chunks generalizing offset with
  | nil => cases member
  | cons chunk rest ih =>
      rw [List.flatten_cons, List.length_append] at room ⊢
      rcases List.mem_cons.mp member with rfl | later
      · dsimp only
        omega
      · have next := @toNat_next offset chunk (by omega)
        have inside := ih (by omega) later
        omega

theorem pieces_placed (room : offset.toNat + data.length < 2 ^ 16) :
    (pieces offset data).flatMap Piece.placed =
      data.mapIdx fun i byte => (offset.toNat + i, byte) := by
  have placed := @placeEach_placed offset (Bytes.chunks chunkSize data)
  rw [Bytes.flatten_chunks] at placed
  rw [pieces_eq, placed room]

theorem pieces_within (room : offset.toNat + data.length < 2 ^ 16)
    (member : piece ∈ pieces offset data) :
    offset.toNat ≤ piece.offset.toNat ∧
      piece.offset.toNat + piece.data.length ≤ offset.toNat + data.length := by
  have within := @placeEach_within offset (Bytes.chunks chunkSize data) piece
  rw [Bytes.flatten_chunks] at within
  rw [pieces_eq] at member
  exact within room member

theorem flatMap_pieces (offset : UInt16) (data : List UInt8) :
    (pieces offset data).flatMap (·.data) = data := by
  rw [pieces_eq, flatMap_placeEach, Bytes.flatten_chunks]

theorem length_of_mem_pieces (member : piece ∈ pieces offset data) :
    piece.data ≠ [] ∧ piece.data.length ≤ 1024 := by
  rw [pieces_eq] at member
  have among := mem_of_mem_placeEach member
  exact ⟨Bytes.ne_nil_of_mem_chunks among, Bytes.length_le_of_mem_chunks (by decide) among⟩

theorem deposit_append (memory : UInt16 → UInt8) (offset : UInt16) (front back : List UInt8) :
    deposit memory offset (front ++ back) =
      deposit (deposit memory offset front) (offset + front.length.toUInt16) back := by
  induction front generalizing memory offset with
  | nil => simp [deposit]
  | cons byte rest ih =>
      have next : offset + 1 + rest.length.toUInt16 = offset + (byte :: rest).length.toUInt16 := by
        apply UInt16.toNat_inj.mp
        simp only [UInt16.toNat_add, Nat.toUInt16_eq, UInt16.toNat_ofNat', UInt16.reduceToNat,
          List.length_cons]
        omega
      rw [List.cons_append, deposit, ih, next, deposit]

theorem receive_transaction (memory : UInt16 → UInt8) (address : UInt8)
    (result : Except I2cFault Unit) (piece : Piece) :
    receive memory (piece.transaction address result).bytes =
      deposit memory piece.offset piece.data := by
  have offset : (Bytes.bigEndian (Bytes.ofUInt16 piece.offset)).toUInt16 = piece.offset := by
    rw [Bytes.bigEndian_ofUInt16, UInt16.toUInt16_toUInt32]
  change deposit memory (Bytes.bigEndian (Bytes.ofUInt16 piece.offset)).toUInt16 piece.data = _
  rw [offset]

theorem receive_placeEach (memory : UInt16 → UInt8) (address : UInt8)
    (result : Except I2cFault Unit) (offset : UInt16) (chunks : List (List UInt8)) :
    (((placeEach offset chunks).map (·.transaction address result)).map Transaction.bytes).foldl
      receive memory = deposit memory offset chunks.flatten := by
  induction chunks generalizing memory offset with
  | nil => rfl
  | cons chunk rest ih =>
      rw [placeEach, List.map_cons, List.map_cons, List.foldl_cons, receive_transaction, ih,
        List.flatten_cons, deposit_append]

variable {σ : Type} {wires : I2cWires σ} {address : UInt8} {front back : List Piece}
  {log more : List Transaction} {result : Except Error Unit} {error : Error}

theorem Delivered.append (delivered : Delivered address front log (.ok ()))
    (others : Delivered address back more result) :
    Delivered address (front ++ back) (log ++ more) result := by
  cases delivered with
  | whole =>
      cases others with
      | whole =>
          rw [← List.map_append]
          exact .whole
      | stopped before after piece fault split =>
          rw [← List.append_assoc, ← List.map_append]
          apply Delivered.stopped _ after
          rw [split, List.append_assoc]

theorem Delivered.ended (delivered : Delivered address front log (.error error)) :
    Delivered address (front ++ back) log (.error error) := by
  cases delivered with
  | stopped before after piece fault split =>
      apply Delivered.stopped _ (after ++ back)
      rw [split, List.append_assoc, List.cons_append]

theorem Delivered.one (piece : Piece) (answer : Except I2cFault Unit) :
    Delivered address [piece] [piece.transaction address answer]
      (answer.mapError (transferError address piece.offset)) := by
  cases answer with
  | ok value => exact .whole
  | error fault => exact .stopped [] [] piece fault rfl

/-- Every piece is put together in the buffer from nothing, so what was left in it by earlier writes
is not sent. -/
theorem writeChunks_buffer (offset : UInt16) (chunks : List (List UInt8)) (bus : I2cBus σ)
    (buffer : List UInt8) :
    (writeChunks wires offset chunks { bus with buffer }).1 = (writeChunks wires offset chunks bus).1 ∧
      (writeChunks wires offset chunks { bus with buffer }).2.world =
        (writeChunks wires offset chunks bus).2.world := by
  cases chunks <;> exact ⟨rfl, rfl⟩

theorem writeChunks_delivered (offset : UInt16) (chunks : List (List UInt8))
    (bus : I2cBus (σ × List Transaction)) :
    match writeChunks wires.recording offset chunks bus with
    | (result, left) => left.address = bus.address ∧ ∃ log, left.world.2 = bus.world.2 ++ log ∧
        Delivered bus.address (placeEach offset chunks) log result := by
  induction chunks generalizing offset bus with
  | nil => exact ⟨rfl, [], (List.append_nil _).symm, .whole⟩
  | cons chunk rest ih =>
      obtain ⟨⟨state, past⟩, address, buffer⟩ := bus
      have first := @Delivered.one address ⟨offset, chunk⟩
      cases sent : wires.write address (Bytes.ofUInt16 offset ++ chunk) state with
      | mk answer after =>
          have recorded : wires.recording.write address (Bytes.ofUInt16 offset ++ chunk)
              (state, past) =
                (answer, after, past ++ [Piece.transaction address answer ⟨offset, chunk⟩]) := by
            simp only [I2cWires.recording, sent, Piece.transaction]
          simp only [writeChunks, I2cBus.clear, I2cBus.put, List.nil_append, recorded, placeEach]
          cases answer with
          | error fault => exact ⟨rfl, _, rfl, (first (.error fault)).ended⟩
          | ok value =>
              obtain ⟨same, log, logged, delivered⟩ := ih (offset + chunk.length.toUInt16)
                ⟨(after, past ++ [Piece.transaction address (.ok ()) ⟨offset, chunk⟩]), address,
                  Bytes.ofUInt16 offset ++ chunk⟩
              refine ⟨same, _, ?_, (first (.ok ())).append delivered⟩
              rw [logged, List.append_assoc]

theorem writeBlock_delivered (offset : UInt16) (data : List UInt8)
    (bus : I2cBus (σ × List Transaction)) :
    match writeBlock wires.recording offset data bus with
    | (result, left) => left.address = bus.address ∧ ∃ log, left.world.2 = bus.world.2 ++ log ∧
        Delivered bus.address (pieces offset data) log result := by
  rw [writeBlock, pieces_eq]
  exact writeChunks_delivered offset _ bus

theorem Delivered.received {offset : UInt16} {data : List UInt8}
    (delivered : Delivered address (pieces offset data) log (.ok ())) (memory : UInt16 → UInt8) :
    (log.map Transaction.bytes).foldl receive memory = deposit memory offset data := by
  cases delivered with
  | whole => rw [pieces_eq, receive_placeEach, Bytes.flatten_chunks]

variable {α : Type} {others : Host σ} {map : RegisterMap} {bus : I2cBus (σ × List Transaction)}
  {position : Nat} {requests : List Request}

/-- What a routine comes to that sends pieces over the wires and has a value when all of them are
sent. -/
def Delivers (pieces : List Piece) (value : α) (map : RegisterMap)
    (bus : I2cBus (σ × List Transaction)) (outcome : Outcome α) (after : RegisterMap)
    (left : I2cBus (σ × List Transaction)) : Prop :=
  after = map ∧ left.address = bus.address ∧ ∃ log result, left.world.2 = bus.world.2 ++ log ∧
    Delivered bus.address pieces log result ∧ outcome = .ofReply (some (result.map fun _ => value))

/-- What a write through the window comes to over the wires: pieces inside the window, which take
each byte of the data to its place around it. -/
def CrossesWindow (position : Nat) (data : List UInt8) (map : RegisterMap)
    (bus : I2cBus (σ × List Transaction)) (outcome : Outcome Nat) (after : RegisterMap)
    (left : I2cBus (σ × List Transaction)) : Prop :=
  if position < 0x2000 then
    ∃ sent : List Piece,
      Delivers sent ((position + data.length) % 0x2000) map bus outcome after left ∧
      (∀ piece ∈ sent, 0x8000 ≤ piece.offset.toNat ∧
        piece.offset.toNat + piece.data.length ≤ 0xa000 ∧ piece.data.length ≤ 1024) ∧
      sent.flatMap Piece.placed =
        data.mapIdx fun i byte => (0x8000 + (position + i) % 0x2000, byte)
  else
    outcome = .failed (.invalidArgument (.windowPosition position)) ∧ after = map ∧ left = bus

/-- The pieces in which a block is sent. -/
def piecesOf : Request → List Piece
  | .write offset data => pieces offset data
  | _ => []

theorem delivers_nothing (value : α) : Delivers [] value map bus (.done value) map bus :=
  ⟨rfl, rfl, [], .ok (), (List.append_nil _).symm, .whole, rfl⟩

theorem delivers_bind {β : Type} {busHost : Host (I2cBus (σ × List Transaction))} {value : α}
    {last : β} {routine : Access (I2cBus (σ × List Transaction)) α}
    {next : α → Access (I2cBus (σ × List Transaction)) β}
    (run : routine.Ends busHost map bus (Delivers front value map bus))
    (rest : ∀ left, (next value).Ends busHost map left (Delivers back last map left)) :
    (routine >>= next).Ends busHost map bus (Delivers (front ++ back) last map bus) := by
  refine Routine.Ends.bind run ?_ ?_ ?_
  · intro found after left ended
    obtain ⟨rfl, address, log, result, logged, delivered, same⟩ := ended
    cases result <;> cases same
    refine (rest left).mono ?_
    intro outcome final left' ended
    obtain ⟨kept, still, more, result, grown, others, ends⟩ := ended
    rw [address] at others
    refine ⟨kept, still.trans address, log ++ more, result, ?_, delivered.append others, ends⟩
    rw [grown, logged, List.append_assoc]
  · intro error after left ended
    obtain ⟨kept, address, log, result, logged, delivered, same⟩ := ended
    cases result <;> cases same
    exact ⟨kept, address, log, _, logged, delivered.ended, rfl⟩
  · intro after left ended
    obtain ⟨-, -, -, result, -, -, same⟩ := ended
    cases result <;> cases same

theorem writeBlock_delivers (offset : UInt16) (data : List UInt8)
    (bus : I2cBus (σ × List Transaction)) :
    (RegisterMap.writeBlock offset data).Ends (host wires.recording (others.beside _)) map bus
      (Delivers (pieces offset data) () map bus) := by
  have delivered := @writeBlock_delivered σ wires offset data bus
  rw [RegisterMap.writeBlock, ends_onError, Host.writeBlock, ends_bind, ends_ask]
  simp only [host]
  cases sent : writeBlock wires.recording offset data bus with
  | mk result left =>
      rw [sent] at delivered
      obtain ⟨address, log, logged, delivered⟩ := delivered
      cases result with
      | ok value => exact ⟨rfl, address, log, _, logged, delivered, rfl⟩
      | error error => exact ⟨rfl, address, log, _, logged, delivered, rfl⟩

/-- The loop around the window, with the loop over the pieces of a block in it. -/
theorem sendBlocks_delivers (position : WindowPosition) (data : List UInt8)
    (bus : I2cBus (σ × List Transaction)) :
    (sendBlocks position data).Ends (host wires.recording (others.beside _)) map bus
      (Delivers ((windowRequests position data).flatMap piecesOf) (position.after data) map bus) := by
  fun_induction sendBlocks position data generalizing bus with
  | case1 position =>
      have still : position.after [] = position := Fin.ext (Nat.mod_eq_of_lt position.isLt)
      rw [windowRequests, windowBlocks_nil, still]
      exact delivers_nothing position
  | case2 position data filled ih =>
      rw [after_advance_room] at ih
      rw [windowRequests, windowBlocks_of_filled position filled, List.map_cons, List.flatMap_cons]
      exact delivers_bind (writeBlock_delivers _ _ bus) ih

theorem writeWindow_delivers (inside : position < firmwareWindowSize) :
    (writeWindow position data).Ends (host wires.recording (others.beside _)) map bus
      (Delivers ((windowRequests position data).flatMap piecesOf)
        ((position + data.length) % firmwareWindowSize) map bus) := by
  rw [writeWindow, dif_pos inside, ← List.append_nil (List.flatMap ..)]
  exact delivers_bind (sendBlocks_delivers ⟨position, inside⟩ data bus) fun left =>
    delivers_nothing _

/-- Blocks that are laid around the window stay in it when they are cut into pieces. -/
theorem pieces_of_laid {piece : Piece} (laid : Laid position requests)
    (member : piece ∈ requests.flatMap piecesOf) :
    0x8000 ≤ piece.offset.toNat ∧ piece.offset.toNat + piece.data.length ≤ 0xa000 ∧
      piece.data.length ≤ 1024 := by
  induction laid with
  | none => cases member
  | @next position offset block rest place filled within others ih =>
      rcases List.mem_append.mp member with first | later
      · have room : offset.toNat + block.length ≤ 0xa000 := by
          simp only [firmwareWindow, firmwareWindowSize, UInt16.reduceToNat] at place within
          omega
        have inside := pieces_within (by omega) first
        have start : 0x8000 ≤ offset.toNat := by
          rw [place]
          exact Nat.le_add_right ..
        have short := length_of_mem_pieces first
        omega
      · exact ih later

theorem placed_of_laid (laid : Laid position requests) :
    (requests.flatMap piecesOf).flatMap Piece.placed = requests.flatMap Request.placed := by
  induction laid with
  | none => rfl
  | @next position offset block rest place filled within others ih =>
      have room : offset.toNat + block.length < 2 ^ 16 := by
        simp only [firmwareWindow, firmwareWindowSize, UInt16.reduceToNat] at place within
        omega
      rw [List.flatMap_cons, List.flatMap_append, ih, piecesOf, pieces_placed room,
        List.flatMap_cons, Request.placed]

theorem writeWindow_crosses (position : Nat) (data : List UInt8) :
    (writeWindow position data).Ends (host wires.recording (others.beside _)) map bus
      (CrossesWindow position data map bus) := by
  by_cases inside : position < 0x2000
  · refine (writeWindow_delivers inside).mono ?_
    intro outcome after left delivers
    have laid := laid_windowRequests inside data
    rw [CrossesWindow, if_pos inside]
    refine ⟨_, delivers, fun piece => pieces_of_laid laid, ?_⟩
    rw [placed_of_laid laid, laid.placed, flatMap_data_windowRequests]
    rfl
  · have outside : ¬ position < firmwareWindowSize := inside
    rw [writeWindow, dif_neg outside, ends_refuse, CrossesWindow, if_neg inside]
    exact ⟨rfl, rfl, rfl⟩

/-- A block write sends its data in pieces of 1024 bytes, each with the offset of its first byte,
whatever the wires do; what the bus did before, and so what its buffer holds, makes no difference. Up
to the first transaction that fails, these are all its transactions, and that one's offset is in the
error. When all are sent, a memory that counts its address up is left as by one write. The same
holds of a write through the firmware window, where no piece leaves the window and each byte has its
place around it. -/
theorem block_writes_delivered {σ : Type} (wires : I2cWires σ) :
    (∀ offset data (bus : I2cBus (σ × List Transaction)),
      match writeBlock wires.recording offset data bus with
      | (result, left) => left.address = bus.address ∧ ∃ log, left.world.2 = bus.world.2 ++ log ∧
          Delivered bus.address (pieces offset data) log result ∧
          (result = .ok () → ∀ memory,
            (log.map Transaction.bytes).foldl receive memory = deposit memory offset data)) ∧
    (∀ offset data (bus : I2cBus σ) buffer,
      (writeBlock wires offset data { bus with buffer }).1 = (writeBlock wires offset data bus).1 ∧
      (writeBlock wires offset data { bus with buffer }).2.world =
        (writeBlock wires offset data bus).2.world) ∧
    (∀ offset data, (pieces offset data).flatMap (·.data) = data ∧
      ∀ piece ∈ pieces offset data, piece.data ≠ [] ∧ piece.data.length ≤ 1024) ∧
    ∀ (others : Host σ) map position data bus,
      (writeWindow position data).Ends (host wires.recording (others.beside _)) map bus
        (CrossesWindow position data map bus) := by
  refine ⟨fun offset data bus => ?_, fun offset data => writeChunks_buffer offset _,
    fun offset data => ⟨flatMap_pieces offset data, fun piece => length_of_mem_pieces⟩,
    fun others map position data bus => writeWindow_crosses position data⟩
  have delivered := @writeBlock_delivered σ wires offset data bus
  cases sent : writeBlock wires.recording offset data bus with
  | mk result left =>
      rw [sent] at delivered
      obtain ⟨address, log, logged, delivered⟩ := delivered
      refine ⟨address, log, logged, delivered, ?_⟩
      rintro rfl
      exact delivered.received

/-- A write that ends past the highest offset, so that its second piece starts over at zero, and one
around the window of which the second piece fails. -/
theorem wrapping_writes_delivered :
    let idle : Simulation.ScriptedWires := { faults := [], replies := #[] }
    let failing : Simulation.ScriptedWires := { faults := [(1, .bus)], replies := #[] }
    let wires := Simulation.ScriptedWires.wires
    (match writeBlock wires.recording 0xfc00 (List.replicate 1025 0x55)
        ⟨(idle, []), 0x3c, [0xde, 0xad]⟩ with
      | (result, left) => result = .ok () ∧ ∀ memory,
          (left.world.2.map Transaction.bytes).foldl receive memory =
            deposit memory 0xfc00 (List.replicate 1025 0x55)) ∧
    ⟨0, [0x55]⟩ ∈ pieces 0xfc00 (List.replicate 1025 0x55) ∧ ([0x55] : List UInt8) ≠ [] ∧
    (writeWindow 0x1fff [0xa1, 0xb2, 0xc3]).Ends
      (host wires.recording (Simulation.ScriptedWires.alone.beside _)) {}
      ⟨(failing, []), 0x3c, [0xde, 0xad]⟩
      (CrossesWindow 0x1fff [0xa1, 0xb2, 0xc3] {} ⟨(failing, []), 0x3c, [0xde, 0xad]⟩) := by
  intro idle failing wires
  have cut : Bytes.chunks chunkSize (List.replicate 1025 0x55) =
      [List.replicate 1024 0x55, [0x55]] := by
    have last : Bytes.chunks chunkSize [0x55] = [[0x55]] :=
      Bytes.chunks_of_short (by decide) (by decide)
    rw [List.replicate_succ, Bytes.chunks, List.take_replicate, List.drop_replicate, ← last]
    rfl
  have member : ⟨0, [0x55]⟩ ∈ pieces 0xfc00 (List.replicate 1025 0x55) := by decide +kernel
  obtain ⟨sends, -, cuts, crosses⟩ := block_writes_delivered wires
  have sent := sends 0xfc00 (List.replicate 1025 0x55) ⟨(idle, []), 0x3c, [0xde, 0xad]⟩
  refine ⟨?_, member, ((cuts _ _).2 _ member).1, crosses _ _ _ _ _⟩
  have done : (writeBlock wires.recording 0xfc00 (List.replicate 1025 0x55)
      ⟨(idle, []), 0x3c, [0xde, 0xad]⟩).1 = .ok () := by
    rw [writeBlock, cut]
    rfl
  generalize writeBlock wires.recording 0xfc00 (List.replicate 1025 0x55)
    ⟨(idle, []), 0x3c, [0xde, 0xad]⟩ = run at sent done ⊢
  obtain ⟨-, log, logged, -, received⟩ := sent
  rw [List.nil_append] at logged
  subst logged
  exact ⟨done, received done⟩

end I2c

end IspDriver
