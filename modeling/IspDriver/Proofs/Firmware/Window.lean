import IspDriver.Proofs.Firmware.Download
import IspDriver.Proofs.Sequence

/-!
What a write through the firmware window sends, on any host. The blocks it writes follow one another
around the window, so that byte `i` of the data goes to window position `(start + i) mod size`; and
however far it comes, what it sent is the beginning of the data, each byte once.
-/

namespace IspDriver

open Routine

/-- The bytes that a request sends. -/
def Request.data : Request → List UInt8
  | .write _ data => data
  | _ => []

/-- The bytes that a request sends, each with the offset where it goes. -/
def Request.placed : Request → List (Nat × UInt8)
  | .write offset data => data.mapIdx fun i byte => (offset.toNat + i, byte)
  | _ => []

namespace Firmware

open Layout (firmwareWindow firmwareWindowSize)

/-- Where data ends that goes around the window from a position on. -/
def WindowPosition.after (position : WindowPosition) (data : List UInt8) : WindowPosition :=
  ⟨(position + data.length) % firmwareWindowSize, Nat.mod_lt _ (by decide)⟩

/-- The data around the window from a position on, each byte with the offset where it belongs. -/
def windowPlaces (position : Nat) (data : List UInt8) : List (Nat × UInt8) :=
  data.mapIdx fun i byte => (firmwareWindow.toNat + (position + i) % firmwareWindowSize, byte)

/-- Writes of blocks in the window, none of them empty, each at the position where the one before it
ended; the end of the window is its start. -/
inductive Laid : (position : Nat) → List Request → Prop
  | none {position : Nat} : Laid position []
  | next {position : Nat} {offset : UInt16} {block : List UInt8} {rest : List Request}
      (place : offset.toNat = firmwareWindow.toNat + position) (filled : block ≠ [])
      (within : position + block.length ≤ firmwareWindowSize)
      (others : Laid ((position + block.length) % firmwareWindowSize) rest) :
      Laid position (.write offset block :: rest)

/-- The bytes that were sent, the last ones perhaps in vain. -/
def bytesSent (log : List Exchange) : List UInt8 :=
  log.flatMap (·.request.data)

/-- What comes of sending data through the window from a position in it on. -/
structure Sent (position : Nat) (data : List UInt8) (log : List Exchange) (outcome : Outcome Nat) :
    Prop where
  laid : Laid position (log.map (·.request))
  placed : log.flatMap (·.request.placed) = windowPlaces position (bytesSent log)
  part : bytesSent log <+: data
  /-- So the loop over the data ends. -/
  few : log.length ≤ data.length
  settles : Settles log outcome.verdict
  whole : ∀ next, outcome = .done next →
    bytesSent log = data ∧ next = (position + data.length) % firmwareWindowSize

/-- The data cut where the window ends, each block with its window position: first as much as there
is room for, then one window after the other. -/
def windowBlocks (position : Nat) (data : List UInt8) : List (Nat × List UInt8) :=
  let room := firmwareWindowSize - position
  (Bytes.chunks room (data.take room)).map (position, ·) ++
    (Bytes.chunks firmwareWindowSize (data.drop room)).map (0, ·)

/-- The block writes that send data through the window. They are `Laid` around it, and their data is
the data (`laid_windowRequests`, `flatMap_data_windowRequests`). -/
def windowRequests (position : Nat) (data : List UInt8) : List Request :=
  (windowBlocks position data).map fun placed =>
    .write (firmwareWindow + placed.1.toUInt16) placed.2

section Laid

variable {position size : Nat} {data front back : List UInt8} {requests more : List Request}

theorem windowPlaces_append (position : Nat) (front back : List UInt8) :
    windowPlaces position (front ++ back) = windowPlaces position front ++
      windowPlaces ((position + front.length) % firmwareWindowSize) back := by
  simp only [windowPlaces, List.mapIdx_append, Nat.mod_add_mod]
  congr 2
  funext i byte
  rw [Nat.add_comm i, Nat.add_assoc]

/-- What does not reach the end of the window goes there in one piece. -/
theorem windowPlaces_of_within (within : position + data.length ≤ firmwareWindowSize) :
    windowPlaces position data =
      data.mapIdx fun i byte => (firmwareWindow.toNat + position + i, byte) := by
  refine List.mapIdx_eq_mapIdx_iff.mpr fun i inside => ?_
  rw [Nat.mod_eq_of_lt (by omega), Nat.add_assoc]

theorem Laid.placed (laid : Laid position requests) :
    requests.flatMap Request.placed = windowPlaces position (requests.flatMap Request.data) := by
  induction laid with
  | none => rfl
  | next place filled within others ih =>
      simp only [List.flatMap_cons, Request.data, Request.placed, windowPlaces_append, ih,
        windowPlaces_of_within within, place]

theorem Laid.length_le (laid : Laid position requests) :
    requests.length ≤ (requests.flatMap Request.data).length := by
  induction laid with
  | none => exact Nat.le_refl _
  | @next position offset block rest place filled within others ih =>
      have positive : 0 < block.length := List.length_pos_iff.mpr filled
      simp only [List.flatMap_cons, List.length_append, List.length_cons, Request.data]
      omega

theorem Laid.start (laid : Laid position requests) (front : more <+: requests) :
    Laid position more := by
  induction laid generalizing more with
  | none =>
      rw [List.prefix_nil.mp front]
      exact .none
  | next place filled within others ih =>
      rcases List.prefix_cons_iff.mp front with rfl | ⟨rest, rfl, before⟩
      · exact .none
      · exact .next place filled within (ih before)

theorem Laid.append (laid : Laid position requests) (inside : position < firmwareWindowSize)
    (others : Laid ((position + (requests.flatMap Request.data).length) % firmwareWindowSize) more) :
    Laid position (requests ++ more) := by
  induction laid with
  | none =>
      rw [List.flatMap_nil, List.length_nil, Nat.add_zero, Nat.mod_eq_of_lt inside] at others
      exact others
  | next place filled within _ ih =>
      refine .next place filled within (ih (Nat.mod_lt _ (by decide)) ?_)
      simpa only [Nat.mod_add_mod, List.flatMap_cons, List.length_append, Request.data,
        Nat.add_assoc] using others

theorem toNat_windowOffset (inside : position < firmwareWindowSize) :
    (firmwareWindow + position.toUInt16).toNat = firmwareWindow.toNat + position := by
  simp only [firmwareWindowSize, firmwareWindow, UInt16.toNat_add, Nat.toUInt16_eq,
    UInt16.toNat_ofNat', UInt16.reduceToNat] at inside ⊢
  omega

theorem val_advance {position : WindowPosition} {count : Nat}
    (within : position + count ≤ firmwareWindowSize) :
    (position.advance count).val = (position + count) % firmwareWindowSize := by
  unfold WindowPosition.advance
  split
  · next inside => exact (Nat.mod_eq_of_lt inside).symm
  · next reached =>
      have whole : position + count = firmwareWindowSize := by omega
      rw [whole, Nat.mod_self]

theorem within_room (position : WindowPosition) (data : List UInt8) :
    position + position.room data ≤ firmwareWindowSize := by
  have inside := position.isLt
  unfold WindowPosition.room
  omega

theorem after_advance_room (position : WindowPosition) (data : List UInt8) :
    (position.advance (position.room data)).after (data.drop (position.room data)) =
      position.after data := by
  have some : position.room data ≤ data.length := Nat.min_le_left ..
  apply Fin.ext
  simp only [WindowPosition.after]
  rw [val_advance (within_room position data), Nat.mod_add_mod, List.length_drop, Nat.add_assoc,
    Nat.add_sub_cancel' some]

theorem windowBlocks_nil (position : Nat) : windowBlocks position [] = [] := by
  rw [windowBlocks, List.take_nil, List.drop_nil, Bytes.chunks, Bytes.chunks]
  rfl

theorem windowBlocks_zero (data : List UInt8) :
    windowBlocks 0 data = (Bytes.chunks firmwareWindowSize data).map (0, ·) := by
  cases data with
  | nil => rw [windowBlocks_nil, Bytes.chunks, List.map_nil]
  | cons first rest =>
      have filled : (first :: rest).take firmwareWindowSize ≠ [] := by simp [firmwareWindowSize]
      rw [windowBlocks, Nat.sub_zero, Bytes.chunks_of_short filled (List.length_take_le ..),
        Bytes.chunks]
      rfl

theorem take_room_ne_nil (position : WindowPosition) (filled : data ≠ []) :
    data.take (position.room data) ≠ [] := by
  have inside := position.isLt
  have some := List.length_pos_iff.mpr filled
  rw [← List.length_pos_iff, List.length_take, WindowPosition.room]
  omega

/-- The loop takes the blocks one by one. -/
theorem windowBlocks_of_filled (position : WindowPosition) (filled : data ≠ []) :
    windowBlocks position data = (position.val, data.take (position.room data)) ::
      windowBlocks (position.advance (position.room data)) (data.drop (position.room data)) := by
  have front : data.take (firmwareWindowSize - position) = data.take (position.room data) := by
    rw [List.take_eq_take_min, Nat.min_comm]
    rfl
  have short : (data.take (position.room data)).length ≤ firmwareWindowSize - position := by
    rw [← front]
    exact List.length_take_le ..
  rw [windowBlocks, front, Bytes.chunks_of_short (take_room_ne_nil position filled) short]
  by_cases reached : firmwareWindowSize - position ≤ data.length
  · have full : position.room data = firmwareWindowSize - position := Nat.min_eq_right reached
    have start : position.advance (position.room data) = ⟨0, by decide⟩ := by
      unfold WindowPosition.advance
      rw [dif_neg (by omega)]
    rw [start, full, windowBlocks_zero]
    rfl
  · have all : position.room data = data.length := Nat.min_eq_left (Nat.le_of_not_le reached)
    rw [all, List.drop_length, windowBlocks_nil, List.drop_eq_nil_of_le (Nat.le_of_not_le reached),
      Bytes.chunks]
    rfl

/-- The blocks that a write through the window makes of its data are laid around it. -/
theorem laid_windowRequests (inside : position < firmwareWindowSize) (data : List UInt8) :
    Laid position (windowRequests position data) := by
  have laid : ∀ position : WindowPosition, Laid position (windowRequests position data) := by
    intro position
    -- The blocks are those of the loop, so the induction is the loop's.
    induction position, data using sendBlocks.induct with
    | case1 position =>
        rw [windowRequests, windowBlocks_nil]
        exact .none
    | case2 position data filled ih =>
        have within := within_room position data
        have length : (data.take (position.room data)).length = position.room data :=
          List.length_take_of_le (Nat.min_le_left ..)
        rw [windowRequests, windowBlocks_of_filled position filled, List.map_cons]
        refine .next (toNat_windowOffset position.isLt) (take_room_ne_nil position filled) ?_ ?_
        · rwa [length]
        · rwa [length, ← val_advance within]
  exact laid ⟨position, inside⟩

example : windowRequests 0x1fff [0xa1, 0xb2, 0xc3] =
    [.write 0x9fff [0xa1], .write 0x8000 [0xb2, 0xc3]] := by cbv

end Laid

variable {σ : Type} {host : Host σ} {map : RegisterMap} {position next : Nat}
  {data front back : List UInt8} {log more : List Exchange} {outcome : Outcome Nat}

theorem bytesSent_eq (log : List Exchange) :
    bytesSent log = (log.map (·.request)).flatMap Request.data :=
  (List.flatMap_map ..).symm

theorem bytesSent_append (log more : List Exchange) :
    bytesSent (log ++ more) = bytesSent log ++ bytesSent more :=
  List.flatMap_append

theorem flatten_windowBlocks (position : Nat) (data : List UInt8) :
    ((windowBlocks position data).map (·.2)).flatten = data := by
  have unplaced : ∀ (place : Nat) (pieces : List (List UInt8)),
      (pieces.map (place, ·)).map (·.2) = pieces := fun place pieces => by
    rw [List.map_map]
    exact List.map_id pieces
  rw [windowBlocks, List.map_append, unplaced, unplaced, List.flatten_append,
    Bytes.flatten_chunks, Bytes.flatten_chunks, List.take_append_drop]

theorem flatMap_data_windowRequests (position : Nat) (data : List UInt8) :
    (windowRequests position data).flatMap Request.data = data := by
  rw [windowRequests, List.flatMap_map, List.flatMap_def]
  exact flatten_windowBlocks position data

/-- However far the block writes of some data come, they send the beginning of it to its place. -/
theorem sent_of_follows (inside : position < firmwareWindowSize)
    (follows : Follows (windowRequests position data) log outcome)
    (value : ∀ next, outcome = .done next → next = (position + data.length) % firmwareWindowSize) :
    Sent position data log outcome := by
  have laid := (laid_windowRequests inside data).start follows.inOrder
  have part : bytesSent log <+: data := by
    obtain ⟨rest, whole⟩ := follows.inOrder
    refine ⟨rest.flatMap Request.data, ?_⟩
    rw [bytesSent_eq, ← List.flatMap_append, whole, flatMap_data_windowRequests]
  refine ⟨laid, ?_, part, ?_, follows.settles, fun next done => ⟨?_, value next done⟩⟩
  · rw [bytesSent_eq, ← laid.placed, List.flatMap_map]
  · calc log.length = (log.map (·.request)).length := (List.length_map _).symm
      _ ≤ ((log.map (·.request)).flatMap Request.data).length := laid.length_le
      _ = (bytesSent log).length := by rw [bytesSent_eq]
      _ ≤ data.length := part.length_le
  · rw [bytesSent_eq, follows.whole (by rw [done]; rfl), flatMap_data_windowRequests]

/-- Data that is sent after other data, from where that ended, is sent as if it were one. -/
theorem Sent.append (sent : Sent position front log (.done next))
    (inside : position < firmwareWindowSize) (others : Sent next back more outcome) :
    Sent position (front ++ back) (log ++ more) outcome := by
  obtain ⟨all, reached⟩ := sent.whole next rfl
  subst reached
  have granted := sent.settles.granted
  refine ⟨?_, ?_, ?_, ?_, others.settles.append granted, fun final done => ?_⟩
  · rw [List.map_append]
    refine sent.laid.append inside ?_
    rw [← bytesSent_eq, all]
    exact others.laid
  · rw [List.flatMap_append, sent.placed, others.placed, bytesSent_append, windowPlaces_append, all]
  · rw [bytesSent_append, all]
    exact (List.prefix_append_right_inj front).mpr others.part
  · have first := sent.few
    have second := others.few
    simp only [List.length_append]
    omega
  · obtain ⟨rest, ended⟩ := others.whole final done
    refine ⟨by rw [bytesSent_append, all, rest], ?_⟩
    rw [ended, Nat.mod_add_mod, List.length_append, Nat.add_assoc]

/-- Data that is not all sent leaves data that was to be sent after it. -/
theorem Sent.stopped {other : Outcome Nat} (sent : Sent position front log outcome)
    (same : other.verdict = outcome.verdict) (stops : outcome.verdict ≠ .done ()) :
    Sent position (front ++ back) log other := by
  refine ⟨sent.laid, sent.placed, sent.part.trans (List.prefix_append ..),
    Nat.le_trans sent.few (by simp), by rw [same]; exact sent.settles, fun next done => ?_⟩
  rw [done] at same
  exact absurd same.symm stops

/-- The loop over the data sends the blocks of it, and ends at the position after the last byte. -/
theorem traces_sendBlocks (position : WindowPosition) (data : List UInt8) :
    Traces host (· = map) (· = map)
      (Gains (windowRequests position data)
        fun _ next => next = position.after data)
      (sendBlocks position data) := by
  fun_induction sendBlocks position data with
  | case1 position =>
      rw [windowRequests, windowBlocks_nil]
      intro map world same
      refine ⟨same, [], (List.append_nil _).symm, .nil _, fun next done => ?_⟩
      cases done
      exact Fin.ext (Nat.mod_eq_of_lt position.isLt).symm
  | case2 position data filled ih =>
      have first : Traces host (· = map) (· = map)
          (Follows [.write (firmwareWindow + position.val.toUInt16)
            (data.take (position.room data))])
          (RegisterMap.writeBlock (firmwareWindow + position.val.toUInt16)
            (data.take (position.room data))) :=
        Traces.report (traces_request fun reply => by cases reply <;> rfl) fun _ => silent_note
      rw [after_advance_room] at ih
      rw [windowRequests, windowBlocks_of_filled position filled]
      exact first.gains.gain_bind (fun _ _ => ih) fun _ _ _ _ _ => id

theorem traces_writeWindow (inside : position < firmwareWindowSize) (data : List UInt8) :
    Traces host (· = map) (· = map)
      (Gains (windowRequests position data)
        fun _ next => next = (position + data.length) % firmwareWindowSize)
      (writeWindow position data) := by
  rw [writeWindow, dif_pos inside]
  exact (traces_sendBlocks ⟨position, inside⟩ data).returning fun _ _ reached =>
    congrArg Fin.val reached

/-- What a routine comes to that sends data through the window from a position on: the data is sent,
as far as the host lets it; or the position is refused, and nothing is asked. -/
def Sends (position : Nat) (data : List UInt8) (map : RegisterMap) (world : σ × List Exchange)
    (outcome : Outcome Nat) (after : RegisterMap) (left : σ × List Exchange) : Prop :=
  if position < firmwareWindowSize then
    after = map ∧ ∃ log, left.2 = world.2 ++ log ∧ Sent position data log outcome
  else
    outcome = .failed (.invalidArgument (.windowPosition position)) ∧ after = map ∧ left = world

theorem writeWindow_sends (position : Nat) (data : List UInt8) (world : σ × List Exchange) :
    (writeWindow position data).Ends host.recording map world (Sends position data map world) := by
  by_cases inside : position < firmwareWindowSize
  · refine (traces_writeWindow inside data map world rfl).mono ?_
    intro outcome after left ended
    obtain ⟨same, log, logged, follows, value⟩ := ended
    rw [Sends, if_pos inside]
    exact ⟨same, log, logged, sent_of_follows inside follows value⟩
  · rw [writeWindow, dif_neg inside, ends_refuse, Sends, if_neg inside]
    exact ⟨rfl, rfl, rfl⟩

/-- A write through the window loses nothing, repeats nothing and misplaces nothing, whatever fails;
and to write data in two parts, the second from where the first ended, is to write it in one. -/
theorem window_lossless (host : Host σ) (map : RegisterMap) (world : σ × List Exchange)
    (position : Nat) :
    (∀ data, (writeWindow position data).Ends host.recording map world
      (Sends position data map world)) ∧
    ∀ front back, (do
      let next ← writeWindow position front
      writeWindow next back).Ends host.recording map world
        (Sends position (front ++ back) map world) := by
  refine ⟨fun data => writeWindow_sends position data world, fun front back => ?_⟩
  by_cases inside : position < firmwareWindowSize
  · refine (writeWindow_sends position front world).bind_or_stop ?_ ?_
    · intro next after left ended
      rw [Sends, if_pos inside] at ended
      obtain ⟨rfl, log, logged, sent⟩ := ended
      have within : next < firmwareWindowSize := by
        rw [(sent.whole next rfl).2]
        exact Nat.mod_lt _ (by decide)
      refine (writeWindow_sends next back left).mono ?_
      intro outcome after left ended
      rw [Sends, if_pos within] at ended
      obtain ⟨same, more, grown, others⟩ := ended
      rw [Sends, if_pos inside]
      refine ⟨same, log ++ more, ?_, sent.append inside others⟩
      rw [grown, logged, List.append_assoc]
    · intro outcome other after left same stops ended
      rw [Sends, if_pos inside] at ended ⊢
      obtain ⟨kept, log, logged, sent⟩ := ended
      exact ⟨kept, log, logged, sent.stopped same stops⟩
  · have refused : (writeWindow position front : Access (σ × List Exchange) Nat) =
        refuse (.windowPosition position) := by rw [writeWindow, dif_neg inside]
    rw [refused, ends_bind, ends_refuse]
    simp only [followed]
    rw [Sends, if_neg inside]
    exact ⟨rfl, rfl, rfl⟩

end Firmware

end IspDriver
