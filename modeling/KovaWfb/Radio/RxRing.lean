/-
# The frames in the ring of a receiver

`enqueue_decoded` and `pop_one` of `src/rx.rs` (lines 321 to 351) keep a frame in slot `i`
of three vectors: its length, its metadata, and its bytes from `i * max_payload` on.  The
slots are never cleared.  `WfbRx.frames` are the frames a ring holds; the two functions
append one and take the oldest one (`WfbRx.enqueueDecoded_spec`, `WfbRx.popOne_spec`), and
keep the ring well formed.
-/

import KovaWfb.Lib.Ring
import KovaWfb.Radio.Rx

namespace KovaWfb

/-- A frame the receiver took out of a packet. -/
structure RxFrame where
  payload : Bytes
  metadata : WfbRxMeta
  deriving DecidableEq

namespace WfbRx

/-- The ring of a receiver that `open` made. -/
structure WellFormed (rx : WfbRx) : Prop where
  ring : Ring.Valid rx.ringSize rx.ringHead rx.ringTail rx.ringCount
  size_ge : 2 ≤ rx.ringSize
  size_le : rx.ringSize ≤ 128
  maxPayload_eq : rx.maxPayload = computeMaxPayload
  length_store : rx.ringPayloadStore.length = rx.ringSize * rx.maxPayload
  length_len : rx.ringPayloadLen.length = rx.ringSize
  length_meta : rx.ringMeta.length = rx.ringSize
  payload_le : ∀ n ∈ rx.ringPayloadLen, n ≤ rx.maxPayload

/-- What slot `i` holds. -/
def slot (rx : WfbRx) (i : ℕ) : RxFrame where
  payload := (rx.ringPayloadStore.drop (i * rx.maxPayload)).take (rx.ringPayloadLen.getD i 0)
  metadata := rx.ringMeta.getD i default

/-- The frames in the ring, oldest first. -/
def frames (rx : WfbRx) : List RxFrame :=
  Ring.contents rx.slot rx.ringSize rx.ringHead rx.ringCount

theorem clampRingSize_ge (n : ℕ) : 2 ≤ clampRingSize n := Nat.le_max_left ..

theorem clampRingSize_le (n : ℕ) : clampRingSize n ≤ 128 :=
  max_le (by omega) (min_le_right _ _)

/-- What `open` makes: an empty ring of the clamped size. -/
theorem openRx_eq_ok {cfg : WfbRxConfig} {pcap : Except String Unit} {rx : WfbRx}
    (h : openRx cfg pcap = .ok rx) :
    rx.WellFormed ∧ rx.frames = [] ∧ rx.ringSize = clampRingSize cfg.ringSize ∧
      rx.ignoreSelfInjected = cfg.ignoreSelfInjected := by
  unfold openRx at h
  split at h
  · cases h
  split at h
  · cases h
  dsimp only at h
  split at h
  · cases h
  split at h
  · cases h
  obtain rfl := Except.ok.inj h
  have hsize := clampRingSize_ge cfg.ringSize
  refine ⟨⟨Ring.valid_empty (Nat.lt_of_lt_of_le Nat.two_pos hsize), hsize, clampRingSize_le _, rfl,
    List.length_replicate, List.length_replicate, List.length_replicate, fun n hn => ?_⟩, rfl, rfl,
    rfl⟩
  rw [List.eq_of_mem_replicate hn]
  exact Nat.zero_le _

variable {rx : WfbRx}

theorem WellFormed.slot_bound (h : rx.WellFormed) {i : ℕ} (hi : i < rx.ringSize) :
    i * rx.maxPayload + rx.maxPayload ≤ rx.ringPayloadStore.length := by
  rw [h.length_store, ← Nat.succ_mul]
  exact Nat.mul_le_mul_right _ hi

theorem WellFormed.len_le (h : rx.WellFormed) (i : ℕ) : rx.ringPayloadLen.getD i 0 ≤ rx.maxPayload := by
  rw [List.getD_eq_getElem?_getD]
  rcases hget : rx.ringPayloadLen[i]? with _ | n
  · exact Nat.zero_le _
  · exact h.payload_le n (List.mem_of_getElem? hget)

theorem WellFormed.length_payload (h : rx.WellFormed) {i : ℕ} (hi : i < rx.ringSize) :
    (rx.slot i).payload.length = rx.ringPayloadLen.getD i 0 := by
  have hbound := h.slot_bound hi
  have hlen := h.len_le i
  rw [slot, List.length_take, List.length_drop]
  omega

theorem length_frames (rx : WfbRx) : rx.frames.length = rx.ringCount := by
  rw [frames, Ring.contents, List.length_map, List.length_range]

/-! ### Appending a frame -/

/-- The receiver after `enqueue_decoded` on a ring with room. -/
def enqueued (rx : WfbRx) (f : RxFrame) : WfbRx :=
  { rx with
    ringPayloadLen := rx.ringPayloadLen.set rx.ringTail f.payload.length
    ringMeta := rx.ringMeta.set rx.ringTail f.metadata
    ringPayloadStore := rx.ringPayloadStore.take (rx.ringTail * rx.maxPayload) ++
      (f.payload ++ rx.ringPayloadStore.drop (rx.ringTail * rx.maxPayload + f.payload.length))
    ringTail := (rx.ringTail + 1) % rx.ringSize
    ringCount := rx.ringCount + 1 }

theorem enqueueDecoded_of_room (h : rx.WellFormed) (hroom : rx.ringCount < rx.ringSize) {f : RxFrame}
    (hlen : f.payload.length ≤ rx.maxPayload) :
    rx.enqueueDecoded f.payload f.metadata = .ok (rx.enqueued f) := by
  have htail := h.ring.tail_lt
  have hbound := h.slot_bound htail
  unfold enqueueDecoded
  rw [if_neg (by omega)]
  dsimp only
  rw [Rust.assign_of_lt (by rw [h.length_len]; exact htail), Rust.ok_bind,
    Rust.assign_of_lt (by rw [h.length_meta]; exact htail), Rust.ok_bind,
    Rust.copyFromSlice_of_le (by omega) (by omega) (by omega), Rust.ok_bind]
  rfl

theorem enqueued_store (h : rx.WellFormed) {f : RxFrame} (hlen : f.payload.length ≤ rx.maxPayload)
    (i : ℕ) : (rx.enqueued f).ringPayloadStore[i]? =
      if rx.ringTail * rx.maxPayload ≤ i ∧ i < rx.ringTail * rx.maxPayload + f.payload.length then
        f.payload[i - rx.ringTail * rx.maxPayload]?
      else rx.ringPayloadStore[i]? := by
  have hbound := h.slot_bound h.ring.tail_lt
  exact Rust.getElem?_copied (by omega) i

theorem slot_enqueued_self (h : rx.WellFormed) {f : RxFrame}
    (hlen : f.payload.length ≤ rx.maxPayload) : (rx.enqueued f).slot rx.ringTail = f := by
  have htail := h.ring.tail_lt
  have hbound := h.slot_bound htail
  have hn : (rx.ringPayloadLen.set rx.ringTail f.payload.length).getD rx.ringTail 0 = f.payload.length := by
    rw [List.getD_eq_getElem?_getD, List.getElem?_set_self (by rw [h.length_len]; exact htail)]
    rfl
  have hmeta : (rx.ringMeta.set rx.ringTail f.metadata).getD rx.ringTail default = f.metadata := by
    rw [List.getD_eq_getElem?_getD, List.getElem?_set_self (by rw [h.length_meta]; exact htail)]
    rfl
  have hpayload : ((rx.enqueued f).ringPayloadStore.drop (rx.ringTail * rx.maxPayload)).take
      f.payload.length = f.payload := by
    rw [enqueued, List.drop_left' (by rw [List.length_take]; omega), List.take_left]
  rw [slot, enqueued, hn, hmeta]
  exact congrArg (RxFrame.mk · f.metadata) hpayload

theorem slot_enqueued_of_ne (h : rx.WellFormed) {f : RxFrame}
    (hlen : f.payload.length ≤ rx.maxPayload) {i : ℕ} (hne : i ≠ rx.ringTail) :
    (rx.enqueued f).slot i = rx.slot i := by
  have hn : (rx.ringPayloadLen.set rx.ringTail f.payload.length).getD i 0 = rx.ringPayloadLen.getD i 0 := by
    rw [List.getD_eq_getElem?_getD, List.getElem?_set_ne (Ne.symm hne), List.getD_eq_getElem?_getD]
  have hmeta : (rx.ringMeta.set rx.ringTail f.metadata).getD i default = rx.ringMeta.getD i default := by
    rw [List.getD_eq_getElem?_getD, List.getElem?_set_ne (Ne.symm hne), List.getD_eq_getElem?_getD]
  have hpayload : ((rx.enqueued f).ringPayloadStore.drop (i * rx.maxPayload)).take
      (rx.ringPayloadLen.getD i 0) =
        (rx.ringPayloadStore.drop (i * rx.maxPayload)).take (rx.ringPayloadLen.getD i 0) := by
    refine Rust.drop_take_congr fun j hj hj' => ?_
    have hle := h.len_le i
    rw [enqueued_store h hlen, if_neg]
    -- Two different slots are `max_payload` bytes apart.
    rintro ⟨hlo, hhi⟩
    rcases Nat.lt_or_gt_of_ne hne with hlt | hgt
    · have hmul : (i + 1) * rx.maxPayload ≤ rx.ringTail * rx.maxPayload := Nat.mul_le_mul_right _ hlt
      rw [Nat.succ_mul] at hmul
      omega
    · have hmul : (rx.ringTail + 1) * rx.maxPayload ≤ i * rx.maxPayload := Nat.mul_le_mul_right _ hgt
      rw [Nat.succ_mul] at hmul
      omega
  rw [slot, slot, ← hpayload]
  exact congrArg₂ RxFrame.mk (congrArg (List.take · _) hn) hmeta

theorem WellFormed.enqueued (h : rx.WellFormed) (hroom : rx.ringCount < rx.ringSize) {f : RxFrame}
    (hlen : f.payload.length ≤ rx.maxPayload) : (rx.enqueued f).WellFormed where
  ring := h.ring.push hroom
  size_ge := h.size_ge
  size_le := h.size_le
  maxPayload_eq := h.maxPayload_eq
  length_store := by
    have hbound := h.slot_bound h.ring.tail_lt
    simp only [WfbRx.enqueued, List.length_append, List.length_take, List.length_drop,
      ← h.length_store]
    omega
  length_len := by simpa only [WfbRx.enqueued, List.length_set] using h.length_len
  length_meta := by simpa only [WfbRx.enqueued, List.length_set] using h.length_meta
  payload_le n hn := by
    rcases List.mem_or_eq_of_mem_set hn with hn | rfl
    · exact h.payload_le n hn
    · exact hlen

/-- **`enqueue_decoded` appends**, and drops the frame when the ring is full. -/
theorem enqueueDecoded_spec (h : rx.WellFormed) (f : RxFrame) (hlen : f.payload.length ≤ rx.maxPayload) :
    ∃ rx', rx.enqueueDecoded f.payload f.metadata = .ok rx' ∧ rx'.WellFormed ∧
      rx'.frames = (rx.frames ++ [f]).take rx.ringSize ∧ rx'.ringSize = rx.ringSize ∧
      rx'.ignoreSelfInjected = rx.ignoreSelfInjected := by
  have hcount := rx.length_frames
  rcases Nat.lt_or_ge rx.ringCount rx.ringSize with hroom | hfull
  · refine ⟨_, enqueueDecoded_of_room h hroom hlen, h.enqueued hroom hlen, ?_, rfl, rfl⟩
    rw [List.take_of_length_le (by rw [List.length_append, hcount]; exact hroom)]
    exact Ring.contents_push h.ring hroom (fun i _ hne => slot_enqueued_of_ne h hlen hne)
      (slot_enqueued_self h hlen)
  · have hsame : rx.ringCount = rx.ringSize := Nat.le_antisymm h.ring.count_le hfull
    refine ⟨rx, if_pos hfull, h, ?_, rfl, rfl⟩
    rw [List.take_left' (hcount.trans hsame)]

/-! ### Taking a frame -/

/-- What a `recv` hands over for a frame: its first bytes in front of what the buffer
held, and whether it was cut. -/
def deliver (f : RxFrame) (buf : Bytes) : Received :=
  .frame (min f.payload.length buf.length)
    { f.metadata with truncated := decide (buf.length < f.payload.length) }
    (f.payload.take buf.length ++ buf.drop f.payload.length)

/-- The receiver after `pop_one`. -/
def popped (rx : WfbRx) : WfbRx :=
  { rx with ringHead := (rx.ringHead + 1) % rx.ringSize, ringCount := rx.ringCount - 1 }

theorem popOne_eq (h : rx.WellFormed) (hcount : 0 < rx.ringCount) (buf : Bytes) :
    ∃ n metadata buf', rx.popOne buf = .ok (n, metadata, buf', rx.popped) ∧
      .frame n metadata buf' = deliver (rx.slot rx.ringHead) buf := by
  have hhead := h.ring.head_lt
  have hbound := h.slot_bound hhead
  have hle := h.len_le rx.ringHead
  have hlen := h.length_payload hhead
  refine ⟨_, _, _, ?_, rfl⟩
  have hbytes : (rx.ringPayloadStore.drop (rx.ringHead * rx.maxPayload)).take
      (min (rx.ringPayloadLen.getD rx.ringHead 0) buf.length) =
        (rx.slot rx.ringHead).payload.take buf.length := by
    rw [slot, List.take_take, Nat.min_comm]
  have hrest : buf.drop (min (rx.ringPayloadLen.getD rx.ringHead 0) buf.length) =
      buf.drop (rx.slot rx.ringHead).payload.length := by
    rw [hlen]
    rcases Nat.le_total (rx.ringPayloadLen.getD rx.ringHead 0) buf.length with hfits | hcut
    · rw [Nat.min_eq_left hfits]
    · rw [Nat.min_eq_right hcut, List.drop_length, List.drop_eq_nil_of_le hcut]
  have htruncated : (min (rx.ringPayloadLen.getD rx.ringHead 0) buf.length ≠
      rx.ringPayloadLen.getD rx.ringHead 0) ↔ buf.length < (rx.slot rx.ringHead).payload.length := by
    rw [hlen]
    omega
  unfold popOne
  dsimp only
  rw [Rust.index_eq_getD (by rw [h.length_len]; exact hhead) 0, Rust.ok_bind,
    Rust.slice_of_le (by omega) (by omega), Rust.ok_bind,
    Rust.copyFromSlice_of_le (by omega) (by omega) (by rw [List.length_take, List.length_drop]; omega),
    Rust.ok_bind, Rust.index_eq_getD (by rw [h.length_meta]; exact hhead) default, Rust.ok_bind,
    Rust.sub_of_le (by omega), Rust.ok_bind]
  simp only [Nat.add_sub_cancel_left, hbytes, hrest, htruncated, List.take_zero, List.nil_append, hlen]
  rfl

/-- **`pop_one` takes the oldest frame.** -/
theorem popOne_spec (h : rx.WellFormed) {f : RxFrame} {rest : List RxFrame}
    (hframes : rx.frames = f :: rest) (buf : Bytes) :
    ∃ n metadata buf' rx', rx.popOne buf = .ok (n, metadata, buf', rx') ∧
      .frame n metadata buf' = deliver f buf ∧ rx'.WellFormed ∧ rx'.frames = rest ∧
      rx'.ringSize = rx.ringSize ∧ rx'.ignoreSelfInjected = rx.ignoreSelfInjected := by
  obtain ⟨count, hcount⟩ : ∃ count, rx.ringCount = count + 1 := by
    refine Nat.exists_eq_add_one_of_ne_zero fun hzero => ?_
    rw [frames, hzero] at hframes
    cases hframes
  have hring := h.ring
  rw [hcount] at hring
  rw [frames, hcount, Ring.contents_pop h.ring.head_lt] at hframes
  obtain ⟨rfl, hrest⟩ := List.cons.inj hframes
  have hpopped : rx.popped.ringCount = count := by rw [popped, hcount, Nat.add_sub_cancel]
  obtain ⟨n, metadata, buf', hpop, hdeliver⟩ := popOne_eq h (by omega) buf
  refine ⟨n, metadata, buf', rx.popped, hpop, hdeliver, ⟨?_, h.size_ge, h.size_le, h.maxPayload_eq,
    h.length_store, h.length_len, h.length_meta, h.payload_le⟩, ?_, rfl, rfl⟩
  · rw [hpopped]
    exact hring.pop
  · rw [frames, hpopped]
    exact hrest

end WfbRx

end KovaWfb
