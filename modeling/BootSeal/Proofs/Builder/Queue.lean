import BootSeal.Builder.Call
import BootSeal.Proofs.Image.Codec
/-!
# Builders that additions make

A builder grows by additions that are accepted. Whatever was added, in whatever order, the header is
still the initial one, every queued chunk has its payload, and every value fits its field: that is all
that the writer relies on.
-/

namespace BootSeal

namespace Payload

variable {p : Payload}

/-- A payload that gives its bytes out, and whose items they are. -/
def IsPlain (p : Payload) : Prop := p.IsReadable ∧ p.itemCount = p.bytes.length

instance (p : Payload) : Decidable p.IsPlain :=
  inferInstanceAs (Decidable (_ ∧ _))

theorem isReadable_ofBytes (b : Bytes) : (ofBytes b).IsReadable := rfl

theorem isPlain_ofBytes (b : Bytes) : (ofBytes b).IsPlain := ⟨rfl, rfl⟩

end Payload

/-- A chunk as it is queued: its values fit, it is not empty, and it has no address yet. -/
structure Chunk.Queued (c : Chunk) : Prop where
  fits : c.Fits
  size_pos : 0 < c.size
  unplaced : c.loadAddr = 0

namespace Builder

def payloads (b : Builder) : List Payload := b.queue.getD []

def blobs (b : Builder) : List Bytes := b.payloads.map Payload.bytes

def IsPlain (b : Builder) : Prop := ∀ p ∈ b.payloads, p.IsPlain

/-- The chunk that an accepted call queues, with its payload. One of size zero is left out. -/
def Call.region? : Call → Option (Chunk × Payload)
  | .addChunk owner execAddr size crc32 (some p) =>
      if size = 0 then none else some (⟨owner, 0, execAddr, size, crc32⟩, p)
  | _ => none

def Call.ziRegion? : Call → Option ZiChunk
  | .addZiChunk owner execAddr size => some ⟨owner, execAddr, size⟩
  | _ => none

namespace Call

/-- The chunks that accepted calls queue. -/
def chunks (calls : List Call) : List Chunk := (calls.filterMap region?).map Prod.fst

def payloads (calls : List Call) : List Payload := (calls.filterMap region?).map Prod.snd

def blobs (calls : List Call) : List Bytes := (payloads calls).map Payload.bytes

def ziChunks (calls : List Call) : List ZiChunk := calls.filterMap ziRegion?

end Call

/-- The builders that accepted additions make of a new one, with the calls that made them. -/
inductive Grown (order : ByteOrder) (setName : String) : List Call → Builder → Prop
  | new {b : Builder} (h : named order setName = .ok b) : Grown order setName [] b
  | chunk {calls : List Call} {b next : Builder} {owner execAddr size crc32 : Int}
      {payload : Option Payload} (hb : Grown order setName calls b)
      (h : b.addChunk owner execAddr size crc32 payload = .ok next) :
      Grown order setName (calls ++ [.addChunk owner execAddr size crc32 payload]) next
  | ziChunk {calls : List Call} {b next : Builder} {owner execAddr size : Int}
      (hb : Grown order setName calls b) (h : b.addZiChunk owner execAddr size = .ok next) :
      Grown order setName (calls ++ [.addZiChunk owner execAddr size]) next

/-- What holds of an open builder, whatever was queued. -/
structure Unwritten (order : ByteOrder) (setName : Bytes) (b : Builder) : Prop where
  order_eq : b.order = order
  header_eq : b.header = { setName := setName }
  queue_eq : b.queue = some b.payloads

/-- What holds of an open builder if all that was queued was accepted. -/
structure Filled (order : ByteOrder) (setName : Bytes) (b : Builder) : Prop
    extends Unwritten order setName b where
  sizes_eq : b.chunks.map Chunk.size = b.payloads.map fun p => (p.itemCount : Int)
  readable : ∀ p ∈ b.payloads, p.IsReadable
  chunks_queued : ∀ c ∈ b.chunks, c.Queued
  ziChunks_fit : ∀ c ∈ b.ziChunks, c.Fits
  name_short : setName.length < setNameSize

theorem named_eq_ok {order : ByteOrder} {setName : String} {b : Builder}
    (h : named order setName = .ok b) :
    b = empty order (Utf8.encode setName) ∧ (Utf8.encode setName).length < setNameSize := by
  dsimp only [named] at h
  split at h
  · cases h
  · cases h
    exact ⟨rfl, by omega⟩

theorem firstMisfit_eq_none_iff {fields : List (RegionField × Int)} :
    firstMisfit fields = none ↔ ∀ f ∈ fields, FitsWidth f.1.width f.2 := by
  simp [firstMisfit]

theorem Attempt.outcome_eq_ok_iff {a : Attempt} {b : Builder} :
    a.outcome = .ok b ↔ a.refusal = none ∧ a.builder = b := by
  unfold outcome
  cases a.refusal with
  | none => simp
  | some e => simp

theorem Attempt.outcome_eq_error_iff {a : Attempt} {e : BuildError} :
    a.outcome = .error e ↔ a.refusal = some e := by
  unfold outcome
  cases a.refusal with
  | none => simp
  | some e' => simp

/-- What becomes of a chunk: it is refused or left out, and nothing has changed, or it is queued with its
payload, and refused then if the payload does not give its bytes out. -/
inductive QueuesChunk (b : Builder) (owner execAddr size crc32 : Int) (payload : Option Payload) :
    Attempt → Prop
  | refused {e : BuildError} (h : e ≠ .unreadablePayload) :
      QueuesChunk b owner execAddr size crc32 payload ⟨b, some e⟩
  | leftOut {queue : List Payload} (hqueue : b.queue = some queue)
      (hfits : (Chunk.mk owner 0 execAddr size crc32).Fits) (hsize : size = 0) :
      QueuesChunk b owner execAddr size crc32 payload ⟨b, none⟩
  | queued {queue : List Payload} {p : Payload} (hqueue : b.queue = some queue)
      (hfits : (Chunk.mk owner 0 execAddr size crc32).Fits) (hsize : size ≠ 0)
      (hpayload : payload = some p) (hcount : (p.itemCount : Int) = size) :
      QueuesChunk b owner execAddr size crc32 payload
        ⟨{ b with
            chunks := b.chunks ++ [⟨owner, 0, execAddr, size, crc32⟩]
            queue := some (queue ++ [p]) },
          if p.IsReadable then none else some .unreadablePayload⟩

theorem queueChunk_queues (b : Builder) (owner execAddr size crc32 : Int) (payload : Option Payload) :
    QueuesChunk b owner execAddr size crc32 payload
      (b.queueChunk owner execAddr size crc32 payload) := by
  unfold queueChunk
  split
  next => exact .refused (by simp)
  next queue hqueue =>
    split
    next => exact .refused (by simp)
    next hmisfit =>
      rw [firstMisfit_eq_none_iff] at hmisfit
      have hfits : (Chunk.mk owner 0 execAddr size crc32).Fits := by
        refine ⟨hmisfit (.owner, owner) (by simp), FitsWidth.zero 8,
          hmisfit (.execAddr, execAddr) (by simp), hmisfit (.size, size) (by simp),
          hmisfit (.crc32, crc32) (by simp)⟩
      split
      next hzero => exact .leftOut hqueue hfits hzero
      next hsize =>
        split
        next => exact .refused (by simp)
        next p =>
          split
          next => exact .refused (by simp)
          next hcount => exact .queued hqueue hfits hsize rfl (Decidable.not_not.mp hcount)

/-- What an accepted chunk does: nothing if it is empty, and else it is queued with its payload, which
gives its bytes out. -/
theorem addChunk_eq_ok {b next : Builder} {owner execAddr size crc32 : Int}
    {payload : Option Payload} (h : b.addChunk owner execAddr size crc32 payload = .ok next) :
    ∃ queue, b.queue = some queue ∧ (Chunk.mk owner 0 execAddr size crc32).Fits ∧
      (size = 0 ∧ next = b ∨
        size ≠ 0 ∧ ∃ p, payload = some p ∧ p.IsReadable ∧ (p.itemCount : Int) = size ∧
          next = { b with
            chunks := b.chunks ++ [⟨owner, 0, execAddr, size, crc32⟩]
            queue := some (queue ++ [p]) }) := by
  obtain ⟨hrefusal, rfl⟩ := Attempt.outcome_eq_ok_iff.mp h
  have hqueues := queueChunk_queues b owner execAddr size crc32 payload
  generalize b.queueChunk owner execAddr size crc32 payload = a at hrefusal hqueues
  cases hqueues with
  | refused => cases hrefusal
  | leftOut hqueue hfits hsize => exact ⟨_, hqueue, hfits, Or.inl ⟨hsize, rfl⟩⟩
  | @queued _ p hqueue hfits hsize hpayload hcount =>
      have hreadable : p.IsReadable := by
        by_contra hnot
        rw [if_neg hnot] at hrefusal
        cases hrefusal
      exact ⟨_, hqueue, hfits, Or.inr ⟨hsize, p, hpayload, hreadable, hcount, rfl⟩⟩

theorem addZiChunk_eq_ok {b next : Builder} {owner execAddr size : Int}
    (h : b.addZiChunk owner execAddr size = .ok next) :
    (ZiChunk.mk owner execAddr size).Fits ∧
      next = { b with ziChunks := b.ziChunks ++ [⟨owner, execAddr, size⟩] } := by
  unfold addZiChunk queueZiChunk at h
  split at h
  next => cases h
  next =>
    split at h
    next => cases h
    next hmisfit =>
      rw [firstMisfit_eq_none_iff] at hmisfit
      refine ⟨⟨hmisfit (.owner, owner) (by simp), hmisfit (.execAddr, execAddr) (by simp),
        hmisfit (.size, size) (by simp)⟩, (Except.ok.inj h).symm⟩

theorem firstMisfit_eq_none_of_fits {owner loadAddr execAddr size crc32 : Int}
    (h : (Chunk.mk owner loadAddr execAddr size crc32).Fits) :
    firstMisfit [(.owner, owner), (.execAddr, execAddr), (.size, size), (.crc32, crc32)] = none := by
  obtain ⟨howner, _, hexec, hsize, hcrc⟩ := h
  rw [firstMisfit_eq_none_iff]
  simp only [List.forall_mem_cons]
  exact ⟨howner, hexec, hsize, hcrc, by simp⟩

/-- A chunk that fits is queued with a payload of as many items, readable or not. -/
theorem queueChunk_eq {b : Builder} {queue : List Payload} (hqueue : b.queue = some queue)
    {owner execAddr size crc32 : Int} {p : Payload}
    (hfits : (Chunk.mk owner 0 execAddr size crc32).Fits) (hsize : size ≠ 0)
    (hcount : (p.itemCount : Int) = size) :
    b.queueChunk owner execAddr size crc32 (some p) =
      ⟨{ b with
          chunks := b.chunks ++ [⟨owner, 0, execAddr, size, crc32⟩]
          queue := some (queue ++ [p]) },
        if p.IsReadable then none else some .unreadablePayload⟩ := by
  unfold queueChunk
  rw [hqueue, firstMisfit_eq_none_of_fits hfits]
  dsimp only
  rw [if_neg hsize, if_neg (not_not_intro hcount)]

theorem exists_addChunk {b : Builder} {queue : List Payload} (hqueue : b.queue = some queue)
    {owner execAddr size crc32 : Int} {p : Payload}
    (hfits : (Chunk.mk owner 0 execAddr size crc32).Fits) (hreadable : p.IsReadable)
    (hcount : (p.itemCount : Int) = size) :
    ∃ next, b.addChunk owner execAddr size crc32 (some p) = .ok next := by
  by_cases hsize : size = 0
  · refine ⟨b, ?_⟩
    unfold addChunk queueChunk
    rw [hqueue, firstMisfit_eq_none_of_fits hfits]
    dsimp only
    rw [if_pos hsize]
    rfl
  · rw [addChunk, queueChunk_eq hqueue hfits hsize hcount, if_pos hreadable]
    exact ⟨_, rfl⟩

theorem exists_addZiChunk {b : Builder} {queue : List Payload} (hqueue : b.queue = some queue)
    {owner execAddr size : Int} (hfits : (ZiChunk.mk owner execAddr size).Fits) :
    ∃ next, b.addZiChunk owner execAddr size = .ok next := by
  obtain ⟨howner, hexec, hsize⟩ := hfits
  have hmisfit : firstMisfit [(.owner, owner), (.execAddr, execAddr), (.size, size)] = none := by
    rw [firstMisfit_eq_none_iff]
    simp only [List.forall_mem_cons]
    exact ⟨howner, hexec, hsize, by simp⟩
  unfold addZiChunk queueZiChunk
  rw [hqueue, hmisfit]
  exact ⟨_, rfl⟩

namespace Unwritten

variable {order : ByteOrder} {setName : Bytes} {b : Builder}

theorem queueChunk (hb : Unwritten order setName b) (owner execAddr size crc32 : Int)
    (payload : Option Payload) :
    Unwritten order setName (b.queueChunk owner execAddr size crc32 payload).builder := by
  have hqueues := queueChunk_queues b owner execAddr size crc32 payload
  generalize b.queueChunk owner execAddr size crc32 payload = a at hqueues
  cases hqueues with
  | refused => exact hb
  | leftOut => exact hb
  | queued => exact ⟨hb.order_eq, hb.header_eq, rfl⟩

theorem queueZiChunk (hb : Unwritten order setName b) (owner execAddr size : Int) :
    Unwritten order setName (b.queueZiChunk owner execAddr size).builder := by
  unfold Builder.queueZiChunk
  split
  next => exact hb
  next =>
    split
    next => exact hb
    next => exact ⟨hb.order_eq, hb.header_eq, hb.queue_eq⟩

end Unwritten

namespace Filled

variable {order : ByteOrder} {setName : Bytes} {b next : Builder}

theorem empty (h : setName.length < setNameSize) :
    Filled order setName (Builder.empty order setName) where
  order_eq := rfl
  header_eq := rfl
  queue_eq := rfl
  sizes_eq := rfl
  readable := by simp [Builder.empty, payloads]
  chunks_queued := by simp [Builder.empty]
  ziChunks_fit := by simp [Builder.empty]
  name_short := h

theorem addChunk {owner execAddr size crc32 : Int} {payload : Option Payload}
    (hb : Filled order setName b)
    (h : b.addChunk owner execAddr size crc32 payload = .ok next) : Filled order setName next := by
  obtain ⟨queue, hqueue, hfits, ⟨_, rfl⟩ | ⟨hsize, p, _, hreadable, hcount, rfl⟩⟩ := addChunk_eq_ok h
  · exact hb
  -- Only the chunks and the queue have grown, and by one each.
  · have hpayloads : b.payloads = queue := by simp [payloads, hqueue]
    refine ⟨⟨hb.order_eq, hb.header_eq, rfl⟩, ?_, ?_, ?_, hb.ziChunks_fit, hb.name_short⟩
    · have hsizes := hb.sizes_eq
      rw [hpayloads] at hsizes
      simp [payloads, hsizes, hcount]
    · have hold := hb.readable
      rw [hpayloads] at hold
      exact List.forall_mem_append.mpr ⟨hold, List.forall_mem_singleton.mpr hreadable⟩
    · intro c hc
      rcases List.mem_append.mp hc with hold | hnew
      · exact hb.chunks_queued c hold
      · rw [List.mem_singleton] at hnew
        subst hnew
        have hnonneg : 0 ≤ size := hfits.2.2.2.1.1
        exact ⟨hfits, by dsimp only; omega, rfl⟩

theorem addZiChunk {owner execAddr size : Int} (hb : Filled order setName b)
    (h : b.addZiChunk owner execAddr size = .ok next) : Filled order setName next := by
  obtain ⟨hfits, rfl⟩ := addZiChunk_eq_ok h
  refine ⟨⟨hb.order_eq, hb.header_eq, hb.queue_eq⟩, hb.sizes_eq, hb.readable, hb.chunks_queued, ?_,
    hb.name_short⟩
  intro c hc
  rcases List.mem_append.mp hc with hold | hnew
  · exact hb.ziChunks_fit c hold
  · rw [List.mem_singleton] at hnew
    exact hnew ▸ hfits

end Filled

namespace Grown

variable {order : ByteOrder} {setName : String} {calls : List Call} {b : Builder}

/-- Every builder that grew by additions is filled. -/
theorem filled (h : Grown order setName calls b) : Filled order (Utf8.encode setName) b := by
  induction h with
  | new h =>
      obtain ⟨rfl, hshort⟩ := named_eq_ok h
      exact Filled.empty hshort
  | chunk _ h ih => exact ih.addChunk h
  | ziChunk _ h ih => exact ih.addZiChunk h

/-- The queue holds what the calls gave, in their order. -/
theorem regions_eq (h : Grown order setName calls b) :
    b.chunks = Call.chunks calls ∧ b.payloads = Call.payloads calls := by
  unfold Call.chunks Call.payloads
  induction h with
  | new h =>
      obtain ⟨rfl, _⟩ := named_eq_ok h
      exact ⟨rfl, rfl⟩
  | @chunk calls b next owner execAddr size crc32 payload _ h ih =>
      obtain ⟨hchunks, hpayloads⟩ := ih
      obtain ⟨queue, hqueue, _, ⟨hzero, rfl⟩ | ⟨hsize, p, rfl, _, _, rfl⟩⟩ := addChunk_eq_ok h
      -- An accepted chunk of size zero has left the builder as it was.
      · have hskipped : Call.region? (.addChunk owner execAddr size crc32 payload) = none := by
          cases payload with
          | none => rfl
          | some p => exact if_pos hzero
        rw [List.filterMap_append, List.filterMap_cons_none hskipped, List.filterMap_nil,
          List.append_nil]
        exact ⟨hchunks, hpayloads⟩
      · have hqueued : Call.region? (.addChunk owner execAddr size crc32 (some p)) =
            some (⟨owner, 0, execAddr, size, crc32⟩, p) := if_neg hsize
        have hold : b.payloads = queue := by simp [payloads, hqueue]
        rw [List.filterMap_append, List.filterMap_cons_some hqueued, List.filterMap_nil,
          List.map_append, List.map_append, ← hchunks, ← hpayloads, hold]
        exact ⟨rfl, rfl⟩
  | ziChunk _ h ih =>
      obtain ⟨_, rfl⟩ := addZiChunk_eq_ok h
      rw [List.filterMap_append, List.filterMap_cons_none rfl, List.filterMap_nil,
        List.append_nil]
      exact ih

theorem ziRegions_eq (h : Grown order setName calls b) : b.ziChunks = Call.ziChunks calls := by
  unfold Call.ziChunks
  induction h with
  | new h =>
      obtain ⟨rfl, _⟩ := named_eq_ok h
      rfl
  | chunk _ h ih =>
      rw [List.filterMap_append, List.filterMap_cons_none rfl, List.filterMap_nil,
        List.append_nil, ← ih]
      obtain ⟨_, _, _, ⟨_, rfl⟩ | ⟨_, _, _, _, _, rfl⟩⟩ := addChunk_eq_ok h
      · rfl
      · rfl
  | ziChunk _ h ih =>
      obtain ⟨_, rfl⟩ := addZiChunk_eq_ok h
      rw [List.filterMap_append, ← ih]
      rfl

end Grown

end Builder

end BootSeal
