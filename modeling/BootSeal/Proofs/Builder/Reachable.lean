import BootSeal.Proofs.Builder.Closing
import BootSeal.Proofs.Builder.Interleaving
/-!
# Builders that can be reached

Calls of all kinds are made on a new builder, refused ones included, and the files may be others at each
call. As long as the builder is open, what it holds is what its accepted additions gave: two lists side by
side, one of chunks and one of payloads, and a header that nothing has touched.
-/

namespace BootSeal.Builder

/-- Bytes that are given with a chunk are plain. -/
def Call.IsPlain : Call → Prop
  | .addChunk _ _ _ _ (some p) => p.IsPlain
  | _ => True

/-! ## Plain payloads -/

theorem Call.isPlain_of_mem_payloads {calls : List Call} (h : ∀ call ∈ calls, call.IsPlain) :
    ∀ p ∈ payloads calls, p.IsPlain := by
  intro p hp
  obtain ⟨r, hr, rfl⟩ := List.mem_map.mp hp
  obtain ⟨call, hcall, hregion⟩ := List.mem_filterMap.mp hr
  have hplain := h call hcall
  cases call with
  | addChunk owner execAddr size crc32 payload =>
      cases payload with
      | none => cases hregion
      | some p =>
          rw [region?] at hregion
          split at hregion
          next => cases hregion
          next =>
            cases hregion
            exact hplain
  | addZiChunk | addFile | addHexFile | write | writeWithKeyFile => cases hregion

/-- What is read from files is plain. -/
theorem Call.isPlain_of_mem_parts {call part : Call} {s : Store} (h : call.IsPlain)
    (hpart : part ∈ call.parts s) : part.IsPlain := by
  cases call with
  | addChunk | addZiChunk =>
      cases List.mem_singleton.mp hpart
      exact h
  | addFile owner execAddr path =>
      rw [parts] at hpart
      split at hpart
      next => cases hpart
      next =>
        cases List.mem_singleton.mp hpart
        exact Payload.isPlain_ofBytes _
  | addHexFile owner path =>
      rw [parts] at hpart
      split at hpart
      next => cases hpart
      next =>
        obtain ⟨r, _, rfl⟩ := List.mem_map.mp hpart
        exact Payload.isPlain_ofBytes _
  | write | writeWithKeyFile => cases hpart

theorem Call.not_leavesChunk_of_isPlain {b : Builder} {call : Call} (h : call.IsPlain) :
    ¬call.LeavesChunk b := by
  intro hleaves
  cases hleaves with
  | addChunk _ _ _ _ hunreadable => exact hunreadable h.1

/-! ## Open builders -/

/-- What an open builder holds, by the additions that were accepted. -/
structure Represents (order : ByteOrder) (setName : String) (added : List Call) (b : Builder) :
    Prop where
  order_eq : b.order = order
  header_eq : b.header = { setName := Utf8.encode setName }
  chunks_eq : b.chunks = Call.chunks added
  queue_eq : b.queue = some (Call.payloads added)
  ziChunks_eq : b.ziChunks = Call.ziChunks added
  sizes_eq : List.Forall₂ (fun c p => c.size = p.bytes.length) b.chunks (Call.payloads added)
  chunks_queued : ∀ c ∈ b.chunks, c.Queued
  sentinel_notMem : Chunk.sentinel ∉ b.chunks
  ziChunks_fit : ∀ c ∈ b.ziChunks, c.Fits

/-- The table that an addition is about, by its length. -/
def Call.count (b : Builder) : Call → Nat
  | .addZiChunk .. => b.ziChunks.length
  | _ => b.chunks.length

variable {order : ByteOrder} {setName : String} {added : List Call} {b : Builder}

theorem Grown.represents (hb : Grown order setName added b)
    (hplain : ∀ call ∈ added, call.IsPlain) : Represents order setName added b where
  order_eq := hb.filled.order_eq
  header_eq := hb.filled.header_eq
  chunks_eq := hb.regions_eq.1
  queue_eq := by rw [hb.filled.queue_eq, hb.regions_eq.2]
  ziChunks_eq := hb.ziRegions_eq
  sizes_eq := by
    have hsizes := hb.filled.sizes_eq
    rw [hb.regions_eq.2] at hsizes
    have hcounts : (Call.payloads added).map (fun p => (p.itemCount : Int)) =
        (Call.payloads added).map fun p => (p.bytes.length : Int) :=
      List.map_congr_left fun p hp =>
        congrArg Nat.cast (Call.isPlain_of_mem_payloads hplain p hp).2
    rw [hcounts, ← List.forall₂_eq_eq_eq, List.forall₂_map_left_iff,
      List.forall₂_map_right_iff] at hsizes
    exact hsizes
  chunks_queued := hb.filled.chunks_queued
  sentinel_notMem h := absurd (hb.filled.chunks_queued _ h).size_pos (by decide)
  ziChunks_fit := hb.filled.ziChunks_fit

/-! ## Reached builders -/

section Library

variable [KeyLibrary]

/-- The builders that calls make of a new one, each call on a store of its own, with the additions that
were accepted. -/
inductive Reached (order : ByteOrder) (setName : String) : List Call → Builder → Prop
  | new {b : Builder} (h : named order setName = .ok b) : Reached order setName [] b
  | call {added : List Call} {b : Builder} (hb : Reached order setName added b) (s : Store)
      {call : Call} (hcall : call.IsPlain) :
      Reached order setName (added ++ Bench.additions ⟨b, s⟩ call)
        (Bench.perform ⟨b, s⟩ call).1.builder

/-- Calls one after the other in one store are a way to reach a builder. -/
theorem Reached.performAll {w : Bench} (hb : Reached order setName added w.builder)
    {calls : List Call} (hcalls : ∀ call ∈ calls, call.IsPlain) :
    Reached order setName (added ++ w.history calls) (w.performAll calls).builder := by
  induction calls generalizing w added with
  | nil =>
      rw [Bench.history, List.append_nil]
      exact hb
  | cons call rest ih =>
      obtain ⟨hcall, hrest⟩ := List.forall_mem_cons.mp hcalls
      rw [Bench.history, ← List.append_assoc]
      exact ih (hb.call w.store hcall) hrest

theorem Reached.isPlain (hb : Reached order setName added b) : ∀ call ∈ added, call.IsPlain := by
  induction hb with
  | new => exact List.forall_mem_nil _
  | call _ s hcall ih =>
      refine List.forall_mem_append.mpr ⟨ih, fun part hpart => ?_⟩
      unfold Bench.additions at hpart
      split at hpart
      next => cases hpart
      next => exact Call.isPlain_of_mem_parts hcall hpart

/-- A builder that is open has only been added to. -/
theorem Reached.grown (hb : Reached order setName added b) (hopen : b.queue ≠ none) :
    Grown order setName added b := by
  induction hb with
  | new h => exact .new h
  | @call added b _ s call hcall ih =>
      have hbefore : b.queue ≠ none := by
        intro hclosed
        rw [(Bench.perform_of_closed (w := ⟨b, s⟩) hclosed call).1] at hopen
        exact hopen hclosed
      have hspared : ¬Bench.Spends ⟨b, s⟩ call := fun h => hopen (queue_of_spends h)
      have hkind : call.IsAddition ∨ Bench.Refuses ⟨b, s⟩ call := by
        by_cases hadds : call.IsAddition
        · exact Or.inl hadds
        · exact Or.inr ((Bench.spends_or_refuses ⟨b, s⟩ hadds).resolve_left hspared)
      exact ((ih hbefore).perform (w := ⟨b, s⟩) hkind (Call.not_leavesChunk_of_isPlain hcall)).1

/-- An accepted addition replies how long its table is now. -/
theorem Bench.reply_eq {w : Bench} {call : Call} {reply : Reply} (hkind : call.IsAddition)
    (h : (w.perform call).2 = .ok reply) : reply = .count (call.count (w.perform call).1.builder) := by
  cases call with
  | addChunk | addZiChunk | addFile | addHexFile => exact (queued_of_ok h).2
  | write | writeWithKeyFile => exact hkind.elim

/-- A builder that calls made of a new one, and that is still open, holds a plain payload for each chunk,
in the order in which they were added and with as many bytes as its size says. No chunk is empty, placed,
or like the sentinel, all values fit their fields, and the header is the initial one. An accepted addition
replies the number of entries in its table. -/
theorem open_builder_represents (hb : Reached order setName added b) :
    (b.isWritten = false → Represents order setName added b) ∧
      ∀ s call reply, call.IsAddition → (Bench.perform ⟨b, s⟩ call).2 = .ok reply →
        reply = .count (call.count (Bench.perform ⟨b, s⟩ call).1.builder) := by
  refine ⟨fun hopen => ?_, fun s call reply => Bench.reply_eq⟩
  have hqueue : b.queue ≠ none := by
    intro hclosed
    rw [isWritten, hclosed] at hopen
    cases hopen
  exact (hb.grown hqueue).represents hb.isPlain

end Library

theorem open_builder_represents_two_regions :
    ∃ b, named .big "demo" = .ok b ∧
      (Bench.performAll ⟨b, {}⟩ regionsThenRefused).builder.queue =
        some [.ofBytes [1, 2, 3]] ∧
      (Bench.performAll ⟨b, {}⟩ regionsThenRefused).builder.chunks = [⟨1, 0, 16, 3, 7⟩] := by
  have hnamed : named .big "demo" = .ok (empty .big (Utf8.encode "demo")) := rfl
  have hplain : ∀ call ∈ regionsThenRefused, call.IsPlain := by
    simp [regionsThenRefused, Call.IsPlain, Payload.isPlain_ofBytes]
  have hreached := Reached.performAll (w := ⟨empty .big (Utf8.encode "demo"), {}⟩) (.new hnamed) hplain
  have hrepresents := (open_builder_represents hreached).1 rfl
  exact ⟨_, hnamed, hrepresents.queue_eq, hrepresents.chunks_eq⟩

end BootSeal.Builder
