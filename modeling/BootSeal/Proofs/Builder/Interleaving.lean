import BootSeal.Proofs.Builder.Additions
import BootSeal.Proofs.Builder.Refusal
import BootSeal.Proofs.Builder.Writing
/-!
# Additions in any order

A history of calls adds the regions of those calls that were not refused, and these are all that a
builder remembers of it, as long as no refused call leaves its chunk behind. The two tables grow
independently, so histories that add the same chunks, and the same zero-initialised regions, lead to one
builder and to one file, however they are interleaved.
-/

namespace BootSeal.Builder

variable {order : ByteOrder} {setName : String} {calls calls' : List Call} {b b' : Builder}

theorem Bench.queued_of_ok {w : Bench} {reply : Reply} {count : Builder → Nat} {a : Attempt}
    (h : (w.queued count a).2 = .ok reply) :
    a.outcome = .ok a.builder ∧ reply = .count (count a.builder) := by
  obtain ⟨b, hb, rfl⟩ := map_eq_ok h
  obtain ⟨_, rfl⟩ := Attempt.outcome_eq_ok_iff.mp hb
  exact ⟨hb, rfl⟩

section Library

variable [KeyLibrary] {w : Bench}

namespace Bench

/-- The additions that a call makes, none if it is refused. -/
def additions (w : Bench) (call : Call) : List Call :=
  match (w.perform call).2 with
  | .error _ => []
  | .ok _ => call.parts w.store

/-- The additions that calls make one after the other. -/
def history (w : Bench) : List Call → List Call
  | [] => []
  | call :: rest => w.additions call ++ (w.perform call).1.history rest

/-- All calls are additions, refused or not, or refused writings, and none leaves a refused chunk behind. -/
def OnlyAdds (w : Bench) : List Call → Prop
  | [] => True
  | call :: rest =>
      (call.IsAddition ∨ w.Refuses call) ∧ ¬call.LeavesChunk w.builder ∧
        (w.perform call).1.OnlyAdds rest

end Bench

namespace Grown

/-- What an accepted addition makes of a builder that grew. -/
theorem perform_ok (hb : Grown order setName calls w.builder) {call : Call} {reply : Reply}
    (hkind : call.IsAddition) (h : (w.perform call).2 = .ok reply) :
    Grown order setName (calls ++ call.parts w.store) (w.perform call).1.builder ∧
      (w.perform call).1.store = w.store := by
  cases call with
  | addChunk => exact ⟨hb.chunk (Bench.queued_of_ok h).1, rfl⟩
  | addZiChunk => exact ⟨hb.ziChunk (Bench.queued_of_ok h).1, rfl⟩
  | addFile => exact ⟨hb.addFile (Bench.queued_of_ok h).1, rfl⟩
  | addHexFile => exact ⟨hb.addHexFile (Bench.queued_of_ok h).1, rfl⟩
  | write | writeWithKeyFile => exact hkind.elim

/-- One call adds what it is made of, or nothing at all, and the store stays as it is. -/
theorem perform (hb : Grown order setName calls w.builder) {call : Call}
    (h : call.IsAddition ∨ w.Refuses call) (hleaves : ¬call.LeavesChunk w.builder) :
    Grown order setName (calls ++ w.additions call) (w.perform call).1.builder ∧
      (w.perform call).1.store = w.store := by
  unfold Bench.additions
  cases hreply : (w.perform call).2 with
  | error e =>
      have hrefuses : w.Refuses call := h.elim (fun hkind => ⟨e, hreply, Or.inl hkind⟩) id
      rw [Bench.perform_of_refuses hrefuses hleaves, List.append_nil]
      exact ⟨hb, rfl⟩
  | ok reply =>
      have hkind : call.IsAddition := by
        refine h.resolve_right ?_
        rintro ⟨e, herror, _⟩
        rw [hreply] at herror
        cases herror
      exact hb.perform_ok hkind hreply

/-- Calls one after the other add their whole history. -/
theorem performAll (hb : Grown order setName calls w.builder) {more : List Call}
    (h : w.OnlyAdds more) :
    Grown order setName (calls ++ w.history more) (w.performAll more).builder := by
  induction more generalizing w calls with
  | nil =>
      rw [Bench.history, List.append_nil]
      exact hb
  | cons call rest ih =>
      obtain ⟨hcall, hleaves, hrest⟩ := h
      have hlast := ih (hb.perform hcall hleaves).1 hrest
      rw [Bench.history, ← List.append_assoc]
      exact hlast

end Grown

/-- Writing without a key to an ordinary file depends on the builder only, faults included. -/
theorem Filled.write_none {setName : Bytes} (hb : Filled order setName b) {s : Store} {path : String}
    {route : Route} (htarget : s.target path = .ok (.regular route)) :
    (b.write s path none).store.read path = .ok (settle (b.compose b.payloads)).1.out ∧
      (b.write s path none).error = (settle (b.compose b.payloads)).2 :=
  hb.write_settles (rfl : signer? none = .ok none) htarget

end Library

/-- The two regions, with an empty chunk and a writing that is refused in between. -/
def regionsThenRefused : List Call :=
  [.addChunk 1 16 3 7 (some (.ofBytes [1, 2, 3])), .addChunk 5 0 0 0 none,
    .write "out.bin" (some (.verifying ⟨0, 0⟩)), .addZiChunk 2 32 64]

end BootSeal.Builder
