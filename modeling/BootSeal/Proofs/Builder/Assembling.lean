import BootSeal.Proofs.Builder.Interleaving
import BootSeal.Proofs.Builder.SignedAcceptance
import BootSeal.Proofs.Image.Contents
import BootSeal.Proofs.IntelHex.Segment
/-!
# Images of what files hold

Additions read regions from files: a raw file is one region, or none if it is empty, and an Intel HEX file
is its segments. A builder that such additions made writes the image that contains these regions, so the
file depends on the regions alone, and on the key only in its signature block.
-/

namespace BootSeal.Builder

open Bytes

variable {s : Store}

/-! ## Regions that are added -/

namespace Addition

/-- The regions that are read for an addition. -/
def sources (s : Store) : Addition → List Source
  | .file owner execAddr path =>
      match readInput s path with
      | .error _ => []
      | .ok content => if content = [] then [] else [⟨owner, execAddr, content⟩]
  | .hexFile owner path =>
      match readRuns s path with
      | .error _ => []
      | .ok runs => runs.map fun r => ⟨owner, r.start, r.bytes⟩
  | .ziChunk .. => []

def ziRegions : Addition → List ZiChunk
  | .ziChunk owner execAddr size => [⟨owner, execAddr, size⟩]
  | _ => []

/-- All that is read for an addition could be read. -/
def IsRead (s : Store) : Addition → Prop
  | .file _ _ path => ∃ content, s.read path = .ok content
  | .hexFile _ path => ∃ content m, s.read path = .ok content ∧ IntelHex.read content = .ok m
  | .ziChunk .. => True

/-- Plain bytes are queued as their region, unless there are none. -/
theorem region?_ofBytes (owner execAddr : Int) (content : Bytes) :
    (Call.ofBytes owner execAddr content).region? =
      if content = [] then none
      else some ((⟨owner, execAddr, content⟩ : Source).chunk, .ofBytes content) := by
  rw [Call.ofBytes, Call.region?]
  by_cases hempty : content = []
  · rw [if_pos hempty, if_pos (by simp [hempty])]
  · rw [if_neg hempty, if_neg (by simpa using hempty)]
    rfl

theorem filterMap_region?_parts (s : Store) (a : Addition) :
    (a.call.parts s).filterMap Call.region? =
      (a.sources s).map fun r => (r.chunk, .ofBytes r.content) := by
  cases a with
  | file owner execAddr path =>
      rw [call, Call.parts, sources]
      cases readInput s path with
      | error e => rfl
      | ok content =>
          dsimp only
          rw [List.filterMap_cons, List.filterMap_nil, region?_ofBytes]
          by_cases hempty : content = []
          · rw [if_pos hempty, if_pos hempty]
            rfl
          · rw [if_neg hempty, if_neg hempty]
            rfl
  | hexFile owner path =>
      rw [call, Call.parts, sources]
      cases hread : readRuns s path with
      | error e => rfl
      | ok runs =>
          obtain ⟨content, m, _, _, rfl⟩ := readRuns_eq_ok_iff.mp hread
          dsimp only
          rw [List.filterMap_map, List.map_map, List.filterMap_eq_map_iff_forall_eq_some]
          intro r hr
          -- No run is empty.
          have hne := (AddressMap.segmented_runs m).bytes_ne_nil r hr
          rw [Function.comp_apply, region?_ofBytes, if_neg hne]
          rfl
  | ziChunk owner execAddr size => rfl

theorem filterMap_ziRegion?_parts (s : Store) (a : Addition) :
    (a.call.parts s).filterMap Call.ziRegion? = a.ziRegions := by
  cases a with
  | file owner execAddr path =>
      rw [call, Call.parts]
      cases readInput s path <;> rfl
  | hexFile owner path =>
      rw [call, Call.parts]
      cases readRuns s path with
      | error e => rfl
      | ok runs => simp [Call.ofBytes, Call.ziRegion?, ziRegions]
  | ziChunk owner execAddr size => rfl

end Addition

/-- The calls for additions. -/
def Call.ofAdditions (s : Store) (additions : List Addition) : List Call :=
  additions.flatMap fun a => a.call.parts s

section Additions

variable (s) (additions : List Addition)

theorem filterMap_region?_ofAdditions :
    (Call.ofAdditions s additions).filterMap Call.region? =
      (additions.flatMap (Addition.sources s)).map fun r => (r.chunk, .ofBytes r.content) := by
  rw [Call.ofAdditions, List.filterMap_flatMap, List.map_flatMap]
  simp only [Addition.filterMap_region?_parts]

theorem chunks_ofAdditions :
    Call.chunks (Call.ofAdditions s additions) =
      (additions.flatMap (Addition.sources s)).map Source.chunk := by
  rw [Call.chunks, filterMap_region?_ofAdditions, List.map_map]
  rfl

theorem payloads_ofAdditions :
    Call.payloads (Call.ofAdditions s additions) =
      (additions.flatMap (Addition.sources s)).map fun r => .ofBytes r.content := by
  rw [Call.payloads, filterMap_region?_ofAdditions, List.map_map]
  rfl

theorem blobs_ofAdditions :
    Call.blobs (Call.ofAdditions s additions) =
      (additions.flatMap (Addition.sources s)).map Source.content := by
  rw [Call.blobs, payloads_ofAdditions, List.map_map]
  rfl

theorem ziChunks_ofAdditions :
    Call.ziChunks (Call.ofAdditions s additions) = additions.flatMap Addition.ziRegions := by
  rw [Call.ziChunks, Call.ofAdditions, List.filterMap_flatMap]
  simp only [Addition.filterMap_ziRegion?_parts]

theorem isPlain_ofAdditions : ∀ p ∈ Call.payloads (Call.ofAdditions s additions), p.IsPlain := by
  rw [payloads_ofAdditions]
  intro p hp
  obtain ⟨r, _, rfl⟩ := List.mem_map.mp hp
  exact Payload.isPlain_ofBytes r.content

end Additions

/-- What was added was read. -/
theorem isRead_of_add {b next : Builder} {a : Addition} (h : b.add s a = .ok next) : a.IsRead s := by
  cases a with
  | file owner execAddr path =>
      obtain ⟨content, hread, _⟩ := addFile_eq_ok h
      exact ⟨content, readInput_eq_ok_iff.mp hread⟩
  | hexFile owner path =>
      obtain ⟨hrefusal, _⟩ := Attempt.outcome_eq_ok_iff.mp h
      obtain ⟨runs, hread, _⟩ := queueHexFile_of_refusal_eq_none hrefusal
      obtain ⟨content, m, hcontent, hmap, _⟩ := readRuns_eq_ok_iff.mp hread
      exact ⟨content, m, hcontent, hmap⟩
  | ziChunk owner execAddr size => trivial

theorem isRead_of_addAll {b next : Builder} {additions : List Addition}
    (h : b.addAll s additions = .ok next) : ∀ a ∈ additions, a.IsRead s := by
  induction additions generalizing b with
  | nil => exact List.forall_mem_nil _
  | cons a rest ih =>
      rw [addAll] at h
      split at h
      next => cases h
      next hadded => exact List.forall_mem_cons.mpr ⟨isRead_of_add hadded, ih h⟩

/-! ## The file that is written -/

variable {order : ByteOrder} {setName : String} {calls : List Call} {b : Builder} {path : String}
  {key : Option Key}

theorem store_of_write_sink [KeyLibrary] (h : s.target path = .ok .sink) :
    (b.write s path key).store = s := by
  unfold write
  split
  next => rfl
  next =>
    rw [h]
    rfl

/-- A writing that goes through, and not to the device that holds nothing, has an ordinary file for its
output. -/
theorem exists_route_of_write [KeyLibrary] (h : (b.write s path key).error = none)
    (hsink : s.target path ≠ .ok .sink) : ∃ route, s.target path = .ok (.regular route) := by
  unfold write at h
  split at h
  next => cases h
  next =>
    cases htarget : s.target path with
    | error e =>
        rw [htarget] at h
        cases h
    | ok target =>
        rw [htarget] at h
        cases target with
        | regular route => exact ⟨route, rfl⟩
        | sink => exact absurd htarget hsink
        | full => cases h

/-- The file of a writing that goes through is the planned one, with a signature block if there is a
key. -/
theorem Grown.exists_file [KeyLibrary] (hb : Grown order setName calls b)
    (hpayloads : ∀ p ∈ Call.payloads calls, p.IsPlain) (hsink : s.target path ≠ .ok .sink)
    (h : (b.write s path key).error = none) :
    Call.Plain calls ∧ ∃ digest signature,
      (b.write s path key).store.read path =
        .ok (((plannedImage order setName calls).withBlock digest signature).encode
          (Call.blobs calls)) ∧
      (key = none → digest = zeros 48 ∧ signature = zeros 96) := by
  obtain ⟨signer, hsigner⟩ := exists_signer_of_write h
  obtain ⟨route, htarget⟩ := exists_route_of_write h hsink
  have hplain := hb.plain_of_write hpayloads hsigner htarget h
  refine ⟨hplain, ?_⟩
  cases key with
  | none =>
      refine ⟨zeros 48, zeros 96, ?_, fun _ => ⟨rfl, rfl⟩⟩
      rw [(hb.write_eq hplain htarget).2.1]
      exact Store.read_putFile htarget _
  | some key =>
      cases key with
      | signing k =>
          let img := signedImage order setName calls k
          refine ⟨img.header.digest, img.header.signature, ?_,
            fun hnone => absurd hnone (Option.some_ne_none _)⟩
          rw [(hb.write_signing_ok hplain htarget).2.1]
          exact Store.read_putFile htarget _
      | verifying k => cases hsigner

/-- The file that is to be written for regions when there is no key. -/
def assembledFile (order : ByteOrder) (setName : String) (sources : List Source)
    (ziChunks : List ZiChunk) : Bytes :=
  (Image.canonical order (Utf8.encode setName) (sources.map Source.chunk) ziChunks).encode
    (sources.map Source.content)

/-- The file of a builder that additions made contains the regions that were read for them. It is
determined by these regions, but for its signature block. -/
theorem Grown.assembled [KeyLibrary] {additions : List Addition}
    (hb : Grown order setName (Call.ofAdditions s additions) b) {s' : Store}
    (hsink : s'.target path ≠ .ok .sink) (h : (b.write s' path key).error = none) :
    let sources := additions.flatMap (Addition.sources s)
    let ziChunks := additions.flatMap Addition.ziRegions
    ∃ file, (b.write s' path key).store.read path = .ok file ∧ headerSize ≤ file.length ∧
      Image.Contains order file sources ziChunks ∧
      Image.unsigned file = assembledFile order setName sources ziChunks ∧
      (key = none → file = assembledFile order setName sources ziChunks) := by
  intro sources ziChunks
  obtain ⟨hplain, digest, signature, hread, hnone⟩ :=
    hb.exists_file (isPlain_ofAdditions s additions) hsink h
  have hstorable : ((plannedImage order setName (Call.ofAdditions s additions)).withBlock digest
      signature).Storable (Call.blobs (Call.ofAdditions s additions)) := (hb.storable hplain).withBlock
  rw [plannedImage, chunks_ofAdditions, ziChunks_ofAdditions, blobs_ofAdditions] at hread hstorable
  refine ⟨_, hread, Image.headerSize_le_length_encode _ _, Image.contains_canonical rfl hstorable,
    Image.unsigned_encode_withBlock rfl rfl, ?_⟩
  intro hkey
  obtain ⟨rfl, rfl⟩ := hnone hkey
  rfl

end BootSeal.Builder
