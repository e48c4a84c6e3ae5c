import BootSeal.Proofs.Builder.Interleaving
import BootSeal.Proofs.Builder.Stopping
/-!
# Payloads of the wrong size

A payload has as many items as its chunk is long, but its items need not be bytes. Both tables are in
place before any payload is put out, and the first payload of the wrong size is put out in full: what
is then compared with the layout is the place behind it. So nothing behind that payload is put out,
and what could make up for it is never looked at.
-/

namespace BootSeal

namespace Draft

/-- The payload has as many bytes as its chunk is long. -/
def Sized (r : Chunk × Payload) : Prop := (r.2.bytes.length : Int) = r.1.size

instance (r : Chunk × Payload) : Decidable (Sized r) :=
  inferInstanceAs (Decidable ((r.2.bytes.length : Int) = r.1.size))

/-- A payload as it is put out, with the zeros that would fill up its chunk. -/
def filledPayload (r : Chunk × Payload) : Bytes := r.2.bytes ++ fill r.1.size

/-- The fault of an output that does not end where the next of these chunks is to be, or the image if
there is none. -/
def strayFault (index : Nat) (position : Int) : List Chunk → LayoutFault
  | [] => .imageLength position
  | c :: _ => .blob index position c.loadAddr

/-- A step stops since its place is not that of the layout, and leaves this output. -/
def Strays (step : Step) (f : LayoutFault) (out : Bytes) : Prop :=
  ∃ s, step = .error s ∧ s.error = .layout f ∧ s.draft.out = out

section Strays

variable {step : Step} {next : Draft → Step} {f : LayoutFault} {d : Draft} {h : Header}
  {chunks : List Chunk} {out : Bytes}

theorem Strays.bind (hstep : Strays step f out) : Strays (step >>= next) f out := by
  obtain ⟨s, rfl, herror, hout⟩ := hstep
  exact ⟨s, rfl, herror, hout⟩

theorem Reaches.bind_strays {left : Bytes} (hstep : Reaches step h chunks out)
    (hnext : ∀ d, d.Shows h chunks out → Strays (next d) f left) : Strays (step >>= next) f left := by
  obtain ⟨d, rfl, hd⟩ := hstep
  exact hnext d hd

theorem putBlob_strays (hd : d.Shows h chunks out) (index : Nat) {c : Chunk} (p : Payload)
    (hplace : (out.length : Int) ≠ c.loadAddr) :
    Strays (d.putBlob index c p) (.blob index out.length c.loadAddr) out := by
  obtain ⟨rfl, rfl, rfl⟩ := hd
  have hposition : d.position ≠ c.loadAddr := hplace
  rw [putBlob, if_pos hposition]
  exact ⟨_, rfl, rfl, rfl⟩

theorem endImage_strays (hd : d.Shows h chunks out) {ziChunks : List ZiChunk}
    (hlength : (out.length : Int) ≠
      Layout.imageLength headerSize (chunks.map Chunk.size) ziChunks.length) :
    Strays (d.endImage ziChunks) (.imageLength out.length) out := by
  obtain ⟨rfl, rfl, rfl⟩ := hd
  have hposition : d.position ≠
      Layout.imageLength headerSize (d.chunks.map Chunk.size) ziChunks.length := hlength
  dsimp only [endImage]
  rw [if_pos hposition]
  exact ⟨_, rfl, rfl, rfl⟩

/-- A payload is filled up by as much as its chunk needs, so the output ends where the planner has the
next blob just if the payload has the right size. -/
theorem length_append_filledPayload (out : Bytes) (r : Chunk × Payload) :
    ((out ++ filledPayload r).length : Int) = out.length + Layout.padded r.1.size ↔ Sized r := by
  have hpad := Layout.padding_nonneg r.1.size
  rw [filledPayload, fill, List.length_append, List.length_append, Bytes.length_zeros, Layout.padded,
    Sized]
  omega

/-- The first payload of the wrong size is the last one that is put out. -/
theorem putBlobs_strays (hd : d.Shows h chunks out) (index : Nat) {front rest : List (Chunk × Payload)}
    {r : Chunk × Payload} {ziChunks : List ZiChunk}
    (hplaces : (front ++ r :: rest).map (fun x => x.1.loadAddr) =
      Layout.loadAddressesFrom out.length ((front ++ r :: rest).map fun x => x.1.size))
    (hlength : Layout.imageLength headerSize (chunks.map Chunk.size) ziChunks.length =
      out.length + Layout.blobsLength ((front ++ r :: rest).map fun x => x.1.size))
    (hreadable : ∀ x ∈ front ++ r :: rest, x.2.IsReadable) (hfront : ∀ x ∈ front, Sized x)
    (hmissized : ¬Sized r) :
    Strays (d.putBlobs index (front ++ r :: rest) >>= fun d => d.endImage ziChunks)
      (strayFault (index + front.length + 1) (out ++ (front ++ [r]).flatMap filledPayload).length
        (rest.map Prod.fst))
      (out ++ (front ++ [r]).flatMap filledPayload) := by
  -- As long as the sizes are right, the output grows as the planner's addresses do.
  induction front generalizing d index out with
  | nil =>
      simp only [List.nil_append, List.map_cons, Layout.loadAddressesFrom, Layout.blobsLength,
        List.cons.injEq] at hplaces hlength
      obtain ⟨hplace, hrest⟩ := hplaces
      have hstray := mt (length_append_filledPayload out r).mp hmissized
      simp only [List.nil_append, List.flatMap_cons, List.flatMap_nil, List.append_nil,
        List.length_nil, Nat.add_zero]
      rw [putBlobs_cons, bind_assoc]
      have hr : r.2.IsReadable := hreadable r List.mem_cons_self
      refine (putBlob_reaches hd index hplace.symm hr).bind_strays fun e he => ?_
      cases rest with
      | nil =>
          rw [List.map_nil, Layout.blobsLength, Int.add_zero] at hlength
          exact endImage_strays he (hlength ▸ hstray)
      | cons next rest =>
          simp only [List.map_cons, Layout.loadAddressesFrom, List.cons.injEq] at hrest
          rw [putBlobs_cons]
          exact (putBlob_strays he (index + 1) next.2 (hrest.1 ▸ hstray)).bind.bind
  | cons x front ih =>
      obtain ⟨hsized, htail⟩ := List.forall_mem_cons.mp hfront
      rw [List.cons_append] at hreadable
      obtain ⟨hx, hothers⟩ := List.forall_mem_cons.mp hreadable
      simp only [List.cons_append, List.map_cons, Layout.loadAddressesFrom, Layout.blobsLength,
        List.cons.injEq] at hplaces hlength
      obtain ⟨hplace, hrest⟩ := hplaces
      have hgrown := (length_append_filledPayload out x).mpr hsized
      rw [List.cons_append, putBlobs_cons, bind_assoc]
      refine (putBlob_reaches hd index hplace.symm hx).bind_strays fun e he => ?_
      rw [← Int.add_assoc, ← hgrown] at hlength
      have hleft := ih he (index + 1) (hgrown ▸ hrest) hlength hothers htail
      rw [List.append_assoc] at hleft
      rw [List.length_cons, ← Nat.add_assoc, Nat.add_right_comm index]
      exact hleft

end Strays

theorem exists_first_missized {blobs : List (Chunk × Payload)} (h : ¬∀ x ∈ blobs, Sized x) :
    ∃ front r rest, blobs = front ++ r :: rest ∧ (∀ x ∈ front, Sized x) ∧ ¬Sized r := by
  have hfound : (blobs.find? fun x => ¬Sized x).isSome := by
    rw [List.find?_isSome]
    simpa using h
  obtain ⟨r, hr⟩ := Option.isSome_iff_exists.mp hfound
  obtain ⟨hmissized, front, rest, hsplit, hfront⟩ := List.find?_eq_some_iff_append.mp hr
  exact ⟨front, r, rest, hsplit, fun x hx => by simpa using hfront x hx, by simpa using hmissized⟩

end Draft

namespace Builder

open Draft

section Filled

variable {order : ByteOrder} {setName : Bytes} {b : Builder}

/-- The first writing of all parts, when a payload has the wrong size. -/
theorem layOut_strays (hb : Filled order setName b) (hfits : ∀ c ∈ hb.image.chunks, c.Fits)
    {front rest : List (Chunk × Payload)} {r : Chunk × Payload}
    (hsplit : hb.image.chunks.zip b.payloads = front ++ r :: rest)
    (hfront : ∀ x ∈ front, Sized x) (hmissized : ¬Sized r) :
    Strays (b.layOut b.payloads)
      (strayFault (front.length + 1)
        (tablesOutput order setName hb.image ++ (front ++ [r]).flatMap filledPayload).length
        (rest.map Prod.fst))
      (tablesOutput order setName hb.image ++ (front ++ [r]).flatMap filledPayload) := by
  obtain ⟨d, hd, hlayOut⟩ := layOut_eq_blobs hb hfits
  have hplaces := hb.zip_loadAddrs
  have hlength : Layout.imageLength headerSize (hb.image.chunks.map Chunk.size) b.ziChunks.length =
      (tablesOutput order setName hb.image).length
        + Layout.blobsLength ((hb.image.chunks.zip b.payloads).map fun x => x.1.size) := by
    have hsizes : (hb.image.chunks.zip b.payloads).map (fun x => x.1.size) =
        hb.image.chunks.map Chunk.size := by
      rw [← hb.map_fst_zip, List.map_map, hb.map_fst_zip]
      rfl
    rw [hsizes, length_tablesOutput, Layout.imageLength, List.length_map]
    rfl
  have hreadable := hb.zip_readable
  rw [hsplit] at hplaces hlength hreadable
  have hstrays := putBlobs_strays hd 0 hplaces hlength hreadable hfront hmissized
  rw [Nat.zero_add] at hstrays
  rw [hlayOut, hsplit]
  exact hstrays

/-- A chunk table that does not fit ends the writing before a payload is looked at. -/
theorem layOut_overflows (hb : Filled order setName b) (hmisfit : ¬∀ c ∈ hb.image.chunks, c.Fits)
    (payloads : List Payload) : ∃ s, b.layOut payloads = .error s ∧ s.error = .overflow := by
  obtain ⟨d, hput, hd⟩ := putHeader_blank_reaches hb.toUnwritten
  obtain ⟨s, htable, herror⟩ := putChunkTable_overflows hd order (Header.length_encode order _) hmisfit
  rw [layOut, hb.order_eq, hput]
  change ∃ s, (d.putChunkTable order b.ziChunks >>= _) = .error s ∧ s.error = .overflow
  rw [htable]
  exact ⟨s, rfl, herror⟩

/-- Once all parts are put out, only a value that does not fit the header can stop the writing. -/
theorem overflow_of_layOut_ok {payloads : List Payload} {d : Draft} {s : Stopped}
    (hlayOut : b.layOut payloads = .ok d) (h : b.compose payloads = .error s) :
    s.error = .overflow := by
  unfold compose at h
  rw [hlayOut] at h
  change d.setChecksum b.order >>= _ = _ at h
  unfold setChecksum at h
  split at h
  next =>
    cases h
    rfl
  next =>
    change Draft.putHeader b.order _ = _ at h
    unfold putHeader at h
    dsimp only at h
    split at h
    next =>
      cases h
      rfl
    next => cases h

theorem Filled.isPlain_iff (hb : Filled order setName b) :
    b.IsPlain ↔ ∀ x ∈ hb.image.chunks.zip b.payloads, Sized x := by
  refine ⟨hb.zip_sizes, fun hsized p hp => ?_⟩
  rw [← hb.map_snd_zip] at hp
  obtain ⟨x, hx, rfl⟩ := List.mem_map.mp hp
  have hcount := hb.zip_counts x hx
  have hsize := hsized x hx
  rw [Sized, ← hcount] at hsize
  exact ⟨hb.zip_readable x hx, Int.natCast_inj.mp hsize.symm⟩

/-- A writing gets to its end just if all payloads have the right size and the planned length fits. -/
theorem compose_ok_iff (hb : Filled order setName b) :
    (∃ d, b.compose b.payloads = .ok d) ↔
      b.IsPlain ∧
        Layout.imageLength headerSize (b.chunks.map Chunk.size) b.ziChunks.length < 2 ^ 64 := by
  constructor
  · rintro ⟨d, hcompose⟩
    have hlength := imageLength_of_compose hcompose
    refine ⟨hb.isPlain_iff.mpr ?_, hlength⟩
    by_contra hmissized
    obtain ⟨front, r, rest, hsplit, hfront, hr⟩ := exists_first_missized hmissized
    obtain ⟨s, hstray, _⟩ := layOut_strays hb (hb.image_chunks_fit hlength) hsplit hfront hr
    rw [compose, hstray] at hcompose
    cases hcompose
  · rintro ⟨hplain, hlength⟩
    obtain ⟨d, hcompose, _⟩ := compose_reaches hb hplain hlength
    exact ⟨d, hcompose⟩

/-- It stops for a fault in the layout just if the chunk table fits and some payload has the wrong
size. -/
theorem compose_layout_iff (hb : Filled order setName b) :
    (∃ s f, b.compose b.payloads = .error s ∧ s.error = .layout f) ↔
      ¬b.IsPlain ∧ ∀ c ∈ hb.image.chunks, c.Fits := by
  constructor
  · rintro ⟨s, f, hcompose, hfault⟩
    have hfits : ∀ c ∈ hb.image.chunks, c.Fits := by
      by_contra hmisfit
      obtain ⟨stopped, hlayOut, hover⟩ := layOut_overflows hb hmisfit b.payloads
      rw [compose, hlayOut] at hcompose
      cases hcompose
      rw [hfault] at hover
      cases hover
    refine ⟨fun hplain => ?_, hfits⟩
    obtain ⟨d, hlayOut, _⟩ := layOut_reaches hb hplain hfits
    have hover := overflow_of_layOut_ok hlayOut hcompose
    rw [hfault] at hover
    cases hover
  · rintro ⟨hplain, hfits⟩
    obtain ⟨front, r, rest, hsplit, hfront, hr⟩ := exists_first_missized (mt hb.isPlain_iff.mpr hplain)
    obtain ⟨s, hcompose, hfault, _⟩ := (layOut_strays hb hfits hsplit hfront hr).bind
    exact ⟨s, _, hcompose, hfault⟩

end Filled

variable {order : ByteOrder} {setName : String} {calls : List Call} {b : Builder}

/-- What the planner lays behind the tables: the chunks at their addresses, with their payloads. -/
def plannedBlobs (order : ByteOrder) (setName : String) (calls : List Call) : List (Chunk × Payload) :=
  (plannedImage order setName calls).chunks.zip (Call.payloads calls)

/-- Writing without a key to an ordinary file goes through just if all payloads have the size of their
chunk and the planned length fits the header. As long as the chunk table fits, any payload of another
size stops the writing for a fault in the layout, whatever the others are, and the file then ends with
the first such payload and the zeros that would fill up its chunk, behind the initial header, the two
tables and the payloads in front of it. -/
theorem write_stops_iff_missized [KeyLibrary] (hb : Grown order setName calls b) {s : Store} {path : String}
    {route : Route} (htarget : s.target path = .ok (.regular route)) :
    let img := plannedImage order setName calls
    let blobs := plannedBlobs order setName calls
    let w := b.write s path none
    (w.error = none ↔ (∀ x ∈ blobs, Sized x) ∧ img.header.imageLength < 2 ^ 64) ∧
      ((∃ f, w.error = some (.layout f)) ↔
        (¬∀ x ∈ blobs, Sized x) ∧ ∀ c ∈ img.chunks, c.Fits) ∧
      (img.header.imageLength < 2 ^ 64 → ∀ c ∈ img.chunks, c.Fits) ∧
      ∀ front r rest, blobs = front ++ r :: rest → (∀ x ∈ front, Sized x) → ¬Sized r →
        (∀ c ∈ img.chunks, c.Fits) →
          ∃ file, w.store.read path = .ok file ∧
            file = tablesOutput order (Utf8.encode setName) img
              ++ (front ++ [r]).flatMap filledPayload ∧
            w.error = some (.layout
              (strayFault (front.length + 1) file.length (rest.map Prod.fst))) := by
  intro img blobs w
  obtain ⟨hread, herror⟩ := hb.filled.write_none htarget
  have himage : hb.filled.image = img := hb.image_eq
  have hzip : hb.filled.image.chunks.zip b.payloads = blobs := by
    rw [himage, hb.regions_eq.2]
    rfl
  have hplanned : Layout.imageLength headerSize (b.chunks.map Chunk.size) b.ziChunks.length =
      img.header.imageLength := by
    rw [hb.regions_eq.1, hb.ziRegions_eq]
    rfl
  have hok := compose_ok_iff hb.filled
  have hlayout := compose_layout_iff hb.filled
  have hfit := hb.filled.image_chunks_fit
  rw [hb.filled.isPlain_iff, hzip, hplanned] at hok
  rw [hb.filled.isPlain_iff, hzip, himage] at hlayout
  rw [himage, hplanned] at hfit
  refine ⟨?_, ?_, hfit, ?_⟩
  · rw [← hok, herror, settle_error_eq_none_iff]
  · rw [← hlayout, herror]
    simp only [settle_error_eq_some_iff]
    exact exists_comm
  · intro front r rest hsplit hfront hr hfits
    rw [← himage] at hfits
    obtain ⟨stopped, hcompose, hfault, hout⟩ :=
      (layOut_strays hb.filled hfits (hzip.trans hsplit) hfront hr).bind
    change b.compose b.payloads = _ at hcompose
    rw [hcompose] at hread herror
    rw [himage] at hfault hout
    refine ⟨stopped.draft.out, hread, hout, ?_⟩
    rw [hout]
    exact herror.trans (congrArg some hfault)

/-- Three chunks, of which the second has a byte too many and the third a byte too few. -/
def compensating : List Call :=
  [.addChunk 1 16 3 7 (some (.ofBytes [1, 2, 3])), .addChunk 1 32 2 7 (some ⟨some [4, 5, 6], 2⟩),
    .addChunk 1 48 2 7 (some ⟨some [7], 2⟩), .addZiChunk 2 32 64]

theorem write_stops_iff_missized_compensating :
    ∃ b, Grown .big "demo" compensating b ∧
      (b.write {} "out.bin" none).error = some (.layout (.blob 2 673 672)) ∧
      (b.write {} "out.bin" none).store.read "out.bin" =
        .ok (tablesOutput .big (Utf8.encode "demo") (plannedImage .big "demo" compensating)
          ++ [1, 2, 3, 0, 0, 0, 0, 0] ++ [4, 5, 6, 0, 0, 0, 0, 0, 0]) := by
  have hgrown : ∃ b, Grown .big "demo" compensating b :=
    ⟨_, .ziChunk (.chunk (.chunk (.chunk (.new rfl) rfl) rfl) rfl) rfl⟩
  obtain ⟨b, hb⟩ := hgrown
  obtain ⟨_, _, hfits, hstops⟩ := write_stops_iff_missized hb target_out
  obtain ⟨file, hread, hfile, herror⟩ := hstops
    [(⟨1, 656, 16, 3, 7⟩, .ofBytes [1, 2, 3])] (⟨1, 664, 32, 2, 7⟩, ⟨some [4, 5, 6], 2⟩)
    [(⟨1, 672, 48, 2, 7⟩, ⟨some [7], 2⟩)] rfl (by decide) (by decide) (hfits (by decide))
  have hlength : (file.length : Int) = 673 := by
    rw [hfile, List.length_append, Int.natCast_add, length_tablesOutput]
    rfl
  refine ⟨b, hb, ?_, ?_⟩
  · rw [herror, hlength]
    rfl
  · rw [hread, hfile, List.append_assoc]
    rfl

end Builder

end BootSeal
