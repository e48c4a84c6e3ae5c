import BootSeal.Builder.Write
import BootSeal.Proofs.Encoding.Pem
import BootSeal.Proofs.Key.BlockContent
/-!
# When a key file gives no key

If only a passphrase opens the private key of a file, there is no key without one. If it lies open, there is
no key with one: the passphrase is refused where none is needed, so the same file gives its key or none, and
an image is signed with it or not, for what the caller says beside it. This is so of every library that
guards what the files hold.
-/

namespace BootSeal.Key

section Library

variable [KeyLibrary] {content : Bytes → PrivateContent} {s : Store} {path : String} {text : Bytes}

theorem load_plain (hlib : KeyLibrary.Guards content) {d : Nat} (hread : s.read path = .ok text)
    (hd : content text = .plain (.privateValue Curve.p384 d)) (passphrase : Option Bytes) :
    load s path passphrase = .ok (if passphrase = none then some (.signing ⟨d⟩) else none) := by
  rw [load_of_read hread]
  cases passphrase with
  | none =>
      rw [ofFile, KeyFile.material, hlib.privateKey_plain hd, if_pos rfl]
      rfl
  | some p => rw [ofFile_eq_none_iff.mpr (hlib.privateKey_plain_some hd p), if_neg (Option.some_ne_none p)]

theorem writeWithKeyFile_plain (hlib : KeyLibrary.Guards content) {d : Nat}
    (hread : s.read path = .ok text) (hd : content text = .plain (.privateValue Curve.p384 d))
    (img : Builder) (outfile : String) (passphrase : Option Bytes) :
    img.writeWithKeyFile s outfile (some path) passphrase =
      if passphrase = none then img.write s outfile (some (.signing ⟨d⟩))
      else ⟨img, s, [], some (.protectedKey path)⟩ := by
  rw [Builder.writeWithKeyFile, Builder.readKey, load_plain hlib hread hd]
  cases passphrase <;> rfl

/-- Loading ends without a key and without a fault just if the file holds a locked key and the passphrase
is missing or empty, or it holds a key that lies open and there is a passphrase. So of a P-384 key that lies
open there is the same key for every call without a passphrase, and images are signed with it then; with a
passphrase, even an empty one, it is taken for a locked key. -/
theorem load_none_exactly (hlib : KeyLibrary.Guards content) (s : Store) (path : String) :
    (∀ passphrase, load s path passphrase = .ok none ↔
      ∃ text, s.read path = .ok text ∧
        (content text = .locked ∧ (passphrase = none ∨ passphrase = some []) ∨
          (∃ m, content text = .plain m) ∧ passphrase ≠ none)) ∧
    ∀ text d, s.read path = .ok text → content text = .plain (.privateValue Curve.p384 d) →
      ∀ passphrase,
        load s path passphrase =
            .ok (if passphrase = none then some (.signing ⟨d⟩) else none) ∧
          ∀ (img : Builder) (outfile : String),
            img.writeWithKeyFile s outfile (some path) passphrase =
              if passphrase = none then img.write s outfile (some (.signing ⟨d⟩))
              else ⟨img, s, [], some (.protectedKey path)⟩ :=
  ⟨fun _ => load_eq_none_iff hlib, fun _ _ hread hd passphrase =>
    ⟨load_plain hlib hread hd passphrase,
      fun img outfile => writeWithKeyFile_plain hlib hread hd img outfile passphrase⟩⟩

end Library

/-- A P-384 private key with the value one, open to everyone: the algorithm, and behind it the version and
the 48 bytes of the value. -/
def openBlock : Pem.Block where
  label := "PRIVATE KEY"
  headers := []
  data := [0x30, 0x4E, 2, 1, 0, 0x30, 0x10, 6, 7, 0x2A, 0x86, 0x48, 0xCE, 0x3D, 2, 1, 6, 5, 0x2B, 0x81,
    4, 0, 0x22, 4, 0x37, 0x30, 0x35, 2, 1, 1, 4, 0x30] ++ Bytes.zeros 47 ++ [1]

def oneFile (content : Bytes) : Store where
  files := [(["key.pem"], content)]

theorem read_oneFile (content : Bytes) : (oneFile content).read "key.pem" = .ok content := by cbv

def openFile : Bytes := Utf8.encode (Pem.render openBlock.label openBlock.data)

theorem content_openFile : KeyFile.content openFile = .plain (.privateValue Curve.p384 1) := by
  have hlabel : Pem.IsLabel openBlock.label := ⟨by decide, by simp [openBlock, Utf8.IsAscii], by decide⟩
  have hblock : KeyFile.privateBlock? openFile = some openBlock := by
    rw [KeyFile.privateBlock?, openFile, ← Pem.mark, Pem.blocks?_render _ hlabel]
    rfl
  rw [KeyFile.content, hblock]
  rfl

theorem load_openFile (passphrase : Option Bytes) :
    load (oneFile openFile) "key.pem" passphrase =
      .ok (if passphrase = none then some (.signing ⟨1⟩) else none) :=
  load_plain KeyLibrary.guards_standard (read_oneFile openFile) content_openFile passphrase

theorem load_none_exactly_openFile :
    KeyLibrary.Guards KeyFile.content ∧
      (oneFile openFile).read "key.pem" = .ok openFile ∧
      KeyFile.content openFile = .plain (.privateValue Curve.p384 1) ∧
      load (oneFile openFile) "key.pem" none = .ok (some (.signing ⟨1⟩)) ∧
      (Builder.empty .little []).writeWithKeyFile (oneFile openFile) "out" (some "key.pem") none =
        (Builder.empty .little []).write (oneFile openFile) "out" (some (.signing ⟨1⟩)) := by
  obtain ⟨hload, hwrite⟩ := (load_none_exactly KeyLibrary.guards_standard (oneFile openFile) "key.pem").2
    openFile 1 (read_oneFile openFile) content_openFile none
  have hsigned := hwrite (Builder.empty .little []) "out"
  rw [if_pos rfl] at hload hsigned
  exact ⟨KeyLibrary.guards_standard, read_oneFile openFile, content_openFile, hload, hsigned⟩

/-- A passphrase is given for a key that needs none. There is no key then, and nothing is signed. -/
theorem load_refuses_open_key :
    (oneFile openFile).read "key.pem" = .ok openFile ∧
      KeyFile.content openFile = .plain (.privateValue Curve.p384 1) ∧
      load (oneFile openFile) "key.pem" none = .ok (some (.signing ⟨1⟩)) ∧
      load (oneFile openFile) "key.pem" (some (Utf8.encode "secret")) = .ok none ∧
      (Builder.empty .little []).writeWithKeyFile (oneFile openFile) "out" (some "key.pem")
          (some (Utf8.encode "secret")) =
        ⟨Builder.empty .little [], oneFile openFile, [], some (.protectedKey "key.pem")⟩ := by
  refine ⟨read_oneFile openFile, content_openFile, ?_, ?_, ?_⟩
  · rw [load_openFile, if_pos rfl]
  · rw [load_openFile, if_neg (Option.some_ne_none _)]
  · rw [writeWithKeyFile_plain KeyLibrary.guards_standard (read_oneFile openFile) content_openFile,
      if_neg (Option.some_ne_none _)]

end BootSeal.Key
