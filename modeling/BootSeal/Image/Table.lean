import BootSeal.Image.Descriptor
/-!
# Tables that end in a sentinel

A table is its entries in order and the sentinel behind them. Reading goes slot by slot until the
sentinel; a slot that would pass the end of the table's region is never looked at.
-/

namespace BootSeal.Table

variable {α : Type}

def encode (f : RecordFormat α) (order : ByteOrder) (entries : List α) : Bytes :=
  (entries ++ [f.sentinel]).flatMap (f.encode order)

/-- The region ends before a sentinel: the offset of the slot that does not fit. -/
structure Unterminated where
  offset : Nat
deriving DecidableEq, Repr

/-- The entries in front of the first sentinel; `rest` is what the file holds from `offset` on, and
the region ends at `stop`. -/
def readEntries (f : RecordFormat α) [DecidableEq α] (order : ByteOrder) (rest : Bytes)
    (offset stop : Nat) : Except Unterminated (List α) :=
  if _ : offset + f.size ≤ stop then
    let entry := f.decode order (rest.take f.size)
    if entry = f.sentinel then .ok []
    else
      match readEntries f order (rest.drop f.size) (offset + f.size) stop with
      | .ok entries => .ok (entry :: entries)
      | .error e => .error e
  else .error ⟨offset⟩
termination_by stop - offset
decreasing_by have := f.size_pos; omega

/-- The entries of the table at `offset` in a file, in a region that ends at `stop`. -/
def read (f : RecordFormat α) [DecidableEq α] (order : ByteOrder) (b : Bytes)
    (offset stop : Nat) : Except Unterminated (List α) :=
  readEntries f order (b.drop offset) offset stop

end BootSeal.Table
