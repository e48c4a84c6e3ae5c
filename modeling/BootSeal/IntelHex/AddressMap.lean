import BootSeal.Bytes.Basic
import Std.Data.TreeMap
/-!
# Address maps

A file gives every address at most one byte. The used addresses make segments, and the bytes of each
segment are a run; the runs, in ascending order, are what is loaded as chunks.
-/

namespace BootSeal

/-- The bytes at the addresses that are used. -/
abbrev AddressMap := Std.TreeMap Nat UInt8

structure Run where
  start : Nat
  bytes : Bytes
deriving DecidableEq, Repr

namespace AddressMap

/-- Puts a byte in front of the runs at higher addresses. -/
def consRun (address : Nat) (b : UInt8) : List Run → List Run
  | [] => [⟨address, [b]⟩]
  | r :: rest =>
      if r.start = address + 1 then ⟨address, b :: r.bytes⟩ :: rest
      else ⟨address, [b]⟩ :: r :: rest

def runsOfList (entries : List (Nat × UInt8)) : List Run :=
  entries.foldr (fun e rest => consRun e.1 e.2 rest) []

/-- The maximal runs of a map, by ascending address. -/
def runs (m : AddressMap) : List Run := runsOfList m.toList

/-- Puts an address in front of the segments at higher addresses. A segment is given by its first
address and the one behind its last. -/
def consSegment (address : Nat) : List (Nat × Nat) → List (Nat × Nat)
  | [] => [(address, address + 1)]
  | (start, stop) :: rest =>
      if start = address + 1 then (address, stop) :: rest
      else (address, address + 1) :: (start, stop) :: rest

/-- The segments of the used addresses, in ascending order. -/
def segments (m : AddressMap) : List (Nat × Nat) :=
  m.toList.foldr (fun e rest => consSegment e.1 rest) []

/-- What stands at the addresses from one up to another, that one included. At an address that is not
used this is the filler. -/
def window (m : AddressMap) (first last : Nat) : Bytes :=
  (List.range' first (last + 1 - first)).map fun address => m.getD address 255

/-- Puts bytes at consecutive addresses; the first address that is already used is refused. -/
def insertAll (m : AddressMap) : Nat → Bytes → Except Nat AddressMap
  | _, [] => .ok m
  | address, b :: rest =>
      if m.contains address then .error address
      else insertAll (m.insert address b) (address + 1) rest

end AddressMap

end BootSeal
