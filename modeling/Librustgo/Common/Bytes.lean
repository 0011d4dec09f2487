import Mathlib.Data.List.Basic

/-!
Go byte slices and errors, and go-ethereum's fixed-size byte arrays, as the bindings
use them.

* `Bytes`, `GoError`: a Go `[]byte` (a nil slice and an empty one are the same value
  here) and the Go `error` values the bindings build or pass on.
* `FixedBytes n`: a Go array `[n]byte`, its width carried as a field, so that a value of
  the wrong width cannot be built; `Address` is `common.Address` (20 bytes) and `Hash` is
  `common.Hash` (32 bytes), and `FixedBytes.bytes` is the slice `Bytes()` returns.
* `FixedBytes.setBytes`: go-ethereum's `SetBytes`, which crops its argument from the left
  and writes it into the last bytes of the array; `bytesToAddress` and `bytesToHash` apply
  it to the zero array. `bytes_setBytes_zero` says what they compute on every input:
  left zero padding of the last `n` bytes.
* `setBytes_bytes`: writing the bytes of an array gives that array back, whatever was
  there before; so `bytesToAddress` and `bytesToHash` invert `bytes`, and normalising a
  slice through them twice is normalising it once (`bytesToAddress_bytes_bytesToAddress`).
-/

namespace Librustgo

/-- A Go `[]byte`. -/
abbrev Bytes := List UInt8

/-- A Go `error` as the bindings build one or hand one on. -/
inductive GoError where
  /-- `errors.New(text)`. -/
  | new (text : String)
  /-- `fmt.Errorf("%s", string(msg))`: an error whose text is bytes the enclave wrote. -/
  | errorf (msg : Bytes)
  /-- The `syscall.Errno` cgo reports for a C call that set `errno`. -/
  | errno (code : Nat)
deriving DecidableEq

/-- A Go array `[n]byte`: exactly `n` bytes. -/
structure FixedBytes (n : Nat) where
  toList : Bytes
  length_toList : toList.length = n
deriving DecidableEq

/-- `common.Address`, `[AddressLength]byte` with `AddressLength = 20`. -/
abbrev Address := FixedBytes 20

/-- `common.Hash`, `[HashLength]byte` with `HashLength = 32`; storage keys are hashes. -/
abbrev Hash := FixedBytes 32

namespace FixedBytes

variable {n : Nat}

/-- `Bytes()` of an address or a hash: the slice `h[:]` over all `n` bytes. -/
def bytes (h : FixedBytes n) : Bytes := h.toList

@[simp] lemma length_bytes (h : FixedBytes n) : h.bytes.length = n := h.length_toList

@[ext] lemma ext {h h' : FixedBytes n} (e : h.bytes = h'.bytes) : h = h' := by
  cases h; cases h'; cases e; rfl

/-- The zero value of `[n]byte`. -/
def zero (n : Nat) : FixedBytes n := ⟨List.replicate n 0, List.length_replicate _ _⟩

@[simp] lemma bytes_zero : (zero n).bytes = List.replicate n 0 := rfl

/-- `if len(b) > n { b = b[len(b)-n:] }`: the last `n` bytes of `b`, all of `b` when it
is no longer. -/
def cropLeft (n : Nat) (b : Bytes) : Bytes :=
  if b.length > n then b.drop (b.length - n) else b

lemma cropLeft_eq_drop (b : Bytes) : cropLeft n b = b.drop (b.length - n) := by
  unfold cropLeft
  split
  · rfl
  · rw [Nat.sub_eq_zero_of_le (by omega), List.drop_zero]

@[simp] lemma length_cropLeft (b : Bytes) : (cropLeft n b).length = min b.length n := by
  rw [cropLeft_eq_drop, List.length_drop]
  omega

/-- `SetBytes`: `b`, cropped from the left to at most `n` bytes, is copied into the last
bytes of `h` (`copy(h[n-len(b):], b)`); the first `n - len(b)` bytes of `h` stay. -/
def setBytes (h : FixedBytes n) (b : Bytes) : FixedBytes n :=
  ⟨h.toList.take (n - (cropLeft n b).length) ++ cropLeft n b, by
    simp only [List.length_append, List.length_take, length_cropLeft, h.length_toList]
    omega⟩

lemma bytes_setBytes (h : FixedBytes n) (b : Bytes) :
    (h.setBytes b).bytes = h.bytes.take (n - min b.length n) ++ b.drop (b.length - n) := by
  show h.toList.take (n - (cropLeft n b).length) ++ cropLeft n b = _
  rw [length_cropLeft, cropLeft_eq_drop]
  rfl

/-- What `SetBytes` on the zero array computes, on every input: the last `n` bytes of
`b`, left-padded with zeros to `n` bytes. -/
lemma bytes_setBytes_zero (b : Bytes) :
    ((zero n).setBytes b).bytes = List.replicate (n - b.length) 0 ++ b.drop (b.length - n) := by
  rw [bytes_setBytes, bytes_zero, List.take_replicate]
  congr 2
  omega

example : ((zero 20).setBytes [1, 2]).bytes = List.replicate 18 0 ++ [1, 2] := by decide

/-- A slice of exactly `n` bytes is copied whole, over every byte of `h`. -/
lemma bytes_setBytes_of_length (h : FixedBytes n) {b : Bytes} (hb : b.length = n) :
    (h.setBytes b).bytes = b := by
  simp [bytes_setBytes, hb]

/-- Writing the bytes of an array gives that array back. -/
@[simp] lemma setBytes_bytes (h h' : FixedBytes n) : h.setBytes h'.bytes = h' :=
  ext (bytes_setBytes_of_length h h'.length_bytes)

end FixedBytes

open FixedBytes

/-- `BytesToAddress`: `SetBytes` on the zero address. -/
def bytesToAddress (b : Bytes) : Address := (zero 20).setBytes b

/-- `BytesToHash`: `SetBytes` on the zero hash. -/
def bytesToHash (b : Bytes) : Hash := (zero 32).setBytes b

/-- The address read back from an address's own 20 bytes is that address. -/
@[simp] lemma bytesToAddress_bytes (a : Address) : bytesToAddress a.bytes = a :=
  setBytes_bytes _ a

/-- The hash read back from a hash's own 32 bytes is that hash. -/
@[simp] lemma bytesToHash_bytes (k : Hash) : bytesToHash k.bytes = k :=
  setBytes_bytes _ k

/-- Normalising an address slice is idempotent. -/
lemma bytesToAddress_bytes_bytesToAddress (b : Bytes) :
    bytesToAddress (bytesToAddress b).bytes = bytesToAddress b :=
  bytesToAddress_bytes _

end Librustgo
