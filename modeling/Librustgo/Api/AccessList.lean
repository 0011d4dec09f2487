import Mathlib.Data.List.Forall2
import Librustgo.Common.Bytes

/-!
The access list of a transaction, from go-ethereum's types to the protobuf message the
enclave reads (`convertAccessList`, `convertAccessListStorageSlots` in `internal/api`).

* `AccessTuple`, `AccessList`: `ethtypes.AccessTuple` and `ethtypes.AccessList` (EIP-2930);
  `AccessListItem`: `ffi.AccessListItem`, the same data as raw byte slices.
* `appendRange`: the loop both conversions are written with, a range over the input
  appending one converted element per iteration to the slice built so far;
  `appendRange_eq` is its invariant over a whole run: the slice is the accumulator
  followed by the converted elements, in order.
* `convertAccessListStorageSlots`, `convertAccessList`: the two conversions, each the loop
  from the nil slice, so they are maps (`convertAccessList_eq`).
* `Carries`: an item carries a tuple when its address is the address's 20 bytes and its
  slots are the storage keys' 32 bytes, one for one. `forall₂_carries_convertAccessList`:
  the converted list carries the access list item by item, hence has its length and
  agrees with it at every index (`carries_get`).
* `decodeAccessList`: reading the bytes back with `BytesToAddress` and `BytesToHash`;
  `decodeAccessList_convertAccessList` says it recovers the access list exactly, so the
  conversion loses, duplicates and reorders nothing (`convertAccessList_injective`).
-/

namespace Librustgo

open FixedBytes

/-- `ethtypes.AccessTuple`: an address and the storage keys a transaction declares for
it. -/
structure AccessTuple where
  address : Address
  storageKeys : List Hash
deriving DecidableEq

/-- `ethtypes.AccessList`. -/
abbrev AccessList := List AccessTuple

/-- `ffi.AccessListItem`: the storage slots and the address as byte slices. -/
structure AccessListItem where
  storageSlot : List Bytes
  address : Bytes
deriving DecidableEq

/-! ### The range/append loop -/

/-- `for _, x := range xs { converted = append(converted, f(x)) }`, run from the slice
`converted` built so far. -/
def appendRange {α β : Type} (f : α → β) : List β → List α → List β
  | converted, [] => converted
  | converted, x :: xs => appendRange f (converted ++ [f x]) xs

/-- The loop invariant over a whole run: what the loop has built is the accumulator
followed by the converted elements, in their order. -/
lemma appendRange_eq {α β : Type} (f : α → β) (converted : List β) (xs : List α) :
    appendRange f converted xs = converted ++ xs.map f := by
  induction xs generalizing converted with
  | nil => simp [appendRange]
  | cons x xs ih => simp [appendRange, ih]

/-! ### The two conversions -/

/-- `convertAccessListStorageSlots`: `slot.Bytes()` of every storage key. -/
def convertAccessListStorageSlots (slots : List Hash) : List Bytes :=
  appendRange FixedBytes.bytes [] slots

/-- `convertAccessList`: for every tuple, an item with its converted storage keys and
`item.Address.Bytes()`. -/
def convertAccessList (accessList : AccessList) : List AccessListItem :=
  appendRange (fun item => { storageSlot := convertAccessListStorageSlots item.storageKeys
                             address := item.address.bytes }) [] accessList

@[simp] lemma convertAccessListStorageSlots_eq (slots : List Hash) :
    convertAccessListStorageSlots slots = slots.map FixedBytes.bytes := by
  rw [convertAccessListStorageSlots, appendRange_eq, List.nil_append]

lemma convertAccessList_eq (accessList : AccessList) :
    convertAccessList accessList = accessList.map fun item =>
      { storageSlot := item.storageKeys.map FixedBytes.bytes, address := item.address.bytes } := by
  simp [convertAccessList, appendRange_eq]

@[simp] lemma length_convertAccessList (accessList : AccessList) :
    (convertAccessList accessList).length = accessList.length := by
  simp [convertAccessList_eq]

/-! ### What the enclave receives -/

/-- `item` carries the tuple `t`: its address is the 20 bytes of `t`'s address, and its
slots are the 32 bytes of `t`'s storage keys, as many and in the same order. -/
def Carries (item : AccessListItem) (t : AccessTuple) : Prop :=
  item.address = t.address.bytes ∧
    List.Forall₂ (fun slot key => slot = FixedBytes.bytes key) item.storageSlot t.storageKeys

/-- The converted list carries the access list, item by item. -/
lemma forall₂_carries_convertAccessList (accessList : AccessList) :
    List.Forall₂ Carries (convertAccessList accessList) accessList := by
  rw [convertAccessList_eq, List.forall₂_map_left_iff, List.forall₂_same]
  intro t _
  refine ⟨rfl, ?_⟩
  rw [List.forall₂_map_left_iff, List.forall₂_same]
  exact fun _ _ => rfl

/-- `Carries` at one index: the address, the number of slots and every slot. -/
lemma carries_get {item : AccessListItem} {t : AccessTuple} (h : Carries item t) :
    item.address = t.address.bytes ∧ item.storageSlot.length = t.storageKeys.length ∧
      ∀ j (h₁ : j < item.storageSlot.length) (h₂ : j < t.storageKeys.length),
        item.storageSlot.get ⟨j, h₁⟩ = (t.storageKeys.get ⟨j, h₂⟩).bytes :=
  ⟨h.1, List.forall₂_iff_get.mp h.2⟩

/-- Reading the items back as the enclave's side would: `BytesToAddress` on each address
and `BytesToHash` on each slot. -/
def decodeAccessList (items : List AccessListItem) : AccessList :=
  items.map fun item => ⟨bytesToAddress item.address, item.storageSlot.map bytesToHash⟩

/-- Decoding the converted list gives back the access list exactly. -/
lemma decodeAccessList_convertAccessList (accessList : AccessList) :
    decodeAccessList (convertAccessList accessList) = accessList := by
  simp only [decodeAccessList, convertAccessList_eq, List.map_map]
  exact List.map_id'' (fun t => by simp [Function.comp_def]) accessList

/-- Two access lists are sent as the same items only if they are equal. -/
lemma convertAccessList_injective : Function.Injective convertAccessList :=
  Function.LeftInverse.injective decodeAccessList_convertAccessList

end Librustgo
