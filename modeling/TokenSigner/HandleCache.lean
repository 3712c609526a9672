import TokenSigner.Bytes

namespace TokenSigner

structure HandleCache where
  entries : List (Bytes × UInt64)
  deriving DecidableEq, Repr

namespace HandleCache

def capacity : Nat := 100

def empty : HandleCache := ⟨[]⟩

def remove (cache : HandleCache) (key : Bytes) : HandleCache :=
  ⟨cache.entries.filter (·.1 != key)⟩

def insert (cache : HandleCache) (key : Bytes) (handle : UInt64) : HandleCache :=
  ⟨((key, handle) :: (cache.remove key).entries).take capacity⟩

def get (cache : HandleCache) (key : Bytes) : Option UInt64 × HandleCache :=
  match cache.entries.lookup key with
  | some handle => (some handle, ⟨(key, handle) :: (cache.remove key).entries⟩)
  | none => (none, cache)

@[simp] theorem lookup_insert (cache : HandleCache) (key : Bytes) (handle : UInt64) :
    (cache.insert key handle).entries.lookup key = some handle := by
  simp [insert, capacity]

theorem get_fst (cache : HandleCache) (key : Bytes) :
    (cache.get key).1 = cache.entries.lookup key := by
  unfold get
  split
  · next found => exact found.symm
  · next missing => exact missing.symm

end HandleCache

end TokenSigner
