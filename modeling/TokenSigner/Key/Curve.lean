import TokenSigner.Bytes

namespace TokenSigner.Curve

abbrev ObjectIdentifier := List Nat

def ObjectIdentifier.dotted (oid : ObjectIdentifier) : String :=
  ".".intercalate (oid.map toString)

def arcs? : (used high : Nat) → Bytes → Option ObjectIdentifier
  | used, _, [] => if used = 0 then some [] else none
  | used, high, b :: rest =>
    if 4 ≤ used ∧ 16 ≤ b then none
    else
      let arc := (high * 128 + b.toNat % 128) % 2 ^ 32
      if b < 128 then (arcs? 0 0 rest).map (arc :: ·) else arcs? (used + 1) arc rest

def contents? : Bytes → Option ObjectIdentifier
  | [] => none
  | b :: rest =>
    if 120 ≤ b then none
    else (arcs? 0 0 rest).map fun arcs => b.toNat / 40 :: b.toNat % 40 :: arcs

def objectIdentifier? : Bytes → Option ObjectIdentifier
  | tag :: length :: contents =>
    if tag = 0x06 ∧ length.toNat = contents.length ∧ 3 ≤ contents.length ∧ contents.length ≤ 39 then
      contents? contents
    else none
  | _ => none

def fieldSizes : List (ObjectIdentifier × Nat) := [
  ([1, 3, 132, 0, 6], 112),
  ([1, 3, 132, 0, 7], 112),
  ([1, 3, 132, 0, 28], 128),
  ([1, 3, 132, 0, 29], 128),
  ([1, 3, 132, 0, 9], 160),
  ([1, 3, 132, 0, 8], 160),
  ([1, 3, 132, 0, 30], 160),
  ([1, 3, 132, 0, 31], 192),
  ([1, 3, 132, 0, 32], 224),
  ([1, 3, 132, 0, 33], 224),
  ([1, 3, 132, 0, 10], 256),
  ([1, 3, 132, 0, 34], 384),
  ([1, 3, 132, 0, 35], 521),
  ([1, 2, 840, 10045, 3, 1, 1], 192),
  ([1, 2, 840, 10045, 3, 1, 2], 192),
  ([1, 2, 840, 10045, 3, 1, 3], 192),
  ([1, 2, 840, 10045, 3, 1, 4], 239),
  ([1, 2, 840, 10045, 3, 1, 5], 239),
  ([1, 2, 840, 10045, 3, 1, 6], 239),
  ([1, 2, 840, 10045, 3, 1, 7], 256),
  ([1, 3, 132, 0, 4], 113),
  ([1, 3, 132, 0, 5], 113),
  ([1, 3, 132, 0, 22], 131),
  ([1, 3, 132, 0, 23], 131),
  ([1, 3, 132, 0, 1], 163),
  ([1, 3, 132, 0, 2], 163),
  ([1, 3, 132, 0, 15], 163),
  ([1, 3, 132, 0, 24], 193),
  ([1, 3, 132, 0, 25], 193),
  ([1, 3, 132, 0, 26], 233),
  ([1, 3, 132, 0, 27], 233),
  ([1, 3, 132, 0, 3], 239),
  ([1, 3, 132, 0, 16], 283),
  ([1, 3, 132, 0, 17], 283),
  ([1, 3, 132, 0, 36], 409),
  ([1, 3, 132, 0, 37], 409),
  ([1, 3, 132, 0, 38], 571),
  ([1, 3, 132, 0, 39], 571),
  ([1, 2, 840, 10045, 3, 0, 1], 163),
  ([1, 2, 840, 10045, 3, 0, 2], 163),
  ([1, 2, 840, 10045, 3, 0, 3], 163),
  ([1, 2, 840, 10045, 3, 0, 4], 176),
  ([1, 2, 840, 10045, 3, 0, 5], 191),
  ([1, 2, 840, 10045, 3, 0, 6], 191),
  ([1, 2, 840, 10045, 3, 0, 7], 191),
  ([1, 2, 840, 10045, 3, 0, 10], 208),
  ([1, 2, 840, 10045, 3, 0, 11], 239),
  ([1, 2, 840, 10045, 3, 0, 12], 239),
  ([1, 2, 840, 10045, 3, 0, 13], 239),
  ([1, 2, 840, 10045, 3, 0, 16], 272),
  ([1, 2, 840, 10045, 3, 0, 17], 304),
  ([1, 2, 840, 10045, 3, 0, 18], 359),
  ([1, 2, 840, 10045, 3, 0, 19], 368),
  ([1, 2, 840, 10045, 3, 0, 20], 431),
  ([2, 23, 43, 1, 4, 1], 113),
  ([2, 23, 43, 1, 4, 3], 163),
  ([2, 23, 43, 1, 4, 4], 113),
  ([2, 23, 43, 1, 4, 5], 163),
  ([2, 23, 43, 1, 4, 6], 112),
  ([2, 23, 43, 1, 4, 7], 160),
  ([2, 23, 43, 1, 4, 8], 112),
  ([2, 23, 43, 1, 4, 9], 160),
  ([2, 23, 43, 1, 4, 10], 233),
  ([2, 23, 43, 1, 4, 11], 233),
  ([2, 23, 43, 1, 4, 12], 224),
  ([1, 3, 36, 3, 3, 2, 8, 1, 1, 1], 160),
  ([1, 3, 36, 3, 3, 2, 8, 1, 1, 2], 160),
  ([1, 3, 36, 3, 3, 2, 8, 1, 1, 3], 192),
  ([1, 3, 36, 3, 3, 2, 8, 1, 1, 4], 192),
  ([1, 3, 36, 3, 3, 2, 8, 1, 1, 5], 224),
  ([1, 3, 36, 3, 3, 2, 8, 1, 1, 6], 224),
  ([1, 3, 36, 3, 3, 2, 8, 1, 1, 7], 256),
  ([1, 3, 36, 3, 3, 2, 8, 1, 1, 8], 256),
  ([1, 3, 36, 3, 3, 2, 8, 1, 1, 9], 320),
  ([1, 3, 36, 3, 3, 2, 8, 1, 1, 10], 320),
  ([1, 3, 36, 3, 3, 2, 8, 1, 1, 11], 384),
  ([1, 3, 36, 3, 3, 2, 8, 1, 1, 12], 384),
  ([1, 3, 36, 3, 3, 2, 8, 1, 1, 13], 512),
  ([1, 3, 36, 3, 3, 2, 8, 1, 1, 14], 512),
  ([1, 2, 156, 10197, 1, 301], 256)]

def fieldSize? (oid : ObjectIdentifier) : Option Nat :=
  fieldSizes.lookup oid

end TokenSigner.Curve
