/-
  PrinterFirmware.Document.Sequence
  ─────────────────────────────────
  **SEQUENCES OF OBJECTS.**

  A description holds a sequence of objects either as a list or, with a count
  beside it, as the fields `stem0`, `stem1`, … of an object.  Both are walked
  from the first element to the last, and the results are put together to a
  sequence of types.  A list is checked as a whole before the walk begins;
  numbered fields are entered one at a time.

  Bounds are words of 64 bits.  The length of a list is compared with them as a
  word; a count which stands in the description has a sign, so there the bounds are
  read with a sign, too, and bounds from two to the sixty-third on are negative.  A
  negative count within such bounds is walked as the word it is: the walk ends at
  the first field which is missing.
-/
import PrinterFirmware.Document.Cursor
import PrinterFirmware.TypeExpr

namespace PrinterFirmware.Document.Cursor

variable {σ : Type}

/-- Walks over elements, the first of which has index `i`. -/
def walkFrom (f : Cursor → Nat → Walk σ TypeExpr) (i : Nat) :
    List Cursor → Walk σ (List TypeExpr)
  | [] => pure []
  | e :: rest => do
      let result ← f e i
      let results ← walkFrom f (i + 1) rest
      return result :: results

/-- The sequence of the results of `f` on the objects of the list at `key`,
between `min` and `max` of them. -/
def mapList (c : Cursor) (key : String) (min max : Nat) (f : Cursor → Nat → Walk σ TypeExpr) :
    Walk σ TypeExpr := do
  let elems ← c.objects key min max
  let results ← walkFrom f 0 elems
  return .list results

/-- Walks over `count` numbered fields, the first of which has number `i`. -/
def walkNumbered (c : Cursor) (stem : String) (f : Cursor → Nat → Walk σ TypeExpr) (i : Nat) :
    (count : Nat) → Walk σ (List TypeExpr)
  | 0 => pure []
  | count + 1 => do
      let e ← c.enter (stem ++ Numeral.ofNat i)
      let result ← f e i
      let results ← walkNumbered c stem f (i + 1) count
      return result :: results

/-- The sequence of the results of `f` on the numbered fields of the object at
`elemsKey`, whose number stands at `countKey` and is between `min` and `max`, read
with a sign. -/
def mapNumbered (c : Cursor) (countKey elemsKey stem : String) (min max : Nat)
    (f : Cursor → Nat → Walk σ TypeExpr) : Walk σ TypeExpr := do
  let count ← c.int countKey
  if count < signedOfWord min ∨ signedOfWord max < count then
    (c.rejectAt countKey (.countOutOfRange count min max) : Reading TypeExpr)
  else
    let elems ← c.enter elemsKey
    let results ← walkNumbered elems stem f 0 (wordOfSigned count)
    return .list results

end PrinterFirmware.Document.Cursor
