/-
  PrinterFirmware.Ascending
  ─────────────────────────
  **ASCENDING LISTS.**

  Sets are kept as strictly ascending lists and finite maps as lists of entries
  with strictly ascending keys, so that equal contents are equal values and the
  order in which things were put in leaves no trace.
-/

namespace PrinterFirmware.Ascending

variable {κ : Type} {ν : Type} [LT κ] [DecidableLT κ] [DecidableEq κ]

/-- The set with one more element. -/
def add (k : κ) : List κ → List κ
  | [] => [k]
  | x :: rest =>
      if k < x then k :: x :: rest
      else if k = x then x :: rest
      else x :: add k rest

/-- The map in which `k` has the value `v`, whatever it had before. -/
def put (k : κ) (v : ν) : List (κ × ν) → List (κ × ν)
  | [] => [(k, v)]
  | e :: rest =>
      if k < e.1 then (k, v) :: e :: rest
      else if k = e.1 then (k, v) :: rest
      else e :: put k v rest

/-- The set of the elements of a list. -/
def setOf (ks : List κ) : List κ := ks.foldl (fun s k => add k s) []

/-- The map of a list of entries; of two entries with one key the later one
counts. -/
def mapOf (entries : List (κ × ν)) : List (κ × ν) :=
  entries.foldl (fun m e => put e.1 e.2 m) []

end PrinterFirmware.Ascending
