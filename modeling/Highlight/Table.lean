/-! Finite tables in insertion order. Overwriting keeps the place and the key of the first write,
while erasing and writing again moves a key to the end. -/
namespace Highlight

abbrev Table (κ : Type u) (ν : Type v) := List (κ × ν)

namespace Table

variable {κ : Type u} {ν : Type v} [BEq κ]

def find? (key : κ) : Table κ ν → Option ν
  | [] => none
  | (k, v) :: rest => if k == key then some v else find? key rest

def put (key : κ) (value : ν) : Table κ ν → Table κ ν
  | [] => [(key, value)]
  | (k, v) :: rest => if k == key then (k, value) :: rest else (k, v) :: put key value rest

def erase (key : κ) (table : Table κ ν) : Table κ ν :=
  table.filter fun entry => !(entry.1 == key)

def has (key : κ) (table : Table κ ν) : Bool := (table.find? key).isSome

def keys (table : Table κ ν) : List κ := table.map (·.1)

/-- Writes the entries one after another. -/
def ofEntries (entries : List (κ × ν)) : Table κ ν :=
  entries.foldl (fun table entry => table.put entry.1 entry.2) []

end Table

end Highlight
