import RemoteDrive.Text.Hex

/-!
# Tables of character properties

A property of characters stays the same over long runs of code points, so a table of it says where
each run starts and what holds from there to the start of the next. The table is written as one
text with a word for each run: a letter that says what holds, and behind it hexadecimal numbers
with dots between them, of which the first is the run's first code point and the others are what
the letter needs. The runs come in increasing order.

A table has thousands of runs, so a character's run is found by halving (`lastAtMost?`). The tables
themselves are data of the Unicode standard, version 17; each is in a module named for its property.
-/

set_option autoImplicit false

namespace RemoteDrive.Text

/-! ## Searching by halves -/

variable {α : Type}

/-- The place of the last entry whose key is at most `n`, of those from `low` on and before `high`;
`low` if there is none. The keys are in increasing order. -/
def placeAtMost (key : α → Nat) (table : Array α) (n low high : Nat) : Nat :=
  if low + 1 < high then
    let middle := (low + high) / 2
    if table[middle]?.any fun x => key x ≤ n then placeAtMost key table n middle high
    else placeAtMost key table n low middle
  else low
termination_by high - low

/-- The last entry whose key is at most `n`. -/
def lastAtMost? (key : α → Nat) (table : Array α) (n : Nat) : Option α :=
  table[placeAtMost key table n 0 table.size]?.filter fun x => key x ≤ n

/-! ## Runs -/

/-- What holds from one code point on. -/
structure Run where
  letter : Char
  start : Nat
  numbers : Array Nat

/-- The number that hexadecimal digits write. -/
def Run.number (digits : List Char) : Nat :=
  digits.foldl (fun n d => 16 * n + (Hex.value? d).getD 0) 0

/-- The run that a word of a table writes. -/
def Run.ofWord? : List Char → Option Run
  | [] => none
  | letter :: rest =>
    match (rest.splitOn '.').map Run.number with
    | [] => none
    | start :: numbers => some ⟨letter, start, numbers.toArray⟩

/-- The runs of a table in increasing order. -/
abbrev RunTable := Array Run

namespace RunTable

/-- The table that a text writes; its words have spaces or line breaks between them. -/
def ofText (text : String) : RunTable :=
  ((text.toList.splitOnP fun c => c = ' ' || c = '\n').filterMap Run.ofWord?).toArray

/-- The run that a character belongs to. -/
def find? (table : RunTable) (c : Char) : Option Run := lastAtMost? Run.start table c.toNat

end RunTable

end RemoteDrive.Text
