import TwoStepLogin.Text.Blank

/-!
# Numeric addresses

* `Address.isNumeric` — whether a host name must be a numeric address;
* `Address.ipv4?` — an address of four bytes, written in one to four parts;
* `Address.ipv6?` — an address of eight groups;
* `Address.ipv4Text`, `Address.ipv6Text` — how they are written.
-/

set_option autoImplicit false

namespace TwoStepLogin.Web.Address

/-- Value of a hexadecimal digit. -/
def hexDigit? (c : Char) : Option Nat :=
  let n := c.toNat
  if 48 ≤ n ∧ n ≤ 57 then some (n - 48)
  else if 65 ≤ n ∧ n ≤ 70 then some (n - 55)
  else if 97 ≤ n ∧ n ≤ 102 then some (n - 87)
  else none

/-- A number in the given base; no digits count as zero. -/
def numberIn? (base : Nat) (cs : List Char) : Option Nat :=
  cs.foldlM (fun n c => (hexDigit? c).bind fun d => if d < base then some (base * n + d) else none) 0

/-- A part of an address: decimal, octal after a zero, or hexadecimal after `0x`. -/
def part? (cs : List Char) : Option Nat :=
  match cs with
  | [] => none
  | '0' :: 'x' :: digits | '0' :: 'X' :: digits => numberIn? 16 digits
  | '0' :: d :: digits => numberIn? 8 (d :: digits)
  | _ => numberIn? 10 cs

/-- The parts of a host name; one dot at the end does not count. -/
def parts (cs : List Char) : List (List Char) :=
  let all := Text.splitOn '.' cs
  match all.reverse with
  | [] :: rest => rest.reverse
  | _ => all

/-- Whether the last part is a number. -/
def isNumeric (cs : List Char) : Bool :=
  match (parts cs).reverse with
  | [] => false
  | last :: _ => (!last.isEmpty && last.all Char.isDigit) || (part? last).isSome

/-- The number of an address of four bytes; the last part fills all bytes that are left. -/
def ipv4? (cs : List Char) : Option Nat := do
  let numbers ← (parts cs).mapM part?
  match numbers.reverse with
  | [] => none
  | last :: rest =>
    if 3 < rest.length ∨ Nat.pow 256 (4 - rest.length) ≤ last ∨ rest.any (255 < ·) then none
    else some ((rest.reverse.zipIdx.foldl (fun n (b, i) => n + b * Nat.pow 256 (3 - i)) 0) + last)

/-- Four bytes in decimal, joined by dots. -/
def ipv4Text (n : Nat) : String :=
  ".".intercalate ([n / 16777216, n / 65536 % 256, n / 256 % 256, n % 256].map toString)

/-- A byte in decimal, without leading zeros. -/
def byte? (cs : List Char) : Option Nat :=
  match cs with
  | [] => none
  | ['0'] => some 0
  | '0' :: _ => none
  | _ =>
    if cs.length ≤ 3 then (numberIn? 10 cs).bind fun n => if n ≤ 255 then some n else none
    else none

/-- Four bytes as two groups. -/
def dotted? (cs : List Char) : Option (List Nat) := do
  match ← (Text.splitOn '.' cs).mapM byte? with
  | [a, b, c, d] => some [a * 256 + b, c * 256 + d]
  | _ => none

/-- One group: up to four hexadecimal digits. -/
def group? (cs : List Char) : Option Nat :=
  if cs.isEmpty ∨ 4 < cs.length then none else numberIn? 16 cs

/-- Groups joined by colons; the last may be four bytes joined by dots, if that is allowed. -/
def groups? (mayEndDotted : Bool) : List (List Char) → Option (List Nat)
  | [] => some []
  | [last] =>
    if mayEndDotted && last.contains '.' then dotted? last else (group? last).map fun n => [n]
  | first :: rest => do
    let n ← group? first
    let ns ← groups? mayEndDotted rest
    some (n :: ns)

/-- The text before and after the first double colon. -/
def splitGap : List Char → Option (List Char × List Char)
  | [] => none
  | ':' :: ':' :: rest => some ([], rest)
  | c :: rest => (splitGap rest).map fun (before, after) => (c :: before, after)

/-- Groups of a side of the double colon, which may be empty. -/
def side? (mayEndDotted : Bool) (cs : List Char) : Option (List Nat) :=
  if cs.isEmpty then some [] else groups? mayEndDotted (Text.splitOn ':' cs)

/-- The eight groups of an address; a double colon stands for one or more groups of zero. -/
def ipv6? (cs : List Char) : Option (List Nat) :=
  match splitGap cs with
  | some (before, after) => do
    let left ← side? false before
    let right ← side? true after
    if left.length + right.length ≤ 7 then
      some (left ++ List.replicate (8 - left.length - right.length) 0 ++ right)
    else none
  | none => do
    let all ← groups? true (Text.splitOn ':' cs)
    if all.length = 8 then some all else none

/-- Length of the run of zeros at the head. -/
def zeroRun (groups : List Nat) : Nat := (groups.takeWhile (· == 0)).length

/-- Position and length of the first of the longest runs of zeros. -/
def longestGap (groups : List Nat) : Nat × Nat :=
  (List.range groups.length).foldl (fun best i =>
    let run := zeroRun (groups.drop i)
    if best.2 < run then (i, run) else best) (0, 0)

/-- Groups in hexadecimal, joined by colons. -/
def groupsText (groups : List Nat) : String :=
  ":".intercalate (groups.map fun n => String.ofList (Nat.toDigits 16 n))

/-- Eight groups; the longest run of two or more zeros is written as a double colon. -/
def ipv6Text (groups : List Nat) : String :=
  let (start, run) := longestGap groups
  if run < 2 then groupsText groups
  else groupsText (groups.take start) ++ "::" ++ groupsText (groups.drop (start + run))

end TwoStepLogin.Web.Address
