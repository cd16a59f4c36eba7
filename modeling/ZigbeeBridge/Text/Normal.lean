import ZigbeeBridge.Text.NormalTable
import ZigbeeBridge.Text.RangeTable

/-!
Canonical composition (normalization form C): characters fall apart into bases and marks, the marks
of a base are put in the order of their classes, and what composes is composed again.
-/
namespace ZigbeeBridge.Text.Normal

def composites : RangeTable := .ofText NormalTable.composites

def classes : RangeTable := .ofText NormalTable.classes

/-- Zero for a character that is no mark. -/
def markClass (n : Nat) : Nat :=
  if n < 0x300 then 0 else ((classes.find? n).bind (·.target.head?)).getD 0

def isHangul (n : Nat) : Bool := 0xAC00 ≤ n && n ≤ 0xD7A3

def splitHangul (n : Nat) : List Nat :=
  let i := n - 0xAC00
  let front := [0x1100 + i / 588, 0x1161 + i % 588 / 28]
  if i % 28 = 0 then front else front ++ [0x11A7 + i % 28]

/-- Splits off one mark at a time, at most `fuel` of them. -/
def decompose : Nat → Nat → List Nat
  | 0, n => [n]
  | fuel + 1, n =>
    if isHangul n then splitHangul n
    else match (composites.find? n).map (·.target) with
      | some [base, mark] => decompose fuel base ++ [mark]
      | _ => [n]

/-- Puts a mark behind the marks of its class and of those below. -/
def insertMark (n k : Nat) : List (Nat × Nat) → List (Nat × Nat)
  | [] => [(n, k)]
  | (m, j) :: rest => if j ≤ k then (m, j) :: insertMark n k rest else (n, k) :: (m, j) :: rest

/-- Orders each run of marks. -/
def order (run : List (Nat × Nat)) : List Nat → List Nat
  | [] => run.map Prod.fst
  | n :: ns =>
    let k := markClass n
    if k = 0 then run.map Prod.fst ++ n :: order [] ns else order (insertMark n k run) ns

def composeHangul? (a b : Nat) : Option Nat :=
  if 0x1100 ≤ a ∧ a ≤ 0x1112 ∧ 0x1161 ≤ b ∧ b ≤ 0x1175 then
    some (0xAC00 + ((a - 0x1100) * 21 + (b - 0x1161)) * 28)
  else if isHangul a ∧ (a - 0xAC00) % 28 = 0 ∧ 0x11A8 ≤ b ∧ b ≤ 0x11C2 then
    some (a + (b - 0x11A7))
  else none

def compose? (a b : Nat) : Option Nat :=
  match composeHangul? a b with
  | some n => some n
  | none => (List.find? (fun row : RangeRow => row.target = [a, b]) composites).map (·.first)

/-- A base with what stayed between it and the next character, last first. -/
structure Pending where
  base : Nat
  between : List (Nat × Nat)

def Pending.close (o : Pending) : List Nat := o.base :: (o.between.map Prod.fst).reverse

/-- The mark is not cut off from the base by one of its own class or above. -/
def Pending.reaches (o : Pending) (k : Nat) : Bool :=
  match o.between with
  | [] => true
  | (_, j) :: _ => j < k

def compose : Option Pending → List Nat → List Nat
  | none, [] => []
  | some o, [] => o.close
  | none, n :: ns =>
    if markClass n = 0 then compose (some ⟨n, []⟩) ns else n :: compose none ns
  | some o, n :: ns =>
    let k := markClass n
    match if o.reaches k then compose? o.base n else none with
    | some c => compose (some { o with base := c }) ns
    | none =>
      if k = 0 then o.close ++ compose (some ⟨n, []⟩) ns
      else compose (some { o with between := (n, k) :: o.between }) ns

def normalize (cs : List Char) : List Char :=
  (compose none (order [] (cs.flatMap fun c => decompose 8 c.toNat))).map Char.ofNat

end ZigbeeBridge.Text.Normal
