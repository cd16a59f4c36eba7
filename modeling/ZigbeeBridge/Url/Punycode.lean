/-!
Punycode: a text written in ASCII letters and digits. Its ASCII characters come first, then, after
a hyphen, the others in increasing order, each by its distance from the one before it.
-/
namespace ZigbeeBridge.Url.Punycode

/-- `a` to `z`, then `0` to `9`. -/
def digit (d : Nat) : Char := if d < 26 then Char.ofNat (97 + d) else Char.ofNat (22 + d)

def digitValue? (c : Char) : Option Nat :=
  if 'a' ≤ c ∧ c ≤ 'z' then some (c.toNat - 97)
  else if 'A' ≤ c ∧ c ≤ 'Z' then some (c.toNat - 65)
  else if '0' ≤ c ∧ c ≤ '9' then some (c.toNat - 22)
  else none

/-- The least value of a digit, `k` in, that is followed by another. -/
def threshold (bias k : Nat) : Nat := max 1 (min 26 (k - bias))

theorem threshold_bounds (bias k : Nat) : 1 ≤ threshold bias k ∧ threshold bias k ≤ 26 := by
  unfold threshold
  omega

def shrink (delta k : Nat) : Nat :=
  if 455 < delta then shrink (delta / 35) (k + 36) else k + 36 * delta / (delta + 38)
termination_by delta

/-- The bias after a distance; `count` characters are placed with it. -/
def adapt (delta count : Nat) (first : Bool) : Nat :=
  let d := if first then delta / 700 else delta / 2
  shrink (d + d / count) 0

/-- The digits of a distance. -/
def digits (bias k delta : Nat) : List Char :=
  let t := threshold bias k
  if delta < t then [digit delta]
  else digit (t + (delta - t) % (36 - t)) :: digits bias (k + 36) ((delta - t) / (36 - t))
termination_by delta
decreasing_by
  have := threshold_bounds bias k
  exact Nat.lt_of_le_of_lt (Nat.div_le_self _ _) (by omega)

structure Writing where
  written : List Char
  delta : Nat
  bias : Nat
  count : Nat

/-- Passes one character of the text while those equal to `n` are written. -/
def pass (basics n : Nat) (w : Writing) (c : Char) : Writing :=
  if c.toNat < n then { w with delta := w.delta + 1 }
  else if c.toNat = n then
    ⟨w.written ++ digits w.bias 36 w.delta, 0, adapt w.delta (w.count + 1) (w.count == basics),
      w.count + 1⟩
  else w

/-- Writes the characters of the list, which are in increasing order and from `n` up. -/
def writeAll (text : List Char) (basics : Nat) : Nat → Writing → List Nat → Writing
  | _, w, [] => w
  | n, w, m :: ms =>
    let w := { w with delta := w.delta + (m - n) * (w.count + 1) }
    let w := text.foldl (pass basics m) w
    writeAll text basics (m + 1) { w with delta := w.delta + 1 } ms

def insertNew (n : Nat) : List Nat → List Nat
  | [] => [n]
  | m :: ms => if n < m then n :: m :: ms else if n = m then m :: ms else m :: insertNew n ms

def encode (text : List Char) : List Char :=
  let basic := text.filter (·.toNat < 0x80)
  let others := (text.filter (0x80 ≤ ·.toNat)).foldr (fun c ns => insertNew c.toNat ns) []
  let w := writeAll text basic.length 0x80 ⟨[], 0, 72, basic.length⟩ others
  basic ++ (if basic.isEmpty then [] else ['-']) ++ w.written

/-- Reads one distance. -/
def distance? (bias : Nat) : List Char → (k weight n : Nat) → Option (Nat × List Char)
  | [], _, _, _ => none
  | c :: cs, k, weight, n => do
    let d ← digitValue? c
    let t := threshold bias k
    if d < t then some (n + d * weight, cs)
    else distance? bias cs (k + 36) (weight * (36 - t)) (n + d * weight)

/-- Places characters until the digits are used up; each distance takes at least one. -/
def readAll : Nat → (text : List Char) → (n i bias : Nat) → (first : Bool) → List Char →
    Option (List Char)
  | _, text, _, _, _, _, [] => some text
  | 0, _, _, _, _, _, _ => none
  | fuel + 1, text, n, i, bias, first, cs => do
    let (delta, rest) ← distance? bias cs 36 1 0
    let count := text.length + 1
    let n := n + (i + delta) / count
    let place := (i + delta) % count
    if h : n.isValidChar then
      let text := text.insertIdx place (Char.ofNatAux n h)
      readAll fuel text n (place + 1) (adapt delta count first) false rest
    else none

def decode? (text : List Char) : Option (List Char) :=
  let reversed := text.reverse
  let tail := (reversed.takeWhile (· ≠ '-')).reverse
  let basic := ((reversed.dropWhile (· ≠ '-')).drop 1).reverse
  if basic.all (·.toNat < 0x80) then readAll tail.length basic 0x80 0 72 true tail else none

end ZigbeeBridge.Url.Punycode
