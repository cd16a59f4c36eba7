import ZigbeeBridge.Url.Ipv4

/-!
IPv6 addresses: eight pieces of up to four hexadecimal digits, one run of zero pieces compressed,
the last two pieces possibly in dotted decimal form. They are written with the longest run of at
least two zero pieces compressed, the first of equal ones.
-/
namespace ZigbeeBridge.Url.Ipv6

/-- Pieces before and after the compressed run. -/
structure Draft where
  front : List UInt16
  compressed : Bool
  back : List UInt16

/-- The compressed run counts for one piece. -/
def Draft.size (p : Draft) : Nat :=
  p.front.length + (if p.compressed then 1 else 0) + p.back.length

def Draft.add (p : Draft) (piece : UInt16) : Draft :=
  if p.compressed then { p with back := p.back ++ [piece] }
  else { p with front := p.front ++ [piece] }

/-- All eight pieces. -/
def Draft.finish (p : Draft) : Except Flaw (List UInt16) :=
  if p.compressed then .ok (p.front ++ List.replicate (9 - p.size) 0 ++ p.back)
  else if p.size = 8 then .ok p.front
  else .error .badIpv6

/-- A decimal number of a dotted ending: no leading zero, at most 255. -/
def octet? (cs : List Char) : Option Nat :=
  match cs with
  | [] => none
  | ['0'] => some 0
  | '0' :: _ => none
  | cs => if cs.length ≤ 3 then (Ipv4.numberIn? 10 cs).filter (· ≤ 255) else none

/-- The two pieces of a dotted ending. -/
def dotted? (cs : List Char) : Option (UInt16 × UInt16) :=
  match (Ipv4.splitDots cs).mapM octet? with
  | some [a, b, c, d] => some (UInt16.ofNat (256 * a + b), UInt16.ofNat (256 * c + d))
  | _ => none

def piece? (cs : List Char) : Option UInt16 :=
  if cs.isEmpty ∨ cs.length > 4 then none else (Ipv4.numberIn? 16 cs).map UInt16.ofNat

/-- Reads pieces one by one; the rest never begins inside a piece. -/
def pieces : Nat → Draft → List Char → Except Flaw (List UInt16)
  | 0, _, _ => .error .badIpv6
  | _, p, [] => p.finish
  | fuel + 1, p, cs =>
    if p.size ≥ 8 then .error .badIpv6
    else match cs with
      | ':' :: rest =>
        if p.compressed then .error .badIpv6
        else pieces fuel { p with compressed := true } rest
      | _ =>
        let word := cs.takeWhile (· ≠ ':')
        let rest := cs.dropWhile (· ≠ ':')
        if word.contains '.' then
          match dotted? word, rest with
          | some (a, b), [] =>
            if p.size ≤ 6 then ((p.add a).add b).finish else .error .badIpv6
          | _, _ => .error .badIpv6
        else match piece? word, rest with
          | some piece, [] => (p.add piece).finish
          | some _, [_] => .error .badIpv6
          | some piece, _ :: after => pieces fuel (p.add piece) after
          | none, _ => .error .badIpv6

/-- An address without its brackets. -/
def parse (cs : List Char) : Except Flaw (List UInt16) :=
  match cs with
  | ':' :: ':' :: rest => pieces (cs.length + 1) ⟨[], true, []⟩ rest
  | ':' :: _ => .error .badIpv6
  | [] => .error .badIpv6
  | _ => pieces (cs.length + 1) ⟨[], false, []⟩ cs

def zeroRun (pieces : List UInt16) : Nat := (pieces.takeWhile (· == 0)).length

/-- Start and length of the run to compress; length 0 where there is none. -/
def longestRun (pieces : List UInt16) : Nat × Nat :=
  (List.range pieces.length).foldl (fun best i =>
    let n := zeroRun (pieces.drop i)
    if n > best.2 ∧ n ≥ 2 then (i, n) else best) (0, 0)

def hex (piece : UInt16) : String := String.ofList (Nat.toDigits 16 piece.toNat)

def joined (pieces : List UInt16) : String := ":".intercalate (pieces.map hex)

def text (pieces : List UInt16) : String :=
  let (start, n) := longestRun pieces
  if n = 0 then joined pieces
  else joined (pieces.take start) ++ "::" ++ joined (pieces.drop (start + n))

end ZigbeeBridge.Url.Ipv6
