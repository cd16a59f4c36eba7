import ZigbeeBridge.Text.Hex
import ZigbeeBridge.Url.Basic

/-!
IPv4 addresses: one to four numbers, decimal, octal after `0` or hexadecimal after `0x`; the last
one fills what the others leave.
-/
namespace ZigbeeBridge.Url.Ipv4

def digitIn? (radix : Nat) (c : Char) : Option Nat := (Text.hexValue? c).filter (· < radix)

def numberIn? (radix : Nat) (cs : List Char) : Option Nat :=
  cs.foldlM (fun n c => (digitIn? radix c).map (n * radix + ·)) 0

/-- The number that a part spells, of any size. -/
def number? : List Char → Option Nat
  | [] => none
  | '0' :: 'x' :: cs => numberIn? 16 cs
  | '0' :: 'X' :: cs => numberIn? 16 cs
  | '0' :: c :: cs => numberIn? 8 (c :: cs)
  | cs => numberIn? 10 cs

def splitDots (cs : List Char) : List (List Char) := cs.splitOn '.'

/-- The host is meant as an address: its last part, before a final dot, is a number. -/
def looksLike (cs : List Char) : Bool :=
  let last := match (splitDots cs).reverse with
    | [] :: part :: _ => part
    | [] :: [] => ['.']
    | part :: _ => part
    | [] => []
  (!last.isEmpty && last.all fun c => '0' ≤ c && c ≤ '9') || (number? last).isSome

def parse (cs : List Char) : Except Flaw UInt32 := do
  let parts := match (splitDots cs).reverse with
    | [] :: rest => rest.reverse
    | _ => splitDots cs
  if parts.length > 4 then throw .badIpv4
  let some numbers := parts.mapM number? | throw .badIpv4
  match numbers.reverse with
  | [] => throw .badIpv4
  | last :: others =>
    let room := 8 * (4 - others.length)
    if last >>> room ≠ 0 ∨ others.any (· > 255) then throw .badIpv4
    let high := others.reverse.foldl (fun n x => 256 * n + x) 0
    pure (UInt32.ofNat ((high <<< room) + last))

def text (address : UInt32) : String :=
  ".".intercalate ([24, 16, 8, 0].map fun shift => toString (address.toNat >>> shift % 256))

end ZigbeeBridge.Url.Ipv4
