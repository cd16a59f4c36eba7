import ZigbeeBridge.Text.Hex

/-!
Percent-encoding: each byte of a character that may not stand for itself becomes a percent sign and
two hexadecimal digits.
-/
namespace ZigbeeBridge.Url

/-- Characters that are written as their bytes. -/
abbrev EncodeSet := Char → Bool

def controls : EncodeSet := fun c => c < ' ' || '~' < c

def inFragment : EncodeSet := fun c => controls c || [' ', '"', '<', '>', '`'].contains c

def inQuery : EncodeSet := fun c => controls c || [' ', '"', '#', '<', '>'].contains c

def inSpecialQuery : EncodeSet := fun c => inQuery c || c == '\''

def inPath : EncodeSet := fun c => inFragment c || ['#', '?', '^', '\x7b', '\x7d'].contains c

def inUserinfo : EncodeSet := fun c =>
  inPath c || ['/', ':', ';', '=', '@', '[', '\\', ']', '|'].contains c

def encodeByte (b : UInt8) : List Char :=
  ['%', Text.upperHexDigit (b.toNat / 16), Text.upperHexDigit (b.toNat % 16)]

def utf8 (c : Char) : List UInt8 := String.utf8EncodeChar c

def encodeChar (set : EncodeSet) (c : Char) : List Char :=
  if set c then (utf8 c).flatMap encodeByte else [c]

def encode (set : EncodeSet) (cs : List Char) : List Char := cs.flatMap (encodeChar set)

/-- The bytes a text stands for; a percent sign without two digits stands for itself. -/
def decode : List Char → List UInt8
  | '%' :: a :: b :: rest =>
    match Text.hexValue? a, Text.hexValue? b with
    | some x, some y => UInt8.ofNat (16 * x + y) :: decode rest
    | _, _ => 0x25 :: decode (a :: b :: rest)
  | c :: rest => utf8 c ++ decode rest
  | [] => []

end ZigbeeBridge.Url
