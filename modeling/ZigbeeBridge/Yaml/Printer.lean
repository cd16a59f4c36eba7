import ZigbeeBridge.Data.Value
import ZigbeeBridge.Numeral.DoubleText
import ZigbeeBridge.Text.Utf8
import ZigbeeBridge.Yaml.Scalar

/-!
Writing a YAML document, one entry a line. What is inside an entry is indented by two blanks, but
the items of an array stand below their key.
-/
namespace ZigbeeBridge.Yaml

open Data

def numberText : Number → String
  | .integer n _ => toString n
  | .double d => d.pointedText

/-- Puts a mark before the first line and as many blanks as two before the others. -/
def hang (mark : String) : List String → List String
  | [] => [mark]
  | first :: rest =>
    (mark ++ first) :: rest.map fun line => if line.isEmpty then line else "  " ++ line

/-- A key on one line that is not too long stands before its colon. -/
def isSimpleKey (key : String) : Bool :=
  !key.toList.any isBreak && Text.byteLength key.toList ≤ 128

/-- The lines of an entry, given those of its value. -/
def entryLines (key : String) (v : Value) (lines : List String) : List String :=
  if isSimpleKey key then
    let name := "".intercalate (stringLines key)
    match v with
    | .object (_ :: _) => hang (name ++ ":") ("" :: lines)
    | .array (_ :: _) => (name ++ ":") :: lines
    | _ => hang (name ++ ": ") lines
  else hang "? " (stringLines key) ++ hang ": " lines

mutual

def valueLines : Value → List String
  | .null => ["null"]
  | .bool b => [if b then "true" else "false"]
  | .number n => [numberText n]
  | .string s => stringLines s
  | .array [] => ["[]"]
  | .object [] => ["\x7b\x7d"]
  | .array (v :: vs) => hang "- " (valueLines v) ++ itemLines vs
  | .object ((key, v) :: ms) => entryLines key v (valueLines v) ++ memberLines ms

def itemLines : List Value → List String
  | [] => []
  | v :: vs => hang "- " (valueLines v) ++ itemLines vs

def memberLines : List (String × Value) → List String
  | [] => []
  | (key, v) :: ms => entryLines key v (valueLines v) ++ memberLines ms

end

def print (v : Value) : String := String.join ((valueLines v).map (· ++ "\n"))

end ZigbeeBridge.Yaml
