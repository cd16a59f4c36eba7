import ZigbeeBridge.Text.Hex

/-!
Hexadecimal digits are read back as what they stand for.
-/
namespace ZigbeeBridge.Text

theorem hexValue_hexDigit : ∀ n < 16, hexValue? (hexDigit n) = some n := by
  decide

theorem hexValue_upperHexDigit : ∀ n < 16, hexValue? (upperHexDigit n) = some n := by
  decide

end ZigbeeBridge.Text
