/-!
# White space and trimming

Placeholder names, defaults, media types and `METHOD /path` declarations are trimmed of Unicode
white space on both sides. The set is the property `White_Space` of the Unicode standard.

## Main definitions

* `Waybill.isBlank` — the characters of the property `White_Space`.
* `Waybill.trim` — a text without the blanks at its two ends.
-/

namespace Waybill

/-- The Unicode property `White_Space`. -/
def isBlank (c : Char) : Bool :=
  let n := c.toNat
  (0x09 ≤ n && n ≤ 0x0D) || n == 0x20 || n == 0x85 || n == 0xA0 || n == 0x1680 ||
    (0x2000 ≤ n && n ≤ 0x200A) || n == 0x2028 || n == 0x2029 || n == 0x202F || n == 0x205F ||
    n == 0x3000

/-- A list of characters without the blanks at its start. -/
def trimStart (cs : List Char) : List Char := cs.dropWhile isBlank

/-- A list of characters without the blanks at its end. -/
def trimEnd (cs : List Char) : List Char := (cs.reverse.dropWhile isBlank).reverse

/-- A list of characters without the blanks at its two ends. -/
def trim (cs : List Char) : List Char := trimEnd (trimStart cs)

theorem trim_nil : trim [] = [] := rfl

end Waybill
