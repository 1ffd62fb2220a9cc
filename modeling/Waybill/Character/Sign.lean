import Waybill.Character.Category

/-!
# Signs

Digits of base sixteen, punctuation and symbols by their use.

## Main definitions

* `Waybill.Sign.hexDigit`, `Waybill.Sign.dash`, `Waybill.Sign.math` and others of their kind.
-/

namespace Waybill.Sign

/-- Digits of base sixteen. -/
def asciiHexDigit : CodeSet := .ofRanges [
  (0x30, 0x39), (0x41, 0x46), (0x61, 0x66)]

/-- Digits of base sixteen, also of full width. -/
def hexDigit : CodeSet := .ofRanges [
  (0x30, 0x39), (0x41, 0x46), (0x61, 0x66), (0xFF10, 0xFF19), (0xFF21, 0xFF26), (0xFF41, 0xFF46)]

/-- Dashes. -/
def dash : CodeSet := .ofPacked [
  "XD0XgS0XJ0Zo10XW50YW95XT0X70F0i60ZW4020V140S0jU0J0ZF0XpiG1X50A0b90Zp00fU0"]

/-- Dashes that join parts of a word. -/
def hyphen : CodeSet := .ofRanges [
  (0x2D, 0x2D), (0xAD, 0xAD), (0x58A, 0x58A), (0x1806, 0x1806), (0x2010, 0x2011), (0x2E17, 0x2E17),
  (0x30FB, 0x30FB), (0xFE63, 0xFE63), (0xFF0D, 0xFF0D), (0xFF65, 0xFF65)]

/-- Quotation marks. -/
def quotation : CodeSet := .ofPacked [
  "X2040a30F0dwS7P1Zm70k93D2Xpn13bT040YQ1"]

/-- Punctuation that ends a unit of text. -/
def terminal : CodeSet := .ofPacked [
  "X10A010B130vU080m10XP0Y80E012bK0XBA10dB1XM517V0e51XdK1bC045fN1uL7u50ZS2Y71aT230X7321fQ1h23b21A1",
  "12T2bR4XU1z40N192ZbF2fI0D040A01131jC1zdR1eD2d34hU1YM1YV0aN2aJ2ZV0G1dP0qn6021XP213b90A010B130Y10",
  "20XXQ0XG0Xa60c70fM1aO5Y45YP3zO4XC3bT6ZG3ZV2a1160G1YO4ZC0fA1ZL2C1h633EZ91dP2m5010dR1YN141iU2XD0q",
  "51YA1XfB4nlP1a50Y12A0n91f71pm60dl73"]

/-- Punctuation that ends a sentence. -/
def sentenceTerminal : CodeSet := .ofPacked [
  "X10C0G0Xg90aJ2bK0XB2dM0XT01031f51Xt41uM041u50c61aT1XD050fQ1h23b21A121T2bR1Y11z40N192ZbF2fI0D0M1",
  "jD0zdS0eE1d3030hU1YM1YV0aO1aJ2aG1dP0qn6021XR031b90C0G0Y10YtK1XdT4XC3bT1ZL3ZV2a1160G1YO111ZC0fA1",
  "ZL1hL15EZ91dP2m5010dR1YN1j41rK1YA1ov91a50Y11B0n91f80pm60dl80"]

/-- Code points of mathematics by exception. -/
def otherMath : CodeSet := .ofPacked [
  "YU0xH220Q121dX00R2B0X03O1E1Y1C403144I04029103460312112153354YB4231111101421414H2110161061f23b81",
  "10O0H0jT1C854512134E01025O1XP010T391gM1V9iJLXV3X01XrZ301040cJ010Xrc1YK1Y6112021231B10161Y013271",
  "61R131410361gJ2O1O1U1O1U1O1U1O1U1O172XHbm031Q11102019131010604010101211102010101010111023161313",
  "10191G52141G"]

/-- Symbols of mathematics that may start a name. -/
def compatMathStart : CodeSet := .ofPacked [
  "em2040M0Zjb20P0V0P0V0P0V0P0V0P0"]

/-- Raised and lowered signs that may follow in a name. -/
def compatMathPart : CodeSet := .ofRanges [
  (0xB2, 0xB3), (0xB9, 0xB9), (0x2070, 0x2070), (0x2074, 0x207E), (0x2080, 0x208E)]

/-- Signs that languages reserve for their syntax. -/
def patternSyntax : CodeSet := .ofPacked [
  "X1EA6Q310Q3X2610111011404030N0V0duON8E2I19fHsFb0pLUXZBm0ZVi124OF0XpeD1e51"]

/-- Blanks that languages skip. -/
def patternBlank : CodeSet := .ofRanges [
  (0x9, 0xD), (0x20, 0x20), (0x85, 0x85), (0x200E, 0x200F), (0x2028, 0x2029)]

/-- Vowels that are written before the consonant they follow in speech. -/
def logicalOrder : CodeSet := .ofRanges [
  (0xE40, 0xE44), (0xEC0, 0xEC4), (0x19B5, 0x19B7), (0x19BA, 0x19BA), (0xAAB5, 0xAAB6),
  (0xAAB9, 0xAAB9), (0xAABB, 0xAABC)]

/-- Code points of mathematics. -/
def math : CodeSet := (Category.set [.mathSymbol]).union otherMath

end Waybill.Sign
