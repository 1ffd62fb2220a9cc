import Waybill.Character.Packed

/-!
# Capital letters

Rewriting a key from words joined by underscores to capitalised words needs the capital form of any
character. It is the full mapping of the Unicode standard, which may yield several characters: `ß`
becomes `SS`.

The table holds runs of characters: every one, or every second one, from the first to the last maps
to the one at a fixed distance. Characters with several capitals are listed one by one.

## Main definitions

* `Waybill.capitals` — the capital form of a character.
-/

namespace Waybill

/-- A run of characters that are mapped over the same distance. -/
structure CaseRun where
  first : Nat
  last : Nat
  stride : Nat
  distance : Int

/-- Characters beyond ASCII with one capital: for each run its distance from the start of the one
before, a number for its length and stride, and the distance of its capitals. -/
def packedCapitals : List String := [
  "bL0XkEXBXCXVOCXV70dI2XF1XG0kF2517F1HXD1XF5150oN10i633150140160130c240110g610Ypa230e435170150130",
  "143150140120ZG6011032011032011032F1F0aT2H1J011032014X71XAH1P0132rZU30159190rXU10rXO10rXS10j310i",
  "R22iP30iJ20iL10YoqU40iP10YoqM20iT10YosE10YooG10Yoq820j110j510Yoq810q*E10Yoq230j520q*Q10j930jB80",
  "q+E30jJ20Yoq610jJ40YooK10jJ10a912jH20aD60jLB0YonA10Yon4b70b8XC3160144e4XH0YB14Y94X0XVH0XT1GXV90",
  "ZV12ZT30ZR10ZH40YT10ZB10F2N1N0bB10aV10E10d720bV301301XLXUXVX0UaVHX11XAXL1XND1D0T2YV1aGYAYVYxFYK",
  "by0XD4by0tRAFYa80icR10icP10ic712ic320ic510ibN10iY910Yay4201dF0YbW840dkCH0YbZGZJaL1aQ0ZL6YV1YVEG",
  "GAGGEGGEGGAGH7GFEGG2aK26bC42c822e022d022dSXK2GE0kY9I2GG2G50Eh90XNX2UVK01wCXIXJXx0YUYVXH0140rYL1",
  "0rYF251B01301BZ31ZB31701DYAkbVX70kbV60kbV+eKXD1Y0R1b2D1GXT1Y731591D0153130Z03J1UF1J315F1X901wT0",
  "XvVTaUYhyVq+HXIXVXd7YEYFbGY6YFbVKYDCSYDGCYD82YDXu5Z4ZVbGXAXVYwGXUXVrj0XUXVYRXGXL+p7Y2Y3"]

/-- Characters with more than one capital. -/
def capitalSequences : Array (Nat × List Nat) := #[
  (0xDF, [0x53, 0x53]), (0x149, [0x2BC, 0x4E]), (0x1F0, [0x4A, 0x30C]),
  (0x390, [0x399, 0x308, 0x301]), (0x3B0, [0x3A5, 0x308, 0x301]), (0x587, [0x535, 0x552]),
  (0x1E96, [0x48, 0x331]), (0x1E97, [0x54, 0x308]), (0x1E98, [0x57, 0x30A]),
  (0x1E99, [0x59, 0x30A]), (0x1E9A, [0x41, 0x2BE]), (0x1F50, [0x3A5, 0x313]),
  (0x1F52, [0x3A5, 0x313, 0x300]), (0x1F54, [0x3A5, 0x313, 0x301]),
  (0x1F56, [0x3A5, 0x313, 0x342]), (0x1F80, [0x1F08, 0x399]), (0x1F81, [0x1F09, 0x399]),
  (0x1F82, [0x1F0A, 0x399]), (0x1F83, [0x1F0B, 0x399]), (0x1F84, [0x1F0C, 0x399]),
  (0x1F85, [0x1F0D, 0x399]), (0x1F86, [0x1F0E, 0x399]), (0x1F87, [0x1F0F, 0x399]),
  (0x1F88, [0x1F08, 0x399]), (0x1F89, [0x1F09, 0x399]), (0x1F8A, [0x1F0A, 0x399]),
  (0x1F8B, [0x1F0B, 0x399]), (0x1F8C, [0x1F0C, 0x399]), (0x1F8D, [0x1F0D, 0x399]),
  (0x1F8E, [0x1F0E, 0x399]), (0x1F8F, [0x1F0F, 0x399]), (0x1F90, [0x1F28, 0x399]),
  (0x1F91, [0x1F29, 0x399]), (0x1F92, [0x1F2A, 0x399]), (0x1F93, [0x1F2B, 0x399]),
  (0x1F94, [0x1F2C, 0x399]), (0x1F95, [0x1F2D, 0x399]), (0x1F96, [0x1F2E, 0x399]),
  (0x1F97, [0x1F2F, 0x399]), (0x1F98, [0x1F28, 0x399]), (0x1F99, [0x1F29, 0x399]),
  (0x1F9A, [0x1F2A, 0x399]), (0x1F9B, [0x1F2B, 0x399]), (0x1F9C, [0x1F2C, 0x399]),
  (0x1F9D, [0x1F2D, 0x399]), (0x1F9E, [0x1F2E, 0x399]), (0x1F9F, [0x1F2F, 0x399]),
  (0x1FA0, [0x1F68, 0x399]), (0x1FA1, [0x1F69, 0x399]), (0x1FA2, [0x1F6A, 0x399]),
  (0x1FA3, [0x1F6B, 0x399]), (0x1FA4, [0x1F6C, 0x399]), (0x1FA5, [0x1F6D, 0x399]),
  (0x1FA6, [0x1F6E, 0x399]), (0x1FA7, [0x1F6F, 0x399]), (0x1FA8, [0x1F68, 0x399]),
  (0x1FA9, [0x1F69, 0x399]), (0x1FAA, [0x1F6A, 0x399]), (0x1FAB, [0x1F6B, 0x399]),
  (0x1FAC, [0x1F6C, 0x399]), (0x1FAD, [0x1F6D, 0x399]), (0x1FAE, [0x1F6E, 0x399]),
  (0x1FAF, [0x1F6F, 0x399]), (0x1FB2, [0x1FBA, 0x399]), (0x1FB3, [0x391, 0x399]),
  (0x1FB4, [0x386, 0x399]), (0x1FB6, [0x391, 0x342]), (0x1FB7, [0x391, 0x342, 0x399]),
  (0x1FBC, [0x391, 0x399]), (0x1FC2, [0x1FCA, 0x399]), (0x1FC3, [0x397, 0x399]),
  (0x1FC4, [0x389, 0x399]), (0x1FC6, [0x397, 0x342]), (0x1FC7, [0x397, 0x342, 0x399]),
  (0x1FCC, [0x397, 0x399]), (0x1FD2, [0x399, 0x308, 0x300]), (0x1FD3, [0x399, 0x308, 0x301]),
  (0x1FD6, [0x399, 0x342]), (0x1FD7, [0x399, 0x308, 0x342]), (0x1FE2, [0x3A5, 0x308, 0x300]),
  (0x1FE3, [0x3A5, 0x308, 0x301]), (0x1FE4, [0x3A1, 0x313]), (0x1FE6, [0x3A5, 0x342]),
  (0x1FE7, [0x3A5, 0x308, 0x342]), (0x1FF2, [0x1FFA, 0x399]), (0x1FF3, [0x3A9, 0x399]),
  (0x1FF4, [0x38F, 0x399]), (0x1FF6, [0x3A9, 0x342]), (0x1FF7, [0x3A9, 0x342, 0x399]),
  (0x1FFC, [0x3A9, 0x399]), (0xFB00, [0x46, 0x46]), (0xFB01, [0x46, 0x49]), (0xFB02, [0x46, 0x4C]),
  (0xFB03, [0x46, 0x46, 0x49]), (0xFB04, [0x46, 0x46, 0x4C]), (0xFB05, [0x53, 0x54]),
  (0xFB06, [0x53, 0x54]), (0xFB13, [0x544, 0x546]), (0xFB14, [0x544, 0x535]),
  (0xFB15, [0x544, 0x53B]), (0xFB16, [0x54E, 0x546]), (0xFB17, [0x544, 0x53D])]

/-- Runs from packed numbers, given the start of the run before. -/
def unpackRuns (start : Nat) : List Nat → List CaseRun
  | step :: shape :: distance :: rest =>
    let first := start + step
    let stride := shape % 2 + 1
    ⟨first, first + shape / 2 * stride, stride, Packed.signed distance⟩ :: unpackRuns first rest
  | _ => []

/-- Characters beyond ASCII with one capital. -/
def capitalRuns : List CaseRun := unpackRuns 0 (Packed.numbers packedCapitals)

/-- The image of a code point under the first run that holds it. -/
def applyRuns? (runs : List CaseRun) (n : Nat) : Option Nat :=
  (runs.find? fun r => r.first ≤ n && n ≤ r.last && (n - r.first) % r.stride == 0).map
    fun r => (r.distance + (n : Int)).toNat

/-- The capital form of a character; a character without one is its own. -/
def capitals (c : Char) : List Char :=
  if c.toNat < 0x80 then [c.toUpper]
  else match capitalSequences.find? (·.1 == c.toNat) with
    | some (_, ns) => ns.map Char.ofNat
    | none => [((applyRuns? capitalRuns c.toNat).map Char.ofNat).getD c]

end Waybill
