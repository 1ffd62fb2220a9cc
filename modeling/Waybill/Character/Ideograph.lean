import Waybill.Character.CodeSet

/-!
# Ideographs

## Main definitions

* `Waybill.Ideograph.ideographic`, `Waybill.Ideograph.unified`, `Waybill.Ideograph.radical`.
* `Waybill.Ideograph.unaryOperator` and its kin — signs that describe an ideograph by its parts.
-/

namespace Waybill.Ideograph

/-- Ideographs of all scripts. -/
def ideographic : CodeSet := .ofPacked [
  "iW61P8E2+5cjVY0qlVse0hD2Z9zeA0D49dcLX9VZ1ZIexTiBpe4XfsVX0aeT2bqD2dfGFpDYj2mTXl2awA5ef9"]

/-- Ideographs that are shared by several languages. -/
def unified : CodeSet := .ofPacked [
  "jW0cjVY0qlVsmE11011A0101122YXkMXfsVX0aeT2bqD2dfGFpDaj2awA5ef9"]

/-- Parts of ideographs. -/
def radical : CodeSet := .ofRanges [
  (0x2E80, 0x2E99), (0x2E9B, 0x2EF3), (0x2F00, 0x2FD5)]

/-- Operators on one part. -/
def unaryOperator : CodeSet := .ofRanges [
  (0x2FFE, 0x2FFF)]

/-- Operators on two parts. -/
def binaryOperator : CodeSet := .ofRanges [
  (0x2FF0, 0x2FF1), (0x2FF4, 0x2FFD), (0x31EF, 0x31EF)]

/-- Operators on three parts. -/
def ternaryOperator : CodeSet := .ofRanges [
  (0x2FF2, 0x2FF3)]

end Waybill.Ideograph
