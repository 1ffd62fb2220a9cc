import Waybill.Character.CodeSet

/-!
# Emoji

Pictures in a line of text, and the code points of which they are composed.

## Main definitions

* `Waybill.Emoji.emoji`, `Waybill.Emoji.pictographic` and others of their kind.
-/

namespace Waybill.Emoji

/-- Code points that may be shown as a picture. -/
def emoji : CodeSet := .ofPacked [
  "X306059ZF040dyD0C0cO0M0YQ5F1hF1C0b60PA42c70d71A090XQ314902021204020112030318250105BB1201110I021",
  "I5101131502141B15120511011K155132040202510201010603060A1F02040104210B1XG290E0E0hK1kF2J1XJ040XcQ",
  "0C0oP010ZlhA0cA0b01C1E029YBP11N0K028L1bEX12ZF21122YI221e61XUB51N7127C0232041D120819052C28220104",
  "060306YLXGY557233930113029d3B40eRXE191bOZGC3A3XO104F2B49"]

/-- Code points of which pictures are composed. -/
def component : CodeSet := .ofRanges [
  (0x23, 0x23), (0x2A, 0x2A), (0x30, 0x39), (0x200D, 0x200D), (0x20E3, 0x20E3), (0xFE0F, 0xFE0F),
  (0x1F1E6, 0x1F1FF), (0x1F3FB, 0x1F3FF), (0x1F9B0, 0x1F9B3), (0xE0020, 0xE007F)]

/-- Tones of skin. -/
def modifier : CodeSet := .ofRanges [
  (0x1F3FB, 0x1F3FF)]

/-- Pictures that take a tone of skin. -/
def modifierBase : CodeSet := .ofPacked [
  "fmT0cR0G3ZpZN0XS22022ZL12ALI3042127010O0c9140L041bE234YJ0G290B0nV02087609922XO0XT11110H21Cd52XA",
  "8"]

/-- Code points that are shown as a picture unless told otherwise. -/
def presentation : CodeSet := .ofPacked [
  "euQ1cD33020m91L1XIBXB0J0D081H1518050L0711040207041S0X30104210XT2O0E0wR1XJ040ZnbE0cA0bU029YBP10O",
  "0K02412L1bEX0C81Y51LCXA44CG303Y6101bQ2XUD31NI0Q1D0YMYKXGY560322333B178d3B40eRXE191bOZGC3A3XO104",
  "F2B49"]

/-- Pictures, and code points set aside for them. -/
def pictographic : CodeSet := .ofPacked [
  "b9040dyD0C0cO0M0YQ5F1hF1C0b60PA42c70d71A090XQ314902021204020112030318250105BB1201110I021I510113",
  "1502141B15120511011K155132040202510201010603060A1F02040104210B1XG290E0E0hK1kF2J1XJ040XcQ0C0oP01",
  "0ZlhA0X73Z4BF1F0E1X59ZG1C1E029JXNREA0K028139M6bR2ZF21122YI22135dT1XUB51N7127C0232041D120819052C",
  "28220104060306YLXGY5572G30152CcQX5C3XO7A5X87U1C32D9X6CXE191bOYO7EaHe0*T"]

/-- Letters of which flags are composed. -/
def regional : CodeSet := .ofRanges [
  (0x1F1E6, 0x1F1FF)]

end Waybill.Emoji
