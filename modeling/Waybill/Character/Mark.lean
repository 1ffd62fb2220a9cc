import Waybill.Character.Category

/-!
# Marks

Marks belong to the character before them. Most are so by their category, and some code points of
other categories behave alike.

## Main definitions

* `Waybill.Mark.extending` — code points that are shown as one with what precedes them.
* `Waybill.Mark.base` — code points that may carry them.
* `Waybill.Mark.diacritic`, `Waybill.Mark.extender` and others of their kind.
-/

namespace Waybill.Mark

/-- Code points that extend the character before them by exception. -/
def otherExtending : CodeSet := .ofPacked [
  "YjU0O0h60O0Z60O0d8010411191Z70O0ZN0F0YfL0U0XW00501051Z50Y71XWO0aX11+f30ZC0rkT1an00ZK0e80E090Z00",
  "90201250d00C0dH0e60pP0C0Xm30qbE1uhJ165uhrDYV"]

/-- Marks and letters that modify the sound of another. -/
def diacritic : CodeSet := .ofPacked [
  "YU010Y70604021lNaU1755H14091dT4cH0XNXC10111110a3741a614132Y3QYRAXQAX21ZU7X99GRXT0G033S0YA0G0ZE0",
  "G0ZE0G0XF2XS0G070ZN0ZE0G0ZE0G0ZD1G0ZS0ZF0C510ZB0D4YB1R0101041Y2211XU0ZG011X8144P610A1s12zK1U0aK",
  "A90gR2f40K720XGE2A3E2BY80F0X68XM1XQ0B1Y21Y05YIO406022XIXUXGX35BX5AjT012B2D2D2D1ZdG2fT0lQ5Z93YV0",
  "zhI0C110S1YI1EX1Z62Z6061C0X50aN0RHXP3X40YV0C0X40aL2Y13XJ0Z4492a01pvG0u1FeE010XF0XD1Y30tS0XaV51X",
  "918pT240b51nR5X60Q4iC022Y6AXH3c00X90Y81ZO1XU0YC092Z81bI1YG1G0O634YP211D1YV030ZR1dR1ZU0ZM1ZJ0eD1",
  "e2140aS0YJ0I0YH0j50e2011YH0Y10h71N0bdCEhcP0Yk04XR6nK1n2GYG1l*U31611du1XD2Mn02358726U3Zq2XTc26hN",
  "0XT3tU1t06ZD212"]

/-- Code points that lengthen or repeat what precedes them. -/
def extender : CodeSet := .ofPacked [
  "bN0mO1xE0jP0pM0a90YP0tG0ZV0Yg30XO0p30iE0Y40ay90XB4Z71YT2xuM0XlM0+20M0a90ZC0L1rZR0YWG1XkB0R040Xc",
  "70f50ZK1lI2XcF0w00ph81XaS110E1yg81XbH0wK2"]

/-- Marks that join the letters around them. -/
def linking : CodeSet := .ofPacked [
  "YgD0ZV0ZV0ZV0ZV0ZV0ZV0ZV0ZD1G0ZS0ZF0ZV0c90bK1XsP1U0aT0qD0d30Z51Y61XZWI0X50aN0aE0ZC0fL0dM0toH0Xm",
  "60X90E0XP0ZP1aB0ZK0bK0Z20a02ZH0ZV0dS0ZV0ZM0ZK0eD0e31b10YJ0I0YH0j50e41YH0j91mlC0"]

/-- Format characters that enclose the digits after them. -/
def prepended : CodeSet := .ofRanges [
  (0x600, 0x605), (0x6DD, 0x6DD), (0x70F, 0x70F), (0x890, 0x891), (0x8E2, 0x8E2),
  (0x110BD, 0x110BD), (0x110CD, 0x110CD)]

/-- Arabic marks that stay close to their letter. -/
def modifying : CodeSet := .ofRanges [
  (0x654, 0x655), (0x658, 0x658), (0x6DC, 0x6DC), (0x6E3, 0x6E3), (0x6E7, 0x6E8), (0x8CA, 0x8CB),
  (0x8CD, 0x8CF), (0x8D3, 0x8D3), (0x8F3, 0x8F3)]

/-- Punctuation that may stand inside a word. -/
def betweenLetters : CodeSet := .ofPacked [
  "X7060B0ZS0sF0kN0aK0cn31A020XtlB0XU020bH060B0"]

/-- Code points that are shown as one with what precedes them. -/
def extending : CodeSet :=
  (Category.set [.nonspacingMark, .enclosingMark]).union otherExtending

/-- Code points that may carry a mark. -/
def base : CodeSet :=
  ((Category.set [.control, .format, .surrogate, .privateUse, .unassigned, .lineSeparator,
    .paragraphSeparator]).union extending).complement

/-- Code points that do not count when letters around them are compared by case. -/
def caseIgnorable : CodeSet :=
  (Category.set [.nonspacingMark, .enclosingMark, .format, .modifierLetter,
    .modifierSymbol]).union betweenLetters

end Waybill.Mark
