import Waybill.Character.Category

/-!
# Letters

Which code points count as letters, as small or capital letters, and which of them change when the
case of a text is changed. The categories give most of it; some code points of other categories
count too.

## Main definitions

* `Waybill.Letter.lowercase`, `Waybill.Letter.uppercase`, `Waybill.Letter.cased`.
* `Waybill.Letter.alphabetic`.
* `Waybill.Letter.changesWhenLowered` and its kin.
-/

namespace Waybill.Letter

/-- Code points that count as small letters by exception. -/
def otherLowercase : CodeSet := .ofPacked [
  "bA0F0lL871U4Z00XK0Zi10ZXFXUD0X2X4rH0D0GCcJFwGPXyI1+mU1cI0a0331x2390tWM0221X918XsZLXT"]

/-- Code points that count as capital letters by exception. -/
def otherUppercase : CodeSet := .ofRanges [
  (0x2160, 0x216F), (0x24B6, 0x24CF), (0x1F130, 0x1F149), (0x1F150, 0x1F169), (0x1F170, 0x1F189)]

/-- Code points that count as letters by exception: signs of vowels and the like. -/
def otherAlphabetic : CodeSet := .ofPacked [
  "x3Co0D10111110Y8AXGC16G0Z56432140X30UFZ6AZ51381213ZA0XSB366JXM12E1152A1T2XQ62121A0A1T2XQ4412140",
  "U130B2XQ71211L1M242XQ6212191A1U0XR43212A0X84XP6121281B1T2XQ6121281B1F0C3XQ61212A0A1T2YB51017I1X",
  "T026I0Z302511G0b3I9A1X3ZEB1023N342122633DB10A3XpK1U1U1U1Y2IbS1X20ZMB48cU4XP92JYA1B2XH4XGEXS2U82",
  "1XPAXIIiSX1Z*BV+ZK7X21h2080N4YO1XIF10XP0X64SBXD3XGBX50Y3DC081XD2XI0122150XC450dD7pvJ0YYN4Xq6211",
  "53uK3Y10g11YD2e32XLDXD1B2XD890XT2X4BI1XP2XGCE1YS8206020aT9N3XQ62121A0A1YK810201311Z7C12ZAHdD626",
  "T1YIE10ZAAZ7De1CdN511213010aE62540S9XA413IAXEDc87c7716YJL1DZQ53011121030Y241113gS39110XG632mkTG",
  "Zn001XM73YT1pbC0ex161G261114Z40XoJ0207150oH0"]

/-- Letters whose dot gives way to a mark. -/
def softDotted : CodeSet := .ofPacked [
  "Z91c40eP0U0XK0K0g00Z2010ce90XJ0D030a40aT0j50cM1YvI0Zfz51XI1XI1XI1XI1XI1XI1XI1XI1XI1XI1XI1XI1Ya6",
  "0fH1Q0"]

/-- Code points that change when a text is lowered. -/
def changesWhenLowered : CodeSet := .ofPacked [
  "Y1PZ5M16X10101010101010101010101010101010101010101010101010101010201010101010101020101010101010",
  "10101010101010101010101010101010111010311011122311123111101011102011121011307111111010101010101",
  "01020101010101010101021101210101010101010101010101010101010101010101010101010101010107111201310",
  "101010f10103080601210111G18X308010101010101010101010105020112XIXG010101010101010101010101010101",
  "01090101010101010101010101010101010101010101010101010101011101010101010201010101010101010101010",
  "1010101010101010101010101010101010101010101010101010101010101010101010102X5Yw9X51050sIYLYaJ06XA",
  "22g00101010101010101010101010101010101010101010101010101010101010101010101010101010101010101010",
  "10101010101010101010101010101010101010101010101010101010109010101010101010101010101010101010101",
  "01010101010101010101010101010101010101010101010101010101010109785A78785B010101087O7878784B4B3C4",
  "B4f903160XDFJ0vIPXvGXFXG01220101013102082101010101010101010101010101010101010101010101010101010",
  "10101010101010101010101010101010101010101010801040+gD010101010101010101010101010101010101010101",
  "010J010101010101010101010101010a701010101010103010101010101010101010101010101010101010101010101",
  "0101010101010A010111010101040102010301010101010101010101414101010101010101310111010101010101010",
  "O0rvBPXc5X7a8X3aSA1E1611XtAXIaTLYvQVri0VY0O+o7X1"]

/-- Code points that change when a text is raised to capitals. -/
def changesWhenRaised : CodeSet := .ofPacked [
  "Z1PXQ0X9N17101010101010101010101010101010101010101010101010101010102010101010101011101010101010",
  "10101010101010101010101010101010102010122010203050203220201010204020301020301051111110101010101",
  "01011101010101010101011111030101010101010101010101010101010101010103010101010101010108021104010",
  "1010151110113113142011207020113550A1b60XB0103032I0RX21132101010101010101010101014102020XKXF1010",
  "10101010101010101010101010101090101010101010101010101010101010101010101010101010101020101010101",
  "01110101010101010101010101010101010101010101010101010101010101010101010101010101010101010101010",
  "1010XHX6Yw8XA22tO5Ya2810dE030G0ZI01010101010101010101010101010101010101010101010101010101010101",
  "01010101010101010101010101010101010101010101010101010101010101010101010101010101010101650101010",
  "101010101010101010101010101010101010101010101010101010101010101010101010101010101010101885A7878",
  "5A7878D2XK114010321140332187A21140gH0X1F40wBPXw6XF10311010106020A010101010101010101010101010101",
  "010101010101010101010101010101010101010101010101010101010101010101010801040CX51050+eJ0101010101",
  "01010101010101010101010101010101010J010101010101010101010101010a7010101010101030101010101010101",
  "010101010101010101010101010101010101010101010A010201010101040401120101010101010101010B010101010",
  "10101040102010101010101010Q0wS0SYFpw06C4XX9PXcDX7a8X3aRA1E1611Xu3XIZTLYvQVri0VXRO+oEX1"]

/-- Code points that change at the start of a word of a title. -/
def changesWhenTitled : CodeSet := .ofPacked [
  "Z1PXQ0X9N17101010101010101010101010101010101010101010101010101010102010101010101011101010101010",
  "10101010101010101010101010101010102010122010203050203220201010204020301020301040111110101010101",
  "01010111010101010101010121010301010101010101010101010101010101010101030101010101010101080211040",
  "101010151110113113142011207020113550A1b60XB0103032I0RX21132101010101010101010101014102020XKXF10",
  "10101010101010101010101010101010901010101010101010101010101010101010101010101010101010201010101",
  "01011101010101010101010101010101010101010101010101010101010101010101010101010101010101010101010",
  "101010XHX6ZpG5Ya2810dE030G0ZI010101010101010101010101010101010101010101010101010101010101010101",
  "01010101010101010101010101010101010101010101010101010101010101010101010101010101016501010101010",
  "10101010101010101010101010101010101010101010101010101010101010101010101010101010101885A78785A78",
  "78D2787878411603211832187A211gM0X1F40wBPXw6XF10311010106020A01010101010101010101010101010101010",
  "1010101010101010101010101010101010101010101010101010101010101010801040CX51050+eJ010101010101010",
  "101010101010101010101010101010J010101010101010101010101010a701010101010103010101010101010101010",
  "1010101010101010101010101010101010101010A010201010101040401120101010101010101010B01010101010101",
  "040102010101010101010Q0wS0SYFpw06C4XX9PXcDX7a8X3aRA1E1611Xu3XIZTLYvQVri0VXRO+oEX1"]

/-- Code points that change when case is disregarded. -/
def changesWhenFolded : CodeSet := .ofPacked [
  "Y1PYQ0AM17X001010101010101010101010101010101010101010101010101010102010101010101010111010101010",
  "10101010101010101010101010101010101110101011101112231112311110101110201112101130711111101010101",
  "01010102010101010101010102110121010101010101010101010101010101010101010101010101010101010711120",
  "1310101010dM0XA0103080601210111G18M0C231101010101010101010101010112110112XIXG010101010101010101",
  "01010101010101090101010101010101010101010101010101010101010101010101011101010101010201010101010",
  "1010101010101010101010101010101010101010101010101010101010101010101010101010101010102X5XG0YuOX5",
  "1050vA5Ya296XA22g001010101010101010101010101010101010101010101010101010101010101010101010101010",
  "10101010101010101010101010101010101010101010101010101010101010101010101051201010101010101010101",
  "010101010101010101010101010101010101010101010101010101010101010101010101010109785A78785B0101010",
  "87GXF22255225B3C45225f903160XDFJ0vIPXvGXFXG0122010101310208210101010101010101010101010101010101",
  "010101010101010101010101010101010101010101010101010101010101010801040+gD01010101010101010101010",
  "1010101010101010101010J010101010101010101010101010a70101010101010301010101010101010101010101010",
  "10101010101010101010101010101010A01011101010104010201030101010101010101010141410101010101010131",
  "0111010101010101010O0xQYFpw06C4XW9PXc5X7a8X3aSA1E1611XtAXIaTLYvQVri0VY0O+o7X1"]

/-- Small letters. -/
def lowercase : CodeSet := (Category.set [.lowercaseLetter]).union otherLowercase

/-- Capital letters. -/
def uppercase : CodeSet := (Category.set [.uppercaseLetter]).union otherUppercase

/-- Letters that have a case. -/
def cased : CodeSet := .unionAll [lowercase, uppercase, Category.set [.titlecaseLetter]]

/-- Letters of all kinds. -/
def alphabetic : CodeSet := .unionAll [lowercase, uppercase, otherAlphabetic,
  Category.set [.titlecaseLetter, .modifierLetter, .otherLetter, .letterNumber]]

/-- Code points that change under any change of case. -/
def changesWhenMapped : CodeSet :=
  .unionAll [changesWhenLowered, changesWhenRaised, changesWhenTitled]

end Waybill.Letter
