import Waybill.Character.Partition

/-!
# Composed forms

A letter with marks can be written as one code point or as the letter and its marks. Two texts that
differ only in this are the same to a reader, and the composed form makes them equal: letters and
marks are taken apart, the marks at a letter are put in the order of their classes, and everything
that has a code point of its own is joined. Syllables of Hangul are joined by arithmetic.

Code points that stand for exactly one other, and those that are never used once taken apart, are
none of the tables here: a text is expected to be free of them.

## Main definitions

* `Waybill.Composition.combiningClass` — the class by which marks are ordered.
* `Waybill.Composition.apart`, `Waybill.Composition.join?` — one code point and its two parts.
* `Waybill.Composition.composed` — the composed form of a text.
-/

namespace Waybill.Composition

/-- A code point that joins two others. -/
structure Composite where
  whole : Nat
  first : Nat
  second : Nat

/-- Code points that join two others: the distance from the one before, the change of the first
part, and the second part beyond the first mark. -/
def packedComposites : List String := [
  "c0a2010110210310810A24X71401011021081801011021082A31201011021031083C01011021081813G010110210310",
  "810A24X71401011021081801011021082A31201011021031083C01011021081812081ZF41Y041XV61Y061XVX81Y0X81",
  "XR11Y011XV21Y021XV71Y071XVC1Y0C1XTC1Y0C3XT41Y041XV61Y061XV71Y071XVX81Y0X81XVC1Y0C1XR21Y021XV61Y",
  "061XV71Y071XVX71Y0X71XT21Y023XT31Y031XV41Y041XV61Y061XVX81Y0X81XV74221Y021XTX71Y0X72XT11Y011XVX",
  "71Y0X71XVC1Y0C5XR11Y011XVX71Y0X71XVC1Y0C4XT41Y041XV61Y061XVB1Y0B3XP11Y011XVX71Y0X71XVC1Y0C1XT11",
  "Y011XV21Y021XVX71Y0X71XVC1Y0C1XTX71Y0X71XVC1Y0C3XT31Y031XV41Y041XV61Y061XVA1Y0A1XVB1Y0B1XVX81Y0",
  "X81XR21Y021XR21Y021XV81211Y011XV71Y071XVC1Y0CX2YLR1Y0REXJR1Y0RTZ7C1Y0C1XFC1Y0C1XJC1Y0C1XJC1Y0C1",
  "cE41Y041XV11Y011XVC1Y0C1XV01Y002ZF41Y041q441241s141Y043fTC1Y0C1XNC1Y0C1XNX81Y0X81tM41241Z7C1jMC",
  "1XYFC4Y511Y013XH01Y001bE11Y011XT11Y011R11Y011hDF1Y0F1XVH1Y0H1XNF1Y0F1XVH1Y0H1XNF1Y0F1XVH1Y0H1XJ",
  "F1Y0F1XVH1Y0H1XPF1Y0F1XVH1Y0H1XPF1Y0F1XVH1Y0H1Y3X61Y0X61XTX61Y0X63YNC1Y0C7YD71Y071XNX71Y0X71d24",
  "1Y041Y141Y041gB71Y071xU41241zB41Y04gIYU11XkI12811411412C12C11811Y21QZ181O81O11811411411X41QX381",
  "O81B11C11815I1108XCa601082314P85X811301M6BL6X0Y06N501082314Y685XN11301M6OZ2F12FYAbT61Y06EYB61Y0",
  "61XV81Y083XL61Y063g681281i581Y081XT81Y083XT41Y041XV81Y081XJ81Y083gK81281hN81Y081YJ41Y041XV81Y08",
  "1XVB1Y0B1XN81Y083XN81Y08f9zOwJ10wK1Y2wK1Y1wL1Y6wKaQeMwK2X7wKHX2wKoMXbCXnS8GXnS36XnSaNf8XrU10XsN",
  "hSu0YYM30YXU10YYNY8aMYcNXMZ8YbU12YbU11YcNZSe0YgMZOdIYkL7EYkL10YkM20Yk218YkLZVdOYnU12YnU11YoNaEf",
  "6YsA20YsF16YsA15YsVo8XaOZfEYt0bk0cXL24cXL24cXL24cXL24cXL48cXLX9YIcXL24cXL34cXL12cXL26cXLrTjm1X5",
  "1Y0X51XT71Y071XVX31Y0X31XVXH1Y0XH1cA11Y011g571Y071XVX31Y0X31XVXH1Y0XH1XVX71Y0X71XVXD1Y0XD1gS012",
  "01111211iRXD1Y0XD1XVXG1Y0XG1y661261+571Y071XT41Y041XT71Y071XVX31Y0X31XV81Y081XVX71Y0X71XVXE1Y0X",
  "E1XTXG1Y0XG1cC11Y011g711Y011XVX31Y0X31XVXH1Y0XH1XTX31Y0X31kyK41241k+LXH1Y0XH1XVXD1Y0XD1XT11Y011",
  "XV71Y071XVX31Y0X31XT71Y071XVX31Y0X31XVXH1Y0XH1XVXD1Y0XD1cE11Y011XV81Y081bE01201111211lP11Y011XV",
  "71Y071XR71Y071XVX31Y0X31k+G41241lWHXH1Y0XH1XT71Y071XVX31Y0X31kE71271A71271km271271lWT71Y071XVX3",
  "1Y0X31XVXH1Y0XH1XVXD1Y0XD1XTX41Y0X41XVXG1Y0XG1XVXD1Y0XD1l611211281281n931Y031XVX31Y0X31XT01Y001",
  "XV11Y011XV81Y081XV71Y071XVX31Y0X31XT71Y071XV81Y081XT71Y071XT21Y021XVX31Y0X31XVXH1Y0XH1X3XH1O816",
  "A14A2mC75pRX31Y0X31XV91Y091c211Y011XV01Y001XV91Y091XV31Y031kxS21221kvT11211101201191291131231kv",
  "Q61261lbNX31Y0X31XV91Y091XV31Y031cA11Y011XV01Y001XV91Y091XV31Y031kyS21221lcV91Y091XVX31Y0X31XJX",
  "31Y0X31XV91Y091cA11Y011XV01Y001XV91Y091XV31Y031kzG21221koP112111012011912911312311X312X31qNX31Y",
  "0X31XV91Y091pK112111012011912911312311X312X31rD01Y001XVX31Y0X31XV91Y091XV31Y037XpGJ10K1jqU01201",
  "1112111Y212Y21jsVJ10K1jtE012011112111Y212Y21jr7J10K1jrM01201111213jtNJ10K1ju601201111213js3J10K",
  "1jsI012011112111Y212Y21juJJ10K1jv2012011112111Y212Y21jsVJ10K1jtE012011112111Y212Y21jvFJ10K1jvU0",
  "12011112111Y212Y21jtJJ10K1ju201201111213jw3J10K1jwI01201111213ju7J10K1juM012011112111Y212Y22jwN",
  "K2jx8020120Y21juVJ10K1jvE012011112111Y212Y21jxFJ10K1jxU012011112111Y212Y21jxF02802402402C02C028",
  "04jpEY512Y512Y512Y512Y512Y512Y512Y512Y512Y512Y512Y512Y512Y512Y512Y51X2Y512Y512Y512Y512Y512Y512Y",
  "512Y512Y512Y512Y512Y512Y512Y512Y512Y51Z2Y512Y512Y512Y512Y512Y512Y512Y512Y512Y512Y512Y512Y512Y51",
  "2Y512Y51jxR61041jxUY51jxTY519Y52AY21kWAY51kY9610410020Y55XkHY21liOY51jxPY51HY52IY21kWUY51kZ1024",
  "020Y51kYG010110Y21kWB61041X204X1Y21X2Y21Z161041003kcA010110Y21kZH61041C02JJ10K18Y21CY21YB610410",
  "027K1XlH05lj8Y51jx5Y51AY529Y21kYQY51kbD02K020Y5iUk+EXO14XOJ4XOVZOXO18XO13XOXLZ2XO5AXO36XOOXGXO2",
  "4XORXEXO3EXO34XO26XONnWLXO2nY8XOBX7XO1nX1XO14XO1nYCXO12XO3QXO12XO36XO12XO76XO12XO3EXO12XO36XO12",
  "XOX3XMXO1CXO12XO14XOXHYTXO12XO1X8XO12XO7Y0XO12XO12XO12XOZgVcvChiP24hiP24hiP24hiP24hiP24hiP24hiP",
  "24hiP24hiP24hiP24hiP24hiP36hiP24hiP24hiP7EhiP10hiQ26hiP10hiQ26hiP10hiQ26hiP10hiQ26hiP10hiQNZ9hi",
  "PAbEhiPEShiP24hiP24hiP24hiP24hiP24hiP24hiP24hiP24hiP24hiP24hiP24hiP36hiP24hiP24hiP7EhiP10hiQ26h",
  "iP10hiQ26hiP10hiQ26hiP10hiQ26hiP10hiQNZ9hiP3aIhiP12hiP12hiP12hiP4MhiPXrcBZgjA7RG7YrMbhUYZjQ24YZ",
  "jQFKYZjQa3eOYZn712YZn7mSXXAYaXU10YaYNXNZMYac924YabR9EYac23AYac9XKZ4Yac220YabO10Yac9dJlEYajQ10Ya",
  "jG20YajTdSlUYarF12YarFxTXtOYbnGn*9XZ+IYtmU10Ytn910YtmV1MYtmV1LYtn016YtmV12YtmV11Ytn0ZY0caCYwp71",
  "7Ywp71CYwp7"]

/-- The combining classes of all code points. -/
def packedClasses : List String := [
  "u00Ld61d84cS1d81cO5cS2cA4cS2cABcS514cS8d61dG1d63cS3d62cS103d64cS1d61d82cS1d61d92dA1d92dA1d9Dd6e",
  "J05d6e901cS4d61cS3d61cU1cS6d66cS2d61cS2d61cU1d41d61A1B1C1D1E1F1G1H1I2J1K1L1M101N101O1P101d61cS1",
  "01IY808d61U1V1X0XG01R1S1T1U1V1X01X11X22d62cS5d61cS2d61cSG01X3Z507d6204d61cS1d6202d6101cS2d61cSX",
  "301X4U01d61cS2d61cS2d63cS1d62cS1d61cS3d61cS1d61cS1d61cS1d61cS2d6b007d61cS1d6901cSO04d6109d6103d",
  "6105d6XB03cSXR02d63cS4d6XA05d65cSEd6101cS2d61cS2d61cS3d63cS1R1S1T3d61cS2d62cS5d6XS017G019301d61",
  "cS2d6Z7017G019XG01d6XT017G019ZE017G019ZE017G019ZV019ZE017G019701YK1YRZ5017G019ZD029G019ZS019ZD0",
  "2Z719D04ZBZC02ZM19D04ZQYC02cSR01cS101cS101cOXN01a11a2101a4504a2201a2102d619102d6XU01cSZG0171029",
  "YI01cSsF03d6zK029U019aT019A01d6cB01d4aF01cU1d61cScR01d61cSY7019K08d6201cSXG05d66cS2d61cS102cS2d",
  "62cS5d61cSId61cS206d61cS4d61dAY8017F019X601d61cS7d6XM029XQ017B029Y3017aO03d610115cS2d64cS1d6107",
  "1401cS601d6302d6c602d61cS7d61cS2d61dA1cM1cS1cAX5d61d82d41cS1cQ1d61d91cS1d61cSsG02d6214d6312d640",
  "1d630211d61cS1d6214cS1d6Y*U03d6aD019Z00X0d6nA01cQ1d41d81cU2d0Z9028zkK01d640Ad6X002d6YG02d6eK019",
  "X5019aN019R0Id6XP03cSX5019YV017C019dF01d6102d61cS202d6502d6101d6XK019dM019pvG01Qu107d67cS2d6+D0",
  "1cSd201cSaL05d6XqI01cS101d6X801d6111cS4019b501d61cSnT04d6Y105d6fT02d6YD02cS103cSY602cS3d61cS1d6",
  "4cSXH01d61cS1d61cSc0019X9019E019XP01917Y503d6XG029XU017YC0199017ZA01917bI01719YG027G019O07d6305",
  "d6YP039ZH0193017N01d6Z301917dR01917ZU019ZM01917ZJ019eD01917e20294017aS019YJ019I019YH019j5019e20",
  "171029YH019j9029mlC019Yk0051XR07d6XbP026pbC011bc602cO31301d25cO808cS205d62cSU04d6aK03d6ZjR07d61",
  "0Hd6207d6102d6105d6Z401d6b007d6hN01d6XT04d6lS02d81cS1d6dU01d61cSdJ01d6201d6702d6501d6kQ07cSZD06",
  "d617+brL0"]

/-- Composites from packed numbers, given the whole and the first part before. -/
def unpackComposites (whole : Nat) (first : Int) : List Nat → List Composite
  | step :: change :: second :: rest =>
    let whole := whole + step
    let first := first + Packed.signed change
    ⟨whole, first.toNat, second + 0x300⟩ :: unpackComposites whole first rest
  | _ => []

/-- The code points that join two others, in rising order. -/
def composites : List Composite := unpackComposites 0 0 (Packed.numbers packedComposites)

/-- The combining classes. -/
def classes : Partition := .ofPacked packedClasses

/-- The class by which marks are ordered; zero for everything that is no such mark. -/
def combiningClass (c : Char) : Nat := classes.of c

/-! ### Hangul -/

/-- The first syllable. -/
def syllableBase : Nat := 0xAC00

/-- The number of syllables with one leading consonant. -/
def perLeading : Nat := 588

/-- The number of syllables with one leading consonant and one vowel. -/
def perVowel : Nat := 28

/-- The parts of a syllable: its leading consonant and vowel, or what precedes its last consonant,
and that consonant. -/
def syllableApart? (n : Nat) : Option (Nat × Nat) :=
  if n < syllableBase || 0xD7A3 < n then none
  else
    let k := n - syllableBase
    if k % perVowel == 0 then
      some (0x1100 + k / perLeading, 0x1161 + k % perLeading / perVowel)
    else some (n - k % perVowel, 0x11A7 + k % perVowel)

/-- The syllable that two parts join to. -/
def syllableJoin? (a b : Nat) : Option Nat :=
  if 0x1100 ≤ a && a ≤ 0x1112 && 0x1161 ≤ b && b ≤ 0x1175 then
    some (syllableBase + (a - 0x1100) * perLeading + (b - 0x1161) * perVowel)
  else if syllableBase ≤ a && a ≤ 0xD7A3 && (a - syllableBase) % perVowel == 0 &&
      0x11A8 ≤ b && b ≤ 0x11C2 then
    some (a + (b - 0x11A7))
  else none

/-! ### The composed form -/

/-- The two parts of a code point. -/
def parts? (n : Nat) : Option (Nat × Nat) :=
  match syllableApart? n with
  | some parts => some parts
  | none => (composites.find? (·.whole == n)).map fun p => (p.first, p.second)

/-- The code point that two others join to. -/
def join? (a b : Nat) : Option Nat :=
  match syllableJoin? a b with
  | some n => some n
  | none => (composites.find? fun p => p.first == a && p.second == b).map (·.whole)

/-- The greatest number of marks that one code point joins to a letter. -/
def depth : Nat := 4

/-- A code point taken apart, first part first, in so many steps at most. -/
def apart : Nat → Nat → List Nat
  | 0, n => [n]
  | steps + 1, n =>
    match parts? n with
    | some (first, second) => apart steps first ++ [second]
    | none => [n]

/-- A mark put in front of others, behind those of a lower class. -/
def insertMark (c : Char) : List Char → List Char
  | [] => [c]
  | d :: rest =>
    if combiningClass d != 0 && combiningClass d < combiningClass c then d :: insertMark c rest
    else c :: d :: rest

/-- A text taken apart, its marks in order. -/
def decomposed (cs : List Char) : List Char :=
  (cs.flatMap fun c => (apart depth c.toNat).map Char.ofNat).foldr insertMark []

/-- The composed form of the rest of a text. At hand are the letter that marks may join, and the
marks that did not join it, last first. -/
def joinAll (letter : Char) (held : List Char) : List Char → List Char
  | [] => letter :: held.reverse
  | c :: rest =>
    let free := match held with
      | [] => true
      | d :: _ => combiningClass d < combiningClass c
    match if free then join? letter.toNat c.toNat else none with
    | some n => joinAll (Char.ofNat n) held rest
    | none =>
      if combiningClass c == 0 then letter :: held.reverse ++ joinAll c [] rest
      else joinAll letter (c :: held) rest

/-- The composed form of a text. Marks at its very start join nothing. -/
def composed (cs : List Char) : List Char :=
  let cs := decomposed cs
  let marks := cs.takeWhile (combiningClass · != 0)
  match cs.dropWhile (combiningClass · != 0) with
  | [] => marks
  | letter :: rest => marks ++ joinAll letter [] rest

end Waybill.Composition
