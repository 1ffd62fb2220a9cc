import Waybill.Character.Partition

/-!
# Characters, words and sentences

A text falls into what a reader takes for characters, into words and into sentences. Where it does
follows from the parts that its code points play in each of the three divisions.

## Main definitions

* `Waybill.Segmentation.clusters`, `Waybill.Segmentation.words`, `Waybill.Segmentation.sentences`.
* `Waybill.Segmentation.find?` — the code points that play a part.
-/

namespace Waybill.Segmentation

/-! ### Characters as a reader takes them -/

/-- The parts in a character, with their names; the first is none of note. -/
def clusterNames : List (List String) := [
  ["Other", "XX"], ["Control", "CN"], ["LF"], ["CR"], ["Extend", "EX"], ["Prepend", "PP"],
  ["SpacingMark", "SM"], ["L"], ["V"], ["T"], ["ZWJ"], ["LV"], ["LVT"],
  ["Regional_Indicator", "RI"]]

/-- The parts of all code points in characters. -/
def packedClusters : List String := [
  "A1122113I1YV0X11D011oI0ZG4eJ074e70XD41014102410241014XO065A0B41011XE0L4G014Z507415106420241044X",
  "10151014U0R4YR0B4XQ0949014O044109410341054XB034XK0255094XA0O415X0416XM01416141036844614261074A0",
  "24T01426XO0141014264420262026149014A024Q014202416XO014103624402420343014U0243014B02416XO0141036",
  "54102416102614K024M064101426XO0141024164420262026147034A024U014XR01416142630361036149014X801436",
  "14XN014103446103410447024B024T01426XO014101624161426103410447024B024F016C02426XN024101426441036",
  "103614158014A024T01426Y6014401426341014107614I026XT014101674C084Z2014101694B074Y9024R0141014101",
  "44026XH0E41654102450B410X449014Z6044166410242624N026244034G044D0141016246014F014Z20Z07Y88YO9gT0",
  "34zI044S034T024U024Y00241674861426B49014XD0341114ZL024X2014ZM0344624364026146634cR0242614XP0161",
  "4167410141014208466A42014XG0XE420C4K04416XF0A44634X6094C02416U016442664XO014162436141654XG08684",
  "2624aO03410D4167440146014201624c60Y04mB011141A21O071XH0G1Z00X14Y*U034aD014Z00X04nA064Z9024zkK04",
  "410A4X0024YG024eG01430144014N02624164014YJ026XI0G624Q0I4D014X6084P0B41614C0T7303416XF0142644262",
  "42614X4014Y306426242624C014801416XE014XJ0141034202450241014X90162426501614dC02614261426101614I0",
  "1BRC1BRC1BRC1BRC1BRC1BRC1BRC1BRC1BRC1BRC1BRC1BRC1BRC1BRC1BRC1BRC1BRC1BRC1BRC1BRC1BRC1BRC1BRC1BR",
  "C1BRC1BRC1BRC1BRC1BRC1BRC1BRC1BRC1BRC1BRC1BRC1BRC1BRC1BRC1BRC1BRC1BRC1BRC1BRC1BRC1BRC1BRC1BRC1B",
  "RC1BRC1BRC1BRC1BRC1BRC1BRC1BRC1BRC1BRC1BRC1BRC1BRC1BRC1BRC1BRC1BRC1BRC1BRC1BRC1BRC1BRC1BRC1BRC1",
  "BRC1BRC1BRC1BRC1BRC1BRC1BRC1BRC1BRC1BRC1BRC1BRC1BRC1BRC1BRC1BRC1BRC1BRC1BRC1BRC1BRC1BRC1BRC1BRC",
  "1BRC1BRC1BRC1BRC1BRC1BRC1BRC1BRC1BRC1BRC1BRC1BRC1BRC1BRC1BRC1BRC1BRC1BRC1BRC1BRC1BRC1BRC1BRC1BR",
  "C1BRC1BRC1BRC1BRC1BRC1BRC1BRC1BRC1BRC1BRC1BRC1BRC1BRC1BRC1BRC1BRC1BRC1BRC1BRC1BRC1BRC1BRC1BRC1B",
  "RC1BRC1BRC1BRC1BRC1BRC1BRC1BRC1BRC1BRC1BRC1BRC1BRC1BRC1BRC1BRC1BRC1BRC1BRC1BRC1BRC1BRC1BRC1BRC1",
  "BRC1BRC1BRC1BRC1BRC1BRC1BRC1BRC1BRC1BRC1BRC1BRC1BRC1BRC1BRC1BRC1BRC1BRC1BRC1BRC1BRC1BRC1BRC1BRC",
  "1BRC1BRC1BRC1BRC1BRC1BRC1BRC1BRC1BRC1BRC1BRC1BRC1BRC1BRC1BRC1BRC1BRC1BRC1BRC1BRC1BRC1BRC1BRC1BR",
  "C1BRC1BRC1BRC1BRC1BRC1BRC1BRC1BRC1BRC1BRC1BRC1BRC1BRC1BRC1BRC1BRC1BRC1BRC1BRC1BRC1BRC1BRC1BRC1B",
  "RC1BRC1BRC1BRC1BRC1BRC1BRC1BRC1BRC1BRC1BRC1BRC1BRC1BRC1BRC1BRC1BRC1BRC1BRC1BRC1BRC1BRC1BRC1BRC1",
  "BRC1BRC1BRC1BRC1BRC1BRC1BRC1BRC1BRC1BRC1BRC1BRC1BRC1BRC1BRC1BRC1BRC1BRC1BRC1BRC1BRC1BRC1BRC1BRC",
  "1BRC1BRC1BRC1BRC1BRC1BRC1BRC1BRC1BRC1BRC1BRC1BRC1BRC1BRC1BRC1BRC1BRC1BRC1BRC1BRC1BRC1BRC1BRC1BR",
  "C1BRC1BRC1BRC1BRC1BRC1BRC1BRC1BRC1BRC1BRC1BRC1BRC1BRC1BRC1BRC1BRC1BRC1BRC1BRC1BRC1BRC1BRC1BRC1B",
  "RC1BRC1BRC1BRC1BRC1BRC1BRC1BRC1BRC1BRC1BRC1BRC1BRC1BRC1BRC1BRC1BRC1BRC1BRC1BRC1BRC1BRC1BRC1BRC1",
  "BRC1BRC1BRC1BRC1BRC1BRC1BRC1BRC1BRC1BRC1BRC1BRC1BRC1BRC1BRC1BRC1BRC1BRC1BRC1BRC1BRC1BRC1BRC1BRC",
  "1BRC1BRC1BRC1BRC1BRC1BRC1BRC1BRC1BRC1BRC1BRC1BRC1BRC1BRC1BRC1BRC1BRC1BRC1BRCC0N840XH9ev2014t10G",
  "4G0G4cF011aU024YG0C1m1014d2014aL054Xq603410245044X80344014b5024nT044Y1054fT024YD064Y60B4XH044ZQ",
  "0161416XL0F4X90142024A03416XD03644262420154014A015XI034X40541684G026XC014C02416XG03694161410255",
  "044101614YS03634264460142014aT0143684L02426XN024101416144620262026149014A02620743054Y3014266410",
  "1420141034161026341514E024YI0368426341614N014YH01426641614261416241624dB01426442046241624R024YI",
  "0368426141624ZA01416142684Z503420441654e0036941624dL01456102620441516151614aD03644202446143016S",
  "0A4X8064161544801490642634X8065D41624c60141634161416c70167410641614YI0M410167416241624ZQ0643014",
  "102410741514Y205610241026141614gR0242690241516XG02654302634N014bcL0G11460F4hc80C43634Yk0054XR07",
  "4nC0183048l401410XN67044YH014B024pbB0241041aoS0XE420N4mU054306481842074U044aK034XzR0XN440XI4801",
  "4E014M05410F4XgG07410H4207410241054Z4014b0074hN014XT044lS044dU024dJ014201470245014kQ074ZD074YaR",
  "0QDlR054uZW00X01Z04a01dG4ZmG1byW00"]

/-- The parts that code points play in them. -/
def clusters : Partition := .ofPacked packedClusters

/-! ### Words -/

/-- The parts in a word, with their names; the first is none of note. -/
def wordNames : List (List String) := [
  ["Other", "XX"], ["LF"], ["Newline", "NL"], ["CR"], ["WSegSpace"], ["Double_Quote", "DQ"],
  ["Single_Quote", "SQ"], ["MidNum", "MN"], ["MidNumLet", "MB"], ["Numeric", "NU"],
  ["MidLetter", "ML"], ["ALetter", "LE"], ["ExtendNumLet", "EX"], ["Format", "FO"], ["Extend"],
  ["Hebrew_Letter", "HL"], ["ZWJ"], ["Katakana", "KA"], ["Regional_Indicator", "RI"]]

/-- The parts of all code points in words. -/
def packedWords : List String := [
  "A0112213I014101540164017101810A91A1750QB401C10QBA012X401B201D701B101A201B50NB10VB10l0B60X2BZGE5",
  "B102B204B171B601B1A3B101B10KB10YJB10aBB107Eb6B10X6B204B101B1AX9B171B60XDE101E102E102E101E80RF40",
  "4F1B1AB06D602720BE101D30XBBLEA9101917102B1EZ3B101B7E1D106E2B2E104E2BA93B201BF01D1B1EUBRE20YPBBE",
  "1BE0A9X1B9E2B2017101B201E20MB4E1B9E1B3E1B5EI0PB3E40BB50OB107B2D509EXABOE1DX1EXMB3E1BIE1B7EAB2E2",
  "0A910GB3E108B202B20MB107B101B304B201E1B7E202E203E1B801E402B103B2E20A92BA01B101E203E106B402B20MB",
  "107B102B102B102B201E105E402E203E301E704B101B70A92E3B1EB03E109B103B10MB107B102B105B201E1B8E103E1",
  "03E201BF02B2E20A9901B6E103E108B202B20MB107B102B105B201E1B7E202E203E703E402B103B2E20A9101BG01E1B",
  "106B303B104B302B101B102B302B303B30CB405E303E104E201B601EE0A9G05E8B103B10NB10GB201E1B7E103E104E7",
  "02E103B102B202B2E20A9G01B3E108B103B10NB10AB105B201E1B7E103E104E702E503B102B2E20A9102B1EC04E9B10",
  "3B10X9B2E1B7E103E104E1B503B1E703B2E20A9A06B103E10IB30OB109B101B207B301E406E101E108E60A9202EXT01",
  "E207EC08E10A9YN01E209EB07E10A9X601BN02E60A9B01E101E101E402E8B10X4B40KE102E5BBE10X4E901EZ40KE10A",
  "9C04E403E103E207E304ED0CE101EA94E20X6B101B501B20XBB10gDB104B207B101B104B20X9B104B20X1B104B207B1",
  "01B104B20FB10XPB104B20Y3B203EX00GBG0YMB206B30pCB20HB14QB50YBB30BB70IB4E90JB3EB0IB2EC0DB103B102E",
  "Y00X0E901E20A9X103E1D1EA960YPB705B2EX2B1E1B50Y6BA0VB10CE40CEA0A9a00A9X60NB5EXP0AE10TE201EA960A9",
  "M0XEE20CEK05EXFBHE8B30A9H09EC03EUBDE2BA9XCBEEC0X4BKE80A9303BA9X4B20BB50XBB203BG03E10LE4B1E6B1E2",
  "B3E1B50c0BY0EeMB206B20X6B206B208B101B101B101B10VB20XLB107B101B303B107B304B206B40DB503B107B30741",
  "034101E1G2D8028A018201A225D1CF02C3017F01CA0145D10AD101BD01BG0DBXJ0X1EH01B401B20AB101B305B601B10",
  "1B101B104B10BB204B505B401BH0X9BvD0XKBXuM0d5B604B3E2BC0X6B101B501B20XOB701BF01ENB907B107B107B107",
  "B107B107B107B107B10X0EXF01BkG014401BX406E105H502BYS02E2H30YRH104H50XBB10YUBH0X0BXG0GHcG0XFH10YO",
  "Hxb80XaDBY30XEB20eDB30GBA92BK0XFB4E10AE10VB2EYGB2EM0cLBK0HB1E3B1E4B1ENB5E401EJ0XKBC02EXIBIEA0A9",
  "60IE6B301B102B1EA9SB8E20NBDEC0TB304EXFBEEE01BA9B01EA0A960X9BEE903B1E8B2E20A9X103EXI01E103E202E5",
  "02E101EU0BB5E203B2EA06B206B206B907B107B10XQB60ZJB8E102E20A960gz4BC0NB40XHBeu407BC05B501F1EAF10D",
  "F105F101F102F102F10AFZ2BX10hBBI0Y0B20XMBX80CB40GE17201A17B0GE302CO03C17101810171AQ05B10a7B201D7",
  "0184017101810A91A1750QB401C10QBB0XOH2EVB306B206B206B203BS03D40CB10QB10JB102B10FB20EBX20ZRBY50XL",
  "Ba801Ea20TB30XHBF01EV0X0BD0UB50X6B5E50UB20X4B408B105BXA0aUB20A960X4B40X4B40X8B80XKBC0BB10FB107B",
  "102B10BB10FB107B102B30XKBC0fNB90MBA08BO06B10XAB109BY506B201B10XCB102B301B20NBA0NB90VBY10JB102BA",
  "0MBA0QB60QBX60XOB602BY001B3E102E504E4B103B10TB203E401EX00TB30TBX308B10SB2EP0XMBA0MBA0JBD0IBZE0Y",
  "9BXN0XJBD0XJBD0X4B4E80A960A9SB305E10NBdQ0XAB102E302BG06BXI06ETBA01B80MBBEV0IB4EXA0LBR0NB903EXLB",
  "FEV0A91E2B2E1B904EXDBBE201D401EA01D20PB70A9603EX4BEE10A9401B2E1B80X3B1E201B903EXGBEE4B404E102EA",
  "91B101BX30IB10PBCE601E2B1EXU07B101B104B10FB10AB70XFBCE50A9604E108B202B20MB107B102B105B102E1B7E2",
  "02E203E201B601E505B2E207E305EB0AB101B201B10X6B101B9E101E201E104E105E1B1E1BD02ET0XLBIE4B50A9401E",
  "3BU0XGBKE2B101B80A9b60XFB7E209EN04B2EX20XGBHE301BB0A9X60XBBDE1B70A960K9XP0FE40A9c60XCBFEZ50Y0BA",
  "9L08B201B208B102B10OB6E102E204E1B1E1B2EC0A9Y608B20X7B7E207E1B101B1ER01BAEX8B7E1B4E801E801BBEXEB",
  "GE301BI0Y9BZ708EYO0X1BF0A9609B10X5B8E108E1BF0A9O0UB20ME10EEY907B102B10X6B6E301E102E107E1B1E80A9",
  "606B102B10X0B5E102E105E1B70A960XCB40A9dM0JB4E902E1B1EDB10X2B7E305ED0A91EYL01BYF0yQBZ60ZFBH0c4BY",
  "oC0Z1BF0XXGBGD1E6BFEA0ZyRB50o7BcrP0UBIEA9Xs60nPB70VB10A960YFB10A960UB205EB0XGB7E904BC0A990LB50J",
  "BjG0XDB30A9c60Y0BX00PB20PBXC0YBB401E1BXNE704EDBY002B101B1EB02El*U04H107H102H101HeV03HXI01HE04HY",
  "qO0ZBB50DB309B70AB302E104DaYC0A9m60XEE20NEmU05E306E8D8E207EU04EaK03EjR0YLB10Y7B102B201B202B204B",
  "10CB101B107B10Y1B104B208B107B10SB104B105B101B307B10gKB20PB10PB10VB10PB10VB10PB10VB10PB10VB10PB1",
  "08B20XI9m00XNE40XIE801EE01EM05E10FEXYG0VB606BcL07E10HE207E102E105E50XUBX101EZG0XDB307E7B20A9401",
  "Bg10UB1EH0XCB4EA9kM0SB4EA9cM0UB2E1BA9c50VB103B1E2B1E7B2E5B1E802Bd007B104B102B10FB10c5BB07EX90Y4",
  "B7E1B40A9Xb604B10RB102B101B201B10AB104B101B101B601B401B101B101B103B102B101B201B101B101B101B101B",
  "102B101B204B107B104B104B101B10AB10HB503B105B10HBpK0QB60QB60QBYS0QIlR05EX*G0A9uXW701DU0Z0Ea00dGE",
  "b*mG0"]

/-- The parts that code points play in them. -/
def words : Partition := .ofPacked packedWords

/-! ### Sentences -/

/-- The parts in a sentence, with their names; the first is none of note. -/
def sentenceNames : List (List String) := [
  ["Other", "XX"], ["Sp", "SP"], ["LF"], ["CR"], ["STerm", "ST"], ["Close", "CL"],
  ["SContinue", "SC"], ["ATerm", "AT"], ["Numeric", "NU"], ["Upper", "UP"], ["Lower", "LO"],
  ["Sep", "SE"], ["Format", "FO"], ["OLetter", "LE"], ["Extend", "EX"]]

/-- The parts of all code points in sentences. -/
def packedSentences : List String := [
  "9011122113I0111415403520261710A816401410Q915101530QA151015701BQ011901A15101C701A401A1540N91079O",
  "A108A191A191A191A191A191A191A191A191A191A191A191A191A191A191A191A191A191A191A191A191A191A191A19",
  "1A191A191A191A191A192A191A191A191A191A191A191A191A192A191A191A191A191A191A191A191A191A191A191A1",
  "91A191A191A191A191A191A191A191A191A191A191A191A191A291A191A193A291A191A291A392A491A291A393A291A",
  "291A191A191A291A192A191A291A391A191A292A1D193A4D291A291A291A191A191A191A191A191A191A191A192A191",
  "A191A191A191A191A191A191A191A192A291A191A391A191A191A191A191A191A191A191A191A191A191A191A191A19",
  "1A191A191A191A191A191A191A191A191A191A191A191A191A191A191A191A197A291A292A191A491A191A191A191A1",
  "9Y5A1DX4A7D2A40CDE05A701D101DH0ZGE191A191A1D10191A204A101960191039101910291AH91099X3A192A393A19",
  "1A191A191A191A191A191A191A191A191A191A191A195A191A10191A292AXJ9XGA191A191A191A191A191A191A191A1",
  "91A191A191A191A191A191A191A191A191A191A107E191A191A191A191A191A191A191A191A191A191A191A191A191A",
  "191A191A191A191A191A191A191A191A191A191A191A191A191A191A291A191A191A191A191A191A192A191A191A191",
  "A191A191A191A191A191A191A191A191A191A191A191A191A191A191A191A191A191A191A191A191A191A191A191A19",
  "1A191A191A191A191A191A191A191A191A191A191A191A191A191A191A191A191A191A191A191A191A191A10X69201D",
  "301620X9A1470XDE101E102E102E101E80RD405DC06C602620BE101C34XBDLEA81028102D1EZ3D141D7E1C106E2D2E1",
  "04E2DA83D201D34C01C1D1EUDRE20YPDBE1DE0A8X1D9E2D2016141D201E20MD4E1D9E1D3E1D5E90141014302410PD3E",
  "40BD50OD107D2C509EXADOE1CX1EXMD3E1DIE1D7EAD2E24A810GD3E108D202D20MD107D101D304D201E1D7E202E203E",
  "1D801E402D103D2E20A82DA01D101E203E106D402D20MD107D102D102D102D201E105E402E203E301E704D101D70A82",
  "E3D1EB03E109D103D10MD107D102D105D201E1D8E103E103E201DF02D2E20A8901D6E103E108D202D20MD107D102D10",
  "5D201E1D7E202E203E703E402D103D2E20A8101DG01E1D106D303D104D302D101D102D302D303D30CD405E303E104E2",
  "01D601EE0A8G05E8D103D10ND10GD201E1D7E103E104E702E103D102D202D2E20A8G01D3E108D103D10ND10AD105D20",
  "1E1D7E103E104E702E503D102D2E20A8102D1EC04E9D103D10X9D2E1D7E103E104E1D503D1E703D2E20A8A06D103E10",
  "ID30OD109D101D207D301E406E101E108E60A8202ED0XGD1E2D7E507D8E10A8X702D101D105D10OD101D10AD1E2D9E1",
  "D205D101D107E10A8204DX001DN02E60A8B01E101E101E452E8D10X4D40KE102E5DBE10X4E901EXP0XBDKE1DA824406",
  "D4E4D3E1D3E2D7E3D4EDDCE1D1EA84E20X691019501920XBD101AgCD104D207D101D104D20X9D104D20X1D104D207D1",
  "01D104D20FD10XPD104D20Y3D203E20144024N0GDG0YM9206A30pCD1014HD11QD2530YBD30BD70ID4E90JD3E2490ID2",
  "EC0DD103D102EC0XKDX0E301D401D1E20A8O01614401614103E1C1EA860YPD705D2EX2D1E1D50Y6DA0VD10CE40CE802",
  "4A8UD205DB0XCD40QD60A8X60ND5E40XLDAE10TE201EA860A8D01D4440XEE20CEK05EXFDHE8D1024A8242024B09E903",
  "43EUDDE2DA8XCDEEC0X4DKE302430A8303DA8X4D249A191A50XBD203DG03E10LE4D1E6D1E2D3E1D50c0AY0E191A191A",
  "191A191A191A191A191A191A191A191A191A191A191A191A191A191A191A191A191A191A191A191A191A191A191A191",
  "A191A191A191A191A191A191A191A191A191A191A191A191A191A191A191A191A191A191A191A191A191A191A191A19",
  "1A191A191A191A191A191A191A191A191A191A191A191A191A191A191A191A191A191A191A191A191A191A191A191A1",
  "91A199A191A191A191A191A191A191A191A191A191A191A191A191A191A191A191A191A191A191A191A191A191A191A",
  "191A191A191A191A191A191A191A191A191A191A191A191A191A191A191A191A191A191A191A191A191A191A191A191",
  "A191A191A199A896A2069208A898A896A2069208A10191019101910198A89EA208A898A898A895A102A59101A303A10",
  "2A59304A202A49408A59503A102A5930B11C2E2C302630854017302B5C1190251024702534L0115C10AC101AB0251AD",
  "02510DAXJ0X1EH0194019201A392A391A101930596019101910191049101A491A4D1A202A2950194A401AH0G9GA3D19",
  "1A4DhV045T025iB0Q9QApH06570E5YF025V0A5iJ0M5XV045X0025m20XG9XGA191A392A191A191A191A491A192A198A3",
  "91A191A191A191A191A191A191A191A191A191A191A191A191A191A191A191A191A191A191A191A191A191A191A191A",
  "191A191A191A191A191A191A191A191A191A191A191A191A191A191A191A191A191A191A191A191A191A191A191A191",
  "A191A192A60191A191A3E191AC0X6A101A501A20XOD701DF01END907D107D107D107D107D107D107D107D10X0EE5E02",
  "520A540141DC0145015G02485j30111614203DA520851035109D6E105D205D40YMD202E203D10YQD104D50XBD10YUDH",
  "0X0DXG0GDm00ck0DY00rqDDY30XED1014eDD1024GDA82DK0191A191A191A191A191A191A191A191A191A191A191A191",
  "A191A191A191A191A191A191A191A191A191A191A191A1D4E10AE101D191A191A191A191A191A191A191A191A191A19",
  "1A191A191A191A193A2EYGD2E10143014V09D20191A191A191A191A191A191A193A191A191A191A191A191A191A191A",
  "191A191A191A191A191A191A191A191A191A191A191A191A191A191A191A191A191A191A191A191A191A191A191A19A",
  "A191A191A291A191A191A191A191A1D20191A191A1D191A193A191A191A191A191A191A191A191A191A191A191A591A",
  "591A191A191A191A191A191A191A191A491A191A291A191A191A191A191A191A191A191A19K04A191A1D3A7D1E3D1E4",
  "D1END5E401EJ0XKD2024802EXIDIE8024A860IE6D301D102D1EA8SD8E1014NDDEC0TD304EXFDEE7024501DA8605D1EA",
  "DA85D10X9DEE903D1E8D2E20A83034ND301D3EXID1E1D3E2D2E5D2E1D1E1DO03D20BD5E243D2EA06D206D206D907D10",
  "7D10XBA10EA60YGAX3D8E142E20A860gz4DC0ND40XHDee40hED20ZADX607AC05A501D1EAD10DD105D101D102D102D10",
  "ZCDX10hBD25G0Y0D20XMDX80CD40GE261016302570GE102620G5202570261720162416654016C05D10a7D201C101460",
  "2520261710A816401410Q915101530QA151015102514251610XOD2EVD306D206D206D203DS03C40CD10QD10JD102D10",
  "FD20EDX20ZRDY50XLDa801Ea20TD30XHDF01EV0X0DD0UD50X6D5E50UD20X4D408D105DXA0X89X8AYED20A860X4940X4",
  "A40X8D80XKDC0B910F91079102910BA10FA107A102A30XKDC0fND90MDA08DO01A2D3A10XAA109AY506D201D10XCD102",
  "D301D20NDA0ND90VDY10JD102DA0MDA0QD60QDX60XOD602DY001D3E102E504E4D103D10TD203E401EM02480TD30TDX3",
  "08D10SD2EP0XMDA0MDA0JDD0IDZE0Y9DXN0XJ9D0XJAD0X4D4E80A860A86DM9305E101DMAdQ0XAD102E302DG06DXI06E",
  "TDA01D80MDBE4054M0ID4E44X60LDR0ND903EXLDFE24T0A81E2D2E1D904EXDDBE201C441EA01C20PD70A8603EX4DEE1",
  "0A810341D2E1D80X3D1E201D903EXGDEE4D24204E142EA81D101D1024X00ID10PDCE241024101E2D1EXU07D101D104D",
  "10FD10AD1460XFDCE50A8604E108D202D20MD107D102D105D102E1D7E202E203E201D601E505D2E207E305EB0AD101D",
  "201D10X6D101D9E101E201E104E105E1D1E1D24B02ET0XLDIE4D2430A8401E3DU0XGDKE2D101D80A8b60XFD7E209E10",
  "2450F44D2EX20XGDHE24101DB0A8X60XBDDE1D70A860K8S0RD20FE40A82034107DbP0XCDFEZ50X09X0AA8L08D201D20",
  "8D102D10OD6E102E204E1D1E1D2E14101490A8Y608D20X7D7E207E1D101D1ER01DAEX8D7E1D4E3024301E801DBEXEDG",
  "E10241DI0Y9DZ708EYO0X1DF0A8609D10X5D8E108E1D24D0A8O0UD20ME10EEY907D102D10X6D6E301E102E107E1D1E8",
  "0A8606D102D10X0D5E102E105E1D70A860XCD40A8dM0JD4E24702E1D1EDD10X2D7E305E24B0A81EYL01DYF0yQDZ60ZF",
  "DH0c4DYoC0Z1DF0XXGDGC1E6DFEA0ZyRD50o7DcrP0UDIEA8Xs60nPD70VD10A84024YFD10A860UD205E14A0XGD7E2470",
  "4D14B0A890LD50JDjG0XDD1024A8c60X09X0AO01470P920PAXC0YBD401E1DXNE704EDDY002D101D1EB02E5D90dcMDX9",
  "0X0DZ10ZJDelT04D107D102D10f3DF01DT03D201DE04D80iCDYe40ZBD50DD309D70AD302E144CaYC0A8m60XEE20NEmU",
  "05E306E8C8E207EU04EaK03EjR0Q9QAQ97A10IAQ9QA19102920192029204910894A101A107A10BAQ9QA291049208910",
  "7910QA29104910591019307910QAQ9QAQ9QAQ9QAQ9QAQ9QAQ9SA20P910PA106AP910PA106AP910PA106AP910PA106AP",
  "910PA106A191A20XI8m00XNE40XIE801EE01E3014I05E10FEXYG0AA1DKA606AcL07E10HE207E102E105E50XUAX101EZ",
  "G0XDD307E7D20A8401Dg10UD1EH0XCD4EA8kM0SD4EA8cM0UD2E1DA8c50VD103D1E2D1E7D2E5D1E802Dd007D104D102D",
  "10FD10c5DB07EX90X29X2A7E1D40A8Xb604D10RD102D101D201D10AD104D101D101D601D401D101D101D103D102D101",
  "D201D101D101D101D101D102D101D204D107D104D104D101D10AD10HD503D105D10HDpK0Q960Q960Q9XdC035XhN0A8X",
  "W60Xft0DX00aeUD20bqED20dfHDF0pEDYj20mUDXl20awBD50efADroy701CU0Z0Ea00dGEb*mG0"]

/-- The parts that code points play in them. -/
def sentences : Partition := .ofPacked packedSentences

/-! ### Looking parts up -/

/-- The code points that play the part whose name satisfies a condition, unless it is none of
note. -/
def find? (names : List (List String)) (division : Partition) (wanted : String → Bool) :
    Option CodeSet :=
  match names.findIdx? (·.any wanted) with
  | some (i + 1) => some (division.set (· == i + 1))
  | _ => none

end Waybill.Segmentation
