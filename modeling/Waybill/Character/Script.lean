import Waybill.Character.Partition

/-!
# Scripts

Every character is of one script, or common to several, or takes the script of what precedes it. A
character that is common to a few scripts only, or at home in more than its own, has a list of them.

## Main definitions

* `Waybill.Script.named?` — the number of a script in the table.
* `Waybill.Script.set` — the characters of a script.
* `Waybill.Script.users` — the characters that a script uses, its own and shared ones.
-/

namespace Waybill.Script

/-- The scripts with their names, in the order of the table. -/
def names : List (List String) := [
  ["Common", "Zyyy"], ["Latin", "Latn"], ["Bopomofo", "Bopo"], ["Inherited", "Zinh", "Qaai"],
  ["Greek", "Grek"], ["Unknown", "Zzzz"], ["Coptic", "Copt", "Qaac"], ["Cyrillic", "Cyrl"],
  ["Armenian", "Armn"], ["Hebrew", "Hebr"], ["Arabic", "Arab"], ["Syriac", "Syrc"],
  ["Thaana", "Thaa"], ["Nko", "Nkoo"], ["Samaritan", "Samr"], ["Mandaic", "Mand"],
  ["Devanagari", "Deva"], ["Bengali", "Beng"], ["Gurmukhi", "Guru"], ["Gujarati", "Gujr"],
  ["Oriya", "Orya"], ["Tamil", "Taml"], ["Telugu", "Telu"], ["Kannada", "Knda"],
  ["Malayalam", "Mlym"], ["Sinhala", "Sinh"], ["Thai"], ["Lao", "Laoo"], ["Tibetan", "Tibt"],
  ["Myanmar", "Mymr"], ["Georgian", "Geor"], ["Hangul", "Hang"], ["Ethiopic", "Ethi"],
  ["Cherokee", "Cher"], ["Canadian_Aboriginal", "Cans"], ["Ogham", "Ogam"], ["Runic", "Runr"],
  ["Tagalog", "Tglg"], ["Hanunoo", "Hano"], ["Buhid", "Buhd"], ["Tagbanwa", "Tagb"],
  ["Khmer", "Khmr"], ["Mongolian", "Mong"], ["Limbu", "Limb"], ["Tai_Le", "Tale"],
  ["New_Tai_Lue", "Talu"], ["Buginese", "Bugi"], ["Tai_Tham", "Lana"], ["Balinese", "Bali"],
  ["Sundanese", "Sund"], ["Batak", "Batk"], ["Lepcha", "Lepc"], ["Ol_Chiki", "Olck"],
  ["Braille", "Brai"], ["Glagolitic", "Glag"], ["Tifinagh", "Tfng"], ["Han", "Hani"],
  ["Hiragana", "Hira"], ["Katakana", "Kana"], ["Yi", "Yiii"], ["Lisu"], ["Vai", "Vaii"],
  ["Bamum", "Bamu"], ["Syloti_Nagri", "Sylo"], ["Phags_Pa", "Phag"], ["Saurashtra", "Saur"],
  ["Kayah_Li", "Kali"], ["Rejang", "Rjng"], ["Javanese", "Java"], ["Cham"], ["Tai_Viet", "Tavt"],
  ["Meetei_Mayek", "Mtei"], ["Linear_B", "Linb"], ["Lycian", "Lyci"], ["Carian", "Cari"],
  ["Old_Italic", "Ital"], ["Gothic", "Goth"], ["Old_Permic", "Perm"], ["Ugaritic", "Ugar"],
  ["Old_Persian", "Xpeo"], ["Deseret", "Dsrt"], ["Shavian", "Shaw"], ["Osmanya", "Osma"],
  ["Osage", "Osge"], ["Elbasan", "Elba"], ["Caucasian_Albanian", "Aghb"], ["Vithkuqi", "Vith"],
  ["Todhri", "Todr"], ["Linear_A", "Lina"], ["Cypriot", "Cprt"], ["Imperial_Aramaic", "Armi"],
  ["Palmyrene", "Palm"], ["Nabataean", "Nbat"], ["Hatran", "Hatr"], ["Phoenician", "Phnx"],
  ["Lydian", "Lydi"], ["Sidetic", "Sidt"], ["Meroitic_Hieroglyphs", "Mero"],
  ["Meroitic_Cursive", "Merc"], ["Kharoshthi", "Khar"], ["Old_South_Arabian", "Sarb"],
  ["Old_North_Arabian", "Narb"], ["Manichaean", "Mani"], ["Avestan", "Avst"],
  ["Inscriptional_Parthian", "Prti"], ["Inscriptional_Pahlavi", "Phli"],
  ["Psalter_Pahlavi", "Phlp"], ["Old_Turkic", "Orkh"], ["Old_Hungarian", "Hung"],
  ["Hanifi_Rohingya", "Rohg"], ["Garay", "Gara"], ["Yezidi", "Yezi"], ["Old_Sogdian", "Sogo"],
  ["Sogdian", "Sogd"], ["Old_Uyghur", "Ougr"], ["Chorasmian", "Chrs"], ["Elymaic", "Elym"],
  ["Brahmi", "Brah"], ["Kaithi", "Kthi"], ["Sora_Sompeng", "Sora"], ["Chakma", "Cakm"],
  ["Mahajani", "Mahj"], ["Sharada", "Shrd"], ["Khojki", "Khoj"], ["Multani", "Mult"],
  ["Khudawadi", "Sind"], ["Grantha", "Gran"], ["Tulu_Tigalari", "Tutg"], ["Newa"],
  ["Tirhuta", "Tirh"], ["Siddham", "Sidd"], ["Modi"], ["Takri", "Takr"], ["Ahom"],
  ["Dogra", "Dogr"], ["Warang_Citi", "Wara"], ["Dives_Akuru", "Diak"], ["Nandinagari", "Nand"],
  ["Zanabazar_Square", "Zanb"], ["Soyombo", "Soyo"], ["Pau_Cin_Hau", "Pauc"], ["Sunuwar", "Sunu"],
  ["Bhaiksuki", "Bhks"], ["Marchen", "Marc"], ["Masaram_Gondi", "Gonm"], ["Gunjala_Gondi", "Gong"],
  ["Tolong_Siki", "Tols"], ["Makasar", "Maka"], ["Kawi"], ["Cuneiform", "Xsux"],
  ["Cypro_Minoan", "Cpmn"], ["Egyptian_Hieroglyphs", "Egyp"], ["Anatolian_Hieroglyphs", "Hluw"],
  ["Gurung_Khema", "Gukh"], ["Mro", "Mroo"], ["Tangsa", "Tnsa"], ["Bassa_Vah", "Bass"],
  ["Pahawh_Hmong", "Hmng"], ["Kirat_Rai", "Krai"], ["Medefaidrin", "Medf"], ["Beria_Erfe", "Berf"],
  ["Miao", "Plrd"], ["Tangut", "Tang"], ["Nushu", "Nshu"], ["Khitan_Small_Script", "Kits"],
  ["Duployan", "Dupl"], ["SignWriting", "Sgnw"], ["Nyiakeng_Puachue_Hmong", "Hmnp"], ["Toto"],
  ["Wancho", "Wcho"], ["Nag_Mundari", "Nagm"], ["Ol_Onal", "Onao"], ["Tai_Yo", "Tayo"],
  ["Mende_Kikakui", "Mend"], ["Adlam", "Adlm"]]

/-- The scripts of all code points. -/
def packedScripts : List String := [
  "Y10Q160Q1XF011F01150N110V110k11X70515022K0ZG344103425441014451410141034151415K415XV4E6G4a5723b9",
  "715X6825XI8253815XN985R94569B55A106A10EA103A10X0A10AAB3QA13ZCA10X2AEB15XSB253BXGAXICE5XRD253DXE",
  "E25FE15SF251F15BB55X2A55YBA10TAYHG43FG20QG4H158H252H25MH157H151H354H259H252H254H851H452H155H25P",
  "H253I156I452I25MI157I152I152I152I251I155I452I253I351I754I151I75HIA53J159J153J15MJ157J152J155J25",
  "AJ153J153J251JF54J25CJ757J153K158K252K25MK157K152K155K259K252K253K753K452K155K25IKA52L156L353L1",
  "54L352L151L152L352L353L35CL455L353L154L251L651LE5LL55DM153M15NM15GM259M153M154M752M153M152M254M",
  "25AM759MDN153N15NN15AN155N259N153N154N752N553N154N25AN153NC5DO153O15XJO153O156O45GO25QO153P15IP",
  "35OP159P151P257P351P456P151P158P65AP253PC5XQQ4510SQX552R151R155R15OR151R15NR255R151R157R15AR254",
  "RX05Y8S15X4S45X7S15X4S15FS157S402SX55b0TX6U151U551U25XBU104Ue0VY9X0154X0257X0151X0154X025X9X015",
  "4X025X1X0154X0257X0151X0154X025FX015XPX0154X025Y3X025X0X035QX065YMX1256X125q0X2TX335YBX430BX475",
  "MX5951X5LX62095KX7C5DX8153X8152X8C5YUX925AX965AX9652XA201XA10KXA65YPXA75XBXA55Y6X2A5VXB15CXB45C",
  "XB451XB35CXBUXC255XCB5XCXD45QXD65BXD352XDX0X9SXE252XEXVXF15TXF25BXF65AXF65EXF25XE325C3K5YDXG15X",
  "IXGY0XHXKXI854XIXOXJ35FXJ353XJXGXKB755XBU253U8XH853310D310734013601330231055X615417XH1544154D11",
  "7Y6114Y03e01M4256425X642564258415141514151415V425XL415F415E4256415J42534159415C023YN015B01125B0",
  "11F015D135X20E5X13F5X601430216011R011H0X913045qQ0M5B0L5z00e0XLpK025aA0Z0XMX01ZK65576X6U151U551U",
  "25XOXN752XNE51XNNX0957X0157X0157X0157X0157X0157X0157X0157X015X07YU0X25QXO15YPXOC5cMXOQ5L01XO101",
  "XOP09XO432V804XO4015YMXP2523203XP10YQXQ203XQ55XB215YUV15G0X02X609510GXQVV15Y00VVYH0XFXQ10YOXQb8",
  "0ck0XOY00qm0XOXaDXR35XNXR95XGXSfCXTK5Z07YOXU85X20Z6130YI1K5F1XDXV35A065XOY085Y6Y185CY165X0GXEY2",
  "101Y2X4Y3B51Y3TV35YEY41510AY4452Y4VT15XNY595EY525AY5254Y5X0TY3Y6O55Y6NY7A56X0256X0256X0957X0157",
  "X015XB1109114412045YGX1XEY725AY765gz4VC5NV45XHVee45hEXO25ZAXOX6571C55855Q9155915191529152915A9l",
  "EA20aGAX05GAG3A065E327X3015J01540455A15a7A251015X00Q160Q1B0AXQ10XDXQ20VV356V256V256V253V3570157",
  "0A55025CY815QY815JY8152Y815FY825EY8X25ZRY8553045XD03590YF415D03514XF5XD013a25TY935XHYAF513R045X",
  "4YB953YBRYC55XBYD55UYE151YEX4YF45EYFXA5YGYGXGYHUYI25AYI65X4YJ45X4YJ45X8YK85XKYLB51YLBYM15FYM157",
  "YM152YM15BYM15FYM157YM152YM35XKYNC5fNYO95MYOA58YOO56115XA11591Y556YP251YP15XCYP152YP351YP251YPM",
  "YQ159YQX0YRVYS859YSXG5JYT152YT555YTSYU351YUQYV551YVQZ0X65X0Z1OZ245KZ225XEZ24Z3152Z3558Z3153Z315",
  "TZ3253Z345AZ3759Z375X0Z4X0Z5X05X7Z645CZ695XMZ7357Z7MZ8258Z8JZ9558Z9IZA754ZAC57ZAYG5Y9ZBXN5XJZCD",
  "5XJZC756ZCX8ZD85AZD65X6ZE35TZE852ZEcG5VA15XAZF153ZF252ZFG56A859AX156AX8ZG85XAZHM5QZIX65SZJK5NZK",
  "95YEZL45X4ZL951ZLY3ZMA51ZM25PZN75AZN65XLZO15IZO85X7ZP95Z0ZQ15KPB5IZR15XFZRXU57ZS151ZS154ZS15FZS",
  "15BZS65XRZT55AZT654ZU158ZU252ZU25MZU157ZU152ZU155ZU15139ZU252ZU253ZU251ZU651ZU557ZU257ZU355ZUB5",
  "AZV151ZV251ZV15X6ZV15AZV151ZV251ZV154ZV15AZV152ZV852ZVT5YSa0155a0U5Y8a185Aa1b65XMa225X6a2X25Y5a",
  "3B5Aa365DXAJ5XQa465Aa465KTS5Ra525Fa545Na5bP5XSa6Z45YJa7C51a77a8251a8258a8152a815Ua8152a825Ca895",
  "Aa8Y658a925XEa925Ba9R5Y8aA85YJaBD5GX2XPaC75AGYM58ZQYO5X2aDE5AaD659aE15XDaE15EaEA5TaE35X0aF25MaF",
  "15EaFY957aG152aG15XCaG351aG152aG159aG85AaG656aH152aH15X5aH152aH156aH75AaH65XCaI45AaIdM5PaJ75HaK",
  "15X9aK35TaKYL51XSF5XILD51LyQaLZ65ZFaL155aLB5c4aLYoC5Z3aMD5XYMaNA5ZyRaN55o7aOcrP5XQaPXs65nPXU75V",
  "aQ15AaQ452aQYFaR15AaR65UaS256aSA5Y6aTA5AaT157aT15LaT55JaTjG5XQaUc65YRaV55Pb025Pb0XC5YBb145XPb17",
  "5Hb1Y051b21b32XO1b4B57XO95cu0b2kMb4X951b4Vb2Z15ZJb2elT54XQ157XQ152XQ151XQeVXP3XQF51XPT53XP251XQ",
  "E54XQ85iCb3Ye45ZBb555Db5359b575Ab5254b540ZwS5dT035jK065N0F5H0F5XE325N395ZK0XS5dM0A5X7025XU033H0",
  "832073U043XT0L5Y64ZQ5K0C5K0C5YN095P0a75YL015Y70152025102520254015C01510157015Y1015402580157015S",
  "0154015501510357015gK025f4025XI0qCb6F55b615Fb6XYG5V16561cL57XM15HXM257XM152XM155XM55XU7X1517ZG5",
  "XDb735Eb725Ab7452b7g05Vb8H5XQb9551b9kG5XAbAcM5XBbB451bBc05VbC15MbC852bCd057X0154X0152X015FX015c",
  "5bD25GbDX95YCbE45AbE452bEuH5Y40YC5XT0c254A15RA152A151A251A15AA154A151A151A651A451A151A151A153A1",
  "52A151A251A151A151A151A151A152A151A254A157A154A154A151A15AA15HA553A155A15HAXK52AeE5XC045Z40C5F0",
  "25F015F015X50A5bE0XO5Q01XP20D5XC045907520E560aQ5+P035H035D035cQ065C04510F5C045XO085A065X8085U02",
  "5C04520E590X75gO085E025D035B035XP0151045G025C045A075aJ015Z70XW55Xft0XOX05aeUXO25bqEXO25dfHXOF5p",
  "EXOYj25mUXOXl25awBXO55efAXOroy7510U5Z00a05dG3b*mG5"]

/-- The lists of scripts that share a code point, by their numbers; zero for no list. -/
def packedShares : List String := [
  "bN011m4012A0131033101490151013X60161718191A1B1C1D1E1F1G1H1I1J1K101J1L101MF01N1O1P701Q1P101R1SG0",
  "1T201TI01U501V40DX0402X1eD01X21X32X41X3e101X5a201X6E01X61X7201X8X001X9A0BXAA0AXB601XAZ301XCpS01",
  "XD1XEH01XF1XGAXHZM0AXIZM0AXJZM0AXKdM0EXLdI0AXMwG0AXNbH01XOXlF03XPY702XQcB02XR101XRXcA01XS1XT1XS",
  "1XU1XT1XV1Y01Y11Y21Y31Y41XT2Y32XT1Y31Y51Y66XT1Y71Y81Y91XT1YA4XT1YB1YC1YD2Y51YE2YC1YFc502TXM01YG",
  "101YHnK01YIV01YJA01YK201YLaI01YMZf601YNO01YO1YPA01YQ401YR101X3jC0GYS101YT1YU1YV201Z0102Z12Z26Z3",
  "101YV8Z34YVA04Z4201YV5Z5101YV402Z62Z0YP04Z5301Z5YQ01Z31Z5aJ0GZ0X00X6Z0901YSXG0X8Z0XO0XHZ0F0CZ0X",
  "J01Z0YO0PZ0A05Z0Z00VZ0ypG01X3aG08Z7f803Z83Z92ZA1ZB1ZAbN01ZC101ZDXQ01ZEb001ZFqxE02ZGbI01ZHA01ZHY",
  "702YVeQ05Z3A01Z5XD02Z5h002ZI1ZJ40XDZK309ZJj00SZLX*M01ZMYWE01XL101XLXN02XLZaJ02XL101XLXdcC04YQbr",
  "S0IZ0dsU02Z0+ZjE0"]

/-- The lists of scripts, each with its length before it. -/
def packedLists : List String := [
  "G146UXMXOYAYCYDYHYKYVZ7ZPaHb5717GHQXSb821221XS21Q81467X1XCYDaD8147X1XCYJYNaD417X1XN51BQXMaDB146",
  "7BX1XNYCYJYLYN616XMXQYCYK5147XNYD9169BXCXNYDYNb5B14789BXCXNYCYDb521XN31Bb5417X1YJ31X1XC21aD21X0",
  "317YN414YDYN61BX1XNXQb541BX1b521B31BaD31BX171BQX1YCYLaD1421YJ31YLYN1124627YD27XM21738UXM7ABCDZD",
  "ZEZF3ABC8ABCDZDZEZFbE9ABFZ6ZAZDZHZIbE2AB3ACZF2AZDF1GHIJKLMNOZQZUa0a1a9D1GHIJKLMNOZUa0a1LGHIJKLM",
  "NOPXVZPZTZUa1a4a6a9aGaHbBNGHIJKLMNOPXBXVZPZTZUa1a4a6a9aGaHaPbB4GZMZPa63HXVZO2IZS2JZR2LZU3NZVa93",
  "TXCZO31UXM1X44X5X6X7X82XAY04GHNZU1G3GNZU5GHMa0a13GHM3GZQa04GHMa02GZQ6GKLMNO2GH3Ga0a13Ga0a93GHZQ",
  "2Ga04GHZQa0BGHKMNOPZUZVa1a92GZU4GNZUZV1H1a9317B1B31XAY02AbE6UXMY9YAZBZC44YAZ1ZC31GZU2162Z7ZB7EU",
  "YAYVZ7ZCZM1b53AZCbE2XOb272VXAXOXPXQXR82VXAXOXPXQXRY052VXOXPXQ1XO82SVXAXOXPXQXR92SVXAXOXPXQXRXS6",
  "2VXOXPXQXR22XO2XPXQ3XOXPXQ21XOGGIJNOZMZPZQZRZTZVa1a3a4a6a9FGIJNZMZPZQZRZTZVa1a3a4a6a9BGIJZMZPZR",
  "ZTa1a3a4a6CGIJZMZPZQZRZTa1a3a4a63GHZV2GL31TY22XEY42AD2AC3Y8YPaM2Y8YP3Y8YOYP26A2Z6ZI"]

/-- The scripts of all code points. -/
def table : Partition := .ofPacked packedScripts

/-- The lists of scripts that share a code point. -/
def shares : Partition := .ofPacked packedShares

/-- Lists with their lengths before them, as many as there are numbers at most. -/
def unpackLists : Nat → List Nat → List (List Nat)
  | fuel + 1, size :: rest => rest.take size :: unpackLists fuel (rest.drop size)
  | _, _ => []

/-- The lists of scripts, the first of which is for code points without a list. -/
def lists : Array (List Nat) :=
  let ns := Packed.numbers packedLists
  ([] :: unpackLists ns.length ns).toArray

/-- The number of the script whose name satisfies a condition. -/
def named? (wanted : String → Bool) : Option Nat := names.findIdx? (·.any wanted)

/-- The characters of a script. -/
def set (script : Nat) : CodeSet := table.set (· == script)

/-- The characters that a script uses: those of its own without a list, and those in whose list it
is. -/
def users (script : Nat) : CodeSet :=
  ((set script).inter (shares.set (· == 0))).union
    (shares.set fun i => (lists.getD i []).contains script)

end Waybill.Script
