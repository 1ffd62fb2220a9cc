import Waybill.Character.Partition

/-!
# Ages

The version of the Unicode standard in which a code point was first given a use.

## Main definitions

* `Waybill.Age.upTo?` — the code points in use in a version.
* `Waybill.Age.of` — the number of the version of a code point.
-/

namespace Waybill.Age

/-- The versions in order. -/
def versions : List (Nat × Nat) := [
  (1, 1), (2, 0), (2, 1), (3, 0), (3, 1), (3, 2), (4, 0), (4, 1), (5, 0), (5, 1), (5, 2), (6, 0),
  (6, 1), (6, 2), (6, 3), (7, 0), (8, 0), (9, 0), (10, 0), (11, 0), (12, 0), (12, 1), (13, 0),
  (14, 0), (15, 0), (15, 1), (16, 0), (17, 0)]

/-- The versions of all code points, counted from one; zero for those without a use. -/
def packedAges : List String := [
  "lM144U1841617I437B8E9YP15427XF114A154H7Y6194168758372114D64A212A201139111G4071101110K110XC11A71",
  "14261114111411141114I12516574814C114Y2114C114X911A242644XL1262126212619S12481282169G649GA2B2C8G",
  "10X6120711KX711K1114202G1D10H218D2A11991123880R1401K51B0471D1G5A1811975A111F1O18111CQ15AJ134376",
  "81CE126Y81245114F114U127A15417E410U437R42037U8IAXH416E0XR9203KXEB20FB10SC201C10BJ50VO1S2O501R8O",
  "1D1GBD6G2H1O8IANBO1KFI1HRD1G1B3117XL12CI11B1C511B2CP12A5C1G2B2918291G311081202120M1107110113041",
  "20111771202120311880114021105120L11B2J1K201711171061402120M110711021102110212011105140212031301",
  "A7041101170F11A1KA03110711711103110M110711021105120A1103110312011F0113720A11D17701H6J1031108120",
  "2120M11071102110174120811A20212031701N21402110312A20B1176CA021106130311041302110111021302130313",
  "0811831405130311041201A6011E018C187501G311K81103110N110A11G51201O1A71103110417021102A1H101S1O20",
  "212A20A1701L8A1I1G211K81103110N110A11051202771103110417021501S1O1110212920A110291PC01J1G211N811",
  "03110N11CG11C2J1A611A103110411C1I403I117I1H212A20A16A3I7A101N2410I430O4109410142074301440641014",
  "108460AG2034C0XQ140T1X50211011101L211L11101L116L411L711L31101110112L211LD11L312051101110611P10A",
  "120212DX00Y8210X12142A40R24C62141210L2347214123410F4101A14283A4B2CX50X241A541A241A743A446AQ4Y0A",
  "4B2AX61101D501D20X71262811183DYQ15BY415BYI16B7418XV41814104420741014104420X741814104420V4181410",
  "442074101410442074187410N418V418141044207418X7418J4202C28S430Q860YL41H206H201BpM49BT430YH48G70D",
  "61O761O901ON690K6C0D610361026C0YT41720A460A760F41OA460YO41K70XA41A50Y6BA0T72G10C740C7401730XA72",
  "057B0XA82B40Q860A81B3028X07S82028XVB10TB20BB60AB60EB20FG2NEOFS20CSK0YC91O102RXD92O1RXBA3DCA6DXK",
  "C804CXOA30FA30XJA9I2R50XBK203K8D80X3B4D1J2G1L50ZC7YO879SAFG4J1O1I1C1B29aR1124AYQ16AM1206120X612",
  "061208110111011101110V120XL110F110E1206110J12031109110XF114N116645627281678561A104F711620R11058",
  "8C30B112133426483B1C1E3G1H1J1O1SE0I1247618491AF0XP1241718F618291A3BXG114194A1B2H40YR194C6dI1E61",
  "114ZP11416U4XK627B8C91BBC7G4I1JX51243RM0B1L0aB1K617aM1A6YG18486K127261814YM124C628A687B81A2B27G",
  "819AA3B4AAB1CJB1C1B4COB1G411C412CS11CX311C111C413C111B712C71E6V13CO11CE11C78491D1A1D2CS64AG6e04",
  "m06E768795A49X9A3G5A5BQG20X0G1S1NX2G3KCG1L8G1JPK4HFK1LXF81OXF81OD93A1B3A496A2BZB87B2D50XD8101D5",
  "01D20XM82D70181CE01CN89078107810781078107810781078107810X0AO84A28JA1BAD7G2I5J5K1L3NBOX20Q410YP4",
  "C0cM4Q0C44QXO13436141110YK126206126YU11650X811A1J1K10YU110G1O43C5NG8KA2R901QG6T12710X41CB17F6S1",
  "2718XI1F6C147XF11MZN147Z3127V117cjM4ANY07qj61M88A8B1D9HLJ5KDN3OXaD430I426G416C41634161490XGBfCA",
  "K0X0A2CIA8DSA6G1H1DYOB80N8495A29ZBA2C1H2C2DCGAC1D3G1I1K2G6H2K6L2O5L4N3R2S2O1S1O1S5O3RK01S3O2N1G",
  "2D1C5AXC81N30AB60XO980Y5A1I80CA60SB2H2KYKAB01ATB30YEB10BB402BVG10XNA90EA20AA204ASB4GY3BO05BNDA0",
  "6C206C206C907C107C10XGG4H2G2L4N40YGHXEB20AB60gz42C0NB40XHB40YW02cnE12DXR63B20ZA8X6071C0515014P1",
  "105110111021102110ZC1GC1OGShD1GOY012SXM17S1OX05C116172OG6A860413A7G2HL12627A110J110414031161110",
  "a71201110YU126YU1306120612061203130711071A0341331C710Q710J7102710F720E7X20ZR7503740XD73097YB82G",
  "2I10CA1N301GXF0XEAa20TA30XHAF0SG40V51G45903JR550XBG50U71017X4840E8XA0X6527X65YG720A760X4I40X4I4",
  "0X8G80XKGB01GBO10FO107O102O10BO10FO107O102O30XKRC0fNG90MGA08GO06O10XAO109OY5067201710XC71027301",
  "72017MB109BXVG809GXG0JH102H505HQ92B3019QA501AQSX60XOD402H2DGH20XEH4810285088103810R82K203840981",
  "K709870X0BX0GX00X7G40CG90XMB30TB20RB508BIG704GC07GYG0Y9BXN0XJHD0XJH706HX8K80AK60X6R30TR802RcG0V",
  "B10XAN103N202NG03R3S809SX102S1R3PX8K80XAKM0QOX60SNK0NL90YEC40UC6O901GY2B1OA01K20PD70AD60XLD10ED",
  "3K1N80X7G90Y9D4H1G2NAD1G5H10KGB0IG10XBG1I3PXU07H101H104H10FH10BH60XRG50AG601H3G108G202G20MG107G",
  "102G105G101K9G202G203G201H601G507G207G305GB0AR101R201R10X6R10AR101R201R104R10AR102R802RT0YQI1N1",
  "I101I1K1L2NU0Y8G80AGb60XMG20IGKHX20Y5GB0AG60DIJ0XOD1L1O60AD60KRS0QH1K20FH40GH7ObP0XSKZ40YJGC01G",
  "7N201N208N102N10UN102N20CN90ANY608L20XEL20BLR0Y8J80XKJ2LNJ1K5JD0GOXPG70APYM08SYO0X2RE0AR609I10X",
  "DI10EIA0TI30X0I20MI10EIY907J102J10XCJ301J102J109J80AJ606K102K10X5K102K106K70AK60XCS40ASdM0PK70H",
  "P10X9P30SP1RYL01NF0XILD01LxF9XAG1HZ60Z39CG10491GB0c4HYoC0Z3OD0XXFB1P9LTPA0ZyRR50o7HcrP0XQRXs60n",
  "PC70VG10AG402GYFO10AO60UG206GA0Y6GA0AG107G10LG50JGjG0XQRc60YRK50PS20PSXC0Y5D6L401LXFD9L70HDY001",
  "I1J2L1NB02N5S90b*DI5K6L8StJIl3NX901R9NMSZ10ZJSelT04O107O102O102CeTJ4OF01PT03L201PE04L80iCJYe40Z",
  "BG50DG309G70AG208GZwS0dQR3S30jKR60NSF0HSF0XEO20NO90ZKOXS0dM5A0X75201AbK5BH2OL0Y68ZQ0KPC0KKC0YN7",
  "90I97Ka70YL510Y75102520152025204510C510151045172510Y1510452085107510S5104510551015307510gI52820",
  "f252920XI5qCHF05H10FHXYG0VO606PcL07I10HI207I102I105I50XUPX101PZG0XDL30EL20AL402Lg00VOH0XQL501Lk",
  "G0XAPcM0XBR401Rc00VS10MS802Sd007O104O102O10FO10c5G20GGX90YBI1L40AI402IuH0Y4KYC0XTLc204D10RD102D",
  "101D201D10AD104D101D101D601D401D101D101D103D102D101D201D101D101D101D101D102D101D204D107D104D104",
  "D101D10AD10HD503D105D10HDXK02DeE0XCA40Z4AC0FC20EC1G10FC10FCMGA0BB2G3NVB1K1C1BBC1B1C1B2C1B3C1B3C",
  "5B8C1B7C1BAC2D1L3N9C1B1C2B2C1BAC4B2C1BACII1NXO0QC1B2CD0X2B9C1I409B702CE06JaQ0X1CCG3H6C1GY6C1G2H",
  "KCCGX5C1G5C4G5HCGHC7G8HXVC1G1C1GbMC1G4C2G1HXUC2G4D7G5HOCIG1IX9G1IYMG5C1DGC1D3C1D1C1D1C1D1C1D3C1",
  "D6C2D4C1D1C2D4C1DCC2G2HBCXGGY6CAG1H2I2J1L2N1S301P3ODG304G3I2J1K1L2N30ZKC3P4S5PYLG4K1P60CL401OF0",
  "CG40XOG80AG60X8G80UG202NAR402RE09SX70CJ1N3L9H6I1J8I8J1I2JCI1LCI1J3KFIDJ5K1L1N4K2N1O1K1L4K5HDI6J",
  "BK2N6L3N2LAK6L1H2K8L1N1O3LNJPKYKL4S80EK204L1N3P3L2O303L4N2P1R1S301S1R6LJN4O3P7N4O3P1R1P3N3O1R10",
  "1S401S2P7N3O2P1R201R8O1P1R1S401S7O2P70aJN10XNNX5RAN1SXW3022XfsN57N2OX00aXLB4O1P6ScUC20bq2HCS20d",
  "fHJF0pEQYj20mU5Xl0022awBN50aZ0PacASXoy4022X**U022X**U022X**U022X**U022X**U022X**U022X**U022X**U",
  "022X**U022X**U0221015U0Z05a00dG7X*mE0aWW22"]

/-- The versions of all code points. -/
def table : Partition := .ofPacked packedAges

/-- The code points in use in a version. -/
def upTo? (version : Nat × Nat) : Option CodeSet :=
  (versions.findIdx? (· == version)).map fun i => table.set fun n => n != 0 && n ≤ i + 1

/-- The code points that came into use in a version. -/
def since (version : Nat × Nat) : CodeSet :=
  match versions.findIdx? (· == version) with
  | some i => table.set (· == i + 1)
  | none => .empty

end Waybill.Age
