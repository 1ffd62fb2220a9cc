import Waybill.Character.Partition

/-!
# Direction and joining

Letters of most scripts are written from left to right, those of some from right to left, and
digits, marks and separators take part in either. Letters of connected scripts are joined to the
letter before them, to the one after them, or to both.

## Main definitions

* `Waybill.Direction`, `Waybill.Direction.of` — the part that a character plays in a line of text.
* `Waybill.Joining`, `Waybill.Joining.of` — how a letter is joined to its neighbours.
-/

namespace Waybill

/-- The part that a character plays in a line of text. -/
inductive Direction where
  | leftToRight
  | rightToLeft
  | arabicLetter
  | europeanNumber
  | europeanSeparator
  | europeanTerminator
  | arabicNumber
  | commonSeparator
  | nonspacingMark
  | boundaryNeutral
  | otherNeutral
deriving DecidableEq, Repr, Inhabited

/-- How a letter is joined to its neighbours. -/
inductive Joining where
  | none
  /-- To the letter after it. -/
  | forward
  /-- To the letter before it. -/
  | backward
  | dual
  | causing
  /-- Passed over by joining. -/
  | transparent
deriving DecidableEq, Repr, Inhabited

/-- The directions of all code points. -/
def packedDirections : List String := [
  "995AE97A355A14171427A3176AQ06AQ04A691AQ9171A454A102A192A25231A103A13105AN01AV01Ak102A70EA20EA50",
  "9A10HAZG8402A801A502A101AZE01AaC078e001A202A1511XD81118112811281118XO1662A12251217122AB8XG2L8A6",
  "15263218Z5278161A6822281A4822A3N218U2R8YR2B8F2XB198214A3118O148119811381158XB13841XG2265298XA2O",
  "816X08XN0181018408840183078A028T018XQ01840488018K028E025701520182028XP0184028402820383018U02830",
  "18B028XP018405810284018K028D01580681018XQ0182018104880187028B028U018XT018C018X506A151A50183018X",
  "N0181038503810487028B028K07A2018XQ018F028K028S028XP02840488018K028T018Y801870381018YQ0182078401",
  "57088Z20182098B078Y9028R018101810184AXJ0E81058102850B810X489018Z6048106810282028P0284038G048D01",
  "820286018F018rV038XG0AAZ601ApV01AQ02AZL038T028U028U028Y00281078801820B870151018I0AA60BA381918ZL",
  "028X2018ZM038402890186038401A302AaO0X2AN0282018XQ018107810181018208860A82018XG0XE820C8K048XG018",
  "105810185018X8098C028X004820281038XO018102830181038XQ0882028aO03810D81078401860183028c60Y08jT01",
  "A103AB03AD03AD03AD02A10BA391011VA1755FA17RA694A69133063243A10A3243AH0XG5X18F02A104A102AA01A103A",
  "506A101A101A101A4015B02A405A504A20GAX903A40a2A1415f2AY50QA10aKAM0BAL0X8AK3YE0k2A10gJAe00pKA20aA",
  "Ad506A4038707AZV018Z00X08YUAX20QA10YPAC0cMAQ0LA30PA9048201A502A503AYP0282A301AYQ01Ac40X6A901AXD",
  "02AXH0GAS03AXI0FAC04Ab704AZ302AV01Ack00Y0ArqG0XNAg603AYV0481AA82AU028YG028E0X2AZ601AZP018301840",
  "18P028104A18B025XQ04AYC028Q0I8D018X6088P0B8XE038XG01820482028X7018Y306820282028C0188018XF018XJ0",
  "181038202850281018XA0288018ZJ02AZP01820184018pvF01118A114X61ZJ2GAhB2IAY022AXM28AX09D23AG8AA60G8",
  "X0A171A17101A179A152A243A101A251A40aF219102A355A14171427A3176AQ06AQ0BAZQ0253A25107A10995A29e101",
  "AXU0YDA30DA301AYS018d2018R3ZQ058Xa50eV11Ad113811285148X81384118b5128YI17Ak01X424882A662A6V1581A",
  "dH1V6XC128J1G29AX1268XG1M2B8V2I148ZQ11018XM0F8B0KAA0182028A038XH04820287018XT038X40581088XU018C",
  "028XK098A0482018YV0382018102860182018aT0183088L028XP0283018X50783058Y6068D01810181018E028YL0882",
  "0381018N018YK068101840281028dE04860281028R028YL08820181028V0DAXU018101820681018Z503820481058e30",
  "981028e002810184018aG04820284018X00682028X80682048801890682038XE0D81028c601810381018c90781068YK",
  "0M8207810281028ZQ0683018102810781018Y802830181018gR028B028XK05850181018N018ZQ08A45HAbYE01860F8h",
  "c80C83038Yk0058XR078XWO018XV048YF01A1018pbO0281049ZwS0dGAA33A30jKA60NAF0HAF0XE820N8n00389089882",
  "078U048XR02AL0Y2A381AbQ0YNAy401AXP01AXP01AXP01AXP01AA0XI3m00XN840XI88018E018M05810F8XgG07810H82",
  "07810281058Z4018b0078hN018XT048F015lC048dU028dJ018201870285018eA0cG178ZD178v51YG2Y01YG2bG1dG22A",
  "E2e01XCA40Z4AC0FA20FA10FA10X5AA0B35AV01AXQ06AXT01AbI06AaQ0+PA30HA30DA30cQA60CA401AF0CA40XOA80AA",
  "60X8A80UA20CA402AE09AX70gOA80EA20DA30BA30XPA101A40GA20CA40AA70aJA10YSAA31AXW3029X**U029X**U029X",
  "**U029X**U029X**U029X**U029X**U029X**U029X**U029X**U029X**U029X**U0e29dG8ZmG9Xx*U029X**U029X**U",
  "029"]

/-- The joinings of all code points. -/
def packedJoinings : List String := [
  "bD015oI0ZG5eJ075e70XD51015102510251015Y80B5101530131042131213125342D314731223L5E02315321032G3I2",
  "X6312239213121312232210127520652025104522A0332013F0151215335243129312131213122312R52012B332F322",
  "43121322332263X60B5P0X139560142015O045109510351055I01253221312A312133235401310431012132250J2341",
  "3205312137095A332101223226312F310O510X05XN0151015408540153075A025T015XQ01540458015K025Q0152025X",
  "P0154025402520353015U0253015B025XP015405510254015K025M0651015XQ0152015104580157025B025U015XT015",
  "C015XI0153015XN0151035503510457025B025T015XQ015201560155025K025S025XP02540458015K025T015Y801570",
  "351015YQ0152075C085Z20152095B075Y9025R01510151015XN0E51055102550B510X459015Z6045106510252025P02",
  "54035G045D01520256015F015rV035zI035T025U025U025Y00251075801520B59015X90132014351015G0YP3C025X23",
  "1513ZL035402590156035cR0252015XQ015107510151015208560A52015XG0XE520C5K045XG015105510155015X8095",
  "C025X004520251035XO015102530151035XQ0852025aO03510D51075401560153025c60Y05mB015101425Q055XH0555",
  "065Z00X15Y*U035aD015Z00X05nA045ZB025zkK04510A5X0025YG025eG01530154015P0255015J0XI311YH025Q0I5D0",
  "15X6085P0B5XE035XG01520452025X7015Y306520252025C0158015XF015XJ0151035202550251015XA0258015dE015",
  "20154015pvG015t10G5G0G5cF015dP035m1015d2015aL055Xq603510255045X80354015a00531210121022201152431",
  "153123312201225404312aG0131213323312231213221312N04223gH011X13121345Y1055fT025L012231023XI065XG",
  "03312H310B53312R04322C345XA0131023321013222312231013221340121311XL015XM0F5X90152025A035XH045202",
  "57015XT035X40551085XU015C025XK095A0452015YV0352015102560152015aT0153085L025XP0253015X50753055Y6",
  "065D01510151015E025YL08520351015N015YK065101540251025dE04560251025R025YL08520151025ZA0151015206",
  "51015Z5015101520451055e30951025e002510154015aG04520254015X00A5X80652045801590652035XE0D51025c60",
  "1510351015c907510651015YI0M5207510251025ZQ0653015102510751015Y802530151015gR025B025XK0555015101",
  "5N015bcL0H560F5hc80C53035Yk0055XR075XWO015XV045YH015pbO0251045aoS0XE520N5n003590G52075U045aK035",
  "XzR0XN540XI58015E015M05510F5XgG07510H5207510251055Z4015b0075hN015XT045lS045dU025dJ0152015702550",
  "15kQ075X90Y4385ubrL015U0Z05a00dG5b*mG0"]

namespace Direction

/-- All directions, in the order of the table. -/
def all : Array Direction := #[.leftToRight, .rightToLeft, .arabicLetter, .europeanNumber,
  .europeanSeparator, .europeanTerminator, .arabicNumber, .commonSeparator, .nonspacingMark,
  .boundaryNeutral, .otherNeutral]

/-- The directions of all code points. -/
def table : Partition := .ofPacked packedDirections

/-- The direction of a character. -/
def of (c : Char) : Direction := all.getD (table.of c) .otherNeutral

end Direction

namespace Joining

/-- All joinings, in the order of the table. -/
def all : Array Joining := #[.none, .forward, .backward, .dual, .causing, .transparent]

/-- The joinings of all code points. -/
def table : Partition := .ofPacked packedJoinings

/-- The joining of a character. -/
def of (c : Char) : Joining := all.getD (table.of c) .none

end Joining

end Waybill
