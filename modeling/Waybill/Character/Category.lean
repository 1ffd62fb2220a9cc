import Waybill.Character.Partition

/-!
# General categories

Every code point is of one category: one of five kinds of letter, three of mark, three of number,
seven of punctuation, four of symbol, three of separator, and five of others.

## Main definitions

* `Waybill.Category`, `Waybill.Category.of` — the category of a character.
* `Waybill.Category.set` — the code points of some categories.
-/

namespace Waybill

/-- The general categories. -/
inductive Category where
  | uppercaseLetter
  | lowercaseLetter
  | titlecaseLetter
  | modifierLetter
  | otherLetter
  | nonspacingMark
  | spacingMark
  | enclosingMark
  | decimalNumber
  | letterNumber
  | otherNumber
  | connectorPunctuation
  | dashPunctuation
  | openPunctuation
  | closePunctuation
  | initialPunctuation
  | finalPunctuation
  | otherPunctuation
  | mathSymbol
  | currencySymbol
  | modifierSymbol
  | otherSymbol
  | spaceSeparator
  | lineSeparator
  | paragraphSeparator
  | control
  | format
  | surrogate
  | privateUse
  | unassigned
deriving DecidableEq, Repr, Inhabited

/-- The categories of all code points. -/
def packedCategories : List String := [
  "X0P1M3H1J3H1D1E1H1I1H1C2HA82H3I2HQ01D1H1E1K1B1KQ11D1I1E1IX1P1M1H4J1L1H1K1L141F1I1Q1L1K1L1I2A1K1",
  "12H1K1A141G3A1HN01I70O11I8110111011101110111011101110111011101110111011101110111011101110111011",
  "10111011101110111011101110111011101110111021101110111011101110111011101110211011101110111011101",
  "11011101110111011101110111011101110111011101110111011101110111011101110112011101110312011101120",
  "11302140112011303120112011101110112011102110112011301110112021141031441012111012111012111011101",
  "11011101110111011101110211011101110111011101110111011101110211012111011301110111011101110111011",
  "10111011101110111011101110111011101110111011101110111011101110111011101110111011101110111011107",
  "1201120211011401110111011101110Y5124Q1I34KC3EK537K131K13HKZG510111011131K10112T13311H104T2K101H",
  "301T101T2011H01T90X311021303110111011101110111011101110111011101110111011105110111I10112021XJ0X",
  "G1101110111011101110111011101110111011101110111011101110111011101110111L55271011101110111011101",
  "11011101110111011101110111011101110111011101110111011101110111011101110111011101110111011201110",
  "11101110111011101110211011101110111011101110111011101110111011101110111011101110111011101110111",
  "01110111011101110111011101110111011101110111011101110111011101110111011101110111011101110111011",
  "1011101110111011101110111TX602T136HX911H1C2T2L1J1TXD51C151H251H251H158TR44T442HBT6Q3I2H1J2H2LB5",
  "1H1Q3HX0413A4L5A84H2415Z341H14751Q1L6523251L4524A8342L14EH1T1Q1415U4R52TYP4B514ETA8X1495231L3H1",
  "32T152JM4451395133513552TFH1TP4352T1H1TB45TO41K742Q5T95X9413O51QX0516XM41516151436854615261475A",
  "4252HA81H13F415261T842T242TM41T741T143T442T151436452T262T2615148T164T241T34252TA8242J6A1L1J141H",
  "152T25161T644T242TM41T741T241T241T242T151T36254T252T353T157T441T147TA82534151HAT25161T941T341TM",
  "41T741T241T542T151436551T25161T26152T14FT24252TA81H1J7T14651T15261T842T242TM41T741T241T542T1514",
  "161516452T262T26157T25164T241T34252TA81L146AAT15141T643T341T443T241T141T243T243T343TC44T2615263",
  "T361T36152T146T16ETA83A6L1J1L5T153615841T341TN41TG42T151435461T351T457T251T341T242T24252TA87T1H",
  "7A1L1415261H841T341TN41TA41T542T15141615561T15261T26257T265T341T24252TA81T2416CT2526941T341TX94",
  "251436451T361T3615141L4T34167A34252TA89A1L641T15261TI43TO41T941T142T743T154T36351T151T866TA82T2",
  "61HCTXG41524754T1J6413851HA82HX5T241T141T541TO41T141TA4152495142T541T131T751TA82T44X0T143LFH1L1",
  "H3L256LA8AA1L151L151L151D1E1D1E26841TX444TE516551H2554B51TX451T8L156L1T2L5H4L2HX5TXB42645166516",
  "25262514A86H6426254435143624763445D415262566151416A836152LX601T105T102TXB11H1331g941T442T741T14",
  "1T442TX941T442TX141T442T741T141T442TF41TXP41T442TY342T359HKA3TG4AL6TYM02T612T1CpC41L1HH41MQ41D1",
  "E3TYB43H39847TI435169TJ425162H9TI425CTD41T341T25CTXK4251675861526B53H133H1J14152TA86TAA6T6H1C4H",
  "351Q15A86TX3413XL47T5425X2415145TY64ATV41T354625364T261566354T1L3T2HA8U42T54BTXC44TQ46TA81A3TX2",
  "LN42526152T2HXL4161516751T151615268566A52T15A86TA86T7H136H2TE517V52TC5KT4516XF41516551615561526",
  "841T2HA87HAL959L3H2516U416452625163524A8XC415162536151635268T4HX44868526253T5HA83T34A8U4632H911",
  "0115TXB02T308H8T351HD5167544156415241625145TXC1XV3D113X21X53Y0510111011101110111011101110111011",
  "10111011101110111011101110111011101110111011101110111011101110111011101110111011101110111011101",
  "11011101110111011101110111011101110111011101110111011101110111011101110111011101110111011101110",
  "11101110111011101110111011101110111011101110111011101110111011101110111011109110111011101110111",
  "01110111011101110111011101110111011101110111011101110111011101110111011101110111011101110111011",
  "10111011101110111011101110111011101110111011101110111011101110111011101110111011109180612T602T8",
  "1808180612T602T811T101T101T101T108180E12T818281828182511T2140121K113K311T2140123K412T21401T3K81",
  "503K2T311T2140122K1TBM5Q6C2H1F1G1D2F1G1D1F8H1N1O5Q1M9H1F1G4H2B3H1I1D1EBH1I1H1BAH1M5Q1TAQ1A132T6",
  "A3I1D1E13AA3I1D1E1TD33TX2JETD5471537C5FT2L104L102L11302130111L102L1I506L101L101L101L401L1140114",
  "4112L21205I10411L1I2L111LGAX391011491A2L4T5I5L2I4L1I2L1I2L1I7L1IVL2I2L1I1L1IVLeCI8L1D1E1D1EKL2I",
  "7L1D1EYHL1IULPIX8L6IY8LMTBLLTXSAYELMAbNL1I9L1IXML8IZFL1IdOL1D1E1D1E1D1E1D1E1D1E1D1E1D1EUAXCL5I1",
  "D1EVI1D1E1D1E1D1E1D1E1D1EGIe0La3I1D1E1D1E1D1E1D1E1D1E1D1E1D1E1D1E1D1E1D1E1D1EXVI1D1E1D1EX0I1D1E",
  "e2IXGLLI2L6IX7L2TaALXG0XG1101130211011101110114011102110612330111011101110111011101110111011101",
  "11011101110111011101110111011101110111011101110111011101110111011101110111011101110111011101110",
  "11101110111011101110111011101110111011101110111011101110111011101110216L101110113510115T4H1A2HX",
  "611T115T112TXO47T131HET15N49T741T741T741T741T741T741T741T741TX052H1F1G1F1G3H1F1G1H1F1G9H1C2H1C1",
  "H1F1G2H1F1G1D1E1D1E1D1E1D1E5H13AH2C4H1C1H1DDH2L3H1D1E1D1E1D1E1D1E1CX2TQL1TYPLCTcMLQTGL1M3H1L131",
  "4191D1E1D1E1D1E1D1E1D1E2L1D1E1D1E1D1E1D1E1C1D2E1L9945261C532L3913141H2L1TYM42T252K23141CYQ41H33",
  "145TXB41TYU41T2L4AALX04X6L9T1LG4VL1TAAUL8A1LFAX0LAAX7LFAg0Lck04Y0LqmL413XZN43TXNL9TX84632HeC413",
  "3HG4A824KT1011101110111011101110111011101110111011101110111011101110111011101110111011101110111",
  "01110111415371HA51H13101110111011101110111011101110111011101110111011101110112325Y64A9256H8TNK9",
  "32K10111011101110111011101110311011101110111011101110111011101110111011101110111011101110111011",
  "10111011101110111011101110111011101110111011101110111011101113811011101120111011101110111011132",
  "K1011101114101110311011101110111011101110111011101110111011501150111011101110111011101110111011",
  "401110112011101110111011101110111011101110KT431011142311741534154415N42625164L153T6A2L1J1L6TXK4",
  "4H8T26XI4G6258T2HA86TI5643H141H2415A8S4852HN4B526BT1HT43T3516XF4152645262536DH1T13A84T2H5415139",
  "4A8541TX9465262526259T34158415162TA82T4HG413643L14161516XI415143524255425141514OT24132HB4162526",
  "2H14231615AT642T642T649T741T741TXB11K4391132K4TYG1X3426152615261H16152TA86Tgz44CTN44TXH44TYW0Rc",
  "e0ShE42TZA4X6T71CT515T1415A41ID41T541T141T241T241TZC4HKGLhB41E1DGLY042LXM48LX0TC41J3LG57H1D1E1H",
  "6TG51H2C2B1D1E1D1E1D1E1D1E1D1E1D1E1D1E1D1E2H1D1E4H3B3H1T4H1C1D1E1D1E1D1E3H1I1C3I1T1H1J2H4T541Ta",
  "742T1Q1T3H1J3H1D1E1H1I1H1C2HA82H3I2HQ01D1H1E1K1B1KQ11D1I1E1I1D1E1H1D1E2HA413XD423V43T642T642T64",
  "2T343T2J1I1K1L2J1T1L4I2LAT3Q2L2TC41TQ41TJ41T241TF42TE4X2TZR45T3H4TXDA3T9LXL94AHL2A3L1TDL3T1LXFT",
  "XDL15a2TT43TXH4FT15RA4TX044A9TK41984195TX64555TU41T1HX444T841H59XATX80X81YE42TA86TX404TX414TX84",
  "8TXK4BT1HB01TF01T701T201TB11TF11T711T213TXK4CTfN49TM4AT84OT631TXA31T93Y5T642T141TXC41T243T142TN",
  "41T1H8AN42L7AV48T9AXGTJ41T245T5AM46A3T1HQ45T1HQ4X6TXO44T2A24GA2TXEA14351T255T45441T341TT42T354T",
  "159A7T9H7TT42A1HT43AX0T841LS4254T5A7H9TXM43T7HM42T8AJ45T8AI47T4HCT7AYGTY94XNTXJ0DTXJ17T6AX44458",
  "TA86TA8441314M03T551C13M18T2IcGTVA1TXA41T251C2T24GT3413248T1H8LX1T65T4AA148TM4B54A5HMTI4454HX6T",
  "L47AKTN49T161516XL4F57H4TKAA8152425149T3516XD4364526252H1Q4H15AT1Q2TP47TA86T35X445516851TA84H14",
  "26148TX34152H149T2516XG4369526444H451H1615A8141H143H1TKABTI41TP43635261516256H152415XUT741T141T",
  "441TF41TA41H6TXF41536855TA86T25261T842T242TM41T741T241T541T25142615462T262T362T146T165T54262T75",
  "3T55BTA41T142T141TX641T1436651T162T161T461T261516151415142H1T2H8T25TTXL4368526351615445HA82H1T1",
  "H1534UTXG43665161546251625241H148TA8b6TXF436452T46251625NH4425X2TXG43685261516253H14BTA86TDHJTX",
  "B415161526651615141H6TA86TK8STR42T151615264516554TA82A3H1L74bPTXC4369516251HZ4TX00X01A89ACT842T",
  "142T841T241TO4661T262T25161514161416153H9TA8Y6T842TX7436452T254615141H1416RT14A5X84651614458H15",
  "8T14652635XE4D516253H145HDTY947TAHYMT151635161516YOTX141HETA86T941TX5416751T651615145HATA8JA3T2",
  "HU42TM51T167516251625Y9T741T241TX64653T151T251T7514158TA86T641T241TX04561T251T26151615147TA86TX",
  "9413244TA8dMTJ425262H7T251416D41TX2426553T26151615DHA815YLT14FTLA8L4JHLDT1HyQ4Z6TZF91T5HBTc44Yo",
  "CTZ142HDTXXG4GQ1564F5ATZyR45To74crPTU4C53635A8Xs6TnP47TV41TA84T2HYF41TA86TU42T551HATXG4755H4L43",
  "1H1LATA81T7A1TL45TJ4jGT33X84233HA8c6TX00X01NA4H5TP02TP1XCTYB44T1514XN67T45D3Y0T231H1315BT262339",
  "9TdcM4X9TX04Z1TZJ4elTT431T731T231Tf34FT14TT342T14ET448TiC4Ye4TZB45TD43T947TA42T1L251H4QZwSTdGLA",
  "83L3TjKL6TNLFTGL1IFTXE52TN59TZKLXSTdMLATX7L2TXSL26353L668Q852L75UL45XTLLTY2L351LZQTKACTKACTYNL9",
  "TPAa7TQ0Q1Q0711TI1Q0Q1101T202T102T202T401T80411T111T711TB1Q0Q1201T402T801T701TQ1201T401T501T103",
  "T701TQ1Q0Q1Q0Q1Q0Q1Q0Q1Q0Q1Q0S12TP01IP11I61P01IP11I61P01IP11I61P01IP11I61P01IP11I6110112TXI8m0L",
  "XN54LXI58L15EL152L5HFT551TF5XYGTA114K16T61cLT751TH52T751T251T555TXU3X1T15ZGTXD43T75732TA84T141L",
  "g0TU415HTXC445A85T1JkGTR41345A8cMTU42514A84T1Hc0TV41T34152415742554158T1413d0T741T441T241TF41Tc",
  "542T9A75X9TX20X2175134TA84T2HuHTXRA1L3A1J4AYCTXDA1LFAc2T441TR41T241T142T141TA41T441T141T146T144",
  "T141T141T141T341T241T142T141T141T141T141T141T241T142T441T741T441T441T141TA41TH45T341T541TH4XKT2",
  "IeETXCL4TZ4LCTFL2TFL1TFL1TX5LATDAb1LXOTTLDTXCL4T9L7T2LET6LaQTdRL5KsPL3THL3TDL3TcQL6TCL4T1LFTCL4",
  "TXOL8TAL6TX8L8TUL2TCL4T2LET9IX7TgOL8TEL2TDL3TBL3TXPL1T1L4TGL2TCL4TAL7TaJL1TYSLA81LXW5TXft04X0Ta",
  "eU42TbqE42TdfH4FTpE4Yj2TmU4Xl2TawB45TefA4roy7T1QUTZ0Qa0TdG5X*mGTX**US2TX**US2T"]

namespace Category

/-- All categories, in the order of the table. -/
def all : Array Category := #[.uppercaseLetter, .lowercaseLetter, .titlecaseLetter,
  .modifierLetter, .otherLetter, .nonspacingMark, .spacingMark, .enclosingMark, .decimalNumber,
  .letterNumber, .otherNumber, .connectorPunctuation, .dashPunctuation, .openPunctuation,
  .closePunctuation, .initialPunctuation, .finalPunctuation, .otherPunctuation, .mathSymbol,
  .currencySymbol, .modifierSymbol, .otherSymbol, .spaceSeparator, .lineSeparator,
  .paragraphSeparator, .control, .format, .surrogate, .privateUse, .unassigned]

/-- The categories of all code points. -/
def table : Partition := .ofPacked packedCategories

/-- The category with a number in the table. -/
def ofIndex (i : Nat) : Category := all.getD i .unassigned

/-- The category of a character. -/
def of (c : Char) : Category := ofIndex (table.of c)

/-- The code points of some categories. -/
def set (categories : List Category) : CodeSet := table.set fun i => categories.contains (ofIndex i)

/-- Whether a category is one of the three kinds of mark. -/
def isMark : Category → Bool
  | nonspacingMark | spacingMark | enclosingMark => true
  | _ => false

/-- Whether a category is one of the three kinds of number. -/
def isNumber : Category → Bool
  | decimalNumber | letterNumber | otherNumber => true
  | _ => false

end Category

end Waybill
