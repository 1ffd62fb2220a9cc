import Waybill.Character.Partition

/-!
# Characters of domain names

A domain name is read without regard to case, width and other differences of form. Each character
is kept, dropped, forbidden, or read as one or more others: a capital as the small letter, a
full-width form as the common one, a ligature as the letters that it joins. The table is that of the
Unicode standard for compatibility processing of domain names, in which the letter `ß`, the final
sigma and the invisible joiners are kept.

## Main definitions

* `Waybill.Domain.Reading` — how a stretch of code points is read.
* `Waybill.Domain.mapped?` — the characters as which a character is read.
-/

namespace Waybill.Domain

/-- How a stretch of code points is read. -/
inductive Reading where
  | kept
  | forbidden
  | dropped
  /-- Each is read as the one at a fixed distance. -/
  | shifted (distance : Int)
  /-- Every second one, from the first on, is read as the one at a fixed distance. -/
  | alternating (distance : Int)
  | spelled (points : List Nat)

/-- The readings of all code points. Each starts with a number for its kind and its length. -/
def packedReadings : List String := [
  "i0aPY0cObR3dVX4BX0u803aH620BX0u469dVBX0u13XmE6BX0v73eF3aL0HXHeY4XKHXHeY4XIHXJeY4XK0a7Y00X7Y0c0e",
  "O20BZ9u70BZ9ZABZ9ZAG26S20BZCbNBZCbNX820BrSZEeC203dHS203mN03j4G203iS3209iQ3263aU3iK3iM3203iQ3iU0",
  "3j63j232C3j63jA03jCS203jK3203jK63203jK3209jIG203jM32C32X4BZ4hUBZ4hUBZ4hUBZCZABZCZABZCZABZEZABZE",
  "ZABZEZAYO26Z426BZ4ZQBZ4ZQBZ4ZQ3203c13ZFd8203e30Z42X43rYM3203g53rYG63203i53aA3aEXK2o03XaF3aL3XaF",
  "3Xa13ZL3ZJ3Z93XZV3XZTbKBX0u6BX0u7BX0uABX0v8BX0u3BX0uB63dP3Xd93XcT3XcL3aTmS9ZV03YVBu8u13d8XG2bQG",
  "203hL03207BX0zPC3Xq53d8JBX0u1HX0u8u13YC3XiVFYA13a019ZU0Z3Y01XJY0cC3G3XR3XH3P3B3H3T3XB0a8203ZB3Y",
  "V3YT03ZN3ZV03203ZB326Fe3YTb0bTY0eQc42XGfS203UYC26nO201d1Z07eEBXh5Xi2C7C1g4XBaSJUZ1ZU1mABXn7XpKB",
  "Xo8XpKBXs7XpKBXoAXpKoI1eQ7gS7oOYFgS7f07YK1b2701XSPbQX5jS1rOBYeLYfSBYeMYfSBYeNYfSBYeSYfSBYf1YfSB",
  "Yf2YfSBYfBYfSBYfFYfScI1XA767ZU1X410DI7XG767IXB0JBYj1YjSBYj2YjS1BYjFYjSI7aG7C1UJ67ZU1X410BYnIYnS",
  "10BYnOYnS16701OJ67CD0X5BYmMYnSBYmNYnSBYmSYnS01BYnBYnSX5Z0XNC1XG1C1ZU1X4161O7XM1C1C70YLI7Y2X5X41",
  "C1XA767ZU1X4161O7XG767CX5CJBYv1YvSBYv2YvS1O7Z6XN61UDC1ID61016D6DCDY2JODC1I70V0YFZOPY81C1a41YQ7X",
  "G1C1IX561C167I7XMX5ZU1C1a41XM1O7XG1C1IX56PC1I7XM1CY3Y81C1fC1C1UJYQ7aM1C1Z6DaA1XG107X4D0JU101XAV",
  "XM7CY3f6BZoDZnIX4Jb8cP6101O1aA101Y2BZsDZrIXM7O101X41XM7BZrBZqPBZrBZr16bRY231fUBZw2ZzNI1IBZwCZzN",
  "IBZwHZzNIBZwMZzNIBZwRZzNY2BZw0ZzLCJ6BZxHZxI0BZxHZxKBZzIZy0HZzIZxHZy0BZzJZy0HZzJZxHZy0X4BZxHZy0Z",
  "0BZyIZzNI1IBZySZzNIBZz1ZzNIBZz6ZzNIBZzBZzNY2BZyGZzLC1YK1Y8cPzQd1kc013kc0P3kc07e23XVo68XhA1I7X41",
  "01I7dG1I7c01I7X4101I7YK1gG1I7iC7bQDaMVlU7X1F7ZtQ1b2DmGX5ZUXHaAXHZIY3Y81C16Y3fI8dA7XMVXMVXSQXMVm",
  "GX5dSPiUXNbK1Y2JY2J0DdM7OXTe2JaMVXSDhE7i01b87XSVXMVYE7eE7Y2ZJk81+UXBh2DYKDfC3iaR3iaP3ia79ia33ia",
  "53iZN3iY73Yay6320PdVbxV7FbxVXAXBdSPe23kiL3kaDGkiN3kiN3jr9XDkiN03kiP3jnJ3kiR3kiP9kiN3kiL3kk39jl7",
  "3a73kk99kk73jl19jkV3kkB03kk73kk53kWB3kk53jlT9ZR3kkB9kk53ZN3jkL3kk93ZDFiwL9ivJ3klH3kl19kkT9ix73i",
  "wD9iw5Y83ipLc63jqH3kpH3jqF3kgR3jq53kpJ3jq33jq13jpRFjpN3YN3jmL3jpN3Y93jmN3jpL3jpPLjpN3jpJ9jp13kW",
  "J9joP3fN9joR3kq1FjoN3jWDhQxS2OBZ1rU3ZJ63kxT0nO2XGXDFU7X1F7XAXDFXAXDFU7X1F7XA13F13F13F13FXAXDF03",
  "jy903jyB03jyD03jyF03jwP03jwR03jwT7Bdu0zPBdu1zPBdu2zPBdu3zPBdu4zPBdu5zPBdu6zPBdu7zPBdu0zPBdu1zPB",
  "du2zPBdu3zPBdu4zPBdu5zPBdu6zPBdu7zPBdv0zPBdv1zPBdv2zPBdv3zPBdv4zPBdv5zPBdv6zPBdv7zPBdv0zPBdv1zP",
  "Bdv2zPBdv3zPBdv4zPBdv5zPBdv6zPBdv7zPBdx0zPBdx1zPBdx2zPBdx3zPBdx4zPBdx5zPBdx6zPBdx7zPBdx0zPBdx1z",
  "PBdx2zPBdx3zPBdx4zPBdx5zPBdx6zPBdx7zP6BdxGzPBzHzPBzCzP10BdzMzP9F3aJ3kWTBzHzPBX0uJ3kW9BX0uJBX0w2",
  "HX0u8w2BdxKzPBzNzPBzEzP10Bd+6zP3bB3kXN3bB3kXPBzNzPHX0uJu0HX0uJu1HX0uJw2C3ka5769F3c73kYN1HX0uKu0",
  "HX0uKu1HX0uKw2C3kZ5I9F3cV3kXR3DHX0u8u0HX0u8u13luT7BdxSzPB+9zPB+EzP10Bd*MzP3dV3kYP3dR3kYPB+9zPBX",
  "0u1BX0uK13lzV3l+13l+33l+53l+73l+93l+B3l+D3l+F3l+H3l+J267031OBX0vJY2D0X53mWTCBeXIeXIHeXIeXIeXI0B",
  "eXLeXLHeXLeXLeXLIBX1X10BX0u5XABXVXVBXVX1BX1XVY8NeXIeXIeXIeXIX43mZTQPX03mZV3mWF7X1mZV3maT3vE3mZT",
  "9mb93mX1XPmaV3mbT3uE3maT9mc913mYT3mYN3mY53mXL3lZL3mYPLmYL3mYJ9mYFDXABZIZJaGYFc0YLHZ1XFZ3HZ1XFZJ",
  "3mfTBbGZ30HZ3XFZFHZ3XFZL3lgN0BbGZ69mg53mg73mg93mgB3l+F3mgD3mgF3mgBGmgDBZEZF6FmgH3mgJ3mgL6BZJZDH",
  "ZKZ5ZCBZKZD03mgJ03krP03mgR03mhT3maB9miJ03miJ9miL3XO3miB3mi9Ljs93miV0HZ6Z1ZO3ktN3kuJ3kuL3ktT3j2I",
  "3mk19mk39mjTUHXHeY4XNHXHeY4XPNXHeY4XHXGHXHeY4XJHXIeY4XJHXHeY4XLHXIeY4XLHXJeY4XLHXKeY4XLHXHeY4XM",
  "HXLeY4XMHXHeY4XOHXJeY4XOHXLeY4XOHXNeY4XOBXHeY43mlDBZ9Z9HZ9Z9Z9BZ9ZM3mkRBZMZ9HZMZ9Z9NZMZ9Z9Z9BZ9",
  "ZO3ml1BZOZ9HZOZ9Z93mlV9mmJ3mm33mmDBZ9Z9HZ9Z9Z9BZ9ZM3mlRBZMZ9HZMZ9Z9NZMZ9Z9Z9BZ9ZO3mm1BZOZ9HZOZ9",
  "Z93mmV9mnJ3mn3C32OHXGeY4XJ6Jz2BenBenBHenBenBenB0BenEenEHenEenEenEXkA9cjUXlKZVXSZPXJoYTBXHXGBXHX",
  "HBXHXIBXHXJBXHXKBXHXLBXHXMBXHXNBXHXOBXHXPBXIXGHX8XHX9HX8XIX9HX8XJX9HX8XKX9HX8XLX9HX8XMX9HX8XNX9",
  "HX8XOX9HX8XPX9NX8XHXGX9NX8XHXHX9NX8XHXIX9NX8XHXJX9NX8XHXKX9NX8XHXLX9NX8XHXMX9NX8XHXNX9NX8XHXOX9",
  "NX8XHXPX9NX8XIXGX9ZJHX8Z1X9HX8Z2X9HX8Z3X9HX8Z4X9HX8Z5X9HX8Z6X9HX8Z7X9HX8Z8X9HX8Z9X9HX8ZAX9HX8ZB",
  "X9HX8ZCX9HX8ZDX9HX8ZEX9HX8ZFX9HX8ZGX9HX8ZHX9HX8ZIX9HX8ZJX9HX8ZKX9HX8ZLX9HX8ZMX9HX8ZNX9HX8ZOX9HX",
  "8ZPX9HX8ZQX9aPob9aPocT3ohJds0NenBenBenBenBp4HXQXQXTBXTXTHXTXTXToOBgsTvOy47vMeTZ0eQ3203q*D3dkB3q",
  "+D6S203rXN3q*P3rXT3rXR032632U3sX33sWD9rZToG2XAG2I320Pe810P07gAX53R0YFaAXHX41X41X41X41X41X41X41X",
  "41tEc7aM1I3+oSlC3XugOY33lm03loE3lp83lpO3lrA3lu03luC3lvI3lx43nZC3nbM3nc03ndC3neI3nfQ3nj23nkA3nkU",
  "3nuI3n+C3oW23oWA3oY43oYK3oa83ob03ocG3ofM3ogO3oiC3pxI3qW03qyM3q+23q+G3q*43rW63raS3sYK3sbI3sj03sk",
  "C3slG3smQ3sq43sq83tgQ3thC3ti23tiQ3tq03tqE3tqM3txU3tyG3tz83tzM3uXE3uYE3uZG3ueE3viM3vlG3vmO3w+U3w",
  "*63xaA3xb83xc03xd83xfK3xfS3xwG3xxU3xzS3zzA3+XC3+YO3+cA3+dO3+e83+eK3+hQ3+i23+k03XWnC3XXj83XXjU3X",
  "Xk63XXkC3XXkQ3XXlS3XXlU3XXqU3XYYC3XYYK3XYtO3XYuA3XYxC3XYxO3XYy83XYyM3XZYA3XZYM3XZmS3XZn83XZq83X",
  "Zr83XZu43XacS3Xad83Xae83XayK3XbaE3XbaO3Xbm23XbrE3Xbu83XclQ3Xcu23XdxS3XdzG3XeX03Xea43XeeA3XeeU3X",
  "ef83Xeh83XelU3XemG3Xfc23XfcE3XfcU3XfdE3XfeC3Xff83XffE3XfkA3XfkG3XfkQ3Xhi23XhjS3Xih43XihQ3Xij63X",
  "i+Q3Xi*I3XjZU3XjcO3Xkg43Xkh03XkhS3Xkk03Xkm83XkyK3XkzA3XlXE3XlmS3XloO3Xl*O3XmX03XmX83XmkU3XmwC3X",
  "nY43XnYE3XnYM3Xoz03XozG3Xpd63XpmO3XpmS3XppO3Xpw83Xpx03Xpx63XpxI3XqXK3XqZM3Xqa03XqaQ3Xql63XqoA3X",
  "qoG3XqzS3Xq+03Xq*43XrkQ3XrnO3Xro43XrsE3Xrt03Xrt43XrtM3XrvG3Xso43Xth23XthK3XtjU3Xtl83XtlM3Xtm83X",
  "tmE3XtoS3Xtp23Xtq23XtqA3Xtr23XtsM3XttI3Xtu03XtxK3XtyG3XtyMdN3tzV03tz7fC3Y703nmI9nmMO1lU76BX0iaP",
  "BX0iaQ6Bia8iaAnKBibJic8PdS19mZ13luH3mZ39luHFmZ7X1luJ3mYBFmZL3mY5XPmZNZRl+R29mb19lvV3lvP3lvN3lvF",
  "3lv93lv73mb33lv33lv19mb73mb59mb33maT3maRRmaP3maL3maF3mZT3mZH3mZ99lv1FmYP9mW53mW19l*H3l*F3l+T3l+",
  "P163kcS3klI3kdA3oqC3kd83kfC3kd63XXvI3khU3kdS3kcA3puO3ov43knMiUXNYQHX8ae0X9HX8ae2X9HX8ae3X9HX8ae",
  "5X9HX8ae6X9HX8ae7X9HX8ae9X9HX8aeBX9HX8aeCX9HX8aeEX9HX8aeFX9HX8aeGX9HX8aeHX9HX8aeIX9HX8XhW0X9HX8",
  "XiaOX9HX8Xit4X9HX8XjxSX9HX8Xkk8X9HX8XlWKX9HX8XmbCX9HX8Xng4X9HX8XnyGX9HX8XpX8X9HX8XppKX9HX8Xqc0X",
  "9HX8XquCX9HX8XrgOX9HX8XodSX9NX8Xnn4XoW4X9NX8Xnn4Xrs4X91HX8pm0X9HX8pqCX9HX8pm9X9HX8rsRX9HX8pqKX9",
  "HX8qhDX9HX8pm3X9HX8qhBX9HX8poTX9HX8qw1X9HX8vu8X9HX8yZBX9HX8xXKX9HX8vv8X9HX8XakHX9HX8ruVX9HX8vl5",
  "X9HX8wXAX9HX8vu9X9HX8+fUX9HX8rWDX9HX8ypPX9HX8XZb1X9HX8+gTX9HX8qrKX9HX8pt3X9HX8rZSX9HX8sx6X9HX8z",
  "t3X9HX8pu1X9HX8XZc7X9HX8qwKX9HX8+hDX9HX8puHX9HX8XWlAX9HX8XWlJX93nmM3sZE3vq23XaqGXAHZGZKZ5BXIXHB",
  "XIXIBXIXJBXIXKBXIXLBXIXMBXIXNBXIXOBXIXPBXJXGBXJXHBXJXIBXJXJBXJXKBXJXL3mrV9mrTFmrR3mrP9mrNRmrL3X",
  "yv43X*YI3YWd83YYmM3YZrC3Yaw23YdZG3YfiU3YgnK3Yix23Yj*O3YlaE3Ymf43YnjQBXpXOXhd0BXodSXnwO3YgZ403ju",
  "03kWM3juE3obG3kX03lkG3jtQ3lk83jzA3mhG3wdS3++03ywG3wfM3Xlq63of03vrA3wvI3wdE3XZgM3mtI3*+83XjWM3XZ",
  "iC3mXO3XZpU3XXfQ3pjG3XkyQ3leQ3mj43zaI3XosA3kd03llE3yi03jsC3juG3jsA3rpU3mqM3mf43qkQ3qhM3XYZE3kb8",
  "3XjXI3mgA3pcOBXJXMBXJXNBXJXOBXJXPBXKXGBXKXHBXKXIBXKXJBXKXKBXKXLBXKXMBXKXNBXKXOBXKXPBXLXGBXHvu8B",
  "XIvu8BXJvu8BXKvu8BXLvu8BXMvu8BXNvu8BXOvu8BXPvu8HXHXGvu8HXHXHvu8HXHXIvu8BZ8Z7HZ5ZIZ7BZ5ZMHZCZKZ4",
  "3XYR3XYP3XYN3XYL9XYJ3XYH3XYF3XYD3XYB3XY93XY73XY53XY33XY13XXV3XXT3XXP3XXN3XXLX1XXJ3XXF3XXB3XX73X",
  "X3RXWV3XWT3XWRX1XWPLXWNBpt4raCNib2icHidSic8Nib2idBicLib1Nib2idJicQib2Hib2idSidBNib4icBidJibGHib",
  "4idJic1Hib6ib9idJTib8ibPibFidSic9Nib8idSibBidSHibAidJibPHibAidSid0HibBib4idANibBid9ic3ic8NibBid",
  "DidAidSHibCidDidJHibCidJicUBibEibCHibEicBidSNibDid5idAidSNibEidBic0idSBibDidDTibDidDibGid9id0X3",
  "ibDidDid1idSic8idBTibDidDidFic3ic8HibGid9id0TibGid9id0ic8idJTibFidBibSib4idDNibFidDidSicDHibHid",
  "SibPHibJidBicAHibJidSicTNibLib4ibFidBTibLidJic1idSid0NibNidAidJibGHibRidJic1HibRidJic8Hic0idSib",
  "PBic7ibNBic9idBBic8idJBicAicEHicEic3ic8HicFib4ic4TicHidSibRidJic8HicHidSic4NicGidSidCidBTicKib2",
  "ibPic8idBHicKibFidBBicKibJBicJidBTicLib1id9ic3ic9NicLib3idSic8TicMic3ibNib7idBHicLid9idJTicOibF",
  "ibVidSidBBicQibTHicQicBicIHicOidBic4HicQidJibPHicQidSibOHicPidSibVNicTib4idJic8HicSidBic8BicRid",
  "JHicTidJic9HicRidSidBHicRidSidJNicUib4ibFidDHicUib4idBHicUic3icFHicUidBibFTicUidJibNid7idJNicVi",
  "bFidDidJBicVidATicVidAicGidSidBBid1ibCNid1ibCic8idJNid1idSic8idBHid4idSic9Hid4idSidBHid6ib2idJN",
  "idAic3ic8idBBidAid9HidBicKidSNidBidSicMidBBidCid0TidCidJic8ibIidJHidFic3ic8BXGybPBXHybPBXIybPBX",
  "JybPBXKybPBXLybPBXMybPBXNybPBXOybPBXPybPHXHXGybPHXHXHybPHXHXIybPHXHXJybPHXHXKybPHXHXLybPHXHXMyb",
  "PHXHXNybPHXHXOybPHXHXPybPHXIXGybPHXIXHybPHXIXIybPHXIXJybPHXIXKybPHZ8ZGZ1BZ4Z1BZ1ZLHZ2Z1ZIBZFZMB",
  "ZGZ3BZ4ZDHZ4ZDXIHZ4ZDXJBZ9ZLBtpJumGBvnDraCBsf7wx3BvmExbRNwXAtuFpuQ+fUBZGZ1BZEZ1BzSZ1BZDZ1BZBZ1B",
  "ZBZ2BZDZ2BZ7Z2HZ3Z1ZCNZBZ3Z1ZCBZGZ6BZEZ6BzSZ6BzSZ7BZDZ7BZBZ7BZ8ZQHZBZ8ZQHZDZ8ZQHZ7Z8ZQHZKZ8ZQBz",
  "SZCBZDZCBZ4ZCBZBZCBZ6ZDBZEZDBzSZDBZDZDBZ3ZDBZBZDHZDZDXIHZ3ZDXIBZDXIHZBZDXIHZDZDXJHZ3ZDXJBZDXJHZ",
  "BZDXJHZDemLZJNZDemLZJXIBZGZ1HZBZGZ1HZDZGZ1HZ7ZGZ1HZIZ1Z4TZIZ1Z4emLZJX3ZIZ1Z4emLZJXIBZGZJBZEZJBz",
  "SZJBZDZJBZGZMBZEZMBzSZMBZDZMBZBZMBZDZMBZGZNBZEZNBzSZNBZDZNBZBZNBZDZNBZB+9BZD+91BZ2ZHBZ3Z3BZ3Z4N",
  "Z3emLZBZ71BZ4Z2BZ7ZPBZ8Z1BZ8ZGBZ9ZEBZBZBBZBZDBZBZKBZCZDBZCZEHZCZFZ7BZCZOBZDZ2HZDZ9ZCHZDZFZCBZGZ",
  "81HZGZGZDBZGZIBZJZIBZJZMBZNZ2HZMemLZDHZ1emLZDBXHvl5BXIvl5BXJvl5BXKvl5BXLvl5BXMvl5BXNvl5BXOvl5BX",
  "Pvl5HXHXGvl5HXHXHvl5HXHXIvl5HXHXJvl5HXHXKvl5HXHXLvl5HXHXMvl5HXHXNvl5HXHXOvl5HXHXPvl5HXIXGvl5HXI",
  "XHvl5HXIXIvl5HXIXJvl5HXIXKvl5HXIXLvl5HXIXMvl5HXIXNvl5HXIXOvl5HXIXPvl5HXJXGvl5HXJXHvl5HZ7Z1ZCbew",
  "8Dg4XHYX2ZJeC2ZCb0203Ynb33Ynb1mMXBc6YC2ChC2031XAG203YbW7XK2I3203YooF6G2CZG203Yoq73YoqT3YoqL3Yoq",
  "13Yoq703Yon33YooJ3Yon93Xw0YO203YV3Yoq53YbZFG203YosDYO203Ypa1ZJ3YptR3YpuT3YpuP3Ypu53263Ypj13YpgB",
  "fCDXMVgAXBiUXBY2VrIXTbEDkE1XSJc01g4XHYE7XM7p4aBb2XNU7U7UXHX41X41e23YZ93YB3Yql53PXG3YqjN6JkTYhyV",
  "eE7XMVYXkIY3a4Jf0XnmJ3XshF3YfWP3XrZF3XsZL3YbZ53Yrj53Yoo13XisL3XisN3YlxF3XppH3Ynu73Yly73YhnD3YXg",
  "93XyuJ3Xvj13XurD3XuXJ3Xqe73Ydn33Yb*J3YaZP3YYpH3XwjL3XpwT3XloH3YrfH3YowD3YdXH3YZm53Xvl33Xjm33Yjz",
  "13YapD3XvrB3XtxV3YhbN3XxqR3XumF3YjbR3YfX33YbxV3YZYT3XqbR3YqwD3YptD3Ypb13YgcN3YdbR3YZo33YXaN3Xyp",
  "53XvoT3XvjJ3XrqF3XnWB3XkyJ3XjpV3YWgT3X*xP3XzvP3Xwt93XpZL3Xji13XtcL3Ymc53YjZT3X+k73XyiD3YZk73YWd",
  "P3XseB3Xnb33Ymd33YkkH3YdpH3Ybt53YbZT3X+XV3XznH3XnmB3YpdV3XyiF3YptF3YpuH3X*pJ3XzvH3XwsD3Xnk73Xsz",
  "J3YheN3YdrJ3XtbT3Yro93YktF3YiqR3YYzJ3YX*33YpaN3YWcH3YqwB3YixP3YrrJ3YcfN3Yf*13X+aF3YowF3YmmR3YXc",
  "N3Xwo93Xti93YcxB3Xqy13YckJ3Yhd93XxeT3Ygz93YYX13YriH3YqWT3YpwV3YelH3X+f73XxmP3XtgL3XpwT3YpeJ3Yop",
  "R3YmWR3YjfB3YfxR3YauB3YWbL3XnzH3XlnP3Xjl13XjhL3YpkT3Yfi93YdX93XrYL3YjnJ3Yh*T3YhuV3YglD3YbcT3Yaa",
  "J3YYmL3X*yL3Xzw33XyoF3Xrd33XwgL3XqtD3Xpb13Ypu93YplJ3Yok13YajD3XujR3XtlD3YjjH3YiwR3YhYH3Yc*D3X+s",
  "F3YZZ33Yri73YngV3Yky53Yj*13YiuV3YY*L3YYq93XzX93XysJ3XptP3XnhN3XncL3XmvN3YrYJ3YWWF3XqW53XnlV3Yij",
  "F3Yrp73Yqk13YkyR3YktR3YgY93YdxP3YZ*33YXtT3XwiB3XqqD3XjZD3YfpP3XnvF3YppR3YfaP3YezB3YceH3YboT3YYy",
  "53YYd73YWs53X+hT3Xmt33Yqc73Yhw73XnrL3YqwH3YkhN3Yb+N3XrgP3YjaP3Yif93Yey53YZb73XnrB3Ypx73YoyT3Ykt",
  "J3YfyP3Yff53YepJ3YclR3YYzR3YYW53XzcP3XunF3XumD3XqXP3XnmF3YpgN3Ybp33YoyV3YaXR3YYrD3Xv*B3XnqR3Xkv",
  "L3Xjr73YfbP3YcYJ3XyWR3X*oN3X*jF3X+sD3YZpJ3Yas33Xtg73YrpP3XxiF3Ypy93Yp*H3YjrL3YhoT3X+oP3YldT3Yck",
  "D3Yfr33XriN3XuxN3XnxN3XudT3YjpF3YqiN3YoaP63YmxB03YfvR63YqZD3YZkN3YXqP3YWjN3YWhL3YWh93YWeN3XniB3",
  "X+rT3Xzc103XwWR03XtoJ63Xq+P3XqoHC3XmpL3XmoT3Xmm73XkdH3XqqV3XntF3Yre33YqqJ3Yqk93YpsJ3YpqV3Ypk73Y",
  "ofH3YoZ13YnyV3Ym*H3Ymv33YkzD3YkyR3YiwH3YijB3Yih13YiaR3Ygl33YgbV3Yfx33YexT3YciR3YcYN3Ybo93YajJ3Y",
  "aXR3YZYF3YWxJ3YWmR3YWm73YWmB3YWlT3YWlJ3YWl79YWi93YWX73X*z73X*fB3X+c53X+aT3X+XF3XzkF3XzbB3XycT3X",
  "x+73Xx+93XxWF3XuqV3XuiL3Xts13XtoJ3Xsv13XsrP3XrgV3XrYT3Xnu93XncJ3XnYT3Yi*B3bae43Xyb973YsaJ3YqhN3",
  "YqmJ3Yrl53YqoT3Yql93YpwT3YptP3YojL3Yoo73Yok13YofH3YnY33YmyJ3YmpJ3YmoL3YmXR3YlrH3YjwV3YjwJ3YjnL3",
  "YjjF3YiwR3YipH3YitV3YilL3YioJ3YifH3YibF3YhiH3Yhd33YhZP3YgpJ3YgXP3YftL3YftF3YfpR3YdnN3YdjN3YcrB3",
  "YbxP3YbyR3YbtF3YbdP3YaoR3YXlB3YacH3YZ+V3YZtB3YZYV3YYvN3YYsF3YYeD3YYeB3YXzN3YXyN3YXx73YXrT3YXsJ3",
  "YWzT3X**L3X*kP3X*Z53X+r73X+hN3Xzt53XzgP3Xxs13Xxi93XvpN3Xut93Xup13Xuo33Xt*J3Xty33Xt+V3XtxL3XtxT3",
  "Xtz13XtuB3XtpB3XsxH3XruJ3Xrb13XqoL3XqaT3XoaJ3Xn+73Xnt33XnkR3XniL3XnhV3Xnf13XlxL3Xjp33astM3ast83",
  "aym83Y*p93YzhL3YzfL3bht83bm*K3cX*O3Xjv93XjqLcVBZ6Z6BZ6Z9BZ6ZCHZ6Z6Z9HZ6Z6ZCBZJZKBZJZKY3BXhKXhMB",
  "XhKXh5BXhKXhBBXhUXhMBXhKXhDPBXkPXjK0BXlIXjN3ZwpR3Zwr19ZwqTFZwqH3ZwpT3ZwpR3ZzlRBXl9Xk1BXl9Xk2HXl",
  "9XjSXk1HXl9XjSXk2BXkGXjNBXkGXjOBXkGXjSBXkHXjSBXkIXjSBXkJXjSBXkKXjSBXkLXjSBXkMXjS1BXkOXjSBXkPXjS",
  "BXkQXjSBXkRXjSBXkSXjS1BXkUXjS1BXl0XjSBXl1XjS1BXl3XjSBXl4XjS1BXl6XjSBXl7XjSBXl8XjSBXl9XjSBXlAXjS",
  "BXkLXjPBXkHXjVBXkRXjVBXl4XjVBXkGXkS3ZwjT3ZwjV3ZwjD3ZwjF3ZwjH3ZwjJ3ZwjF3ZwjH3ZwjJ3ZwjL3ZwjJ3ZwjL",
  "3ZwjN3ZwjP3Zwk73Zwk93ZwkB3ZwkD3Zwk53Zwk73Zwk93ZwkB3ZwkP3ZwkR3ZwkT3ZwkV3ZwiB3ZwiD3ZwiF3ZwiH3ZwiF",
  "3ZwiH3ZwiJ3ZwiL3ZwkR3ZwkT3ZwkV3Zwl13Zwl53Zwl73Zwl93ZwlB3Zwl73Zwl93ZwlB9ZwlD3ZwlF3ZwlH3ZwlJ3Zwl9",
  "3ZwlB3ZwlF3ZwlH3ZwlF3ZwlH3ZwlV3Zwm13Zwl33Zwl53ZwlL3ZwlN3Zwk93ZwkB3ZwkD3ZwkF3Zwk53Zwk73Zwk93ZwkB",
  "3Zwk53Zwk73Zwk93ZwkB3ZwkH3ZwkJ3ZwkL3ZwkN3Zwk79Zwk93ZwkB3ZwkD3ZwkF3Zwk79Zwk93ZwkB3ZwkD3ZwkF3ZwkN",
  "3ZwkP3ZwkR3ZwkT3ZwjN9ZwjP3ZwjRc03ZwoB3ZwoD3ZwoF3ZwoH3ZwmV3Zwn13Zwn53Zwn73Zwn53Zwn7BXs7XpK3Zwn53",
  "Zwn73ZwnL3ZwnN3ZwnH3ZwnJ3Zwn73Zwn93ZwnB3ZwnD3ZwvT3ZwvVBXn6Xn7BXn6Xn7BXn6XsLBXn6XsLBXn6Xo8BXn6Xo",
  "8BXn6Xs7BXn6Xs7BXn6Xs6BXn6Xs6BXn6Xs8BXn6Xs8BXn6XsGBXn6XsGBXn6XsGBXn6Xo9BXn6Xo9BXn6Xo93ZwoV3Zwp1",
  "3Zwp33Zwp5BXn6XnCBXn6XnDBXn6Xo5BXn6Xo9BXn6XoABXn8XnCBXn8XnDBXn8XnEBXn8Xo5BXn8Xo9BXn8XoABXnAXnCB",
  "XnAXnDBXnAXnEBXnAXo5BXnAXo9BXnAXoABXnBXnCBXnBXo5BXnBXo9BXnBXoABXnCXnDBXnCXo5BXnDXnCBXnDXo5BXnEX",
  "nCBXnEXnDBXnEXo5BXnJXnCBXnJXnDBXnJXnEBXnJXo5BXnLXnDBXnLXo5BXnMXnCBXnMXnDBXnMXnEBXnMXo5BXnNXnDBX",
  "nNXo5BXnOXo5BXnPXnCBXnPXo5BXnQXnCBXnQXo5BXo1XnCBXo1XnDBXo1XnEBXo1Xo5BXo1Xo9BXo1XoABXo2XnDBXo2Xo",
  "5BXo2Xo9BXo2XoABXo3Xn7BXo3XnCBXo3XnDBXo3XnEBXo3Xo4BXo3Xo5BXo3Xo9BXo3XoABXo4XnCBXo4XnDBXo4XnEBXo",
  "4Xo5BXo4Xo9BXo4XoABXo5XnCBXo5XnDBXo5XnEBXo5Xo5BXo5Xo9BXo5XoABXo6XnCBXo6XnDBXo6XnEBXo6Xo5BXo6Xo9",
  "BXo6XoABXo7XnCBXo7Xo5BXo7Xo9BXo7XoABXoAXnCBXoAXnDBXoAXnEBXoAXo5BXoAXo9BXoAXoABXnGXpGBXnHXpGBXo9",
  "XpGHX0XoCXoHHX0XoDXoHHX0XoEXoHHX0XoFXoHHX0XoGXoHHX0XoHXpGBXn6XnHBXn6XnIBXn6Xo5BXn6Xo6BXn6Xo9BXn",
  "6XoABXn8XnHBXn8XnIBXn8Xo5BXn8Xo6BXn8Xo9BXn8XoABXnAXnHBXnAXnIBXnAXo5BXnAXo6BXnAXo9BXnAXoABXnBXnH",
  "BXnBXnIBXnBXo5BXnBXo6BXnBXo9BXnBXoABXo1Xo9BXo1XoABXo2Xo9BXo2XoABXo3Xn7BXo3Xo4BXo3Xo5BXo3Xo9BXo3",
  "XoABXo4Xo5BXo4Xo9BXo4XoABXo5Xn7BXo5Xo5BXo6XnHBXo6XnIBXo6Xo5BXo6Xo6BXo6Xo9BXo6XoABXo9XpGBXoAXnHB",
  "XoAXnIBXoAXo5BXoAXo6BXoAXo9BXoAXoABXn6XnCBXn6XnDBXn6XnEBXn6Xo5BXn6Xo7BXn8XnCBXn8XnDBXn8XnEBXn8X",
  "o5BXn8Xo7BXnAXnCBXnAXnDBXnAXnEBXnAXo5BXnAXo7BXnBXo5BXnCXnDBXnCXo5BXnDXnCBXnDXo5BXnEXnCBXnEXo5BX",
  "nJXnCBXnJXnDBXnJXnEBXnJXo5BXnLXnDBXnLXnEBXnLXo5BXnMXnCBXnMXnDBXnMXnEBXnMXo5BXnNXnDBXnOXo5BXnPXn",
  "CBXnPXo5BXnQXnCBXnQXo5BXo1XnCBXo1XnDBXo1XnEBXo1Xo5BXo2XnDBXo2Xo5BXo3XnCBXo3XnDBXo3XnEBXo3Xo4BXo",
  "3Xo5BXo4XnCBXo4XnDBXo4XnEBXo4Xo5BXo4Xo7BXo5XnCBXo5XnDBXo5XnEBXo5Xo5BXo6XnCBXo6XnDBXo6XnEBXo6Xo5",
  "BXo6Xo7BXo7XnCBXo7Xo5BXo7XpGBXoAXnCBXoAXnDBXoAXnEBXoAXo5BXoAXo7BXn6Xo5BXn6Xo7BXn8Xo5BXn8Xo7BXnA",
  "Xo5BXnAXo7BXnBXo5BXnBXo7BXnJXo5BXnJXo7BXnKXo5BXnKXo7BXo3Xo4BXo3Xo5BXo4Xo5BXo6Xo5BXo6Xo7BXoAXo5B",
  "XoAXo7HXo0XoEXoHHXo0XoFXoHHXo0XoGXoHBXnNXo9BXnNXoABXnPXo9BXnPXoABXnQXo9BXnQXoABXnJXo9BXnJXoABXn",
  "KXo9BXnKXoABXnDXo9BXnDXoABXnCXo9BXnCXoABXnEXo9BXnEXoABXnLXo9BXnLXoABXnMXo9BXnMXoABXnKXnCBXnKXnD",
  "BXnKXnEBXnKXo5BXnKXnHBXnJXnHBXnLXnHBXnMXnHBXnNXo9BXnNXoABXnPXo9BXnPXoABXnQXo9BXnQXoABXnJXo9BXnJ",
  "XoABXnKXo9BXnKXoABXnDXo9BXnDXoABXnCXo9BXnCXoABXnEXo9BXnEXoABXnLXo9BXnLXoABXnMXo9BXnMXoABXnKXnCB",
  "XnKXnDBXnKXnEBXnKXo5BXnKXnHBXnJXnHBXnLXnHBXnMXnHBXnKXnCBXnKXnDBXnKXnEBXnKXo5BXnJXo7BXnKXo7BXnNX",
  "o5BXnJXnCBXnJXnDBXnJXnEBXnKXnCBXnKXnDBXnKXnEBXnNXo5BXnOXo5BXn7XoBBXn7XoBZ6HXnAXnCXo5HXnAXnDXnCH",
  "XnAXnDXnCHXnAXnDXo5HXnAXnEXo5HXnAXo5XnCHXnAXo5XnDHXnAXo5XnEHXnCXo5XnDHXnCXo5XnDHXnDXo5XoAHXnDXo",
  "5Xo9HXnJXnDXnCHXnJXnCXnDHXnJXnCXo9HXnJXo5XnDHXnJXo5XnDHXnJXo5XnCHXnJXo5Xo5HXnJXo5Xo5HXnLXnDXnDH",
  "XnLXnDXnDHXnLXo5Xo5HXnKXnDXo5HXnKXnDXo5HXnKXnCXoAHXnKXo5XnEHXnKXo5XnEHXnKXo5Xo5HXnKXo5Xo5HXnMXn",
  "DXo9HXnMXnEXo5HXnMXnEXo5HXnNXo5XnDHXnNXo5XnDHXnNXo5Xo5HXnNXo5XoAHXnPXnCXo5HXnPXo5Xo5HXnPXo5Xo5H",
  "XnPXo5Xo9HXnQXo5Xo5HXnQXo5XoAHXnQXo5Xo9HXo1XnEXo5HXo1XnEXo5HXo2Xo5XnDHXo2Xo5Xo5HXo4XnDXo5HXo4Xn",
  "DXoAHXo4XnDXo9HXo4XnCXnCHXo4XnCXnCHXo4XnEXo5HXo4XnEXo5HXo4Xo5XnDHXo4Xo5XnDHXo5XnDXnCHXo5XnDXo5H",
  "Xo5XnDXoAHXo5XnCXnDHXo5XnCXo5HXo5XnEXnCHXo5XnEXo56HXo5XnCXnEHXo7Xo5XnCHXo7Xo5Xo5HXo6XnDXo5HXo6X",
  "nDXo9HXo6XnCXo5HXo6XnCXo5HXo6XnCXo9HXo6Xo5XoAHXo6Xo5Xo9HXoAXo5Xo5HXoAXo5Xo5HXn8XnEXoAHXnAXnCXoA",
  "HXnAXnCXo9HXnAXnEXoAHXnAXnEXo9HXnAXo5XoAHXnAXo5Xo9HXnCXo5XoAHXnCXnDXo9HXnCXo5Xo9HXnJXnEXo9HXnLX",
  "nDXoAHXnKXnDXoAHXnMXnDXoAHXo4XnCXoAHXo4Xo5XoAHXoAXnDXoAHXoAXnCXoAHXoAXo5XoAHXo5Xo5XoAHXo2Xo5XoA",
  "HXo6XnDXoAHXo2Xo5XnDHXo4XnDXo5HXnPXo5XoAHXo3Xo5XoAHXo6XnCXnDHXo5XnEXoAHXo4XnCXo5HXo3Xo5Xo5HXo4X",
  "nCXo5HXo6XnCXnDHXnCXnDXoAHXnDXnCXoAHXo5XnCXoAHXo1Xo5XoAHXn8XnDXoAHXo3Xo5Xo5HXnPXnCXo5HXnLXo5Xo5",
  "HXnJXnEXoAHXo6XnCXoAXAbRHXnLXo4XsIHXo2Xo4XsINXn7Xo4Xo4Xo7NXn7Xo3Xn8XnHNXo5XnDXo5XnFNXnLXo4XnPXo",
  "5NXnHXnJXo8Xo4NXnPXo4XoAXo7NXo8XnJXo4Xo5HXnLXo4Xo9ZBXnLXo4Xo9X0Xn7Xo4Xo4Xo7X0XnPXo4XoAXo7X0Xo8X",
  "nJXo4Xo5XFXnCXo4X0XnCXo4Xn7Xo4Xo7NXnHXsCXn7Xo4CYS3Z++73ZdWV19Z+zH3Z+*73Z+zD9ZdW1X5YQ13ZlXP3ZlXT",
  "3Z+z73Z+z99Z*WP3Z+xN3Z+xL9ZdY99ZdYL9ZdZ59ZdZDLZdZ963Z++N3Z++LBX0u5BX0u5BX0u5BX0u53Z++R3Z++T3Z++",
  "V3Z*Y73ZdaV73Z*XH3Z*XL3Z*XD3Z*ZB3Zla79Z*Z13Z+zV3Z+zT9ZdaH3Z*ZN3Z*ZJ9Z*ZD3Z*ZB3Z*YF3Z*YD3Z*YH13Z",
  "*WN9Z*a93Z*YLJBX0XoBBXo0XoBBX0XoC0BX0XoD1BX0XoEBXo0XoEBX0XoFBXo0XoFBX0XoGBXo0XoGBX0XoHBXo0XoHBX",
  "0XoIBXo0XoI9ZybT9ZybV9Zyc19Zyc39Zyc53Zyc73Zyc99ZycB9ZycD3ZycF3ZycH9ZycJ9ZycL3ZycN3ZycP9ZycR3Zyc",
  "T3ZycV9Zyd13Zyd33Zyd59Zyd73Zyd93ZydB9ZydD3ZydF3ZydH9ZydJ9ZydL9ZydN9ZydP9ZydR3ZydT3ZydV9Zye13Zye",
  "33Zye59Zye73Zye93ZyeB9ZyeD3ZyeF3ZyeH9ZyeJ3ZyeL3ZyeN9ZyeP3ZyeR3ZyeT9ZyeV3Zyf13Zyf39Zyf53Zyf73Zyf",
  "93ZyfB3ZyeV3Zyf13Zyf39Zyf53Zyf73Zyf99ZyfB3ZyfD3ZyfF9ZyfH3ZyfJ3ZyfL9ZyfN3ZyfP3ZyfR9ZyfT3ZyfV3Zyg",
  "19Zyg33Zyg53Zyg79Zyg99ZygB9ZygD3ZygF3ZygH3ZygJBXo4Xn2BXo4Xn2BXo4Xn3BXo4Xn3BXo4Xn5BXo4Xn5BXo4Xn7",
  "BXo4Xn7721bTZ*jVaPZ*hVcLZ*jV9ZgzJ3Z*p59ZdrB3Zds53ZdcJ3Zdd73ZdiB3Zdi93Zdi73Zdi53Zdi33ZdeH3ZdeF3Z",
  "deD3ZdgN3Zdd73ZdiT3ZdiR3ZdiP3ZdiN9ZdiL3ZdiJ3ZdiH3ZdiF3ZdiD3ZdiB3Zdi93Zdi73Zdi53Zdi33Zdi13ZdhV3Z",
  "dhR3ZdhP3ZdhNX1ZdhL3ZdhH3ZdhD3Zdh93Zdh5RZdh13ZdgV3ZdgTX1ZdgR3ZdgP3ZdgJ9Zdm929Ztg13Zs*H3Ztg39Zs*",
  "HFZtg7X1Zs*J3ZtfBFZtgL3Ztf5XPZtgNDX1Ztc17X1Ztc57X1Ztc97FZtcDD9Z*pR3Z*pBBX0u43Z*pR3Z*pV3ZlpP13Zj",
  "kBLZlbH3ZjaP3ZjY5Z1Y21aM1ZC161YK7YEc7sSPCJe8DmA1Y8D0eLeEu7b8Df0YLb2JcIXHbEPdSPbE1cOJYEdNdDYGrU7",
  "XMVcLYGJcIJdAXBfIXT0XVYE1YNYE1X7YE19YE1XS1YK1X416DfIY3Xw4XHZUXNXAaB09aYh13aZfP3aYkL3aYp313aYk73",
  "XkY33aYk73aYkB9aYp93Zq*N3aYpB3aYp13aYkD3aYoP3aYoV3aYp53aYlH3aZcR3aYlJ3aYoV3aYn79aYkT3aYoT3ZhsG3",
  "XmWT3aYoV3ZhsC3aYn33ZhsA3aZgJ9aYoP3aZp73aYoN3Zhs29aYoL3aYoJ3aYm53aYmB3XkaB3aYmD3aYoD3ZjpT13aYo5",
  "9aYn33aYnPFaY*B3Zhr23Zhs8iPU701e216D07a41jAXBXGeRZC16Pc0DaSPaScVgAJZI7f616PXA1C1b87CJXMX5XGX5hQ",
  "bRd4JY2XHfUDb87aSPaMX5IY3X4kRjGg5fFa0Y9fCX5eEXBXMVYQa1Y0Db8XB6XcRbK1dM1C76YRUXBXGc1eEXBdMZVaMcV",
  "b2ZJa4XHkEJcIXHhE1OY9aGX5XMVfO1Z6XBd4XHnQ1ZIXTZ61eKhFX4101I1YK1XSVgSPXMVI1XA767ZU1X4161O1XM767C",
  "70V0PX47X4DOXTXM10701cU1XM10701I1XM16XB6b9n21ObFjAXBXM+VfU7cUc7iOXTXMVY8ZDgMVXMVZIb3aS7YKJa4XYH",
  "h2oJbTY0fCY3XA707XA161bE167Y2XHXMiVXA7eE7XSaTjAXBlCY9jGX5XMlVXAmBc6YFXMVXG1e81YEXNb8DbQ7ZU1YEjH",
  "X4161e2D0161XGXBXMVU161cO161UX5XMVe2JXMXjVaGX5Z01dGDb8lP0YLf6Y9biSoVqK1OXTXaIlk3oCY9ceQYRZUXNti",
  "SPZj4XeYHgMgaVZgGX5bK1XMJl01XMVbE7UXNiUXNXM1X41ZOPZCYmRgMXaVbTY0gSPaJXM7aGe3jSJgGX5Z0hROXTX4XHX",
  "hdUdHbQo1rCXo*9I1X4161XsCYL0b9C70YFIXBYg2jmJpSPY8DXGX5XM7IKtX3XdUaPdcd9XPdchVCDYnIVa4YLZ0YLeE7a",
  "4XHrIh3XjUXNd47fOBZqgNZqh5BZqgOZqh5HZqgOZqh5ZqhEHZqgOZqh5ZqhFHZqgOZqh5ZqhGHZqgOZqh5ZqhHHZqgOZqh",
  "5ZqhIYEXChQBZqjPZqh5BZqjQZqh5HZqjPZqh5ZqhEHZqjQZqh5ZqhEHZqjPZqh5ZqhFHZqjQZqh5ZqhFdMZPiUsNZIY3ZI",
  "Y3m4XHaGv5aPdfvTaPdfxHaPdfz5X7df+P1Z9df+PaPdgWDaPdgY13dgZL19dgZL73dgZL79dgZL7LdgZL1XDdgZLLdgb91",
  "3dgb91X7dgb91XVdgb9aPdgcTaPdgeH9dgg51Ldgg57XDdgg51X7dgg51aPdghP9dgjD1LdgjD1RdgjD13dgjDDX7dgjD1a",
  "Pdgl1aPdgmLaPdgo9aPdgpTaPdgrHaPdgt5aPdguPaPdgwDaPdgy1aPdgzLaPdg*9aPdhWTaPdhYH3dgt53dgcR7Z3dflD3",
  "dfm1X7dflD3cwhJZ3dfn13dfmVX7dfn13cwjH3dfoD3dfo93dfo73dfnH3dfnT3dfo1Z3dfp13dfpLX7dfp13cwl7Z3dfqL",
  "3dfqJX7dfqL3cwn53dfs13dfrT3dfrR3dfr53dfrH3dfrLZ3dfsL3dft9X7dfsL3cwoRZ3dfu93dfu7X7dfu93cwqP3dfvL",
  "3dfvH3dfvF3dfuP3dfv53dfv9Z3dfw93dfwTX7dfw93cwsFZ3dfxT3dfxRX7dfxT3cwuD3dfz93dfz53dfz33dfyD3dfyP3",
  "dfyTZ3dfzT3df+HX7dfzT3cww3Z3df*H3df*FX7df*H3cwy13dgWT3dgWP3dgWN3dgW13dgWD3dgWH3df+P3df+R7XPdhvR",
  "XPdhwFXPdhx3XPdhxNXPdhyBZw2YLO1YKckRbKVUXdPX41Z07X4161OPXJdj*VFdj*TXVdj*R3dj*N9dj*L3ayy13djt33d",
  "j*B3dj*93djs93djvV3dju1XJdkY19dkXV9dkXR3dkXPX1dkXN9dkXL3djzB3dkX33dkX73dkWL3djxV3azXL3djxNc10qR",
  "e8DYE7XMJ6XxRbKZ1gMP0YsRdMXdVdSJ0XZRbK1ZUXB6XfRX41I161YK1XaO7YQdHc9Y4dMJXMJ6ap1iIk3h8Xa79dpzH3d",
  "pzB3dpz713dpxP3dpz73dpzJ3dpz13dpxTLdpyD3dpzL3dpzB3dpyT3dpzN3dpyV3dp+33dpzV9dp+L3dp+H3dp+F3dp+53",
  "dp+33dp+13dpwR3dps53dptP3dpwV13dp*H3dp*B13dpzP73dp*J13dpzTLdp+D3dp*L3dp*B3dp+T3dp*N3dp+V13dp*V9",
  "dqWL3dqWH13dqW513dqW1V3dqXBJ3dqXJ13dp*T13dqWD13dqWD3dqXL3dqXB13dqXN3dqWV13dqXV73dqYH13dqY513dqY",
  "113dpw513dp+V13dqZH3dqZB13dqXP73dqZJ3dqZ13dqXT3dqYD19dqYD3dqZL3dqZB3dqYT3dqZN3dqYV13dqZV9dqaL3d",
  "qaH13dqa53dqa33dqa13dqWR13dpzP19dqbH3dqbB3dqb79dqZP3dqb73dqbJ3dqb13dqZT1FdqaD3dqbL3dqbB3dqaT3dq",
  "bN3dqaV3dqc33dqbV9dqcL3dqcH3dqcF3dqc53dqc33dqc1P3dqdH3dqdB3dqd713dqbP3dqd73dqdJ3dqd13dqbT1FdqcD",
  "3dqdL3dqdB3dqcT3dqdN3dqcV3dqe33dqdV9dqeL3dqeH3dqeF3dqe53dqe33dqe1fJ6XoFe2JoIY3YK7YK1YK1cOXTBXGX",
  "CBXHXCBXIXCBXJXCBXKXCBXLXCBXMXCBXNXCBXOXCBXPXCOHX8Z1X9HX8Z2X9HX8Z3X9HX8Z4X9HX8Z5X9HX8Z6X9HX8Z7X",
  "9HX8Z8X9HX8Z9X9HX8ZAX9HX8ZBX9HX8ZCX9HX8ZDX9HX8ZEX9HX8ZFX9HX8ZGX9HX8ZHX9HX8ZIX9HX8ZJX9HX8ZKX9HX8",
  "ZLX9HX8ZMX9HX8ZNX9HX8ZOX9HX8ZPX9HX8ZQX9HiWKZJiWL3duiF3duhJBZ3Z4BZNZQ0aPduiTBZ8ZMBZDZMBZJZ4BZJZJ",
  "HZGZGZMBZNZ3aMBZDZ3BZDZ4BZDZIcCBZ4ZAb8gBaMBiZRiYBBibJibJ3dWqPY93cdy93chhJ3claB3dWqN3cnuF3cilL3b",
  "qZ53cikR3cnt73cb*H3cWlH3cce33clyT3cff13cmf13cccT3cmW53bwjT3b+m53botJ3cip73ck+N3cXn33cdv33cdj53c",
  "oYH3coY13bm+13cgaB3cn*V3clZL3cdoF3bohV3cdzR3byh13bxxH3clYN3cXx93cboP3cboT3b+m93clyD3cke73bmkRJH",
  "iWKvvCiWLHiWKpm9iWLHiWKpqCiWLHiWKsy9iWLHiWKybPiWLHiWKuoJiWLHiWKzsNiWLHiWKqsTiWLHiWKvgNiWLX53cfh",
  "H3clc3YFUyNbuGDZ0DY8DXeMVY2J0YLY2JgAXBXMVdAXBbE7Y2J6YFXGd5YWAXBYE7Y8DXSDgG10JYQ7Y2JXMX5xC1n2XPd",
  "zxV0cWPdwfQbRvrE7XXwE7Xhv0YLZqEkk73gqy53gqyH3gqy13Zxk13gqg73gqbD3gqaL3gqW93gpuR3gpsV3gpo53gppN3",
  "hXsR3Zuz53gpi13gphL3gpgN3gpfJ3ZvlB3hXrJ3gpgP3gpeF3ZviL3gpdV3gpd73gqqP3gpcR3gpcB3XpZP3gpYF3gpXL3",
  "hXpV3go+93gozL3gowV3gowN3hXmT3gorR3gorP3goq53gooR9goo73gon73gok53gojN3goj73gohN3goh53goh33goh53",
  "goh73ZtWF3gZy93gocN3gobF3Zsj93goaR3goaH3goZ93gnvR3goW93gn*B3gnzD3gnvR3gnqL3gnp33gnkV3gnk13gni13",
  "gni33gngR3gnfP3gnfB3gneF3gmp93gnaB3gmpB3gm*P3gmzL3gpaH3gls53gme73gmbT3gmaD3gmiJ3gmY73gmYB3glwN3",
  "Znt93glsF3gls73glrB3glq53glpN3gllP3ZmxF3ZmtD3gldB3glaF3glZP3gleP3gk*V3hWtH3hWsN3gks13gkoN3gkoP3",
  "Zlg73gkgJ3gkfB3gkeF3gkdP3ZkrH3gkd53gkcP3gio13gkb53hWl93gkXD3gkWJ3gjxH3gj+P3ZjfD3gjpH3ZjfD3gjmV3",
  "gjn73gjm79gjfV3hWb73gjeD3gjbP3gjaH3gjXR3hWYB3ZhmB3hWWR3gizL3gizH3gizD3giy73XglP3giv33ZgrV3Zgs13",
  "fxf33git33git53g*yT3ZYzT3YhhR3gipD3gioT3g*xF3gim33giiV3giiD3gigB3giXT3g*sD3g*uB3giWT3ZeyV3ghzR3",
  "ghrR3ghrL3ghrJ3ghrP3ghoV3ghnP3ghlJ3ghmH3ghlT3ghj13ghhR3ghhL3ghg33ghfF3ghbD3ghW73gg+33ggsD3ZcwN3",
  "ggtN3ggxR3ggr53ggpH3ggjH3ZciP3ggfP3gglL3ggnF3g*f73ggbJ3ggaB3ggYF3ggaT3g*bL3gftH3gfrP3ZahV3gfkF3",
  "gez73gfe73g+x93gfZR3g+yF3g++P3gppV3gppR3gez73gfZH3fyYH3gwlR3gey13gexR3gexH3getP3geuH3ZYnJ3g+v93",
  "gek93gerL3geeT3gebP3ZYdB3gebB3geiB3gdz33g+qJ3gdwB3gdqB3gdlV3gda53ZXaH3gdX33g+jB3gcyR3ZWaH3gcvP3",
  "g+g73gcu13gcr99gcpL3Y*cJ3Zj+P3Y+*T3gcgN3Y+ZT3gcZP3gcYV3gcfD3gb+H3gby33gbuJ3gby13gbvJ3gbuN3gbtV3",
  "Yz+F3gbz53gbjH3gbfL3gzzD3gbZV3gba93YzZN3gbn93gaw13Yyx33Yyu53gaqN3gajJ3galB3galJ3gztV3gaiP3gafL3",
  "gag33gacP3Zv*B3gZzD3YxhJ3gZu33Ywt73gZlF3gZkN3gZj33YvnL3gZg73gZeV3Yu*13Yun53gYwR3gYvR3gzdR3gYuB3",
  "gzd73gzd93gYkD3gYj53gYhT3gYgN3gYcF3gzXF3gYWV3YslT3gX*F3Ysg93gXyF3ZhvJ3gXoJ3YqvJ3Yqu73YqlH3gyq33",
  "gypD3gXaN3YqaR3YqaV3YqYJ3YqX19gXYD3gXYF3gW*R3gymV3gWxT3gym93gyhB3YooV3gWlV3gWi53gWe73gycR3YnoN3",
  "f**P3YnhJ3YneV3f*yD3f*sN3gyYH3f*nH3f*mV3f*mN3YlzV3YlhB3YlhD3f*d13gxrR3YkxB3f+vN3f+vJ3gxpP3Ykk93",
  "f+f73gxiD3f+dV3f+eB3f+cJ3Yi+93f+WH3gxcN3fzwD3fzsP3fzoL3gxZP3YhqJ3YhoN3gxXL3YhfN3fy*N3YhZH3fy+53",
  "fytT3fyt93Ygg13YgbH3fynP3YfzB3fymT3ZZY13gwwN3fyiV3fydV3gwtH3fyaD3glj13YezV3Yez53ZY*B3ZY+R3fxuJ3",
  "fxuF3fq+T3gwo53fxlR3fxm93fxl73gpjT3fxk33fxk13fxjF3fxgV3YdbL3fxh53fxdN3fxZD3fw+R3fxdH3fwzV3fwxD3",
  "fwqF3fxaP3fwzD3fwzB3fwyD3YcsR3YcZJ3Ycj13gwdN3fwhD3fwhB3fwf73YY+13fwaF3Ybe13gwb13gwaR3Ya*T3YajT3",
  "gwaD3fvs53fvrF3fvqR3fvqP3fvmR3fvoV3fvgL3fvjF3fva33fvf73fvb33fvZF3gv+F3fuzT3fuxV3gvyH3fus53fus13",
  "YXrR3fukT3fukH3gvv53fuiT3hYmT3YWnP3YWcB3gvmT3gvmD3ftoT3ftk53ftaD3fstP3X+oL3fsoH3fsn73fshL3fsbV3",
  "XzgH3Zuz93fsWT3fsXT3fr+N3ZulT3frmJ3frgD3XwWR3Xv*73fqqR3fql33fqj53XvhD3fqiL3fpwT9fpn13fpsR3fo*33",
  "fozD3Xs*53foc53gubJ3foZH3XsdJ3guWN3fnoV3gka33fnj33Xqh13XpzP3gtuJ3gtu53fnXJ3Xo*13gtqJ3XosD3fm*53",
  "fm*73fmzD3XoaL3fmnV3gtiV3fmjL3fmbR3fma73fmWH3gtZJ3XljH3fllF3fkyL3fkmT3gspT3gso13fkgF3Xiq33gsnH3",
  "XimP3XiW93Xhu53fjrJ3gshV3fjnR3fjnJ3fjn73fjmL3fjm93fjk13XgXPew7yzSPXntMaXouVXiSXZzYR"]

/-- A reading of the given kind for so many code points, and the numbers after it. -/
def unpackReading (kind size : Nat) (ns : List Nat) : Reading × Nat × List Nat :=
  match kind with
  | 0 => (.kept, size, ns)
  | 1 => (.forbidden, size, ns)
  | 2 => (.dropped, size, ns)
  | 3 => (.shifted (Packed.signed (ns.headD 0)), size, ns.drop 1)
  | 4 => (.alternating (Packed.signed (ns.headD 0)), size, ns.drop 1)
  | _ => (.spelled (ns.take size), 1, ns.drop size)

/-- The stretches and their readings from packed numbers, as many as there are numbers at most. -/
def unpackReadings : Nat → Nat → List Nat → List (Nat × Reading)
  | 0, _, _ => []
  | _, _, [] => []
  | fuel + 1, start, n :: ns =>
    let (reading, size, rest) := unpackReading (n % 6) (n / 6 + 1) ns
    (start, reading) :: unpackReadings fuel (start + size) rest

/-- The stretches and their readings, in rising order. -/
def readings : List (Nat × Reading) :=
  let ns := Packed.numbers packedReadings
  unpackReadings ns.length 0 ns

/-- The first code points of the stretches. -/
def readingStarts : Array Nat := (readings.map (·.1)).toArray

/-- The readings of the stretches. -/
def readingKinds : Array (Nat × Reading) := readings.toArray

/-- The code point at a distance, as a character. -/
def atDistance (n : Nat) (distance : Int) : Char := Char.ofNat ((n : Int) + distance).toNat

/-- The characters as which a character is read, unless it is forbidden. -/
def mapped? (c : Char) : Option (List Char) :=
  let n := c.toNat
  match readingKinds[countUpTo readingStarts n 0 readingStarts.size - 1]? with
  | none => none
  | some (start, reading) =>
    match reading with
    | .kept => some [c]
    | .forbidden => none
    | .dropped => some []
    | .shifted distance => some [atDistance n distance]
    | .alternating distance =>
      some [if (n - start) % 2 == 0 then atDistance n distance else c]
    | .spelled points => some (points.map Char.ofNat)

end Waybill.Domain
