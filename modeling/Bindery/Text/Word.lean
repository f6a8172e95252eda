import Bindery.Text.CharTable

/-!
# Word characters of every script
-/
namespace Bindery.Text

/-- Letters and numbers beyond ASCII. -/
def wordSpans : CharSet := CharSet.ofText
  "aa+1 b2+2 b5+1 b9+2 bc+3 c0+17 d8+1f f8+1ca 2c6+c 2e0+5 2ec+1 2ee+1 370+5 376+2 37a+4 37f+1
    386+1 388+3 38c+1 38e+14 3a3+53 3f7+8b 48a+a6 531+26 559+1 560+29 5d0+1b 5ef+4 620+2b 660+a
    66e+2 671+63 6d5+1 6e5+2 6ee+f 6ff+1 710+1 712+1e 74d+59 7b1+1 7c0+2b 7f4+2 7fa+1 800+16
    81a+1 824+1 828+1 840+19 860+b 870+18 889+6 8a0+2a 904+36 93d+1 950+1 958+a 966+a 971+10
    985+8 98f+2 993+16 9aa+7 9b2+1 9b6+4 9bd+1 9ce+1 9dc+2 9df+3 9e6+c 9f4+6 9fc+1 a05+6 a0f+2
    a13+16 a2a+7 a32+2 a35+2 a38+2 a59+4 a5e+1 a66+a a72+3 a85+9 a8f+3 a93+16 aaa+7 ab2+2 ab5+5
    abd+1 ad0+1 ae0+2 ae6+a af9+1 b05+8 b0f+2 b13+16 b2a+7 b32+2 b35+5 b3d+1 b5c+2 b5f+3 b66+a
    b71+7 b83+1 b85+6 b8e+3 b92+4 b99+2 b9c+1 b9e+2 ba3+2 ba8+3 bae+c bd0+1 be6+d c05+8 c0e+3
    c12+17 c2a+10 c3d+1 c58+3 c5d+1 c60+2 c66+a c78+7 c80+1 c85+8 c8e+3 c92+17 caa+a cb5+5 cbd+1
    cdd+2 ce0+2 ce6+a cf1+2 d04+9 d0e+3 d12+29 d3d+1 d4e+1 d54+3 d58+a d66+13 d7a+6 d85+12 d9a+18
    db3+9 dbd+1 dc0+7 de6+a e01+30 e32+2 e40+7 e50+a e81+2 e84+1 e86+5 e8c+18 ea5+1 ea7+a eb2+2
    ebd+1 ec0+5 ec6+1 ed0+a edc+4 f00+1 f20+14 f40+8 f49+24 f88+5 1000+2b 103f+b 1050+6 105a+4
    1061+1 1065+2 106e+3 1075+d 108e+1 1090+a 10a0+26 10c7+1 10cd+1 10d0+2b 10fc+14d 124a+4
    1250+7 1258+1 125a+4 1260+29 128a+4 1290+21 12b2+4 12b8+7 12c0+1 12c2+4 12c8+f 12d8+39 1312+4
    1318+43 1369+14 1380+10 13a0+56 13f8+6 1401+26c 166f+11 1681+1a 16a0+4b 16ee+b 1700+12
    171f+13 1740+12 1760+d 176e+3 1780+34 17d7+1 17dc+1 17e0+a 17f0+a 1810+a 1820+59 1880+5
    1887+22 18aa+1 18b0+46 1900+1f 1946+28 1970+5 1980+2c 19b0+1a 19d0+b 1a00+17 1a20+35 1a80+a
    1a90+a 1aa7+1 1b05+2f 1b45+8 1b50+a 1b83+1e 1bae+38 1c00+24 1c40+a 1c4d+31 1c80+9 1c90+2b
    1cbd+3 1ce9+4 1cee+6 1cf5+2 1cfa+1 1d00+c0 1e00+116 1f18+6 1f20+26 1f48+6 1f50+8 1f59+1
    1f5b+1 1f5d+1 1f5f+1f 1f80+35 1fb6+7 1fbe+1 1fc2+3 1fc6+7 1fd0+4 1fd6+6 1fe0+d 1ff2+3 1ff6+7
    2070+2 2074+6 207f+b 2090+d 2102+1 2107+1 210a+a 2115+1 2119+5 2124+1 2126+1 2128+1 212a+4
    212f+b 213c+4 2145+5 214e+1 2150+3a 2460+3c 24ea+16 2776+1e 2c00+e5 2ceb+4 2cf2+2 2cfd+1
    2d00+26 2d27+1 2d2d+1 2d30+38 2d6f+1 2d80+17 2da0+7 2da8+7 2db0+7 2db8+7 2dc0+7 2dc8+7 2dd0+7
    2dd8+7 2e2f+1 3005+3 3021+9 3031+5 3038+5 3041+56 309d+3 30a1+5a 30fc+4 3105+2b 3131+5e
    3192+4 31a0+20 31f0+10 3220+a 3248+8 3251+f 3280+a 32b1+f 3400+19c0 4e00+568d a4d0+2e
    a500+10d a610+1c a640+2f a67f+1f a6a0+50 a717+9 a722+67 a78b+40 a7d0+2 a7d3+1 a7d5+5 a7f2+10
    a803+3 a807+4 a80c+17 a830+6 a840+34 a882+32 a8d0+a a8f2+6 a8fb+1 a8fd+2 a900+26 a930+17
    a960+1d a984+2f a9cf+b a9e0+5 a9e6+19 aa00+29 aa40+3 aa44+8 aa50+a aa60+17 aa7a+1 aa7e+32
    aab1+1 aab5+2 aab9+5 aac0+1 aac2+1 aadb+3 aae0+b aaf2+3 ab01+6 ab09+6 ab11+6 ab20+7 ab28+7
    ab30+2b ab5c+e ab70+73 abf0+a ac00+2ba4 d7b0+17 d7cb+31 f900+16e fa70+6a fb00+7 fb13+5 fb1d+1
    fb1f+a fb2a+d fb38+5 fb3e+1 fb40+2 fb43+2 fb46+6c fbd3+16b fd50+40 fd92+36 fdf0+c fe70+5
    fe76+87 ff10+a ff21+1a ff41+1a ff66+59 ffc2+6 ffca+6 ffd2+6 ffda+3 10000+c 1000d+1a 10028+13
    1003c+2 1003f+f 10050+e 10080+7b 10107+2d 10140+39 1018a+2 10280+1d 102a0+31 102e1+1b
    10300+24 1032d+1e 10350+26 10380+1e 103a0+24 103c8+8 103d1+5 10400+9e 104a0+a 104b0+24
    104d8+24 10500+28 10530+34 10570+b 1057c+f 1058c+7 10594+2 10597+b 105a3+f 105b3+7 105bb+2
    10600+137 10740+16 10760+8 10780+6 10787+2a 107b2+9 10800+6 10808+1 1080a+2c 10837+2 1083c+1
    1083f+17 10858+1f 10879+26 108a7+9 108e0+13 108f4+2 108fb+21 10920+1a 10980+38 109bc+14
    109d2+2f 10a10+4 10a15+3 10a19+1d 10a40+9 10a60+1f 10a80+20 10ac0+8 10ac9+1c 10aeb+5 10b00+36
    10b40+16 10b58+1b 10b78+1a 10ba9+7 10c00+49 10c80+33 10cc0+33 10cfa+2a 10d30+a 10e60+1f
    10e80+2a 10eb0+2 10f00+28 10f30+16 10f51+4 10f70+12 10fb0+1c 10fe0+17 11003+35 11052+1e
    11071+2 11075+1 11083+2d 110d0+19 110f0+a 11103+24 11136+a 11144+1 11147+1 11150+23 11176+1
    11183+30 111c1+4 111d0+b 111dc+1 111e1+14 11200+12 11213+19 11280+7 11288+1 1128a+4 1128f+f
    1129f+a 112b0+2f 112f0+a 11305+8 1130f+2 11313+16 1132a+7 11332+2 11335+5 1133d+1 11350+1
    1135d+5 11400+35 11447+4 11450+a 1145f+3 11480+30 114c4+2 114c7+1 114d0+a 11580+2f 115d8+4
    11600+30 11644+1 11650+a 11680+2b 116b8+1 116c0+a 11700+1b 11730+c 11740+7 11800+2c 118a0+53
    118ff+8 11909+1 1190c+8 11915+2 11918+18 1193f+1 11941+1 11950+a 119a0+8 119aa+27 119e1+1
    119e3+1 11a00+1 11a0b+28 11a3a+1 11a50+1 11a5c+2e 11a9d+1 11ab0+49 11c00+9 11c0a+25 11c40+1
    11c50+1d 11c72+1e 11d00+7 11d08+2 11d0b+26 11d46+1 11d50+a 11d60+6 11d67+2 11d6a+20 11d98+1
    11da0+a 11ee0+13 11fb0+1 11fc0+15 12000+39a 12400+6f 12480+c4 12f90+61 13000+42f 14400+247
    16800+239 16a40+1f 16a60+a 16a70+4f 16ac0+a 16ad0+1e 16b00+30 16b40+4 16b50+a 16b5b+7
    16b63+15 16b7d+13 16e40+57 16f00+4b 16f50+1 16f93+d 16fe0+2 16fe3+1 17000+17f8 18800+4d6
    18d00+9 1aff0+4 1aff5+7 1affd+2 1b000+123 1b150+3 1b164+4 1b170+18c 1bc00+6b 1bc70+d 1bc80+9
    1bc90+a 1d2e0+14 1d360+19 1d400+55 1d456+47 1d49e+2 1d4a2+1 1d4a5+2 1d4a9+4 1d4ae+c 1d4bb+1
    1d4bd+7 1d4c5+41 1d507+4 1d50d+8 1d516+7 1d51e+1c 1d53b+4 1d540+5 1d546+1 1d54a+7 1d552+154
    1d6a8+19 1d6c2+19 1d6dc+1f 1d6fc+19 1d716+1f 1d736+19 1d750+1f 1d770+19 1d78a+1f 1d7aa+19
    1d7c4+8 1d7ce+32 1df00+1f 1e100+2d 1e137+7 1e140+a 1e14e+1 1e290+1e 1e2c0+2c 1e2f0+a 1e7e0+7
    1e7e8+4 1e7ed+2 1e7f0+f 1e800+c5 1e8c7+9 1e900+44 1e94b+1 1e950+a 1ec71+3b 1ecad+3 1ecb1+4
    1ed01+2d 1ed2f+f 1ee00+4 1ee05+1b 1ee21+2 1ee24+1 1ee27+1 1ee29+a 1ee34+4 1ee39+1 1ee3b+1
    1ee42+1 1ee47+1 1ee49+1 1ee4b+1 1ee4d+3 1ee51+2 1ee54+1 1ee57+1 1ee59+1 1ee5b+1 1ee5d+1
    1ee5f+1 1ee61+2 1ee64+1 1ee67+4 1ee6c+7 1ee74+4 1ee79+4 1ee7e+1 1ee80+a 1ee8b+11 1eea1+3
    1eea5+5 1eeab+11 1f100+d 1fbf0+a 20000+a6e0 2a700+1039 2b740+de 2b820+1682 2ceb0+1d31
    2f800+21e 30000+134b"

/-- Letters, numbers and the underscore. -/
def isWordPart (c : Char) : Bool :=
  if c.toNat < 128 then c.isAlphanum || c = '_' else wordSpans.contains c

end Bindery.Text
