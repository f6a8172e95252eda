import Bindery.Text.CharTable

/-!
# Identifiers

An identifier starts with a letter or an underscore and goes on with letters, digits, marks and
underscores. The tables hold the characters beyond ASCII.
-/
namespace Bindery.Text

/-- The characters beyond ASCII that may start an identifier. -/
def identifierStarts : CharSet := CharSet.ofText
  "aa+1 b5+1 ba+1 c0+17 d8+1f f8+1ca 2c6+c 2e0+5 2ec+1 2ee+1 370+5 376+2 37b+3 37f+1 386+1 388+3
    38c+1 38e+14 3a3+53 3f7+8b 48a+a6 531+26 559+1 560+29 5d0+1b 5ef+4 620+2b 66e+2 671+63 6d5+1
    6e5+2 6ee+2 6fa+3 6ff+1 710+1 712+1e 74d+59 7b1+1 7ca+21 7f4+2 7fa+1 800+16 81a+1 824+1 828+1
    840+19 860+b 870+18 889+6 8a0+2a 904+36 93d+1 950+1 958+a 971+10 985+8 98f+2 993+16 9aa+7
    9b2+1 9b6+4 9bd+1 9ce+1 9dc+2 9df+3 9f0+2 9fc+1 a05+6 a0f+2 a13+16 a2a+7 a32+2 a35+2 a38+2
    a59+4 a5e+1 a72+3 a85+9 a8f+3 a93+16 aaa+7 ab2+2 ab5+5 abd+1 ad0+1 ae0+2 af9+1 b05+8 b0f+2
    b13+16 b2a+7 b32+2 b35+5 b3d+1 b5c+2 b5f+3 b71+1 b83+1 b85+6 b8e+3 b92+4 b99+2 b9c+1 b9e+2
    ba3+2 ba8+3 bae+c bd0+1 c05+8 c0e+3 c12+17 c2a+10 c3d+1 c58+3 c5d+1 c60+2 c80+1 c85+8 c8e+3
    c92+17 caa+a cb5+5 cbd+1 cdd+2 ce0+2 cf1+2 d04+9 d0e+3 d12+29 d3d+1 d4e+1 d54+3 d5f+3 d7a+6
    d85+12 d9a+18 db3+9 dbd+1 dc0+7 e01+30 e32+1 e40+7 e81+2 e84+1 e86+5 e8c+18 ea5+1 ea7+a eb2+1
    ebd+1 ec0+5 ec6+1 edc+4 f00+1 f40+8 f49+24 f88+5 1000+2b 103f+1 1050+6 105a+4 1061+1 1065+2
    106e+3 1075+d 108e+1 10a0+26 10c7+1 10cd+1 10d0+2b 10fc+14d 124a+4 1250+7 1258+1 125a+4
    1260+29 128a+4 1290+21 12b2+4 12b8+7 12c0+1 12c2+4 12c8+f 12d8+39 1312+4 1318+43 1380+10
    13a0+56 13f8+6 1401+26c 166f+11 1681+1a 16a0+4b 16ee+b 1700+12 171f+13 1740+12 1760+d 176e+3
    1780+34 17d7+1 17dc+1 1820+59 1880+29 18aa+1 18b0+46 1900+1f 1950+1e 1970+5 1980+2c 19b0+1a
    1a00+17 1a20+35 1aa7+1 1b05+2f 1b45+8 1b83+1e 1bae+2 1bba+2c 1c00+24 1c4d+3 1c5a+24 1c80+9
    1c90+2b 1cbd+3 1ce9+4 1cee+6 1cf5+2 1cfa+1 1d00+c0 1e00+116 1f18+6 1f20+26 1f48+6 1f50+8
    1f59+1 1f5b+1 1f5d+1 1f5f+1f 1f80+35 1fb6+7 1fbe+1 1fc2+3 1fc6+7 1fd0+4 1fd6+6 1fe0+d 1ff2+3
    1ff6+7 2071+1 207f+1 2090+d 2102+1 2107+1 210a+a 2115+1 2118+6 2124+1 2126+1 2128+1 212a+10
    213c+4 2145+5 214e+1 2160+29 2c00+e5 2ceb+4 2cf2+2 2d00+26 2d27+1 2d2d+1 2d30+38 2d6f+1
    2d80+17 2da0+7 2da8+7 2db0+7 2db8+7 2dc0+7 2dc8+7 2dd0+7 2dd8+7 3005+3 3021+9 3031+5 3038+5
    3041+56 309d+3 30a1+5a 30fc+4 3105+2b 3131+5e 31a0+20 31f0+10 3400+19c0 4e00+568d a4d0+2e
    a500+10d a610+10 a62a+2 a640+2f a67f+1f a6a0+50 a717+9 a722+67 a78b+40 a7d0+2 a7d3+1 a7d5+5
    a7f2+10 a803+3 a807+4 a80c+17 a840+34 a882+32 a8f2+6 a8fb+1 a8fd+2 a90a+1c a930+17 a960+1d
    a984+2f a9cf+1 a9e0+5 a9e6+a a9fa+5 aa00+29 aa40+3 aa44+8 aa60+17 aa7a+1 aa7e+32 aab1+1
    aab5+2 aab9+5 aac0+1 aac2+1 aadb+3 aae0+b aaf2+3 ab01+6 ab09+6 ab11+6 ab20+7 ab28+7 ab30+2b
    ab5c+e ab70+73 ac00+2ba4 d7b0+17 d7cb+31 f900+16e fa70+6a fb00+7 fb13+5 fb1d+1 fb1f+a fb2a+d
    fb38+5 fb3e+1 fb40+2 fb43+2 fb46+6c fbd3+8b fc64+da fd50+40 fd92+36 fdf0+a fe71+1 fe73+1
    fe77+1 fe79+1 fe7b+1 fe7d+1 fe7f+7e ff21+1a ff41+1a ff66+38 ffa0+1f ffc2+6 ffca+6 ffd2+6
    ffda+3 10000+c 1000d+1a 10028+13 1003c+2 1003f+f 10050+e 10080+7b 10140+35 10280+1d 102a0+31
    10300+20 1032d+1e 10350+26 10380+1e 103a0+24 103c8+8 103d1+5 10400+9e 104b0+24 104d8+24
    10500+28 10530+34 10570+b 1057c+f 1058c+7 10594+2 10597+b 105a3+f 105b3+7 105bb+2 10600+137
    10740+16 10760+8 10780+6 10787+2a 107b2+9 10800+6 10808+1 1080a+2c 10837+2 1083c+1 1083f+17
    10860+17 10880+1f 108e0+13 108f4+2 10900+16 10920+1a 10980+38 109be+2 10a00+1 10a10+4 10a15+3
    10a19+1d 10a60+1d 10a80+1d 10ac0+8 10ac9+1c 10b00+36 10b40+16 10b60+13 10b80+12 10c00+49
    10c80+33 10cc0+33 10d00+24 10e80+2a 10eb0+2 10f00+1d 10f27+1 10f30+16 10f70+12 10fb0+15
    10fe0+17 11003+35 11071+2 11075+1 11083+2d 110d0+19 11103+24 11144+1 11147+1 11150+23 11176+1
    11183+30 111c1+4 111da+1 111dc+1 11200+12 11213+19 11280+7 11288+1 1128a+4 1128f+f 1129f+a
    112b0+2f 11305+8 1130f+2 11313+16 1132a+7 11332+2 11335+5 1133d+1 11350+1 1135d+5 11400+35
    11447+4 1145f+3 11480+30 114c4+2 114c7+1 11580+2f 115d8+4 11600+30 11644+1 11680+2b 116b8+1
    11700+1b 11740+7 11800+2c 118a0+40 118ff+8 11909+1 1190c+8 11915+2 11918+18 1193f+1 11941+1
    119a0+8 119aa+27 119e1+1 119e3+1 11a00+1 11a0b+28 11a3a+1 11a50+1 11a5c+2e 11a9d+1 11ab0+49
    11c00+9 11c0a+25 11c40+1 11c72+1e 11d00+7 11d08+2 11d0b+26 11d46+1 11d60+6 11d67+2 11d6a+20
    11d98+1 11ee0+13 11fb0+1 12000+39a 12400+6f 12480+c4 12f90+61 13000+42f 14400+247 16800+239
    16a40+1f 16a70+4f 16ad0+1e 16b00+30 16b40+4 16b63+15 16b7d+13 16e40+40 16f00+4b 16f50+1
    16f93+d 16fe0+2 16fe3+1 17000+17f8 18800+4d6 18d00+9 1aff0+4 1aff5+7 1affd+2 1b000+123
    1b150+3 1b164+4 1b170+18c 1bc00+6b 1bc70+d 1bc80+9 1bc90+a 1d400+55 1d456+47 1d49e+2 1d4a2+1
    1d4a5+2 1d4a9+4 1d4ae+c 1d4bb+1 1d4bd+7 1d4c5+41 1d507+4 1d50d+8 1d516+7 1d51e+1c 1d53b+4
    1d540+5 1d546+1 1d54a+7 1d552+154 1d6a8+19 1d6c2+19 1d6dc+1f 1d6fc+19 1d716+1f 1d736+19
    1d750+1f 1d770+19 1d78a+1f 1d7aa+19 1d7c4+8 1df00+1f 1e100+2d 1e137+7 1e14e+1 1e290+1e
    1e2c0+2c 1e7e0+7 1e7e8+4 1e7ed+2 1e7f0+f 1e800+c5 1e900+44 1e94b+1 1ee00+4 1ee05+1b 1ee21+2
    1ee24+1 1ee27+1 1ee29+a 1ee34+4 1ee39+1 1ee3b+1 1ee42+1 1ee47+1 1ee49+1 1ee4b+1 1ee4d+3
    1ee51+2 1ee54+1 1ee57+1 1ee59+1 1ee5b+1 1ee5d+1 1ee5f+1 1ee61+2 1ee64+1 1ee67+4 1ee6c+7
    1ee74+4 1ee79+4 1ee7e+1 1ee80+a 1ee8b+11 1eea1+3 1eea5+5 1eeab+11 20000+a6e0 2a700+1039
    2b740+de 2b820+1682 2ceb0+1d31 2f800+21e 30000+134b"

/-- The characters beyond ASCII that may go on an identifier. -/
def identifierParts : CharSet := CharSet.ofText
  "aa+1 b5+1 b7+1 ba+1 c0+17 d8+1f f8+1ca 2c6+c 2e0+5 2ec+1 2ee+1 300+75 376+2 37b+3 37f+1 386+5
    38c+1 38e+14 3a3+53 3f7+8b 483+5 48a+a6 531+26 559+1 560+29 591+2d 5bf+1 5c1+2 5c4+2 5c7+1
    5d0+1b 5ef+4 610+b 620+4a 66e+66 6d5+8 6df+a 6ea+13 6ff+1 710+3b 74d+65 7c0+36 7fa+1 7fd+1
    800+2e 840+1c 860+b 870+18 889+6 898+4a 8e3+81 966+a 971+13 985+8 98f+2 993+16 9aa+7 9b2+1
    9b6+4 9bc+9 9c7+2 9cb+4 9d7+1 9dc+2 9df+5 9e6+c 9fc+1 9fe+1 a01+3 a05+6 a0f+2 a13+16 a2a+7
    a32+2 a35+2 a38+2 a3c+1 a3e+5 a47+2 a4b+3 a51+1 a59+4 a5e+1 a66+10 a81+3 a85+9 a8f+3 a93+16
    aaa+7 ab2+2 ab5+5 abc+a ac7+3 acb+3 ad0+1 ae0+4 ae6+a af9+7 b01+3 b05+8 b0f+2 b13+16 b2a+7
    b32+2 b35+5 b3c+9 b47+2 b4b+3 b55+3 b5c+2 b5f+5 b66+a b71+1 b82+2 b85+6 b8e+3 b92+4 b99+2
    b9c+1 b9e+2 ba3+2 ba8+3 bae+c bbe+5 bc6+3 bca+4 bd0+1 bd7+1 be6+a c00+d c0e+3 c12+17 c2a+10
    c3c+9 c46+3 c4a+4 c55+2 c58+3 c5d+1 c60+4 c66+a c80+4 c85+8 c8e+3 c92+17 caa+a cb5+5 cbc+9
    cc6+3 cca+4 cd5+2 cdd+2 ce0+4 ce6+a cf1+2 d00+d d0e+3 d12+33 d46+3 d4a+5 d54+4 d5f+5 d66+a
    d7a+6 d81+3 d85+12 d9a+18 db3+9 dbd+1 dc0+7 dca+1 dcf+6 dd6+1 dd8+8 de6+a df2+2 e01+3a e40+f
    e50+a e81+2 e84+1 e86+5 e8c+18 ea5+1 ea7+17 ec0+5 ec6+1 ec8+6 ed0+a edc+4 f00+1 f18+2 f20+a
    f35+1 f37+1 f39+1 f3e+a f49+24 f71+14 f86+12 f99+24 fc6+1 1000+4a 1050+4e 10a0+26 10c7+1
    10cd+1 10d0+2b 10fc+14d 124a+4 1250+7 1258+1 125a+4 1260+29 128a+4 1290+21 12b2+4 12b8+7
    12c0+1 12c2+4 12c8+f 12d8+39 1312+4 1318+43 135d+3 1369+9 1380+10 13a0+56 13f8+6 1401+26c
    166f+11 1681+1a 16a0+4b 16ee+b 1700+16 171f+16 1740+14 1760+d 176e+3 1772+2 1780+54 17d7+1
    17dc+2 17e0+a 180b+3 180f+b 1820+59 1880+2b 18b0+46 1900+1f 1920+c 1930+c 1946+28 1970+5
    1980+2c 19b0+1a 19d0+b 1a00+1c 1a20+3f 1a60+1d 1a7f+b 1a90+a 1aa7+1 1ab0+e 1abf+10 1b00+4d
    1b50+a 1b6b+9 1b80+74 1c00+38 1c40+a 1c4d+31 1c80+9 1c90+2b 1cbd+3 1cd0+3 1cd4+27 1d00+216
    1f18+6 1f20+26 1f48+6 1f50+8 1f59+1 1f5b+1 1f5d+1 1f5f+1f 1f80+35 1fb6+7 1fbe+1 1fc2+3 1fc6+7
    1fd0+4 1fd6+6 1fe0+d 1ff2+3 1ff6+7 203f+2 2054+1 2071+1 207f+1 2090+d 20d0+d 20e1+1 20e5+c
    2102+1 2107+1 210a+a 2115+1 2118+6 2124+1 2126+1 2128+1 212a+10 213c+4 2145+5 214e+1 2160+29
    2c00+e5 2ceb+9 2d00+26 2d27+1 2d2d+1 2d30+38 2d6f+1 2d7f+18 2da0+7 2da8+7 2db0+7 2db8+7
    2dc0+7 2dc8+7 2dd0+7 2dd8+7 2de0+20 3005+3 3021+f 3031+5 3038+5 3041+56 3099+2 309d+3 30a1+5a
    30fc+4 3105+2b 3131+5e 31a0+20 31f0+10 3400+19c0 4e00+568d a4d0+2e a500+10d a610+1c a640+30
    a674+a a67f+73 a717+9 a722+67 a78b+40 a7d0+2 a7d3+1 a7d5+5 a7f2+36 a82c+1 a840+34 a880+46
    a8d0+a a8e0+18 a8fb+1 a8fd+31 a930+24 a960+1d a980+41 a9cf+b a9e0+1f aa00+37 aa40+e aa50+a
    aa60+17 aa7a+49 aadb+3 aae0+10 aaf2+5 ab01+6 ab09+6 ab11+6 ab20+7 ab28+7 ab30+2b ab5c+e
    ab70+7b abec+2 abf0+a ac00+2ba4 d7b0+17 d7cb+31 f900+16e fa70+6a fb00+7 fb13+5 fb1d+c fb2a+d
    fb38+5 fb3e+1 fb40+2 fb43+2 fb46+6c fbd3+8b fc64+da fd50+40 fd92+36 fdf0+a fe00+10 fe20+10
    fe33+2 fe4d+3 fe71+1 fe73+1 fe77+1 fe79+1 fe7b+1 fe7d+1 fe7f+7e ff10+a ff21+1a ff3f+1 ff41+1a
    ff66+59 ffc2+6 ffca+6 ffd2+6 ffda+3 10000+c 1000d+1a 10028+13 1003c+2 1003f+f 10050+e
    10080+7b 10140+35 101fd+1 10280+1d 102a0+31 102e0+1 10300+20 1032d+1e 10350+2b 10380+1e
    103a0+24 103c8+8 103d1+5 10400+9e 104a0+a 104b0+24 104d8+24 10500+28 10530+34 10570+b 1057c+f
    1058c+7 10594+2 10597+b 105a3+f 105b3+7 105bb+2 10600+137 10740+16 10760+8 10780+6 10787+2a
    107b2+9 10800+6 10808+1 1080a+2c 10837+2 1083c+1 1083f+17 10860+17 10880+1f 108e0+13 108f4+2
    10900+16 10920+1a 10980+38 109be+2 10a00+4 10a05+2 10a0c+8 10a15+3 10a19+1d 10a38+3 10a3f+1
    10a60+1d 10a80+1d 10ac0+8 10ac9+1e 10b00+36 10b40+16 10b60+13 10b80+12 10c00+49 10c80+33
    10cc0+33 10d00+28 10d30+a 10e80+2a 10eab+2 10eb0+2 10f00+1d 10f27+1 10f30+21 10f70+16
    10fb0+15 10fe0+17 11000+47 11066+10 1107f+3c 110c2+1 110d0+19 110f0+a 11100+35 11136+a
    11144+4 11150+24 11176+1 11180+45 111c9+4 111ce+d 111dc+1 11200+12 11213+25 1123e+1 11280+7
    11288+1 1128a+4 1128f+f 1129f+a 112b0+3b 112f0+a 11300+4 11305+8 1130f+2 11313+16 1132a+7
    11332+2 11335+5 1133b+a 11347+2 1134b+3 11350+1 11357+1 1135d+7 11366+7 11370+5 11400+4b
    11450+a 1145e+4 11480+46 114c7+1 114d0+a 11580+36 115b8+9 115d8+6 11600+41 11644+1 11650+a
    11680+39 116c0+a 11700+1b 1171d+f 11730+a 11740+7 11800+3b 118a0+4a 118ff+8 11909+1 1190c+8
    11915+2 11918+1e 11937+2 1193b+9 11950+a 119a0+8 119aa+2e 119da+8 119e3+2 11a00+3f 11a47+1
    11a50+4a 11a9d+1 11ab0+49 11c00+9 11c0a+2d 11c38+9 11c50+a 11c72+1e 11c92+16 11ca9+e 11d00+7
    11d08+2 11d0b+2c 11d3a+1 11d3c+2 11d3f+9 11d50+a 11d60+6 11d67+2 11d6a+25 11d90+2 11d93+6
    11da0+a 11ee0+17 11fb0+1 12000+39a 12400+6f 12480+c4 12f90+61 13000+42f 14400+247 16800+239
    16a40+1f 16a60+a 16a70+4f 16ac0+a 16ad0+1e 16af0+5 16b00+37 16b40+4 16b50+a 16b63+15 16b7d+13
    16e40+40 16f00+4b 16f4f+39 16f8f+11 16fe0+2 16fe3+2 16ff0+2 17000+17f8 18800+4d6 18d00+9
    1aff0+4 1aff5+7 1affd+2 1b000+123 1b150+3 1b164+4 1b170+18c 1bc00+6b 1bc70+d 1bc80+9 1bc90+a
    1bc9d+2 1cf00+2e 1cf30+17 1d165+5 1d16d+6 1d17b+8 1d185+7 1d1aa+4 1d242+3 1d400+55 1d456+47
    1d49e+2 1d4a2+1 1d4a5+2 1d4a9+4 1d4ae+c 1d4bb+1 1d4bd+7 1d4c5+41 1d507+4 1d50d+8 1d516+7
    1d51e+1c 1d53b+4 1d540+5 1d546+1 1d54a+7 1d552+154 1d6a8+19 1d6c2+19 1d6dc+1f 1d6fc+19
    1d716+1f 1d736+19 1d750+1f 1d770+19 1d78a+1f 1d7aa+19 1d7c4+8 1d7ce+32 1da00+37 1da3b+32
    1da75+1 1da84+1 1da9b+5 1daa1+f 1df00+1f 1e000+7 1e008+11 1e01b+7 1e023+2 1e026+5 1e100+2d
    1e130+e 1e140+a 1e14e+1 1e290+1f 1e2c0+3a 1e7e0+7 1e7e8+4 1e7ed+2 1e7f0+f 1e800+c5 1e8d0+7
    1e900+4c 1e950+a 1ee00+4 1ee05+1b 1ee21+2 1ee24+1 1ee27+1 1ee29+a 1ee34+4 1ee39+1 1ee3b+1
    1ee42+1 1ee47+1 1ee49+1 1ee4b+1 1ee4d+3 1ee51+2 1ee54+1 1ee57+1 1ee59+1 1ee5b+1 1ee5d+1
    1ee5f+1 1ee61+2 1ee64+1 1ee67+4 1ee6c+7 1ee74+4 1ee79+4 1ee7e+1 1ee80+a 1ee8b+11 1eea1+3
    1eea5+5 1eeab+11 1fbf0+a 20000+a6e0 2a700+1039 2b740+de 2b820+1682 2ceb0+1d31 2f800+21e
    30000+134b e0100+f0"

/-- Letters, digits and the underscore of ASCII. -/
def isWordChar (c : Char) : Bool := c.isAlphanum || c = '_'

def isIdentifierStart (c : Char) : Bool :=
  if c.toNat < 128 then c.isAlpha || c = '_' else identifierStarts.contains c

def isIdentifierPart (c : Char) : Bool :=
  if c.toNat < 128 then isWordChar c else identifierParts.contains c

/-- Is the text an identifier? Keywords have the form of one too. -/
def isIdentifier (s : String) : Bool :=
  match s.toList with
  | [] => false
  | c :: rest => isIdentifierStart c && rest.all isIdentifierPart

end Bindery.Text
