import Bindery.Text.CharTable

/-!
# Upper and lower case of every script

Upper case may be longer than the character itself (the sharp s). Lower case keeps the length but
for the dotted capital I, and the Greek sigma has a form of its own at the end of a word.
-/
namespace Bindery.Text

def upperRuns : CharMap := CharMap.ofText
  "b5:39c e0+17:c0 f8+7:d8 ff:178 101+18*2:100*2 131:49 133+3*2:132*2 13a+8*2:139*2
    14b+17*2:14a*2 17a+3*2:179*2 17f:53 180:243 183+2*2:182*2 188:187 18c:18b 192:191 195:1f6
    199:198 19a:23d 19e:220 1a1+3*2:1a0*2 1a8:1a7 1ad:1ac 1b0:1af 1b4+2*2:1b3*2 1b9:1b8 1bd:1bc
    1bf:1f7 1c5+2:1c4*0 1c8+2:1c7*0 1cb+2:1ca*0 1ce+8*2:1cd*2 1dd:18e 1df+9*2:1de*2 1f2+2:1f1*0
    1f5:1f4 1f9+14*2:1f8*2 223+9*2:222*2 23c:23b 23f+2:2c7e 242:241 247+5*2:246*2 250:2c6f
    251:2c6d 252:2c70 253:181 254:186 256+2:189 259+2*2:18f 25c:a7ab 260:193 261:a7ac 263:194
    265:a78d 266:a7aa 268:197 269:196 26a:a7ae 26b:2c62 26c:a7ad 26f:19c 271:2c6e 272:19d 275:19f
    27d:2c64 280:1a6 282:a7c5 283:1a9 287:a7b1 288:1ae 289:244 28a+2:1b1 28c:245 292:1b7 29d:a7b2
    29e:a7b0 345:399 371+2*2:370*2 377:376 37b+3:3fd 3ac+2:386*2 3ae+2:389 3b1+11:391 3c2+2:3a3*0
    3c4+8:3a4 3cc+2:38c*2 3ce:38f 3d0:392 3d1:398 3d5:3a6 3d6:3a0 3d7:3cf 3d9+c*2:3d8*2 3f0:39a
    3f1:3a1 3f2:3f9 3f3:37f 3f5:395 3f8:3f7 3fb:3fa 430+20:410 450+10:400 461+11*2:460*2
    48b+1b*2:48a*2 4c2+7*2:4c1*2 4cf:4c0 4d1+30*2:4d0*2 561+26:531 10d0+2b:1c90 10fd+3:1cbd
    13f8+6:13f0 1c80+2:412*2 1c82:41e 1c83+2:421 1c85:422 1c86:42a 1c87:462 1c88:a64a 1d79:a77d
    1d7d:2c63 1d8e:a7c6 1e01+4b*2:1e00*2 1e9b:1e60 1ea1+30*2:1ea0*2 1f00+8:1f08 1f10+6:1f18
    1f20+8:1f28 1f30+8:1f38 1f40+6:1f48 1f51+4*2:1f59*2 1f60+8:1f68 1f70+2:1fba 1f72+4:1fc8
    1f76+2:1fda 1f78+2:1ff8 1f7a+2:1fea 1f7c+2:1ffa 1fb0+2:1fb8 1fbe:399 1fd0+2:1fd8 1fe0+2:1fe8
    1fe5:1fec 214e:2132 2170+10:2160 2184:2183 24d0+1a:24b6 2c30+30:2c00 2c61:2c60 2c65:23a
    2c66:23e 2c68+3*2:2c67*2 2c73:2c72 2c76:2c75 2c81+32*2:2c80*2 2cec+2*2:2ceb*2 2cf3:2cf2
    2d00+26:10a0 2d27:10c7 2d2d:10cd a641+17*2:a640*2 a681+e*2:a680*2 a723+7*2:a722*2
    a733+1f*2:a732*2 a77a+2*2:a779*2 a77f+5*2:a77e*2 a78c:a78b a791+2*2:a790*2 a794:a7c4
    a797+a*2:a796*2 a7b5+8*2:a7b4*2 a7c8+2*2:a7c7*2 a7d1:a7d0 a7d7+2*2:a7d6*2 a7f6:a7f5 ab53:a7b3
    ab70+50:13a0 ff41+1a:ff21 10428+28:10400 104d8+24:104b0 10597+b:10570 105a3+f:1057c
    105b3+7:1058c 105bb+2:10594 10cc0+33:10c80 118c0+20:118a0 16e60+20:16e40 1e922+22:1e900"

/-- Characters whose upper case is a text of several characters. -/
def upperTexts : CharTexts := CharTexts.ofText
  "df:53,53 149:2bc,4e 1f0:4a,30c 390:399,308,301 3b0:3a5,308,301 587:535,552 1e96:48,331
    1e97:54,308 1e98:57,30a 1e99:59,30a 1e9a:41,2be 1f50:3a5,313 1f52:3a5,313,300
    1f54:3a5,313,301 1f56:3a5,313,342 1f80:1f08,399 1f81:1f09,399 1f82:1f0a,399 1f83:1f0b,399
    1f84:1f0c,399 1f85:1f0d,399 1f86:1f0e,399 1f87:1f0f,399 1f88:1f08,399 1f89:1f09,399
    1f8a:1f0a,399 1f8b:1f0b,399 1f8c:1f0c,399 1f8d:1f0d,399 1f8e:1f0e,399 1f8f:1f0f,399
    1f90:1f28,399 1f91:1f29,399 1f92:1f2a,399 1f93:1f2b,399 1f94:1f2c,399 1f95:1f2d,399
    1f96:1f2e,399 1f97:1f2f,399 1f98:1f28,399 1f99:1f29,399 1f9a:1f2a,399 1f9b:1f2b,399
    1f9c:1f2c,399 1f9d:1f2d,399 1f9e:1f2e,399 1f9f:1f2f,399 1fa0:1f68,399 1fa1:1f69,399
    1fa2:1f6a,399 1fa3:1f6b,399 1fa4:1f6c,399 1fa5:1f6d,399 1fa6:1f6e,399 1fa7:1f6f,399
    1fa8:1f68,399 1fa9:1f69,399 1faa:1f6a,399 1fab:1f6b,399 1fac:1f6c,399 1fad:1f6d,399
    1fae:1f6e,399 1faf:1f6f,399 1fb2:1fba,399 1fb3:391,399 1fb4:386,399 1fb6:391,342
    1fb7:391,342,399 1fbc:391,399 1fc2:1fca,399 1fc3:397,399 1fc4:389,399 1fc6:397,342
    1fc7:397,342,399 1fcc:397,399 1fd2:399,308,300 1fd3:399,308,301 1fd6:399,342 1fd7:399,308,342
    1fe2:3a5,308,300 1fe3:3a5,308,301 1fe4:3a1,313 1fe6:3a5,342 1fe7:3a5,308,342 1ff2:1ffa,399
    1ff3:3a9,399 1ff4:38f,399 1ff6:3a9,342 1ff7:3a9,342,399 1ffc:3a9,399 fb00:46,46 fb01:46,49
    fb02:46,4c fb03:46,46,49 fb04:46,46,4c fb05:53,54 fb06:53,54 fb13:544,546 fb14:544,535
    fb15:544,53b fb16:54e,546 fb17:544,53d"

def lowerRuns : CharMap := CharMap.ofText
  "c0+17:e0 d8+7:f8 100+18*2:101*2 132+3*2:133*2 139+8*2:13a*2 14a+17*2:14b*2 178:ff
    179+3*2:17a*2 181:253 182+2*2:183*2 186:254 187:188 189+2:256 18b:18c 18e:1dd 18f+2:259*2
    191:192 193:260 194:263 196:269 197:268 198:199 19c:26f 19d:272 19f:275 1a0+3*2:1a1*2 1a6:280
    1a7:1a8 1a9:283 1ac:1ad 1ae:288 1af:1b0 1b1+2:28a 1b3+2*2:1b4*2 1b7:292 1b8:1b9 1bc:1bd
    1c4+2:1c6*0 1c7+2:1c9*0 1ca+2:1cc*0 1cd+8*2:1ce*2 1de+9*2:1df*2 1f1+2:1f3*0 1f4:1f5 1f6:195
    1f7:1bf 1f8+14*2:1f9*2 220:19e 222+9*2:223*2 23a:2c65 23b:23c 23d:19a 23e:2c66 241:242
    243:180 244:289 245:28c 246+5*2:247*2 370+2*2:371*2 376:377 37f:3f3 386+2*2:3ac 389+2:3ae
    38c+2*2:3cc 38f:3ce 391+11:3b1 3a3+9:3c3 3cf:3d7 3d8+c*2:3d9*2 3f4:3b8 3f7:3f8 3f9:3f2
    3fa:3fb 3fd+3:37b 400+10:450 410+20:430 460+11*2:461*2 48a+1b*2:48b*2 4c0:4cf 4c1+7*2:4c2*2
    4d0+30*2:4d1*2 531+26:561 10a0+26:2d00 10c7:2d27 10cd:2d2d 13a0+50:ab70 13f0+6:13f8
    1c90+2b:10d0 1cbd+3:10fd 1e00+4b*2:1e01*2 1e9e:df 1ea0+30*2:1ea1*2 1f08+8:1f00 1f18+6:1f10
    1f28+8:1f20 1f38+8:1f30 1f48+6:1f40 1f59+4*2:1f51*2 1f68+8:1f60 1f88+8:1f80 1f98+8:1f90
    1fa8+8:1fa0 1fb8+2:1fb0 1fba+2:1f70 1fbc:1fb3 1fc8+4:1f72 1fcc:1fc3 1fd8+2:1fd0 1fda+2:1f76
    1fe8+2:1fe0 1fea+2:1f7a 1fec:1fe5 1ff8+2:1f78 1ffa+2:1f7c 1ffc:1ff3 2126:3c9 212a:6b 212b:e5
    2132:214e 2160+10:2170 2183:2184 24b6+1a:24d0 2c00+30:2c30 2c60:2c61 2c62:26b 2c63:1d7d
    2c64:27d 2c67+3*2:2c68*2 2c6d:251 2c6e:271 2c6f+2:250*2 2c72:2c73 2c75:2c76 2c7e+2:23f
    2c80+32*2:2c81*2 2ceb+2*2:2cec*2 2cf2:2cf3 a640+17*2:a641*2 a680+e*2:a681*2 a722+7*2:a723*2
    a732+1f*2:a733*2 a779+2*2:a77a*2 a77d:1d79 a77e+5*2:a77f*2 a78b:a78c a78d:265 a790+2*2:a791*2
    a796+a*2:a797*2 a7aa:266 a7ab:25c a7ac:261 a7ad:26c a7ae:26a a7b0:29e a7b1:287 a7b2:29d
    a7b3:ab53 a7b4+8*2:a7b5*2 a7c4:a794 a7c5:282 a7c6:1d8e a7c7+2*2:a7c8*2 a7d0:a7d1
    a7d6+2*2:a7d7*2 a7f5:a7f6 ff21+1a:ff41 10400+28:10428 104b0+24:104d8 10570+b:10597
    1057c+f:105a3 1058c+7:105b3 10594+2:105bb 10c80+33:10cc0 118a0+20:118c0 16e40+20:16e60
    1e900+22:1e922"

/-- Letters with case, as far as they decide the form of a sigma. -/
def casedSpans : CharSet := CharSet.ofText
  "41+1a 61+1a aa+1 b5+1 ba+1 c0+17 d8+1f f8+c3 1bc+4 1c4+d0 295+1b 370+4 376+2 37b+3 37f+1
    386+1 388+3 38c+1 38e+14 3a3+53 3f7+8b 48a+a6 531+26 560+29 10a0+26 10c7+1 10cd+1 10d0+2b
    10fd+3 13a0+56 13f8+6 1c80+9 1c90+2b 1cbd+3 1d00+2c 1d6b+d 1d79+22 1e00+116 1f18+6 1f20+26
    1f48+6 1f50+8 1f59+1 1f5b+1 1f5d+1 1f5f+1f 1f80+35 1fb6+7 1fbe+1 1fc2+3 1fc6+7 1fd0+4 1fd6+6
    1fe0+d 1ff2+3 1ff6+7 2102+1 2107+1 210a+a 2115+1 2119+5 2124+1 2126+1 2128+1 212a+4 212f+6
    2139+1 213c+4 2145+5 214e+1 2160+20 2183+2 24b6+34 2c00+7c 2c7e+67 2ceb+4 2cf2+2 2d00+26
    2d27+1 2d2d+1 a640+2e a680+1c a722+4e a771+17 a78b+4 a790+3b a7d0+2 a7d3+1 a7d5+5 a7f5+2
    a7fa+1 ab30+2b ab60+9 ab70+50 fb00+7 fb13+5 ff21+1a ff41+1a 10400+50 104b0+24 104d8+24
    10570+b 1057c+f 1058c+7 10594+2 10597+b 105a3+f 105b3+7 105bb+2 10c80+33 10cc0+33 118a0+40
    16e40+40 1d400+55 1d456+47 1d49e+2 1d4a2+1 1d4a5+2 1d4a9+4 1d4ae+c 1d4bb+1 1d4bd+7 1d4c5+41
    1d507+4 1d50d+8 1d516+7 1d51e+1c 1d53b+4 1d540+5 1d546+1 1d54a+7 1d552+154 1d6a8+19 1d6c2+19
    1d6dc+1f 1d6fc+19 1d716+1f 1d736+19 1d750+1f 1d770+19 1d78a+1f 1d7aa+19 1d7c4+8 1df00+a
    1df0b+14 1e900+44 1f130+1a 1f150+1a 1f170+1a"

/-- Characters that are skipped when the letters around a sigma are looked for. -/
def caseIgnorableSpans : CharSet := CharSet.ofText
  "27+1 2e+1 3a+1 5e+1 60+1 a8+1 ad+1 af+1 b4+1 b7+2 2b0+c0 374+2 37a+1 384+2 387+1 483+7 559+1
    55f+1 591+2d 5bf+1 5c1+2 5c4+2 5c7+1 5f4+1 600+6 610+b 61c+1 640+1 64b+15 670+1 6d6+8 6df+a
    6ea+4 70f+1 711+1 730+1b 7a6+b 7eb+b 7fa+1 7fd+1 816+18 859+3 888+1 890+2 898+8 8c9+3a 93a+1
    93c+1 941+8 94d+1 951+7 962+2 971+1 981+1 9bc+1 9c1+4 9cd+1 9e2+2 9fe+1 a01+2 a3c+1 a41+2
    a47+2 a4b+3 a51+1 a70+2 a75+1 a81+2 abc+1 ac1+5 ac7+2 acd+1 ae2+2 afa+6 b01+1 b3c+1 b3f+1
    b41+4 b4d+1 b55+2 b62+2 b82+1 bc0+1 bcd+1 c00+1 c04+1 c3c+1 c3e+3 c46+3 c4a+4 c55+2 c62+2
    c81+1 cbc+1 cbf+1 cc6+1 ccc+2 ce2+2 d00+2 d3b+2 d41+4 d4d+1 d62+2 d81+1 dca+1 dd2+3 dd6+1
    e31+1 e34+7 e46+9 eb1+1 eb4+9 ec6+1 ec8+6 f18+2 f35+1 f37+1 f39+1 f71+e f80+5 f86+2 f8d+b
    f99+24 fc6+1 102d+4 1032+6 1039+2 103d+2 1058+2 105e+3 1071+4 1082+1 1085+2 108d+1 109d+1
    10fc+1 135d+3 1712+3 1732+2 1752+2 1772+2 17b4+2 17b7+7 17c6+1 17c9+b 17d7+1 17dd+1 180b+5
    1843+1 1885+2 18a9+1 1920+3 1927+2 1932+1 1939+3 1a17+2 1a1b+1 1a56+1 1a58+7 1a60+1 1a62+1
    1a65+8 1a73+a 1a7f+1 1aa7+1 1ab0+1f 1b00+4 1b34+1 1b36+5 1b3c+1 1b42+1 1b6b+9 1b80+2 1ba2+4
    1ba8+2 1bab+3 1be6+1 1be8+2 1bed+1 1bef+3 1c2c+8 1c36+2 1c78+6 1cd0+3 1cd4+d 1ce2+7 1ced+1
    1cf4+1 1cf8+2 1d2c+3f 1d78+1 1d9b+65 1fbd+1 1fbf+3 1fcd+3 1fdd+3 1fed+3 1ffd+2 200b+5 2018+2
    2024+1 2027+1 202a+5 2060+5 2066+a 2071+1 207f+1 2090+d 20d0+21 2c7c+2 2cef+3 2d6f+1 2d7f+1
    2de0+20 2e2f+1 3005+1 302a+4 3031+5 303b+1 3099+6 30fc+3 a015+1 a4f8+6 a60c+1 a66f+4 a674+a
    a67f+1 a69c+4 a6f0+2 a700+22 a770+1 a788+3 a7f2+3 a7f8+2 a802+1 a806+1 a80b+1 a825+2 a82c+1
    a8c4+2 a8e0+12 a8ff+1 a926+8 a947+b a980+3 a9b3+1 a9b6+4 a9bc+2 a9cf+1 a9e5+2 aa29+6 aa31+2
    aa35+2 aa43+1 aa4c+1 aa70+1 aa7c+1 aab0+1 aab2+3 aab7+2 aabe+2 aac1+1 aadd+1 aaec+2 aaf3+2
    aaf6+1 ab5b+5 ab69+3 abe5+1 abe8+1 abed+1 fb1e+1 fbb2+11 fe00+10 fe13+1 fe20+10 fe52+1 fe55+1
    feff+1 ff07+1 ff0e+1 ff1a+1 ff3e+1 ff40+1 ff70+1 ff9e+2 ffe3+1 fff9+3 101fd+1 102e0+1 10376+5
    10780+6 10787+2a 107b2+9 10a01+3 10a05+2 10a0c+4 10a38+3 10a3f+1 10ae5+2 10d24+4 10eab+2
    10f46+b 10f82+4 11001+1 11038+f 11070+1 11073+2 1107f+3 110b3+4 110b9+2 110bd+1 110c2+1
    110cd+1 11100+3 11127+5 1112d+8 11173+1 11180+2 111b6+9 111c9+4 111cf+1 1122f+3 11234+1
    11236+2 1123e+1 112df+1 112e3+8 11300+2 1133b+2 11340+1 11366+7 11370+5 11438+8 11442+3
    11446+1 1145e+1 114b3+6 114ba+1 114bf+2 114c2+2 115b2+4 115bc+2 115bf+2 115dc+2 11633+8
    1163d+1 1163f+2 116ab+1 116ad+1 116b0+6 116b7+1 1171d+3 11722+4 11727+5 1182f+9 11839+2
    1193b+2 1193e+1 11943+1 119d4+4 119da+2 119e0+1 11a01+a 11a33+6 11a3b+4 11a47+1 11a51+6
    11a59+3 11a8a+d 11a98+2 11c30+7 11c38+6 11c3f+1 11c92+16 11caa+7 11cb2+2 11cb5+2 11d31+6
    11d3a+1 11d3c+2 11d3f+7 11d47+1 11d90+2 11d95+1 11d97+1 11ef3+2 13430+9 16af0+5 16b30+7
    16b40+4 16f4f+1 16f8f+11 16fe0+2 16fe3+2 1aff0+4 1aff5+7 1affd+2 1bc9d+2 1bca0+4 1cf00+2e
    1cf30+17 1d167+3 1d173+10 1d185+7 1d1aa+4 1d242+3 1da00+37 1da3b+32 1da75+1 1da84+1 1da9b+5
    1daa1+f 1e000+7 1e008+11 1e01b+7 1e023+2 1e026+5 1e130+e 1e2ae+1 1e2ec+4 1e8d0+7 1e944+8
    1f3fb+5 e0001+1 e0020+60 e0100+f0"

/-- Lower-case letters that have no simple map to each other and still are variants. -/
def caseVariants : CharTexts := CharTexts.ofText
  "69:131 73:17f b5:3bc 131:69 17f:73 345:3b9,1fbe 390:1fd3 3b0:1fe3 3b2:3d0 3b5:3f5 3b8:3d1
    3b9:345,1fbe 3ba:3f0 3bc:b5 3c0:3d6 3c1:3f1 3c2:3c3 3c3:3c2 3c6:3d5 3d0:3b2 3d1:3b8 3d5:3c6
    3d6:3c0 3f0:3ba 3f1:3c1 3f5:3b5 432:1c80 434:1c81 43e:1c82 441:1c83 442:1c84,1c85 44a:1c86
    463:1c87 1c80:432 1c81:434 1c82:43e 1c83:441 1c84:442,1c85 1c85:442,1c84 1c86:44a 1c87:463
    1c88:a64b 1e61:1e9b 1e9b:1e61 1fbe:345,3b9 1fd3:390 1fe3:3b0 a64b:1c88 fb05:fb06 fb06:fb05"

def upperChars (c : Char) : List Char :=
  if c.toNat < 128 then [c.toUpper]
  else match upperTexts.find? c with
    | some text => text
    | none => [upperRuns.apply c]

/-- The lower case of a character where it is one character. -/
def lowerChar (c : Char) : Char :=
  if c.toNat < 128 then c.toLower
  else if c.toNat = 0x130 then 'i'
  else lowerRuns.apply c

/-- Does the first character that counts have case? -/
def startsCased (s : List Char) : Bool :=
  match s.dropWhile caseIgnorableSpans.contains with
  | [] => false
  | c :: _ => casedSpans.contains c

/-- Lower case of the characters `s`, where `before` holds what precedes them, last one first. -/
def lowerFrom (before : List Char) : List Char → List Char
  | [] => []
  | c :: rest =>
    let lowered :=
      if c.toNat = 0x3a3 then
        [if startsCased before && !startsCased rest then Char.ofNat 0x3c2 else Char.ofNat 0x3c3]
      else if c.toNat = 0x130 then ['i', Char.ofNat 0x307]
      else [lowerChar c]
    lowered ++ lowerFrom (c :: before) rest

def upperList (s : List Char) : List Char := s.flatMap upperChars

def lowerList (s : List Char) : List Char := lowerFrom [] s

/-- The first character in upper case, the others in lower case. -/
def titleList : List Char → List Char
  | [] => []
  | c :: rest => upperChars c ++ lowerList rest

def upper (s : String) : String := String.ofList (upperList s.toList)

def lower (s : String) : String := String.ofList (lowerList s.toList)

def title (s : String) : String := String.ofList (titleList s.toList)

/-- Are the characters equal but for case? -/
def sameLetter (a b : Char) : Bool :=
  let x := lowerChar a
  let y := lowerChar b
  x = y || ((caseVariants.find? x).getD []).contains y

/-- Does `text` start with `word`, case left out of account? -/
def startsWithIgnoringCase : List Char → List Char → Bool
  | _, [] => true
  | [], _ :: _ => false
  | c :: text, w :: word => sameLetter w c && startsWithIgnoringCase text word

/-- Does `word` occur in `text`, case left out of account? -/
def containsIgnoringCase (text word : List Char) : Bool :=
  startsWithIgnoringCase text word ||
    match text with
    | [] => false
    | _ :: rest => containsIgnoringCase rest word

end Bindery.Text
