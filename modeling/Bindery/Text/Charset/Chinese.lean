import Bindery.Text.Charset.Gb2312
import Bindery.Text.Charset.Big5

/-!
# Chinese encodings

The encodings of simplified Chinese all hold the characters of GB 2312 in pairs of large bytes. GBK
adds the other unified ideographs in their order, and GB 18030 the rest of all characters in groups
of four bytes. Big5 is the encoding of traditional Chinese.
-/
namespace Bindery.Text

def gb2312Pair? (a b : Nat) : Option Char :=
  if 128 ≤ a ∧ 128 ≤ b then gb2312Grid.pair? (a - 128) (b - 128) else none

/-- The unified ideographs that are not in GB 2312. -/
def otherIdeographs : Thunk (Array Char) := Thunk.mk fun _ => gb2312Grid.others 0x30 0x77 0x4e00 0x9fa5

/-- What GBK adds or changes besides ideographs in order. -/
def gbkSigns : CharMap := CharMap.ofText
  "a1a4:b7 a1aa:2014 a2a1+a:2170 a6e0+2:fe35 a6e2+2:fe39 a6e4+2:fe3f a6e6+2:fe3d a6e8+4:fe41
    a6ee+2:fe3b a6f0+2:fe37 a6f2:fe31 a6f4+2:fe33 a840+2:2ca a842:2d9 a843:2013 a844:2015
    a845:2025 a846:2035 a847:2105 a848:2109 a849+4:2196 a84d:2215 a84e:221f a84f:2223 a850:2252
    a851+2:2266 a853:22bf a854+24:2550 a878+7:2581 a880+8:2588 a888+3:2593 a88b+2:25bc a88d+4:25e2
    a891:2609 a892:2295 a893:3012 a894+2:301d a8bb:251 a8bd:144 a8be:148 a8c0:261 a940+9:3021
    a949:32a3 a94a+2:338e a94c+3:339c a94f:33a1 a950:33c4 a951:33ce a952+2:33d1 a954:33d5
    a955:fe30 a956:ffe2 a957:ffe4 a959:2121 a95a:3231 a95c:2010 a960:30fc a961+2:309b a963+2:30fd
    a965:3006 a966+2:309d a968+a:fe49 a972+4:fe54 a976+9:fe59 a980+5:fe62 a985+4:fe68 a996:3007
    fd9c:f92c fd9d:f979 fd9e:f995 fd9f:f9e7 fda0:f9f1 fe40+4:fa0c fe44:fa11 fe45+2:fa13 fe47:fa18
    fe48+3:fa1f fe4b+2:fa23 fe4d+3:fa27"

/-- The place of a second byte, which is never 127. -/
def pairColumn (b : Nat) : Nat := if b < 127 then b - 0x40 else b - 0x41

/-- The position among the other ideographs that two bytes stand for. -/
def otherPosition? (a b : Nat) : Option Nat :=
  if b < 0x40 ∨ b = 127 ∨ 254 < b then none
  else if 0x81 ≤ a ∧ a ≤ 0xa0 then some (190 * (a - 0x81) + pairColumn b)
  else if 0xaa ≤ a ∧ b ≤ 0xa0 then some (6080 + 96 * (a - 0xaa) + pairColumn b)
  else none

def gbkPair? (a b : Nat) : Option Char :=
  match gbkSigns.find? (256 * a + b) with
  | some c => some c
  | none =>
    match gb2312Pair? a b with
    | some c => some c
    | none => (otherPosition? a b).bind fun position => otherIdeographs.get[position]?

/-- What GB 18030 adds in pairs of bytes; most of it are characters for private use. -/
def gb18030Signs : CharMap := CharMap.ofText
  "a140+3f:e4c6 a180+21:e505 a240+3f:e526 a280+21:e565 a2ab+6:e766 a2e3:20ac a2e4:e76d
    a2ef+2:e76e a2fd+2:e770 a340+3f:e586 a380+21:e5c5 a440+3f:e5e6 a480+21:e625 a4f4+b:e772
    a540+3f:e646 a580+21:e685 a5f7+8:e77d a640+3f:e6a6 a680+21:e6e5 a6b9+8:e785 a6d9+7:e78d
    a6ec+2:e794 a6f3:e796 a6f6+9:e797 a740+3f:e706 a780+21:e745 a7c2+f:e7a0 a7f2+d:e7af
    a896+b:e7bc a8bc:e7c7 a8bf:1f9 a8c1+4:e7c9 a8ea+15:e7cd a958:e7e2 a95b:e7e3 a95d+3:e7e4
    a989:303e a98a+c:2ff0 a997+d:e7f4 a9f0+f:e801 aaa1+5e:e000 aba1+5e:e05e aca1+5e:e0bc
    ada1+5e:e11a aea1+5e:e178 afa1+5e:e1d6 d7fa+5:e810 f8a1+5e:e234 f9a1+5e:e292 faa1+5e:e2f0
    fba1+5e:e34e fca1+5e:e3ac fda1+5e:e40a fe50:2e81 fe51+3:e816 fe54:2e84 fe55:3473 fe56:3447
    fe57:2e88 fe58:2e8b fe59:e81e fe5a:359e fe5b:361a fe5c:360e fe5d:2e8c fe5e:2e97 fe5f:396e
    fe60:3918 fe61:e826 fe62:39cf fe63:39df fe64:3a73 fe65:39d0 fe66+2:e82b fe68:3b4e fe69:3c6e
    fe6a:3ce0 fe6b:2ea7 fe6c+2:e831 fe6e:2eaa fe6f:4056 fe70:415f fe71:2eae fe72:4337 fe73:2eb3
    fe74+2:2eb6 fe76:e83b fe77:43b1 fe78:43ac fe79:2ebb fe7a:43dd fe7b:44d6 fe7c:4661 fe7d:464c
    fe7e:e843 fe80:4723 fe81:4729 fe82:477c fe83:478d fe84:2eca fe85:4947 fe86:497a fe87:497d
    fe88+2:4982 fe8a+2:4985 fe8c:499f fe8d:499b fe8e:49b7 fe8f:49b6 fe90+2:e854 fe92:4ca3
    fe93+3:4c9f fe96:4c77 fe97:4ca2 fe98+7:4d13 fe9f:4dae fea0:e864 fea1+5e:e468"

def gb18030Pair? (a b : Nat) : Option Char :=
  match gbkPair? a b with
  | some c => some c
  | none => gb18030Signs.find? (256 * a + b)

/-- The characters of the first groups of four bytes: those that no pair stands for, in order. -/
def gb18030Rest : CharMap := CharMap.ofText
  "0+24:80 24+2:a5 26+7:a9 2d+5:b2 32+1f:b8 51+8:d8 59+6:e2 5f:eb 60+4:ee 64+3:f4 67:f8 68:fb
    69+4:fd 6d+11:102 7e+7:114 85+f:11c 94+18:12c ac+3:145 af+4:149 b3+1d:14e d0+62:16c 132:1cf
    133:1d1 134:1d3 135:1d5 136:1d7 137:1d9 138:1db 139+1c:1dd 155+57:1fa 1ac+f:252 1bb+65:262
    220:2c8 221+d:2cc 22e+b7:2da 2e5:3a2 2e6+7:3aa 2ed:3c2 2ee+37:3ca 325+e:402 333:450
    334+1bbe:452 1ef2+2:2011 1ef4:2017 1ef5+2:201a 1ef7+7:201e 1efe+9:2027 1f07:2031 1f08:2034
    1f09+5:2036 1f0e+70:203c 1f7e+56:20ad 1fd4:2104 1fd5+3:2106 1fd8+c:210a 1fe4+a:2117
    1fee+3e:2122 202c+4:216c 2030+16:217a 2046+2:2194 2048+6e:219a 20b6+6:2209 20bc:2210
    20bd+3:2212 20c0+4:2216 20c4+2:221b 20c6+2:2221 20c8:2224 20c9:2226 20ca+2:222c 20cc+5:222f
    20d1+5:2238 20d6+a:223e 20e0+3:2249 20e3+5:224d 20e8+d:2253 20f5+2:2262 20f7+6:2268
    20fd+25:2270 2122+3:2296 2125+b:229a 2130+19:22a6 2149+52:22c0 219b+14d:2313 22e8+a:246a
    22f2+64:249c 2356+4:254c 235a+d:2574 2367+3:2590 236a+a:2596 2374+10:25a2 2384+8:25b4
    238c+8:25be 2394+3:25c8 2397+2:25cc 2399+12:25d0 23ab+1f:25e6 23ca+2:2607 23cc+36:260a
    2402:2641 2403+83e:2643 2c41+2:2e82 2c43+3:2e85 2c46+2:2e89 2c48+a:2e8d 2c52+f:2e98
    2c61+2:2ea8 2c63+3:2eab 2c66+4:2eaf 2c6a+2:2eb4 2c6c+3:2eb8 2c6f+e:2ebc 2c7d+125:2ecb
    2da2+4:2ffc 2da6:3004 2da7+5:3018 2dac+2:301f 2dae+14:302a 2dc2+2:303f 2dc4+7:3094 2dcb+2:309f
    2dcd+5:30f7 2dd2+6:30ff 2dd8+f6:312a 2ece+7:322a 2ed5+71:3232 2f46+ea:32a4 3030+c:3390
    303c+2:339f 303e+22:33a2 3060+9:33c5 3069+2:33cf 306b+2:33d3 306d+71:33d6 30de+2b:3448
    3109+12a:3474 3233+6f:359f 32a2+b:360f 32ad+2fd:361b 35aa+55:3919 35ff+60:396f 365f+e:39d1
    366d+93:39e0 3700+da:3a74 37da+11f:3b4f 38f9+71:3c6f 396a+375:3ce1 3cdf+108:4057 3de7+1d7:4160
    3fbe+74:4338 4032+4:43ad 4036+2b:43b2 4061+f8:43de 4159+175:44d7 42ce+14:464d 42e2+c1:4662
    43a3+5:4724 43a8+52:472a 43fa+10:477d 440a+1b9:478e 45c3+32:4948 45f5+2:497b 45f7+4:497e
    45fb:4984 45fc+14:4987 4610+3:499c 4613+16:49a0 4629+2bf:49b8 48e8+27:4c78 490f+6f:4ca4
    497e+94:4d1a 4a12+51:4daf 4a63+385a:9fa6 82bd:e76c 82be:e7c8 82bf+d:e7e7 82cc:e815 82cd+5:e819
    82d2+7:e81f 82d9+4:e827 82dd+4:e82d 82e1+8:e833 82e9+7:e83c 82f0+10:e844 8300+e:e856
    830e+10c7:e865 93d5+4c:f92d 9421+1b:f97a 943c+51:f996 948d+9:f9e8 9496+1a:f9f2 94b0:fa10
    94b1:fa12 94b2+3:fa15 94b5+6:fa19 94bb:fa22 94bc+2:fa25 94be+406:fa2a 98c4:fe32 98c5+4:fe45
    98c9:fe53 98ca:fe58 98cb:fe67 98cc+95:fe6c 9961+81:ff5f 99e2+1a:ffe6"

/-- The number of characters in the first groups of four bytes. -/
def gb18030RestCount : Nat := 39420

/-- The character for a group of four bytes, each counted from its lowest value. -/
def gb18030Group? (a b c d : Nat) : Option Char :=
  let position := (10 * a + b) * 1260 + 10 * c + d
  if position < gb18030RestCount then some (gb18030Rest.apply (Char.ofNat position))
  else if 189000 ≤ position ∧ position - 189000 < 0x100000 then
    some (Char.ofNat (position - 189000 + 0x10000))
  else none

def isDigitByte (n : Nat) : Bool := 0x30 ≤ n && n ≤ 0x39

/-- Is a byte the first or third one of a group? -/
def isGroupByte (n : Nat) : Bool := 0x81 ≤ n && n ≤ 0xfe

/-- Read a character of GB 18030. A digit as the second byte makes it a group of four. -/
def foundGb18030 : List UInt8 → Found
  | a :: b :: rest =>
    let (m, n) := (a.toNat, b.toNat)
    if m < 128 then .chars [Char.ofNat m] 1
    else if isDigitByte n then
      match rest with
      | c :: d :: _ =>
        if isGroupByte m && isGroupByte c.toNat && isDigitByte d.toNat then
          .ofChar? (gb18030Group? (m - 0x81) (n - 0x30) (c.toNat - 0x81) (d.toNat - 0x30)) 4
        else .nothing 1
      | _ => .cut
    else .ofChar? (gb18030Pair? m n) 2
  | bytes => foundPair (fun _ _ => none) bytes

/-- Read a character of HZ, where a tilde and a brace switch between ASCII and GB 2312. -/
def foundHz (chinese : Bool) (bytes : List UInt8) : Found × Bool :=
  match bytes with
  | [] => (.cut, chinese)
  -- a tilde begins an escape in both modes
  | 126 :: rest =>
    match rest, chinese with
    | [], _ => (.cut, chinese)
    | 126 :: _, false => (.chars ['~'] 2, false)
    | 123 :: _, false => (.chars [] 2, true)
    | 10 :: _, false => (.chars [] 2, false)
    | 125 :: _, true => (.chars [] 2, false)
    | _, _ => (.nothing 1, chinese)
  | a :: rest =>
    if 128 ≤ a.toNat then (.nothing 1, chinese)
    else if !chinese then (.chars [Char.ofNat a.toNat] 1, false)
    else match rest with
      | [] => (.cut, true)
      | b :: _ => (.ofChar? (gb2312Grid.pair? a.toNat b.toNat) 2, true)

/-! ## Traditional Chinese -/

/-- The place of a second byte in a row of Big5. -/
def big5Column? (b : Nat) : Option Nat :=
  if 0x40 ≤ b ∧ b ≤ 0x7e then some (b - 0x40)
  else if 0xa1 ≤ b ∧ b ≤ 0xfe then some (b - 0x62)
  else none

def big5Pair? (a b : Nat) : Option Char := (big5Column? b).bind fun column => big5Grid.find? a column

/-- What code page 950 adds to Big5 or changes. -/
def page950Signs : CharMap := CharMap.ofText
  "a145:2027 a14e:fe51 a1c2:af a1e3:ff5e a1f2:2295 a1f3:2299 a241:2215 a242:fe68 a244:ffe5
    a246+2:ffe0 a3e1:20ac f9d6:7881 f9d7:92b9 f9d8:88cf f9d9:58bb f9da:6052 f9db:7ca7 f9dc:5afa
    f9dd:2554 f9de:2566 f9df:2557 f9e0:2560 f9e1:256c f9e2:2563 f9e3:255a f9e4:2569 f9e5:255d
    f9e6:2552 f9e7:2564 f9e8:2555 f9e9:255e f9ea:256a f9eb:2561 f9ec:2558 f9ed:2567 f9ee:255b
    f9ef:2553 f9f0:2565 f9f1:2556 f9f2:255f f9f3:256b f9f4:2562 f9f5:2559 f9f6:2568 f9f7:255c
    f9f8:2551 f9f9:2550 f9fa+2:256d f9fc:2570 f9fd:256f f9fe:2593"

def page950Pair? (a b : Nat) : Option Char :=
  match page950Signs.find? (256 * a + b) with
  | some c => some c
  | none => big5Pair? a b

/-- The pairs of bytes that the Hong Kong supplement gives a letter with an accent of its own. -/
def hongKongTexts : CharTexts :=
  CharTexts.ofText "8862:ca,304 8864:ca,30c 88a3:ea,304 88a5:ea,30c"

/-- Do two bytes stand where the supplement alone counts? -/
def isSupplementPlace (a b : Nat) : Bool := a = 0xc7 || a = 0xc8 || (a = 0xc6 && 0xa1 ≤ b)

def hongKongPair? (a b : Nat) : Option Char :=
  let supplement := (big5Column? b).bind fun column => hongKongGrid.find? a column
  if isSupplementPlace a b then supplement
  else match big5Pair? a b with
    | some c => some c
    | none => supplement

/-- Read a character of Big5 with the Hong Kong supplement. -/
def foundHongKong : List UInt8 → Found
  | a :: b :: rest =>
    match hongKongTexts.find? (Char.ofNat (256 * a.toNat + b.toNat)) with
    | some text => .chars text 2
    | none => foundPair hongKongPair? (a :: b :: rest)
  | bytes => foundPair hongKongPair? bytes

end Bindery.Text
