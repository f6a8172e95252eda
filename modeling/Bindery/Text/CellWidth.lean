import Bindery.Text.CharTable

/-!
# Cells

A terminal shows most characters in one cell, some in two, and marks on other characters in none.
-/
namespace Bindery.Text

def wideSpans : CharSet := CharSet.ofText
  "1100+60 231a+2 2329+2 23e9+4 23f0 23f3 25fd+2 2614+2 2648+c 267f 2693 26a1 26aa+2 26bd+2 26c4+2
   26ce 26d4 26ea 26f2+2 26f5 26fa 26fd 2705 270a+2 2728 274c 274e 2753+3 2757 2795+3 27b0 27bf
   2b1b+2 2b50 2b55 2e80+1a 2e9b+59 2f00+d6 2ff0+3a 3030+f 3041+56 309b+65 3105+2b 3131+5e 3190+54
   31ef+30 3220+28 3250+1b70 4e00+568d a490+37 a960+1d ac00+2ba4 f900+200 fe10+a fe30+23 fe54+13
   fe68+4 ff01+60 ffe0+7 16fe0+4 17000+17f8 18800+4d6 18d00+9 1aff0+4 1aff5+7 1affd+2 1b000+123 1b132
   1b150+3 1b155 1b164+4 1b170+18c 1f004 1f0cf 1f18e 1f191+a 1f200+3 1f210+2c 1f240+9 1f250+2 1f260+6
   1f300+21 1f32d+9 1f337+46 1f37e+16 1f3a0+2b 1f3cf+5 1f3e0+11 1f3f4 1f3f8+3 1f400+3f 1f440 1f442+bb
   1f4ff+3f 1f54b+4 1f550+18 1f57a 1f595+2 1f5a4 1f5fb+55 1f680+46 1f6cc 1f6d0+3 1f6d5+3 1f6dc+4
   1f6eb+2 1f6f4+9 1f7e0+c 1f7f0 1f90c+2f 1f93c+a 1f947+b9 1fa70+d 1fa80+9 1fa90+2e 1fabf+7 1face+e
   1fae0+9 1faf0+9 20000+fffe 30000+fffe"

def cellessSpans : CharSet := CharSet.ofText
  "0+20 7f+21 ad 300+70 483+7 591+2d 5bf 5c1+2 5c4+2 5c7 600+6 610+b 61c 64b+15 670 6d6+8 6df+6
   6e7+2 6ea+4 70f 711 730+1b 7a6+b 7eb+9 7fd 816+4 81b+9 825+3 829+5 859+3 890+2 898+8 8ca+3a
   93a+3 93e+12 951+7 962+2 981+3 9bc 9be+7 9c7+2 9cb+3 9d7 9e2+2 9fe a01+3 a3c a3e+5 a47+2 a4b+3
   a51 a70+2 a75 a81+3 abc abe+8 ac7+3 acb+3 ae2+2 afa+6 b01+3 b3c b3e+7 b47+2 b4b+3 b55+3 b62+2
   b82 bbe+5 bc6+3 bca+4 bd7 c00+5 c3c c3e+7 c46+3 c4a+4 c55+2 c62+2 c81+3 cbc cbe+7 cc6+3 cca+4
   cd5+2 ce2+2 cf3 d00+4 d3b+2 d3e+7 d46+3 d4a+4 d57 d62+2 d81+3 dca dcf+6 dd6 dd8+8 df2+2 e31
   e34+7 e47+8 eb1 eb4+9 ec8+7 f18+2 f35 f37 f39 f3e+2 f71+14 f86+2 f8d+b f99+24 fc6 102b+14
   1056+4 105e+3 1062+3 1067+7 1071+4 1082+c 108f 109a+4 1160+a0 135d+3 1712+4 1732+3 1752+2
   1772+2 17b4+20 17dd 180b+5 1885+2 18a9 1920+c 1930+c 1a17+5 1a55+a 1a60+1d 1a7f 1ab0+1f 1b00+5
   1b34+11 1b6b+9 1b80+3 1ba1+d 1be6+e 1c24+14 1cd0+3 1cd4+15 1ced 1cf4 1cf7+3 1dc0+40 200b+5
   2028+7 2060+5 2066+a 20d0+21 2cef+3 2d7f 2de0+20 302a+6 3099+2 a66f+4 a674+a a69e+2 a6f0+2 a802
   a806 a80b a823+5 a82c a880+2 a8b4+12 a8e0+12 a8ff a926+8 a947+d a980+4 a9b3+e a9e5 aa29+e aa43
   aa4c+2 aa7b+3 aab0 aab2+3 aab7+2 aabe+2 aac1 aaeb+5 aaf5+2 abe3+8 abec+2 d7b0+50 fb1e fe00+10
   fe20+10 feff fff9+3 101fd 102e0 10376+5 10a01+3 10a05+2 10a0c+4 10a38+3 10a3f 10ae5+2 10d24+4
   10eab+2 10efd+3 10f46+b 10f82+4 11000+3 11038+f 11070 11073+2 1107f+4 110b0+b 110bd 110c2 110cd
   11100+3 11127+e 11145+2 11173 11180+3 111b3+e 111c9+4 111ce+2 1122c+c 1123e 11241 112df+c
   11300+4 1133b+2 1133e+7 11347+2 1134b+3 11357 11362+2 11366+7 11370+5 11435+12 1145e 114b0+14
   115af+7 115b8+9 115dc+2 11630+11 116ab+d 1171d+f 1182c+f 11930+6 11937+2 1193b+4 11940 11942+2
   119d1+7 119da+7 119e4 11a01+a 11a33+7 11a3b+4 11a47 11a51+b 11a8a+10 11c2f+8 11c38+8 11c92+16
   11ca9+e 11d31+6 11d3a 11d3c+2 11d3f+7 11d47 11d8a+5 11d90+2 11d93+5 11ef3+4 11f00+2 11f03
   11f34+7 11f3e+5 13430+11 13447+f 16af0+5 16b30+7 16f4f 16f51+37 16f8f+4 16fe4 16ff0+2 1bc9d+2
   1bca0+4 1cf00+2e 1cf30+17 1d165+5 1d16d+16 1d185+7 1d1aa+4 1d242+3 1da00+37 1da3b+32 1da75
   1da84 1da9b+5 1daa1+f 1e000+7 1e008+11 1e01b+7 1e023+2 1e026+5 1e08f 1e130+7 1e2ae 1e2ec+4
   1e4ec+4 1e8d0+7 1e944+7 1f3fb+5 e0001 e0020+60 e0100+f0"

/-- The number of cells in which a character is shown. -/
def cellWidth (c : Char) : Nat :=
  if wideSpans.contains c then 2 else if cellessSpans.contains c then 0 else 1

end Bindery.Text
