import Bindery.Text.CharTable

/-!
# Code pages

In the encodings with one byte to a character each byte has a character of its own. A page lists the
bytes whose character is not the one of the same number; `fffd` marks those that have none.
-/
namespace Bindery.Text

/-- The characters of bytes. -/
abbrev CodePage := CharMap

/-- The character of a byte, if it has one. -/
def CodePage.char? (page : CodePage) (byte : UInt8) : Option Char :=
  let image := page.apply (Char.ofNat byte.toNat)
  if image = replacement then none else some image

/-! ## Mainframes -/

/-- Mainframes, United States and Canada. -/
def mainframe037Page : CodePage := CharMap.ofText
  "4:9c 5:9 6:86 7:7f 8:97 9+2:8d 14:9d 15:85 16:8 17:87 1a:92 1b:8f 20+5:80 25:a 26:17 27:1b
    28+5:88 2d+3:5 30+2:90 32:16 33+4:93 37:4 38+4:98 3c+2:14 3e:9e 3f:1a 40:20 41:a0 42+2:e2*2
    44+2:e0 46+3:e3*2 49:f1 4a:a2 4b:2e 4c:3c 4d+2:28*3 4f:7c 50:26 51+3:e9 54:e8 55+3:ed 58:ec
    59:df 5a+2:21*3 5c:2a 5d:29 5e:3b 5f:ac 60+2:2d*2 62+2:c2*2 64+2:c0 66+3:c3*2 69:d1 6a:a6
    6b:2c 6c:25 6d:5f 6e+2:3e 70:f8 71+3:c9 74:c8 75+3:cd 78:cc 79:60 7a:3a 7b:23 7c:40 7d:27
    7e:3d 7f:22 80:d8 81+9:61 8a:ab 8b:bb 8c:f0 8d+2:fd 8f:b1 90:b0 91+9:6a 9a:aa 9b:ba 9c:e6
    9d:b8 9e:c6 9f:a4 a0:b5 a1:7e a2+8:73 aa:a1 ab:bf ac:d0 ad+2:dd af:ae b0:5e b1+2:a3*2 b3:b7
    b4:a9 b5:a7 b7+3:bc ba+2:5b*2 bc:af bd:a8 be:b4 bf:d7 c0:7b c1+9:41 ca:ad cb+2:f4*2 cd+2:f2
    cf:f5 d0:7d d1+9:4a da:b9 db+2:fb dd+2:f9 df:ff e0:5c e1:f7 e2+8:53 ea:b2 eb+2:d4*2 ed+2:d2
    ef:d5 f0+a:30 fa:b3 fb+2:db fd+2:d9 ff:9f"

/-- Mainframes, Austria and Germany. -/
def mainframe273Page : CodePage := CharMap.ofText
  "4:9c 5:9 6:86 7:7f 8:97 9+2:8d 14:9d 15:85 16:8 17:87 1a:92 1b:8f 20+5:80 25:a 26:17 27:1b
    28+5:88 2d+3:5 30+2:90 32:16 33+4:93 37:4 38+4:98 3c+2:14 3e:9e 3f:1a 40:20 41:a0 42:e2 43:7b
    44+2:e0 46+3:e3*2 49:f1 4a:c4 4b:2e 4c:3c 4d+2:28*3 4f:21 50:26 51+3:e9 54:e8 55+3:ed 58:ec
    59:7e 5a:dc 5b:24 5c:2a 5d:29 5e:3b 5f:5e 60+2:2d*2 62:c2 63:5b 64+2:c0 66+3:c3*2 69:d1 6a:f6
    6b:2c 6c:25 6d:5f 6e+2:3e 70:f8 71+3:c9 74:c8 75+3:cd 78:cc 79:60 7a:3a 7b:23 7c:a7 7d:27
    7e:3d 7f:22 80:d8 81+9:61 8a:ab 8b:bb 8c:f0 8d+2:fd 8f:b1 90:b0 91+9:6a 9a:aa 9b:ba 9c:e6
    9d:b8 9e:c6 9f:a4 a0:b5 a1:df a2+8:73 aa:a1 ab:bf ac:d0 ad+2:dd af:ae b0+2:a2 b2:a5 b3:b7
    b4:a9 b5:40 b7+3:bc ba:ac bb:7c bc:203e bd:a8 be:b4 bf:d7 c0:e4 c1+9:41 ca:ad cb:f4 cc:a6
    cd+2:f2 cf:f5 d0:fc d1+9:4a da:b9 db:fb dc:7d dd+2:f9 df:ff e0:d6 e1:f7 e2+8:53 ea:b2 eb:d4
    ec:5c ed+2:d2 ef:d5 f0+a:30 fa:b3 fb:db fc:5d fd+2:d9 ff:9f"

/-- Mainframes, Hebrew. -/
def mainframe424Page : CodePage := CharMap.ofText
  "4:9c 5:9 6:86 7:7f 8:97 9+2:8d 14:9d 15:85 16:8 17:87 1a:92 1b:8f 20+5:80 25:a 26:17 27:1b
    28+5:88 2d+3:5 30+2:90 32:16 33+4:93 37:4 38+4:98 3c+2:14 3e:9e 3f:1a 40:20 41+9:5d0 4a:a2
    4b:2e 4c:3c 4d+2:28*3 4f:7c 50:26 51+9:5d9 5a+2:21*3 5c:2a 5d:29 5e:3b 5f:ac 60+2:2d*2
    62+8:5e2 6a:a6 6b:2c 6c:25 6d:5f 6e+2:3e 70:fffd 71:5ea 72+2:fffd*0 74:a0 75+3:fffd*0 78:2017
    79:60 7a:3a 7b:23 7c:40 7d:27 7e:3d 7f:22 80:fffd 81+9:61 8a:ab 8b:bb 8c+3:fffd*0 8f:b1 90:b0
    91+9:6a 9a+3:fffd*0 9d:b8 9e:fffd 9f:a4 a0:b5 a1:7e a2+8:73 aa+5:fffd*0 af:ae b0:5e b1+2:a3*2
    b3:b7 b4:a9 b5:a7 b7+3:bc ba+2:5b*2 bc:af bd:a8 be:b4 bf:d7 c0:7b c1+9:41 ca:ad cb+5:fffd*0
    d0:7d d1+9:4a da:b9 db+5:fffd*0 e0:5c e1:f7 e2+8:53 ea:b2 eb+5:fffd*0 f0+a:30 fa:b3
    fb+4:fffd*0 ff:9f"

/-- Mainframes, western Europe. -/
def mainframe500Page : CodePage := CharMap.ofText
  "4:9c 5:9 6:86 7:7f 8:97 9+2:8d 14:9d 15:85 16:8 17:87 1a:92 1b:8f 20+5:80 25:a 26:17 27:1b
    28+5:88 2d+3:5 30+2:90 32:16 33+4:93 37:4 38+4:98 3c+2:14 3e:9e 3f:1a 40:20 41:a0 42+2:e2*2
    44+2:e0 46+3:e3*2 49:f1 4a:5b 4b:2e 4c:3c 4d+2:28*3 4f:21 50:26 51+3:e9 54:e8 55+3:ed 58:ec
    59:df 5a:5d 5b:24 5c:2a 5d:29 5e:3b 5f:5e 60+2:2d*2 62+2:c2*2 64+2:c0 66+3:c3*2 69:d1 6a:a6
    6b:2c 6c:25 6d:5f 6e+2:3e 70:f8 71+3:c9 74:c8 75+3:cd 78:cc 79:60 7a:3a 7b:23 7c:40 7d:27
    7e:3d 7f:22 80:d8 81+9:61 8a:ab 8b:bb 8c:f0 8d+2:fd 8f:b1 90:b0 91+9:6a 9a:aa 9b:ba 9c:e6
    9d:b8 9e:c6 9f:a4 a0:b5 a1:7e a2+8:73 aa:a1 ab:bf ac:d0 ad+2:dd af:ae b0+2:a2 b2:a5 b3:b7
    b4:a9 b5:a7 b7+3:bc ba:ac bb:7c bc:af bd:a8 be:b4 bf:d7 c0:7b c1+9:41 ca:ad cb+2:f4*2 cd+2:f2
    cf:f5 d0:7d d1+9:4a da:b9 db+2:fb dd+2:f9 df:ff e0:5c e1:f7 e2+8:53 ea:b2 eb+2:d4*2 ed+2:d2
    ef:d5 f0+a:30 fa:b3 fb+2:db fd+2:d9 ff:9f"

/-- Mainframes, Greek. -/
def mainframe875Page : CodePage := CharMap.ofText
  "4:9c 5:9 6:86 7:7f 8:97 9+2:8d 14:9d 15:85 16:8 17:87 1a:92 1b:8f 20+5:80 25:a 26:17 27:1b
    28+5:88 2d+3:5 30+2:90 32:16 33+4:93 37:4 38+4:98 3c+2:14 3e:9e 3f:1a 40:20 41+9:391 4a:5b
    4b:2e 4c:3c 4d+2:28*3 4f:21 50:26 51+8:39a 59:3a3 5a:5d 5b:24 5c:2a 5d:29 5e:3b 5f:5e
    60+2:2d*2 62+8:3a4 6a:7c 6b:2c 6c:25 6d:5f 6e+2:3e 70:a8 71+2:386*2 73:389 74:a0 75+3:38a*2
    78:38f 79:60 7a:3a 7b:23 7c:40 7d:27 7e:3d 7f:22 80:385 81+9:61 8a+6:3b1 90:b0 91+9:6a
    9a+6:3b7 a0:b4 a1:7e a2+8:73 aa+5:3bd af:3c3 b0:a3 b1+3:3ac b4:3ca b5:3af b6+2:3cc b8+2:3cb*3
    ba+2:3c2*2 bc+4:3c5 c0:7b c1+9:41 ca:ad cb:3c9 cc:390 cd:3b0 ce:2018 cf:2015 d0:7d d1+9:4a
    da:b1 db:bd dc:1a dd:387 de:2019 df:a6 e0:5c e1:1a e2+8:53 ea:b2 eb:a7 ec+2:1a*0 ee+2:ab
    f0+a:30 fa:b3 fb:a9 fc+2:1a*0 fe:bb ff:9f"

/-- Mainframes, Turkish. -/
def mainframe1026Page : CodePage := CharMap.ofText
  "4:9c 5:9 6:86 7:7f 8:97 9+2:8d 14:9d 15:85 16:8 17:87 1a:92 1b:8f 20+5:80 25:a 26:17 27:1b
    28+5:88 2d+3:5 30+2:90 32:16 33+4:93 37:4 38+4:98 3c+2:14 3e:9e 3f:1a 40:20 41:a0 42+2:e2*2
    44+2:e0 46+2:e3*2 48:7b 49:f1 4a:c7 4b:2e 4c:3c 4d+2:28*3 4f:21 50:26 51+3:e9 54:e8 55+3:ed
    58:ec 59:df 5a:11e 5b:130 5c:2a 5d:29 5e:3b 5f:5e 60+2:2d*2 62+2:c2*2 64+2:c0 66+2:c3*2 68:5b
    69:d1 6a:15f 6b:2c 6c:25 6d:5f 6e+2:3e 70:f8 71+3:c9 74:c8 75+3:cd 78:cc 79:131 7a:3a 7b:d6
    7c:15e 7d:27 7e:3d 7f:dc 80:d8 81+9:61 8a:ab 8b:bb 8c:7d 8d:60 8e:a6 8f:b1 90:b0 91+9:6a 9a:aa
    9b:ba 9c:e6 9d:b8 9e:c6 9f:a4 a0:b5 a1:f6 a2+8:73 aa:a1 ab:bf ac:5d ad:24 ae:40 af:ae b0+2:a2
    b2:a5 b3:b7 b4:a9 b5:a7 b7+3:bc ba:ac bb:7c bc:af bd:a8 be:b4 bf:d7 c0:e7 c1+9:41 ca:ad cb:f4
    cc:7e cd+2:f2 cf:f5 d0:11f d1+9:4a da:b9 db:fb dc:5c dd+2:f9 df:ff e0:fc e1:f7 e2+8:53 ea:b2
    eb:d4 ec:23 ed+2:d2 ef:d5 f0+a:30 fa:b3 fb:db fc:22 fd+2:d9 ff:9f"

/-- Mainframes, United States and Canada, with the euro sign. -/
def mainframe1140Page : CodePage := CharMap.ofText
  "4:9c 5:9 6:86 7:7f 8:97 9+2:8d 14:9d 15:85 16:8 17:87 1a:92 1b:8f 20+5:80 25:a 26:17 27:1b
    28+5:88 2d+3:5 30+2:90 32:16 33+4:93 37:4 38+4:98 3c+2:14 3e:9e 3f:1a 40:20 41:a0 42+2:e2*2
    44+2:e0 46+3:e3*2 49:f1 4a:a2 4b:2e 4c:3c 4d+2:28*3 4f:7c 50:26 51+3:e9 54:e8 55+3:ed 58:ec
    59:df 5a+2:21*3 5c:2a 5d:29 5e:3b 5f:ac 60+2:2d*2 62+2:c2*2 64+2:c0 66+3:c3*2 69:d1 6a:a6
    6b:2c 6c:25 6d:5f 6e+2:3e 70:f8 71+3:c9 74:c8 75+3:cd 78:cc 79:60 7a:3a 7b:23 7c:40 7d:27
    7e:3d 7f:22 80:d8 81+9:61 8a:ab 8b:bb 8c:f0 8d+2:fd 8f:b1 90:b0 91+9:6a 9a:aa 9b:ba 9c:e6
    9d:b8 9e:c6 9f:20ac a0:b5 a1:7e a2+8:73 aa:a1 ab:bf ac:d0 ad+2:dd af:ae b0:5e b1+2:a3*2 b3:b7
    b4:a9 b5:a7 b7+3:bc ba+2:5b*2 bc:af bd:a8 be:b4 bf:d7 c0:7b c1+9:41 ca:ad cb+2:f4*2 cd+2:f2
    cf:f5 d0:7d d1+9:4a da:b9 db+2:fb dd+2:f9 df:ff e0:5c e1:f7 e2+8:53 ea:b2 eb+2:d4*2 ed+2:d2
    ef:d5 f0+a:30 fa:b3 fb+2:db fd+2:d9 ff:9f"

/-- Mainframes, Urdu. -/
def mainframe1006Page : CodePage := CharMap.ofText
  "a1+a:6f0 ab:60c ac:61b ae:61f af:fe81 b0+2:fe8d b2+2:fe8e b4:fe91 b5+2:fb56*2 b7+3:fe93*2
    ba+2:fb66*2 bc+4:fe99*2 c0+2:fb7a*2 c2+5:fea1*2 c7:fb84 c8+2:feab*2 ca:fb8c cb:feaf cc:fb8a
    cd+9:feb1*2 d6:fec5 d7+9:fec9 e0+5:fed3*2 e5+2:fb92*2 e7+2:fedd*2 e9+2:fee0 eb:fee3 ec:fb9e
    ed+2:fee5*2 ef:fe85 f0:feed f1+2:fba6*2 f3+2:fba9 f5:fe80 f6+3:fe89 f9+3:fef1 fc:fbb0 fd:fbae
    fe+2:fe7c"

/-! ## DOS -/

/-- DOS, United States. -/
def dos437Page : CodePage := CharMap.ofText
  "80:c7 81:fc 82:e9 83+2:e2*2 85:e0 86+2:e5*2 88+2:ea 8a:e8 8b:ef 8c:ee 8d:ec 8e+2:c4 90:c9
    91:e6 92:c6 93+2:f4*2 95:f2 96:fb 97:f9 98:ff 99:d6 9a:dc 9b+2:a2 9d:a5 9e:20a7 9f:192 a0:e1
    a1:ed a2:f3 a3:fa a4:f1 a5:d1 a6:aa a7:ba a8:bf a9:2310 aa:ac ab:bd ac:bc ad:a1 ae:ab af:bb
    b0+3:2591 b3:2502 b4:2524 b5+2:2561 b7:2556 b8:2555 b9:2563 ba:2551 bb:2557 bc:255d bd:255c
    be:255b bf:2510 c0:2514 c1:2534 c2:252c c3:251c c4:2500 c5:253c c6+2:255e c8:255a c9:2554
    ca:2569 cb:2566 cc:2560 cd:2550 ce:256c cf+2:2567 d1+2:2564 d3:2559 d4:2558 d5+2:2552 d7:256b
    d8:256a d9:2518 da:250c db:2588 dc:2584 dd:258c de:2590 df:2580 e0:3b1 e1:df e2:393 e3:3c0
    e4:3a3 e5:3c3 e6:b5 e7:3c4 e8:3a6 e9:398 ea:3a9 eb:3b4 ec:221e ed:3c6 ee:3b5 ef:2229 f0:2261
    f1:b1 f2:2265 f3:2264 f4+2:2320 f6:f7 f7:2248 f8:b0 f9:2219 fa:b7 fb:221a fc:207f fd:b2
    fe:25a0 ff:a0"

/-- DOS, Arabic. -/
def dos720Page : CodePage := CharMap.ofText
  "82:e9 83:e2 85:e0 87+2:e7*3 89:eb 8a:e8 8b:ef 8c:ee 91+2:651 93:f4 94:a4 95:640 96:fb 97:f9
    98+4:621 9c:a3 9d+11:625 ae:ab af:bb b0+3:2591 b3:2502 b4:2524 b5+2:2561 b7:2556 b8:2555
    b9:2563 ba:2551 bb:2557 bc:255d bd:255c be:255b bf:2510 c0:2514 c1:2534 c2:252c c3:251c
    c4:2500 c5:253c c6+2:255e c8:255a c9:2554 ca:2569 cb:2566 cc:2560 cd:2550 ce:256c cf+2:2567
    d1+2:2564 d3:2559 d4:2558 d5+2:2552 d7:256b d8:256a d9:2518 da:250c db:2588 dc:2584 dd:258c
    de:2590 df:2580 e0+5:636 e5:641 e6:b5 e7+9:642 f0:2261 f1+6:64b f7:2248 f8:b0 f9:2219 fa:b7
    fb:221a fc:207f fd:b2 fe:25a0 ff:a0"

/-- DOS, Greek. -/
def dos737Page : CodePage := CharMap.ofText
  "80+11:391 91+7:3a3 98+11:3b1 a9:3c3 aa+2:3c2*2 ac+4:3c5 b0+3:2591 b3:2502 b4:2524 b5+2:2561
    b7:2556 b8:2555 b9:2563 ba:2551 bb:2557 bc:255d bd:255c be:255b bf:2510 c0:2514 c1:2534
    c2:252c c3:251c c4:2500 c5:253c c6+2:255e c8:255a c9:2554 ca:2569 cb:2566 cc:2560 cd:2550
    ce:256c cf+2:2567 d1+2:2564 d3:2559 d4:2558 d5+2:2552 d7:256b d8:256a d9:2518 da:250c db:2588
    dc:2584 dd:258c de:2590 df:2580 e0:3c9 e1+3:3ac e4:3ca e5:3af e6+2:3cc e8+2:3cb*3 ea+2:386*2
    ec+2:389 ee+2:38c*2 f0:38f f1:b1 f2:2265 f3:2264 f4+2:3aa f6:f7 f7:2248 f8:b0 f9:2219 fa:b7
    fb:221a fc:207f fd:b2 fe:25a0 ff:a0"

/-- DOS, Baltic. -/
def dos775Page : CodePage := CharMap.ofText
  "80:106 81:fc 82:e9 83:101 84:e4 85:123 86:e5 87:107 88:142 89:113 8a+2:156 8c:12b 8d:179
    8e+2:c4 90:c9 91:e6 92:c6 93:14d 94:f6 95:122 96:a2 97+2:15a 99:d6 9a:dc 9b:f8 9c:a3 9d:d8
    9e:d7 9f:a4 a0:100 a1:12a a2:f3 a3+2:17b a5:17a a6:201d a7+2:a6*3 a9:ae aa:ac ab:bd ac:bc
    ad:141 ae:ab af:bb b0+3:2591 b3:2502 b4:2524 b5:104 b6:10c b7:118 b8:116 b9:2563 ba:2551
    bb:2557 bc:255d bd:12e be:160 bf:2510 c0:2514 c1:2534 c2:252c c3:251c c4:2500 c5:253c c6:172
    c7:16a c8:255a c9:2554 ca:2569 cb:2566 cc:2560 cd:2550 ce:256c cf:17d d0:105 d1:10d d2:119
    d3:117 d4:12f d5:161 d6:173 d7:16b d8:17e d9:2518 da:250c db:2588 dc:2584 dd:258c de:2590
    df:2580 e0:d3 e1:df e2:14c e3:143 e4:f5 e5:d5 e6:b5 e7:144 e8+2:136 ea+2:13b ec:146 ed:112
    ee:145 ef:2019 f0:ad f1:b1 f2:201c f3:be f4:b6 f5:a7 f6:f7 f7:201e f8:b0 f9:2219 fa+2:b7*2
    fc:b3 fd:b2 fe:25a0 ff:a0"

/-- DOS, western Europe. -/
def dos850Page : CodePage := CharMap.ofText
  "80:c7 81:fc 82:e9 83+2:e2*2 85:e0 86+2:e5*2 88+2:ea 8a:e8 8b:ef 8c:ee 8d:ec 8e+2:c4 90:c9
    91:e6 92:c6 93+2:f4*2 95:f2 96:fb 97:f9 98:ff 99:d6 9a:dc 9b:f8 9c:a3 9d:d8 9e:d7 9f:192 a0:e1
    a1:ed a2:f3 a3:fa a4:f1 a5:d1 a6:aa a7:ba a8:bf a9:ae aa:ac ab:bd ac:bc ad:a1 ae:ab af:bb
    b0+3:2591 b3:2502 b4:2524 b5+2:c1 b7:c0 b8:a9 b9:2563 ba:2551 bb:2557 bc:255d bd+2:a2*3
    bf:2510 c0:2514 c1:2534 c2:252c c3:251c c4:2500 c5:253c c6:e3 c7:c3 c8:255a c9:2554 ca:2569
    cb:2566 cc:2560 cd:2550 ce:256c cf:a4 d0:f0 d1:d0 d2+2:ca d4:c8 d5:131 d6+3:cd d9:2518 da:250c
    db:2588 dc:2584 dd:a6 de:cc df:2580 e0:d3 e1:df e2:d4 e3:d2 e4:f5 e5:d5 e6:b5 e7:fe e8:de
    e9+2:da eb:d9 ec:fd ed:dd ee:af ef:b4 f0:ad f1:b1 f2:2017 f3:be f4:b6 f5:a7 f6:f7 f7:b8 f8:b0
    f9:a8 fa+2:b7*2 fc:b3 fd:b2 fe:25a0 ff:a0"

/-- DOS, central Europe. -/
def dos852Page : CodePage := CharMap.ofText
  "80:c7 81:fc 82:e9 83+2:e2*2 85:16f 86:107 87:e7 88:142 89:eb 8a+2:150 8c:ee 8d:179 8e:c4
    8f:106 90:c9 91+2:139 93+2:f4*2 95+2:13d 97+2:15a 99:d6 9a:dc 9b+2:164 9d:141 9e:d7 9f:10d
    a0:e1 a1:ed a2:f3 a3:fa a4+2:104 a6+2:17d a8+2:118 aa:ac ab:17a ac:10c ad:15f ae:ab af:bb
    b0+3:2591 b3:2502 b4:2524 b5+2:c1 b7:11a b8:15e b9:2563 ba:2551 bb:2557 bc:255d bd+2:17b
    bf:2510 c0:2514 c1:2534 c2:252c c3:251c c4:2500 c5:253c c6+2:102 c8:255a c9:2554 ca:2569
    cb:2566 cc:2560 cd:2550 ce:256c cf:a4 d0:111 d1:110 d2:10e d3:cb d4:10f d5:147 d6+2:cd d8:11b
    d9:2518 da:250c db:2588 dc:2584 dd:162 de:16e df:2580 e0:d3 e1:df e2:d4 e3+2:143 e5:148
    e6+2:160 e8:154 e9:da ea:155 eb:170 ec:fd ed:dd ee:163 ef:b4 f0:ad f1:2dd f2:2db f3:2c7 f4:2d8
    f5:a7 f6:f7 f7:b8 f8:b0 f9:a8 fa:2d9 fb:171 fc+2:158 fe:25a0 ff:a0"

/-- DOS, Cyrillic. -/
def dos855Page : CodePage := CharMap.ofText
  "80:452 81:402 82:453 83:403 84:451 85:401 86:454 87:404 88:455 89:405 8a:456 8b:406 8c:457
    8d:407 8e:458 8f:408 90:459 91:409 92:45a 93:40a 94:45b 95:40b 96:45c 97:40c 98:45e 99:40e
    9a:45f 9b:40f 9c:44e 9d:42e 9e:44a 9f:42a a0:430 a1:410 a2:431 a3:411 a4:446 a5:426 a6:434
    a7:414 a8:435 a9:415 aa:444 ab:424 ac:433 ad:413 ae:ab af:bb b0+3:2591 b3:2502 b4:2524 b5:445
    b6:425 b7:438 b8:418 b9:2563 ba:2551 bb:2557 bc:255d bd:439 be:419 bf:2510 c0:2514 c1:2534
    c2:252c c3:251c c4:2500 c5:253c c6:43a c7:41a c8:255a c9:2554 ca:2569 cb:2566 cc:2560 cd:2550
    ce:256c cf:a4 d0:43b d1:41b d2:43c d3:41c d4:43d d5:41d d6:43e d7:41e d8:43f d9:2518 da:250c
    db:2588 dc:2584 dd:41f de:44f df:2580 e0:42f e1:440 e2:420 e3:441 e4:421 e5:442 e6:422 e7:443
    e8:423 e9:436 ea:416 eb:432 ec:412 ed:44c ee:42c ef:2116 f0:ad f1:44b f2:42b f3:437 f4:417
    f5:448 f6:428 f7:44d f8:42d f9:449 fa:429 fb:447 fc:427 fd:a7 fe:25a0 ff:a0"

/-- DOS, Hebrew, an older one. -/
def dos856Page : CodePage := CharMap.ofText
  "80+1b:5d0 9b:fffd 9c:a3 9d:fffd 9e:d7 9f+a:fffd*0 a9:ae aa:ac ab:bd ac:bc ad:fffd ae:ab af:bb
    b0+3:2591 b3:2502 b4:2524 b5+3:fffd*0 b8:a9 b9:2563 ba:2551 bb:2557 bc:255d bd+2:a2*3 bf:2510
    c0:2514 c1:2534 c2:252c c3:251c c4:2500 c5:253c c6+2:fffd*0 c8:255a c9:2554 ca:2569 cb:2566
    cc:2560 cd:2550 ce:256c cf:a4 d0+9:fffd*0 d9:2518 da:250c db:2588 dc:2584 dd:a6 de:fffd
    df:2580 e0+6:fffd*0 e6:b5 e7+7:fffd*0 ee:af ef:b4 f0:ad f1:b1 f2:2017 f3:be f4:b6 f5:a7 f6:f7
    f7:b8 f8:b0 f9:a8 fa+2:b7*2 fc:b3 fd:b2 fe:25a0 ff:a0"

/-- DOS, Turkish. -/
def dos857Page : CodePage := CharMap.ofText
  "80:c7 81:fc 82:e9 83+2:e2*2 85:e0 86+2:e5*2 88+2:ea 8a:e8 8b:ef 8c:ee 8d:131 8e+2:c4 90:c9
    91:e6 92:c6 93+2:f4*2 95:f2 96:fb 97:f9 98:130 99:d6 9a:dc 9b:f8 9c:a3 9d:d8 9e+2:15e a0:e1
    a1:ed a2:f3 a3:fa a4:f1 a5:d1 a6+2:11e a8:bf a9:ae aa:ac ab:bd ac:bc ad:a1 ae:ab af:bb
    b0+3:2591 b3:2502 b4:2524 b5+2:c1 b7:c0 b8:a9 b9:2563 ba:2551 bb:2557 bc:255d bd+2:a2*3
    bf:2510 c0:2514 c1:2534 c2:252c c3:251c c4:2500 c5:253c c6:e3 c7:c3 c8:255a c9:2554 ca:2569
    cb:2566 cc:2560 cd:2550 ce:256c cf:a4 d0:ba d1:aa d2+2:ca d4:c8 d5:fffd d6+3:cd d9:2518
    da:250c db:2588 dc:2584 dd:a6 de:cc df:2580 e0:d3 e1:df e2:d4 e3:d2 e4:f5 e5:d5 e6:b5 e7:fffd
    e8+2:d7*3 ea:db eb:d9 ed:ff ee:af ef:b4 f0:ad f1:b1 f2:fffd f3:be f4:b6 f5:a7 f6:f7 f7:b8
    f8:b0 f9:a8 fa+2:b7*2 fc:b3 fd:b2 fe:25a0 ff:a0"

/-- DOS, western Europe, with the euro sign. -/
def dos858Page : CodePage := CharMap.ofText
  "80:c7 81:fc 82:e9 83+2:e2*2 85:e0 86+2:e5*2 88+2:ea 8a:e8 8b:ef 8c:ee 8d:ec 8e+2:c4 90:c9
    91:e6 92:c6 93+2:f4*2 95:f2 96:fb 97:f9 98:ff 99:d6 9a:dc 9b:f8 9c:a3 9d:d8 9e:d7 9f:192 a0:e1
    a1:ed a2:f3 a3:fa a4:f1 a5:d1 a6:aa a7:ba a8:bf a9:ae aa:ac ab:bd ac:bc ad:a1 ae:ab af:bb
    b0+3:2591 b3:2502 b4:2524 b5+2:c1 b7:c0 b8:a9 b9:2563 ba:2551 bb:2557 bc:255d bd+2:a2*3
    bf:2510 c0:2514 c1:2534 c2:252c c3:251c c4:2500 c5:253c c6:e3 c7:c3 c8:255a c9:2554 ca:2569
    cb:2566 cc:2560 cd:2550 ce:256c cf:a4 d0:f0 d1:d0 d2+2:ca d4:c8 d5:20ac d6+3:cd d9:2518
    da:250c db:2588 dc:2584 dd:a6 de:cc df:2580 e0:d3 e1:df e2:d4 e3:d2 e4:f5 e5:d5 e6:b5 e7:fe
    e8:de e9+2:da eb:d9 ec:fd ed:dd ee:af ef:b4 f0:ad f1:b1 f2:2017 f3:be f4:b6 f5:a7 f6:f7 f7:b8
    f8:b0 f9:a8 fa+2:b7*2 fc:b3 fd:b2 fe:25a0 ff:a0"

/-- DOS, Portuguese. -/
def dos860Page : CodePage := CharMap.ofText
  "80:c7 81:fc 82:e9 83+2:e2 85:e0 86:c1 87+2:e7*3 89:ca 8a:e8 8b:cd 8c:d4 8d:ec 8e:c3 8f:c2
    90:c9 91:c0 92:c8 93+2:f4 95:f2 96:da 97:f9 98:cc 99:d5 9a:dc 9b+2:a2 9d:d9 9e:20a7 9f:d3
    a0:e1 a1:ed a2:f3 a3:fa a4:f1 a5:d1 a6:aa a7:ba a8:bf a9:d2 aa:ac ab:bd ac:bc ad:a1 ae:ab
    af:bb b0+3:2591 b3:2502 b4:2524 b5+2:2561 b7:2556 b8:2555 b9:2563 ba:2551 bb:2557 bc:255d
    bd:255c be:255b bf:2510 c0:2514 c1:2534 c2:252c c3:251c c4:2500 c5:253c c6+2:255e c8:255a
    c9:2554 ca:2569 cb:2566 cc:2560 cd:2550 ce:256c cf+2:2567 d1+2:2564 d3:2559 d4:2558 d5+2:2552
    d7:256b d8:256a d9:2518 da:250c db:2588 dc:2584 dd:258c de:2590 df:2580 e0:3b1 e1:df e2:393
    e3:3c0 e4:3a3 e5:3c3 e6:b5 e7:3c4 e8:3a6 e9:398 ea:3a9 eb:3b4 ec:221e ed:3c6 ee:3b5 ef:2229
    f0:2261 f1:b1 f2:2265 f3:2264 f4+2:2320 f6:f7 f7:2248 f8:b0 f9:2219 fa:b7 fb:221a fc:207f
    fd:b2 fe:25a0 ff:a0"

/-- DOS, Icelandic. -/
def dos861Page : CodePage := CharMap.ofText
  "80:c7 81:fc 82:e9 83+2:e2*2 85:e0 86+2:e5*2 88+2:ea 8a:e8 8b:d0 8c:f0 8d:de 8e+2:c4 90:c9
    91:e6 92:c6 93+2:f4*2 95:fe 96:fb 97:dd 98:fd 99:d6 9a:dc 9b:f8 9c:a3 9d:d8 9e:20a7 9f:192
    a0:e1 a1:ed a2:f3 a3:fa a4:c1 a5:cd a6:d3 a7:da a8:bf a9:2310 aa:ac ab:bd ac:bc ad:a1 ae:ab
    af:bb b0+3:2591 b3:2502 b4:2524 b5+2:2561 b7:2556 b8:2555 b9:2563 ba:2551 bb:2557 bc:255d
    bd:255c be:255b bf:2510 c0:2514 c1:2534 c2:252c c3:251c c4:2500 c5:253c c6+2:255e c8:255a
    c9:2554 ca:2569 cb:2566 cc:2560 cd:2550 ce:256c cf+2:2567 d1+2:2564 d3:2559 d4:2558 d5+2:2552
    d7:256b d8:256a d9:2518 da:250c db:2588 dc:2584 dd:258c de:2590 df:2580 e0:3b1 e1:df e2:393
    e3:3c0 e4:3a3 e5:3c3 e6:b5 e7:3c4 e8:3a6 e9:398 ea:3a9 eb:3b4 ec:221e ed:3c6 ee:3b5 ef:2229
    f0:2261 f1:b1 f2:2265 f3:2264 f4+2:2320 f6:f7 f7:2248 f8:b0 f9:2219 fa:b7 fb:221a fc:207f
    fd:b2 fe:25a0 ff:a0"

/-- DOS, Hebrew. -/
def dos862Page : CodePage := CharMap.ofText
  "80+1b:5d0 9b+2:a2 9d:a5 9e:20a7 9f:192 a0:e1 a1:ed a2:f3 a3:fa a4:f1 a5:d1 a6:aa a7:ba a8:bf
    a9:2310 aa:ac ab:bd ac:bc ad:a1 ae:ab af:bb b0+3:2591 b3:2502 b4:2524 b5+2:2561 b7:2556
    b8:2555 b9:2563 ba:2551 bb:2557 bc:255d bd:255c be:255b bf:2510 c0:2514 c1:2534 c2:252c
    c3:251c c4:2500 c5:253c c6+2:255e c8:255a c9:2554 ca:2569 cb:2566 cc:2560 cd:2550 ce:256c
    cf+2:2567 d1+2:2564 d3:2559 d4:2558 d5+2:2552 d7:256b d8:256a d9:2518 da:250c db:2588 dc:2584
    dd:258c de:2590 df:2580 e0:3b1 e1:df e2:393 e3:3c0 e4:3a3 e5:3c3 e6:b5 e7:3c4 e8:3a6 e9:398
    ea:3a9 eb:3b4 ec:221e ed:3c6 ee:3b5 ef:2229 f0:2261 f1:b1 f2:2265 f3:2264 f4+2:2320 f6:f7
    f7:2248 f8:b0 f9:2219 fa:b7 fb:221a fc:207f fd:b2 fe:25a0 ff:a0"

/-- DOS, Canadian French. -/
def dos863Page : CodePage := CharMap.ofText
  "80:c7 81:fc 82:e9 83:e2 84:c2 85:e0 86:b6 87+2:e7*3 89:eb 8a:e8 8b:ef 8c:ee 8d:2017 8e:c0
    8f:a7 90:c9 91+2:c8*2 93:f4 94:cb 95:cf 96:fb 97:f9 98:a4 99:d4 9a:dc 9b+2:a2 9d+2:d9*2 9f:192
    a0:a6 a1:b4 a2:f3 a3:fa a4:a8 a5:b8 a6:b3 a7:af a8:ce a9:2310 aa:ac ab:bd ac+2:bc*2 ae:ab
    af:bb b0+3:2591 b3:2502 b4:2524 b5+2:2561 b7:2556 b8:2555 b9:2563 ba:2551 bb:2557 bc:255d
    bd:255c be:255b bf:2510 c0:2514 c1:2534 c2:252c c3:251c c4:2500 c5:253c c6+2:255e c8:255a
    c9:2554 ca:2569 cb:2566 cc:2560 cd:2550 ce:256c cf+2:2567 d1+2:2564 d3:2559 d4:2558 d5+2:2552
    d7:256b d8:256a d9:2518 da:250c db:2588 dc:2584 dd:258c de:2590 df:2580 e0:3b1 e1:df e2:393
    e3:3c0 e4:3a3 e5:3c3 e6:b5 e7:3c4 e8:3a6 e9:398 ea:3a9 eb:3b4 ec:221e ed:3c6 ee:3b5 ef:2229
    f0:2261 f1:b1 f2:2265 f3:2264 f4+2:2320 f6:f7 f7:2248 f8:b0 f9:2219 fa:b7 fb:221a fc:207f
    fd:b2 fe:25a0 ff:a0"

/-- DOS, Arabic in presentation forms. -/
def dos864Page : CodePage := CharMap.ofText
  "25:66a 80:b0 81:b7 82+2:2219 84:2592 85+2:2500*2 87:253c 88:2524 89:252c 8a:251c 8b:2534
    8c:2510 8d:250c 8e:2514 8f:2518 90:3b2 91:221e 92:3c6 93:b1 94:bd 95:bc 96:2248 97:ab 98:bb
    99+2:fef7 9b+2:fffd*0 9d+2:fefb 9f:fffd a1:ad a2:fe82 a5:fe84 a6+2:fffd*0 a8+2:fe8e aa:fe95
    ab:fe99 ac:60c ad:fe9d ae:fea1 af:fea5 b0+a:660 ba:fed1 bb:61b bc:feb1 bd:feb5 be:feb9 bf:61f
    c0:a2 c1+2:fe80 c3+2:fe83*2 c5:feca c6+2:fe8b*2 c8+2:fe91*2 ca:fe97 cb:fe9b cc:fe9f cd:fea3
    ce+5:fea7*2 d3:feb3 d4:feb7 d5:febb d6+2:febf*2 d8:fec5 d9:fecb da:fecf db:a6 dc:ac dd:f7
    de:d7 df:fec9 e0:640 e1:fed3 e2:fed7 e3:fedb e4:fedf e5:fee3 e6:fee7 e7+3:feeb*2 ea:fef3
    eb:febd ec+2:fecc*2 ee:fecd ef:fee1 f0:fe7d f1:651 f2:fee5 f3+2:fee9*3 f5+2:fef0*2 f7:fed0
    f8:fed5 f9+2:fef5 fb:fedd fc:fed9 fd:fef1 fe:25a0 ff:fffd"

/-- DOS, Nordic. -/
def dos865Page : CodePage := CharMap.ofText
  "80:c7 81:fc 82:e9 83+2:e2*2 85:e0 86+2:e5*2 88+2:ea 8a:e8 8b:ef 8c:ee 8d:ec 8e+2:c4 90:c9
    91:e6 92:c6 93+2:f4*2 95:f2 96:fb 97:f9 98:ff 99:d6 9a:dc 9b:f8 9c:a3 9d:d8 9e:20a7 9f:192
    a0:e1 a1:ed a2:f3 a3:fa a4:f1 a5:d1 a6:aa a7:ba a8:bf a9:2310 aa:ac ab:bd ac:bc ad:a1 ae:ab
    af:a4 b0+3:2591 b3:2502 b4:2524 b5+2:2561 b7:2556 b8:2555 b9:2563 ba:2551 bb:2557 bc:255d
    bd:255c be:255b bf:2510 c0:2514 c1:2534 c2:252c c3:251c c4:2500 c5:253c c6+2:255e c8:255a
    c9:2554 ca:2569 cb:2566 cc:2560 cd:2550 ce:256c cf+2:2567 d1+2:2564 d3:2559 d4:2558 d5+2:2552
    d7:256b d8:256a d9:2518 da:250c db:2588 dc:2584 dd:258c de:2590 df:2580 e0:3b1 e1:df e2:393
    e3:3c0 e4:3a3 e5:3c3 e6:b5 e7:3c4 e8:3a6 e9:398 ea:3a9 eb:3b4 ec:221e ed:3c6 ee:3b5 ef:2229
    f0:2261 f1:b1 f2:2265 f3:2264 f4+2:2320 f6:f7 f7:2248 f8:b0 f9:2219 fa:b7 fb:221a fc:207f
    fd:b2 fe:25a0 ff:a0"

/-- DOS, Russian. -/
def dos866Page : CodePage := CharMap.ofText
  "80+30:410 b0+3:2591 b3:2502 b4:2524 b5+2:2561 b7:2556 b8:2555 b9:2563 ba:2551 bb:2557 bc:255d
    bd:255c be:255b bf:2510 c0:2514 c1:2534 c2:252c c3:251c c4:2500 c5:253c c6+2:255e c8:255a
    c9:2554 ca:2569 cb:2566 cc:2560 cd:2550 ce:256c cf+2:2567 d1+2:2564 d3:2559 d4:2558 d5+2:2552
    d7:256b d8:256a d9:2518 da:250c db:2588 dc:2584 dd:258c de:2590 df:2580 e0+10:440 f0:401
    f1:451 f2:404 f3:454 f4:407 f5:457 f6:40e f7:45e f8:b0 f9:2219 fa:b7 fb:221a fc:2116 fd:a4
    fe:25a0 ff:a0"

/-- DOS, Greek, a newer one. -/
def dos869Page : CodePage := CharMap.ofText
  "80+6:fffd*0 86:386 87:fffd 88:b7 89:ac 8a:a6 8b+2:2018 8d:388 8e:2015 8f+2:389 91:3aa 92:38c
    93+2:fffd*0 95:38e 96:3ab 97:a9 98:38f 99+2:b2 9b:3ac 9c:a3 9d+3:3ad a0:3ca a1:390 a2+2:3cc
    a4+7:391 ab:bd ac+2:398 ae:ab af:bb b0+3:2591 b3:2502 b4:2524 b5+4:39a b9:2563 ba:2551 bb:2557
    bc:255d bd+2:39e bf:2510 c0:2514 c1:2534 c2:252c c3:251c c4:2500 c5:253c c6+2:3a0 c8:255a
    c9:2554 ca:2569 cb:2566 cc:2560 cd:2550 ce:256c cf+7:3a3 d6+3:3b1 d9:2518 da:250c db:2588
    dc:2584 dd+2:3b4 df:2580 e0+c:3b6 ec:3c3 ed+2:3c2*2 ef:384 f0:ad f1:b1 f2+3:3c5 f5:a7 f6:3c8
    f7:385 f8:b0 f9:a8 fa+2:3c9*2 fc:3b0 fd:3ce fe:25a0 ff:a0"

/-- DOS, Ukrainian. -/
def dos1125Page : CodePage := CharMap.ofText
  "80+30:410 b0+3:2591 b3:2502 b4:2524 b5+2:2561 b7:2556 b8:2555 b9:2563 ba:2551 bb:2557 bc:255d
    bd:255c be:255b bf:2510 c0:2514 c1:2534 c2:252c c3:251c c4:2500 c5:253c c6+2:255e c8:255a
    c9:2554 ca:2569 cb:2566 cc:2560 cd:2550 ce:256c cf+2:2567 d1+2:2564 d3:2559 d4:2558 d5+2:2552
    d7:256b d8:256a d9:2518 da:250c db:2588 dc:2584 dd:258c de:2590 df:2580 e0+10:440 f0:401
    f1:451 f2+2:490 f4:404 f5:454 f6:406 f7:456 f8:407 f9:457 fa:b7 fb:221a fc:2116 fd:a4 fe:25a0
    ff:a0"

/-! ## Windows -/

/-- Windows, Thai. -/
def windows874Page : CodePage := CharMap.ofText
  "80:20ac 81+4:fffd*0 85:2026 86+b:fffd*0 91+2:2018 93+2:201c 95:2022 96+2:2013 98+8:fffd*0
    a1+3a:e01 db+4:fffd*0 df+1d:e3f fc+4:fffd*0"

/-- Windows, central Europe. -/
def windows1250Page : CodePage := CharMap.ofText
  "80:20ac 81:fffd 82:201a 83:fffd 84:201e 85:2026 86+2:2020 88:fffd 89:2030 8a:160 8b:2039
    8c:15a 8d:164 8e:17d 8f:179 90:fffd 91+2:2018 93+2:201c 95:2022 96+2:2013 98:fffd 99:2122
    9a:161 9b:203a 9c:15b 9d:165 9e:17e 9f:17a a1:2c7 a2:2d8 a3:141 a5:104 aa:15e af:17b b2:2db
    b3:142 b9:105 ba:15f bc:13d bd:2dd be:13e bf:17c c0:154 c3:102 c5:139 c6:106 c8:10c ca:118
    cc:11a cf+2:10e*2 d1:143 d2:147 d5:150 d8:158 d9:16e db:170 de:162 e0:155 e3:103 e5:13a e6:107
    e8:10d ea:119 ec:11b ef+2:10f*2 f1:144 f2:148 f5:151 f8:159 f9:16f fb:171 fe:163 ff:2d9"

/-- Windows, Cyrillic. -/
def windows1251Page : CodePage := CharMap.ofText
  "80+2:402 82:201a 83:453 84:201e 85:2026 86+2:2020 88:20ac 89:2030 8a:409 8b:2039 8c+2:40a*2
    8e:40b 8f:40f 90:452 91+2:2018 93+2:201c 95:2022 96+2:2013 98:fffd 99:2122 9a:459 9b:203a
    9c+2:45a*2 9e:45b 9f:45f a1:40e a2:45e a3:408 a5:490 a8:401 aa:404 af:407 b2:406 b3:456 b4:491
    b8:451 b9:2116 ba:454 bc:458 bd:405 be+2:455*2 c0+40:410"

/-- Windows, western Europe. -/
def windows1252Page : CodePage := CharMap.ofText
  "80:20ac 81:fffd 82:201a 83:192 84:201e 85:2026 86+2:2020 88:2c6 89:2030 8a:160 8b:2039 8c:152
    8d:fffd 8e:17d 8f+2:fffd*0 91+2:2018 93+2:201c 95:2022 96+2:2013 98:2dc 99:2122 9a:161 9b:203a
    9c:153 9d:fffd 9e:17e 9f:178"

/-- Windows, Greek. -/
def windows1253Page : CodePage := CharMap.ofText
  "80:20ac 81:fffd 82:201a 83:192 84:201e 85:2026 86+2:2020 88:fffd 89:2030 8a:fffd 8b:2039
    8c+5:fffd*0 91+2:2018 93+2:201c 95:2022 96+2:2013 98:fffd 99:2122 9a:fffd 9b:203a 9c+4:fffd*0
    a1+2:385 aa:fffd af:2015 b4:384 b8+3:388 bc:38c be+14:38e d2:fffd d3+2c:3a3 ff:fffd"

/-- Windows, Turkish. -/
def windows1254Page : CodePage := CharMap.ofText
  "80:20ac 81:fffd 82:201a 83:192 84:201e 85:2026 86+2:2020 88:2c6 89:2030 8a:160 8b:2039 8c:152
    8d+4:fffd*0 91+2:2018 93+2:201c 95:2022 96+2:2013 98:2dc 99:2122 9a:161 9b:203a 9c:153
    9d+2:fffd*0 9f:178 d0:11e dd:130 de:15e f0:11f fd:131 fe:15f"

/-- Windows, Hebrew. -/
def windows1255Page : CodePage := CharMap.ofText
  "80:20ac 81:fffd 82:201a 83:192 84:201e 85:2026 86+2:2020 88:2c6 89:2030 8a:fffd 8b:2039
    8c+5:fffd*0 91+2:2018 93+2:201c 95:2022 96+2:2013 98:2dc 99:2122 9a:fffd 9b:203a 9c+4:fffd*0
    a4:20aa aa:d7 ba:f7 c0+a:5b0 ca:fffd cb+9:5bb d4+5:5f0 d9+7:fffd*0 e0+1b:5d0 fb+2:fffd*0
    fd+2:200e ff:fffd"

/-- Windows, Arabic. -/
def windows1256Page : CodePage := CharMap.ofText
  "80:20ac 81:67e 82:201a 83:192 84:201e 85:2026 86+2:2020 88:2c6 89:2030 8a:679 8b:2039 8c:152
    8d:686 8e:698 8f:688 90:6af 91+2:2018 93+2:201c 95:2022 96+2:2013 98:6a9 99:2122 9a:691
    9b:203a 9c:153 9d+2:200c 9f:6ba a1:60c aa:6be ba:61b bf:61f c0:6c1 c1+16:621 d8+4:637 dc+4:640
    e1:644 e3+4:645 ec+2:649 f0+4:64b f5+2:64f f8:651 fa:652 fd+2:200e ff:6d2"

/-- Windows, Baltic. -/
def windows1257Page : CodePage := CharMap.ofText
  "80:20ac 81:fffd 82:201a 83:fffd 84:201e 85:2026 86+2:2020 88:fffd 89:2030 8a:fffd 8b:2039
    8c:fffd 8d:a8 8e:2c7 8f:b8 90:fffd 91+2:2018 93+2:201c 95:2022 96+2:2013 98:fffd 99:2122
    9a:fffd 9b:203a 9c:fffd 9d:af 9e:2db 9f:fffd a1:fffd a5:fffd a8:d8 aa:156 af:c6 b8:f8 ba:157
    bf:e6 c0:104 c1:12e c2:100 c3:106 c6:118 c7:112 c8:10c ca:179 cb:116 cc:122 cd:136 ce:12a
    cf:13b d0:160 d1+2:143*2 d4:14c d8:172 d9:141 da:15a db:16a dd+2:17b*2 e0:105 e1:12f e2:101
    e3:107 e6:119 e7:113 e8:10d ea:17a eb:117 ec:123 ed:137 ee:12b ef:13c f0:161 f1+2:144*2 f4:14d
    f8:173 f9:142 fa:15b fb:16b fd+2:17c*2 ff:2d9"

/-- Windows, Vietnamese. -/
def windows1258Page : CodePage := CharMap.ofText
  "80:20ac 81:fffd 82:201a 83:192 84:201e 85:2026 86+2:2020 88:2c6 89:2030 8a:fffd 8b:2039 8c:152
    8d+4:fffd*0 91+2:2018 93+2:201c 95:2022 96+2:2013 98:2dc 99:2122 9a:fffd 9b:203a 9c:153
    9d+2:fffd*0 9f:178 c3:102 cc:300 d0:110 d2:309 d5:1a0 dd:1af de:303 e3:103 ec:301 f0:111
    f2:323 f5:1a1 fd:1b0 fe:20ab"

/-! ## International standards -/

/-- Central Europe. -/
def latin2Page : CodePage := CharMap.ofText
  "a1:104 a2:2d8 a3:141 a5:13d a6:15a a9:160 aa:15e ab:164 ac:179 ae:17d af:17b b1:105 b2:2db
    b3:142 b5:13e b6:15b b7:2c7 b9:161 ba:15f bb:165 bc:17a bd:2dd be:17e bf:17c c0:154 c3:102
    c5:139 c6:106 c8:10c ca:118 cc:11a cf+2:10e*2 d1:143 d2:147 d5:150 d8:158 d9:16e db:170 de:162
    e0:155 e3:103 e5:13a e6:107 e8:10d ea:119 ec:11b ef+2:10f*2 f1:144 f2:148 f5:151 f8:159 f9:16f
    fb:171 fe:163 ff:2d9"

/-- Southern Europe. -/
def latin3Page : CodePage := CharMap.ofText
  "a1:126 a2:2d8 a5:fffd a6:124 a9:130 aa:15e ab:11e ac:134 ae:fffd af:17b b1:127 b6:125 b9:131
    ba:15f bb:11f bc:135 be:fffd bf:17c c3:fffd c5:10a c6:108 d0:fffd d5:120 d8:11c dd:16c de:15c
    e3:fffd e5:10b e6:109 f0:fffd f5:121 f8:11d fd:16d fe:15d ff:2d9"

/-- Northern Europe. -/
def latin4Page : CodePage := CharMap.ofText
  "a1:104 a2:138 a3:156 a5:128 a6:13b a9:160 aa:112 ab:122 ac:166 ae:17d b1:105 b2:2db b3:157
    b5:129 b6:13c b7:2c7 b9:161 ba:113 bb:123 bc:167 bd:14a be:17e bf:14b c0:100 c7:12e c8:10c
    ca:118 cc:116 cf:12a d0:110 d1:145 d2:14c d3:136 d9:172 dd+2:168*2 e0:101 e7:12f e8:10d ea:119
    ec:117 ef:12b f0:111 f1:146 f2:14d f3:137 f9:173 fd+2:169*2 ff:2d9"

/-- Cyrillic. -/
def cyrillicPage : CodePage := CharMap.ofText
  "a1+c:401 ae+42:40e f0:2116 f1+c:451 fd:a7 fe+2:45e"

/-- Arabic. -/
def arabicPage : CodePage := CharMap.ofText
  "a1+3:fffd*0 a5+7:fffd*0 ac:60c ae+d:fffd*0 bb:61b bc+3:fffd*0 bf:61f c0:fffd c1+1a:621
    db+5:fffd*0 e0+13:640 f3+d:fffd*0"

/-- Greek. -/
def greekPage : CodePage := CharMap.ofText
  "a1+2:2018 a4+2:20ac*3 aa:37a ae:fffd af:2015 b4+3:384 b8+3:388 bc:38c be+14:38e d2:fffd
    d3+2c:3a3 ff:fffd"

/-- Hebrew. -/
def hebrewPage : CodePage := CharMap.ofText
  "a1:fffd aa:d7 ba:f7 bf+20:fffd*0 df:2017 e0+1b:5d0 fb+2:fffd*0 fd+2:200e ff:fffd"

/-- Turkish. -/
def latin5Page : CodePage := CharMap.ofText
  "d0:11e dd:130 de:15e f0:11f fd:131 fe:15f"

/-- Nordic. -/
def latin6Page : CodePage := CharMap.ofText
  "a1:104 a2:112 a3:122 a4:12a a5:128 a6:136 a8:13b a9:110 aa:160 ab:166 ac:17d ae:16a af:14a
    b1:105 b2:113 b3:123 b4:12b b5:129 b6:137 b8:13c b9:111 ba:161 bb:167 bc:17e bd:2015 be:16b
    bf:14b c0:100 c7:12e c8:10c ca:118 cc:116 d1:145 d2:14c d7:168 d9:172 e0:101 e7:12f e8:10d
    ea:119 ec:117 f1:146 f2:14d f7:169 f9:173 ff:138"

/-- Thai. -/
def thaiPage : CodePage := CharMap.ofText
  "a1+3a:e01 db+4:fffd*0 df+1d:e3f fc+4:fffd*0"

/-- Baltic. -/
def latin7Page : CodePage := CharMap.ofText
  "a1:201d a5:201e a8:d8 aa:156 af:c6 b4:201c b8:f8 ba:157 bf:e6 c0:104 c1:12e c2:100 c3:106
    c6:118 c7:112 c8:10c ca:179 cb:116 cc:122 cd:136 ce:12a cf:13b d0:160 d1+2:143*2 d4:14c d8:172
    d9:141 da:15a db:16a dd+2:17b*2 e0:105 e1:12f e2:101 e3:107 e6:119 e7:113 e8:10d ea:17a eb:117
    ec:123 ed:137 ee:12b ef:13c f0:161 f1+2:144*2 f4:14d f8:173 f9:142 fa:15b fb:16b fd+2:17c*2
    ff:2019"

/-- Celtic. -/
def latin8Page : CodePage := CharMap.ofText
  "a1+2:1e02 a4+2:10a a6:1e0a a8:1e80 aa:1e82 ab:1e0b ac:1ef2 af:178 b0+2:1e1e b2+2:120 b4+2:1e40
    b7:1e56 b8:1e81 b9:1e57 ba:1e83 bb:1e60 bc:1ef3 bd+2:1e84 bf:1e61 d0:174 d7:1e6a de:176 f0:175
    f7:1e6b fe:177"

/-- Western Europe with the euro sign. -/
def latin9Page : CodePage := CharMap.ofText
  "a4:20ac a6:160 a8:161 b4:17d b8:17e bc+2:152 be:178"

/-- South-eastern Europe. -/
def latin10Page : CodePage := CharMap.ofText
  "a1+2:104 a3:141 a4:20ac a5:201e a6:160 a8:161 aa:218 ac:179 ae+2:17a b2:10c b3:142 b4:17d
    b5:201d b8:17e b9:10d ba:219 bc+2:152 be:178 bf:17c c3:102 c5:106 d0:110 d1:143 d5:150 d7:15a
    d8:170 dd:118 de:21a e3:103 e5:107 f0:111 f1:144 f5:151 f7:15b f8:171 fd:119 fe:21b"

/-- Thai, without a no-break space. -/
def thaiStandardPage : CodePage := CharMap.ofText
  "a0:fffd a1+3a:e01 db+4:fffd*0 df+1d:e3f fc+4:fffd*0"

/-! ## Russian and its neighbours -/

/-- Russian, by letter sounds. -/
def koi8RussianPage : CodePage := CharMap.ofText
  "80+2:2500*2 82:250c 83:2510 84:2514 85:2518 86:251c 87:2524 88:252c 89:2534 8a:253c 8b:2580
    8c:2584 8d:2588 8e:258c 8f+4:2590 93:2320 94:25a0 95+2:2219 97:2248 98+2:2264 9a:a0 9b:2321
    9c+2:b0*2 9e:b7 9f:f7 a0+3:2550 a3:451 a4+f:2553 b3:401 b4+b:2562 bf:a9 c0:44e c1+2:430 c3:446
    c4+2:434 c6:444 c7:433 c8:445 c9+8:438 d1:44f d2+4:440 d6:436 d7:432 d8:44c d9:44b da:437
    db:448 dc:44d dd:449 de+2:447*3 e0:42e e1+2:410 e3:426 e4+2:414 e6:424 e7:413 e8:425 e9+8:418
    f1:42f f2+4:420 f6:416 f7:412 f8:42c f9:42b fa:417 fb:428 fc:42d fd:429 fe+2:427*3"

/-- Tajik, by letter sounds. -/
def koi8TajikPage : CodePage := CharMap.ofText
  "80:49b 81:493 82:201a 83:492 84:201e 85:2026 86+2:2020 88:fffd 89:2030 8a:4b3 8b:2039 8c:4b2
    8d:4b7 8e:4b6 8f:fffd 90:49a 91+2:2018 93+2:201c 95:2022 96+2:2013 98:fffd 99:2122 9a:fffd
    9b:203a 9c+5:fffd*0 a1:4ef a2:4ee a3:451 a5:4e3 a8+3:fffd*0 af:fffd b3:401 b4:fffd b5:4e2
    b8:fffd b9:2116 ba:fffd bc+3:fffd*0 bf:a9 c0:44e c1+2:430 c3:446 c4+2:434 c6:444 c7:433 c8:445
    c9+8:438 d1:44f d2+4:440 d6:436 d7:432 d8:44c d9:44b da:437 db:448 dc:44d dd:449 de+2:447*3
    e0:42e e1+2:410 e3:426 e4+2:414 e6:424 e7:413 e8:425 e9+8:418 f1:42f f2+4:420 f6:416 f7:412
    f8:42c f9:42b fa:417 fb:428 fc:42d fd:429 fe+2:427*3"

/-- Ukrainian, by letter sounds. -/
def koi8UkrainianPage : CodePage := CharMap.ofText
  "80+2:2500*2 82:250c 83:2510 84:2514 85:2518 86:251c 87:2524 88:252c 89:2534 8a:253c 8b:2580
    8c:2584 8d:2588 8e:258c 8f+4:2590 93:2320 94:25a0 95+2:2219 97:2248 98+2:2264 9a:a0 9b:2321
    9c+2:b0*2 9e:b7 9f:f7 a0+3:2550 a3+2:451*3 a5:2554 a6+2:456 a8+5:2557 ad:491 ae+5:255d
    b3+2:401*3 b5:2563 b6+2:406 b8+5:2566 bd:490 be:256c bf:a9 c0:44e c1+2:430 c3:446 c4+2:434
    c6:444 c7:433 c8:445 c9+8:438 d1:44f d2+4:440 d6:436 d7:432 d8:44c d9:44b da:437 db:448 dc:44d
    dd:449 de+2:447*3 e0:42e e1+2:410 e3:426 e4+2:414 e6:424 e7:413 e8:425 e9+8:418 f1:42f
    f2+4:420 f6:416 f7:412 f8:42c f9:42b fa:417 fb:428 fc:42d fd:429 fe+2:427*3"

/-- Kazakh. -/
def kazakhPage : CodePage := CharMap.ofText
  "80+2:402 82:201a 83:453 84:201e 85:2026 86+2:2020 88:20ac 89:2030 8a:409 8b:2039 8c:40a 8d:49a
    8e:4ba 8f:40f 90:452 91+2:2018 93+2:201c 95:2022 96+2:2013 98:fffd 99:2122 9a:459 9b:203a
    9c:45a 9d:49b 9e:4bb 9f:45f a1+2:4b0 a3:4d8 a5:4e8 a8:401 aa:492 af:4ae b2:406 b3:456 b4:4e9
    b8:451 b9:2116 ba:493 bc:4d9 bd+2:4a2 bf:4af c0+40:410"

/-- Cyrillic of Asian languages. -/
def asianCyrillicPage : CodePage := CharMap.ofText
  "80:496 81:492 82:4ee 83:493 84:201e 85:2026 86:4b6 87:4ae 88:4b2 89:4af 8a:4a0 8b:4e2 8c:4a2
    8d:49a 8e:4ba 8f:4b8 90:497 91+2:2018 93+2:201c 95:2022 96+2:2013 98:4b3 99:4b7 9a:4a1 9b:4e3
    9c:4a3 9d:49b 9e:4bb 9f:4b9 a1:40e a2:45e a3:408 a4:4e8 a5:498 a6:4b0 a8:401 aa:4d8 ad:4ef
    af:49c b1:4b1 b2:406 b3:456 b4:499 b5:4e9 b8:451 b9:2116 ba:4d9 bc:458 bd+2:4aa bf:49d
    c0+40:410"

/-! ## Other machines -/

/-- Workstations, western Europe. -/
def roman8Page : CodePage := CharMap.ofText
  "a1+2:c0*2 a3+2:c8*2 a5+2:cb*3 a7:cf a8:b4 a9:2cb aa:2c6 ab:a8 ac:2dc ad+2:d9*2 af:20a4 b0:af
    b1:dd b2:fd b3:b0 b4:c7 b5:e7 b6:d1 b7:f1 b8:a1 b9:bf ba:a4 bb+3:a3*2 be:192 bf:a2 c0:e2 c1:ea
    c2:f4 c3:fb c4:e1 c5:e9 c6:f3 c7:fa c8:e0 c9:e8 ca:f2 cb:f9 cc:e4 cd:eb ce:f6 cf:fc d0:c5
    d1:ee d2:d8 d3:c6 d4:e5 d5:ed d6:f8 d7:e6 d8:c4 d9:ec da:d6 db:dc dc:c9 dd:ef de:df df:d4
    e0+2:c1*2 e2:e3 e3:d0 e4:f0 e5:cd e6:cc e7:d3 e8+2:d2*3 ea:f5 eb+2:160 ed:da ee:178 ef:ff
    f0:de f1:fe f2:b7 f3+2:b5 f5:be f6:2014 f7+2:bc f9:aa fa:ba fb:ab fc:25a0 fd:bb fe:b1 ff:fffd"

/-- Handhelds, western Europe. -/
def palmPage : CodePage := CharMap.ofText
  "80:20ac 82:201a 83:192 84:201e 85:2026 86+2:2020 88:2c6 89:2030 8a:160 8b:2039 8c:152 8d:2666
    8e+2:2663*2 90:2660 91+2:2018 93+2:201c 95:2022 96+2:2013 98:2dc 99:2122 9a:161 9c:153 9f:178"

/-- Macintosh, Arabic. -/
def macArabicPage : CodePage := CharMap.ofText
  "80:c4 81:a0 82+2:c7*2 84:d1 85:d6 86:dc 87:e1 88+3:e0*2 8b:6ba 8c:ab 8d+2:e7*2 8f+2:e8*2
    91+2:eb*2 93:2026 94+2:ee 96+2:f1*2 98:bb 99+2:f4*2 9b+2:f7*3 9d+2:f9*2 9f:fc a0+5:20 a5:66a
    a6+6:26 ac:60c ad+3:2d b0+a:660 ba:3a bb:61b bc+3:3c bf:61f c0:274a c1+1a:621 db+5:5b
    e0+13:640 f3:67e f4:679 f5:686 f6:6d5 f7:6a4 f8:6af f9:688 fa:691 fb+3:7b fe:698 ff:6d2"

/-- Macintosh, Croatian. -/
def macCroatianPage : CodePage := CharMap.ofText
  "80+2:c4 82+2:c7*2 84:d1 85:d6 86:dc 87:e1 88+3:e0*2 8b+4:e3*2 8f+2:e8*2 91+2:eb*2 93+2:ec*2
    95+3:ef*2 98+3:f2*2 9b:f5 9c:fa 9d+2:f9*2 9f:fc a0:2020 a1:b0 a4:a7 a5:2022 a6:b6 a7:df a8:ae
    a9:160 aa:2122 ab:b4 ac:a8 ad:2260 ae:17d af:d8 b0:221e b2+2:2264 b4:2206 b6:2202 b7:2211
    b8:220f b9:161 ba:222b bb:aa bc:ba bd:3a9 be:17e bf:f8 c0:bf c1:a1 c2:ac c3:221a c4:192
    c5:2248 c6:106 c7:ab c8:10c c9:2026 ca:a0 cb+2:c0*3 cd:d5 ce+2:152 d0:110 d1:2014 d2+2:201c
    d4+2:2018 d6:f7 d7:25ca d8:f8ff d9:a9 da:2044 db:20ac dc+2:2039 de:c6 df:bb e0:2013 e1:b7
    e2:201a e3:201e e4:2030 e5:c2 e6:107 e7:c1 e8:10d e9:c8 ea+3:cd ed:cc ee+2:d3 f0:111 f1:d2
    f2+2:da f4:d9 f5:131 f6:2c6 f7:2dc f8:af f9:3c0 fa:cb fb:2da fc:b8 fd:ca fe:e6 ff:2c7"

/-- Macintosh, Cyrillic. -/
def macCyrillicPage : CodePage := CharMap.ofText
  "80+20:410 a0:2020 a1:b0 a2:490 a4:a7 a5:2022 a6:b6 a7:406 a8:ae aa:2122 ab:402 ac:452 ad:2260
    ae:403 af:453 b0:221e b2+2:2264 b4:456 b6:491 b7:408 b8:404 b9:454 ba:407 bb:457 bc:409 bd:459
    be:40a bf:45a c0:458 c1:405 c2:ac c3:221a c4:192 c5:2248 c6:2206 c7:ab c8:bb c9:2026 ca:a0
    cb:40b cc:45b cd:40c ce:45c cf:455 d0+2:2013 d2+2:201c d4+2:2018 d6:f7 d7:201e d8:40e d9:45e
    da:40f db:45f dc:2116 dd:401 de:451 df:44f e0+1f:430 ff:20ac"

/-- Macintosh, Farsi. -/
def macFarsiPage : CodePage := CharMap.ofText
  "80:c4 81:a0 82+2:c7*2 84:d1 85:d6 86:dc 87:e1 88+3:e0*2 8b:6ba 8c:ab 8d+2:e7*2 8f+2:e8*2
    91+2:eb*2 93:2026 94+2:ee 96+2:f1*2 98:bb 99+2:f4*2 9b+2:f7*3 9d+2:f9*2 9f:fc a0+5:20 a5:66a
    a6+6:26 ac:60c ad+3:2d b0+a:6f0 ba:3a bb:61b bc+3:3c bf:61f c0:274a c1+1a:621 db+5:5b
    e0+13:640 f3:67e f4:679 f5:686 f6:6d5 f7:6a4 f8:6af f9:688 fa:691 fb+3:7b fe:698 ff:6d2"

/-- Macintosh, Greek. -/
def macGreekPage : CodePage := CharMap.ofText
  "80:c4 81:b9 82:b2 83:c9 84:b3 85:d6 86:dc 87:385 88+3:e0*2 8b:384 8c:a8 8d+2:e7*2 8f+2:e8*2
    91:eb 92:a3 93:2122 94+2:ee 96:2022 97:bd 98:2030 99+2:f4*2 9b:a6 9c:20ac 9d+2:f9*2 9f:fc
    a0:2020 a1+2:393 a3+3:398*3 a6:3a0 a7:df a8:ae aa:3a3 ab:3aa ac:a7 ad:2260 ae:b0 af:b7 b0:391
    b2+2:2264 b4:a5 b5+2:392*3 b7+2:396 b9+2:399 bb:39c bc:3a6 bd:3ab be+2:3a8 c0:3ac c1:39d c2:ac
    c3+2:39f*2 c5:2248 c6:3a4 c7:ab c8:bb c9:2026 ca:a0 cb+2:3a5*2 cd+2:386*2 cf:153 d0+2:2013*2
    d2+2:201c d4+2:2018 d6:f7 d7+2:389 d9+2:38c*2 db+3:3ad de:3cc df:38f e0:3cd e1+2:3b1 e3:3c8
    e4+2:3b4 e6:3c6 e7:3b3 e8+2:3b7*2 ea:3be eb+4:3ba ef+2:3bf f1:3ce f2+2:3c1*2 f4:3c4 f5:3b8
    f6:3c9 f7:3c2 f8:3c7 f9:3c5 fa:3b6 fb+2:3ca fd:390 fe:3b0 ff:ad"

/-- Macintosh, Icelandic. -/
def macIcelandicPage : CodePage := CharMap.ofText
  "80+2:c4 82+2:c7*2 84:d1 85:d6 86:dc 87:e1 88+3:e0*2 8b+4:e3*2 8f+2:e8*2 91+2:eb*2 93+2:ec*2
    95+3:ef*2 98+3:f2*2 9b:f5 9c:fa 9d+2:f9*2 9f:fc a0:dd a1:b0 a4:a7 a5:2022 a6:b6 a7:df a8:ae
    aa:2122 ab:b4 ac:a8 ad:2260 ae:c6 af:d8 b0:221e b2+2:2264 b4:a5 b6:2202 b7:2211 b8:220f b9:3c0
    ba:222b bb:aa bc:ba bd:3a9 be:e6 bf:f8 c0:bf c1:a1 c2:ac c3:221a c4:192 c5:2248 c6:2206 c7:ab
    c8:bb c9:2026 ca:a0 cb+2:c0*3 cd:d5 ce+2:152 d0+2:2013 d2+2:201c d4+2:2018 d6:f7 d7:25ca d8:ff
    d9:178 da:2044 db:20ac dc:d0 dd:f0 df:fe e0:fd e1:b7 e2:201a e3:201e e4:2030 e5:c2 e6:ca e7:c1
    e8:cb e9:c8 ea+3:cd ed:cc ee+2:d3 f0:f8ff f1:d2 f2+2:da f4:d9 f5:131 f6:2c6 f7:2dc f8:af
    f9+3:2d8 fc:b8 fd:2dd fe:2db ff:2c7"

/-- Macintosh, central Europe. -/
def macCentralPage : CodePage := CharMap.ofText
  "80:c4 81+2:100 83:c9 84:104 85:d6 86:dc 87:e1 88:105 89:10c 8a:e4 8b:10d 8c+2:106 8e:e9
    8f+2:179 91:10e 92:ed 93+2:10f*3 95+2:113*3 97:f3 98:117 99+2:f4*2 9b:f5 9c:fa 9d+2:11a 9f:fc
    a0:2020 a1:b0 a2:118 a4:a7 a5:2022 a6:b6 a7:df a8:ae aa:2122 ab:119 ac:a8 ad:2260 ae:123
    af+2:12e b1:12a b2+2:2264 b4:12b b5:136 b6:2202 b7:2211 b8:142 b9+4:13b bd+2:139 bf+2:145
    c1:143 c2:ac c3:221a c4+2:144*3 c6:2206 c7:ab c8:bb c9:2026 ca:a0 cb:148 cc:150 cd:d5 ce:151
    cf:14c d0+2:2013 d2+2:201c d4+2:2018 d6:f7 d7:25ca d8:14d d9+2:154 db:158 dc+2:2039 de:159
    df+2:156 e1:160 e2:201a e3:201e e4:161 e5+2:15a e7:c1 e8+2:164 ea:cd eb+2:17d ed:16a ee+2:d3
    f0+2:16b*3 f2:da f3+5:16f f8:dd f9:fd fa:137 fb:17b fc:141 fd:17c fe:122 ff:2c7"

/-- Macintosh, western Europe. -/
def macRomanPage : CodePage := CharMap.ofText
  "80+2:c4 82+2:c7*2 84:d1 85:d6 86:dc 87:e1 88+3:e0*2 8b+4:e3*2 8f+2:e8*2 91+2:eb*2 93+2:ec*2
    95+3:ef*2 98+3:f2*2 9b:f5 9c:fa 9d+2:f9*2 9f:fc a0:2020 a1:b0 a4:a7 a5:2022 a6:b6 a7:df a8:ae
    aa:2122 ab:b4 ac:a8 ad:2260 ae:c6 af:d8 b0:221e b2+2:2264 b4:a5 b6:2202 b7:2211 b8:220f b9:3c0
    ba:222b bb:aa bc:ba bd:3a9 be:e6 bf:f8 c0:bf c1:a1 c2:ac c3:221a c4:192 c5:2248 c6:2206 c7:ab
    c8:bb c9:2026 ca:a0 cb+2:c0*3 cd:d5 ce+2:152 d0+2:2013 d2+2:201c d4+2:2018 d6:f7 d7:25ca d8:ff
    d9:178 da:2044 db:20ac dc+2:2039 de+2:fb01 e0:2021 e1:b7 e2:201a e3:201e e4:2030 e5:c2 e6:ca
    e7:c1 e8:cb e9:c8 ea+3:cd ed:cc ee+2:d3 f0:f8ff f1:d2 f2+2:da f4:d9 f5:131 f6:2c6 f7:2dc f8:af
    f9+3:2d8 fc:b8 fd:2dd fe:2db ff:2c7"

/-- Macintosh, Romanian. -/
def macRomanianPage : CodePage := CharMap.ofText
  "80+2:c4 82+2:c7*2 84:d1 85:d6 86:dc 87:e1 88+3:e0*2 8b+4:e3*2 8f+2:e8*2 91+2:eb*2 93+2:ec*2
    95+3:ef*2 98+3:f2*2 9b:f5 9c:fa 9d+2:f9*2 9f:fc a0:2020 a1:b0 a4:a7 a5:2022 a6:b6 a7:df a8:ae
    aa:2122 ab:b4 ac:a8 ad:2260 ae:102 af:218 b0:221e b2+2:2264 b4:a5 b6:2202 b7:2211 b8:220f
    b9:3c0 ba:222b bb:aa bc:ba bd:3a9 be:103 bf:219 c0:bf c1:a1 c2:ac c3:221a c4:192 c5:2248
    c6:2206 c7:ab c8:bb c9:2026 ca:a0 cb+2:c0*3 cd:d5 ce+2:152 d0+2:2013 d2+2:201c d4+2:2018 d6:f7
    d7:25ca d8:ff d9:178 da:2044 db:20ac dc+2:2039 de+2:21a e0:2021 e1:b7 e2:201a e3:201e e4:2030
    e5:c2 e6:ca e7:c1 e8:cb e9:c8 ea+3:cd ed:cc ee+2:d3 f0:f8ff f1:d2 f2+2:da f4:d9 f5:131 f6:2c6
    f7:2dc f8:af f9+3:2d8 fc:b8 fd:2dd fe:2db ff:2c7"

/-- Macintosh, Turkish. -/
def macTurkishPage : CodePage := CharMap.ofText
  "80+2:c4 82+2:c7*2 84:d1 85:d6 86:dc 87:e1 88+3:e0*2 8b+4:e3*2 8f+2:e8*2 91+2:eb*2 93+2:ec*2
    95+3:ef*2 98+3:f2*2 9b:f5 9c:fa 9d+2:f9*2 9f:fc a0:2020 a1:b0 a4:a7 a5:2022 a6:b6 a7:df a8:ae
    aa:2122 ab:b4 ac:a8 ad:2260 ae:c6 af:d8 b0:221e b2+2:2264 b4:a5 b6:2202 b7:2211 b8:220f b9:3c0
    ba:222b bb:aa bc:ba bd:3a9 be:e6 bf:f8 c0:bf c1:a1 c2:ac c3:221a c4:192 c5:2248 c6:2206 c7:ab
    c8:bb c9:2026 ca:a0 cb+2:c0*3 cd:d5 ce+2:152 d0+2:2013 d2+2:201c d4+2:2018 d6:f7 d7:25ca d8:ff
    d9:178 da+2:11e dc+2:130 de+2:15e e0:2021 e1:b7 e2:201a e3:201e e4:2030 e5:c2 e6:ca e7:c1
    e8:cb e9:c8 ea+3:cd ed:cc ee+2:d3 f0:f8ff f1:d2 f2+2:da f4:d9 f5:f8a0 f6:2c6 f7:2dc f8:af
    f9+3:2d8 fc:b8 fd:2dd fe:2db ff:2c7"

end Bindery.Text
