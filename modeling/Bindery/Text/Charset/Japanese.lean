import Bindery.Text.Charset.JisX0208
import Bindery.Text.Charset.JisX0212
import Bindery.Text.Charset.JisX0213

/-!
# Japanese encodings

EUC and Shift JIS arrange the rows of the same grids in different ways: EUC in pairs of large bytes,
Shift JIS two rows to a first byte. Both have half-width letters besides.
-/
namespace Bindery.Text

/-- The half-width letter for a byte. -/
def halfWidth? (b : Nat) : Option Char :=
  if 0xa1 ≤ b ∧ b ≤ 0xdf then some (Char.ofNat (0xfec0 + b)) else none

/-- The editions of JIS X 0213. -/
inductive JisEdition where
  | of2000
  | of2004
  deriving DecidableEq, Repr

/-- The places of the first plane that the second edition fills. -/
def filledIn2004 : List (Nat × Nat) := [(0x2e, 0x21), (0x2f, 0x7e), (0x4f, 0x54), (0x4f, 0x7e), (0x74, 0x27),
  (0x7e, 0x7a), (0x7e, 0x7b), (0x7e, 0x7c), (0x7e, 0x7d), (0x7e, 0x7e)]

/-- The places of the first plane that hold two characters. -/
def firstPlaneTexts : CharTexts := CharTexts.ofText
  "2477:304b,309a 2478:304d,309a 2479:304f,309a 247a:3051,309a 247b:3053,309a 2577:30ab,309a
    2578:30ad,309a 2579:30af,309a 257a:30b1,309a 257b:30b3,309a 257c:30bb,309a 257d:30c4,309a
    257e:30c8,309a 2678:31f7,309a 2b44:e6,300 2b48:254,300 2b49:254,301 2b4a:28c,300 2b4b:28c,301
    2b4c:259,300 2b4d:259,301 2b4e:25a,300 2b4f:25a,301 2b65:2e9,2e5 2b66:2e5,2e9"

/-- The text at a place of the first plane of JIS X 0213. -/
def firstPlane? (edition : JisEdition) (row column : Nat) : Option (List Char) :=
  if edition = .of2000 ∧ filledIn2004.contains (row, column) then none
  else match jisX0208Grid.pair? row column with
    | some c => some [c]
    | none =>
      match jisX0213FirstGrid.pair? row column with
      | some c => some [c]
      | none => firstPlaneTexts.find? (Char.ofNat (256 * row + column))

/-- The character at a place of the second plane of JIS X 0213, one of which the second edition
changes. -/
def secondPlane? (edition : JisEdition) (row column : Nat) : Option Char :=
  if edition = .of2000 ∧ row = 0x7d ∧ column = 0x3b then some (Char.ofNat 0x9b1d)
  else jisX0213SecondGrid.pair? row column

/-- What a pair of bytes for a place of the first plane stands for. Where only the second edition
has a character, both bytes mean nothing in the first one. -/
def foundFirstPlane (edition : JisEdition) (row column : Nat) : Found :=
  match firstPlane? edition row column with
  | some text => .chars text 2
  | none => .nothing (if filledIn2004.contains (row, column) then 2 else 1)

/-! ## EUC -/

/-- Read a character of an EUC, given its pairs and its groups of three bytes. -/
def foundEuc (pair : Nat → Nat → Found) (group? : Nat → Nat → Option Char) :
    List UInt8 → Found
  | [] => .cut
  | a :: rest =>
    let m := a.toNat
    if m < 128 then .chars [Char.ofNat m] 1
    else match rest with
      | [] => .cut
      | b :: more =>
        -- two lead bytes switch for one character, to the half-width letters and to the second set
        if m = 0x8e then .ofChar? (halfWidth? b.toNat) 2
        else if m = 0x8f then
          match more with
          | [] => .cut
          | c :: _ =>
            if 128 ≤ b.toNat ∧ 128 ≤ c.toNat then .ofChar? (group? (b.toNat - 128) (c.toNat - 128)) 3
            else .nothing 1
        else if 128 ≤ b.toNat then pair (m - 128) (b.toNat - 128)
        else .nothing 1

def foundEucJp : List UInt8 → Found :=
  foundEuc (fun row column => .ofChar? (jisX0208Grid.pair? row column) 2) jisX0212Grid.pair?

/-- Read a character of EUC with JIS X 0213; its groups of three bytes go on with JIS X 0212. -/
def foundEucJis (edition : JisEdition) : List UInt8 → Found :=
  foundEuc
    (fun row column =>
      if row = 0x22 ∧ column = 0x32 then .chars [Char.ofNat 0xff5e] 2
      else foundFirstPlane edition row column)
    (fun row column => match secondPlane? edition row column with
      | some c => some c
      | none => jisX0212Grid.pair? row column)

/-! ## Shift JIS -/

/-- The row, counted from zero, and the column for two bytes. -/
def shiftPlace? (a b : Nat) : Option (Nat × Nat) :=
  if ((0x81 ≤ a ∧ a ≤ 0x9f) ∨ (0xe0 ≤ a ∧ a ≤ 0xfc)) ∧ 0x40 ≤ b ∧ b ≤ 0xfc ∧ b ≠ 0x7f then
    let pair := if a < 0xe0 then a - 0x81 else a - 0xc1
    let place := if b < 0x80 then b - 0x40 else b - 0x41
    some (2 * pair + place / 94, place % 94 + 33)
  else none

/-- Is a byte the first one of a pair? -/
def isShiftLead (n : Nat) : Bool := (0x81 ≤ n && n ≤ 0x9f) || (0xe0 ≤ n && n ≤ 0xfc)

/-- Read a character of Shift JIS, given the characters of single bytes and of pairs. -/
def foundShifted (single? : Nat → Option Char) (isLead : Nat → Bool)
    (pair : Nat → Nat → Found) : List UInt8 → Found
  | [] => .cut
  | a :: rest =>
    match single? a.toNat with
    | some c => .chars [c] 1
    | none =>
      if isLead a.toNat then
        match rest with
        | [] => .cut
        | b :: _ => pair a.toNat b.toNat
      else .nothing 1

def shiftSingle? (n : Nat) : Option Char := if n < 128 then some (Char.ofNat n) else halfWidth? n

def shiftPair? (a b : Nat) : Option Char := do
  let (row, column) ← shiftPlace? a b
  jisX0208Grid.pair? (row + 33) column

def foundShiftJis : List UInt8 → Found :=
  foundShifted shiftSingle? isShiftLead fun a b => .ofChar? (shiftPair? a b) 2

/-- The character of code page 932 for a single byte. -/
def page932Single? (n : Nat) : Option Char :=
  if n ≤ 0x80 then some (Char.ofNat n)
  else if n = 0xa0 then some (Char.ofNat 0xf8f0)
  else if 0xfd ≤ n then some (Char.ofNat (0xf8f1 + (n - 0xfd)))
  else halfWidth? n

/-- The signs that code page 932 changes. -/
def page932Signs : CharMap := CharMap.ofText "8160:ff5e 8161:2225 817c:ff0d 8191:ffe0 8192:ffe1 81ca:ffe2"

/-- The row of signs that makers added. -/
def makerSignGrid : CharGrid := CharGrid.ofText 0x87 "
①②③④⑤⑥⑦⑧⑨⑩⑪⑫⑬⑭⑮⑯⑰⑱⑲⑳ⅠⅡⅢⅣⅤⅥⅦⅧⅨⅩ�㍉㌔㌢㍍㌘㌧㌃㌶㍑㍗㌍㌦㌣㌫㍊㌻㎜㎝㎞㎎㎏㏄㎡��������㍻〝〟№㏍℡㊤㊥㊦㊧㊨㈱㈲㈹㍾㍽㍼≒≡∫∮∑√⊥∠∟⊿∵∩∪"

/-- Two rows of characters that makers added. -/
def makerGrid : CharGrid := CharGrid.ofText 0xed "
纊褜鍈銈蓜俉炻昱棈鋹曻彅丨仡仼伀伃伹佖侒侊侚侔俍偀倢俿倞偆偰偂傔僴僘兊兤冝冾凬刕劜劦勀勛匀匇匤卲厓厲叝﨎咜咊咩哿喆坙坥垬埈埇﨏塚增墲夋奓奛奝奣妤妺孖寀甯寘寬尞岦岺峵崧嵓﨑嵂嵭嶸嶹巐弡弴彧德忞恝悅悊惞惕愠惲愑愷愰憘戓抦揵摠撝擎敎昀昕昻昉昮昞昤晥晗晙晴晳暙暠暲暿曺朎朗杦枻桒柀栁桄棏﨓楨﨔榘槢樰橫橆橳橾櫢櫤毖氿汜沆汯泚洄涇浯涖涬淏淸淲淼渹湜渧渼溿澈澵濵瀅瀇瀨炅炫焏焄煜煆煇凞燁燾犱
犾猤猪獷玽珉珖珣珒琇珵琦琪琩琮瑢璉璟甁畯皂皜皞皛皦益睆劯砡硎硤硺礰礼神祥禔福禛竑竧靖竫箞精絈絜綷綠緖繒罇羡羽茁荢荿菇菶葈蒴蕓蕙蕫﨟薰蘒﨡蠇裵訒訷詹誧誾諟諸諶譓譿賰賴贒赶﨣軏﨤逸遧郞都鄕鄧釚釗釞釭釮釤釥鈆鈐鈊鈺鉀鈼鉎鉙鉑鈹鉧銧鉷鉸鋧鋗鋙鋐﨧鋕鋠鋓錥錡鋻﨨錞鋿錝錂鍰鍗鎤鏆鏞鏸鐱鑅鑈閒隆﨩隝隯霳霻靃靍靏靑靕顗顥飯飼餧館馞驎髙髜魵魲鮏鮱鮻鰀鵰鵫鶴鸙黑��ⅰⅱⅲⅳⅴⅵⅶⅷⅸⅹ￢￤＇＂"

/-- The same characters once more, with signs, in rows behind those for private use. -/
def laterMakerGrid : CharGrid := CharGrid.ofText 0xfa "
ⅰⅱⅲⅳⅴⅵⅶⅷⅸⅹⅠⅡⅢⅣⅤⅥⅦⅧⅨⅩ￢￤＇＂㈱№℡∵纊褜鍈銈蓜俉炻昱棈鋹曻彅丨仡仼伀伃伹佖侒侊侚侔俍偀倢俿倞偆偰偂傔僴僘兊兤冝冾凬刕劜劦勀勛匀匇匤卲厓厲叝﨎咜咊咩哿喆坙坥垬埈埇﨏塚增墲夋奓奛奝奣妤妺孖寀甯寘寬尞岦岺峵崧嵓﨑嵂嵭嶸嶹巐弡弴彧德忞恝悅悊惞惕愠惲愑愷愰憘戓抦揵摠撝擎敎昀昕昻昉昮昞昤晥晗晙晴晳暙暠暲暿曺朎朗杦枻桒柀栁桄棏﨓楨﨔榘槢樰橫橆橳橾櫢櫤毖氿汜沆汯泚洄涇浯
涖涬淏淸淲淼渹湜渧渼溿澈澵濵瀅瀇瀨炅炫焏焄煜煆煇凞燁燾犱犾猤猪獷玽珉珖珣珒琇珵琦琪琩琮瑢璉璟甁畯皂皜皞皛皦益睆劯砡硎硤硺礰礼神祥禔福禛竑竧靖竫箞精絈絜綷綠緖繒罇羡羽茁荢荿菇菶葈蒴蕓蕙蕫﨟薰蘒﨡蠇裵訒訷詹誧誾諟諸諶譓譿賰賴贒赶﨣軏﨤逸遧郞都鄕鄧釚釗釞釭釮釤釥鈆鈐鈊鈺鉀鈼鉎鉙鉑鈹鉧銧鉷鉸鋧鋗鋙鋐﨧鋕鋠鋓錥錡鋻﨨錞鋿錝錂鍰鍗鎤鏆鏞鏸鐱鑅鑈閒隆﨩隝隯霳霻靃靍靏靑靕顗顥飯飼餧館馞驎髙
髜魵魲鮏鮱鮻鰀鵰鵫鶴鸙黑"

/-- The place of a second byte in a row of code page 932. -/
def page932Column? (b : Nat) : Option Nat :=
  if 0x40 ≤ b ∧ b ≤ 0x7e then some (b - 0x40)
  else if 0x80 ≤ b ∧ b ≤ 0xfc then some (b - 0x41)
  else none

/-- The character of code page 932 for two bytes; ten rows are for private use. -/
def page932Pair? (a b : Nat) : Option Char :=
  match page932Signs.find? (256 * a + b) with
  | some c => some c
  | none => do
    let column ← page932Column? b
    let found := [makerSignGrid, makerGrid, laterMakerGrid].findSome? fun grid => grid.find? a column
    if let some c := found then return c
    if 0xf0 ≤ a ∧ a ≤ 0xf9 then return Char.ofNat (0xe000 + 188 * (a - 0xf0) + column)
    shiftPair? a b

def foundPage932 : List UInt8 → Found :=
  foundShifted page932Single? (fun _ => true) fun a b => .ofChar? (page932Pair? a b) 2

/-- The character for a single byte of Shift JIS with JIS X 0213, where two signs are changed. -/
def shiftJisSingle? (n : Nat) : Option Char :=
  if n = 0x5c then some '¥' else if n = 0x7e then some '‾' else shiftSingle? n

/-- The row of the second plane for a row of Shift JIS behind the first plane. -/
def secondPlaneRow (row : Nat) : Nat :=
  if 0x67 ≤ row then row + 7 else if 0x63 ≤ row ∨ row = 0x5f then row - 0x37 else row - 0x3d

/-- What two bytes of Shift JIS with JIS X 0213 stand for. The backslash is a narrow one. -/
def foundShiftPair (edition : JisEdition) (a b : Nat) : Found :=
  match shiftPlace? a b with
  | none => .nothing 1
  | some (row, column) =>
    if row = 0 ∧ column = 0x40 then .chars ['\\'] 2
    else if row < 0x5e then foundFirstPlane edition (row + 33) column
    else .ofChar? (secondPlane? edition (secondPlaneRow row) column) 2

/-- Read a character of Shift JIS with JIS X 0213. -/
def foundShiftJisEdition (edition : JisEdition) : List UInt8 → Found :=
  foundShifted shiftJisSingle? isShiftLead (foundShiftPair edition)

end Bindery.Text
