import HiveScript.Encoding.Grid.Big5
import HiveScript.Encoding.Grid.Gb2312

/-!
# Encodings of Chinese

Those of simplified Chinese extend the grid of GB 2312: GBK by all ideographs that Unicode had
first, GB 18030 by all points. Those of traditional Chinese have the grid of Big5.

* `Chinese.gb2312Octets?`, `Chinese.gbkOctets?`, `Chinese.gb18030Octets?`, `Chinese.big5Octets?`,
  `Chinese.windowsOctets?`: the octets of a point.
-/

namespace HiveScript.Chinese

def ascii? (p : Point) : Option Bytes :=
  if p.val < 0x80 then some [UInt8.ofNat p.val] else none

/-! ## GB 2312 -/

def gb2312Octets? (p : Point) : Option Bytes := ascii? p <|> Grid.gb2312.octets? .wide p

/-! ## GBK -/

/-- All pairs of octets. -/
def gbkFrame : Frame := ⟨[(0x81, 0xFE)], [(0x40, 0x7E), (0x80, 0xFE)]⟩

/-- The pairs before the grid. -/
def beforeGrid : Frame := ⟨[(0x81, 0xA0)], [(0x40, 0x7E), (0x80, 0xFE)]⟩

/-- The pairs in the later rows of the grid that are not in it. -/
def besideGrid : Frame := ⟨[(0xAA, 0xFE)], [(0x40, 0x7E), (0x80, 0xA0)]⟩

/-- Points of the grid of GB 2312 that GBK puts elsewhere or leaves out. -/
def displaced : Text := [0x2015, 0x30FB]

/-- The signs and the compatible ideographs that GBK adds to the grid. -/
def gbkSigns : Grid := .ofRuns gbkFrame [
  (0xA1A4, "·"), (0xA1AA, "—"), (0xA2A1, "ⅰⅱⅲⅳⅴⅵⅶⅷⅸⅹ"), (0xA6E0, "︵︶︹︺︿﹀︽︾﹁﹂﹃﹄"), (0xA6EE, "︻︼︷︸︱"),
  (0xA6F4, "︳︴"), (0xA840, "ˊˋ˙–―‥‵℅℉↖↗↘↙∕∟∣≒≦≧⊿═║╒╓╔╕╖╗╘╙╚╛╜╝╞╟╠╡╢╣╤╥╦╧╨╩╪╫╬╭╮╯╰╱╲╳"),
  (0xA878, "▁▂▃▄▅▆▇█▉▊▋▌▍▎▏▓▔▕▼▽◢◣◤◥☉⊕〒〝〞"), (0xA8BB, "ɑ"), (0xA8BD, "ńň"), (0xA8C0, "ɡ"),
  (0xA940, "〡〢〣〤〥〦〧〨〩㊣㎎㎏㎜㎝㎞㎡㏄㏎㏑㏒㏕︰￢￤"), (0xA959, "℡㈱"), (0xA95C, "‐"),
  (0xA960, "ー゛゜ヽヾ〆ゝゞ﹉﹊﹋﹌﹍﹎﹏﹐﹑﹒﹔﹕﹖﹗﹙﹚﹛﹜﹝﹞﹟﹠﹡﹢﹣﹤﹥﹦﹨﹩﹪﹫"),
  (0xA996, "〇"), (0xFD9C, "\uf92c\uf979\uf995\uf9e7\uf9f1"),
  (0xFE40, "\ufa0c\ufa0d﨎﨏﨑﨓﨔\ufa18﨟\ufa20﨡﨣﨤﨧﨨﨩")]

def isIdeograph (p : Point) : Bool := 0x4E00 ≤ p.val && p.val ≤ 0x9FA5

/-- The octets of the ideograph that has `i` others before it outside the grid. -/
def restOctets (i : Nat) : Bytes :=
  let n := beforeGrid.leads.count * beforeGrid.trails.count
  if i < n then beforeGrid.octets i else besideGrid.octets (i - n)

/-- How many ideographs before a point are outside the grid. -/
def restBefore (p : Point) : Nat :=
  p.val - 0x4E00 - (Grid.gb2312.points.filter fun q => isIdeograph q && q.val < p.val).length

def gbkOctets? (p : Point) : Option Bytes :=
  ascii? p
    <|> (if displaced.contains p then none else Grid.gb2312.octets? .wide p)
    <|> gbkSigns.octets? gbkFrame p
    <|> (if isIdeograph p then some (restOctets (restBefore p)) else none)

/-! ## GB 18030 -/

/-- Pairs that GBK leaves free. They have points of users in their order, but for some that have
got characters since. -/
def freeRuns : List (Nat × String) := [
  (0xA2AB, "������"), (0xA2E3, "€�"), (0xA2EF, "��"), (0xA2FD, "��"), (0xA4F4, "�����������"),
  (0xA5F7, "��������"), (0xA6B9, "��������"), (0xA6D9, "�������"), (0xA6EC, "��"), (0xA6F3, "�"),
  (0xA6F6, "���������"), (0xA7C2, "���������������"), (0xA7F2, "�������������"),
  (0xA896, "�����������"), (0xA8BC, "�"), (0xA8BF, "ǹ"), (0xA8C1, "����"),
  (0xA8EA, "���������������������"), (0xA958, "�"), (0xA95B, "�"), (0xA95D, "���"),
  (0xA989, "〾⿰⿱⿲⿳⿴⿵⿶⿷⿸⿹⿺⿻"), (0xA997, "�������������"), (0xA9F0, "���������������"),
  (0xD7FA, "�����"),
  (0xFE50, "⺁���⺄㑳㑇⺈⺋�㖞㘚㘎⺌⺗㥮㤘�㧏㧟㩳㧐��㭎㱮㳠⺧��⺪䁖䅟⺮䌷⺳⺶⺷�䎱䎬⺻"),
  (0xFE7A, "䏝䓖䙡䙌�䜣䜩䝼䞍⻊䥇䥺䥽䦂䦃䦅䦆䦟䦛䦷䦶��䲣䲟䲠䲡䱷䲢䴓䴔䴕䴖䴗䴘䴙䶮�")]

/-- The point of users at a place in the free pairs. -/
def userPoint (i : Nat) : Point := Point.ofNat (0xE766 + i)

/-- Each free pair has its character or else the point of users at its place. -/
def settle (i : Nat) : List (Nat × List (Option Point)) → List (Nat × List (Option Point))
  | [] => []
  | (first, points) :: blocks =>
    (first, points.mapIdx fun k p => some (p.getD (userPoint (i + k)))) ::
      settle (i + points.length) blocks

/-- The free pairs with their points. -/
def free : Grid := ⟨settle 0 (Grid.ofRuns gbkFrame freeRuns).blocks⟩

/-- Three blocks of points of users, with the frames that they stand in. -/
def userBlocks : List (Nat × Nat × Frame) := [
  (0xE000, 0xE233, ⟨[(0xAA, 0xAF)], [(0xA1, 0xFE)]⟩),
  (0xE234, 0xE4C5, ⟨[(0xF8, 0xFE)], [(0xA1, 0xFE)]⟩),
  (0xE4C6, 0xE765, ⟨[(0xA1, 0xA7)], [(0x40, 0x7E), (0x80, 0xA0)]⟩)]

def userOctets? (p : Point) : Option Bytes :=
  userBlocks.findSome? fun (first, last, frame) => (p.placeIn? first last).map frame.octets

def pair? (p : Point) : Option Bytes :=
  gbkOctets? p <|> free.octets? gbkFrame p <|> userOctets? p

/-- How many of some points stand before a point. -/
def countBefore (p : Point) (s : Text) : Nat := (s.filter fun q => q.val < p.val).length

/-- How many points of a run stand before a point. -/
def runBefore (p : Point) (first last : Nat) : Nat := min p.val (last + 1) - min p.val first

/-- How many points before one that is not ASCII have pairs of octets. -/
def pairsBefore (p : Point) : Nat :=
  countBefore p (Grid.gb2312.points.filter fun q => !isIdeograph q && !displaced.contains q) +
    countBefore p gbkSigns.points + runBefore p 0x4E00 0x9FA5 +
    countBefore p free.points + runBefore p 0xE000 0xE765

/-- Four octets for a number. -/
def four (n : Nat) : Bytes :=
  [UInt8.ofNat (0x81 + n / 12600), UInt8.ofNat (0x30 + n / 1260 % 10),
    UInt8.ofNat (0x81 + n / 10 % 126), UInt8.ofNat (0x30 + n % 10)]

/-- The number of a point that has no pair: those of the first plane in their order, and then the
other planes from a number of their own on. -/
def fourNumber (p : Point) : Nat :=
  if p.val < 0x10000 then p.val - 0x80 - runBefore p 0xD800 0xDFFF - pairsBefore p
  else 189000 + (p.val - 0x10000)

def gb18030Octets? (p : Point) : Option Bytes :=
  if p.isSurrogate then none else ascii? p <|> pair? p <|> some (four (fourNumber p))

/-! ## Big5 -/

def big5Frame : Frame := ⟨[(0xA1, 0xFE)], [(0x40, 0x7E), (0xA1, 0xFE)]⟩

def big5Octets? (p : Point) : Option Bytes := ascii? p <|> Grid.big5.octets? big5Frame p

/-- What Windows puts elsewhere or adds. -/
def windowsSigns : Grid := .ofRuns big5Frame [
  (0xA145, "‧"), (0xA14E, "﹑"), (0xA1C2, "¯"), (0xA1E3, "～"), (0xA1F2, "⊕⊙"), (0xA1FE, "／＼∕﹨"),
  (0xA244, "￥"), (0xA246, "￠￡"), (0xA3E1, "€"), (0xF9D6, "碁銹裏墻恒粧嫺╔╦╗╠╬╣╚╩╝╒╤╕"),
  (0xF9EC, "╘╧╛╓╥╖╟╫╢╙╨╜║"), (0xF9FE, "▓")]

def windowsOctets? (p : Point) : Option Bytes :=
  ascii? p <|> windowsSigns.octets? big5Frame p <|> Grid.big5.octets? big5Frame p

end HiveScript.Chinese
