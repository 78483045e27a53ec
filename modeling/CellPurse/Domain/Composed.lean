import CellPurse.Domain.Marks

/-!
# CellPurse.Domain.Composed — one way to write a letter with marks

A letter with a mark may be one character or two.  In the composed form it is one where there is one, and marks behind
a letter stand in the order of their classes.  The tables hold the pairs of the allowed characters (Unicode 14).

* `Composed.join?`, `Composed.split?`: the character that two make, and the two that make one;
* `Composed.parts`, `Composed.ordered`, `Composed.joined`: a text taken apart, its marks in order, and put together;
* `Composed.isComposed`: taking a text apart and putting it together changes nothing.
-/

namespace CellPurse.Domain.Composed

/-- A mark, then letters and what they become with it, in turn. -/
def letters : List (Nat × String) :=
  [(0x300, "aàeèiìoòuùüǜnǹеѐиѝēḕōṑwẁâầăằêềôồơờưừyỳἀἂἁἃἐἒἑἓἠἢἡἣἰἲἱἳὀὂὁὃὐὒὑὓὠὢὡὣαὰεὲηὴιὶοὸυὺωὼϊῒϋῢ"),
   (0x301, "aáeéiíoóuúyýcćlĺnńrŕsśzźüǘgǵåǻæǽøǿϊΐαάεέηήιίϋΰοόυύωώгѓкќçḉēḗïḯkḱmḿõṍōṓpṕũṹwẃâấăắêếôốơớưứἀἄἁἅἐἔἑἕἠἤἡἥ" ++
     "ἰἴἱἵὀὄὁὅὐὔὑὕὠὤὡὥ"),
   (0x302, "aâeêiîoôuûcĉgĝhĥjĵsŝwŵyŷzẑạậẹệọộ"),
   (0x303, "aãnñoõiĩuũvṽâẫăẵeẽêễôỗơỡưữyỹ"),
   (0x304, "aāeēiīoōuūüǖäǟȧǡæǣǫǭöȫõȭȯȱyȳиӣуӯgḡḷḹṛṝαᾱιῑυῡ"),
   (0x306, "aăeĕgğiĭoŏuŭийуўжӂаӑеӗȩḝạặαᾰιῐυῠ"),
   (0x307, "cċeėgġzżaȧoȯbḃdḋfḟhḣmṁnṅpṗrṙsṡśṥšṧṣṩtṫwẇxẋyẏ"),
   (0x308, "aäeëiïoöuüyÿιϊυϋеёіїаӓәӛжӝзӟиӥоӧөӫэӭуӱчӵыӹhḧõṏūṻwẅxẍtẗ"),
   (0x309, "aảâẩăẳeẻêểiỉoỏôổơởuủưửyỷ"),
   (0x30A, "aåuůwẘyẙ"),
   (0x30B, "oőuűуӳ"),
   (0x30C, "cčdďeělľnňrřsštťzžaǎiǐoǒuǔüǚgǧkǩʒǯjǰhȟ"),
   (0x30F, "aȁeȅiȉoȍrȑuȕѵѷ"),
   (0x311, "aȃeȇiȋoȏrȓuȗ"),
   (0x313, "αἀεἐηἠιἰοὀυὐωὠρῤ"),
   (0x314, "αἁεἑηἡιἱοὁυὑωὡρῥ"),
   (0x31B, "oơuư"),
   (0x323, "bḅdḍhḥkḳlḷmṃnṇrṛsṣtṭvṿwẉzẓaạeẹiịoọơợuụưựyỵ"),
   (0x324, "uṳ"),
   (0x325, "aḁ"),
   (0x326, "sștț"),
   (0x327, "cçgģkķlļnņrŗsştţeȩdḑhḩ"),
   (0x328, "aąeęiįuųoǫ"),
   (0x32D, "dḓeḙlḽnṋtṱuṷ"),
   (0x32E, "hḫ"),
   (0x330, "eḛiḭuṵ"),
   (0x331, "bḇdḏkḵlḻnṉrṟtṯzẕhẖ"),
   (0x342, "ἀἆἁἇἠἦἡἧἰἶἱἷὐὖὑὗὠὦὡὧαᾶηῆιῖϊῗυῦϋῧωῶ"),
   (0x93C, "नऩरऱळऴ"),
   (0x102E, "ဥဦ"),
   (0x3099, "かがきぎくぐけげこごさざしじすずせぜそぞただちぢつづてでとどはばひびふぶへべほぼうゔゝゞカガキギクグケゲコゴサザシジスズセゼソゾタダチヂツヅテデトドハバヒビフブヘベホボウヴワヷヰヸヱヹヲヺヽヾ"),
   (0x309A, "はぱひぴふぷへぺほぽハパヒピフプヘペホポ")]

/-- Characters with the marks that they join, and what becomes of both. -/
def others : List (Nat × Nat × Nat) :=
  [(0x627, 0x653, 0x622), (0x627, 0x654, 0x623), (0x648, 0x654, 0x624), (0x64A, 0x654, 0x626), (0x6D5, 0x654, 0x6C0),
   (0x6C1, 0x654, 0x6C2), (0x6D2, 0x654, 0x6D3), (0x627, 0x655, 0x625), (0x9C7, 0x9BE, 0x9CB), (0x9C7, 0x9D7, 0x9CC),
   (0xB47, 0xB3E, 0xB4B), (0xB47, 0xB56, 0xB48), (0xB47, 0xB57, 0xB4C), (0xBC6, 0xBBE, 0xBCA), (0xBC7, 0xBBE, 0xBCB),
   (0xB92, 0xBD7, 0xB94), (0xBC6, 0xBD7, 0xBCC), (0xC46, 0xC56, 0xC48), (0xCC6, 0xCC2, 0xCCA), (0xCBF, 0xCD5, 0xCC0),
   (0xCC6, 0xCD5, 0xCC7), (0xCCA, 0xCD5, 0xCCB), (0xCC6, 0xCD6, 0xCC8), (0xD46, 0xD3E, 0xD4A), (0xD47, 0xD3E, 0xD4B),
   (0xD46, 0xD57, 0xD4C), (0xDD9, 0xDCA, 0xDDA), (0xDDC, 0xDCA, 0xDDD), (0xDD9, 0xDCF, 0xDDC), (0xDD9, 0xDDF, 0xDDE),
   (0x1B05, 0x1B35, 0x1B06), (0x1B07, 0x1B35, 0x1B08), (0x1B09, 0x1B35, 0x1B0A), (0x1B0B, 0x1B35, 0x1B0C),
   (0x1B0D, 0x1B35, 0x1B0E), (0x1B11, 0x1B35, 0x1B12), (0x1B3A, 0x1B35, 0x1B3B), (0x1B3C, 0x1B35, 0x1B3D),
   (0x1B3E, 0x1B35, 0x1B40), (0x1B3F, 0x1B35, 0x1B41), (0x1B42, 0x1B35, 0x1B43), (0x11099, 0x110BA, 0x1109A),
   (0x1109B, 0x110BA, 0x1109C), (0x110A5, 0x110BA, 0x110AB), (0x11131, 0x11127, 0x1112E), (0x11132, 0x11127, 0x1112F),
   (0x11347, 0x1133E, 0x1134B), (0x11347, 0x11357, 0x1134C), (0x114B9, 0x114B0, 0x114BC), (0x114B9, 0x114BA, 0x114BB),
   (0x114B9, 0x114BD, 0x114BE), (0x115B8, 0x115AF, 0x115BA), (0x115B9, 0x115AF, 0x115BB), (0x11935, 0x11930, 0x11938)]

/-- The pairs of a text in which letters and what they become take turns. -/
def turns (mark : Nat) : List Char → List (Nat × Nat × Nat)
  | a :: c :: r => (a.toNat, mark, c.toNat) :: turns mark r
  | _ => []

/-- Two characters, and the one that they make. -/
def table : List (Nat × Nat × Nat) := letters.flatMap (fun l => turns l.1 l.2.toList) ++ others

/-- The character that two make. -/
def join? (a b : Char) : Option Char :=
  (table.find? fun (x, y, _) => x = a.toNat && y = b.toNat).map fun (_, _, z) => Char.ofNat z

/-- The two characters that make one. -/
def split? (c : Char) : Option (Char × Char) :=
  (table.find? fun (_, _, z) => z = c.toNat).map fun (x, y, _) => (Char.ofNat x, Char.ofNat y)

/-- How many marks a character holds at most. -/
def most : Nat := 3

/-- A character taken apart as often as the number says. -/
def partsOf : Nat → Char → List Char
  | 0, c => [c]
  | n + 1, c =>
    match split? c with
    | some (a, b) => partsOf n a ++ [b]
    | none => [c]

/-- A text taken apart. -/
def parts (cs : List Char) : List Char := cs.flatMap (partsOf most)

/-- Puts a character in front of a text in order: a mark goes behind the marks of lower classes. -/
def place (c : Char) : List Char → List Char
  | [] => [c]
  | d :: r =>
    if Marks.order d ≠ 0 ∧ Marks.order d < Marks.order c then d :: place c r else c :: d :: r

/-- The marks of a text in order. -/
def ordered (cs : List Char) : List Char := cs.foldr place []

/-- A text put together: `base` is the last character that marks may join, `kept` the marks behind it that did not,
the last first.  A mark joins only when no mark of its class or a higher one is between. -/
def joinedAfter (base : Char) (kept : List Char) : List Char → List Char
  | [] => base :: kept.reverse
  | c :: r =>
    let free := kept.all fun k => Marks.order k < Marks.order c
    match if free then join? base c else none with
    | some whole => joinedAfter whole kept r
    | none =>
      if Marks.order c = 0 then base :: (kept.reverse ++ joinedAfter c [] r) else joinedAfter base (c :: kept) r

/-- A text put together. -/
def joined : List Char → List Char
  | [] => []
  | c :: r => joinedAfter c [] r

/-- The text is in the composed form. -/
def isComposed (cs : List Char) : Bool := joined (ordered (parts cs)) = cs

end CellPurse.Domain.Composed
