import IngressMeter.Text.Ranges

/-!
The scripts that most texts are written in, with the characters that belong to each.
-/

namespace IngressMeter

inductive Script where
  | arabic
  | armenian
  | common
  | cyrillic
  | devanagari
  | georgian
  | greek
  | han
  | hangul
  | hebrew
  | hiragana
  | katakana
  | latin
  | thai
  deriving DecidableEq, Repr

namespace Script

def arabicRanges : Array (Nat × Nat) := #[
  (1536, 1540), (1542, 1547), (1549, 1562), (1564, 1566), (1568, 1599), (1601, 1610), (1622, 1647),
  (1649, 1756), (1758, 1791), (1872, 1919), (2160, 2193), (2199, 2273), (2275, 2303),
  (64336, 64829), (64832, 64975), (65008, 65023), (65136, 65140), (65142, 65276), (69216, 69246),
  (69314, 69319), (69328, 69336), (69370, 69375), (126464, 126467), (126469, 126495),
  (126497, 126498), (126500, 126500), (126503, 126503), (126505, 126514), (126516, 126519),
  (126521, 126521), (126523, 126523), (126530, 126530), (126535, 126535), (126537, 126537),
  (126539, 126539), (126541, 126543), (126545, 126546), (126548, 126548), (126551, 126551),
  (126553, 126553), (126555, 126555), (126557, 126557), (126559, 126559), (126561, 126562),
  (126564, 126564), (126567, 126570), (126572, 126578), (126580, 126583), (126585, 126588),
  (126590, 126590), (126592, 126601), (126603, 126619), (126625, 126627), (126629, 126633),
  (126635, 126651), (126704, 126705)]

def armenianRanges : Array (Nat × Nat) := #[
  (1329, 1366), (1369, 1418), (1421, 1423), (64275, 64279)]

def commonRanges : Array (Nat × Nat) := #[
  (0, 64), (91, 96), (123, 169), (171, 185), (187, 191), (215, 215), (247, 247), (697, 735),
  (741, 745), (748, 767), (884, 884), (894, 894), (901, 901), (903, 903), (1541, 1541),
  (1548, 1548), (1563, 1563), (1567, 1567), (1600, 1600), (1757, 1757), (2274, 2274), (2404, 2405),
  (3647, 3647), (4053, 4056), (4347, 4347), (5867, 5869), (5941, 5942), (6146, 6147), (6149, 6149),
  (7379, 7379), (7393, 7393), (7401, 7404), (7406, 7411), (7413, 7415), (7418, 7418), (8192, 8203),
  (8206, 8292), (8294, 8304), (8308, 8318), (8320, 8334), (8352, 8384), (8448, 8485), (8487, 8489),
  (8492, 8497), (8499, 8525), (8527, 8543), (8585, 8587), (8592, 9257), (9280, 9290), (9312, 10239),
  (10496, 11123), (11126, 11263), (11776, 11869), (12272, 12292), (12294, 12294), (12296, 12320),
  (12336, 12343), (12348, 12351), (12443, 12444), (12448, 12448), (12539, 12540), (12688, 12703),
  (12736, 12773), (12783, 12783), (12832, 12895), (12927, 13007), (13055, 13055), (13144, 13311),
  (19904, 19967), (42752, 42785), (42888, 42890), (43056, 43065), (43310, 43310), (43471, 43471),
  (43867, 43867), (43882, 43883), (64830, 64831), (65040, 65049), (65072, 65106), (65108, 65126),
  (65128, 65131), (65279, 65279), (65281, 65312), (65339, 65344), (65371, 65381), (65392, 65392),
  (65438, 65439), (65504, 65510), (65512, 65518), (65529, 65533), (65792, 65794), (65799, 65843),
  (65847, 65855), (65936, 65948), (66000, 66044), (66273, 66299), (113824, 113827),
  (117760, 118012), (118016, 118451), (118458, 118463), (118608, 118723), (118784, 119029),
  (119040, 119078), (119081, 119142), (119146, 119162), (119171, 119172), (119180, 119209),
  (119214, 119274), (119488, 119507), (119520, 119539), (119552, 119638), (119648, 119672),
  (119808, 119892), (119894, 119964), (119966, 119967), (119970, 119970), (119973, 119974),
  (119977, 119980), (119982, 119993), (119995, 119995), (119997, 120003), (120005, 120069),
  (120071, 120074), (120077, 120084), (120086, 120092), (120094, 120121), (120123, 120126),
  (120128, 120132), (120134, 120134), (120138, 120144), (120146, 120485), (120488, 120779),
  (120782, 120831), (126065, 126132), (126209, 126269), (126976, 127019), (127024, 127123),
  (127136, 127150), (127153, 127167), (127169, 127183), (127185, 127221), (127232, 127405),
  (127462, 127487), (127489, 127490), (127504, 127547), (127552, 127560), (127568, 127569),
  (127584, 127589), (127744, 128728), (128732, 128748), (128752, 128764), (128768, 128985),
  (128992, 129003), (129008, 129008), (129024, 129035), (129040, 129095), (129104, 129113),
  (129120, 129159), (129168, 129197), (129200, 129211), (129216, 129217), (129232, 129240),
  (129280, 129623), (129632, 129645), (129648, 129660), (129664, 129674), (129678, 129734),
  (129736, 129736), (129741, 129756), (129759, 129770), (129775, 129784), (129792, 129938),
  (129940, 130042), (917505, 917505), (917536, 917631)]

def cyrillicRanges : Array (Nat × Nat) := #[
  (1024, 1156), (1159, 1327), (7296, 7306), (7467, 7467), (7544, 7544), (11744, 11775),
  (42560, 42655), (65070, 65071), (122928, 122989), (123023, 123023)]

def devanagariRanges : Array (Nat × Nat) := #[
  (2304, 2384), (2389, 2403), (2406, 2431), (43232, 43263), (72448, 72457)]

def georgianRanges : Array (Nat × Nat) := #[
  (4256, 4293), (4295, 4295), (4301, 4301), (4304, 4346), (4348, 4351), (7312, 7354), (7357, 7359),
  (11520, 11557), (11559, 11559), (11565, 11565)]

def greekRanges : Array (Nat × Nat) := #[
  (880, 883), (885, 887), (890, 893), (895, 895), (900, 900), (902, 902), (904, 906), (908, 908),
  (910, 929), (931, 993), (1008, 1023), (7462, 7466), (7517, 7521), (7526, 7530), (7615, 7615),
  (7936, 7957), (7960, 7965), (7968, 8005), (8008, 8013), (8016, 8023), (8025, 8025), (8027, 8027),
  (8029, 8029), (8031, 8061), (8064, 8116), (8118, 8132), (8134, 8147), (8150, 8155), (8157, 8175),
  (8178, 8180), (8182, 8190), (8486, 8486), (43877, 43877), (65856, 65934), (65952, 65952),
  (119296, 119365)]

def hanRanges : Array (Nat × Nat) := #[
  (11904, 11929), (11931, 12019), (12032, 12245), (12293, 12293), (12295, 12295), (12321, 12329),
  (12344, 12347), (13312, 19903), (19968, 40959), (63744, 64109), (64112, 64217), (94178, 94179),
  (94192, 94198), (131072, 173791), (173824, 178205), (178208, 183981), (183984, 191456),
  (191472, 192093), (194560, 195101), (196608, 201546), (201552, 210041)]

def hangulRanges : Array (Nat × Nat) := #[
  (4352, 4607), (12334, 12335), (12593, 12686), (12800, 12830), (12896, 12926), (43360, 43388),
  (44032, 55203), (55216, 55238), (55243, 55291), (65440, 65470), (65474, 65479), (65482, 65487),
  (65490, 65495), (65498, 65500)]

def hebrewRanges : Array (Nat × Nat) := #[
  (1425, 1479), (1488, 1514), (1519, 1524), (64285, 64310), (64312, 64316), (64318, 64318),
  (64320, 64321), (64323, 64324), (64326, 64335)]

def hiraganaRanges : Array (Nat × Nat) := #[
  (12353, 12438), (12445, 12447), (110593, 110879), (110898, 110898), (110928, 110930),
  (127488, 127488)]

def katakanaRanges : Array (Nat × Nat) := #[
  (12449, 12538), (12541, 12543), (12784, 12799), (13008, 13054), (13056, 13143), (65382, 65391),
  (65393, 65437), (110576, 110579), (110581, 110587), (110589, 110590), (110592, 110592),
  (110880, 110882), (110933, 110933), (110948, 110951)]

def latinRanges : Array (Nat × Nat) := #[
  (65, 90), (97, 122), (170, 170), (186, 186), (192, 214), (216, 246), (248, 696), (736, 740),
  (7424, 7461), (7468, 7516), (7522, 7525), (7531, 7543), (7545, 7614), (7680, 7935), (8305, 8305),
  (8319, 8319), (8336, 8348), (8490, 8491), (8498, 8498), (8526, 8526), (8544, 8584),
  (11360, 11391), (42786, 42887), (42891, 42972), (42993, 43007), (43824, 43866), (43868, 43876),
  (43878, 43881), (64256, 64262), (65313, 65338), (65345, 65370), (67456, 67461), (67463, 67504),
  (67506, 67514), (122624, 122654), (122661, 122666)]

def thaiRanges : Array (Nat × Nat) := #[(3585, 3642), (3648, 3675)]

def ranges : Script → Array (Nat × Nat)
  | arabic => arabicRanges
  | armenian => armenianRanges
  | common => commonRanges
  | cyrillic => cyrillicRanges
  | devanagari => devanagariRanges
  | georgian => georgianRanges
  | greek => greekRanges
  | han => hanRanges
  | hangul => hangulRanges
  | hebrew => hebrewRanges
  | hiragana => hiraganaRanges
  | katakana => katakanaRanges
  | latin => latinRanges
  | thai => thaiRanges

def contains (script : Script) (code : Nat) : Bool := inRanges script.ranges code

def named? (name : String) : Option Script :=
  match name with
  | "arabic" | "arab" => some arabic
  | "armenian" | "armn" => some armenian
  | "common" | "zyyy" => some common
  | "cyrillic" | "cyrl" => some cyrillic
  | "devanagari" | "deva" => some devanagari
  | "georgian" | "geor" => some georgian
  | "greek" | "grek" => some greek
  | "han" | "hani" => some han
  | "hangul" | "hang" => some hangul
  | "hebrew" | "hebr" => some hebrew
  | "hiragana" | "hira" => some hiragana
  | "katakana" | "kana" => some katakana
  | "latin" | "latn" => some latin
  | "thai" => some thai
  | _ => none

end Script

end IngressMeter
