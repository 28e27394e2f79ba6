import JsonExpr.Text.Boundary

/-!
# Boundaries of scripts

Every character belongs to one script, and some are used in several.  For every script the table
lists the characters that belong to it, and those on which belonging to it and being used in it
differ: a character used in several scripts belongs to none of them, or to one.
-/

set_option autoImplicit false
set_option maxRecDepth 4000

namespace JsonExpr.Text

/-- A script. -/
structure Script where
  /-- The code of four letters and the long name, in lower case without separators. -/
  names : List String
  /-- The characters that belong to the script. -/
  own : Boundaries
  /-- Where the characters used in the script differ from those that belong to it. -/
  differing : Boundaries

namespace ScriptTable

/-- The script `Adlam`. -/
def adlam : Script where
  names := ["adlm", "adlam"]
  own := [
    125184, 125260, 125264, 125274, 125278, 125280]
  differing := [
    1567, 1568, 1600, 1601, 8271, 8272, 11841, 11842]

/-- The script `Ahom`. -/
def ahom : Script where
  names := ["ahom"]
  own := [
    71424, 71451, 71453, 71468, 71472, 71495]
  differing := []

/-- The script `Anatolian_Hieroglyphs`. -/
def anatolianHieroglyphs : Script where
  names := ["hluw", "anatolianhieroglyphs"]
  own := [
    82944, 83527]
  differing := []

/-- The script `Arabic`. -/
def arabic : Script where
  names := ["arab", "arabic"]
  own := [
    1536, 1541, 1542, 1548, 1549, 1563, 1564, 1567, 1568, 1600, 1601, 1611, 1622, 1648, 1649, 1757,
    1758, 1792, 1872, 1920, 2160, 2191, 2192, 2194, 2199, 2274, 2275, 2304, 64336, 64451, 64467,
    64830, 64832, 64912, 64914, 64968, 64975, 64976, 65008, 65024, 65136, 65141, 65142, 65277,
    69216, 69247, 69314, 69317, 69372, 69376, 126464, 126468, 126469, 126496, 126497, 126499,
    126500, 126501, 126503, 126504, 126505, 126515, 126516, 126520, 126521, 126522, 126523, 126524,
    126530, 126531, 126535, 126536, 126537, 126538, 126539, 126540, 126541, 126544, 126545, 126547,
    126548, 126549, 126551, 126552, 126553, 126554, 126555, 126556, 126557, 126558, 126559, 126560,
    126561, 126563, 126564, 126565, 126567, 126571, 126572, 126579, 126580, 126584, 126585, 126589,
    126590, 126591, 126592, 126602, 126603, 126620, 126625, 126628, 126629, 126634, 126635, 126652,
    126704, 126706]
  differing := [
    1548, 1549, 1563, 1564, 1567, 1568, 1600, 1601, 1611, 1622, 1648, 1649, 8271, 8272, 11841,
    11842, 64830, 64832, 66272, 66300]

/-- The script `Armenian`. -/
def armenian : Script where
  names := ["armn", "armenian"]
  own := [
    1329, 1367, 1369, 1419, 1421, 1424, 64275, 64280]
  differing := [
    776, 777]

/-- The script `Avestan`. -/
def avestan : Script where
  names := ["avst", "avestan"]
  own := [
    68352, 68406, 68409, 68416]
  differing := [
    183, 184, 11824, 11826]

/-- The script `Balinese`. -/
def balinese : Script where
  names := ["bali", "balinese"]
  own := [
    6912, 6989, 6990, 7040]
  differing := []

/-- The script `Bamum`. -/
def bamum : Script where
  names := ["bamu", "bamum"]
  own := [
    42656, 42744, 92160, 92729]
  differing := []

/-- The script `Bassa_Vah`. -/
def bassaVah : Script where
  names := ["bass", "bassavah"]
  own := [
    92880, 92910, 92912, 92918]
  differing := []

/-- The script `Batak`. -/
def batak : Script where
  names := ["batk", "batak"]
  own := [
    7104, 7156, 7164, 7168]
  differing := []

/-- The script `Bengali`. -/
def bengali : Script where
  names := ["beng", "bengali"]
  own := [
    2432, 2436, 2437, 2445, 2447, 2449, 2451, 2473, 2474, 2481, 2482, 2483, 2486, 2490, 2492, 2501,
    2503, 2505, 2507, 2511, 2519, 2520, 2524, 2526, 2527, 2532, 2534, 2559]
  differing := [
    700, 701, 2385, 2387, 2404, 2406, 7376, 7377, 7378, 7379, 7381, 7383, 7384, 7385, 7393, 7394,
    7402, 7403, 7405, 7406, 7410, 7411, 7413, 7416, 43249, 43250]

/-- The script `Bhaiksuki`. -/
def bhaiksuki : Script where
  names := ["bhks", "bhaiksuki"]
  own := [
    72704, 72713, 72714, 72759, 72760, 72774, 72784, 72813]
  differing := []

/-- The script `Bopomofo`. -/
def bopomofo : Script where
  names := ["bopo", "bopomofo"]
  own := [
    746, 748, 12549, 12592, 12704, 12736]
  differing := [
    711, 712, 713, 716, 729, 730, 12289, 12292, 12296, 12306, 12307, 12320, 12330, 12334, 12336,
    12337, 12343, 12344, 12539, 12540, 65093, 65095, 65377, 65382]

/-- The script `Brahmi`. -/
def brahmi : Script where
  names := ["brah", "brahmi"]
  own := [
    69632, 69710, 69714, 69750, 69759, 69760]
  differing := []

/-- The script `Braille`. -/
def braille : Script where
  names := ["brai", "braille"]
  own := [
    10240, 10496]
  differing := []

/-- The script `Buginese`. -/
def buginese : Script where
  names := ["bugi", "buginese"]
  own := [
    6656, 6684, 6686, 6688]
  differing := [
    43471, 43472]

/-- The script `Buhid`. -/
def buhid : Script where
  names := ["buhd", "buhid"]
  own := [
    5952, 5972]
  differing := [
    5941, 5943]

/-- The script `Canadian_Aboriginal`. -/
def canadianAboriginal : Script where
  names := ["cans", "canadianaboriginal"]
  own := [
    5120, 5760, 6320, 6390, 72368, 72384]
  differing := []

/-- The script `Carian`. -/
def carian : Script where
  names := ["cari", "carian"]
  own := [
    66208, 66257]
  differing := [
    183, 184, 8282, 8283, 8285, 8286, 11825, 11826]

/-- The script `Caucasian_Albanian`. -/
def caucasianAlbanian : Script where
  names := ["aghb", "caucasianalbanian"]
  own := [
    66864, 66916, 66927, 66928]
  differing := [
    772, 773, 817, 818, 862, 863]

/-- The script `Chakma`. -/
def chakma : Script where
  names := ["cakm", "chakma"]
  own := [
    69888, 69941, 69942, 69960]
  differing := [
    2534, 2544, 4160, 4170]

/-- The script `Cham`. -/
def cham : Script where
  names := ["cham"]
  own := [
    43520, 43575, 43584, 43598, 43600, 43610, 43612, 43616]
  differing := []

/-- The script `Cherokee`. -/
def cherokee : Script where
  names := ["cher", "cherokee"]
  own := [
    5024, 5110, 5112, 5118, 43888, 43968]
  differing := [
    768, 771, 772, 773, 779, 781, 803, 805, 816, 818]

/-- The script `Chorasmian`. -/
def chorasmian : Script where
  names := ["chrs", "chorasmian"]
  own := [
    69552, 69580]
  differing := []

/-- The script `Common`. -/
def common : Script where
  names := ["zyyy", "common"]
  own := [
    0, 65, 91, 97, 123, 170, 171, 186, 187, 192, 215, 216, 247, 248, 697, 736, 741, 746, 748, 768,
    884, 885, 894, 895, 901, 902, 903, 904, 1541, 1542, 1548, 1549, 1563, 1564, 1567, 1568, 1600,
    1601, 1757, 1758, 2274, 2275, 2404, 2406, 3647, 3648, 4053, 4057, 4347, 4348, 5867, 5870, 5941,
    5943, 6146, 6148, 6149, 6150, 7379, 7380, 7393, 7394, 7401, 7405, 7406, 7412, 7413, 7416, 7418,
    7419, 8192, 8204, 8206, 8293, 8294, 8305, 8308, 8319, 8320, 8335, 8352, 8385, 8448, 8486, 8487,
    8490, 8492, 8498, 8499, 8526, 8527, 8544, 8585, 8588, 8592, 9258, 9280, 9291, 9312, 10240,
    10496, 11124, 11126, 11158, 11159, 11264, 11776, 11870, 12272, 12293, 12294, 12295, 12296,
    12321, 12336, 12344, 12348, 12352, 12443, 12445, 12448, 12449, 12539, 12541, 12688, 12704,
    12736, 12774, 12783, 12784, 12832, 12896, 12927, 13008, 13055, 13056, 13144, 13312, 19904,
    19968, 42752, 42786, 42888, 42891, 43056, 43066, 43310, 43311, 43471, 43472, 43867, 43868,
    43882, 43884, 64830, 64832, 65040, 65050, 65072, 65107, 65108, 65127, 65128, 65132, 65279,
    65280, 65281, 65313, 65339, 65345, 65371, 65382, 65392, 65393, 65438, 65440, 65504, 65511,
    65512, 65519, 65529, 65534, 65792, 65795, 65799, 65844, 65847, 65856, 65936, 65949, 66000,
    66045, 66273, 66300, 113824, 113828, 117760, 118010, 118016, 118452, 118608, 118724, 118784,
    119030, 119040, 119079, 119081, 119143, 119146, 119163, 119171, 119173, 119180, 119210, 119214,
    119275, 119488, 119508, 119520, 119540, 119552, 119639, 119648, 119673, 119808, 119893, 119894,
    119965, 119966, 119968, 119970, 119971, 119973, 119975, 119977, 119981, 119982, 119994, 119995,
    119996, 119997, 120004, 120005, 120070, 120071, 120075, 120077, 120085, 120086, 120093, 120094,
    120122, 120123, 120127, 120128, 120133, 120134, 120135, 120138, 120145, 120146, 120486, 120488,
    120780, 120782, 120832, 126065, 126133, 126209, 126270, 126976, 127020, 127024, 127124, 127136,
    127151, 127153, 127168, 127169, 127184, 127185, 127222, 127232, 127406, 127462, 127488, 127489,
    127491, 127504, 127548, 127552, 127561, 127568, 127570, 127584, 127590, 127744, 128728, 128732,
    128749, 128752, 128765, 128768, 128887, 128891, 128986, 128992, 129004, 129008, 129009, 129024,
    129036, 129040, 129096, 129104, 129114, 129120, 129160, 129168, 129198, 129200, 129212, 129216,
    129218, 129280, 129620, 129632, 129646, 129648, 129661, 129664, 129674, 129679, 129735, 129742,
    129757, 129759, 129770, 129776, 129785, 129792, 129939, 129940, 130042, 917505, 917506, 917536,
    917632]
  differing := [
    183, 184, 700, 701, 711, 712, 713, 716, 717, 718, 727, 728, 729, 730, 884, 885, 1548, 1549,
    1563, 1564, 1567, 1568, 1600, 1601, 2404, 2406, 4347, 4348, 5867, 5870, 5941, 5943, 6146, 6148,
    6149, 6150, 7379, 7380, 7393, 7394, 7401, 7405, 7406, 7412, 7413, 7416, 7418, 7419, 8239, 8240,
    8271, 8272, 8282, 8283, 8285, 8286, 11799, 11800, 11824, 11826, 11836, 11837, 11841, 11842,
    11843, 11844, 12272, 12288, 12289, 12292, 12294, 12295, 12296, 12306, 12307, 12320, 12336,
    12342, 12343, 12344, 12348, 12352, 12443, 12445, 12448, 12449, 12539, 12541, 12688, 12704,
    12736, 12774, 12783, 12784, 12832, 12872, 12928, 12977, 12992, 13004, 13055, 13056, 13144,
    13169, 13179, 13184, 13280, 13311, 42752, 42760, 43056, 43066, 43310, 43311, 43471, 43472,
    64830, 64832, 65093, 65095, 65377, 65382, 65392, 65393, 65438, 65440, 65792, 65795, 65799,
    65844, 65847, 65856, 66273, 66300, 113824, 113828, 119648, 119666, 127568, 127570]

/-- The script `Coptic`. -/
def coptic : Script where
  names := ["copt", "coptic", "qaac"]
  own := [
    994, 1008, 11392, 11508, 11513, 11520]
  differing := [
    183, 184, 768, 769, 772, 774, 775, 776, 884, 886, 11799, 11800, 66272, 66300]

/-- The script `Cuneiform`. -/
def cuneiform : Script where
  names := ["xsux", "cuneiform"]
  own := [
    73728, 74650, 74752, 74863, 74864, 74869, 74880, 75076]
  differing := []

/-- The script `Cypriot`. -/
def cypriot : Script where
  names := ["cprt", "cypriot"]
  own := [
    67584, 67590, 67592, 67593, 67594, 67638, 67639, 67641, 67644, 67645, 67647, 67648]
  differing := [
    65792, 65795, 65799, 65844, 65847, 65856]

/-- The script `Cypro_Minoan`. -/
def cyproMinoan : Script where
  names := ["cpmn", "cyprominoan"]
  own := [
    77712, 77811]
  differing := [
    65792, 65794]

/-- The script `Cyrillic`. -/
def cyrillic : Script where
  names := ["cyrl", "cyrillic"]
  own := [
    1024, 1157, 1159, 1328, 7296, 7307, 7467, 7468, 7544, 7545, 11744, 11776, 42560, 42656, 65070,
    65072, 122928, 122990, 123023, 123024]
  differing := [
    700, 701, 768, 771, 772, 773, 774, 775, 776, 777, 779, 780, 785, 786, 1157, 1159, 7672, 7673,
    11843, 11844]

/-- The script `Deseret`. -/
def deseret : Script where
  names := ["dsrt", "deseret"]
  own := [
    66560, 66640]
  differing := []

/-- The script `Devanagari`. -/
def devanagari : Script where
  names := ["deva", "devanagari"]
  own := [
    2304, 2385, 2389, 2404, 2406, 2432, 43232, 43264, 72448, 72458]
  differing := [
    700, 701, 2385, 2387, 2404, 2406, 7376, 7415, 7416, 7418, 8432, 8433, 43056, 43066]

/-- The script `Dives_Akuru`. -/
def divesAkuru : Script where
  names := ["diak", "divesakuru"]
  own := [
    71936, 71943, 71945, 71946, 71948, 71956, 71957, 71959, 71960, 71990, 71991, 71993, 71995,
    72007, 72016, 72026]
  differing := []

/-- The script `Dogra`. -/
def dogra : Script where
  names := ["dogr", "dogra"]
  own := [
    71680, 71740]
  differing := [
    2404, 2416, 43056, 43066]

/-- The script `Duployan`. -/
def duployan : Script where
  names := ["dupl", "duployan"]
  own := [
    113664, 113771, 113776, 113789, 113792, 113801, 113808, 113818, 113820, 113824]
  differing := [
    183, 184, 775, 777, 778, 779, 803, 805, 11836, 11837, 113824, 113828]

/-- The script `Egyptian_Hieroglyphs`. -/
def egyptianHieroglyphs : Script where
  names := ["egyp", "egyptianhieroglyphs"]
  own := [
    77824, 78934, 78944, 82939]
  differing := []

/-- The script `Elbasan`. -/
def elbasan : Script where
  names := ["elba", "elbasan"]
  own := [
    66816, 66856]
  differing := [
    183, 184, 773, 774]

/-- The script `Elymaic`. -/
def elymaic : Script where
  names := ["elym", "elymaic"]
  own := [
    69600, 69623]
  differing := []

/-- The script `Ethiopic`. -/
def ethiopic : Script where
  names := ["ethi", "ethiopic"]
  own := [
    4608, 4681, 4682, 4686, 4688, 4695, 4696, 4697, 4698, 4702, 4704, 4745, 4746, 4750, 4752, 4785,
    4786, 4790, 4792, 4799, 4800, 4801, 4802, 4806, 4808, 4823, 4824, 4881, 4882, 4886, 4888, 4955,
    4957, 4989, 4992, 5018, 11648, 11671, 11680, 11687, 11688, 11695, 11696, 11703, 11704, 11711,
    11712, 11719, 11720, 11727, 11728, 11735, 11736, 11743, 43777, 43783, 43785, 43791, 43793,
    43799, 43808, 43815, 43816, 43823, 124896, 124903, 124904, 124908, 124909, 124911, 124912,
    124927]
  differing := [
    782, 783]

/-- The script `Garay`. -/
def garay : Script where
  names := ["gara", "garay"]
  own := [
    68928, 68966, 68969, 68998, 69006, 69008]
  differing := [
    1548, 1549, 1563, 1564, 1567, 1568]

/-- The script `Georgian`. -/
def georgian : Script where
  names := ["geor", "georgian"]
  own := [
    4256, 4294, 4295, 4296, 4301, 4302, 4304, 4347, 4348, 4352, 7312, 7355, 7357, 7360, 11520,
    11558, 11559, 11560, 11565, 11566]
  differing := [
    183, 184, 1417, 1418, 4347, 4348, 8282, 8283, 11825, 11826]

/-- The script `Glagolitic`. -/
def glagolitic : Script where
  names := ["glag", "glagolitic"]
  own := [
    11264, 11360, 122880, 122887, 122888, 122905, 122907, 122914, 122915, 122917, 122918, 122923]
  differing := [
    183, 184, 771, 772, 773, 774, 1156, 1157, 1159, 1160, 1417, 1418, 4347, 4348, 8282, 8283,
    11843, 11844, 42607, 42608]

/-- The script `Gothic`. -/
def gothic : Script where
  names := ["goth", "gothic"]
  own := [
    66352, 66379]
  differing := [
    183, 184, 772, 774, 776, 777, 817, 818]

/-- The script `Grantha`. -/
def grantha : Script where
  names := ["gran", "grantha"]
  own := [
    70400, 70404, 70405, 70413, 70415, 70417, 70419, 70441, 70442, 70449, 70450, 70452, 70453,
    70458, 70460, 70469, 70471, 70473, 70475, 70478, 70480, 70481, 70487, 70488, 70493, 70500,
    70502, 70509, 70512, 70517]
  differing := [
    2385, 2387, 2404, 2406, 3046, 3060, 7376, 7377, 7378, 7380, 7410, 7413, 7416, 7418, 8432, 8433,
    70459, 70460, 73680, 73682, 73683, 73684]

/-- The script `Greek`. -/
def greek : Script where
  names := ["grek", "greek"]
  own := [
    880, 884, 885, 888, 890, 894, 895, 896, 900, 901, 902, 903, 904, 907, 908, 909, 910, 930, 931,
    994, 1008, 1024, 7462, 7467, 7517, 7522, 7526, 7531, 7615, 7616, 7936, 7958, 7960, 7966, 7968,
    8006, 8008, 8014, 8016, 8024, 8025, 8026, 8027, 8028, 8029, 8030, 8031, 8062, 8064, 8117, 8118,
    8133, 8134, 8148, 8150, 8156, 8157, 8176, 8178, 8181, 8182, 8191, 8486, 8487, 43877, 43878,
    65856, 65935, 65952, 65953, 119296, 119366]
  differing := [
    183, 184, 768, 770, 772, 773, 774, 775, 776, 777, 787, 788, 834, 835, 837, 838, 884, 885, 7616,
    7618, 8285, 8286]

/-- The script `Gujarati`. -/
def gujarati : Script where
  names := ["gujr", "gujarati"]
  own := [
    2689, 2692, 2693, 2702, 2703, 2706, 2707, 2729, 2730, 2737, 2738, 2740, 2741, 2746, 2748, 2758,
    2759, 2762, 2763, 2766, 2768, 2769, 2784, 2788, 2790, 2802, 2809, 2816]
  differing := [
    2385, 2387, 2404, 2406, 43056, 43066]

/-- The script `Gunjala_Gondi`. -/
def gunjalaGondi : Script where
  names := ["gong", "gunjalagondi"]
  own := [
    73056, 73062, 73063, 73065, 73066, 73103, 73104, 73106, 73107, 73113, 73120, 73130]
  differing := [
    183, 184, 2404, 2406]

/-- The script `Gurmukhi`. -/
def gurmukhi : Script where
  names := ["guru", "gurmukhi"]
  own := [
    2561, 2564, 2565, 2571, 2575, 2577, 2579, 2601, 2602, 2609, 2610, 2612, 2613, 2615, 2616, 2618,
    2620, 2621, 2622, 2627, 2631, 2633, 2635, 2638, 2641, 2642, 2649, 2653, 2654, 2655, 2662, 2679]
  differing := [
    2385, 2387, 2404, 2406, 43056, 43066]

/-- The script `Gurung_Khema`. -/
def gurungKhema : Script where
  names := ["gukh", "gurungkhema"]
  own := [
    90368, 90426]
  differing := [
    2405, 2406]

/-- The script `Han`. -/
def han : Script where
  names := ["hani", "han"]
  own := [
    11904, 11930, 11931, 12020, 12032, 12246, 12293, 12294, 12295, 12296, 12321, 12330, 12344,
    12348, 13312, 19904, 19968, 40960, 63744, 64110, 64112, 64218, 94178, 94180, 94192, 94194,
    131072, 173792, 173824, 177978, 177984, 178206, 178208, 183970, 183984, 191457, 191472, 192094,
    194560, 195102, 196608, 201547, 201552, 205744]
  differing := [
    183, 184, 12272, 12288, 12289, 12292, 12294, 12295, 12296, 12306, 12307, 12320, 12330, 12334,
    12336, 12337, 12343, 12344, 12348, 12352, 12539, 12540, 12688, 12704, 12736, 12774, 12783,
    12784, 12832, 12872, 12928, 12977, 12992, 13004, 13055, 13056, 13144, 13169, 13179, 13184,
    13280, 13311, 42752, 42760, 65093, 65095, 65377, 65382, 119648, 119666, 127568, 127570]

/-- The script `Hangul`. -/
def hangul : Script where
  names := ["hang", "hangul"]
  own := [
    4352, 4608, 12334, 12336, 12593, 12687, 12800, 12831, 12896, 12927, 43360, 43389, 44032, 55204,
    55216, 55239, 55243, 55292, 65440, 65471, 65474, 65480, 65482, 65488, 65490, 65496, 65498,
    65501]
  differing := [
    12289, 12292, 12296, 12306, 12307, 12320, 12336, 12337, 12343, 12344, 12539, 12540, 65093,
    65095, 65377, 65382]

/-- The script `Hanifi_Rohingya`. -/
def hanifiRohingya : Script where
  names := ["rohg", "hanifirohingya"]
  own := [
    68864, 68904, 68912, 68922]
  differing := [
    1548, 1549, 1563, 1564, 1567, 1568, 1600, 1601, 1748, 1749]

/-- The script `Hanunoo`. -/
def hanunoo : Script where
  names := ["hano", "hanunoo"]
  own := [
    5920, 5941]
  differing := [
    5941, 5943]

/-- The script `Hatran`. -/
def hatran : Script where
  names := ["hatr", "hatran"]
  own := [
    67808, 67827, 67828, 67830, 67835, 67840]
  differing := []

/-- The script `Hebrew`. -/
def hebrew : Script where
  names := ["hebr", "hebrew"]
  own := [
    1425, 1480, 1488, 1515, 1519, 1525, 64285, 64311, 64312, 64317, 64318, 64319, 64320, 64322,
    64323, 64325, 64326, 64336]
  differing := [
    775, 777]

/-- The script `Hiragana`. -/
def hiragana : Script where
  names := ["hira", "hiragana"]
  own := [
    12353, 12439, 12445, 12448, 110593, 110880, 110898, 110899, 110928, 110931, 127488, 127489]
  differing := [
    12289, 12292, 12296, 12306, 12307, 12320, 12336, 12342, 12343, 12344, 12348, 12350, 12441,
    12445, 12448, 12449, 12539, 12541, 65093, 65095, 65377, 65382, 65392, 65393, 65438, 65440]

/-- The script `Imperial_Aramaic`. -/
def imperialAramaic : Script where
  names := ["armi", "imperialaramaic"]
  own := [
    67648, 67670, 67671, 67680]
  differing := []

/-- The script `Inherited`. -/
def inherited : Script where
  names := ["zinh", "inherited", "qaai"]
  own := [
    768, 880, 1157, 1159, 1611, 1622, 1648, 1649, 2385, 2389, 6832, 6863, 7376, 7379, 7380, 7393,
    7394, 7401, 7405, 7406, 7412, 7413, 7416, 7418, 7616, 7680, 8204, 8206, 8400, 8433, 12330,
    12334, 12441, 12443, 65024, 65040, 65056, 65070, 66045, 66046, 66272, 66273, 70459, 70460,
    118528, 118574, 118576, 118599, 119143, 119146, 119163, 119171, 119173, 119180, 119210, 119214,
    917760, 918000]
  differing := [
    768, 783, 784, 786, 787, 788, 803, 806, 813, 815, 816, 818, 834, 835, 837, 838, 856, 857, 862,
    863, 867, 880, 1157, 1159, 1611, 1622, 1648, 1649, 2385, 2387, 7376, 7379, 7380, 7393, 7394,
    7401, 7405, 7406, 7412, 7413, 7416, 7418, 7616, 7618, 7672, 7673, 7674, 7675, 8432, 8433,
    12330, 12334, 12441, 12443, 66272, 66273, 70459, 70460]

/-- The script `Inscriptional_Pahlavi`. -/
def inscriptionalPahlavi : Script where
  names := ["phli", "inscriptionalpahlavi"]
  own := [
    68448, 68467, 68472, 68480]
  differing := []

/-- The script `Inscriptional_Parthian`. -/
def inscriptionalParthian : Script where
  names := ["prti", "inscriptionalparthian"]
  own := [
    68416, 68438, 68440, 68448]
  differing := []

/-- The script `Javanese`. -/
def javanese : Script where
  names := ["java", "javanese"]
  own := [
    43392, 43470, 43472, 43482, 43486, 43488]
  differing := [
    43471, 43472]

/-- The script `Kaithi`. -/
def kaithi : Script where
  names := ["kthi", "kaithi"]
  own := [
    69760, 69827, 69837, 69838]
  differing := [
    2406, 2416, 11825, 11826, 43056, 43066]

/-- The script `Kannada`. -/
def kannada : Script where
  names := ["knda", "kannada"]
  own := [
    3200, 3213, 3214, 3217, 3218, 3241, 3242, 3252, 3253, 3258, 3260, 3269, 3270, 3273, 3274, 3278,
    3285, 3287, 3293, 3295, 3296, 3300, 3302, 3312, 3313, 3316]
  differing := [
    2385, 2387, 2404, 2406, 7376, 7377, 7378, 7380, 7386, 7387, 7410, 7411, 7412, 7413, 43056,
    43062]

/-- The script `Katakana`. -/
def katakana : Script where
  names := ["kana", "katakana"]
  own := [
    12449, 12539, 12541, 12544, 12784, 12800, 13008, 13055, 13056, 13144, 65382, 65392, 65393,
    65438, 110576, 110580, 110581, 110588, 110589, 110591, 110592, 110593, 110880, 110883, 110933,
    110934, 110948, 110952]
  differing := [
    773, 774, 803, 804, 12289, 12292, 12296, 12306, 12307, 12320, 12336, 12342, 12343, 12344,
    12348, 12350, 12441, 12445, 12448, 12449, 12539, 12541, 65093, 65095, 65377, 65382, 65392,
    65393, 65438, 65440]

/-- The script `Kawi`. -/
def kawi : Script where
  names := ["kawi"]
  own := [
    73472, 73489, 73490, 73531, 73534, 73563]
  differing := []

/-- The script `Kayah_Li`. -/
def kayahLi : Script where
  names := ["kali", "kayahli"]
  own := [
    43264, 43310, 43311, 43312]
  differing := [
    43310, 43311]

/-- The script `Kharoshthi`. -/
def kharoshthi : Script where
  names := ["khar", "kharoshthi"]
  own := [
    68096, 68100, 68101, 68103, 68108, 68116, 68117, 68120, 68121, 68150, 68152, 68155, 68159,
    68169, 68176, 68185]
  differing := []

/-- The script `Khitan_Small_Script`. -/
def khitanSmallScript : Script where
  names := ["kits", "khitansmallscript"]
  own := [
    94180, 94181, 101120, 101590, 101631, 101632]
  differing := []

/-- The script `Khmer`. -/
def khmer : Script where
  names := ["khmr", "khmer"]
  own := [
    6016, 6110, 6112, 6122, 6128, 6138, 6624, 6656]
  differing := []

/-- The script `Khojki`. -/
def khojki : Script where
  names := ["khoj", "khojki"]
  own := [
    70144, 70162, 70163, 70210]
  differing := [
    2790, 2800, 43056, 43066]

/-- The script `Khudawadi`. -/
def khudawadi : Script where
  names := ["sind", "khudawadi"]
  own := [
    70320, 70379, 70384, 70394]
  differing := [
    2404, 2406, 43056, 43066]

/-- The script `Kirat_Rai`. -/
def kiratRai : Script where
  names := ["krai", "kiratrai"]
  own := [
    93504, 93562]
  differing := []

/-- The script `Lao`. -/
def lao : Script where
  names := ["laoo", "lao"]
  own := [
    3713, 3715, 3716, 3717, 3718, 3723, 3724, 3748, 3749, 3750, 3751, 3774, 3776, 3781, 3782, 3783,
    3784, 3791, 3792, 3802, 3804, 3808]
  differing := []

/-- The script `Latin`. -/
def latin : Script where
  names := ["latn", "latin"]
  own := [
    65, 91, 97, 123, 170, 171, 186, 187, 192, 215, 216, 247, 248, 697, 736, 741, 7424, 7462, 7468,
    7517, 7522, 7526, 7531, 7544, 7545, 7615, 7680, 7936, 8305, 8306, 8319, 8320, 8336, 8349, 8490,
    8492, 8498, 8499, 8526, 8527, 8544, 8585, 11360, 11392, 42786, 42888, 42891, 42958, 42960,
    42962, 42963, 42964, 42965, 42973, 42994, 43008, 43824, 43867, 43868, 43877, 43878, 43882,
    64256, 64263, 65313, 65339, 65345, 65371, 67456, 67462, 67463, 67505, 67506, 67515, 122624,
    122655, 122661, 122667]
  differing := [
    183, 184, 700, 701, 711, 712, 713, 716, 717, 718, 727, 728, 729, 730, 768, 783, 784, 786, 787,
    788, 803, 806, 813, 815, 816, 818, 856, 857, 862, 863, 867, 880, 1157, 1159, 2385, 2387, 4347,
    4348, 7672, 7673, 8239, 8240, 8432, 8433, 11799, 11800, 42752, 42760, 43310, 43311]

/-- The script `Lepcha`. -/
def lepcha : Script where
  names := ["lepc", "lepcha"]
  own := [
    7168, 7224, 7227, 7242, 7245, 7248]
  differing := []

/-- The script `Limbu`. -/
def limbu : Script where
  names := ["limb", "limbu"]
  own := [
    6400, 6431, 6432, 6444, 6448, 6460, 6464, 6465, 6468, 6480]
  differing := [
    2405, 2406]

/-- The script `Linear_A`. -/
def linearA : Script where
  names := ["lina", "lineara"]
  own := [
    67072, 67383, 67392, 67414, 67424, 67432]
  differing := [
    65799, 65844]

/-- The script `Linear_B`. -/
def linearB : Script where
  names := ["linb", "linearb"]
  own := [
    65536, 65548, 65549, 65575, 65576, 65595, 65596, 65598, 65599, 65614, 65616, 65630, 65664,
    65787]
  differing := [
    65792, 65795, 65799, 65844, 65847, 65856]

/-- The script `Lisu`. -/
def lisu : Script where
  names := ["lisu"]
  own := [
    42192, 42240, 73648, 73649]
  differing := [
    700, 701, 717, 718, 12298, 12300]

/-- The script `Lycian`. -/
def lycian : Script where
  names := ["lyci", "lycian"]
  own := [
    66176, 66205]
  differing := [
    8282, 8283]

/-- The script `Lydian`. -/
def lydian : Script where
  names := ["lydi", "lydian"]
  own := [
    67872, 67898, 67903, 67904]
  differing := [
    183, 184, 11825, 11826]

/-- The script `Mahajani`. -/
def mahajani : Script where
  names := ["mahj", "mahajani"]
  own := [
    69968, 70007]
  differing := [
    183, 184, 2404, 2416, 43056, 43066]

/-- The script `Makasar`. -/
def makasar : Script where
  names := ["maka", "makasar"]
  own := [
    73440, 73465]
  differing := []

/-- The script `Malayalam`. -/
def malayalam : Script where
  names := ["mlym", "malayalam"]
  own := [
    3328, 3341, 3342, 3345, 3346, 3397, 3398, 3401, 3402, 3408, 3412, 3428, 3430, 3456]
  differing := [
    2385, 2387, 2404, 2406, 7386, 7387, 7410, 7411, 43056, 43059]

/-- The script `Mandaic`. -/
def mandaic : Script where
  names := ["mand", "mandaic"]
  own := [
    2112, 2140, 2142, 2143]
  differing := [
    1600, 1601]

/-- The script `Manichaean`. -/
def manichaean : Script where
  names := ["mani", "manichaean"]
  own := [
    68288, 68327, 68331, 68343]
  differing := [
    1600, 1601]

/-- The script `Marchen`. -/
def marchen : Script where
  names := ["marc", "marchen"]
  own := [
    72816, 72848, 72850, 72872, 72873, 72887]
  differing := []

/-- The script `Masaram_Gondi`. -/
def masaramGondi : Script where
  names := ["gonm", "masaramgondi"]
  own := [
    72960, 72967, 72968, 72970, 72971, 73015, 73018, 73019, 73020, 73022, 73023, 73032, 73040,
    73050]
  differing := [
    2404, 2406]

/-- The script `Medefaidrin`. -/
def medefaidrin : Script where
  names := ["medf", "medefaidrin"]
  own := [
    93760, 93851]
  differing := []

/-- The script `Meetei_Mayek`. -/
def meeteiMayek : Script where
  names := ["mtei", "meeteimayek"]
  own := [
    43744, 43767, 43968, 44014, 44016, 44026]
  differing := []

/-- The script `Mende_Kikakui`. -/
def mendeKikakui : Script where
  names := ["mend", "mendekikakui"]
  own := [
    124928, 125125, 125127, 125143]
  differing := []

/-- The script `Meroitic_Cursive`. -/
def meroiticCursive : Script where
  names := ["merc", "meroiticcursive"]
  own := [
    68000, 68024, 68028, 68048, 68050, 68096]
  differing := []

/-- The script `Meroitic_Hieroglyphs`. -/
def meroiticHieroglyphs : Script where
  names := ["mero", "meroitichieroglyphs"]
  own := [
    67968, 68000]
  differing := [
    8285, 8286]

/-- The script `Miao`. -/
def miao : Script where
  names := ["plrd", "miao"]
  own := [
    93952, 94027, 94031, 94088, 94095, 94112]
  differing := []

/-- The script `Modi`. -/
def modi : Script where
  names := ["modi"]
  own := [
    71168, 71237, 71248, 71258]
  differing := [
    43056, 43066]

/-- The script `Mongolian`. -/
def mongolian : Script where
  names := ["mong", "mongolian"]
  own := [
    6144, 6146, 6148, 6149, 6150, 6170, 6176, 6265, 6272, 6315, 71264, 71277]
  differing := [
    6146, 6148, 6149, 6150, 8239, 8240, 12289, 12291, 12296, 12300]

/-- The script `Mro`. -/
def mro : Script where
  names := ["mroo", "mro"]
  own := [
    92736, 92767, 92768, 92778, 92782, 92784]
  differing := []

/-- The script `Multani`. -/
def multani : Script where
  names := ["mult", "multani"]
  own := [
    70272, 70279, 70280, 70281, 70282, 70286, 70287, 70302, 70303, 70314]
  differing := [
    2662, 2672]

/-- The script `Myanmar`. -/
def myanmar : Script where
  names := ["mymr", "myanmar"]
  own := [
    4096, 4256, 43488, 43519, 43616, 43648, 71376, 71396]
  differing := [
    43310, 43311]

/-- The script `Nabataean`. -/
def nabataean : Script where
  names := ["nbat", "nabataean"]
  own := [
    67712, 67743, 67751, 67760]
  differing := []

/-- The script `Nag_Mundari`. -/
def nagMundari : Script where
  names := ["nagm", "nagmundari"]
  own := [
    124112, 124154]
  differing := []

/-- The script `Nandinagari`. -/
def nandinagari : Script where
  names := ["nand", "nandinagari"]
  own := [
    72096, 72104, 72106, 72152, 72154, 72165]
  differing := [
    2385, 2386, 2404, 2406, 3302, 3312, 7401, 7402, 7410, 7411, 7418, 7419, 43056, 43062]

/-- The script `New_Tai_Lue`. -/
def newTaiLue : Script where
  names := ["talu", "newtailue"]
  own := [
    6528, 6572, 6576, 6602, 6608, 6619, 6622, 6624]
  differing := []

/-- The script `Newa`. -/
def newa : Script where
  names := ["newa"]
  own := [
    70656, 70748, 70749, 70754]
  differing := [
    2385, 2387, 7381, 7382, 7383, 7385, 7394, 7395, 7401, 7402, 7403, 7404, 7405, 7406]

/-- The script `Nko`. -/
def nko : Script where
  names := ["nkoo", "nko"]
  own := [
    1984, 2043, 2045, 2048]
  differing := [
    1548, 1549, 1563, 1564, 1567, 1568, 64830, 64832]

/-- The script `Nushu`. -/
def nushu : Script where
  names := ["nshu", "nushu"]
  own := [
    94177, 94178, 110960, 111356]
  differing := []

/-- The script `Nyiakeng_Puachue_Hmong`. -/
def nyiakengPuachueHmong : Script where
  names := ["hmnp", "nyiakengpuachuehmong"]
  own := [
    123136, 123181, 123184, 123198, 123200, 123210, 123214, 123216]
  differing := []

/-- The script `Ogham`. -/
def ogham : Script where
  names := ["ogam", "ogham"]
  own := [
    5760, 5789]
  differing := []

/-- The script `Ol_Chiki`. -/
def olChiki : Script where
  names := ["olck", "olchiki"]
  own := [
    7248, 7296]
  differing := []

/-- The script `Ol_Onal`. -/
def olOnal : Script where
  names := ["onao", "olonal"]
  own := [
    124368, 124411, 124415, 124416]
  differing := [
    2404, 2406]

/-- The script `Old_Hungarian`. -/
def oldHungarian : Script where
  names := ["hung", "oldhungarian"]
  own := [
    68736, 68787, 68800, 68851, 68858, 68864]
  differing := [
    8282, 8283, 8285, 8286, 11825, 11826, 11841, 11842]

/-- The script `Old_Italic`. -/
def oldItalic : Script where
  names := ["ital", "olditalic"]
  own := [
    66304, 66340, 66349, 66352]
  differing := []

/-- The script `Old_North_Arabian`. -/
def oldNorthArabian : Script where
  names := ["narb", "oldnortharabian"]
  own := [
    68224, 68256]
  differing := []

/-- The script `Old_Permic`. -/
def oldPermic : Script where
  names := ["perm", "oldpermic"]
  own := [
    66384, 66427]
  differing := [
    183, 184, 768, 769, 774, 777, 787, 788, 1155, 1156]

/-- The script `Old_Persian`. -/
def oldPersian : Script where
  names := ["xpeo", "oldpersian"]
  own := [
    66464, 66500, 66504, 66518]
  differing := []

/-- The script `Old_Sogdian`. -/
def oldSogdian : Script where
  names := ["sogo", "oldsogdian"]
  own := [
    69376, 69416]
  differing := []

/-- The script `Old_South_Arabian`. -/
def oldSouthArabian : Script where
  names := ["sarb", "oldsoutharabian"]
  own := [
    68192, 68224]
  differing := []

/-- The script `Old_Turkic`. -/
def oldTurkic : Script where
  names := ["orkh", "oldturkic"]
  own := [
    68608, 68681]
  differing := [
    8282, 8283, 11824, 11825]

/-- The script `Old_Uyghur`. -/
def oldUyghur : Script where
  names := ["ougr", "olduyghur"]
  own := [
    69488, 69514]
  differing := [
    1600, 1601, 68338, 68339]

/-- The script `Oriya`. -/
def oriya : Script where
  names := ["orya", "oriya"]
  own := [
    2817, 2820, 2821, 2829, 2831, 2833, 2835, 2857, 2858, 2865, 2866, 2868, 2869, 2874, 2876, 2885,
    2887, 2889, 2891, 2894, 2901, 2904, 2908, 2910, 2911, 2916, 2918, 2936]
  differing := [
    2385, 2387, 2404, 2406, 7386, 7387, 7410, 7411]

/-- The script `Osage`. -/
def osage : Script where
  names := ["osge", "osage"]
  own := [
    66736, 66772, 66776, 66812]
  differing := [
    769, 770, 772, 773, 779, 780, 856, 857]

/-- The script `Osmanya`. -/
def osmanya : Script where
  names := ["osma", "osmanya"]
  own := [
    66688, 66718, 66720, 66730]
  differing := []

/-- The script `Pahawh_Hmong`. -/
def pahawhHmong : Script where
  names := ["hmng", "pahawhhmong"]
  own := [
    92928, 92998, 93008, 93018, 93019, 93026, 93027, 93048, 93053, 93072]
  differing := []

/-- The script `Palmyrene`. -/
def palmyrene : Script where
  names := ["palm", "palmyrene"]
  own := [
    67680, 67712]
  differing := []

/-- The script `Pau_Cin_Hau`. -/
def pauCinHau : Script where
  names := ["pauc", "paucinhau"]
  own := [
    72384, 72441]
  differing := []

/-- The script `Phags_Pa`. -/
def phagsPa : Script where
  names := ["phag", "phagspa"]
  own := [
    43072, 43128]
  differing := [
    6146, 6148, 6149, 6150, 8239, 8240, 12290, 12291]

/-- The script `Phoenician`. -/
def phoenician : Script where
  names := ["phnx", "phoenician"]
  own := [
    67840, 67868, 67871, 67872]
  differing := []

/-- The script `Psalter_Pahlavi`. -/
def psalterPahlavi : Script where
  names := ["phlp", "psalterpahlavi"]
  own := [
    68480, 68498, 68505, 68509, 68521, 68528]
  differing := [
    1600, 1601]

/-- The script `Rejang`. -/
def rejang : Script where
  names := ["rjng", "rejang"]
  own := [
    43312, 43348, 43359, 43360]
  differing := []

/-- The script `Runic`. -/
def runic : Script where
  names := ["runr", "runic"]
  own := [
    5792, 5867, 5870, 5881]
  differing := [
    5867, 5870]

/-- The script `Samaritan`. -/
def samaritan : Script where
  names := ["samr", "samaritan"]
  own := [
    2048, 2094, 2096, 2111]
  differing := [
    11825, 11826]

/-- The script `Saurashtra`. -/
def saurashtra : Script where
  names := ["saur", "saurashtra"]
  own := [
    43136, 43206, 43214, 43226]
  differing := []

/-- The script `Sharada`. -/
def sharada : Script where
  names := ["shrd", "sharada"]
  own := [
    70016, 70112]
  differing := [
    2385, 2386, 7383, 7384, 7385, 7386, 7388, 7390, 7392, 7393, 7402, 7403, 7405, 7406, 43056,
    43062, 43064, 43065]

/-- The script `Shavian`. -/
def shavian : Script where
  names := ["shaw", "shavian"]
  own := [
    66640, 66688]
  differing := [
    183, 184]

/-- The script `Siddham`. -/
def siddham : Script where
  names := ["sidd", "siddham"]
  own := [
    71040, 71094, 71096, 71134]
  differing := []

/-- The script `SignWriting`. -/
def signWriting : Script where
  names := ["sgnw", "signwriting"]
  own := [
    120832, 121484, 121499, 121504, 121505, 121520]
  differing := []

/-- The script `Sinhala`. -/
def sinhala : Script where
  names := ["sinh", "sinhala"]
  own := [
    3457, 3460, 3461, 3479, 3482, 3506, 3507, 3516, 3517, 3518, 3520, 3527, 3530, 3531, 3535, 3541,
    3542, 3543, 3544, 3552, 3558, 3568, 3570, 3573, 70113, 70133]
  differing := [
    2404, 2406, 7410, 7411]

/-- The script `Sogdian`. -/
def sogdian : Script where
  names := ["sogd", "sogdian"]
  own := [
    69424, 69466]
  differing := [
    1600, 1601]

/-- The script `Sora_Sompeng`. -/
def soraSompeng : Script where
  names := ["sora", "sorasompeng"]
  own := [
    69840, 69865, 69872, 69882]
  differing := []

/-- The script `Soyombo`. -/
def soyombo : Script where
  names := ["soyo", "soyombo"]
  own := [
    72272, 72355]
  differing := []

/-- The script `Sundanese`. -/
def sundanese : Script where
  names := ["sund", "sundanese"]
  own := [
    7040, 7104, 7360, 7368]
  differing := []

/-- The script `Sunuwar`. -/
def sunuwar : Script where
  names := ["sunu", "sunuwar"]
  own := [
    72640, 72674, 72688, 72698]
  differing := [
    768, 770, 771, 772, 781, 782, 784, 785, 813, 814, 817, 818]

/-- The script `Syloti_Nagri`. -/
def sylotiNagri : Script where
  names := ["sylo", "sylotinagri"]
  own := [
    43008, 43053]
  differing := [
    2404, 2406, 2534, 2544]

/-- The script `Syriac`. -/
def syriac : Script where
  names := ["syrc", "syriac"]
  own := [
    1792, 1806, 1807, 1867, 1869, 1872, 2144, 2155]
  differing := [
    771, 773, 775, 777, 778, 779, 803, 806, 813, 815, 816, 818, 1548, 1549, 1563, 1565, 1567, 1568,
    1600, 1601, 1611, 1622, 1648, 1649, 7672, 7673, 7674, 7675]

/-- The script `Tagalog`. -/
def tagalog : Script where
  names := ["tglg", "tagalog"]
  own := [
    5888, 5910, 5919, 5920]
  differing := [
    5941, 5943]

/-- The script `Tagbanwa`. -/
def tagbanwa : Script where
  names := ["tagb", "tagbanwa"]
  own := [
    5984, 5997, 5998, 6001, 6002, 6004]
  differing := [
    5941, 5943]

/-- The script `Tai_Le`. -/
def taiLe : Script where
  names := ["tale", "taile"]
  own := [
    6480, 6510, 6512, 6517]
  differing := [
    768, 770, 775, 777, 780, 781, 4160, 4170]

/-- The script `Tai_Tham`. -/
def taiTham : Script where
  names := ["lana", "taitham"]
  own := [
    6688, 6751, 6752, 6781, 6783, 6794, 6800, 6810, 6816, 6830]
  differing := []

/-- The script `Tai_Viet`. -/
def taiViet : Script where
  names := ["tavt", "taiviet"]
  own := [
    43648, 43715, 43739, 43744]
  differing := []

/-- The script `Takri`. -/
def takri : Script where
  names := ["takr", "takri"]
  own := [
    71296, 71354, 71360, 71370]
  differing := [
    2404, 2406, 43056, 43066]

/-- The script `Tamil`. -/
def tamil : Script where
  names := ["taml", "tamil"]
  own := [
    2946, 2948, 2949, 2955, 2958, 2961, 2962, 2966, 2969, 2971, 2972, 2973, 2974, 2976, 2979, 2981,
    2984, 2987, 2990, 3002, 3006, 3011, 3014, 3017, 3018, 3022, 3024, 3025, 3031, 3032, 3046, 3067,
    73664, 73714, 73727, 73728]
  differing := [
    2385, 2387, 2404, 2406, 7386, 7387, 43251, 43252, 70401, 70402, 70403, 70404, 70459, 70461]

/-- The script `Tangsa`. -/
def tangsa : Script where
  names := ["tnsa", "tangsa"]
  own := [
    92784, 92863, 92864, 92874]
  differing := []

/-- The script `Tangut`. -/
def tangut : Script where
  names := ["tang", "tangut"]
  own := [
    94176, 94177, 94208, 100344, 100352, 101120, 101632, 101641]
  differing := [
    12272, 12288, 12783, 12784]

/-- The script `Telugu`. -/
def telugu : Script where
  names := ["telu", "telugu"]
  own := [
    3072, 3085, 3086, 3089, 3090, 3113, 3114, 3130, 3132, 3141, 3142, 3145, 3146, 3150, 3157, 3159,
    3160, 3163, 3165, 3166, 3168, 3172, 3174, 3184, 3191, 3200]
  differing := [
    2385, 2387, 2404, 2406, 7381, 7383, 7384, 7385, 7386, 7387, 7410, 7411]

/-- The script `Thaana`. -/
def thaana : Script where
  names := ["thaa", "thaana"]
  own := [
    1920, 1970]
  differing := [
    1548, 1549, 1563, 1565, 1567, 1568, 1632, 1642, 65010, 65011, 65021, 65022]

/-- The script `Thai`. -/
def thai : Script where
  names := ["thai"]
  own := [
    3585, 3643, 3648, 3676]
  differing := [
    700, 701, 727, 728, 771, 772, 817, 818]

/-- The script `Tibetan`. -/
def tibetan : Script where
  names := ["tibt", "tibetan"]
  own := [
    3840, 3912, 3913, 3949, 3953, 3992, 3993, 4029, 4030, 4045, 4046, 4053, 4057, 4059]
  differing := [
    12296, 12300]

/-- The script `Tifinagh`. -/
def tifinagh : Script where
  names := ["tfng", "tifinagh"]
  own := [
    11568, 11624, 11631, 11633, 11647, 11648]
  differing := [
    770, 771, 772, 773, 774, 778, 803, 804]

/-- The script `Tirhuta`. -/
def tirhuta : Script where
  names := ["tirh", "tirhuta"]
  own := [
    70784, 70856, 70864, 70874]
  differing := [
    2385, 2387, 2404, 2406, 7381, 7382, 7394, 7395, 7410, 7411, 43056, 43066]

/-- The script `Todhri`. -/
def todhri : Script where
  names := ["todr", "todhri"]
  own := [
    67008, 67060]
  differing := [
    769, 770, 772, 773, 775, 776, 785, 786, 787, 788, 862, 863]

/-- The script `Toto`. -/
def toto : Script where
  names := ["toto"]
  own := [
    123536, 123567]
  differing := [
    700, 701]

/-- The script `Tulu_Tigalari`. -/
def tuluTigalari : Script where
  names := ["tutg", "tulutigalari"]
  own := [
    70528, 70538, 70539, 70540, 70542, 70543, 70544, 70582, 70583, 70593, 70594, 70595, 70597,
    70598, 70599, 70603, 70604, 70614, 70615, 70617, 70625, 70627]
  differing := [
    3302, 3312, 7410, 7411, 7412, 7413, 43056, 43062, 43249, 43250]

/-- The script `Ugaritic`. -/
def ugaritic : Script where
  names := ["ugar", "ugaritic"]
  own := [
    66432, 66462, 66463, 66464]
  differing := []

/-- The script `Vai`. -/
def vai : Script where
  names := ["vaii", "vai"]
  own := [
    42240, 42540]
  differing := []

/-- The script `Vithkuqi`. -/
def vithkuqi : Script where
  names := ["vith", "vithkuqi"]
  own := [
    66928, 66939, 66940, 66955, 66956, 66963, 66964, 66966, 66967, 66978, 66979, 66994, 66995,
    67002, 67003, 67005]
  differing := []

/-- The script `Wancho`. -/
def wancho : Script where
  names := ["wcho", "wancho"]
  own := [
    123584, 123642, 123647, 123648]
  differing := []

/-- The script `Warang_Citi`. -/
def warangCiti : Script where
  names := ["wara", "warangciti"]
  own := [
    71840, 71923, 71935, 71936]
  differing := []

/-- The script `Yezidi`. -/
def yezidi : Script where
  names := ["yezi", "yezidi"]
  own := [
    69248, 69290, 69291, 69294, 69296, 69298]
  differing := [
    1548, 1549, 1563, 1564, 1567, 1568, 1632, 1642]

/-- The script `Yi`. -/
def yi : Script where
  names := ["yiii", "yi"]
  own := [
    40960, 42125, 42128, 42183]
  differing := [
    12289, 12291, 12296, 12306, 12308, 12316, 12539, 12540, 65377, 65382]

/-- The script `Zanabazar_Square`. -/
def zanabazarSquare : Script where
  names := ["zanb", "zanabazarsquare"]
  own := [
    72192, 72264]
  differing := []

/-- The scripts. -/
def all : List Script := [
  adlam, ahom, anatolianHieroglyphs, arabic, armenian, avestan, balinese, bamum, bassaVah, batak,
  bengali, bhaiksuki, bopomofo, brahmi, braille, buginese, buhid, canadianAboriginal, carian,
  caucasianAlbanian, chakma, cham, cherokee, chorasmian, common, coptic, cuneiform, cypriot,
  cyproMinoan, cyrillic, deseret, devanagari, divesAkuru, dogra, duployan, egyptianHieroglyphs,
  elbasan, elymaic, ethiopic, garay, georgian, glagolitic, gothic, grantha, greek, gujarati,
  gunjalaGondi, gurmukhi, gurungKhema, han, hangul, hanifiRohingya, hanunoo, hatran, hebrew,
  hiragana, imperialAramaic, inherited, inscriptionalPahlavi, inscriptionalParthian, javanese,
  kaithi, kannada, katakana, kawi, kayahLi, kharoshthi, khitanSmallScript, khmer, khojki,
  khudawadi, kiratRai, lao, latin, lepcha, limbu, linearA, linearB, lisu, lycian, lydian, mahajani,
  makasar, malayalam, mandaic, manichaean, marchen, masaramGondi, medefaidrin, meeteiMayek,
  mendeKikakui, meroiticCursive, meroiticHieroglyphs, miao, modi, mongolian, mro, multani, myanmar,
  nabataean, nagMundari, nandinagari, newTaiLue, newa, nko, nushu, nyiakengPuachueHmong, ogham,
  olChiki, olOnal, oldHungarian, oldItalic, oldNorthArabian, oldPermic, oldPersian, oldSogdian,
  oldSouthArabian, oldTurkic, oldUyghur, oriya, osage, osmanya, pahawhHmong, palmyrene, pauCinHau,
  phagsPa, phoenician, psalterPahlavi, rejang, runic, samaritan, saurashtra, sharada, shavian,
  siddham, signWriting, sinhala, sogdian, soraSompeng, soyombo, sundanese, sunuwar, sylotiNagri,
  syriac, tagalog, tagbanwa, taiLe, taiTham, taiViet, takri, tamil, tangsa, tangut, telugu, thaana,
  thai, tibetan, tifinagh, tirhuta, todhri, toto, tuluTigalari, ugaritic, vai, vithkuqi, wancho,
  warangCiti, yezidi, yi, zanabazarSquare]

end ScriptTable

end JsonExpr.Text
