import Refetch.Text.Runs
/-!
# Columns

How many columns of a terminal a text takes up: two for wide characters of East Asian scripts and
for pictures, none for marks and for characters that are not shown, one for all others.

In a text it matters what follows. A selector after a character asks for its form as a picture,
which is wide, or as text, which is not; a picture with a modifier, or several that are joined, take
up two columns, and the end of a line takes up one. In some scripts there are letters that join into
one. So a text is gone over from its end.
-/

namespace Refetch.Text

/-- Marks, fillers and other characters without a column. -/
def flatTurns : List Nat := [
  173, 174, 768, 880, 1155, 1162, 1425, 1470, 1471, 1472, 1473, 1475, 1476, 1478, 1479, 1480, 1541,
  1542, 1552, 1563, 1564, 1565, 1611, 1632, 1648, 1649, 1750, 1757, 1759, 1765, 1767, 1769, 1770,
  1774, 1807, 1808, 1809, 1810, 1840, 1867, 1958, 1969, 2027, 2036, 2045, 2046, 2070, 2074, 2075,
  2084, 2085, 2088, 2089, 2094, 2137, 2140, 2192, 2194, 2199, 2208, 2250, 2307, 2362, 2363, 2364,
  2365, 2369, 2377, 2381, 2382, 2385, 2392, 2402, 2404, 2433, 2434, 2492, 2493, 2494, 2495, 2497,
  2501, 2509, 2510, 2519, 2520, 2530, 2532, 2558, 2559, 2561, 2563, 2620, 2621, 2625, 2627, 2631,
  2633, 2635, 2638, 2641, 2642, 2672, 2674, 2677, 2678, 2689, 2691, 2748, 2749, 2753, 2758, 2759,
  2761, 2765, 2766, 2786, 2788, 2810, 2816, 2817, 2818, 2876, 2877, 2878, 2880, 2881, 2885, 2893,
  2894, 2901, 2904, 2914, 2916, 2946, 2947, 3006, 3007, 3008, 3009, 3021, 3022, 3031, 3032, 3072,
  3073, 3076, 3077, 3132, 3133, 3134, 3137, 3142, 3145, 3146, 3150, 3157, 3159, 3170, 3172, 3201,
  3202, 3260, 3261, 3263, 3265, 3266, 3267, 3270, 3273, 3274, 3278, 3285, 3287, 3298, 3300, 3328,
  3330, 3387, 3389, 3390, 3391, 3393, 3397, 3405, 3407, 3415, 3416, 3426, 3428, 3457, 3458, 3530,
  3531, 3535, 3536, 3538, 3541, 3542, 3543, 3551, 3552, 3633, 3634, 3636, 3643, 3655, 3663, 3761,
  3762, 3764, 3773, 3784, 3791, 3864, 3866, 3893, 3894, 3895, 3896, 3897, 3898, 3953, 3967, 3968,
  3973, 3974, 3976, 3981, 3992, 3993, 4029, 4038, 4039, 4141, 4145, 4146, 4152, 4153, 4155, 4157,
  4159, 4184, 4186, 4190, 4193, 4209, 4213, 4226, 4227, 4229, 4231, 4237, 4238, 4253, 4254, 4448,
  4608, 4957, 4960, 5906, 5910, 5938, 5941, 5970, 5972, 6002, 6004, 6068, 6070, 6071, 6078, 6086,
  6087, 6089, 6100, 6109, 6110, 6155, 6160, 6277, 6279, 6313, 6314, 6432, 6435, 6439, 6441, 6450,
  6451, 6457, 6460, 6679, 6681, 6683, 6684, 6742, 6743, 6744, 6751, 6752, 6753, 6754, 6755, 6757,
  6765, 6771, 6781, 6783, 6784, 6832, 6878, 6880, 6892, 6912, 6916, 6964, 6974, 6978, 6981, 7019,
  7028, 7040, 7042, 7074, 7078, 7080, 7086, 7142, 7143, 7144, 7146, 7149, 7150, 7151, 7156, 7212,
  7220, 7222, 7224, 7376, 7379, 7380, 7393, 7394, 7401, 7405, 7406, 7412, 7413, 7416, 7418, 7616,
  7680, 8203, 8208, 8234, 8239, 8288, 8304, 8400, 8433, 11503, 11506, 11744, 11776, 12330, 12336,
  12441, 12443, 12644, 12645, 42607, 42611, 42612, 42622, 42654, 42656, 42736, 42738, 43010, 43011,
  43014, 43015, 43019, 43020, 43045, 43047, 43052, 43053, 43204, 43206, 43232, 43250, 43258, 43259,
  43263, 43264, 43302, 43310, 43335, 43346, 43347, 43348, 43392, 43395, 43443, 43444, 43446, 43450,
  43452, 43454, 43456, 43457, 43493, 43494, 43561, 43567, 43569, 43571, 43573, 43575, 43587, 43588,
  43596, 43597, 43644, 43645, 43696, 43697, 43698, 43701, 43703, 43705, 43710, 43712, 43713, 43714,
  43756, 43758, 43766, 43767, 44005, 44006, 44008, 44009, 44013, 44014, 55216, 55239, 55243, 55292,
  64286, 64287, 65024, 65040, 65056, 65072, 65279, 65280, 65440, 65441, 65520, 65529, 66045, 66046,
  66272, 66273, 66422, 66427, 68097, 68100, 68101, 68103, 68108, 68112, 68152, 68155, 68159, 68160,
  68325, 68327, 68900, 68904, 68969, 68974, 69291, 69293, 69370, 69376, 69446, 69457, 69506, 69510,
  69633, 69634, 69688, 69703, 69744, 69745, 69747, 69749, 69759, 69762, 69811, 69815, 69817, 69819,
  69826, 69827, 69888, 69891, 69927, 69932, 69933, 69941, 70003, 70004, 70016, 70018, 70070, 70079,
  70080, 70081, 70082, 70084, 70089, 70093, 70095, 70096, 70191, 70194, 70196, 70200, 70206, 70207,
  70209, 70210, 70367, 70368, 70371, 70379, 70400, 70402, 70459, 70461, 70462, 70463, 70464, 70465,
  70477, 70478, 70487, 70488, 70502, 70509, 70512, 70517, 70584, 70585, 70587, 70593, 70594, 70595,
  70597, 70598, 70599, 70602, 70606, 70611, 70625, 70627, 70712, 70720, 70722, 70725, 70726, 70727,
  70750, 70751, 70832, 70833, 70835, 70841, 70842, 70843, 70845, 70846, 70847, 70849, 70850, 70852,
  71087, 71088, 71090, 71094, 71100, 71102, 71103, 71105, 71132, 71134, 71219, 71227, 71229, 71230,
  71231, 71233, 71339, 71340, 71341, 71342, 71344, 71352, 71453, 71454, 71455, 71456, 71458, 71462,
  71463, 71468, 71727, 71736, 71737, 71739, 71984, 71985, 71995, 72000, 72001, 72002, 72003, 72004,
  72148, 72152, 72154, 72156, 72160, 72161, 72193, 72203, 72243, 72249, 72250, 72255, 72263, 72264,
  72273, 72279, 72281, 72284, 72324, 72343, 72344, 72346, 72544, 72545, 72546, 72549, 72550, 72551,
  72752, 72759, 72760, 72766, 72767, 72768, 72850, 72872, 72874, 72881, 72882, 72884, 72885, 72887,
  73009, 73015, 73018, 73019, 73020, 73022, 73023, 73032, 73104, 73106, 73109, 73110, 73111, 73112,
  73459, 73461, 73472, 73475, 73526, 73531, 73536, 73539, 73562, 73563, 78912, 78913, 78919, 78934,
  90398, 90410, 90413, 90416, 92912, 92917, 92976, 92983, 94031, 94032, 94095, 94099, 94180, 94181,
  94192, 94194, 113821, 113823, 113824, 113828, 118528, 118574, 118576, 118599, 119141, 119146,
  119149, 119171, 119173, 119180, 119210, 119214, 119362, 119365, 121344, 121399, 121403, 121453,
  121461, 121462, 121476, 121477, 121499, 121504, 121505, 121520, 122880, 122887, 122888, 122905,
  122907, 122914, 122915, 122917, 122918, 122923, 123023, 123024, 123184, 123191, 123566, 123567,
  123628, 123632, 124140, 124144, 124398, 124400, 124643, 124644, 124646, 124647, 124654, 124656,
  124661, 124662, 125136, 125143, 125252, 125259, 917504, 921600]

/-- The classes `W` and `F` of the property `East_Asian_Width`. -/
def wideTurns : List Nat := [
  4352, 4448, 8986, 8988, 9001, 9003, 9193, 9197, 9200, 9201, 9203, 9204, 9725, 9727, 9748, 9750,
  9776, 9784, 9800, 9812, 9855, 9856, 9866, 9872, 9875, 9876, 9889, 9890, 9898, 9900, 9917, 9919,
  9924, 9926, 9934, 9935, 9940, 9941, 9962, 9963, 9970, 9972, 9973, 9974, 9978, 9979, 9981, 9982,
  9989, 9990, 9994, 9996, 10024, 10025, 10060, 10061, 10062, 10063, 10067, 10070, 10071, 10072,
  10133, 10136, 10160, 10161, 10175, 10176, 11035, 11037, 11088, 11089, 11093, 11094, 11904, 11930,
  11931, 12020, 12032, 12246, 12272, 12330, 12336, 12351, 12353, 12439, 12443, 12544, 12549, 12592,
  12593, 12644, 12645, 12687, 12688, 12774, 12783, 12831, 12832, 12872, 12880, 42125, 42128, 42183,
  43360, 43389, 44032, 55204, 63744, 64256, 65040, 65050, 65072, 65107, 65108, 65127, 65128, 65132,
  65281, 65377, 65504, 65511, 94176, 94180, 94194, 94199, 94208, 101590, 101631, 101663, 101760,
  101875, 110576, 110580, 110581, 110588, 110589, 110591, 110592, 110883, 110898, 110899, 110928,
  110931, 110933, 110934, 110948, 110952, 110960, 111356, 119552, 119639, 119648, 119671, 126980,
  126981, 127183, 127184, 127374, 127375, 127377, 127387, 127488, 127491, 127504, 127548, 127552,
  127561, 127568, 127570, 127584, 127590, 127744, 127777, 127789, 127798, 127799, 127869, 127870,
  127892, 127904, 127947, 127951, 127956, 127968, 127985, 127988, 127989, 127992, 128063, 128064,
  128065, 128066, 128253, 128255, 128318, 128331, 128335, 128336, 128360, 128378, 128379, 128405,
  128407, 128420, 128421, 128507, 128592, 128640, 128710, 128716, 128717, 128720, 128723, 128725,
  128729, 128732, 128736, 128747, 128749, 128756, 128765, 128992, 129004, 129008, 129009, 129292,
  129339, 129340, 129350, 129351, 129536, 129648, 129661, 129664, 129675, 129678, 129735, 129736,
  129737, 129741, 129757, 129759, 129771, 129775, 129785, 131072, 196606, 196608, 262142]

/-- The characters that have a form as a picture and one as text. -/
def formTurns : List Nat := [
  35, 36, 42, 43, 48, 58, 169, 170, 174, 175, 8252, 8253, 8265, 8266, 8482, 8483, 8505, 8506, 8596,
  8602, 8617, 8619, 8986, 8988, 9000, 9001, 9167, 9168, 9193, 9195, 9197, 9200, 9201, 9204, 9208,
  9211, 9410, 9411, 9642, 9644, 9654, 9655, 9664, 9665, 9723, 9727, 9728, 9733, 9742, 9743, 9745,
  9746, 9748, 9750, 9752, 9753, 9757, 9758, 9760, 9761, 9762, 9764, 9766, 9767, 9770, 9771, 9774,
  9776, 9784, 9787, 9792, 9793, 9794, 9795, 9800, 9812, 9823, 9825, 9827, 9828, 9829, 9831, 9832,
  9833, 9851, 9852, 9854, 9856, 9874, 9880, 9881, 9882, 9883, 9885, 9888, 9890, 9895, 9896, 9898,
  9900, 9904, 9906, 9917, 9919, 9924, 9926, 9928, 9929, 9935, 9936, 9937, 9938, 9939, 9941, 9961,
  9963, 9968, 9974, 9975, 9979, 9981, 9982, 9986, 9987, 9992, 9994, 9996, 9998, 9999, 10000, 10002,
  10003, 10004, 10005, 10006, 10007, 10013, 10014, 10017, 10018, 10035, 10037, 10052, 10053, 10055,
  10056, 10067, 10068, 10071, 10072, 10083, 10085, 10145, 10146, 10548, 10550, 11013, 11016, 11035,
  11037, 11088, 11089, 11093, 11094, 12336, 12337, 12349, 12350, 12951, 12952, 12953, 12954, 126980,
  126981, 127344, 127346, 127358, 127360, 127490, 127491, 127514, 127515, 127535, 127536, 127543,
  127544, 127757, 127760, 127765, 127766, 127772, 127773, 127777, 127778, 127780, 127789, 127798,
  127799, 127864, 127865, 127869, 127870, 127891, 127892, 127894, 127896, 127897, 127900, 127902,
  127904, 127911, 127912, 127916, 127919, 127938, 127939, 127940, 127941, 127942, 127943, 127946,
  127951, 127956, 127969, 127981, 127982, 127987, 127988, 127989, 127990, 127991, 127992, 128008,
  128009, 128021, 128022, 128031, 128032, 128038, 128039, 128063, 128064, 128065, 128067, 128070,
  128074, 128077, 128079, 128083, 128084, 128106, 128107, 128125, 128126, 128163, 128164, 128176,
  128177, 128179, 128180, 128187, 128188, 128191, 128192, 128203, 128204, 128218, 128219, 128223,
  128224, 128228, 128231, 128234, 128238, 128247, 128248, 128249, 128252, 128253, 128254, 128264,
  128265, 128269, 128270, 128274, 128276, 128329, 128331, 128336, 128360, 128367, 128369, 128371,
  128378, 128391, 128392, 128394, 128398, 128400, 128401, 128421, 128422, 128424, 128425, 128433,
  128435, 128444, 128445, 128450, 128453, 128465, 128468, 128476, 128479, 128481, 128482, 128483,
  128484, 128488, 128489, 128495, 128496, 128499, 128500, 128506, 128507, 128528, 128529, 128647,
  128648, 128653, 128654, 128657, 128658, 128660, 128661, 128664, 128665, 128685, 128686, 128690,
  128691, 128697, 128699, 128700, 128701, 128715, 128716, 128717, 128720, 128736, 128742, 128745,
  128746, 128752, 128753, 128755, 128756]

/-- The property `Emoji_Modifier_Base`. -/
def modifierBaseTurns : List Nat := [
  9757, 9758, 9977, 9978, 9994, 9998, 127877, 127878, 127938, 127941, 127943, 127944, 127946,
  127949, 128066, 128068, 128070, 128081, 128102, 128121, 128124, 128125, 128129, 128132, 128133,
  128136, 128143, 128144, 128145, 128146, 128170, 128171, 128372, 128374, 128378, 128379, 128400,
  128401, 128405, 128407, 128581, 128584, 128587, 128592, 128675, 128676, 128692, 128695, 128704,
  128705, 128716, 128717, 129292, 129293, 129295, 129296, 129304, 129312, 129318, 129319, 129328,
  129338, 129340, 129343, 129399, 129400, 129461, 129463, 129464, 129466, 129467, 129468, 129485,
  129488, 129489, 129502, 129731, 129734, 129776, 129785]

/-- The columns of one character. -/
def charColumns (c : Char) : Nat :=
  if c.toNat < 0x7F then 1
  -- a sign that stands for three letters, and a letter that is written as two
  else if c.toNat = 0x17D8 then 3
  else if c.toNat = 0x17A4 then 2
  else if inRuns flatTurns c.toNat then 0
  else if inRuns wideTurns c.toNat then 2
  else 1

/-! ## Letters that join -/

/-- Letters and signs that those before them may join. -/
inductive Letter
  | alef
  | lamed
  | ya
  /-- A vowel sign before a joined `ya`. -/
  | yaVowel
  | orkhon
  /-- A letter that can be written below another one. -/
  | subscript
  | lowTone
  | vowelE
  | vowelAi
  | tifinagh
  /-- The sign that joins two letters. -/
  | tifinaghJoiner
  deriving Repr, DecidableEq

namespace Letter

def alefTurns : List Nat := [
  0x622, 0x624, 0x625, 0x626, 0x627, 0x628, 0x671, 0x674, 0x675, 0x676, 0x773, 0x775, 0x870, 0x883]

def lamTurns : List Nat := [0x644, 0x645, 0x6B5, 0x6B9, 0x76A, 0x76B, 0x8A6, 0x8A7, 0x8C7, 0x8C8]

def subscriptTurns : List Nat := [
  0x1780, 0x1783, 0x1784, 0x1788, 0x1789, 0x178D, 0x178E, 0x1794, 0x1795, 0x1799, 0x179B, 0x179E,
  0x17A0, 0x17A1, 0x17A2, 0x17A3, 0x17A7, 0x17A8, 0x17AB, 0x17AD, 0x17AF, 0x17B0]

def tifinaghTurns : List Nat := [0x2D31, 0x2D66, 0x2D6F, 0x2D70]

/-- Selectors and other marks that do not keep letters from joining. -/
def markTurns : List Nat := [
  0x34F, 0x350, 0x17B4, 0x17B6, 0x180B, 0x180E, 0x180F, 0x1810, 0xFE00, 0xFE10, 0xE0100, 0xE01F0]

/-- Flat characters that are no marks on a letter. -/
def unmarkingTurns : List Nat := [
  0x605, 0x606, 0x890, 0x892, 0x8E2, 0x8E3, 0x1160, 0x1200, 0x180E, 0x180F, 0x200C, 0x200E, 0x2066,
  0x206A, 0x3164, 0x3165, 0xD7B0, 0xD800, 0xFFA0, 0xFFA1]

/-- The letter that a character is. -/
def ofChar? (c : Char) : Option Letter :=
  let n := c.toNat
  if n < 0x5D0 then none
  else if inRuns alefTurns n then some alef
  else if inRuns subscriptTurns n then some subscript
  else if inRuns tifinaghTurns n then some tifinagh
  else match n with
    | 0x5DC => some lamed
    | 0x1A10 => some ya
    | 0xA4FC | 0xA4FD => some lowTone
    | 0x10C03 => some orkhon
    | 0x16D67 => some vowelE
    | 0x16D68 => some vowelAi
    | _ => none

/-- What a character adds that joins the letter, and the letter that the whole is for those before
it. A joiner may stand between them. -/
def join? (l : Letter) (joined : Bool) (c : Char) : Option (Int × Option Letter) :=
  let n := c.toNat
  match l with
  | alef => if inRuns lamTurns n then some (0, none) else none
  | lamed => if joined && n == 0x5D0 then some (0, none) else none
  | orkhon => if joined && n == 0x10C32 then some (0, none) else none
  | ya => if joined && n == 0x1A17 then some (0, some yaVowel) else none
  | yaVowel => if n == 0x1A15 then some (0, none) else none
  -- the letter has been counted
  | subscript => if n == 0x17D2 then some (-1, none) else none
  | lowTone => if 0xA4F8 ≤ n && n ≤ 0xA4FB then some (0, none) else none
  | vowelE => match n with
    | 0x16D63 | 0x16D69 => some (0, none)
    | 0x16D67 => some (0, some vowelAi)
    | 0x16D68 => some (1, some vowelE)
    | _ => none
  | vowelAi => if n == 0x16D63 then some (0, none) else none
  | tifinagh =>
    if n == 0x2D7F then some (1, some tifinaghJoiner)
    else if joined && inRuns tifinaghTurns n then some (0, none)
    else none
  | tifinaghJoiner => if inRuns tifinaghTurns n then some (-1, none) else none

end Letter

/-! ## Texts -/

/-- Skin tones. -/
def isModifier (c : Char) : Bool := 0x1F3FB ≤ c.toNat && c.toNat ≤ 0x1F3FF

/-- The enclosed characters that are pictures. -/
def enclosedTurns : List Nat := [
  0x1F004, 0x1F005, 0x1F0CF, 0x1F0D0, 0x1F18E, 0x1F18F, 0x1F191, 0x1F19B, 0x1F201, 0x1F202, 0x1F21A,
  0x1F21B, 0x1F22F, 0x1F230, 0x1F232, 0x1F237, 0x1F238, 0x1F23B, 0x1F250, 0x1F252]

/-- A picture even without a selector. -/
def isPicture (c : Char) : Bool :=
  let n := c.toNat
  inRuns enclosedTurns n || inRuns wideTurns n &&
    (0x231A ≤ n && n < 0x2E80 && n != 0x2329 && n != 0x232A && !(0x2630 ≤ n && n ≤ 0x2637) &&
      !(0x268A ≤ n && n ≤ 0x268F) || 0x1F300 ≤ n && n < 0x20000)

/-- The form as text is narrow, though the character is a picture. That of an enclosed ideograph is
wide. -/
def isNarrowAsText (c : Char) : Bool :=
  inRuns formTurns c.toNat && isPicture c && !(0x1F200 ≤ c.toNat && c.toNat ≤ 0x1F2FF)

/-- What begins after a character. -/
inductive Follower
  | other
  | lineFeed
  /-- A selector for the form as a picture, which may itself be joined to one. -/
  | asPicture (joined : Bool)
  | asText
  | modifier
  | picture
  /-- A joiner before a picture. -/
  | joiner
  /-- A letter, with a joiner before it or not. -/
  | letter (l : Letter) (joined : Bool)
  deriving Repr, DecidableEq

/-- The follower that a character makes on its own. -/
def Follower.of (c : Char) : Follower :=
  match c.toNat with
  | 0x0A => .lineFeed
  | 0xFE0F => .asPicture false
  | 0xFE0E => .asText
  | _ =>
    if isModifier c then .modifier
    else if isPicture c then .picture
    else match Letter.ofChar? c with
      | some l => .letter l false
      | none => .other

/-- What a character adds to the columns of what follows it, if they hang together. -/
def Follower.take? (next : Follower) (c : Char) : Option (Int × Follower) :=
  match next with
  | .other => none
  | .lineFeed => if c = '\r' then some (0, .other) else none
  | .asPicture joined =>
    if inRuns formTurns c.toNat then some (if joined then 0 else 2, .picture) else none
  | .asText => if isNarrowAsText c then some (1, .other) else none
  | .modifier =>
    if inRuns modifierBaseTurns c.toNat then some (0, .picture)
    else if c = '\u200D' then some (0, .joiner)
    else none
  | .picture => if c = '\u200D' then some (0, .joiner) else none
  | .joiner =>
    if c.toNat = 0xFE0F then some (0, .asPicture true)
    else if isModifier c then some (0, .modifier)
    else if isPicture c then some (0, .picture)
    else none
  | .letter l joined =>
    match l.join? joined c with
    | some (n, some l) => some (n, .letter l false)
    | some (n, none) => some (n, .other)
    | none =>
      if l = .alef then
        if charColumns c = 0 && !inRuns Letter.unmarkingTurns c.toNat then some (0, next) else none
      else if c = '\u200D' then some (0, .letter l true)
      else if inRuns Letter.markTurns c.toNat then some (0, next)
      else none

/-- The columns of a text, and what it begins with. -/
def measure : List Char → Int × Follower
  | [] => (0, .other)
  | c :: rest =>
    let (n, next) := measure rest
    let (m, start) := (next.take? c).getD (charColumns c, .of c)
    (m + n, start)

/-- The columns of a text. -/
def columns (cs : List Char) : Nat := (measure cs).1.toNat

end Refetch.Text
