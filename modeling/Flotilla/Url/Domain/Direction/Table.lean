/-!
# Direction Tables

The characters of domain names that are not written from left to right. The rules that read the
tables are in `Flotilla.Url.Domain.Direction`.
-/

namespace Flotilla.Url.Domain

/-- Ranges of the characters that are written from right to left. -/
def rightRanges : List (Nat × Nat) := [
  (1470, 1470), (1472, 1472), (1475, 1475), (1478, 1478), (1488, 1514), (1519, 1524),
  (1544, 1544), (1547, 1547), (1549, 1549), (1563, 1563), (1565, 1610), (1645, 1647),
  (1649, 1652), (1657, 1749), (1765, 1766), (1774, 1775), (1786, 1805), (1808, 1808),
  (1810, 1839), (1869, 1957), (1969, 1969), (1984, 2026), (2036, 2037), (2042, 2042),
  (2046, 2069), (2074, 2074), (2084, 2084), (2088, 2088), (2096, 2110), (2112, 2136),
  (2142, 2142), (2144, 2154), (2160, 2191), (2208, 2249), (64434, 64450), (65139, 65139),
  (67584, 67589), (67592, 67592), (67594, 67637), (67639, 67640), (67644, 67644), (67647, 67669),
  (67671, 67742), (67751, 67759), (67808, 67826), (67828, 67829), (67835, 67867), (67872, 67897),
  (67903, 67929), (67968, 68023), (68028, 68047), (68050, 68096), (68112, 68115), (68117, 68119),
  (68121, 68149), (68160, 68168), (68176, 68184), (68192, 68255), (68288, 68324), (68331, 68342),
  (68352, 68405), (68416, 68437), (68440, 68466), (68472, 68497), (68505, 68508), (68521, 68527),
  (68608, 68680), (68800, 68850), (68858, 68899), (68928, 68943), (68974, 68997), (69248, 69289),
  (69293, 69293), (69296, 69297), (69314, 69319), (69328, 69328), (69376, 69415), (69424, 69445),
  (69457, 69465), (69488, 69505), (69510, 69513), (69552, 69579), (69600, 69622),
  (124928, 125124), (125127, 125135), (125218, 125251), (125259, 125259), (125264, 125273),
  (125278, 125279), (126065, 126132), (126209, 126269)]

/-- Ranges of the digits that stand in Arabic text. -/
def arabicNumberRanges : List (Nat × Nat) := [
  (1632, 1641), (1643, 1644), (68912, 68921), (69216, 69246)]

/-- Ranges of the digits outside ASCII that stand in any text. -/
def europeanNumberRanges : List (Nat × Nat) := [
  (1776, 1785), (66273, 66299)]

/-- Ranges of the characters outside ASCII that follow their neighbours. -/
def neutralRanges : List (Nat × Nat) := [
  (161, 167), (169, 169), (171, 172), (174, 174), (176, 177), (182, 183), (187, 187), (191, 191),
  (215, 215), (247, 247), (697, 698), (706, 719), (722, 727), (734, 735), (741, 749), (751, 767),
  (885, 885), (1014, 1014), (1418, 1418), (1421, 1423), (1542, 1543), (1545, 1546), (1548, 1548),
  (1550, 1551), (1642, 1642), (1758, 1758), (1769, 1769), (2038, 2041), (2546, 2547),
  (2555, 2555), (2801, 2801), (3059, 3066), (3192, 3198), (3647, 3647), (3898, 3901),
  (5008, 5017), (5120, 5120), (5787, 5788), (6107, 6107), (6128, 6137), (6144, 6154),
  (6464, 6464), (6468, 6469), (6622, 6655), (8204, 8205), (8208, 8208), (8210, 8214),
  (8216, 8227), (8231, 8231), (8240, 8242), (8245, 8245), (8248, 8251), (8253, 8253),
  (8255, 8262), (8266, 8278), (8280, 8286), (8352, 8359), (8361, 8385), (8452, 8452),
  (8456, 8456), (8468, 8468), (8471, 8472), (8478, 8479), (8483, 8483), (8485, 8485),
  (8487, 8487), (8489, 8489), (8494, 8494), (8506, 8506), (8513, 8516), (8522, 8525),
  (8586, 8587), (8592, 8747), (8750, 8750), (8753, 9000), (9003, 9013), (9083, 9108),
  (9110, 9257), (9280, 9290), (9451, 9899), (9901, 10239), (10496, 10763), (10765, 10867),
  (10871, 10971), (10973, 11123), (11126, 11263), (11493, 11498), (11513, 11519), (11776, 11869),
  (11904, 11929), (11931, 11934), (11936, 12018), (12289, 12289), (12291, 12292), (12296, 12320),
  (12336, 12336), (12343, 12343), (12349, 12351), (12448, 12448), (12539, 12539), (12736, 12773),
  (19904, 19967), (42128, 42182), (42509, 42511), (42611, 42611), (42622, 42623), (42752, 42785),
  (42888, 42888), (43048, 43051), (43064, 43065), (43124, 43127), (43882, 43883), (64451, 64466),
  (64830, 64847), (64912, 64913), (64968, 64975), (65021, 65023), (65093, 65094), (65793, 65793),
  (65856, 65932), (65936, 65948), (65952, 65952), (67871, 67871), (68409, 68415), (69006, 69007),
  (69329, 69336), (69714, 69733), (71264, 71276), (73685, 73713), (94178, 94178),
  (117760, 117973), (118010, 118012), (118016, 118451), (118458, 118480), (118496, 118512),
  (119273, 119274), (119296, 119361), (119365, 119365), (119552, 119638), (123647, 123647),
  (126704, 126705), (126976, 127019), (127024, 127123), (127136, 127150), (127153, 127167),
  (127169, 127183), (127185, 127221), (127243, 127247), (127279, 127279), (127341, 127343),
  (127405, 127405), (127584, 127589), (127744, 128728), (128732, 128748), (128752, 128764),
  (128768, 128985), (128992, 129003), (129008, 129008), (129024, 129035), (129040, 129095),
  (129104, 129113), (129120, 129159), (129168, 129197), (129200, 129211), (129216, 129217),
  (129232, 129240), (129280, 129623), (129632, 129645), (129648, 129660), (129664, 129674),
  (129678, 129734), (129736, 129736), (129741, 129756), (129759, 129770), (129775, 129784),
  (129792, 129938), (129940, 130031), (130042, 130042)]

/-- Ranges of the marks that take no room, but are written from left to right. -/
def leftMarkRanges : List (Nat × Nat) := [
  (3263, 3263), (3270, 3270), (72199, 72200), (72767, 72767)]

end Flotilla.Url.Domain
